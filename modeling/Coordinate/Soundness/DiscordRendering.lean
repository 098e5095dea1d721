import Coordinate.Model.DiscordRendering

/-! # Which embeds are valid

The loop that drops fields keeps the longest beginning that fits, except that it never drops the first field; and
a value of white space only passes the test for emptiness and is empty once its white space is collapsed.
-/

namespace Coordinate.DiscordRendering

section Texts

theorem pieces_eq_nil {p : Char → Bool} : ∀ cs : List Char,
    (cs.splitOnP p).filter (· ≠ []) = [] ↔ ∀ c ∈ cs, p c = true
  | [] => by simp
  | c :: rest => by
    have others := pieces_eq_nil (p := p) rest
    rw [List.splitOnP_cons_eq_if_modifyHead, List.forall_mem_cons]
    by_cases sep : p c = true
    · rw [if_pos sep, List.filter_cons_of_neg (by simp), others]
      exact (and_iff_right sep).symm
    · rw [if_neg sep]
      obtain ⟨head, tail, pieces⟩ := List.exists_cons_of_ne_nil (List.splitOnP_ne_nil p rest)
      rw [pieces, List.modifyHead_cons, List.filter_cons_of_pos (by simp)]
      exact iff_of_false (by simp) fun all => sep all.1

theorem collapseSpaces_eq_empty {text : String} :
    Text.collapseSpaces text = "" ↔ ∀ c ∈ text.toList, Text.isSpace c = true := by
  rw [← pieces_eq_nil, Text.collapseSpaces]
  have solid : ∀ piece ∈ (text.toList.splitOnP Text.isSpace).filter (· ≠ []), piece ≠ [] := by
    intro piece member
    simpa using (List.mem_filter.mp member).2
  generalize (text.toList.splitOnP Text.isSpace).filter (· ≠ []) = pieces at solid
  match pieces with
  | [] => exact iff_of_true rfl rfl
  | [piece] => simpa [Text.join] using solid piece
  | piece :: next :: rest => simp [Text.join, String.append_eq_empty_iff]

theorem truncate_length (text : String) {limit : Nat} (enough : 3 ≤ limit) :
    (truncate text limit).length ≤ limit := by
  unfold truncate
  dsimp only
  split
  · assumption
  · simp only [String.length_append, Text.takePrefix, String.length_ofList, List.length_take]
    have dots : "...".length = 3 := rfl
    omega

theorem truncate_eq_empty {text : String} {limit : Nat} :
    truncate text limit = "" ↔ ∀ c ∈ text.toList, Text.isSpace c = true := by
  rw [← collapseSpaces_eq_empty]
  unfold truncate
  dsimp only
  split
  · rfl
  · rename_i long
    refine iff_of_false (by simp [String.append_eq_empty_iff]) fun empty => long ?_
    rw [empty]
    exact Nat.zero_le _

end Texts

section Fields

/-- The fields that the template of an event fills. -/
structure FromTemplate (field : Field) : Prop where
  named : field.name ≠ ""
  nameFits : field.name.length ≤ MAX_FIELD_NAME
  valueFits : field.value.length ≤ MAX_FIELD_VALUE

theorem label_named (name : FieldName) : truncate name.label MAX_FIELD_NAME ≠ "" := by
  have solid : (name.label.toList.all Text.isSpace) = false := by
    cases name <;> decide +kernel
  rw [Ne, truncate_eq_empty]
  intro blank
  rw [List.all_eq_true.mpr blank] at solid
  cases solid

theorem field_eq_some {candidate : Candidate} {filled : Field} (made : field candidate = some filled) :
    filled.name = truncate candidate.name.label MAX_FIELD_NAME ∧
      filled.value = truncate (displayValue candidate.name candidate.value) MAX_FIELD_VALUE := by
  unfold field at made
  split at made
  · cases made
  · simp only [Option.some.injEq] at made
    simp only [← made, and_self]

theorem field_fromTemplate {candidate : Candidate} {filled : Field} (made : field candidate = some filled) :
    FromTemplate filled := by
  obtain ⟨name, value⟩ := field_eq_some made
  refine ⟨?_, ?_, ?_⟩
  · rw [name]
    exact label_named _
  · rw [name]
    exact truncate_length _ (by decide)
  · rw [value]
    exact truncate_length _ (by decide)

theorem buildFields_fromTemplate {eventType : String} {event : EventRow} {payload : Json} {fields : List Field}
    (built : buildFields eventType event payload = some fields) : ∀ field ∈ fields, FromTemplate field := by
  obtain ⟨candidates, -, rfl⟩ := Option.map_eq_some_iff.mp built
  intro filled member
  obtain ⟨candidate, -, some⟩ := List.mem_filterMap.mp member
  exact field_fromTemplate some

end Fields

section Limits

/-- The embed fits with these fields. -/
def Fits (embed : Embed) (fields : List Field) : Prop :=
  embedTotal { embed with fields } ≤ MAX_TOTAL

theorem fits_iff {embed : Embed} {fields : List Field} : Fits embed fields ↔
    embed.title.length + (embed.footer.map String.length).getD 0 + fieldsTotal fields ≤ MAX_TOTAL :=
  .rfl

theorem fieldsTotal_append (fields more : List Field) :
    fieldsTotal (fields ++ more) = fieldsTotal fields + fieldsTotal more := by
  rw [fieldsTotal, List.map_append, List.sum_append]
  rfl

theorem Fits.mono {embed : Embed} {shorter longer : List Field} (isPrefix : shorter <+: longer)
    (fits : Fits embed longer) : Fits embed shorter := by
  obtain ⟨rest, rfl⟩ := isPrefix
  rw [fits_iff, fieldsTotal_append] at fits
  rw [fits_iff]
  omega

/-- The loop drops fields from the end while the embed does not fit, and never the only one. -/
structure Keeps (embed : Embed) (fields kept : List Field) : Prop where
  isPrefix : kept <+: fields
  first : fields ≠ [] → kept ≠ []
  fits : kept.length ≤ 1 ∨ Fits embed kept
  longest : ∀ next, kept ++ [next] <+: fields → ¬ Fits embed (kept ++ [next])

theorem keeps_dropFields (embed : Embed) : ∀ reversed : List Field,
    Keeps embed reversed.reverse (dropFields embed reversed).reverse
  | [] => ⟨List.prefix_rfl, id, .inl (Nat.zero_le 1), fun next longer => by simp [dropFields] at longer⟩
  | [field] => by
    refine ⟨List.prefix_rfl, id, .inl (Nat.le_refl 1), fun next longer => ?_⟩
    have := longer.length_le
    simp [dropFields] at this
  | field :: next :: rest => by
    rw [dropFields]
    split
    · rename_i large
      have keeps := keeps_dropFields embed (next :: rest)
      have shorter : (next :: rest).reverse <+: (field :: next :: rest).reverse := by
        rw [List.reverse_cons (a := field)]
        exact List.prefix_append ..
      refine ⟨keeps.isPrefix.trans shorter, fun _ => keeps.first (by simp), keeps.fits, fun other longer => ?_⟩
      rw [List.reverse_cons (a := field)] at longer
      obtain whole | within := List.prefix_concat_iff.mp longer
      · rw [whole, ← List.reverse_cons]
        exact Nat.not_le.mpr large
      · exact keeps.longest other within
    · rename_i small
      refine ⟨List.prefix_rfl, id, .inr (Nat.not_lt.mp small), fun other longer => ?_⟩
      have := longer.length_le
      simp at this

def hasText (field : Field) : Bool :=
  field.value ≠ ""

theorem hasText_iff {field : Field} : hasText field = true ↔ field.value ≠ "" :=
  decide_eq_true_iff

/-- What the module promises of an embed whose template fills some fields. -/
structure Valid (filled : List Field) (embed : Embed) : Prop where
  names : ∀ field ∈ embed.fields, field.name ≠ "" ∧ field.name.length ≤ MAX_FIELD_NAME
  values : ∀ field ∈ embed.fields, field.value ≠ "" ∧ field.value.length ≤ MAX_FIELD_VALUE
  total : embedTotal embed ≤ MAX_TOTAL
  isPrefix : embed.fields <+: filled.filter hasText
  longest : ∀ fields, fields <+: filled.filter hasText → Fits embed fields →
    fields.length ≤ embed.fields.length

/-- The first field fits, and a field of white space only stands where no field fits any more: neither it, nor the
next one with a text in its place. -/
structure WithinLimits (embed : Embed) : Prop where
  first : Fits embed (embed.fields.take 1)
  blanks : ∀ before blank after, embed.fields = before ++ blank :: after → blank.value = "" →
    ¬ Fits embed (before ++ [blank]) ∧
      ∀ next, after.find? hasText = some next → ¬ Fits embed (before ++ [next])

variable {embed : Embed} {kept : List Field}

theorem filter_hasText {fields : List Field} (solid : ∀ field ∈ fields, field.value ≠ "") :
    fields.filter hasText = fields :=
  List.filter_eq_self.mpr fun field member => hasText_iff.mpr (solid field member)

/-- What the first field and the kept ones have in common: without a first field nothing is kept. -/
theorem firstField_kept (keeps : Keeps embed embed.fields kept) : embed.fields.take 1 <+: kept := by
  cases filled : embed.fields with
  | nil => exact List.nil_prefix
  | cons field rest =>
    cases some : kept with
    | nil => exact absurd some (keeps.first (by rw [filled]; exact List.cons_ne_nil _ _))
    | cons head tail =>
      have whole := keeps.isPrefix
      rw [filled, some] at whole
      rw [(List.cons_prefix_cons.mp whole).1]
      exact ⟨tail, rfl⟩

/-- What follows the kept fields does not fit after them. -/
theorem rest_not_fits (keeps : Keeps embed embed.fields kept) {next : Field} {rest : List Field}
    (fields : embed.fields = kept ++ next :: rest) : ¬ Fits embed (kept ++ [next]) := by
  refine keeps.longest next ⟨rest, ?_⟩
  rw [fields, List.append_assoc]
  rfl

/-- A valid embed comes of a draft that is within the limits. -/
theorem withinLimits_of_valid (keeps : Keeps embed embed.fields kept)
    (valid : Valid embed.fields { embed with fields := kept }) : WithinLimits embed := by
  refine ⟨Fits.mono (firstField_kept keeps) valid.total, fun before blank after fields empty => ?_⟩
  -- the kept fields have texts, so they stand before the blank one
  have within : kept <+: before := by
    obtain ⟨rest, split⟩ := keeps.isPrefix
    rw [fields] at split
    obtain ⟨middle, longer, -⟩ | ⟨middle, shorter, follow⟩ := List.append_eq_append_iff.mp split
    · exact ⟨middle, longer.symm⟩
    · cases middle with
      | nil => exact ⟨[], by simpa using shorter⟩
      | cons head tail =>
        obtain ⟨rfl, -⟩ := List.cons.inj follow
        exact absurd empty (valid.values blank (by rw [shorter]; simp)).1
  obtain ⟨middle, rfl⟩ := within
  cases middle with
  | cons head tail =>
    have exceeds : ¬ Fits embed (kept ++ [head]) :=
      @rest_not_fits embed kept keeps head (tail ++ blank :: after) (by rw [fields]; simp)
    have large : ∀ field, ¬ Fits embed (kept ++ head :: tail ++ [field]) := by
      intro field fits
      exact exceeds (fits.mono ⟨tail ++ [field], by simp⟩)
    exact ⟨large blank, fun next _ => large next⟩
  | nil =>
    rw [List.append_nil] at fields ⊢
    refine ⟨rest_not_fits keeps fields, fun next found fits => ?_⟩
    obtain ⟨some, skipped, others, follow, blanks⟩ := List.find?_eq_some_iff_append.mp found
    have solid : kept.filter hasText = kept := filter_hasText fun field member => (valid.values field member).1
    have skip : skipped.filter hasText = [] :=
      List.filter_eq_nil_iff.mpr fun field member => by simpa using blanks field member
    have longer : kept ++ [next] <+: embed.fields.filter hasText := by
      refine ⟨others.filter hasText, ?_⟩
      rw [fields, List.filter_append, solid, List.filter_cons_of_neg (by simpa [hasText] using empty), follow,
        List.filter_append, skip, List.filter_cons_of_pos some]
      simp
    have bound := valid.longest _ longer fits
    simp only [List.length_append, List.length_singleton] at bound
    omega

/-- A draft that is within the limits makes a valid embed. -/
theorem valid_of_withinLimits (keeps : Keeps embed embed.fields kept)
    (template : ∀ field ∈ embed.fields, FromTemplate field) (within : WithinLimits embed) :
    Valid embed.fields { embed with fields := kept } := by
  have fits : Fits embed kept := by
    obtain short | fits := keeps.fits
    · refine within.first.mono ?_
      obtain ⟨rest, split⟩ := keeps.isPrefix
      refine ⟨(rest.take (1 - kept.length)), ?_⟩
      rw [← split, List.take_append, List.take_of_length_le short]
    · exact fits
  obtain ⟨rest, split⟩ := keeps.isPrefix
  have solid : ∀ field ∈ kept, field.value ≠ "" := by
    intro field member empty
    obtain ⟨before, after, located⟩ := List.append_of_mem member
    refine (within.blanks before field (after ++ rest) (by rw [← split, located]; simp) empty).1 (fits.mono ?_)
    exact ⟨after, by rw [located]; simp⟩
  have texts := filter_hasText solid
  have filled : ∀ field ∈ kept, FromTemplate field := fun field member => template field (keeps.isPrefix.mem member)
  refine ⟨fun field member => ⟨(filled field member).named, (filled field member).nameFits⟩,
    fun field member => ⟨solid field member, (filled field member).valueFits⟩, fits, ?_, ?_⟩
  · rw [← split, List.filter_append, texts]
    exact List.prefix_append ..
  · intro fields isPrefix fitting
    by_contra longer
    rw [← split, List.filter_append, texts] at isPrefix
    cases follow : rest.filter hasText with
    | nil =>
      rw [follow, List.append_nil] at isPrefix
      exact longer isPrefix.length_le
    | cons next others =>
      -- one more field would fit, so it stands behind a blank one that does not
      have more : Fits embed (kept ++ [next]) := by
        refine fitting.mono (List.prefix_of_prefix_length_le ⟨others, ?_⟩ isPrefix ?_)
        · rw [follow, List.append_assoc]
          rfl
        · rw [List.length_append, List.length_singleton]
          exact Nat.not_le.mp longer
      obtain ⟨skipped, tail, located, blanks, some, -⟩ := List.filter_eq_cons_iff.mp follow
      cases skipped with
      | nil => exact rest_not_fits keeps (by rw [← split, located]; rfl) more
      | cons blank skipped =>
        have empty : blank.value = "" := by
          by_contra solid
          exact blanks blank List.mem_cons_self (hasText_iff.mpr solid)
        refine (within.blanks kept blank (skipped ++ next :: tail) (by rw [← split, located]; rfl) empty).2 next
          ?_ more
        refine List.find?_eq_some_iff_append.mpr ⟨some, skipped, tail, rfl, fun field member => ?_⟩
        simpa using blanks field (List.mem_cons_of_mem _ member)

end Limits

/-- **Every embed of an event is valid exactly if its draft is within the limits.** -/
theorem renderEmbed_valid_iff (eventType : String) (event : EventRow) (payload : Json) :
    (∀ embed, renderEmbed eventType event payload = some embed →
        ∀ fields, buildFields eventType event payload = some fields → Valid fields embed) ↔
      ∀ draft, draftEmbed eventType event payload = some draft → WithinLimits draft := by
  have built : ∀ draft, draftEmbed eventType event payload = some draft →
      buildFields eventType event payload = some draft.fields := by
    intro draft drafted
    simp only [draftEmbed, Option.bind_eq_bind, Option.bind_eq_some_iff] at drafted
    obtain ⟨styling, -, fields, made, same⟩ := drafted
    cases same
    exact made
  have keeps : ∀ draft : Embed, Keeps draft draft.fields (dropFields draft draft.fields.reverse).reverse := by
    intro draft
    have reversed := keeps_dropFields draft draft.fields.reverse
    rwa [List.reverse_reverse] at reversed
  constructor
  · intro valid draft drafted
    exact withinLimits_of_valid (keeps draft)
      (valid _ (by rw [renderEmbed, drafted]; rfl) draft.fields (built draft drafted))
  · intro within embed rendered fields made
    obtain ⟨draft, drafted, rfl⟩ := Option.map_eq_some_iff.mp rendered
    obtain rfl := Option.some.inj ((built draft drafted).symm.trans made)
    exact valid_of_withinLimits (keeps draft) (buildFields_fromTemplate made) (within draft drafted)

namespace Sample

/-- A blocker that was raised with a reason of white space only. -/
def blocked : EventRow :=
  { id := "e", workspaceId := some "w", eventType := "blocker.raised", actor := "a", target := none
    taskId := some "T1", idempotencyKey := "k", createdAt := 0
    payloadJson := .value (.obj [("reason", .str " ")]) }

/-- Its embed has a field without a value. -/
theorem blank_reason_kept :
    ∃ embed, renderEmbed "blocker.raised" blocked (.obj [("reason", .str " ")]) = some embed ∧
      embed.fields.map Field.value = ["T1", "a", ""] ∧ ∃ field ∈ embed.fields, field.value = "" := by
  have values : (renderEmbed "blocker.raised" blocked (.obj [("reason", .str " ")])).map
      (fun embed => embed.fields.map Field.value) = some ["T1", "a", ""] := by decide +kernel
  obtain ⟨embed, rendered, values⟩ := Option.map_eq_some_iff.mp values
  have empty : "" ∈ embed.fields.map Field.value := by
    rw [values]
    decide
  obtain ⟨field, member, same⟩ := List.mem_map.mp empty
  exact ⟨embed, rendered, values, field, member, same⟩

end Sample

end Coordinate.DiscordRendering
