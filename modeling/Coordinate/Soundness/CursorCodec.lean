import Coordinate.Model.CursorCodec

/-! # The round trip of channel cursors

A cursor is read back in its own scope and refused in any other one, as long as its text is not too long. No text
is read in a scope that it does not carry.
-/

namespace Coordinate.CursorCodec

open JsonReader DiscordHistory ChannelMessages

section Texts

theorem length_escape_eq (c : Char) : (escape c).length = escapedLength c := by
  have symbol : ∀ d : Char, c = d ↔ c.toNat = d.toNat := fun d => Char.toNat_inj.symm
  have codes : '"'.toNat = 34 ∧ '\\'.toNat = 92 ∧ '\n'.toNat = 10 ∧ '\r'.toNat = 13 ∧ '\t'.toNat = 9 := by
    decide
  unfold escape escapedLength
  simp only [symbol, codes]
  by_cases quote : c.toNat = 34
  · simp [quote]
  by_cases slash : c.toNat = 92
  · simp [slash]
  simp only [quote, slash, or_self, if_false]
  by_cases plain : 32 ≤ c.toNat ∧ c.toNat < 127
  · simp [plain]
  simp only [plain, if_false]
  by_cases short : c.toNat = 10 ∨ c.toNat = 13 ∨ c.toNat = 9 ∨ c.toNat = 8 ∨ c.toNat = 12
  · rw [if_pos short]
    rcases short with same | same | same | same | same <;> simp [same]
  · rw [if_neg short]
    simp only [not_or] at short
    obtain ⟨feed, ret, tab, back, form⟩ := short
    simp only [feed, ret, tab, back, form, if_false]
    split
    · rfl
    · rfl

theorem length_quote (text : String) : (quote text).length = dumpedLength text := by
  have escaped : ∀ cs : List Char, (cs.flatMap escape).length = (cs.map escapedLength).sum := by
    intro cs
    rw [List.length_flatMap]
    exact congrArg List.sum (List.map_congr_left fun c _ => length_escape_eq c)
  simp only [quote, dumpedLength, List.length_cons, List.length_append, List.length_nil, escaped]
  omega

/-- The number of bytes of a cursor. -/
theorem length_cursor (scope : Scope) (last : String) : (dumps (cursorFields scope last)).length =
    77 + dumpedLength scope.workspaceId + dumpedLength scope.channelId + dumpedLength last := by
  have names : (quote "v").length = 3 ∧ (quote "platform").length = 10 ∧ (quote "workspace_id").length = 14 ∧
      (quote "channel_id").length = 12 ∧ (quote "last_message_id").length = 17 ∧
      (quote "discord").length = 9 ∧ (codes (toString 1)).length = 1 := by
    decide
  obtain ⟨v, platform, workspace, channel, lastId, discord, one⟩ := names
  simp only [dumps, cursorFields, dumpsFields, Scalar.dumps, List.length_cons, List.length_append,
    List.length_nil, length_quote] at *
  omega

/-- The bytes of a cursor are ASCII. -/
theorem plain_escape (c : Char) : Encodings.Plain (escape c) := by
  have digits : ∀ n < 16, 0 < hexDigit n ∧ hexDigit n < 128 := by decide
  have unit : ∀ n < 0x10000, Encodings.Plain (unitEscape n) := by
    intro n bound
    simp only [Encodings.Plain, unitEscape, List.forall_mem_cons]
    exact ⟨by decide, by decide, digits _ (by omega), digits _ (by omega), digits _ (by omega),
      digits _ (by omega), List.forall_mem_nil _⟩
  have valid := toNat_valid c
  unfold escape
  simp only
  split_ifs with quote slash plain feed ret tab back form basic
  · simp [Encodings.Plain]
  · simp [Encodings.Plain]
  · intro byte member
    rw [List.mem_singleton.mp member]
    omega
  · simp [Encodings.Plain]
  · simp [Encodings.Plain]
  · simp [Encodings.Plain]
  · simp [Encodings.Plain]
  · simp [Encodings.Plain]
  · exact unit _ basic
  · exact List.forall_mem_append.mpr ⟨unit _ (by omega), unit _ (by omega)⟩

theorem plain_quote (text : String) : Encodings.Plain (quote text) := by
  refine List.forall_mem_cons.mpr ⟨by decide, List.forall_mem_append.mpr ⟨?_, by decide⟩⟩
  intro byte member
  obtain ⟨c, -, escaped⟩ := List.mem_flatMap.mp member
  exact plain_escape c byte escaped

theorem plain_scalar (value : Scalar) : Encodings.Plain value.dumps := by
  cases value with
  | text value => exact plain_quote value
  | nat n =>
    intro byte member
    have digit := Bool.and_eq_true_iff.mp (isDigit_codes n byte member)
    have low : 48 ≤ byte := of_decide_eq_true digit.1
    have high : byte ≤ 57 := of_decide_eq_true digit.2
    omega

theorem plain_fields : ∀ fields : List (String × Scalar), Encodings.Plain (dumpsFields fields)
  | [] => List.forall_mem_nil _
  | [(key, value)] => List.forall_mem_append.mpr ⟨plain_quote key,
      List.forall_mem_cons.mpr ⟨by decide, plain_scalar value⟩⟩
  | (key, value) :: field :: others => List.forall_mem_append.mpr ⟨plain_quote key,
      List.forall_mem_cons.mpr ⟨by decide, List.forall_mem_append.mpr ⟨plain_scalar value,
        List.forall_mem_cons.mpr ⟨by decide, plain_fields (field :: others)⟩⟩⟩⟩

theorem plain_dumps (fields : List (String × Scalar)) : Encodings.Plain (dumps fields) :=
  List.forall_mem_cons.mpr ⟨by decide, List.forall_mem_append.mpr ⟨plain_fields fields, by decide⟩⟩

end Texts

section Codec

/-- The text of a cursor is short enough to be accepted again. -/
def Fits (scope : Scope) (last : String) : Prop :=
  77 + dumpedLength scope.workspaceId + dumpedLength scope.channelId + dumpedLength last ≤ 3072

instance (scope : Scope) (last : String) : Decidable (Fits scope last) :=
  inferInstanceAs (Decidable (_ ≤ _))

theorem fits_ofRequest {input : Input} {operation : Operation} {request : Request}
    (accepted : checkInput input operation = .ok request) (last : String) :
    Fits (Scope.ofRequest accepted) last ↔
      77 + dumpedLength input.workspaceId + dumpedLength input.channelId + dumpedLength last ≤ 3072 :=
  Iff.rfl

theorem length_encodeText (scope : Scope) (last : String) :
    (encodeText scope last).toList.length ≤ 4096 ↔ Fits scope last := by
  rw [encodeText, String.toList_ofList, Base64.length_encode, length_cursor, Fits]
  omega

/-- The bytes of a cursor that fits are found again. -/
theorem cursorBytes_encodeText {scope : Scope} {last : String} (fits : Fits scope last) :
    cursorBytes (encodeText scope last) = some (dumps (cursorFields scope last)) := by
  have bounded : ∀ byte ∈ dumps (cursorFields scope last), byte < 256 := fun byte member =>
    Nat.lt_trans (plain_dumps _ byte member).2 (by decide)
  have alphabet : (encodeText scope last).toList.all (Base64.value? · |>.isSome) = true := by
    rw [encodeText, String.toList_ofList]
    exact List.all_eq_true.mpr (Base64.encode_inAlphabet bounded)
  have nonempty : encodeText scope last ≠ "" := by
    intro empty
    have length := Base64.length_encode (dumps (cursorFields scope last))
    have none : (Base64.encode (dumps (cursorFields scope last))) = [] := by
      have same := congrArg String.toList empty
      rwa [encodeText, String.toList_ofList] at same
    rw [none, length_cursor, List.length_nil] at length
    omega
  rw [cursorBytes, if_neg]
  · rw [encodeText, String.toList_ofList, Base64.decode_encode bounded]
  · rintro (long | empty | other)
    · exact absurd ((length_encodeText scope last).mpr fits) (Nat.not_le.mpr long)
    · exact nonempty empty
    · exact other alphabet

/-- A cursor that does not fit is refused at its length. -/
theorem cursorBytes_long {scope : Scope} {last : String} (long : ¬ Fits scope last) :
    cursorBytes (encodeText scope last) = none := by
  have longer : 4096 < (encodeText scope last).toList.length :=
    Nat.not_le.mp fun short => long ((length_encodeText scope last).mp short)
  rw [cursorBytes, if_pos (.inl longer)]

def loadedCursor (scope : Scope) (last : String) : Loaded :=
  .dict ((cursorFields scope last).map fun field => (codes field.1, field.2.load))

theorem loadsBytes_cursor (stack : Nat) (scope : Scope) (last : String) :
    loadsBytes (stack + 1) (dumps (cursorFields scope last)) = .ok (loadedCursor scope last) := by
  rw [loadsBytes, Encodings.decodeBytes_plain (plain_dumps _)]
  exact loads_dumps stack (List.cons_ne_nil _ _)

/-- Without any stack no object is read. -/
theorem loadsBytes_zero (scope : Scope) (last : String) :
    loadsBytes 0 (dumps (cursorFields scope last)) = .error .tooDeep := by
  rw [loadsBytes, Encodings.decodeBytes_plain (plain_dumps _)]
  rfl

/-- What a decoded cursor carries. -/
theorem loadedCursor_fields (scope : Scope) (last : String) :
    (loadedCursor scope last).field? "v" = some (.int 1) ∧
    textAt (loadedCursor scope last) "platform" = some (codes "discord") ∧
    textAt (loadedCursor scope last) "workspace_id" = some (codes scope.workspaceId) ∧
    textAt (loadedCursor scope last) "channel_id" = some (codes scope.channelId) ∧
    textAt (loadedCursor scope last) "last_message_id" = some (codes last) :=
  by simp [textAt, loadedCursor, cursorFields, Loaded.field?, Scalar.load, List.lookup_cons, codes]

theorem textOf_codes (text : String) : textOf? (codes text) = some text := by
  have valid : (codes text).all (fun code : Nat => decide code.isValidChar) = true := by
    refine List.all_eq_true.mpr fun code member => ?_
    obtain ⟨c, -, rfl⟩ := List.mem_map.mp member
    exact decide_eq_true c.valid
  rw [textOf?, if_pos valid, codes, List.map_map]
  have same : (text.toList.map (Char.ofNat ∘ Char.toNat)) = text.toList := by
    conv_rhs => rw [← List.map_id text.toList]
    exact List.map_congr_left fun c _ => Char.ofNat_toNat c
  rw [same, String.ofList_toList]

theorem codes_injective {s t : String} (same : codes s = codes t) : s = t :=
  Option.some.inj ((textOf_codes s).symm.trans ((congrArg textOf? same).trans (textOf_codes t)))

theorem textSnowflake_codes {last : String} (snow : IsSnowflake last) :
    textSnowflake (some (codes last)) = .ok last := by
  obtain ⟨id, read⟩ := snow
  simp only [textSnowflake, Option.bind_some, textOf_codes, read]
  rfl

/-- A decoded cursor passes in its own scope only. -/
theorem checkDecoded_cursor {scope other : Scope} {last : String} (snow : IsSnowflake last) :
    checkDecoded (loadedCursor scope last) other =
      if other.workspaceId = scope.workspaceId ∧ other.channelId = scope.channelId then .ok last
      else .error scopeMismatch := by
  obtain ⟨version, platform, workspace, channel, lastId⟩ := loadedCursor_fields scope last
  have cursor : isCursor (loadedCursor scope last) = true := by
    have keys : hasCursorKeys ((cursorFields scope last).map fun field => (codes field.1, field.2.load)) = true := by
      simp [hasCursorKeys, cursorFields, cursorKeys]
    rw [loadedCursor] at version ⊢
    simp [isCursor, keys, version]
  have texts : ¬ (["platform", "workspace_id", "channel_id"].any fun key =>
      (textAt (loadedCursor scope last) key).isNone) = true := by
    simp [platform, workspace, channel]
  simp only [checkDecoded, cursor, platform, workspace, channel, lastId, textSnowflake_codes snow]
  by_cases same : other.workspaceId = scope.workspaceId ∧ other.channelId = scope.channelId
  · simp only [raiseIf, not_true, if_false, if_neg texts, same.1, same.2, ne_eq, or_self]
    rfl
  · have differs : some (codes "discord") ≠ some (codes "discord") ∨
        some (codes scope.workspaceId) ≠ some (codes other.workspaceId) ∨
        some (codes scope.channelId) ≠ some (codes other.channelId) := by
      by_cases workspace : other.workspaceId = scope.workspaceId
      · refine .inr (.inr fun equal => same ⟨workspace, ?_⟩)
        exact (codes_injective (Option.some.inj equal)).symm
      · refine .inr (.inl fun equal => workspace ?_)
        exact (codes_injective (Option.some.inj equal)).symm
    simp only [raiseIf, if_neg same, not_true, if_false, if_neg texts, if_pos differs]
    rfl

/-- A cursor that fits is read in its own scope and refused in any other one. -/
theorem decodeText_encodeText (stack : Nat) {scope other : Scope} {last : String} (fits : Fits scope last)
    (snow : IsSnowflake last) : decodeText (stack + 1) (encodeText scope last) other =
      if other.workspaceId = scope.workspaceId ∧ other.channelId = scope.channelId then .ok last
      else .error scopeMismatch := by
  rw [decodeText, cursorBytes_encodeText fits]
  simp only [loadsBytes_cursor]
  exact checkDecoded_cursor snow

/-- A cursor that does not fit is refused everywhere. -/
theorem decodeText_long (stack : Nat) {scope : Scope} (other : Scope) {last : String}
    (long : ¬ Fits scope last) : decodeText stack (encodeText scope last) other = .error invalidCursor := by
  rw [decodeText, cursorBytes_long long]
  rfl

theorem decodeText_zero {scope : Scope} (other : Scope) {last : String} (fits : Fits scope last) :
    decodeText 0 (encodeText scope last) other = .error recursionError := by
  rw [decodeText, cursorBytes_encodeText fits]
  simp only [loadsBytes_zero]
  rfl

/-- The text carries a cursor of the scope. -/
def Carries (stack : Nat) (value : String) (scope : Scope) : Prop :=
  ∃ bytes decoded, cursorBytes value = some bytes ∧ loadsBytes stack bytes = .ok decoded ∧
    textAt decoded "platform" = some (codes "discord") ∧
    textAt decoded "workspace_id" = some (codes scope.workspaceId) ∧
    textAt decoded "channel_id" = some (codes scope.channelId)

/-- The JSON of the text is nested more deeply than the stack allows. -/
def Exhausts (stack : Nat) (value : String) : Prop :=
  ∃ bytes, cursorBytes value = some bytes ∧ loadsBytes stack bytes = .error .tooDeep

/-- What passes the checks carries the scope. -/
theorem checkDecoded_ok {decoded : Loaded} {scope : Scope} {last : String}
    (passed : checkDecoded decoded scope = .ok last) :
    textAt decoded "platform" = some (codes "discord") ∧
      textAt decoded "workspace_id" = some (codes scope.workspaceId) ∧
      textAt decoded "channel_id" = some (codes scope.channelId) := by
  simp only [checkDecoded, Except.bind_ok, raiseIf_except_ok] at passed
  obtain ⟨-, -, -, -, -, -, -, same, -⟩ := passed
  simpa only [ne_eq, not_or, not_not] using same

/-- The checks raise the documented errors only. -/
theorem checkDecoded_error {decoded : Loaded} {scope : Scope} {failure : Failure}
    (refused : checkDecoded decoded scope = .error failure) :
    failure = invalidCursor ∨ failure = scopeMismatch := by
  have raised : ∀ {wrong : Prop} [Decidable wrong] {error : Failure},
      (raiseIf wrong error : Except Failure Unit) = .error failure → failure = error := by
    intro wrong _ error raised
    unfold raiseIf at raised
    split at raised
    · exact (Except.error.inj raised).symm
    · cases raised
  simp only [checkDecoded, Except.bind_error] at refused
  rcases refused with object | ⟨-, -, last | ⟨last, -, text | ⟨-, -, other | ⟨-, -, returned⟩⟩⟩⟩
  · exact .inl (raised object)
  · cases read : textSnowflake (textAt decoded "last_message_id") with
    | ok last' =>
      rw [read] at last
      cases last
    | error error =>
      rw [read] at last
      exact .inl (Except.error.inj last).symm
  · exact .inl (raised text)
  · exact .inr (raised other)
  · cases returned

/-- What is read is carried. -/
theorem carries_of_decodeText {stack : Nat} {value last : String} {scope : Scope}
    (read : decodeText stack value scope = .ok last) : Carries stack value scope := by
  unfold decodeText at read
  split at read
  · cases read
  · rename_i bytes known
    split at read
    · cases read
    · cases read
    · rename_i decoded loaded
      exact ⟨bytes, decoded, known, loaded, checkDecoded_ok read⟩

/-- How a text is refused. -/
theorem decodeText_error {stack : Nat} {value : String} {scope : Scope} {failure : Failure}
    (refused : decodeText stack value scope = .error failure) :
    failure = invalidCursor ∨ failure = scopeMismatch ∨ failure = recursionError ∧ Exhausts stack value := by
  unfold decodeText at refused
  split at refused
  · exact .inl (Except.error.inj refused).symm
  · rename_i bytes known
    split at refused
    · exact .inl (Except.error.inj refused).symm
    · rename_i deep
      exact .inr (.inr ⟨(Except.error.inj refused).symm, bytes, known, deep⟩)
    · rename_i decoded loaded
      exact (checkDecoded_error refused).imp_right .inl

theorem decodeText_exhausted {stack : Nat} {value : String} (scope : Scope) (deep : Exhausts stack value) :
    decodeText stack value scope = .error recursionError := by
  obtain ⟨bytes, known, tooDeep⟩ := deep
  rw [decodeText, known]
  simp only [tooDeep]
  rfl

/-- What a client relies on: a cursor is read in its scope and refused in every other one, and a text is read
only in the scope that it carries, or refused with one of the two documented errors. -/
structure Lawful (stack : Nat) (scope : Scope) (last value : String) : Prop where
  roundTrip : decodeText stack (encodeText scope last) scope = .ok last
  foreign : ∀ other : Scope, ¬ (other.workspaceId = scope.workspaceId ∧ other.channelId = scope.channelId) →
    decodeText stack (encodeText scope last) other = .error scopeMismatch
  carried : ∀ found, decodeText stack value scope = .ok found → Carries stack value scope
  documented : ∀ failure, decodeText stack value scope = .error failure →
    failure = invalidCursor ∨ failure = scopeMismatch

/-- The codec is lawful exactly if the cursor fits into the length that is read and no text is nested too deeply
for the stack. -/
theorem lawful_iff (stack : Nat) (scope : Scope) {last : String} (value : String) (snow : IsSnowflake last) :
    Lawful stack scope last value ↔ Fits scope last ∧ 0 < stack ∧ ¬ Exhausts stack value := by
  constructor
  · intro lawful
    have fits : Fits scope last := by
      by_contra long
      cases (decodeText_long stack scope long).symm.trans lawful.roundTrip
    refine ⟨fits, Nat.pos_of_ne_zero ?_, fun deep => ?_⟩
    · rintro rfl
      cases (decodeText_zero scope fits).symm.trans lawful.roundTrip
    · rcases lawful.documented _ (decodeText_exhausted scope deep) with same | same <;> cases same
  · rintro ⟨fits, room, shallow⟩
    obtain ⟨depth, rfl⟩ : ∃ depth, stack = depth + 1 := ⟨stack - 1, by omega⟩
    constructor
    · rw [decodeText_encodeText depth fits snow, if_pos ⟨rfl, rfl⟩]
    · intro other differs
      rw [decodeText_encodeText depth fits snow, if_neg differs]
    · intro found read
      exact carries_of_decodeText read
    · intro failure refused
      rcases decodeText_error refused with same | same | ⟨-, deep⟩
      · exact .inl same
      · exact .inr same
      · exact absurd deep shallow

end Codec

namespace Sample

def scope : Scope where
  workspaceId := "workspace"
  channelId := "42"
  workspace := by decide
  channel := ⟨42, by decide⟩

theorem own_cursor_lawful : IsSnowflake "1000" ∧ Fits scope "1000" ∧
    ¬ Exhausts 900 (encodeText scope "7") ∧ Lawful 900 scope "1000" (encodeText scope "7") := by
  have snow : IsSnowflake "1000" := ⟨1000, by decide⟩
  have fits : Fits scope "1000" := by decide
  have shallow : ¬ Exhausts 900 (encodeText scope "7") := by
    rintro ⟨bytes, known, deep⟩
    rw [cursorBytes_encodeText (by decide)] at known
    cases known
    rw [loadsBytes_cursor] at deep
    cases deep
  exact ⟨snow, fits, shallow, (lawful_iff 900 scope _ snow).mpr ⟨fits, by decide, shallow⟩⟩

/-- A workspace of 256 characters that are escaped twice each. -/
def wideId : String := String.ofList (List.replicate 256 '😀')

def wide : Input where
  workspaceId := wideId
  channelId := "42"

theorem wideId_toList : wideId.toList = List.replicate 256 '😀' := String.toList_ofList

theorem wideId_accepted : ¬ (wideId = "" ∨ wideId ≠ Text.strip wideId ∨ 256 < wideId.toList.length ∨
    wideId.toList.any (·.toNat < 32)) := by
  have solid : ∀ c ∈ wideId.toList, Text.isSpace c = false := by
    intro c member
    rw [wideId_toList] at member
    rw [List.eq_of_mem_replicate member]
    rfl
  rintro (empty | spaced | long | control)
  · have none := congrArg String.toList empty
    rw [wideId_toList] at none
    cases none
  · exact spaced (Text.strip_eq_self solid).symm
  · rw [wideId_toList, List.length_replicate] at long
    exact Nat.lt_irrefl _ long
  · obtain ⟨c, member, low⟩ := List.any_eq_true.mp control
    rw [wideId_toList] at member
    rw [List.eq_of_mem_replicate member] at low
    cases low

/-- A read without a cursor and with the default limit is accepted by its scope. -/
theorem checkInput_scope {workspaceId channelId : String} {id : Nat}
    (workspace : ¬ (workspaceId = "" ∨ workspaceId ≠ Text.strip workspaceId ∨ 256 < workspaceId.toList.length ∨
      workspaceId.toList.any (·.toNat < 32))) (channel : snowflake (.str channelId) false = .ok id) :
    checkInput { workspaceId, channelId } .read = .ok ⟨{ workspaceId, channelId }, none⟩ := by
  simp only [checkInput, Except.bind_ok, raiseIf_except_ok]
  exact ⟨(), workspace, id, channel, (), by decide, (), by decide, none, rfl, (), by simp, (), by simp, rfl⟩

theorem wide_accepted : checkInput wide .read = .ok ⟨wide, none⟩ := by
  have channel : snowflake (.str "42") false = .ok 42 := by decide
  exact checkInput_scope wideId_accepted channel

theorem wide_length : dumpedLength wideId = 3074 := by
  have each : escapedLength '😀' = 12 := by decide
  rw [dumpedLength, wideId_toList, List.map_replicate, each, List.sum_replicate_nat]

theorem wide_long : ¬ Fits (Scope.ofRequest wide_accepted) "1000" := by
  rw [fits_ofRequest]
  have length : dumpedLength wide.workspaceId = 3074 := wide_length
  omega

/-- Its requests are accepted, and their cursors are not read again. -/
theorem wide_cursor_unread : ∃ request, ∃ accepted : checkInput wide .read = .ok request,
    IsSnowflake "1000" ∧ decodeText 900 (encodeText (Scope.ofRequest accepted) "1000") (Scope.ofRequest accepted) =
      .error invalidCursor := by
  have snow : IsSnowflake "1000" := ⟨1000, by decide⟩
  exact ⟨_, wide_accepted, snow, decodeText_long 900 _ wide_long⟩

end Sample

end Coordinate.CursorCodec
