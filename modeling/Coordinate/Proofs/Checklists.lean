import Coordinate.Proofs.Workflow

/-! # What a committed transition does to the checklist

A script that commits has found its item in a checklist that is valid, and has put the changed item in
its place; one that fails leaves the files alone.
-/

namespace Coordinate.Checklist

/-- The items of a checklist. -/
def entries (checklist : Json) : List Json :=
  match checklist.get "items" with
  | .arr items => items
  | _ => []

def isNamed (itemId : String) (entry : Json) : Bool := entry.get "id" = .str itemId

section Validation

theorem itemsErrors_objects : ∀ {seen : List String} {index : Nat} {items : List Json} {all : List String},
    itemsErrors seen index items = .ok ([], all) → ∀ item ∈ items, item.isObj = true
  | _, _, [], _, _ => List.forall_mem_nil _
  | seen, index, item :: rest, all, clean => by
    unfold itemsErrors at clean
    split at clean
    · obtain ⟨_, -, other⟩ := Except.bind_ok.mp clean
      simp [pure, Except.pure] at other
    · rename_i object
      rw [Bool.not_eq_true', Bool.not_eq_false] at object
      obtain ⟨_, -, clean⟩ := Except.bind_ok.mp clean
      obtain ⟨_, -, clean⟩ := Except.bind_ok.mp clean
      obtain ⟨_, -, clean⟩ := Except.bind_ok.mp clean
      obtain ⟨⟨errors, all⟩, later, clean⟩ := Except.bind_ok.mp clean
      simp only [pure, Except.pure, Except.ok.injEq, Prod.mk.injEq, List.append_eq_nil_iff] at clean
      obtain ⟨⟨-, rfl⟩, rfl⟩ := clean
      intro other member
      rcases List.mem_cons.mp member with rfl | inRest
      · exact object
      · exact itemsErrors_objects later other inRest

/-- A valid checklist is a dictionary whose items are dictionaries. -/
theorem validateChecklist_ok {data : Json} (valid : validateChecklist data = .ok []) :
    data.isObj = true ∧ (∃ items, data.get "items" = .arr items) ∧
      ∀ item ∈ entries data, item.isObj = true := by
  unfold validateChecklist at valid
  split at valid
  · cases valid
  · rename_i object
    rw [Bool.not_eq_true', Bool.not_eq_false] at object
    dsimp only at valid
    split at valid
    · rename_i absent
      simp [topRequired, absent, pure, Except.pure] at valid
    · rename_i items present
      obtain ⟨⟨errors, seen⟩, clean, valid⟩ := Except.bind_ok.mp valid
      simp only [pure, Except.pure, Except.ok.injEq, List.append_eq_nil_iff] at valid
      obtain ⟨⟨-, rfl⟩, -⟩ := valid
      have found : data.get "items" = .arr items := by rw [Json.get, present, Option.getD_some]
      refine ⟨object, ⟨items, found⟩, ?_⟩
      rw [entries, found]
      exact itemsErrors_objects clean
    · simp [pure, Except.pure] at valid

end Validation

section Items

variable {items : List Json} {item changed : Json} {itemId other : String}

theorem findItem_ok {answer : Option Json} (found : findItem itemId items = .ok answer) :
    answer = items.find? (isNamed itemId) := by
  induction items with
  | nil =>
    cases found
    rfl
  | cons entry rest ih =>
    rw [List.find?_cons, isNamed]
    unfold findItem at found
    split at found
    · cases found
    · split at found
      · rename_i same
        cases found
        simp [same]
      · rename_i apart
        rw [decide_eq_false apart]
        exact ih found

theorem itemsOf_ok {checklist : Json} (listed : itemsOf checklist = .ok items) :
    items = entries checklist := by
  unfold itemsOf at listed
  split at listed
  · cases listed
  · split at listed <;> rename_i present <;> cases listed <;> simp [entries, Json.get, present]

theorem find?_replaceFirst_self (found : items.find? (isNamed itemId) = some item)
    (same : changed.get "id" = item.get "id") :
    (replaceFirst itemId changed items).find? (isNamed itemId) = some changed := by
  have named : isNamed itemId item = true := List.find?_some found
  have own : isNamed itemId changed = true := by simpa [isNamed, same] using named
  induction items with
  | nil => cases found
  | cons entry rest ih =>
    unfold replaceFirst
    split
    · rw [List.find?_cons, own]
    · rename_i apart
      have skipped : isNamed itemId entry = false := decide_eq_false apart
      rw [List.find?_cons, skipped] at found ⊢
      exact ih found

theorem find?_replaceFirst_ne (apart : other ≠ itemId) (same : changed.get "id" = item.get "id")
    (found : items.find? (isNamed itemId) = some item) :
    (replaceFirst itemId changed items).find? (isNamed other) = items.find? (isNamed other) := by
  have foreign : ∀ entry : Json, entry.get "id" = .str itemId → isNamed other entry = false := by
    intro entry named
    simp [isNamed, named, Ne.symm apart]
  have named : item.get "id" = .str itemId := by
    have named := List.find?_some found
    simpa [isNamed] using named
  induction items with
  | nil => rfl
  | cons entry rest ih =>
    unfold replaceFirst
    split
    · rename_i own
      rw [List.find?_cons, List.find?_cons, foreign entry own, foreign changed (same.trans named)]
    · rename_i differs
      have skipped : isNamed itemId entry = false := decide_eq_false differs
      rw [List.find?_cons, skipped] at found
      rw [List.find?_cons, List.find?_cons, ih found]

theorem mem_replaceFirst {entry : Json} (member : entry ∈ replaceFirst itemId changed items) :
    entry = changed ∨ entry ∈ items := by
  induction items with
  | nil => cases member
  | cons first rest ih =>
    unfold replaceFirst at member
    split at member
    · rcases List.mem_cons.mp member with rfl | inRest
      · exact .inl rfl
      · exact .inr (List.mem_cons_of_mem _ inRest)
    · rcases List.mem_cons.mp member with rfl | inRest
      · exact .inr (List.mem_cons_self ..)
      · exact (ih inRest).imp id (List.mem_cons_of_mem _)

end Items

section Files

variable {files : Files} {kind : Kind} {text : JsonText} {data : Json}

/-- The checklist that the scripts read. -/
def Files.checklist (files : Files) : Option Json :=
  match readResolved .mutation files with
  | .ok (_, .value checklist) => some checklist
  | _ => none

theorem readResolved_read (files : Files) : readResolved .read files = readResolved .mutation files := by
  unfold readResolved resolveChecklist
  cases files.new <;> cases files.legacy <;> rfl

theorem checklist_eq_some : files.checklist = some data ↔
    ∃ kind, readResolved .mutation files = .ok (kind, .value data) := by
  unfold Files.checklist
  constructor
  · intro found
    split at found
    · rename_i kind value read
      cases found
      exact ⟨kind, read⟩
    · cases found
  · rintro ⟨kind, read⟩
    rw [read]

/-- The checklist after a commit. -/
theorem checklist_replace {content : Json} (read : readResolved .mutation files = .ok (kind, text)) :
    (files.replace kind content).checklist = some content := by
  rw [checklist_eq_some]
  obtain ⟨new, legacy⟩ := files
  unfold readResolved resolveChecklist at read ⊢
  cases new <;> cases legacy <;> simp [bind, Except.bind, pure, Except.pure, throw, throwThe,
    MonadExceptOf.throw] at read
  · obtain ⟨rfl, -⟩ := read
    exact ⟨.legacy, rfl⟩
  · obtain ⟨rfl, -⟩ := read
    exact ⟨.new, rfl⟩

theorem loads_ok {json : Json} (loaded : text.loads = .ok json) : text = .value json := by
  cases text with
  | value found => cases loaded; rfl
  | _ => cases loaded

theorem loadChecklist_ok (loaded : loadChecklist files = .ok data) :
    files.checklist = some data := by
  obtain ⟨⟨kind, text⟩, read, loaded⟩ := Except.bind_ok.mp loaded
  rw [orRaise_except_ok] at loaded
  exact checklist_eq_some.mpr ⟨kind, by rw [← readResolved_read, read, loads_ok loaded]⟩

end Files

section Commits

variable [Platform] [Scripting] {site : Site} {files files' : Files} {n m : Nat} {itemId : String}
  {change : Json → Json → Script Json}

/-- A script that has changed an item. -/
structure Changed (files files' : Files) (itemId : String) (item changed : Json) : Prop where
  object : item.isObj = true
  before : ∃ checklist, files.checklist = some checklist ∧ validateChecklist checklist = .ok [] ∧
    (entries checklist).find? (isNamed itemId) = some item ∧
    ∃ later, files'.checklist = some later ∧
      entries later = replaceFirst itemId changed (entries checklist)

omit [Platform] [Scripting] in
theorem requireItem_ok {checklist item : Json} (required : requireItem checklist itemId = .ok item) :
    (entries checklist).find? (isNamed itemId) = some item := by
  obtain ⟨all, listed, required⟩ := Except.bind_ok.mp required
  rw [orRaise_except_ok] at listed
  obtain ⟨answer, searched, required⟩ := Except.bind_ok.mp required
  rw [orRaise_except_ok] at searched
  rw [← itemsOf_ok listed, ← findItem_ok searched]
  split at required
  · cases required
    rfl
  · cases required

/-- The callback has run on a valid checklist, and what it has made of it is valid under the new date. -/
theorem mutateChecklist_made {callback : Json → Script Json}
    (ran : mutateChecklist site callback files n = .ok (files', m)) :
    ∃ checklist changed k date, files.checklist = some checklist ∧ validateChecklist checklist = .ok [] ∧
      callback checklist n = .ok (changed, k) ∧
      files'.checklist = some (changed.set "updated_at" (.str date)) ∧
      validateChecklist (changed.set "updated_at" (.str date)) = .ok [] := by
  obtain ⟨⟨kind, text⟩, _, resolved, ran⟩ := script_bind_ok.mp ran
  obtain ⟨read, rfl⟩ := script_orRaise_ok.mp resolved
  obtain ⟨candidate, _, made, ran⟩ := script_bind_ok.mp ran
  obtain ⟨rfl, rfl⟩ := script_pure_ok.mp ran
  simp only [candidateOf, script_bind_ok, script_orRaise_ok, script_raiseIf_ok, script_pure_ok, today_ok,
    not_not] at made
  obtain ⟨current, _, ⟨loaded, rfl⟩, _, _, ⟨-, rfl⟩, errors, _, ⟨checked, rfl⟩, _, _, ⟨rfl, rfl⟩,
    changed, k, performed, date, _, ⟨-, rfl⟩, later, _, ⟨rechecked, rfl⟩, _, _, ⟨rfl, rfl⟩, _, _,
    ⟨-, rfl⟩, _, _, ⟨-, rfl⟩, rfl, -⟩ := made
  exact ⟨current, changed, k, date, checklist_eq_some.mpr ⟨kind, loads_ok loaded ▸ read⟩, checked, performed,
    checklist_replace read, rechecked⟩

/-- The callback has run on the item of a valid checklist, and the changed item takes its place. -/
theorem mutateChecklist_ok (ran : mutateChecklist site (onItem itemId change) files n = .ok (files', m)) :
    ∃ checklist item changed k, change checklist item n = .ok (changed, k) ∧
      Changed files files' itemId item changed := by
  obtain ⟨current, _, _, date, inForce, checked, made, committed, -⟩ := mutateChecklist_made ran
  simp only [onItem, script_bind_ok, script_orRaise_ok, script_pure_ok] at made
  obtain ⟨item, _, ⟨required, rfl⟩, changed, k, performed, rfl, rfl⟩ := made
  obtain ⟨object, ⟨items, listed⟩, objects⟩ := validateChecklist_ok checked
  have found := requireItem_ok required
  refine ⟨current, item, changed, _, performed, objects item (List.mem_of_find?_eq_some found), current, inForce,
    checked, found, _, committed, ?_⟩
  simp [entries, putItem, listed, object]

/-- What a transition has tested of an item at a reading of the clock, and what it leaves behind. -/
inductive Moved (item changed : Json) (n : Nat) : Transition → Prop
  | assign {actor : String} {arguments : ClaimArguments} {lease : Json}
      (claimable : Claimable item arguments.owner (isHandoffTarget item arguments.owner) n)
      (claimed : IsClaimed lease arguments.owner)
      (leaves : Leaves item changed ((standingOf item).assigned arguments.owner arguments.session lease)) :
      Moved item changed n (.assign actor arguments)
  | accept {arguments : ClaimArguments} {lease : Json}
      (claimable : Claimable item arguments.owner (isHandoffTarget item arguments.owner) n)
      (claimed : IsClaimed lease arguments.owner)
      (leaves : Leaves item changed ((standingOf item).accepted arguments.owner arguments.session lease)) :
      Moved item changed n (.accept arguments)
  | start {actor : Option String} {arguments : ClaimArguments} {lease : Json}
      (claimable : Claimable item arguments.owner false n) (claimed : IsClaimed lease arguments.owner)
      (leaves : Leaves item changed ((standingOf item).started arguments.owner arguments.session lease)) :
      Moved item changed n (.start actor arguments)
  | decline {arguments : ActArguments} {lease : Json}
      (meant : (standingOf item).addressee.truthy = true →
        (standingOf item).addressee = .str arguments.actor) (released : IsReleased lease)
      (leaves : Leaves item changed ((standingOf item).freed "todo" "released" lease)) :
      Moved item changed n (.decline arguments)
  | renewLease {arguments : ClaimArguments} {lease : Json} (free : Free item arguments.owner false n)
      (owned : (standingOf item).owner.truthy = true → (standingOf item).owner = .str arguments.owner)
      (claimed : IsClaimed lease arguments.owner)
      (leaves : Leaves item changed ((standingOf item).renewed arguments.owner arguments.session lease)) :
      Moved item changed n (.renewLease arguments)
  | release {arguments : ActArguments} {lease : Json}
      (owned : (standingOf item).owner.truthy = true → (standingOf item).owner = .str arguments.actor)
      (released : IsReleased lease) (leaves : Leaves item changed ((standingOf item).given lease)) :
      Moved item changed n (.release arguments)
  | unblock {arguments : ActArguments} {lease : Json}
      (blocked : (standingOf item).status = .str "blocked") (released : IsReleased lease)
      (leaves : Leaves item changed ((standingOf item).unblocked lease)) :
      Moved item changed n (.unblock arguments)
  | reviewResult {arguments : ReviewArguments} (known : arguments.decision ∈ approvalDecisions)
      (leaves : Leaves item changed ((standingOf item).reviewed arguments.decision)) :
      Moved item changed n (.reviewResult arguments)
  | markDone {arguments : ActArguments} {lease : Json}
      (isOpen : (standingOf item).status ≠ .str "done")
      (approved : (standingOf item).decision = .str "approved")
      (closing : (standingOf item).phase = .str "closeout_requested") (released : IsReleased lease)
      (leaves : Leaves item changed ((standingOf item).freed "done" "closed" lease)) :
      Moved item changed n (.markDone arguments)
  | blocker {arguments : BlockerArguments} {lease : Json} (released : IsReleased lease)
      (leaves : Leaves item changed ((standingOf item).freed "blocked" "blocked" lease)) :
      Moved item changed n (.blocker arguments)
  | handoff {arguments : HandoffArguments} {lease : Json} (released : IsReleased lease)
      (leaves : Leaves item changed ((standingOf item).handedOff arguments.target lease)) :
      Moved item changed n (.handoff arguments)
  | closeout {arguments : CloseoutArguments}
      (leaves : Leaves item changed (standingOf item).closingOut) :
      Moved item changed n (.closeout arguments)

omit [Platform] [Scripting] in
/-- An item that a script has required before the pipeline is the one that the pipeline changes. -/
theorem Changed.required {item changed checklist first : Json}
    (changes : Changed files files' itemId item changed) (loaded : loadChecklist files = .ok checklist)
    (required : requireItem checklist itemId = .ok first) : first = item := by
  obtain ⟨current, inForce, -, found, -⟩ := changes.before
  have same := (loadChecklist_ok loaded).symm.trans inForce
  cases same
  exact Option.some.inj ((requireItem_ok required).symm.trans found)

theorem start_ok {actor : Option String} {arguments : ClaimArguments} (unforced : arguments.force = false)
    (ran : start site arguments files n = .ok (files', m)) :
    ∃ item changed, Changed files files' arguments.item item changed ∧
      Moved item changed n (.start actor arguments) := by
  rw [start, unforced] at ran
  simp only [script_bind_ok, script_orRaise_ok, script_raiseIf_ok] at ran
  obtain ⟨checklist, _, ⟨loaded, rfl⟩, _, _, ⟨-, rfl⟩, _, _, ⟨-, rfl⟩, _, _, ⟨-, rfl⟩, _, _, ⟨-, rfl⟩, item, _, ⟨required, rfl⟩, _, _, claimable, _, _, ⟨-, rfl⟩, planPath, _, ⟨-, rfl⟩, ran⟩ := ran
  obtain ⟨_, again, changed, _, moved, changes⟩ := mutateChecklist_ok ran
  have same := changes.required loaded required
  subst same
  obtain ⟨lease, claimed, leaves⟩ := startItem_ok changes.object moved
  exact ⟨item, changed, changes, .start (assertCanStart_ok claimable) claimed leaves⟩

/-- A `mark-done` of an item that is done. -/
def MarksDone (files : Files) (transition : Transition) : Prop :=
  ∃ arguments, transition = .markDone arguments ∧ ∃ checklist item, files.checklist = some checklist ∧
    (entries checklist).find? (isNamed arguments.item) = some item ∧ item.get "status" = .str "done"

theorem markDone_ok {arguments : ActArguments} (unforced : arguments.force = false)
    (ran : markDone site arguments files n = .ok (files', m)) :
    (files' = files ∧ MarksDone files (.markDone arguments)) ∨
      ∃ item changed, Changed files files' arguments.item item changed ∧
        Moved item changed n (.markDone arguments) := by
  rw [markDone] at ran
  simp only [script_bind_ok, script_orRaise_ok] at ran
  obtain ⟨checklist, _, ⟨loaded, rfl⟩, first, _, ⟨required, rfl⟩, ran⟩ := ran
  split at ran
  · rename_i done
    obtain ⟨rfl, -⟩ := script_pure_ok.mp ran
    exact .inl ⟨rfl, arguments, rfl, checklist, first, loadChecklist_ok loaded, requireItem_ok required, done⟩
  · rename_i isOpen
    obtain ⟨current, item, changed, _, moved, changes⟩ := mutateChecklist_ok ran
    have same := changes.required loaded required
    subst same
    obtain ⟨approved, closing, lease, released, leaves⟩ := markItemDone_ok changes.object unforced moved
    exact .inr ⟨first, changed, changes, .markDone isOpen approved closing released leaves⟩

/-- **What a transition without force does**: what its move says to the item it names, or nothing, if it
marks a done item. -/
theorem perform_ok {transition : Transition} (unforced : transition.force = false)
    (ran : perform site transition files n = .ok (files', m)) :
    (files' = files ∧ MarksDone files transition) ∨
      ∃ item changed, Changed files files' transition.item item changed ∧
        Moved item changed n transition := by
  cases transition with
  | assign actor arguments =>
    obtain ⟨_, item, changed, _, moved, changes⟩ := mutateChecklist_ok ran
    obtain ⟨claimable, lease, claimed, leaves⟩ := assignItem_ok changes.object unforced moved
    exact .inr ⟨item, changed, changes, .assign claimable claimed leaves⟩
  | accept arguments =>
    obtain ⟨_, item, changed, _, moved, changes⟩ := mutateChecklist_ok ran
    obtain ⟨claimable, lease, claimed, leaves⟩ := acceptItem_ok changes.object unforced moved
    exact .inr ⟨item, changed, changes, .accept claimable claimed leaves⟩
  | start actor arguments => exact .inr (start_ok unforced ran)
  | decline arguments =>
    obtain ⟨_, item, changed, _, moved, changes⟩ := mutateChecklist_ok ran
    obtain ⟨meant, lease, released, leaves⟩ := declineItem_ok changes.object unforced moved
    exact .inr ⟨item, changed, changes, .decline meant released leaves⟩
  | renewLease arguments =>
    obtain ⟨_, item, changed, _, moved, changes⟩ := mutateChecklist_ok ran
    obtain ⟨free, owned, lease, claimed, leaves⟩ := renewItem_ok changes.object unforced moved
    exact .inr ⟨item, changed, changes, .renewLease free owned claimed leaves⟩
  | release arguments =>
    obtain ⟨_, item, changed, _, moved, changes⟩ := mutateChecklist_ok ran
    obtain ⟨owned, lease, released, leaves⟩ := releaseItem_ok changes.object unforced moved
    exact .inr ⟨item, changed, changes, .release owned released leaves⟩
  | unblock arguments =>
    obtain ⟨_, item, changed, _, moved, changes⟩ := mutateChecklist_ok ran
    obtain ⟨blocked, lease, released, leaves⟩ := unblockItem_ok changes.object moved
    exact .inr ⟨item, changed, changes, .unblock blocked released leaves⟩
  | reviewResult arguments =>
    obtain ⟨_, _, tested, ran⟩ := script_bind_ok.mp ran
    obtain ⟨known, rfl⟩ := script_raiseIf_ok.mp tested
    obtain ⟨_, item, changed, _, moved, changes⟩ := mutateChecklist_ok ran
    have known := not_not.mp known
    exact .inr ⟨item, changed, changes,
      .reviewResult known (reviewItem_ok changes.object known moved)⟩
  | markDone arguments => exact markDone_ok unforced ran
  | blocker arguments =>
    obtain ⟨_, k, _, ran⟩ := script_bind_ok.mp ran
    obtain ⟨_, item, changed, _, moved, changes⟩ := mutateChecklist_ok ran
    obtain ⟨lease, released, leaves⟩ := blockItem_ok changes.object moved
    exact .inr ⟨item, changed, changes, .blocker released leaves⟩
  | handoff arguments =>
    obtain ⟨_, k, _, ran⟩ := script_bind_ok.mp ran
    obtain ⟨_, item, changed, _, moved, changes⟩ := mutateChecklist_ok ran
    obtain ⟨lease, released, leaves⟩ := handOffItem_ok changes.object moved
    exact .inr ⟨item, changed, changes, .handoff released leaves⟩
  | closeout arguments =>
    obtain ⟨_, k, _, ran⟩ := script_bind_ok.mp ran
    obtain ⟨_, item, changed, _, moved, changes⟩ := mutateChecklist_ok ran
    exact .inr ⟨item, changed, changes, .closeout (closeOutItem_ok changes.object moved)⟩

end Commits

section States

variable [Platform] [Scripting] {s t : State} {itemId : String}

/-- The item with an identifier. -/
def State.item (s : State) (itemId : String) : Option Json :=
  s.files.checklist.bind fun checklist => (entries checklist).find? (isNamed itemId)

/-- All items. -/
def State.items (s : State) : List Json := (s.files.checklist.map entries).getD []

/-- A committed transition. -/
structure Commit (s t : State) (transition : Transition) (item changed : Json) : Prop where
  object : item.isObj = true
  moved : Moved item changed s.tick transition
  before : s.item transition.item = some item
  after : t.item transition.item = some changed
  others : ∀ other, other ≠ transition.item → t.item other = s.item other
  entries : ∀ entry ∈ t.items, entry = changed ∨ entry ∈ s.items

omit [Platform] [Scripting] in
theorem State.item_of_files (same : t.files = s.files) (itemId : String) : t.item itemId = s.item itemId := by
  rw [State.item, State.item, same]

theorem Moved.same {item changed : Json} {n : Nat} {transition : Transition}
    (moved : Moved item changed n transition) : changed.get "id" = item.get "id" := by
  cases moved <;> rename_i leaves <;> exact leaves.same

/-- A call that succeeds commits, or marks a done item. -/
theorem call_ok {site : Site} {transition : Transition} (unforced : transition.force = false)
    (ran : perform site transition s.files s.tick = .ok (t.files, t.tick)) :
    (t.files = s.files ∧ MarksDone s.files transition) ∨
      ∃ item changed, Commit s t transition item changed := by
  rcases perform_ok unforced ran with same | ⟨item, changed, changes, moved⟩
  · exact .inl same
  · obtain ⟨checklist, inForce, -, found, later, after, listed⟩ := changes.before
    refine .inr ⟨item, changed, changes.object, moved, ?_, ?_, ?_, ?_⟩
    · rw [State.item, inForce, Option.bind_some, found]
    · rw [State.item, after, Option.bind_some, listed]
      exact find?_replaceFirst_self found moved.same
    · intro other apart
      rw [State.item, State.item, after, inForce, Option.bind_some, Option.bind_some, listed]
      exact find?_replaceFirst_ne apart moved.same found
    · intro entry member
      rw [State.items, after, Option.map_some, Option.getD_some, listed] at member
      rw [State.items, inForce, Option.map_some, Option.getD_some]
      exact mem_replaceFirst member

/-- One step: the files stay, or a transition commits. -/
theorem step_cases {label : Label} (stepped : step s label = some t) :
    t.files = s.files ∨ ∃ site transition item changed, label = .call site transition ∧
      transition.force = false ∧ Commit s t transition item changed := by
  cases label with
  | wait readings =>
    cases stepped
    exact .inl rfl
  | call site transition =>
    dsimp only [step] at stepped
    split at stepped
    · cases stepped
    · rename_i unforced
      rw [Bool.not_eq_true] at unforced
      split at stepped
      · rename_i files tick ran
        cases stepped
        rcases call_ok (t := ⟨files, tick⟩) unforced ran with ⟨same, -⟩ | ⟨item, changed, commit⟩
        · exact .inl same
        · exact .inr ⟨site, transition, item, changed, rfl, unforced, commit⟩
      · cases stepped
        exact .inl rfl

end States

end Coordinate.Checklist
