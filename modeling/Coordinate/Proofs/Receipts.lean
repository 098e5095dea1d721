import Coordinate.Proofs.Ledger

/-! # Chains of receipt events

A ledger is lawful when the rows of every receipt are a chain: an authorization, then a claim, an
application and a consumption that are all bound to it. The step lemmas say what an append of an
operation does to a lawful ledger; what stands in a chain is read off its shape.
-/

namespace Coordinate.Completion

section Transitions

/-- The events of a receipt; a consumption writes the last two. -/
inductive Transition
  | authorized
  | claimed
  | applied
  | done
  | consumed
deriving DecidableEq

/-- The end of the idempotency key. -/
def Transition.suffix : Transition → String
  | authorized => "authorized"
  | claimed => "claimed"
  | applied => "applied"
  | done => "task.done"
  | consumed => "consumed"

def Transition.eventType : Transition → String
  | authorized => "completion.authorized"
  | claimed => "completion.claimed"
  | applied => "completion.applied"
  | done => "task.done"
  | consumed => "completion.consumed"

theorem Transition.suffix_plain (transition : Transition) : ':' ∉ transition.suffix.toList := by
  cases transition <;> decide

theorem Transition.suffix_inj {a b : Transition} (same : a.suffix = b.suffix) : a = b := by
  cases a <;> cases b <;> first | rfl | exact absurd same (by decide)

theorem Transition.eventType_inj {a b : Transition} (same : a.eventType = b.eventType) : a = b := by
  cases a <;> cases b <;> first | rfl | exact absurd same (by decide)

end Transitions

variable [Platform]

section Grants

/-- What an authorization grants: the fields of its payload that later events are bound to. -/
structure Grant where
  receiptId : String
  workspaceId : String
  taskId : String
  actor : String
  fingerprint : String
  payload : Json

namespace Grant

variable (grant : Grant) (expected : String)

/-- The row is the event of a transition of the receipt. -/
structure Records (transition : Transition) (row : EventRow) : Prop where
  type : row.eventType = transition.eventType
  key : row.idempotencyKey = receiptKey grant.receiptId transition.suffix
  receipt : row.receipt = some grant.receiptId

structure Authorizes (row : EventRow) : Prop where
  type : row.eventType = "completion.authorized"
  key : row.idempotencyKey = receiptKey grant.receiptId "authorized"
  decoded : row.payloadJson = .value grant.payload
  receiptId : grant.payload.get "receipt_id" = .str grant.receiptId
  workspaceId : grant.payload.get "workspace_id" = .str grant.workspaceId
  taskId : grant.payload.get "task_id" = .str grant.taskId
  actor : grant.payload.get "authorized_actor" = .str grant.actor
  plain : grant.payload.get "actor" = .null
  status : grant.payload.get "status" = .str statusAuthorized
  fingerprint : grant.payload.get "harness_fingerprint" = .str grant.fingerprint
  item : ∃ item, grant.fingerprint = computeItemFingerprint item

/-- The claim that the grant admits, up to the fingerprint that it expects. -/
def claim : ReceiptClaim :=
  ⟨grant.receiptId, grant.workspaceId, grant.taskId, grant.actor, grant.fingerprint, expected⟩

def application : ReceiptApplication :=
  ⟨grant.receiptId, grant.workspaceId, grant.taskId, grant.actor, expected⟩

structure Claims (row : EventRow) : Prop where
  digest : isCanonicalSha256 (.str expected) = true
  recorded : ∃ claimedAt eventId createdAt,
    row = (claimedEvent (grant.claim expected) claimedAt).toRow eventId createdAt

def Applies (row : EventRow) : Prop :=
  ∃ appliedAt eventId createdAt, row =
    (appliedEvent (grant.application expected) (.str grant.fingerprint) appliedAt).toRow eventId createdAt

/-- The consumption is one of the receipt by the actor that it authorizes. -/
structure Admits (consumption : ReceiptConsumption) : Prop where
  receiptId : consumption.receiptId = grant.receiptId
  actor : consumption.actor = grant.actor

def Completes (item : Json) (row : EventRow) : Prop :=
  ∃ consumption eventId createdAt, grant.Admits consumption ∧ eventId ≠ "" ∧
    row = (consumptionEvent consumption (some grant.workspaceId) (some grant.taskId) "task.done"
      "task.done" (taskDonePayload consumption grant.payload (.str expected) item)).toRow eventId createdAt

def Consumes (doneId : String) (row : EventRow) : Prop :=
  ∃ consumption consumedAt eventId createdAt, grant.Admits consumption ∧
    row = (consumptionEvent consumption (some grant.workspaceId) (some grant.taskId)
      "completion.consumed" "consumed"
      (consumedPayload consumption grant.payload doneId consumedAt)).toRow eventId createdAt

/-- An item that is done and closed and that nobody owns, with the expected fingerprint. -/
structure Finishes (item : Json) : Prop where
  status : item.get "status" = .str "done"
  workflow : (workflowOf item).get "status" = .str "closed"
  unowned : terminalOwnershipProblem item = none
  fingerprint : computeItemFingerprint item = expected

/-- A reading of a checkout found the item of the task when the chain of the receipt was `before`. -/
def Deployed [Deployment] (s : Ledger) (item : Json) (before : List EventRow) : Prop :=
  ∃ reading count adapter checklist, s.readings[reading]? = some count ∧ count ≤ (rowsOf s).length ∧
    Deployment.readChecklist reading adapter = .ok checklist ∧
    findItem checklist (.str grant.taskId) = some item ∧
    receiptRows grant.receiptId ((rowsOf s).take count) = before

variable {grant expected} {other : Grant} {row : EventRow}

theorem Authorizes.records (authorizes : grant.Authorizes row) : grant.Records .authorized row :=
  ⟨authorizes.type, authorizes.key, receipt_eq_some.mpr
    (by rw [EventRow.decoded, authorizes.decoded]; exact authorizes.receiptId)⟩

/-- A row authorizes one grant. -/
theorem Authorizes.unique (left : grant.Authorizes row) (right : other.Authorizes row) :
    other = grant := by
  have payload : other.payload = grant.payload :=
    JsonText.value.inj (right.decoded.symm.trans left.decoded)
  have receiptId := right.receiptId
  have workspaceId := right.workspaceId
  have taskId := right.taskId
  have actor := right.actor
  have fingerprint := right.fingerprint
  rw [payload, left.receiptId, Json.str.injEq] at receiptId
  rw [payload, left.workspaceId, Json.str.injEq] at workspaceId
  rw [payload, left.taskId, Json.str.injEq] at taskId
  rw [payload, left.actor, Json.str.injEq] at actor
  rw [payload, left.fingerprint, Json.str.injEq] at fingerprint
  cases grant
  cases other
  simp_all

omit [Platform] in
theorem Claims.records (claims : grant.Claims expected row) : grant.Records .claimed row := by
  obtain ⟨-, claimedAt, eventId, createdAt, rfl⟩ := claims
  exact ⟨rfl, toRow_receiptKey rfl, rfl⟩

omit [Platform] in
theorem Applies.records (applies : grant.Applies expected row) : grant.Records .applied row := by
  obtain ⟨appliedAt, eventId, createdAt, rfl⟩ := applies
  exact ⟨rfl, toRow_receiptKey rfl, rfl⟩

omit [Platform] in
theorem Consumes.records {doneId : String} (consumes : grant.Consumes doneId row) :
    grant.Records .consumed row := by
  obtain ⟨consumption, consumedAt, eventId, createdAt, admits, rfl⟩ := consumes
  refine ⟨rfl, ?_, ?_⟩
  · rw [← admits.receiptId]
    exact toRow_receiptKey rfl
  · rw [← admits.receiptId]
    rfl

theorem Completes.records {item : Json} (completes : grant.Completes expected item row) :
    grant.Records .done row := by
  obtain ⟨consumption, eventId, createdAt, admits, -, rfl⟩ := completes
  refine ⟨rfl, ?_, ?_⟩
  · rw [← admits.receiptId]
    exact toRow_receiptKey rfl
  · rw [receipt_eq_some, EventRow.decoded, decoded_taskDone, taskDonePayload_get (by decide),
      ← admits.receiptId]
    rfl

/-- The fingerprint that a completion has applied. -/
theorem Completes.fingerprint {item : Json} {row : EventRow}
    (completes : grant.Completes expected item row) :
    row.decoded.get "applied_fingerprint" = .str expected := by
  obtain ⟨consumption, eventId, createdAt, -, -, rfl⟩ := completes
  have different : "applied_fingerprint" ≠ "verification" := by decide
  rw [EventRow.decoded, decoded_taskDone, taskDonePayload_get different]
  rfl

omit [Platform] in
theorem Claims.expected_eq {first second : String} (left : grant.Claims first row)
    (right : grant.Claims second row) : first = second := by
  obtain ⟨-, claimedAt, eventId, createdAt, rfl⟩ := left
  obtain ⟨-, claimedAt', eventId', createdAt', same⟩ := right
  have payloads := congrArg (fun row => row.decoded.get "expected_after_fingerprint") same
  exact Json.str.inj payloads

omit [Platform] in
theorem Applies.expected_eq {first second : String} (left : grant.Applies first row)
    (right : grant.Applies second row) : first = second := by
  obtain ⟨appliedAt, eventId, createdAt, rfl⟩ := left
  obtain ⟨appliedAt', eventId', createdAt', same⟩ := right
  have payloads := congrArg (fun row => row.decoded.get "after_fingerprint") same
  exact Json.str.inj payloads

end Grant

end Grants

section Chains

variable [Deployment]

/-- The rows of a receipt, in the order in which they were recorded. -/
inductive Chain (s : Ledger) (grant : Grant) (expected : String) : List EventRow → Prop
  | authorized {a : EventRow} (authorizes : grant.Authorizes a) : Chain s grant expected [a]
  | claimed {a c : EventRow} (authorizes : grant.Authorizes a) (claims : grant.Claims expected c) :
    Chain s grant expected [a, c]
  | applied {a c p : EventRow} (authorizes : grant.Authorizes a) (claims : grant.Claims expected c)
      (applies : grant.Applies expected p) : Chain s grant expected [a, c, p]
  | consumed {a c p d x : EventRow} {item : Json} (authorizes : grant.Authorizes a)
      (claims : grant.Claims expected c) (applies : grant.Applies expected p)
      (completes : grant.Completes expected item d) (consumes : grant.Consumes d.id x)
      (finishes : Grant.Finishes expected item) (deployed : grant.Deployed s item [a, c, p]) :
    Chain s grant expected [a, c, p, d, x]

/-- What a row of a chain says about the chain. -/
inductive Role (grant : Grant) (expected : String) (chain : List EventRow)
    (row : EventRow) : Transition → Prop
  | authorized (authorizes : grant.Authorizes row) : Role grant expected chain row .authorized
  | claimed (claims : grant.Claims expected row) : Role grant expected chain row .claimed
  | applied {c : EventRow} (member : c ∈ chain) (claims : grant.Claims expected c)
      (applies : grant.Applies expected row) : Role grant expected chain row .applied
  | done {c p x : EventRow} {item : Json} (claimed : c ∈ chain) (claims : grant.Claims expected c)
      (applied : p ∈ chain) (applies : grant.Applies expected p)
      (completes : grant.Completes expected item row) (consumed : x ∈ chain)
      (consumes : grant.Consumes row.id x) : Role grant expected chain row .done
  | consumed {d : EventRow} {item : Json} (member : d ∈ chain)
      (completes : grant.Completes expected item d)
      (consumes : grant.Consumes d.id row) : Role grant expected chain row .consumed

variable {s t : Ledger} {grant other : Grant} {expected : String} {chain : List EventRow}
  {row : EventRow}

omit [Deployment] in
theorem Role.records {transition : Transition} (role : Role grant expected chain row transition) :
    grant.Records transition row := by
  cases role with
  | authorized authorizes => exact authorizes.records
  | claimed claims => exact claims.records
  | applied _ _ applies => exact applies.records
  | done _ _ _ _ completes _ _ => exact completes.records
  | consumed _ _ consumes => exact consumes.records

theorem Chain.role (shape : Chain s grant expected chain) (member : row ∈ chain) :
    ∃ transition, Role grant expected chain row transition := by
  cases shape with
  | authorized authorizes =>
    obtain rfl := List.mem_singleton.mp member
    exact ⟨_, .authorized authorizes⟩
  | claimed authorizes claims =>
    simp only [List.mem_cons, List.not_mem_nil, or_false] at member
    obtain rfl | rfl := member
    · exact ⟨_, .authorized authorizes⟩
    · exact ⟨_, .claimed claims⟩
  | applied authorizes claims applies =>
    simp only [List.mem_cons, List.not_mem_nil, or_false] at member
    obtain rfl | rfl | rfl := member
    · exact ⟨_, .authorized authorizes⟩
    · exact ⟨_, .claimed claims⟩
    · exact ⟨_, .applied (by simp) claims applies⟩
  | consumed authorizes claims applies completes consumes finishes deployed =>
    simp only [List.mem_cons, List.not_mem_nil, or_false] at member
    obtain rfl | rfl | rfl | rfl | rfl := member
    · exact ⟨_, .authorized authorizes⟩
    · exact ⟨_, .claimed claims⟩
    · exact ⟨_, .applied (by simp) claims applies⟩
    · exact ⟨_, .done (by simp) claims (by simp) applies completes (by simp) consumes⟩
    · exact ⟨_, .consumed (by simp) completes consumes⟩

/-- The role of a row follows from its type. -/
theorem Chain.role_of (shape : Chain s grant expected chain) (transition : Transition)
    (member : row ∈ chain) (type : row.eventType = transition.eventType) :
    Role grant expected chain row transition := by
  obtain ⟨found, role⟩ := shape.role member
  rwa [← Transition.eventType_inj (role.records.type.symm.trans type)]

omit [Platform] in
theorem Deployed.evolves {item : Json} {before : List EventRow} (evolves : Evolves s t)
    (deployed : grant.Deployed s item before) : grant.Deployed t item before := by
  obtain ⟨reading, count, adapter, checklist, noted, bound, read, found, stood⟩ := deployed
  obtain ⟨more, rows⟩ := evolves.rows
  obtain ⟨later, readings⟩ := evolves.readings
  refine ⟨reading, count, adapter, checklist, ?_, ?_, read, found, ?_⟩
  · rw [← readings, List.getElem?_append_left (List.getElem?_eq_some_iff.mp noted).1, noted]
  · rw [← rows, List.length_append]
    omega
  · rw [← rows, List.take_append_of_le_length bound, stood]

theorem Chain.evolves (evolves : Evolves s t) (shape : Chain s grant expected chain) :
    Chain t grant expected chain := by
  cases shape with
  | authorized authorizes => exact .authorized authorizes
  | claimed authorizes claims => exact .claimed authorizes claims
  | applied authorizes claims applies => exact .applied authorizes claims applies
  | consumed authorizes claims applies completes consumes finishes deployed =>
    exact .consumed authorizes claims applies completes consumes finishes
      (Deployed.evolves evolves deployed)

/-- A ledger whose receipts are chains. -/
structure Lawful (s : Ledger) : Prop where
  foreign : ∀ row ∈ rowsOf s, row.receipt = none →
    Text.startsWith row.idempotencyKey "receipt:" = false
  chains : ∀ row ∈ rowsOf s, ∀ receiptId, row.receipt = some receiptId →
    ∃ grant expected, grant.receiptId = receiptId ∧
      Chain s grant expected (receiptRows receiptId (rowsOf s))
  noted : ∀ count ∈ s.readings, count ≤ (rowsOf s).length

/-- The chain of a receipt. -/
def Chained (s : Ledger) (grant : Grant) (expected : String) : Prop :=
  Chain s grant expected (receiptRows grant.receiptId (rowsOf s))

theorem Chained.role_of (chained : Chained s grant expected) (transition : Transition)
    (member : row ∈ rowsOf s) (receipt : row.receipt = some grant.receiptId)
    (type : row.eventType = transition.eventType) :
    Role grant expected (receiptRows grant.receiptId (rowsOf s)) row transition :=
  Chain.role_of chained transition (mem_receiptRows.mpr ⟨member, receipt⟩) type

theorem Lawful.chained (lawful : Lawful s) (member : row ∈ rowsOf s)
    (authorizes : grant.Authorizes row) : ∃ expected, Chained s grant expected := by
  have records := authorizes.records
  obtain ⟨other, expected, same, shape⟩ := lawful.chains row member _ records.receipt
  have role := shape.role_of .authorized (mem_receiptRows.mpr ⟨member, records.receipt⟩)
    records.type
  cases role with
  | authorized second =>
    obtain rfl := second.unique authorizes
    exact ⟨expected, shape⟩

/-- The row that an event finds in place of itself is the one of its transition. -/
theorem Lawful.records_of_key (lawful : Lawful s) (member : row ∈ rowsOf s) {receiptId : String}
    {transition : Transition} (key : row.idempotencyKey = receiptKey receiptId transition.suffix) :
    row.receipt = some receiptId ∧ row.eventType = transition.eventType := by
  cases carried : row.receipt with
  | none =>
    have foreign := lawful.foreign row member carried
    rw [key, receiptKey_startsWith] at foreign
    cases foreign
  | some found =>
    obtain ⟨grant, expected, same, shape⟩ := lawful.chains row member found carried
    obtain ⟨other, role⟩ := shape.role (mem_receiptRows.mpr ⟨member, carried⟩)
    have records := role.records
    obtain ⟨ids, suffixes⟩ := receiptKey_inj transition.suffix_plain other.suffix_plain
      (key.symm.trans records.key)
    obtain rfl := Transition.suffix_inj suffixes
    exact ⟨by rw [ids, ← same], records.type⟩

end Chains

section Steps

variable [Deployment] {s t : Ledger} {grant : Grant} {expected : String} {chain : List EventRow}

theorem Lawful.of_quiet (lawful : Lawful s) (quiet : Quiet s t) : Lawful t := by
  have rows : rowsOf t = rowsOf s := by rw [rowsOf, rowsOf, quiet.store]
  refine ⟨?_, ?_, ?_⟩
  · rw [rows]
    exact lawful.foreign
  · rw [rows]
    intro row member receiptId receipt
    obtain ⟨grant, expected, same, shape⟩ := lawful.chains row member receiptId receipt
    exact ⟨grant, expected, same, shape.evolves quiet.evolves⟩
  · rw [rows]
    intro count member
    obtain same | noted := quiet.readings
    · exact lawful.noted count (same ▸ member)
    · rw [noted, List.mem_append, List.mem_singleton] at member
      obtain old | rfl := member
      · exact lawful.noted count old
      · exact Nat.le_refl _

theorem discipline : Discipline Lawful Evolves where
  refl := Evolves.refl
  trans := Evolves.trans
  quiet _ _ lawful quiet := ⟨lawful.of_quiet quiet, quiet.evolves⟩

/-- Rows that are added to one receipt leave the chains of the others alone. -/
theorem Lawful.extend (lawful : Lawful s) {added : List EventRow}
    (shape : Chain t grant expected (receiptRows grant.receiptId (rowsOf s) ++ added))
    (rows : rowsOf t = rowsOf s ++ added) (readings : t.readings = s.readings)
    (carried : ∀ row ∈ added, row.receipt = some grant.receiptId) :
    Lawful t ∧ Evolves s t := by
  have evolves : Evolves s t :=
    ⟨rows ▸ List.prefix_append _ _, readings ▸ List.prefix_rfl⟩
  have own : receiptRows grant.receiptId added = added :=
    List.filter_eq_self.mpr fun row member => decide_eq_true (carried row member)
  refine ⟨⟨?_, ?_, ?_⟩, evolves⟩
  · intro row member receipt
    rw [rows, List.mem_append] at member
    obtain old | new := member
    · exact lawful.foreign row old receipt
    · rw [carried row new] at receipt
      cases receipt
  · intro row member receiptId receipt
    rw [rows, receiptRows_append]
    by_cases same : receiptId = grant.receiptId
    · subst same
      exact ⟨grant, expected, rfl, by rwa [own]⟩
    · have apart : receiptRows receiptId added = [] :=
        List.filter_eq_nil_iff.mpr fun other new => by
          simp [carried other new, Ne.symm same]
      rw [rows, List.mem_append] at member
      obtain old | new := member
      · obtain ⟨other, otherExpected, sameId, otherShape⟩ := lawful.chains row old receiptId receipt
        rw [apart, List.append_nil]
        exact ⟨other, otherExpected, sameId, otherShape.evolves evolves⟩
      · rw [carried row new] at receipt
        exact absurd (Option.some.inj receipt).symm same
  · intro count member
    rw [readings] at member
    rw [rows, List.length_append]
    exact Nat.le_add_right_of_le (lawful.noted count member)

/-- An append under the key of a receipt: a new row where the transition is not recorded yet, or the
row of the transition. -/
inductive ReceiptAppend (s : Ledger) (event : NewEvent) (receiptId : String)
    (transition : Transition) (w : Work Db) (result : AppendEventResult) : Prop
  | created (eventId : String) (createdAt : Nat) (identified : eventId ≠ "")
      (row : result.row = event.toRow eventId createdAt)
      (rows : w.store.events.rows = rowsOf s ++ [result.row])
      (free : ∀ other ∈ receiptRows receiptId (rowsOf s), other.eventType ≠ transition.eventType)
  | existing (store : w.store = s.work.store) (member : result.row ∈ rowsOf s)
      (receipt : result.row.receipt = some receiptId)
      (type : result.row.eventType = transition.eventType)

omit [Deployment] in
theorem uuid4_ne_empty (draw : Nat) : Platform.uuid4 draw ≠ "" := by
  intro empty
  have length := Text.uuidShape_length (Platform.uuid4_form draw)
  rw [empty] at length
  cases length

theorem Lawful.appended (lawful : Lawful s) {event : NewEvent} (receiptId : String)
    (transition : Transition) {w : Work Db} {result : AppendEventResult}
    (keyed : event.idempotencyKey = some (receiptKey receiptId transition.suffix))
    (ran : (appendEvent event).run s.work = .ok result w) :
    ReceiptAppend s event receiptId transition w result := by
  cases appendEvent_ok ran with
  | created events inserted store =>
    refine .created _ _ (uuid4_ne_empty _) rfl ?_ ?_
    · rw [store]
      exact Table.insert?_rows inserted
    · intro other member type
      obtain ⟨stored, receipt⟩ := mem_receiptRows.mp member
      obtain ⟨grant, expected, same, shape⟩ := lawful.chains other stored receiptId receipt
      have records := (shape.role_of transition member type).records
      have apart := (Table.insert?_fits inserted).2 other stored
      simp only [eventSchema, Bool.or_eq_false_iff, decide_eq_false_iff_not] at apart
      exact apart.2 (by rw [records.key, toRow_receiptKey keyed, same])
  | existing row member key store =>
    rw [toRow_receiptKey keyed] at key
    obtain ⟨receipt, type⟩ := lawful.records_of_key member key
    exact .existing store member receipt type

/-- A chain without a claim is its authorization. -/
theorem Chain.unclaimed (shape : Chain s grant expected chain)
    (free : ∀ other ∈ chain, other.eventType ≠ Transition.claimed.eventType) :
    ∃ a, chain = [a] ∧ grant.Authorizes a := by
  cases shape with
  | authorized authorizes => exact ⟨_, rfl, authorizes⟩
  | claimed _ claims => exact absurd claims.records.type (free _ (by simp))
  | applied _ claims _ => exact absurd claims.records.type (free _ (by simp))
  | consumed _ claims _ _ _ _ _ => exact absurd claims.records.type (free _ (by simp))

/-- A chain with a claim and without an application ends with the claim. -/
theorem Chain.unapplied (shape : Chain s grant expected chain) {claimed : EventRow}
    (member : claimed ∈ chain) (type : claimed.eventType = Transition.claimed.eventType)
    (free : ∀ other ∈ chain, other.eventType ≠ Transition.applied.eventType) :
    ∃ a c, chain = [a, c] ∧ grant.Authorizes a ∧ grant.Claims expected c := by
  cases shape with
  | authorized authorizes =>
    obtain rfl := List.mem_singleton.mp member
    exact absurd (authorizes.records.type.symm.trans type) (by decide)
  | claimed authorizes claims => exact ⟨_, _, rfl, authorizes, claims⟩
  | applied _ _ applies => exact absurd applies.records.type (free _ (by simp))
  | consumed _ _ applies _ _ _ _ => exact absurd applies.records.type (free _ (by simp))

/-- A chain with an application and without a completion ends with the application. -/
theorem Chain.unfinished (shape : Chain s grant expected chain) {applied : EventRow}
    (member : applied ∈ chain) (type : applied.eventType = Transition.applied.eventType)
    (free : ∀ other ∈ chain, other.eventType ≠ Transition.done.eventType) :
    ∃ a c p, chain = [a, c, p] ∧ grant.Authorizes a ∧ grant.Claims expected c ∧
      grant.Applies expected p := by
  cases shape with
  | authorized authorizes =>
    obtain rfl := List.mem_singleton.mp member
    exact absurd (authorizes.records.type.symm.trans type) (by decide)
  | claimed authorizes claims =>
    simp only [List.mem_cons, List.not_mem_nil, or_false] at member
    obtain rfl | rfl := member
    · exact absurd (authorizes.records.type.symm.trans type) (by decide)
    · exact absurd (claims.records.type.symm.trans type) (by decide)
  | applied authorizes claims applies => exact ⟨_, _, _, rfl, authorizes, claims, applies⟩
  | consumed _ _ _ completes _ _ _ => exact absurd completes.records.type (free _ (by simp))

/-- What an append to a chain leaves. -/
structure Advances (s : Ledger) (w : Work Db) (row : EventRow) (recorded : EventRow → Prop) :
    Prop where
  lawful : Lawful { s with work := w }
  evolves : Evolves s { s with work := w }
  member : row ∈ w.store.events.rows
  recorded : recorded row

/-- An append that finds its transition recorded changes nothing. -/
theorem Lawful.unchanged (lawful : Lawful s) {w : Work Db} (store : w.store = s.work.store) :
    Lawful { s with work := w } ∧ Evolves s { s with work := w } :=
  discipline.quiet s _ lawful ⟨store, .inl rfl⟩

/-- A new row at the end of a chain. -/
theorem Lawful.advance (lawful : Lawful s) {w : Work Db} {row : EventRow} (rows : w.store.events.rows = rowsOf s ++ [row])
    (receipt : row.receipt = some grant.receiptId)
    (shape : Chain s grant expected (receiptRows grant.receiptId (rowsOf s) ++ [row])) :
    Lawful { s with work := w } ∧ Evolves s { s with work := w } := by
  have evolves : Evolves s { s with work := w } :=
    ⟨by rw [rowsOf, rowsOf, rows]; exact List.prefix_append _ _, List.prefix_rfl⟩
  refine lawful.extend (shape.evolves evolves) rows rfl ?_
  intro other member
  rw [List.mem_singleton.mp member]
  exact receipt

theorem claim_step (lawful : Lawful s) {before : String} (chained : Chained s grant before)
    (digest : isCanonicalSha256 (.str expected) = true)
    (agrees : ∀ row ∈ rowsOf s, row.eventType = "completion.claimed" →
      row.receipt = some grant.receiptId →
      row.decoded.get "expected_after_fingerprint" = .str expected)
    {claimedAt : Nat} {result : AppendEventResult} {w : Work Db}
    (ran : (appendEvent (claimedEvent (grant.claim expected) claimedAt)).run s.work = .ok result w) :
    Advances s w result.row (grant.Claims expected) := by
  cases lawful.appended grant.receiptId .claimed rfl ran with
  | created eventId createdAt identified row rows free =>
    have claims : grant.Claims expected result.row := ⟨digest, _, _, _, row⟩
    obtain ⟨a, shape, authorizes⟩ := Chain.unclaimed chained free
    obtain ⟨kept, evolved⟩ := lawful.advance rows claims.records.receipt
      (by rw [shape]; exact .claimed authorizes claims)
    exact ⟨kept, evolved, by simp [rows], claims⟩
  | existing store member receipt type =>
    obtain ⟨kept, evolved⟩ := lawful.unchanged store
    refine ⟨kept, evolved, by rw [store]; exact member, ?_⟩
    cases chained.role_of .claimed member receipt type with
    | claimed claims =>
      -- the claim that came first expects the same fingerprint
      have same := agrees _ member type receipt
      obtain ⟨claimedDigest, at', id', created', recorded⟩ := claims
      rw [recorded] at same ⊢
      obtain rfl : before = expected := Json.str.inj same
      exact ⟨digest, _, _, _, rfl⟩

theorem apply_step (lawful : Lawful s) (chained : Chained s grant expected) {claimed : EventRow}
    (claimedMember : claimed ∈ rowsOf s) (claims : grant.Claims expected claimed)
    {appliedAt : Nat} {result : AppendEventResult} {w : Work Db}
    (ran : (appendEvent (appliedEvent (grant.application expected) (.str grant.fingerprint)
      appliedAt)).run s.work = .ok result w) :
    Advances s w result.row (grant.Applies expected) := by
  cases lawful.appended grant.receiptId .applied rfl ran with
  | created eventId createdAt identified row rows free =>
    have applies : grant.Applies expected result.row := ⟨_, _, _, row⟩
    obtain ⟨a, c, shape, authorizes, ownClaims⟩ := Chain.unapplied chained
      (mem_receiptRows.mpr ⟨claimedMember, claims.records.receipt⟩) claims.records.type free
    obtain ⟨kept, evolved⟩ := lawful.advance rows applies.records.receipt
      (by rw [shape]; exact .applied authorizes ownClaims applies)
    exact ⟨kept, evolved, by simp [rows], applies⟩
  | existing store member receipt type =>
    obtain ⟨kept, evolved⟩ := lawful.unchanged store
    refine ⟨kept, evolved, by rw [store]; exact member, ?_⟩
    cases chained.role_of .applied member receipt type with
    | applied _ _ applies => exact applies

theorem issue_step (lawful : Lawful s)
    {request : PrepareRequest} {facts : String → String → Authorization}
    (own : ∀ receiptId nonce, (facts receiptId nonce).receiptId = receiptId)
    (item : ∀ receiptId nonce, ∃ item,
      (facts receiptId nonce).harnessFingerprint = computeItemFingerprint item)
    {result : AppendEventResult} {w : Work Db} {receiptId nonce : String}
    (fresh : ∀ row ∈ rowsOf s, row.receipt ≠ some receiptId)
    (ran : (appendEvent (authorizedEvent request (facts receiptId nonce))).run
      { s.work with draws := s.work.draws + 2 } = .ok result w) :
    Advances s w result.row (Grant.Authorizes ⟨receiptId, request.workspaceId, request.taskId,
      request.authorized, (facts receiptId nonce).harnessFingerprint,
      authorizedPayload request (facts receiptId nonce)⟩) := by
  have drawing : Quiet s { s with work := { s.work with draws := s.work.draws + 2 } } :=
    ⟨rfl, .inl rfl⟩
  have keyed : (authorizedEvent request (facts receiptId nonce)).idempotencyKey =
      some (receiptKey receiptId Transition.authorized.suffix) := by
    simp only [authorizedEvent, own]
    rfl
  cases (lawful.of_quiet drawing).appended receiptId .authorized keyed ran with
  | created eventId createdAt identified row rows free =>
    have authorizes : Grant.Authorizes ⟨receiptId, request.workspaceId, request.taskId,
        request.authorized, (facts receiptId nonce).harnessFingerprint,
        authorizedPayload request (facts receiptId nonce)⟩ result.row := by
      rw [row]
      refine ⟨rfl, toRow_receiptKey keyed, rfl, ?_, rfl, rfl, rfl, rfl, rfl, rfl, item _ _⟩
      exact congrArg Json.str (own receiptId nonce)
    have unknown : receiptRows receiptId (rowsOf s) = [] :=
      List.filter_eq_nil_iff.mpr fun other member => by simp [fresh other member]
    have shape := (.authorized authorizes : Chain { s with work := w } _ "" [result.row])
    have alone : receiptRows receiptId (rowsOf s) ++ [result.row] = [result.row] := by
      rw [unknown, List.nil_append]
    rw [← alone] at shape
    obtain ⟨kept, evolved⟩ := lawful.extend shape rows rfl fun other member => by
      rw [List.mem_singleton.mp member]
      exact authorizes.records.receipt
    exact ⟨kept, evolved, by simp [rows], authorizes⟩
  | existing store member receipt type => exact absurd receipt (fresh _ member)

omit [Deployment] in
/-- Where an application stood when a checkout was read, and a completion does not stand yet, the chain
was the same then. -/
theorem Chain.stood {a c p applied : EventRow} {before : List EventRow}
    (authorizes : grant.Authorizes a) (claims : grant.Claims expected c)
    (grown : before <+: [a, c, p]) (seen : applied ∈ before)
    (type : applied.eventType = Transition.applied.eventType) : before = [a, c, p] := by
  obtain ⟨rest, split⟩ := grown
  have first : applied ≠ a := by
    rintro rfl
    exact absurd (authorizes.records.type.symm.trans type) (by decide)
  have second : applied ≠ c := by
    rintro rfl
    exact absurd (claims.records.type.symm.trans type) (by decide)
  match before, seen, split with
  | [x], seen, split =>
    simp only [List.singleton_append, List.cons.injEq] at split
    simp [split.1, first] at seen
  | [x, y], seen, split =>
    simp only [List.cons_append, List.nil_append, List.cons.injEq] at split
    simp [split.1, split.2.1, first, second] at seen
  | x :: y :: z :: more, seen, split =>
    simp only [List.cons_append, List.cons.injEq, List.append_eq_nil_iff] at split
    obtain ⟨rfl, rfl, rfl, rfl, -⟩ := split
    rfl

/-- A reading of a checkout that found an item, made when the rows `seen` were recorded. -/
structure Reading (s : Ledger) (taskId : String) (item : Json) (seen : List EventRow) : Prop where
  reading : ∃ reading count adapter checklist, s.readings[reading]? = some count ∧
    count ≤ (rowsOf s).length ∧ Deployment.readChecklist reading adapter = .ok checklist ∧
    findItem checklist (.str taskId) = some item ∧ seen = (rowsOf s).take count

omit [Platform] in
theorem Reading.deployed {item : Json} {seen : List EventRow}
    (read : Reading s grant.taskId item seen) :
    grant.Deployed s item (receiptRows grant.receiptId seen) := by
  obtain ⟨reading, count, adapter, checklist, noted, bound, listed, found, rfl⟩ := read
  exact ⟨reading, count, adapter, checklist, noted, bound, listed, found, rfl⟩

omit [Platform] in
theorem Reading.earlier {item : Json} {seen : List EventRow} (read : Reading s grant.taskId item seen) :
    seen <+: rowsOf s := by
  obtain ⟨reading, count, adapter, checklist, noted, bound, listed, found, rfl⟩ := read
  exact List.take_prefix _ _

/-- The last two rows of a chain are recorded together. -/
theorem terminal_step (lawful : Lawful s) (chained : Chained s grant expected)
    {consumption : ReceiptConsumption} (admits : grant.Admits consumption) {item : Json}
    (finishes : Grant.Finishes expected item) {seen : List EventRow}
    (read : Reading s grant.taskId item seen) {applied : EventRow} (appliedMember : applied ∈ seen)
    (applies : grant.Applies expected applied) {consumedAt : Nat}
    {done consumed : AppendEventResult} {w : Work Db}
    (ran : (appendTerminal consumption grant.payload (.str expected) item (some grant.workspaceId)
      (some grant.taskId) consumedAt).run s.work = .ok (done, consumed) w) :
    Advances s w done.row fun row => ∃ item, grant.Completes expected item row := by
  obtain ⟨first, middle, doneRan, ran⟩ := Txn.bind_ok.mp ran
  obtain ⟨_, _, decoded, ran⟩ := Txn.bind_ok.mp ran
  obtain ⟨-, rfl⟩ := Txn.orRaise_ok.mp decoded
  obtain ⟨second, last, consumedRan, ran⟩ := Txn.bind_ok.mp ran
  simp only [Txn.pure_run, EStateM.Result.ok.injEq, Prod.mk.injEq] at ran
  obtain ⟨⟨rfl, rfl⟩, rfl⟩ := ran
  have doneKey : ∀ payload, (consumptionEvent consumption (some grant.workspaceId)
      (some grant.taskId) "task.done" "task.done" payload).idempotencyKey =
        some (receiptKey grant.receiptId Transition.done.suffix) := by
    intro payload
    rw [← admits.receiptId]
    rfl
  have consumedKey : ∀ payload, (consumptionEvent consumption (some grant.workspaceId)
      (some grant.taskId) "completion.consumed" "consumed" payload).idempotencyKey =
        some (receiptKey grant.receiptId Transition.consumed.suffix) := by
    intro payload
    rw [← admits.receiptId]
    rfl
  cases lawful.appended grant.receiptId .done (doneKey _) doneRan with
  | created eventId createdAt identified row rows free =>
    have completes : grant.Completes expected item first.row := ⟨_, _, _, admits, identified, row⟩
    obtain ⟨a, c, p, shape, authorizes, claims, ownApplies⟩ := Chain.unfinished chained
      (mem_receiptRows.mpr ⟨read.earlier.subset appliedMember, applies.records.receipt⟩)
      applies.records.type free
    -- no consumption stands in the chain, so the second event is new as well
    have later : last.store.events.rows = middle.store.events.rows ++ [second.row] ∧
        grant.Consumes first.row.id second.row := by
      cases appendEvent_ok consumedRan with
      | created events inserted store =>
        refine ⟨?_, _, _, _, _, admits, rfl⟩
        rw [store]
        exact Table.insert?_rows inserted
      | existing found member key store =>
        rw [toRow_receiptKey (consumedKey _)] at key
        rw [Table.mem_def, rows, List.mem_append, List.mem_singleton] at member
        obtain old | rfl := member
        · obtain ⟨receipt, type⟩ := lawful.records_of_key old key
          have listed := mem_receiptRows.mpr ⟨old, receipt⟩
          rw [shape] at listed
          simp only [List.mem_cons, List.not_mem_nil, or_false] at listed
          obtain rfl | rfl | rfl := listed
          · exact absurd (authorizes.records.type.symm.trans type) (by decide)
          · exact absurd (claims.records.type.symm.trans type) (by decide)
          · exact absurd (ownApplies.records.type.symm.trans type) (by decide)
        · obtain ⟨-, suffixes⟩ := receiptKey_inj (Transition.suffix_plain _)
            (Transition.suffix_plain _) (completes.records.key.symm.trans key)
          exact absurd suffixes (by decide)
    obtain ⟨lastRows, consumes⟩ := later
    rw [rows, List.append_assoc] at lastRows
    have stood := Chain.stood authorizes claims
      (shape ▸ receiptRows_grow grant.receiptId read.earlier)
      (mem_receiptRows.mpr ⟨appliedMember, applies.records.receipt⟩) applies.records.type
    have deployed := read.deployed
    rw [stood] at deployed
    have evolves : Evolves s { s with work := last } :=
      ⟨by rw [rowsOf, rowsOf, lastRows]; exact List.prefix_append _ _, List.prefix_rfl⟩
    have extended : Chain { s with work := last } grant expected
        (receiptRows grant.receiptId (rowsOf s) ++ [first.row, second.row]) := by
      rw [shape]
      exact .consumed authorizes claims ownApplies completes consumes finishes
        (Deployed.evolves evolves deployed)
    obtain ⟨kept, evolved⟩ := lawful.extend extended lastRows rfl fun other member => by
      simp only [List.mem_cons, List.not_mem_nil, or_false] at member
      obtain rfl | rfl := member
      · exact completes.records.receipt
      · exact consumes.records.receipt
    exact ⟨kept, evolved, by simp [lastRows], _, completes⟩
  | existing store member receipt type =>
    -- both events stand already
    obtain ⟨kept, evolved⟩ := lawful.unchanged store
    cases chained.role_of .done member receipt type with
    | done _ _ _ _ completes consumedMember consumes =>
      cases kept.appended grant.receiptId .consumed (consumedKey _) consumedRan with
      | created _ _ _ _ _ free =>
        refine absurd consumes.records.type (free _ ?_)
        rw [rowsOf, store]
        exact consumedMember
      | existing again _ _ _ =>
        obtain ⟨lastKept, lastEvolved⟩ := lawful.unchanged (w := last)
          (again.trans store)
        exact ⟨lastKept, lastEvolved, by rw [again.trans store]; exact member, _, completes⟩

end Steps

end Coordinate.Completion
