import Coordinate.Model.Installation
import Coordinate.Proofs.Statements

/-! # The deactivation events of an agent are a chain

Each deactivation of an agent appends an event that names its generation and its predecessor, and
`_validated_deactivation_events` reads the whole chain again. Its generations and links are always as
they were written; what may have changed since is the host of the agent, which the validation compares
with the host of every earlier event.
-/

namespace Coordinate

/-- The argument checks of `deactivate_agent`. -/
def Deactivation.validate (request : Deactivation) : Except RuntimeLeaseError Unit := do
  validateId request.agentId "agent_id"
  validateId request.hostId "host_id"
  validateReason request.reason "reason"
  validateId request.actor "actor"

def Deactivation.Valid (request : Deactivation) : Prop :=
  request.validate = .ok ()

/-- The payload of the event that a deactivation appends. -/
def Deactivation.payload (request : Deactivation) (generation : Nat) (previous : Option String)
    (deactivatedAt : Nat) : Json :=
  .obj [("agent_id", .str request.agentId), ("host_id", .str request.hostId),
    ("actor", .str request.actor), ("reason", .str request.reason),
    ("previous_online_state", .str "online"),
    ("deactivated_at", .str (Calendar.isoformat deactivatedAt)), ("generation", .int generation),
    ("previous_deactivation_event_id", .ofOption previous)]

/-- The event that a deactivation appends. -/
def Deactivation.event (request : Deactivation) (generation : Nat) (previous : Option String)
    (deactivatedAt : Nat) : NewEvent where
  workspaceId := none
  eventType := "agent.deactivated"
  actor := request.actor
  target := some request.agentId
  taskId := none
  idempotencyKey := some (deactivationKey request.agentId generation)
  payload := request.payload generation previous deactivatedAt

/-- The events of successive deactivations of an agent, from a generation on. -/
inductive DeactivationChain (agentId : String) : Nat → Option String → List EventRow → Prop
  | nil (generation : Nat) (previous : Option String) : DeactivationChain agentId generation previous []
  | cons {generation : Nat} {previous : Option String} {rest : List EventRow} (request : Deactivation)
      (eventId : String) (deactivatedAt createdAt : Nat) (agent : request.agentId = agentId)
      (valid : request.Valid) (shape : Text.uuidShape eventId.toList = true)
      (time : deactivatedAt < Calendar.horizon)
      (later : DeactivationChain agentId (generation + 1) (some eventId) rest) :
      DeactivationChain agentId generation previous
        ((request.event generation previous deactivatedAt).toRow eventId createdAt :: rest)

/-- The host that a deactivation event names. -/
def EventRow.deactivatedHost (event : EventRow) : Option String :=
  match event.payloadJson with
  | .value payload => (payload.get "host_id").asStr?
  | _ => none

section Keys

variable {agentId other : String} {generation later : Nat}

theorem toList_deactivationKey : (deactivationKey agentId generation).toList =
    ("runtime:agent:".toList ++ agentId.toList ++ ":deactivated".toList) ++
      ':' :: Nat.toDigits 10 generation := by
  simp [deactivationKey, String.toList_append, ToString.toString, Nat.toList_repr]

theorem colon_notMem_digits : ':' ∉ Nat.toDigits 10 generation := fun member =>
  absurd (Nat.isDigit_of_mem_toDigits (by decide) (by decide) member) (by decide)

theorem deactivationKey_injective
    (same : deactivationKey agentId generation = deactivationKey other later) :
    agentId = other ∧ generation = later := by
  have lists := congrArg String.toList same
  rw [toList_deactivationKey, toList_deactivationKey] at lists
  obtain ⟨front, digits⟩ := Text.append_cons_inj colon_notMem_digits colon_notMem_digits lists
  simp only [List.append_cancel_right_eq, List.append_cancel_left_eq, String.toList_inj] at front
  refine ⟨front, ?_⟩
  have values := congrArg (Nat.ofDigitChars 10 · 0) digits
  simpa [Nat.ofDigitChars_toDigits] using values

theorem deactivationKey_ne_empty : deactivationKey agentId generation ≠ "" := by
  intro empty
  have lists := congrArg String.toList empty
  rw [toList_deactivationKey] at lists
  exact absurd lists (List.append_ne_nil_of_right_ne_nil _ (List.cons_ne_nil _ _))

/-- A deactivation key ends with a digit. -/
theorem deactivationKey_last {c : Char}
    (last : [c] <:+ (deactivationKey agentId generation).toList) : c.isDigit = true := by
  rw [toList_deactivationKey, List.append_cons] at last
  obtain ⟨front, same⟩ := last
  have final := congrArg List.getLast? same
  rw [List.getLast?_concat, List.getLast?_append] at final
  cases digits : (Nat.toDigits 10 generation).getLast? with
  | none => exact absurd (List.getLast?_eq_none_iff.mp digits) Nat.toDigits_ne_nil
  | some d =>
    rw [digits, Option.some_or] at final
    cases final
    exact Nat.isDigit_of_mem_toDigits (by decide) (by decide) (List.mem_of_getLast? digits)

/-- A key that belongs to no deactivation, because it does not end with a digit. -/
def EndsInLetter (key : String) : Prop :=
  ∃ c, [c] <:+ key.toList ∧ c.isDigit = false

theorem EndsInLetter.ne_deactivationKey {key : String} (ends : EndsInLetter key) :
    key ≠ deactivationKey agentId generation := by
  rintro rfl
  obtain ⟨c, last, letter⟩ := ends
  rw [deactivationKey_last last] at letter
  cases letter

theorem EndsInLetter.ne_empty {key : String} (ends : EndsInLetter key) : key ≠ "" := by
  rintro rfl
  obtain ⟨c, last, _⟩ := ends
  cases List.suffix_nil.mp last

theorem endsInLetter_registered (agentId hostId : String) {clientType : String}
    (known : ¬ (clientType ≠ "agentd" ∧ clientType ≠ "bridge")) :
    EndsInLetter (s!"runtime:agent:{agentId}:registered:" ++ s!"{hostId}:{clientType}") := by
  have ends : ∀ c, [c] <:+ clientType.toList → [c] <:+
      (s!"runtime:agent:{agentId}:registered:" ++ s!"{hostId}:{clientType}").toList := by
    intro c last
    simp only [String.toList_append, ToString.toString]
    exact last.trans ((List.suffix_append _ _).trans (List.suffix_append _ _))
  have named : clientType = "agentd" ∨ clientType = "bridge" := by
    by_contra unknown
    exact known (not_or.mp unknown)
  obtain rfl | rfl := named
  · exact ⟨'d', ends 'd' (by decide), rfl⟩
  · exact ⟨'e', ends 'e' (by decide), rfl⟩

theorem endsInLetter_heartbeat (agentId : String) (time : Nat) :
    EndsInLetter s!"runtime:agent:{agentId}:heartbeat:{Calendar.isoformat time}" := by
  have last : ['Z'] <:+ (Calendar.isoformat time).toList := by
    rw [Calendar.isoformat, String.toList_ofList]
    exact List.suffix_append _ _
  refine ⟨'Z', ?_, rfl⟩
  rw [String.toList_append]
  exact last.trans (List.suffix_append _ _)

end Keys

section Validation

variable {agentId hostId : String} {generation : Nat} {previous : Option String}
  {rows : List EventRow}

theorem validateText_ok {value label : String} {maxLen : Nat} {u : Unit} :
    validateText value label maxLen = .ok u ↔ value ≠ "" ∧ value = Text.strip value ∧
      value.toList.length ≤ maxLen ∧ Text.hasControl value = false := by
  simp only [validateText, Except.bind_ok, raiseIf_except_ok, ne_eq, not_not, Nat.not_lt,
    Bool.not_eq_true]
  constructor
  · rintro ⟨_, filled, _, stripped, _, short, plain⟩
    exact ⟨filled, stripped, short, plain⟩
  · rintro ⟨filled, stripped, short, plain⟩
    exact ⟨(), filled, (), stripped, (), short, plain⟩

/-- What a text is called does not matter. -/
theorem validateText_label {value label other : String} {maxLen : Nat}
    (valid : validateText value label maxLen = .ok ()) : validateText value other maxLen = .ok () :=
  validateText_ok.mpr (validateText_ok.mp valid)

/-- An identifier of the platform passes the checks of stored ids. -/
theorem validateId_uuid {id label : String} (shape : Text.uuidShape id.toList = true) :
    validateId id label = .ok () := by
  have length := Text.uuidShape_length shape
  have plain := Text.uuidShape_plain shape
  have nonempty : id ≠ "" := by
    rintro rfl
    cases length
  have stripped : Text.strip id = id := Text.strip_eq_self fun c member => (plain c member).1
  have clean : Text.hasControl id = false :=
    List.any_eq_false.mpr fun c member => by simp [(plain c member).2]
  exact validateText_ok.mpr ⟨nonempty, stripped.symm, by rw [length]; decide, clean⟩

theorem storedTimestamp_isoformat {time : Nat} (bound : time < Calendar.horizon) (label : String) :
    storedTimestamp (.str (Calendar.isoformat time)) label = .ok () := by
  simp only [storedTimestamp, Except.bind_ok, raiseIf_except_ok]
  refine ⟨(), ?_, ?_⟩
  · simp [Calendar.hasShape, Calendar.readShape?_isoformat bound]
  · simp [Calendar.parse_isoformat bound]

theorem toDict_event (request : Deactivation) (generation : Nat) (previous : Option String)
    (deactivatedAt : Nat) (eventId : String) (createdAt : Nat) :
    ((request.event generation previous deactivatedAt).toRow eventId createdAt).toDict =
      .ok ⟨(request.event generation previous deactivatedAt).toRow eventId createdAt,
        request.payload generation previous deactivatedAt⟩ := rfl

theorem deactivatedHost_event (request : Deactivation) (generation : Nat)
    (previous : Option String) (deactivatedAt : Nat) (eventId : String) (createdAt : Nat) :
    ((request.event generation previous deactivatedAt).toRow eventId createdAt).deactivatedHost =
      some request.hostId := rfl

theorem Deactivation.Valid.parts {request : Deactivation} (valid : request.Valid) :
    validateId request.agentId "agent_id" = .ok () ∧ validateId request.hostId "host_id" = .ok () ∧
      validateReason request.reason "reason" = .ok () ∧
      validateId request.actor "actor" = .ok () := by
  simp only [Valid, validate, Except.bind_ok] at valid
  obtain ⟨_, agent, _, host, _, reason, actor⟩ := valid
  exact ⟨agent, host, reason, actor⟩

/-- The text fields of a deactivation are stored as they were checked. -/
theorem validateDeactivationTexts_event {request : Deactivation} (valid : request.Valid)
    {eventId : String} (shape : Text.uuidShape eventId.toList = true) {deactivatedAt : Nat}
    (time : deactivatedAt < Calendar.horizon) (createdAt : Nat) :
    validateDeactivationTexts
      ((request.event generation previous deactivatedAt).toRow eventId createdAt)
      (request.payload generation previous deactivatedAt) = .ok () := by
  obtain ⟨_, _, reason, actor⟩ := valid.parts
  simp only [validateDeactivationTexts, Except.bind_ok]
  exact ⟨(), validateId_uuid shape, (), validateText_label actor, (), validateText_label reason,
    storedTimestamp_isoformat time _⟩

/-- One turn of the validation: only the host can differ from what the deactivation wrote. -/
theorem validateDeactivations_cons {request : Deactivation} (valid : request.Valid)
    {eventId : String} (shape : Text.uuidShape eventId.toList = true) {deactivatedAt : Nat}
    (time : deactivatedAt < Calendar.horizon) (createdAt : Nat) :
    let row := (request.event generation previous deactivatedAt).toRow eventId createdAt
    validateDeactivations request.agentId hostId generation previous (row :: rows) =
      if request.hostId = hostId then do
        let later ← validateDeactivations request.agentId hostId (generation + 1) (some eventId) rows
        return ⟨row, request.payload generation previous deactivatedAt⟩ :: later
      else .error (runtimeFailure "invalid agent.deactivated audit chain") := by
  intro row
  have keys : (request.payload generation previous deactivatedAt).isObj = true ∧
      (request.payload generation previous deactivatedAt).hasExactlyKeys deactivationKeys = true :=
    ⟨rfl, rfl⟩
  have key : row.idempotencyKey = deactivationKey request.agentId generation :=
    NewEvent.toRow_key _ _ _ rfl deactivationKey_ne_empty
  have host : (request.payload generation previous deactivatedAt).get "host_id" =
      .str request.hostId := rfl
  have same : (request.payload generation previous deactivatedAt).get "agent_id" =
      .str request.agentId ∧
      (request.payload generation previous deactivatedAt).get "previous_online_state" =
        .str "online" ∧
      (request.payload generation previous deactivatedAt).get "generation" = .int generation ∧
      (request.payload generation previous deactivatedAt).get "previous_deactivation_event_id" =
        .ofOption previous ∧
      (request.payload generation previous deactivatedAt).get "actor" = .str row.actor :=
    ⟨rfl, rfl, rfl, rfl, rfl⟩
  have texts : validateDeactivationTexts row (request.payload generation previous deactivatedAt) =
      .ok () := validateDeactivationTexts_event valid shape time createdAt
  rw [validateDeactivations, toDict_event]
  simp only [bind, Except.bind, keys, same, host, key]
  split_ifs with chosen
  · simp only [chosen, raiseIf, not_true_eq_false, or_self, ne_eq, ↓reduceIte, pure, Except.pure,
      orRaise, texts]
    rfl
  · simp [raiseIf, chosen, throw, throwThe, MonadExceptOf.throw, pure, Except.pure]

/-- A stored chain passes its validation for a host exactly if each of its events names this host. -/
theorem DeactivationChain.validate_iff (chain : DeactivationChain agentId generation previous rows) :
    (∃ events, validateDeactivations agentId hostId generation previous rows = .ok events) ↔
      ∀ row ∈ rows, row.deactivatedHost = some hostId := by
  induction chain with
  | nil => simp [validateDeactivations, pure, Except.pure]
  | cons request eventId deactivatedAt createdAt agent valid shape time later ih =>
    subst agent
    rw [List.forall_mem_cons, deactivatedHost_event, ← ih,
      validateDeactivations_cons valid shape time]
    split_ifs with chosen
    · simp [chosen, Except.bind_ok, pure, Except.pure]
    · simp [chosen]

/-- The events that a validation returns are the rows that it read. -/
theorem validateDeactivations_rows {events : List EventDict}
    (validated : validateDeactivations agentId hostId generation previous rows = .ok events) :
    events.map EventDict.row = rows := by
  induction rows generalizing generation previous events with
  | nil =>
    cases validated
    rfl
  | cons row rest ih =>
    simp only [validateDeactivations, Except.bind_ok] at validated
    obtain ⟨event, decoded, _, _, _, _, _, _, later, rest, same⟩ := validated
    cases same
    simp only [EventRow.toDict, Except.bind_ok] at decoded
    obtain ⟨payload, _, same⟩ := decoded
    cases same
    rw [List.map_cons, ih rest]

theorem DeactivationChain.key_mem (chain : DeactivationChain agentId generation previous rows) :
    ∀ row ∈ rows, ∃ i < rows.length, row.idempotencyKey = deactivationKey agentId (generation + i) := by
  induction chain with
  | nil => nofun
  | cons request eventId deactivatedAt createdAt agent valid shape time later ih =>
    intro row member
    obtain rfl | inRest := List.mem_cons.mp member
    · refine ⟨0, Nat.succ_pos _, ?_⟩
      rw [← agent]
      exact NewEvent.toRow_key _ _ _ rfl deactivationKey_ne_empty
    · obtain ⟨i, bound, key⟩ := ih row inRest
      refine ⟨i + 1, Nat.succ_lt_succ bound, ?_⟩
      rw [key, Nat.add_assoc, Nat.add_comm 1 i]

/-- The next deactivation names the next generation and the last event. -/
theorem DeactivationChain.snoc (chain : DeactivationChain agentId generation previous rows)
    {request : Deactivation} (agent : request.agentId = agentId) (valid : request.Valid)
    {eventId : String} (shape : Text.uuidShape eventId.toList = true) {deactivatedAt : Nat}
    (time : deactivatedAt < Calendar.horizon) (createdAt : Nat) :
    DeactivationChain agentId generation previous (rows ++ [(request.event (generation + rows.length)
      ((rows.getLast?.map EventRow.id).or previous) deactivatedAt).toRow eventId createdAt]) := by
  induction chain with
  | nil => exact .cons request eventId deactivatedAt createdAt agent valid shape time (.nil _ _)
  | @cons generation previous rest first firstId firstTime firstCreated firstAgent firstValid firstShape
      firstBound later ih =>
    refine .cons first firstId firstTime firstCreated firstAgent firstValid firstShape firstBound ?_
    have last : ((((first.event generation previous firstTime).toRow firstId firstCreated) ::
        rest).getLast?.map EventRow.id).or previous =
        (rest.getLast?.map EventRow.id).or (some firstId) := by
      rw [List.getLast?_cons]
      cases rest.getLast? <;> rfl
    rw [last, List.length_cons, Nat.add_comm rest.length 1, ← Nat.add_assoc]
    exact ih

end Validation

/-- The deactivation events of an agent. -/
def deactivationsOf (db : Db) (agentId : String) : List EventRow :=
  db.events.filter fun event => event.eventType = "agent.deactivated" && event.target = some agentId

theorem deactivationsOf_insert {s : Db} {event : EventRow} {events : Table eventSchema}
    {agentId : String} (inserted : s.events.insert? event = some events)
    (kind : event.eventType = "agent.deactivated") (target : event.target = some agentId) :
    deactivationsOf { s with events } agentId = deactivationsOf s agentId ++ [event] := by
  simp [deactivationsOf, Table.filter, Table.insert?_rows inserted, kind, target]

/-- Every agent's deactivations are a chain, no other event has the key of one, and the capabilities
of the agents decode. -/
structure Audited (db : Db) : Prop where
  chains : ∀ agentId, DeactivationChain agentId 1 none (deactivationsOf db agentId)
  keys : ∀ event ∈ db.events, ∀ agentId generation,
    event.idempotencyKey = deactivationKey agentId generation →
    event.eventType = "agent.deactivated" ∧ event.target = some agentId
  agents : ∀ agent ∈ db.agents, ∃ capabilities, decodeColumn agent.capabilitiesJson = .ok capabilities

namespace Audited

variable {s t : Db} {event : EventRow} {events : Table eventSchema}

theorem congr (audited : Audited s) (sameEvents : t.events = s.events)
    (sameAgents : t.agents = s.agents) : Audited t := by
  obtain ⟨chains, keys, agents⟩ := audited
  refine ⟨fun agentId => ?_, sameEvents ▸ keys, sameAgents ▸ agents⟩
  rw [deactivationsOf, sameEvents]
  exact chains agentId

/-- An event of another kind. -/
theorem append (audited : Audited s) (inserted : s.events.insert? event = some events)
    (kind : event.eventType ≠ "agent.deactivated")
    (key : ∀ agentId generation, event.idempotencyKey ≠ deactivationKey agentId generation) :
    Audited { s with events } := by
  refine ⟨fun agentId => ?_, ?_, audited.agents⟩
  · have same : deactivationsOf { s with events } agentId = deactivationsOf s agentId := by
      simp [deactivationsOf, Table.filter, Table.insert?_rows inserted, kind]
    rw [same]
    exact audited.chains agentId
  · intro row member agentId generation named
    obtain old | rfl := (Table.mem_insert? inserted).mp member
    · exact audited.keys row old agentId generation named
    · exact absurd named (key agentId generation)

/-- The next event of a chain. -/
theorem deactivate (audited : Audited s) {request : Deactivation} (valid : request.Valid)
    {eventId : String} (shape : Text.uuidShape eventId.toList = true) {deactivatedAt createdAt : Nat}
    (time : deactivatedAt < Calendar.horizon) (inserted : s.events.insert?
      ((request.event ((deactivationsOf s request.agentId).length + 1)
        ((deactivationsOf s request.agentId).getLast?.map EventRow.id) deactivatedAt).toRow eventId
        createdAt) = some events) : Audited { s with events } := by
  refine ⟨fun agentId => ?_, ?_, audited.agents⟩
  · by_cases same : request.agentId = agentId
    · subst same
      rw [deactivationsOf_insert inserted rfl rfl]
      have next := (audited.chains request.agentId).snoc rfl valid shape time createdAt
      rwa [Option.or_none, Nat.add_comm] at next
    · have kept : deactivationsOf { s with events } agentId = deactivationsOf s agentId := by
        simp [deactivationsOf, Table.filter, Table.insert?_rows inserted, NewEvent.toRow,
          Deactivation.event, same]
      rw [kept]
      exact audited.chains agentId
  · intro row member agentId generation named
    obtain old | rfl := (Table.mem_insert? inserted).mp member
    · exact audited.keys row old agentId generation named
    · rw [NewEvent.toRow_key _ _ _ rfl deactivationKey_ne_empty] at named
      rw [← (deactivationKey_injective named).1]
      exact ⟨rfl, rfl⟩

/-- A statement on the agents. -/
theorem writeAgents (audited : Audited s) {agents : Table (keyedBy AgentRow.id)}
    (decoded : ∀ agent ∈ agents, ∃ capabilities,
      decodeColumn agent.capabilitiesJson = .ok capabilities) : Audited { s with agents } :=
  ⟨audited.chains, audited.keys, decoded⟩

theorem updateAgents (audited : Audited s) {agents : Table (keyedBy AgentRow.id)}
    {p : AgentRow → Bool} {f : AgentRow → AgentRow} (updated : s.agents.update? p f = some agents)
    (decoded : ∀ agent, (∃ capabilities, decodeColumn agent.capabilitiesJson = .ok capabilities) →
      ∃ capabilities, decodeColumn (f agent).capabilitiesJson = .ok capabilities) :
    Audited { s with agents } := by
  refine audited.writeAgents fun agent member => ?_
  obtain ⟨old, oldMember, rfl⟩ := (Table.mem_update? updated).mp member
  split
  · exact decoded old (audited.agents old oldMember)
  · exact audited.agents old oldMember

end Audited

section Calls

variable [Platform] {w w' : Work Db} {since : Nat} {seen : Db → Db → Prop}

theorem Audited.appendEvent {event : NewEvent} {result : AppendEventResult}
    (audited : Audited w.store) (ran : (appendEvent event).run w = .ok result w')
    (kind : event.eventType ≠ "agent.deactivated") {key : String}
    (keyed : event.idempotencyKey = some key) (ends : EndsInLetter key) : Audited w'.store := by
  cases appendEvent_ok ran with
  | created events inserted store =>
    rw [store]
    refine audited.append inserted kind fun agentId generation => ?_
    rw [NewEvent.toRow_key _ _ _ keyed ends.ne_empty]
    exact ends.ne_deactivationKey
  | existing row member key store => rwa [store]

omit [Platform] in
theorem Audited.upsertAgent {row : AgentRow} {u : Unit} (audited : Audited w.store)
    (decoded : ∃ capabilities, decodeColumn row.capabilitiesJson = .ok capabilities)
    (ran : (upsertAgent row).run w = .ok u w') : Audited w'.store := by
  simp only [Coordinate.upsertAgent, Txn.bind_ok, Txn.read_run, EStateM.Result.ok.injEq] at ran
  obtain ⟨known, _, ⟨rfl, rfl⟩, ran⟩ := ran
  split at ran
  · obtain ⟨agents, updated, rfl⟩ := replaceTable_ok.mp ran
    exact audited.updateAgents updated fun _ _ => decoded
  · obtain ⟨agents, inserted, rfl⟩ := replaceTable_ok.mp ran
    refine audited.writeAgents fun agent member => ?_
    obtain old | rfl := (Table.mem_insert? inserted).mp member
    · exact audited.agents agent old
    · exact decoded

theorem maintains_announce {event : NewEvent} (refl : ∀ t, seen t t)
    (kind : event.eventType ≠ "agent.deactivated") {key : String}
    (keyed : event.idempotencyKey = some key) (ends : EndsInLetter key) :
    Tx.Maintains since seen Audited (do
      let event ← appendEventAndCommit event
      orRaise id event.row.toDict) := by
  refine Tx.maintains_bind (Tx.maintains_bind (Tx.maintains_within fun _ _ _ _ ran audited =>
    audited.appendEvent ran kind keyed ends) fun result => ?_) fun _ => Tx.maintains_orRaise _ _
  dsimp only
  split
  · exact Tx.maintains_bind (Tx.maintains_commit refl) fun _ => Tx.maintains_pure _
  · exact Tx.maintains_pure _

theorem maintains_registerAgent (refl : ∀ t, seen t t) (registration : Registration) :
    Tx.Maintains since seen Audited (registerAgent registration) := by
  refine Tx.maintains_bind (Tx.maintains_raiseIf _ _) fun _ =>
    Tx.maintains_bind (Tx.maintains_raiseIf _ _) fun _ => Tx.maintains_checked fun known => ?_
  have announce : ∀ payload, Tx.Maintains since seen Audited (do
      let event ← appendEventAndCommit
        { workspaceId := none, eventType := "agent.registered", actor := registration.actor,
          target := some registration.agentId, taskId := none,
          idempotencyKey := some (s!"runtime:agent:{registration.agentId}:registered:" ++
            s!"{registration.hostId}:{registration.clientType}"), payload }
      orRaise id event.row.toDict) := fun payload =>
    maintains_announce refl (by simp) rfl (endsInLetter_registered _ _ known)
  refine Tx.maintains_bind (Tx.maintains_clock _) fun seenAt =>
    Tx.maintains_bind (Tx.maintains_within fun _ _ _ _ ran audited =>
      audited.upsertAgent ⟨_, rfl⟩ ran) fun _ =>
    Tx.maintains_bind (Tx.maintains_commit refl) fun _ => ?_
  dsimp only
  split
  · refine Tx.maintains_bind (Tx.maintains_query _) fun _ =>
      Tx.maintains_bind (Tx.maintains_orRaise _ _) fun _ => ?_
    split
    · refine Tx.maintains_bind (Tx.maintains_within fun _ _ _ _ ran audited => ?_) fun _ =>
        Tx.maintains_bind (Tx.maintains_commit refl) fun _ => announce _
      obtain ⟨profiles, _, rfl⟩ := replaceTable_ok.mp ran
      exact audited.congr rfl rfl
    · exact announce _
  · exact announce _

theorem maintains_heartbeatAgent (refl : ∀ t, seen t t) (agentId hostId actor : String) :
    Tx.Maintains since seen Audited (heartbeatAgent agentId hostId actor) := by
  refine Tx.maintains_bind (Tx.maintains_query _) fun agent => ?_
  split
  · exact Tx.maintains_throw _
  · refine Tx.maintains_bind (Tx.maintains_raiseIf _ _) fun _ =>
      Tx.maintains_bind (Tx.maintains_clock _) fun seenAt =>
      Tx.maintains_bind (Tx.maintains_within fun _ _ _ _ ran audited => ?_) fun _ =>
      Tx.maintains_bind (Tx.maintains_commit refl) fun _ =>
      maintains_announce refl ?_ rfl (endsInLetter_heartbeat _ _)
    · obtain ⟨agents, updated, rfl⟩ := replaceTable_ok.mp ran
      exact audited.updateAgents updated fun _ decoded => decoded
    · simp

/-- What a deactivation that takes its agent offline has done. -/
theorem takeOffline_ok {request : Deactivation} {prior : List EventDict}
    {result : AgentRow × EventDict} (ran : (takeOffline request prior).run w = .ok result w') :
    ∃ (agents : Table (keyedBy AgentRow.id)) (events : Table eventSchema) (p : AgentRow → Bool)
      (f : AgentRow → AgentRow), w.store.agents.update? p f = some agents ∧
      (∀ agent, (f agent).capabilitiesJson = agent.capabilitiesJson) ∧
      w.store.events.insert? ((request.event (prior.length + 1)
        (prior.getLast?.map fun event => event.row.id) (now w.tick)).toRow (Platform.uuid4 w.draws)
        (now (w.tick + 1))) = some events ∧
      w'.store = { w.store with agents, events } := by
  simp only [takeOffline, Txn.bind_ok, utcNow_run, EStateM.Result.ok.injEq, Txn.read_run,
    Txn.raiseIf_ok, Bool.not_eq_true, Bool.not_eq_false'] at ran
  obtain ⟨_, _, ⟨rfl, rfl⟩, _, _, ⟨rfl, rfl⟩, _, _, updating, _, _, ⟨_, rfl⟩, event, _, appended, _, _,
    ⟨isNew, rfl⟩, _, _, ⟨rfl, rfl⟩, ran⟩ := ran
  obtain ⟨agents, updated, rfl⟩ := replaceTable_ok.mp updating
  split at ran
  · cases ran
  · simp only [Txn.bind_ok, Txn.orRaise_ok, Txn.pure_run, EStateM.Result.ok.injEq] at ran
    obtain ⟨_, _, ⟨_, rfl⟩, _, rfl⟩ := ran
    cases appendEvent_ok appended with
    | created events inserted store =>
      exact ⟨agents, events, _, _, updated, fun _ => rfl, inserted, store⟩
    | existing row member key store => cases isNew

theorem Audited.deactivateAgentBody {request : Deactivation} (valid : request.Valid)
    {result : DeactivateResult} (audited : Audited w.store)
    (ran : (deactivateAgentBody request).run w = .ok result w') : Audited w'.store := by
  simp only [Coordinate.deactivateAgentBody, Txn.bind_ok, Txn.read_run, EStateM.Result.ok.injEq,
    Txn.orRaise_ok] at ran
  obtain ⟨db, _, ⟨rfl, rfl⟩, agent, _, ⟨_, rfl⟩, ran⟩ := ran
  split at ran
  · cases ran
    exact audited
  split at ran
  · cases ran
    exact audited
  simp only [Txn.bind_ok, Txn.orRaise_ok] at ran
  obtain ⟨prior, _, ⟨validated, rfl⟩, ran⟩ := ran
  split at ran
  · obtain ⟨result, _, taken, ran⟩ := Txn.bind_ok.mp ran
    cases ran
    obtain ⟨agents, events, p, f, updated, keeps, inserted, store⟩ := takeOffline_ok taken
    have rows : prior.map EventDict.row = deactivationsOf w.store request.agentId :=
      validateDeactivations_rows validated
    have length : prior.length = (deactivationsOf w.store request.agentId).length := by
      rw [← rows, List.length_map]
    have last : (prior.getLast?.map fun event => event.row.id) =
        (deactivationsOf w.store request.agentId).getLast?.map EventRow.id := by
      rw [← rows, List.getLast?_map, Option.map_map]
      rfl
    rw [length, last] at inserted
    rw [store]
    have updatedStore : Audited { w.store with agents } :=
      audited.updateAgents updated fun agent decoded => by rwa [keeps]
    exact updatedStore.deactivate valid (Platform.uuid4_form _) (now_lt _) inserted
  · split at ran <;> cases ran
    exact audited

theorem maintains_deactivateAgent (refl : ∀ t, seen t t) (request : Deactivation) :
    Tx.Maintains since seen Audited (deactivateAgent request) := by
  refine Tx.triple_bind (Tx.triple_orRaise _ _) fun _ => ?_
  intro session settled ⟨audited, valid⟩
  exact Tx.maintains_atomically refl (fun _ _ _ _ ran audited =>
    audited.deactivateAgentBody valid ran) session settled audited

end Calls

/-- A call on an agent, or any other change that leaves the agents and the events as they are. -/
inductive AgentStep [Platform] : Work Db → Work Db → Prop
  | register {work : Work Db} (registration : Registration) (view : Db) :
    AgentStep work ((Call.register registration).after work view)
  | heartbeat {work : Work Db} (agentId hostId actor : String) (view : Db) :
    AgentStep work ((Call.heartbeat agentId hostId actor).after work view)
  | deactivate {work : Work Db} (request : Deactivation) (view : Db) :
    AgentStep work ((Call.deactivate request).after work view)
  | elsewhere {work : Work Db} (store : Db) (agents : store.agents = work.store.agents)
    (events : store.events = work.store.events) : AgentStep work { work with store }

theorem Audited.step [Platform] {work next : Work Db} (audited : Audited work.store)
    (step : AgentStep work next) : Audited next.store := by
  have settle : ∀ {call : Call} {view : Db},
      Tx.Maintains 0 (fun _ _ => True) Audited call.run → Audited (call.after work view).store :=
    fun maintains => maintains.settle (Nat.zero_le _) trivial audited
  cases step with
  | register registration view =>
    exact settle (Tx.maintains_map (maintains_registerAgent (fun _ => trivial) registration))
  | heartbeat agentId hostId actor view =>
    exact settle (Tx.maintains_map (maintains_heartbeatAgent (fun _ => trivial) agentId hostId actor))
  | deactivate request view =>
    exact settle (Tx.maintains_map (maintains_deactivateAgent (fun _ => trivial) request))
  | elsewhere store agents events => exact audited.congr events agents

/-- The invariant holds in every run of calls on agents that starts without agents and events. -/
theorem Audited.run [Platform] {start work : Work Db} (agents : start.store.agents = .empty)
    (events : start.store.events = .empty) (run : Relation.ReflTransGen AgentStep start work) :
    Audited work.store := by
  induction run with
  | refl =>
    have none : ∀ agentId, deactivationsOf start.store agentId = [] := fun agentId => by
      rw [deactivationsOf, events]
      rfl
    refine ⟨fun agentId => none agentId ▸ .nil _ _, ?_, ?_⟩
    · rw [events]
      nofun
    · rw [agents]
      nofun
  | tail _ step ih => exact ih.step step

section Success

variable [Platform] {w : Work Db} {request : Deactivation} {agent : AgentRow}

/-- Every earlier deactivation of the agent named this host. -/
def SameHost (db : Db) (agentId hostId : String) : Prop :=
  ∀ event ∈ deactivationsOf db agentId, event.deactivatedHost = some hostId

omit [Platform] in
theorem Audited.validated_iff {db : Db} (audited : Audited db) (agentId hostId : String) :
    (∃ events, validatedDeactivationEvents db agentId hostId = .ok events) ↔
      SameHost db agentId hostId :=
  (audited.chains agentId).validate_iff

omit [Platform] in
/-- The key of the next generation is free. -/
theorem Audited.key_free {db : Db} (audited : Audited db) (agentId : String) :
    ∀ event ∈ db.events, event.idempotencyKey ≠
      deactivationKey agentId ((deactivationsOf db agentId).length + 1) := by
  intro event member taken
  obtain ⟨kind, target⟩ := audited.keys event member agentId _ taken
  have listed : event ∈ deactivationsOf db agentId :=
    Table.mem_filter.mpr ⟨member, by simp [kind, target]⟩
  obtain ⟨i, bound, key⟩ := (audited.chains agentId).key_mem event listed
  have same := (deactivationKey_injective (key.symm.trans taken)).2
  omega

omit [Platform] in
theorem getAgent_of_mem {db : Db} (member : agent ∈ db.agents) : getAgent db agent.id = some agent :=
  Table.find?_eq_some_of_mem member (by simp) fun _ _ same => same

omit [Platform] in
/-- An online agent on the host of the request passes the checks exactly if it is an agentd. -/
theorem Audited.check_iff {db : Db} (audited : Audited db) (member : agent ∈ db.agents)
    (named : agent.id = request.agentId) (host : agent.hostId = some request.hostId)
    (filled : request.hostId ≠ "") (online : agent.onlineState = "online") {row : AgentRow} :
    checkDeactivation db request = .ok row ↔ agent.clientType = some "agentd" ∧ row = agent := by
  obtain ⟨capabilities, decoded⟩ := audited.agents agent member
  unfold checkDeactivation
  rw [← named, getAgent_of_mem member]
  simp only [Except.bind_ok, decoded, raiseIf_except_ok, host]
  constructor
  · rintro ⟨_, _, _, typed, _, _, _, _, same⟩
    cases same
    exact ⟨not_not.mp typed, rfl⟩
  · rintro ⟨typed, rfl⟩
    exact ⟨_, rfl, (), not_not.mpr typed, (), not_not.mpr rfl, (), fun neither => neither.1 online,
      rfl⟩

/-- An online agent without a free obstacle is taken offline. -/
theorem Audited.takeOffline_run (audited : Audited w.store) (member : agent ∈ w.store.agents)
    (named : agent.id = request.agentId) (host : agent.hostId = some request.hostId)
    (online : agent.onlineState = "online")
    (fresh : ∀ event ∈ w.store.events, event.id ≠ Platform.uuid4 w.draws) {prior : List EventDict}
    (rows : prior.map EventDict.row = deactivationsOf w.store request.agentId) :
    ∃ result w', (takeOffline request prior).run w = .ok result w' := by
  let chosen (row : AgentRow) : Bool :=
    row.id = request.agentId && row.hostId = some request.hostId && row.onlineState = "online"
  let offline (row : AgentRow) : AgentRow :=
    { row with onlineState := "offline", updatedAt := now w.tick }
  have holds : chosen agent = true := by simp [chosen, named, host, online]
  have single : w.store.agents.filter chosen = [agent] := by
    refine Table.filter_eq_singleton member holds fun other _ same => ?_
    simp only [chosen, Bool.and_eq_true, decide_eq_true_eq] at same
    exact decide_eq_true (same.1.1.trans named.symm)
  have updatable : (w.store.agents.update? chosen offline).isSome = true := by
    refine Table.update?_isSome (fun _ _ _ => rfl) fun a b apart => ?_
    split <;> split <;> exact apart
  obtain ⟨agents, updated⟩ := Option.isSome_iff_exists.mp updatable
  have stored : offline agent ∈ agents :=
    (Table.mem_update? updated).mpr ⟨agent, member, by rw [if_pos holds]⟩
  have length : prior.length = (deactivationsOf w.store request.agentId).length := by
    rw [← rows, List.length_map]
  let event := request.event (prior.length + 1) (prior.getLast?.map fun event => event.row.id)
    (now w.tick)
  have insertable : ∃ events, w.store.events.insert?
      (event.toRow (Platform.uuid4 w.draws) (now (w.tick + 1))) = some events := by
    refine Table.exists_insert? rfl fun other otherMember => ?_
    have key : (event.toRow (Platform.uuid4 w.draws) (now (w.tick + 1))).idempotencyKey =
        deactivationKey request.agentId (prior.length + 1) :=
      NewEvent.toRow_key _ _ _ rfl deactivationKey_ne_empty
    simp only [eventSchema, Bool.or_eq_false_iff, decide_eq_false_iff_not, key, length]
    exact ⟨fresh other otherMember, audited.key_free request.agentId other otherMember⟩
  obtain ⟨events, inserted⟩ := insertable
  have found : getAgent { w.store with agents, events } request.agentId = some (offline agent) := by
    rw [← named]
    exact @getAgent_of_mem (offline agent) { w.store with agents, events } stored
  have appended : (Coordinate.appendEvent event).run ⟨{ w.store with agents }, w.tick + 1, w.draws⟩ =
      .ok ⟨event.toRow (Platform.uuid4 w.draws) (now (w.tick + 1)), true⟩
        ⟨{ w.store with agents, events }, w.tick + 2, w.draws + 1⟩ := appendEvent_run inserted
  refine ⟨(offline agent, ⟨event.toRow (Platform.uuid4 w.draws) (now (w.tick + 1)), event.payload⟩),
    ⟨{ w.store with agents, events }, w.tick + 2, w.draws + 1⟩, ?_⟩
  refine Txn.bind_ok.mpr ⟨_, _, rfl, Txn.bind_ok.mpr ⟨_, _, rfl, Txn.bind_ok.mpr ⟨(), _,
    replaceTable_ok.mpr ⟨agents, updated, rfl⟩, Txn.bind_ok.mpr ⟨(), _, Txn.raiseIf_ok.mpr ⟨?_, rfl⟩,
    Txn.bind_ok.mpr ⟨_, _, appended, Txn.bind_ok.mpr ⟨(), _, Txn.raiseIf_ok.mpr ⟨?_, rfl⟩,
    Txn.bind_ok.mpr ⟨_, _, rfl, ?_⟩⟩⟩⟩⟩⟩⟩
  · exact not_not.mpr (congrArg List.length single)
  · exact Bool.false_ne_true
  · dsimp only
    rw [found]
    rfl

/-- The body of a deactivation of an unblocked online agent returns exactly if the agent is an agentd
and, unless it is a dry run, every earlier event names the present host. -/
theorem Audited.body_iff (audited : Audited w.store) (member : agent ∈ w.store.agents)
    (named : agent.id = request.agentId) (host : agent.hostId = some request.hostId)
    (filled : request.hostId ≠ "") (online : agent.onlineState = "online")
    (unblocked : ∀ blocker ∈ deactivationBlockers w.store request.agentId, blocker.count = 0)
    (fresh : ∀ event ∈ w.store.events, event.id ≠ Platform.uuid4 w.draws) :
    (∃ result w', (Coordinate.deactivateAgentBody request).run w = .ok result w') ↔
      agent.clientType = some "agentd" ∧
        (request.dryRun = true ∨ SameHost w.store request.agentId request.hostId) := by
  have free : (deactivationBlockers w.store request.agentId).any (0 < ·.count) = false := by
    simpa using unblocked
  simp only [Coordinate.deactivateAgentBody, Txn.bind_ok, Txn.read_run, EStateM.Result.ok.injEq,
    Txn.orRaise_ok]
  have check : ∀ row, checkDeactivation w.store request = .ok row ↔ _ := fun row =>
    audited.check_iff member named host filled online
  constructor
  · rintro ⟨result, w', _, _, ⟨rfl, rfl⟩, row, _, ⟨checked, rfl⟩, ran⟩
    obtain ⟨typed, rfl⟩ := (check row).mp checked
    refine ⟨typed, ?_⟩
    simp only [id_eq, free, Bool.false_eq_true, ↓reduceIte] at ran
    split at ran
    · rename_i dry
      exact .inl dry
    · simp only [Txn.bind_ok, Txn.orRaise_ok] at ran
      obtain ⟨prior, _, ⟨validated, _⟩, _⟩ := ran
      exact .inr ((audited.validated_iff _ _).mp ⟨prior, validated⟩)
  · rintro ⟨typed, settled⟩
    by_cases dry : request.dryRun = true
    · refine ⟨?unchanged, ?kept, _, _, ⟨rfl, rfl⟩, agent, _, ⟨(check agent).mpr ⟨typed, rfl⟩, rfl⟩,
        ?dryRun⟩
      case dryRun =>
        simp only [id_eq, free, Bool.false_eq_true, ↓reduceIte, dry, Txn.pure_run]
        rfl
    · obtain ⟨prior, validated⟩ := (audited.validated_iff _ _).mpr (settled.resolve_left dry)
      obtain ⟨result, w', taken⟩ := audited.takeOffline_run member named host online fresh
        (validateDeactivations_rows validated)
      refine ⟨?result, ?after, _, _, ⟨rfl, rfl⟩, agent, _, ⟨(check agent).mpr ⟨typed, rfl⟩, rfl⟩, ?ran⟩
      case ran =>
        simp only [id_eq, free, Bool.false_eq_true, ↓reduceIte, dry, Txn.bind_run, orRaise, validated,
          Txn.pure_run, online, taken]
        rfl

/-- A call succeeds exactly if its arguments are valid and its body returns. -/
theorem deactivate_outcome_iff (view : Db) :
    (∃ result s, (Call.deactivate request).outcome w view = .ok (.deactivated result) s) ↔
      request.Valid ∧ ∃ result w', (deactivateAgentBody request).run w = .ok result w' := by
  have unfolded : (Call.deactivate request).outcome w view =
      match request.validate with
      | .ok _ => (Response.deactivated <$> Tx.atomically Exn.nestedBegin
          (deactivateAgentBody request)).run (Session.connect w view)
      | .error e => .error (runtimeFailure e.message) (Session.connect w view) := by
    change (Response.deactivated <$> (orRaise (fun e : RuntimeLeaseError => runtimeFailure e.message)
      request.validate >>= fun _ => Tx.atomically Exn.nestedBegin
        (deactivateAgentBody request))).run (Session.connect w view) = _
    cases request.validate <;> rfl
  rw [unfolded, Deactivation.Valid]
  cases valid : request.validate with
  | error e => simp
  | ok _ =>
    simp only [Tx.map_run, true_and]
    have closed : (Session.connect w view).saved = none := rfl
    obtain ⟨result, w', returned, ran⟩ | ⟨e, w', raised, ran⟩ :=
      @Tx.atomically_cases _ _ _ _ _ Exn.nestedBegin (deactivateAgentBody request) closed
    · rw [ran]
      exact iff_of_true ⟨result, _, rfl⟩ ⟨result, w', returned⟩
    · rw [ran]
      refine iff_of_false ?_ ?_
      · rintro ⟨_, _, same⟩
        cases same
      · rintro ⟨_, _, returned⟩
        change (deactivateAgentBody request).run w = _ at raised
        rw [raised] at returned
        cases returned

end Success

/-- In every run of calls on agents, the deactivation events of each agent are a chain of generations
without gaps, each linked to its predecessor. They pass their validation, and the deactivation of an
unblocked online agent succeeds, exactly as long as they name its present host. -/
theorem deactivation_accepts_history [Platform] {start work : Work Db}
    (agents : start.store.agents = .empty) (events : start.store.events = .empty)
    (run : Relation.ReflTransGen AgentStep start work) {agent : AgentRow}
    (member : agent ∈ work.store.agents) (online : agent.onlineState = "online")
    {request : Deactivation} (named : agent.id = request.agentId)
    (host : agent.hostId = some request.hostId)
    (unblocked : ∀ blocker ∈ deactivationBlockers work.store request.agentId, blocker.count = 0)
    (fresh : ∀ event ∈ work.store.events, event.id ≠ Platform.uuid4 work.draws) (view : Db) :
    DeactivationChain request.agentId 1 none (deactivationsOf work.store request.agentId) ∧
    ((∃ events, validatedDeactivationEvents work.store request.agentId request.hostId =
      .ok events) ↔ SameHost work.store request.agentId request.hostId) ∧
    ((∃ result s, (Call.deactivate request).outcome work view = .ok (.deactivated result) s) ↔
      request.Valid ∧ agent.clientType = some "agentd" ∧
        (request.dryRun = true ∨ SameHost work.store request.agentId request.hostId)) := by
  have audited := Audited.run agents events run
  refine ⟨audited.chains _, audited.validated_iff _ _, ?_⟩
  rw [deactivate_outcome_iff]
  refine and_congr_right fun valid => ?_
  have filled : request.hostId ≠ "" := (validateText_ok.mp valid.parts.2.1).1
  exact audited.body_iff member named host filled online unblocked fresh

namespace Sample

/-- An installation without agents. -/
def unstaffed : Work Db := { initialWork with store := { configured with agents := .empty } }

def registerOn (hostId : String) : Call := .register { agentId := "a", hostId }

def deactivation (hostId : String) : Deactivation := { agentId := "a", hostId, reason := "r" }

/-- The agent is deactivated on one host and registered again from another. -/
def movedRun : Work Db :=
  runCalls unstaffed [registerOn "h", .deactivate (deactivation "h"), registerOn "g"]

/-- The agent is deactivated and registered again on its host. -/
def returnedRun : Work Db :=
  runCalls unstaffed [registerOn "h", .deactivate (deactivation "h"), registerOn "h"]

def deactivates (work : Work Db) (request : Deactivation) : Bool :=
  match (Call.deactivate request).outcome work work.store with
  | .ok _ _ => true
  | .error _ _ => false

end Sample

/-- An agent that was registered again on its host is deactivated a second time. -/
theorem returned_agent_deactivates : ∃ result s,
    (Call.deactivate (Sample.deactivation "h")).outcome Sample.returnedRun Sample.returnedRun.store =
      .ok (.deactivated result) s := by
  have run : Relation.ReflTransGen AgentStep Sample.unstaffed Sample.returnedRun :=
    .tail (.tail (.tail .refl (.register { agentId := "a", hostId := "h" } _))
      (.deactivate (Sample.deactivation "h") _)) (.register { agentId := "a", hostId := "h" } _)
  have state : (Sample.returnedRun.store.agents.rows.any fun agent => agent.id = "a" &&
        agent.hostId = some "h" && agent.onlineState = "online" &&
        agent.clientType = some "agentd") = true ∧
      (deactivationBlockers Sample.returnedRun.store "a").all (·.count = 0) = true ∧
      (Sample.returnedRun.store.events.rows.all fun event =>
        event.id ≠ Platform.uuid4 Sample.returnedRun.draws) = true ∧
      ((deactivationsOf Sample.returnedRun.store "a").all fun event =>
        event.deactivatedHost = some "h") = true := by
    decide +kernel
  obtain ⟨listed, unblocked, fresh, hosts⟩ := state
  obtain ⟨agent, member, same⟩ := List.any_eq_true.mp listed
  simp only [Bool.and_eq_true, decide_eq_true_eq] at same
  simp only [List.all_eq_true, decide_eq_true_eq] at unblocked fresh hosts
  exact (deactivation_accepts_history rfl rfl run member same.1.2 same.1.1.1 same.1.1.2 unblocked
    fresh _).2.2.mpr ⟨rfl, same.2, .inr hosts⟩

/-- An agent that moved to another host cannot be deactivated there. -/
theorem moved_agent_refused :
    (getAgent Sample.movedRun.store "a").any (fun agent => agent.hostId = some "g" &&
      agent.onlineState = "online" && agent.clientType = some "agentd") = true ∧
    (deactivationBlockers Sample.movedRun.store "a").all (·.count = 0) = true ∧
    (Sample.deactivation "g").validate.isOk = true ∧
    Sample.deactivates Sample.movedRun (Sample.deactivation "g") = false := by
  decide +kernel

end Coordinate
