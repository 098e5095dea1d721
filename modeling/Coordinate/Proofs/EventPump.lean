import Coordinate.Model.EventPump
import Coordinate.Proofs.Ledger

/-! # What a cycle of the pump creates

When every event that is due renders, its message keys are free and the limit of a call cuts nothing
off, the loops of a cycle create the prescribed deliveries of each due event, in order, and nothing
else. The rendering reads no deliveries, so all of a cycle renders from the store it started with.
-/

namespace Coordinate

section Prescribed

/-- What a delivery says, and to whom. -/
structure Message where
  eventId : Option String
  platform : String
  destination : String
  messageKey : String
  payloadJson : JsonText
deriving DecidableEq, Repr

def DeliveryRow.message (row : DeliveryRow) : Message :=
  ⟨row.eventId, row.platform, row.destination, row.messageKey, row.payloadJson⟩

/-- The message of a supported result. -/
def RenderEventResult.message (eventId platform destination : String) (result : RenderEventResult) :
    Message where
  eventId := some eventId
  platform
  destination
  messageKey := result.messageKey.getD ""
  payloadJson := .dumps (result.payload.getD .null)

/-- The messages that a rendering prescribes. -/
def prescribed (eventId platform destination : String) (results : List RenderEventResult) :
    List Message :=
  (results.filter (·.supported)).map (·.message eventId platform destination)

theorem prescribed_cons {eventId platform destination : String} {result : RenderEventResult}
    {results : List RenderEventResult} (supported : result.supported = true) :
    prescribed eventId platform destination (result :: results) =
      result.message eventId platform destination ::
        prescribed eventId platform destination results := by
  simp [prescribed, supported]

theorem prescribed_skip {eventId platform destination : String} {result : RenderEventResult}
    {results : List RenderEventResult} (unsupported : result.supported = false) :
    prescribed eventId platform destination (result :: results) =
      prescribed eventId platform destination results := by
  simp [prescribed, unsupported]

end Prescribed

section Rendering

variable [EventRenderer] {db : Db} {a b : Nat} {eventId platform destination : String}
  {results : List RenderEventResult}

/-- Rendering reads no deliveries. -/
theorem renderEventDeliveries_deliveries (deliveries : Table deliverySchema) :
    renderEventDeliveries { db with deliveries } a b eventId platform destination =
      renderEventDeliveries db a b eventId platform destination := rfl

/-- A supported result with all that a delivery needs, for the event of a workspace; its key goes on
with `rest`. -/
structure RenderEventResult.Keyed (result : RenderEventResult) (workspaceId eventId rest : String) :
    Prop where
  supported : result.supported = true
  payload : result.payload.isSome = true
  messageKey : result.messageKey = some (workspaceId ++ ":" ++ eventId ++ ":" ++ rest)

theorem renderEvent_ok {result : RenderEventResult}
    (rendered : renderEvent db eventId platform destination = .ok result) :
    ∃ row ∈ db.events, row.id = eventId ∧ result.event.row = row ∧
      (result.supported = true → ∃ workspaceId, row.workspaceId = some workspaceId ∧
        workspaceId ≠ "" ∧ result.Keyed workspaceId eventId (platform ++ ":" ++ destination)) := by
  unfold renderEvent at rendered
  rw [Except.bind_ok] at rendered
  obtain ⟨_, -, rendered⟩ := rendered
  split at rendered
  · cases rendered
  rename_i row found
  obtain ⟨member, sameId⟩ := Table.find?_some found
  have sameId : row.id = eventId := by simpa using sameId
  rw [Except.bind_ok] at rendered
  obtain ⟨event, decoded, rendered⟩ := rendered
  have sameRow : event.row = row := (toDict_ok decoded).1
  refine ⟨row, member, sameId, ?_⟩
  split_ifs at rendered
  swap
  · cases rendered
    exact ⟨sameRow, nofun⟩
  rw [Except.bind_ok] at rendered
  obtain ⟨payload, -, rendered⟩ := rendered
  rw [Except.bind_ok] at rendered
  obtain ⟨reason, -, rendered⟩ := rendered
  cases reason with
  | some text =>
    cases rendered
    exact ⟨sameRow, nofun⟩
  | none =>
    rw [Except.bind_ok] at rendered
    obtain ⟨base, -, rendered⟩ := rendered
    rw [Except.bind_ok] at rendered
    obtain ⟨key, keyed, rendered⟩ := rendered
    cases rendered
    refine ⟨sameRow, fun _ => ?_⟩
    unfold messageKeyForEvent at keyed
    split at keyed
    · cases keyed
    · rename_i workspaceId given
      obtain ⟨given, named⟩ := Option.filter_eq_some_iff.mp given
      cases keyed
      refine ⟨workspaceId, given, by simpa using named, rfl, rfl, ?_⟩
      simp only [supportedResult, ToString.toString, sameId, String.append_assoc]

/-- Whether an event is rendered at all. -/
def EventRow.isRendered (row : EventRow) : Bool :=
  supportedEventTypes.contains row.eventType &&
    match eventPayload row with
    | .ok payload =>
      match unrenderedReason row payload with
      | .ok reason => reason.isNone
      | .error _ => false
    | .error _ => false

theorem renderEvent_supported {row : EventRow} {result : RenderEventResult} (member : row ∈ db.events)
    (isRendered : row.isRendered = true)
    (rendered : renderEvent db row.id platform destination = .ok result) :
    result.supported = true := by
  have found : db.events.find? (·.id = row.id) = some row :=
    Table.find?_eq_some_of_mem member (by simp) fun other _ same => by
      simp [eventSchema, of_decide_eq_true same]
  unfold EventRow.isRendered at isRendered
  rw [Bool.and_eq_true] at isRendered
  obtain ⟨type, isRendered⟩ := isRendered
  unfold renderEvent at rendered
  rw [Except.bind_ok] at rendered
  obtain ⟨_, -, rendered⟩ := rendered
  rw [found] at rendered
  simp only [type, not_true_eq_false, if_false, Except.bind_ok] at rendered
  obtain ⟨event, -, payload, decoded, reason, judged, rendered⟩ := rendered
  simp only [decoded, judged] at isRendered
  cases reason with
  | some text => cases isRendered
  | none =>
    simp only [Except.bind_ok] at rendered
    obtain ⟨base, -, key, -, rendered⟩ := rendered
    cases rendered
    rfl

theorem prescribed_ne_nil {row : EventRow} (member : row ∈ db.events)
    (isRendered : row.isRendered = true)
    (rendered : renderEventDeliveries db a b row.id platform destination = .ok results) :
    prescribed row.id platform destination results ≠ [] := by
  unfold renderEventDeliveries at rendered
  rw [Except.bind_ok] at rendered
  obtain ⟨base, single, rendered⟩ := rendered
  have supported := renderEvent_supported member isRendered single
  simp only [supported, not_true_eq_false, if_false, Except.bind_ok] at rendered
  obtain ⟨handoff, -, lifecycle, -, rendered⟩ := rendered
  cases rendered
  rw [List.cons_append, prescribed_cons supported]
  exact List.cons_ne_nil _ _

omit [EventRenderer] in
/-- An extra delivery of an event is supported, under a key of its own kind. -/
theorem agentHandoffDelivery_ok {event : EventDict} {result : RenderEventResult}
    (delivered : agentHandoffDelivery db a event platform destination = .ok (some result)) :
    ∃ workspaceId rest, event.row.workspaceId = some workspaceId ∧
      result.Keyed workspaceId event.row.id ("agent_handoff:" ++ rest) := by
  unfold agentHandoffDelivery at delivered
  simp only at delivered
  split at delivered
  · cases delivered
  rename_i workspaceId given
  split_ifs at delivered
  · cases delivered
  rw [Except.bind_ok] at delivered
  obtain ⟨discordId, -, delivered⟩ := delivered
  split at delivered
  · cases delivered
  rw [Except.bind_ok] at delivered
  obtain ⟨text, -, delivered⟩ := delivered
  cases delivered
  refine ⟨workspaceId, platform ++ ":" ++ destination, (Option.filter_eq_some_iff.mp given).1, rfl,
    rfl, ?_⟩
  have kind : ":agent_handoff:" = ":" ++ "agent_handoff:" := by decide
  simp only [supportedResult, ToString.toString, kind, String.append_assoc]

omit [EventRenderer] in
theorem agentLifecycleDelivery_ok {event : EventDict} {result : RenderEventResult}
    (delivered : agentLifecycleDelivery db a event platform destination = .ok (some result)) :
    ∃ workspaceId rest, event.row.workspaceId = some workspaceId ∧
      result.Keyed workspaceId event.row.id ("agent_lifecycle:" ++ rest) := by
  unfold agentLifecycleDelivery at delivered
  simp only at delivered
  split at delivered
  · cases delivered
  rename_i workspaceId given
  split at delivered
  · cases delivered
  rw [Except.bind_ok] at delivered
  obtain ⟨taskId, -, delivered⟩ := delivered
  rw [Except.bind_ok] at delivered
  obtain ⟨owner, -, delivered⟩ := delivered
  split at delivered
  · cases delivered
  rename_i name
  rw [Except.bind_ok] at delivered
  obtain ⟨discordId, -, delivered⟩ := delivered
  split at delivered
  · cases delivered
  cases delivered
  refine ⟨workspaceId, platform ++ ":" ++ destination ++ ":target_" ++ name.pyStr,
    (Option.filter_eq_some_iff.mp given).1, rfl, rfl, ?_⟩
  have kind : ":agent_lifecycle:" = ":" ++ "agent_lifecycle:" := by decide
  have named : ":target_" = ":" ++ "target_" := by decide
  simp only [supportedResult, ToString.toString, kind, named, String.append_assoc]

omit [EventRenderer] in
/-- Texts that differ early differ however they go on. -/
theorem append_ne {first second x y : String} (long : 7 ≤ first.toList.length)
    (alsoLong : 7 ≤ second.toList.length) (differ : first.toList.take 7 ≠ second.toList.take 7) :
    first ++ x ≠ second ++ y := by
  intro same
  have taken := congrArg (fun text => text.toList.take 7) same
  simp only [String.toList_append, List.take_append_of_le_length long,
    List.take_append_of_le_length alsoLong] at taken
  exact differ taken

omit [EventRenderer] in
theorem RenderEventResult.Keyed.complete {result : RenderEventResult} {workspaceId rest : String}
    (keyed : result.Keyed workspaceId eventId rest) :
    result.payload.isSome = true ∧ result.messageKey.isSome = true :=
  ⟨keyed.payload, by rw [keyed.messageKey]; rfl⟩

omit [EventRenderer] in
theorem RenderEventResult.Keyed.key_ne {first second : RenderEventResult}
    {workspaceId rest rest' : String} (one : first.Keyed workspaceId eventId rest)
    (other : second.Keyed workspaceId eventId rest') (differ : rest ≠ rest') :
    (first.message eventId platform destination).messageKey ≠
      (second.message eventId platform destination).messageKey := by
  intro same
  simp only [RenderEventResult.message, one.messageKey, other.messageKey, Option.getD_some,
    String.append_right_inj] at same
  exact differ same

/-- What a rendering for the webhook consists of. -/
structure Rendering (eventId destination : String) (results : List RenderEventResult) : Prop where
  few : results.length ≤ 3
  complete : ∀ result ∈ results, result.supported = true →
    result.payload.isSome = true ∧ result.messageKey.isSome = true
  nodup : ((prescribed eventId "discord_webhook" destination results).map Message.messageKey).Nodup

theorem renderEventDeliveries_ok
    (rendered : renderEventDeliveries db a b eventId "discord_webhook" destination = .ok results) :
    Rendering eventId destination results := by
  unfold renderEventDeliveries at rendered
  rw [Except.bind_ok] at rendered
  obtain ⟨base, single, rendered⟩ := rendered
  obtain ⟨row, member, rfl, sameRow, keyed⟩ := renderEvent_ok single
  split_ifs at rendered with supported
  swap
  · cases rendered
    have none : prescribed row.id "discord_webhook" destination [base] = [] := by
      simp [prescribed, supported]
    refine ⟨by simp, fun result isBase isSupported => ?_, by rw [none]; exact .nil⟩
    rw [List.mem_singleton.mp isBase] at isSupported
    exact absurd isSupported (by simpa using supported)
  rw [Except.bind_ok] at rendered
  obtain ⟨handoff, offered, rendered⟩ := rendered
  rw [Except.bind_ok] at rendered
  obtain ⟨lifecycle, told, rendered⟩ := rendered
  cases rendered
  obtain ⟨workspaceId, given, named, baseKey⟩ := keyed (by simpa using supported)
  have handoffKey : ∀ result ∈ handoff.toList, ∃ rest,
      result.Keyed workspaceId row.id ("agent_handoff:" ++ rest) := by
    intro result isHandoff
    obtain ⟨other, rest, same, key⟩ := agentHandoffDelivery_ok
      (Option.mem_toList.mp isHandoff ▸ offered)
    rw [sameRow, given] at same
    cases same
    exact ⟨rest, sameRow ▸ key⟩
  have lifecycleKey : ∀ result ∈ lifecycle.toList, ∃ rest,
      result.Keyed workspaceId row.id ("agent_lifecycle:" ++ rest) := by
    intro result isLifecycle
    obtain ⟨other, rest, same, key⟩ := agentLifecycleDelivery_ok
      (Option.mem_toList.mp isLifecycle ▸ told)
    rw [sameRow, given] at same
    cases same
    exact ⟨rest, sameRow ▸ key⟩
  refine ⟨?_, ?_, ?_⟩
  · cases handoff <;> cases lifecycle <;> simp
  · intro result member _
    rcases List.mem_cons.mp member with rfl | extra
    · exact baseKey.complete
    rcases List.mem_append.mp extra with isHandoff | isLifecycle
    · exact (handoffKey result isHandoff).choose_spec.complete
    · exact (lifecycleKey result isLifecycle).choose_spec.complete
  · -- the three keys go on with the platform and with the two kinds
    have baseHandoff : ∀ result ∈ handoff.toList,
        (base.message row.id "discord_webhook" destination).messageKey ≠
          (result.message row.id "discord_webhook" destination).messageKey := by
      intro result isHandoff
      obtain ⟨rest, key⟩ := handoffKey result isHandoff
      exact baseKey.key_ne key (by
        rw [String.append_assoc]
        exact append_ne (by decide) (by decide) (by decide))
    have baseLifecycle : ∀ result ∈ lifecycle.toList,
        (base.message row.id "discord_webhook" destination).messageKey ≠
          (result.message row.id "discord_webhook" destination).messageKey := by
      intro result isLifecycle
      obtain ⟨rest, key⟩ := lifecycleKey result isLifecycle
      exact baseKey.key_ne key (by
        rw [String.append_assoc]
        exact append_ne (by decide) (by decide) (by decide))
    have handoffLifecycle : ∀ first ∈ handoff.toList, ∀ second ∈ lifecycle.toList,
        (first.message row.id "discord_webhook" destination).messageKey ≠
          (second.message row.id "discord_webhook" destination).messageKey := by
      intro first isHandoff second isLifecycle
      obtain ⟨rest, key⟩ := handoffKey first isHandoff
      obtain ⟨rest', key'⟩ := lifecycleKey second isLifecycle
      exact key.key_ne key' (append_ne (by decide) (by decide) (by decide))
    have all : ∀ result ∈ base :: handoff.toList ++ lifecycle.toList, result.supported = true := by
      intro result member
      rcases List.mem_cons.mp member with rfl | extra
      · exact baseKey.supported
      rcases List.mem_append.mp extra with isHandoff | isLifecycle
      · exact (handoffKey result isHandoff).choose_spec.supported
      · exact (lifecycleKey result isLifecycle).choose_spec.supported
    rw [prescribed, List.filter_eq_self.mpr all]
    cases handoff <;> cases lifecycle <;> simp_all

end Rendering

section Creation

variable [Platform] {w w' w'' : Work Db} {messages others : List Message} {count : Nat}

/-- The identifiers of the next draws are distinct and unused. -/
structure FreshIds (w : Work Db) (count : Nat) : Prop where
  unused : ∀ i < count, ∀ row ∈ w.store.deliveries, row.id ≠ Platform.uuid4 (w.draws + i)
  distinct : ∀ i j, i < j → j < count →
    Platform.uuid4 (w.draws + i) ≠ Platform.uuid4 (w.draws + j)

/-- Nothing is written but deliveries, and these are the messages in their order. -/
structure Filed (w w' : Work Db) (messages : List Message) : Prop where
  store : w'.store = { w.store with deliveries := w'.store.deliveries }
  draws : w'.draws = w.draws + messages.length
  rows : ∃ rows, w'.store.deliveries.rows = w.store.deliveries.rows ++ rows ∧
    rows.map DeliveryRow.message = messages ∧
    ∀ row ∈ rows, ∃ i < messages.length, row.id = Platform.uuid4 (w.draws + i)

theorem Filed.nil (store : w'.store = w.store) (draws : w'.draws = w.draws) : Filed w w' [] where
  store := by rw [store]
  draws := by rw [draws, List.length_nil, Nat.add_zero]
  rows := ⟨[], by rw [store, List.append_nil], rfl, nofun⟩

theorem Filed.trans (first : Filed w w' messages) (second : Filed w' w'' others) :
    Filed w w'' (messages ++ others) where
  store := by rw [second.store, first.store]
  draws := by
    rw [second.draws, first.draws, List.length_append, Nat.add_assoc]
  rows := by
    obtain ⟨rows, appended, same, ids⟩ := first.rows
    obtain ⟨rows', appended', same', ids'⟩ := second.rows
    refine ⟨rows ++ rows', by rw [appended', appended, List.append_assoc], by simp [same, same'],
      fun row member => ?_⟩
    rw [List.length_append]
    rcases List.mem_append.mp member with old | new
    · obtain ⟨i, bound, drawn⟩ := ids row old
      exact ⟨i, by omega, drawn⟩
    · obtain ⟨i, bound, drawn⟩ := ids' row new
      rw [first.draws, Nat.add_assoc] at drawn
      exact ⟨messages.length + i, by omega, drawn⟩

/-- A row is an earlier one or one of the messages. -/
theorem Filed.mem (files : Filed w w' messages) {row : DeliveryRow}
    (member : row ∈ w'.store.deliveries) :
    row ∈ w.store.deliveries ∨ row.message ∈ messages ∧
      ∃ i < messages.length, row.id = Platform.uuid4 (w.draws + i) := by
  obtain ⟨rows, appended, same, ids⟩ := files.rows
  rw [Table.mem_def, appended, List.mem_append] at member
  rcases member with old | new
  · exact .inl old
  · exact .inr ⟨same ▸ List.mem_map_of_mem new, ids row new⟩

theorem Filed.freshIds (files : Filed w w' messages) (fresh : FreshIds w (messages.length + count)) :
    FreshIds w' count where
  unused i bound row member := by
    rw [files.draws, Nat.add_assoc]
    rcases files.mem member with old | ⟨-, j, earlier, drawn⟩
    · exact fresh.unused _ (by omega) row old
    · rw [drawn]
      exact fresh.distinct j _ (by omega) (by omega)
  distinct i j before bound := by
    rw [files.draws, Nat.add_assoc, Nat.add_assoc]
    exact fresh.distinct _ _ (by omega) (by omega)

theorem FreshIds.mono {fewer : Nat} (fresh : FreshIds w count) (bound : fewer ≤ count) :
    FreshIds w fewer :=
  ⟨fun i small => fresh.unused i (by omega), fun i j before small =>
    fresh.distinct i j before (by omega)⟩

theorem FreshIds.of_store {w' : Work Db} (fresh : FreshIds w count) (store : w'.store = w.store)
    (draws : w'.draws = w.draws) : FreshIds w' count :=
  ⟨by rw [store, draws]; exact fresh.unused, by rw [draws]; exact fresh.distinct⟩

/-- A delivery of a known event under a free key is created. -/
theorem createDelivery_run (delivery : NewDelivery)
    (known : ∃ row ∈ w.store.events, row.id = delivery.eventId)
    (free : ∀ row ∈ w.store.deliveries, row.messageKey ≠ delivery.messageKey)
    (fresh : FreshIds w 1) :
    ∃ row w', (createDelivery delivery).run w = .ok (row, true) w' ∧ w'.tick = w.tick + 1 ∧
      row.payloadJson = .dumps delivery.payload ∧
      Filed w w' [⟨some delivery.eventId, delivery.platform, delivery.destination,
        delivery.messageKey, .dumps delivery.payload⟩] := by
  have found : (w.store.events.find? (·.id = delivery.eventId)).isNone = false := by
    obtain ⟨event, member, same⟩ := known
    cases looked : w.store.events.find? (·.id = delivery.eventId) with
    | some event => rfl
    | none => exact absurd (Table.find?_none looked event member) (by simp [same])
  let row : DeliveryRow :=
    { id := Platform.uuid4 w.draws, eventId := some delivery.eventId,
      platform := delivery.platform, destination := delivery.destination,
      messageKey := delivery.messageKey, status := "pending",
      payloadJson := .dumps delivery.payload, createdAt := now w.tick }
  obtain ⟨deliveries, inserted⟩ : ∃ deliveries, w.store.deliveries.insert? row = some deliveries := by
    refine Table.exists_insert? rfl fun other member => ?_
    have otherId : other.id ≠ Platform.uuid4 w.draws := fresh.unused 0 (by omega) other member
    simp [deliverySchema, row, free other member, otherId]
  have rows := Table.insert?_rows inserted
  refine ⟨row, ⟨{ w.store with deliveries }, w.tick + 1, w.draws + 1⟩, ?_, rfl, rfl, rfl, rfl,
    [row], rows, rfl, fun other member => ⟨0, by simp, by rw [List.mem_singleton.mp member]; rfl⟩⟩
  unfold createDelivery
  refine Txn.bind_ok.mpr ⟨_, w, rfl, ?_⟩
  refine Txn.bind_ok.mpr ⟨(), w, Txn.raiseIf_ok.mpr ⟨by simp [found], rfl⟩, ?_⟩
  refine Txn.bind_ok.mpr ⟨_, _, utcNow_run, ?_⟩
  refine Txn.bind_ok.mpr ⟨_, _, newUuid_run, ?_⟩
  refine Txn.bind_ok.mpr ⟨some deliveries, ⟨w.store, w.tick + 1, w.draws + 1⟩, ?_, ?_⟩
  · rw [Txn.read_run]
    exact congrArg (EStateM.Result.ok · _) inserted
  exact Txn.bind_ok.mpr ⟨(), _, insertDelivery_ok.mpr ⟨deliveries, inserted, rfl⟩, rfl⟩

/-- No earlier delivery has the key of one of the messages, and no two of them share one. -/
structure FreeKeys (w : Work Db) (messages : List Message) : Prop where
  free : ∀ message ∈ messages, ∀ row ∈ w.store.deliveries, row.messageKey ≠ message.messageKey
  nodup : (messages.map Message.messageKey).Nodup

theorem Filed.freeKeys (files : Filed w w' messages) (free : FreeKeys w (messages ++ others)) :
    FreeKeys w' others := by
  have nodup := free.nodup
  rw [List.map_append, List.nodup_append] at nodup
  refine ⟨fun message member row stored same => ?_, nodup.2.1⟩
  rcases files.mem stored with old | ⟨earlier, -⟩
  · exact free.free message (List.mem_append_right _ member) row old same
  · exact nodup.2.2 row.messageKey (List.mem_map.mpr ⟨_, earlier, rfl⟩) message.messageKey
      (List.mem_map_of_mem member) same

/-- Whether a result counts as created. -/
def PolicyDeliveryResult.counts (result : PolicyDeliveryResult) : Bool :=
  result.supported && result.created

variable {eventId platform destination : String}

/-- The deliveries of a list of results. -/
theorem createEach_run {results : List RenderEventResult}
    (known : ∃ row ∈ w.store.events, row.id = eventId)
    (complete : ∀ result ∈ results, result.supported = true →
      result.payload.isSome = true ∧ result.messageKey.isSome = true)
    (free : FreeKeys w (prescribed eventId platform destination results))
    (fresh : FreshIds w (prescribed eventId platform destination results).length) :
    ∃ created w', (createEach eventId platform destination results).run w = .ok created w' ∧
      Filed w w' (prescribed eventId platform destination results) ∧
      w'.tick = w.tick + (prescribed eventId platform destination results).length ∧
      created.countP PolicyDeliveryResult.counts =
        (prescribed eventId platform destination results).length := by
  induction results generalizing w with
  | nil => exact ⟨[], w, rfl, .nil rfl rfl, rfl, rfl⟩
  | cons result rest ih =>
    have restComplete := fun other member => complete other (List.mem_cons_of_mem result member)
    cases supported : result.supported with
    | false =>
      rw [prescribed_skip supported] at free fresh ⊢
      obtain ⟨created, w', ran, files, ticks, counted⟩ := ih known restComplete free fresh
      refine ⟨⟨false, false, true, result.event, none, none, none, result.reason⟩ :: created, w',
        ?_, files, ticks, ?_⟩
      · refine Txn.bind_ok.mpr ⟨_, w, ?_, Txn.bind_ok.mpr ⟨created, w', ran, rfl⟩⟩
        simp [createRendered, supported]
      · rw [List.countP_cons_of_neg (by simp [PolicyDeliveryResult.counts]), counted]
    | true =>
      obtain ⟨hasPayload, hasKey⟩ := complete result (List.mem_cons_self ..) supported
      obtain ⟨payload, payloadEq⟩ := Option.isSome_iff_exists.mp hasPayload
      obtain ⟨key, keyEq⟩ := Option.isSome_iff_exists.mp hasKey
      rw [prescribed_cons supported] at free fresh ⊢
      have single : result.message eventId platform destination =
          ⟨some eventId, platform, destination, key, .dumps payload⟩ := by
        simp [RenderEventResult.message, payloadEq, keyEq]
      obtain ⟨row, middle, created, ticks, payloadJson, files⟩ := createDelivery_run
        ⟨eventId, platform, destination, key, payload⟩ known
        (by simpa [single] using free.free _ (List.mem_cons_self ..))
        (fresh.mono (by simp))
      rw [← single] at files
      have knownAfter : ∃ row ∈ middle.store.events, row.id = eventId := by
        rw [files.store]
        exact known
      obtain ⟨others, w', ran, restFiles, restTicks, counted⟩ := ih knownAfter restComplete
        (files.freeKeys free) (files.freshIds (fresh.mono (by simp [Nat.add_comm])))
      have stored : row.toDict = .ok ⟨row, payload.orElse (.obj [])⟩ := by
        rw [DeliveryRow.toDict, payloadJson]
        rfl
      refine ⟨⟨true, true, false, result.event, some ⟨row, payload.orElse (.obj [])⟩, some payload,
        some key, none⟩ :: others, w', ?_, files.trans restFiles, ?_, ?_⟩
      · refine Txn.bind_ok.mpr ⟨_, middle, ?_, Txn.bind_ok.mpr ⟨others, w', ran, rfl⟩⟩
        simp only [createRendered, supported, payloadEq, keyEq]
        refine Txn.bind_ok.mpr ⟨_, middle, created, ?_⟩
        exact Txn.bind_ok.mpr ⟨_, middle, Txn.orRaise_ok.mpr ⟨stored, rfl⟩, rfl⟩
      · rw [restTicks, ticks, List.length_cons]
        omega
      · rw [List.countP_cons_of_pos rfl, counted, List.length_cons]

end Creation

section Filings

/-- The destination of the deliveries of a workspace. -/
def Workspace.destination (workspace : Workspace) : String :=
  workspace.defaultDestination.getD ""

def Workspace.isWebhook (workspace : Workspace) : Bool :=
  workspace.defaultBus = some "discord_webhook"

/-- An event that is due for a workspace, with what it renders to. -/
structure Filing where
  workspace : Workspace
  event : EventRow
  results : List RenderEventResult

def Filing.subject (filing : Filing) : Workspace × EventRow := (filing.workspace, filing.event)

def Filing.messages (filing : Filing) : List Message :=
  prescribed filing.event.id "discord_webhook" filing.workspace.destination filing.results

variable [Platform] [EventRenderer]

/-- The rendering of an event for the webhook of a workspace. -/
def renderFor (db : Db) (handoffAt lifecycleAt : Nat) (subject : Workspace × EventRow) :
    Except Exn (List RenderEventResult) :=
  renderEventDeliveries db handoffAt lifecycleAt subject.2.id "discord_webhook" subject.1.destination

/-- The rendering reads the clock within the next `span` readings. -/
def Filing.Valid (start : Work Db) (span : Nat) (filing : Filing) : Prop :=
  ∃ i j, i < span ∧ j < span ∧
    renderFor start.store (now (start.tick + i)) (now (start.tick + j)) filing.subject =
      .ok filing.results

/-- In whatever way the events of a call render, no event with a delivery to create comes after twenty
created ones. -/
def Within (start : Work Db) (span created : Nat) (subjects : List (Workspace × EventRow)) : Prop :=
  ∀ filings : List Filing, filings.map Filing.subject = subjects →
    (∀ filing ∈ filings, filing.Valid start span) →
      ∀ earlier filing later, filings = earlier ++ filing :: later → filing.messages ≠ [] →
        created + (earlier.flatMap Filing.messages).length < 20

/-- The state in which a cycle goes on with the rest of what is due. -/
structure Clear (start : Work Db) (span : Nat) (w : Work Db)
    (subjects : List (Workspace × EventRow)) : Prop where
  store : w.store = { start.store with deliveries := w.store.deliveries }
  began : start.tick ≤ w.tick
  ends : w.tick + 5 * subjects.length ≤ start.tick + span
  known : ∀ subject ∈ subjects, subject.2 ∈ start.store.events
  renders : ∀ subject ∈ subjects, ∀ i j, i < span → j < span → ∃ results,
    renderFor start.store (now (start.tick + i)) (now (start.tick + j)) subject = .ok results
  free : ∀ filing : Filing, filing.Valid start span → filing.subject ∈ subjects →
    ∀ message ∈ filing.messages, ∀ row ∈ w.store.deliveries, row.messageKey ≠ message.messageKey
  apart : subjects.Pairwise fun x y => ∀ first second : Filing, first.Valid start span →
    second.Valid start span → first.subject = x → second.subject = y →
      ∀ one ∈ first.messages, ∀ other ∈ second.messages, one.messageKey ≠ other.messageKey
  fresh : FreshIds w (3 * subjects.length)

variable {start w w' : Work Db} {span created : Nat} {subject : Workspace × EventRow}
  {subjects later : List (Workspace × EventRow)} {filing : Filing}

theorem Filing.Valid.rendering (valid : filing.Valid start span) :
    Rendering filing.event.id filing.workspace.destination filing.results := by
  obtain ⟨i, j, -, -, rendered⟩ := valid
  exact renderEventDeliveries_ok rendered

theorem Clear.drop (clear : Clear start span w (subjects ++ later)) : Clear start span w later where
  store := clear.store
  began := clear.began
  ends := by
    have := clear.ends
    rw [List.length_append] at this
    omega
  known subject member := clear.known subject (List.mem_append_right _ member)
  renders subject member := clear.renders subject (List.mem_append_right _ member)
  free filing valid member := clear.free filing valid (List.mem_append_right _ member)
  apart := (List.pairwise_append.mp clear.apart).2.1
  fresh := clear.fresh.mono (by rw [List.length_append]; omega)

theorem Filing.Valid.few (valid : filing.Valid start span) : filing.messages.length ≤ 3 := by
  have few := valid.rendering.few
  rw [Filing.messages, prescribed, List.length_map]
  exact (List.length_filter_le _ _).trans few

/-- What filing the first event leaves for the others. -/
theorem Clear.after (clear : Clear start span w (filing.subject :: subjects))
    (valid : filing.Valid start span) (files : Filed w w' filing.messages)
    (ticks : w'.tick = w.tick + 2 + filing.messages.length) : Clear start span w' subjects where
  store := by
    rw [files.store, clear.store]
  began := by
    have := clear.began
    omega
  ends := by
    have := clear.ends
    have := valid.few
    rw [List.length_cons] at *
    omega
  known other member := clear.known other (List.mem_cons_of_mem _ member)
  renders other member := clear.renders other (List.mem_cons_of_mem _ member)
  free other otherValid member message isMessage row stored same := by
    rcases files.mem stored with old | ⟨new, -⟩
    · exact clear.free other otherValid (List.mem_cons_of_mem _ member) message isMessage row old same
    · exact (List.pairwise_cons.mp clear.apart).1 other.subject member filing other valid otherValid
        rfl rfl row.message new message isMessage same
  apart := (List.pairwise_cons.mp clear.apart).2
  fresh := files.freshIds (clear.fresh.mono (by
    have := valid.few
    rw [List.length_cons]
    omega))

/-- The first of the due events is filed. -/
theorem createDeliveriesForEvent_run (clear : Clear start span w (subject :: subjects)) :
    ∃ (filing : Filing) (created : List PolicyDeliveryResult) (w' : Work Db),
      filing.subject = subject ∧ filing.Valid start span ∧
      (createDeliveriesForEvent subject.2.id "discord_webhook" subject.1.destination).run w =
        .ok created w' ∧
      Filed w w' filing.messages ∧
      created.countP PolicyDeliveryResult.counts = filing.messages.length ∧
      Clear start span w' subjects := by
  have began := clear.began
  have ends := clear.ends
  rw [List.length_cons] at ends
  obtain ⟨i, tick⟩ := Nat.exists_eq_add_of_le began
  obtain ⟨results, rendered⟩ := clear.renders subject (List.mem_cons_self ..) i (i + 1) (by omega)
    (by omega)
  let filing : Filing := ⟨subject.1, subject.2, results⟩
  have valid : filing.Valid start span := ⟨i, i + 1, by omega, by omega, rendered⟩
  let ready : Work Db := { w with tick := w.tick + 2 }
  have freeKeys : FreeKeys ready filing.messages :=
    ⟨clear.free filing valid (List.mem_cons_self ..), valid.rendering.nodup⟩
  have freshIds : FreshIds ready filing.messages.length := by
    have few := valid.few
    exact (clear.fresh.mono (by rw [List.length_cons]; omega)).of_store rfl rfl
  have known : ∃ row ∈ ready.store.events, row.id = subject.2.id := by
    refine ⟨subject.2, ?_, rfl⟩
    change subject.2 ∈ w.store.events
    rw [clear.store]
    exact clear.known subject (List.mem_cons_self ..)
  obtain ⟨created, w', ran, files, ticks, counted⟩ := createEach_run known valid.rendering.complete
    freeKeys freshIds
  have filed : Filed w w' filing.messages := ⟨files.store, files.draws, files.rows⟩
  refine ⟨filing, created, w', rfl, valid, ?_, filed, counted, clear.after valid filed ticks⟩
  unfold createDeliveriesForEvent
  refine Txn.bind_ok.mpr ⟨_, _, utcNow_run, Txn.bind_ok.mpr ⟨_, _, utcNow_run, ?_⟩⟩
  refine Txn.bind_ok.mpr ⟨results, ready, readOrRaise_ok.mpr ⟨?_, rfl⟩, ran⟩
  rw [tick, Nat.add_assoc start.tick i 1]
  change renderEventDeliveries w.store _ _ _ _ _ = _
  rw [clear.store]
  exact rendered

theorem Within.after (within : Within start span created (filing.subject :: subjects))
    (valid : filing.Valid start span) :
    Within start span (created + filing.messages.length) subjects := by
  intro filings same valids earlier other later split nonempty
  have bound := within (filing :: filings) (by rw [List.map_cons, same])
    (List.forall_mem_cons.mpr ⟨valid, valids⟩) (filing :: earlier) other later
    (by rw [split, List.cons_append]) nonempty
  rw [List.flatMap_cons, List.length_append] at bound
  omega

/-- After twenty deliveries nothing is left to create. -/
theorem Within.full (within : Within start span created subjects) (full : 20 ≤ created)
    {filings : List Filing} (same : filings.map Filing.subject = subjects)
    (valids : ∀ filing ∈ filings, filing.Valid start span) :
    filings.flatMap Filing.messages = [] := by
  refine List.flatMap_eq_nil_iff.mpr fun other member => ?_
  by_contra nonempty
  obtain ⟨earlier, later, split⟩ := List.append_of_mem member
  have bound := within filings same valids earlier other later split nonempty
  omega

/-- What is due renders at some moments of the cycle. -/
theorem Clear.filings (clear : Clear start span w (subjects ++ later)) :
    ∃ filings : List Filing, filings.map Filing.subject = subjects ∧
      ∀ filing ∈ filings, filing.Valid start span := by
  induction subjects with
  | nil => exact ⟨[], rfl, List.forall_mem_nil _⟩
  | cons subject rest ih =>
    have began := clear.began
    have ends := clear.ends
    rw [List.cons_append, List.length_cons] at ends
    obtain ⟨results, rendered⟩ := clear.renders subject (List.mem_cons_self ..) 0 0 (by omega)
      (by omega)
    have others : Clear start span w ([subject] ++ (rest ++ later)) := clear
    obtain ⟨filings, same, valids⟩ := ih others.drop
    refine ⟨⟨subject.1, subject.2, results⟩ :: filings, by rw [List.map_cons, same]; rfl, ?_⟩
    exact List.forall_mem_cons.mpr ⟨⟨0, 0, by omega, by omega, rendered⟩, valids⟩

omit [Platform] [EventRenderer] in
theorem PumpEventsResult.foldl_add_created (summary : PumpEventsResult) (row : EventRow)
    (results : List PolicyDeliveryResult) : (results.foldl (·.add row) summary).created =
      summary.created + results.countP PolicyDeliveryResult.counts := by
  induction results generalizing summary with
  | nil => rfl
  | cons result rest ih =>
    rw [List.foldl_cons, ih, List.countP_cons]
    cases supported : result.supported <;> cases fresh : result.created <;>
      simp [PumpEventsResult.add, PolicyDeliveryResult.counts, supported, fresh]
    omega

omit [Platform] [EventRenderer] in
@[simp] theorem PumpEventsResult.addEvent_created (summary : PumpEventsResult) (row : EventRow)
    (results : List PolicyDeliveryResult) : (summary.addEvent row results).created =
      summary.created + results.countP PolicyDeliveryResult.counts := by
  unfold PumpEventsResult.addEvent
  split <;> exact foldl_add_created _ row results

/-- One call over the events of a workspace files them all. -/
theorem pumpEach_run (request : PumpRequest) (summary : PumpEventsResult) {workspace : Workspace}
    {rows : List EventRow} (platform : request.platform = "discord_webhook")
    (destination : request.destination = workspace.destination) (limit : request.limit = 20)
    (clear : Clear start span w (rows.map (Prod.mk workspace) ++ later))
    (within : Within start span summary.created (rows.map (Prod.mk workspace))) :
    ∃ (result : PumpEventsResult) (w' : Work Db) (filings : List Filing),
      (pumpEach request summary rows).run w = .ok result w' ∧
      filings.map Filing.subject = rows.map (Prod.mk workspace) ∧
      (∀ filing ∈ filings, filing.Valid start span) ∧
      Filed w w' (filings.flatMap Filing.messages) ∧ Clear start span w' later := by
  induction rows generalizing summary w with
  | nil => exact ⟨summary, w, [], rfl, rfl, List.forall_mem_nil _, .nil rfl rfl, clear⟩
  | cons row rest ih =>
    obtain ⟨filing, created, middle, subject, valid, ran, files, counted, clearAfter⟩ :=
      createDeliveriesForEvent_run clear
    rw [List.map_cons, ← subject] at within
    have withinAfter := within.after valid
    rw [← counted, ← PumpEventsResult.addEvent_created summary row created] at withinAfter
    by_cases full : 20 ≤ (summary.addEvent row created).created
    · obtain ⟨filings, same, valids⟩ := clearAfter.filings
      refine ⟨summary.addEvent row created, middle, filing :: filings, ?_, ?_, ?_, ?_,
        clearAfter.drop⟩
      · unfold pumpEach
        rw [platform, destination]
        refine Txn.bind_ok.mpr ⟨created, middle, ran, ?_⟩
        rw [limit, if_pos full]
        rfl
      · rw [List.map_cons, same, subject, List.map_cons]
      · exact List.forall_mem_cons.mpr ⟨valid, valids⟩
      · rw [List.flatMap_cons, withinAfter.full full same valids, List.append_nil]
        exact files
    · obtain ⟨result, w', filings, restRan, same, valids, restFiles, clearLater⟩ :=
        ih (summary.addEvent row created) clearAfter withinAfter
      refine ⟨result, w', filing :: filings, ?_, ?_, ?_, ?_, clearLater⟩
      · unfold pumpEach
        rw [platform, destination]
        refine Txn.bind_ok.mpr ⟨created, middle, ran, ?_⟩
        rw [limit, if_neg full]
        exact restRan
      · rw [List.map_cons, same, subject, List.map_cons]
      · exact List.forall_mem_cons.mpr ⟨valid, valids⟩
      · rw [List.flatMap_cons]
        exact files.trans restFiles

end Filings

section Cycle

/-- The events that a cycle considers for a workspace. -/
def dueRows (db : Db) (cursor cutoff : Nat) (workspace : Workspace) : List EventRow :=
  ((listEvents db workspace.id).filter fun (rowid, row) =>
    (cycleRequest workspace cursor cutoff).considers rowid row).map Prod.snd

def dueOf (db : Db) (cursor cutoff : Nat) (workspace : Workspace) : List (Workspace × EventRow) :=
  (dueRows db cursor cutoff workspace).map (Prod.mk workspace)

/-- All that a cycle considers. -/
def due (db : Db) (cursor : Nat) : List (Workspace × EventRow) :=
  ((listWorkspaces db).filter (·.isWebhook)).flatMap (dueOf db cursor (maxRowid db))

variable [Platform] [EventRenderer] {start w : Work Db} {span cursor cutoff : Nat}

theorem pumpEvents_run {workspace : Workspace} {later : List (Workspace × EventRow)}
    (clear : Clear start span w (dueOf start.store cursor cutoff workspace ++ later))
    (within : Within start span 0 (dueOf start.store cursor cutoff workspace)) :
    ∃ (result : PumpEventsResult) (w' : Work Db) (filings : List Filing),
      (pumpEvents (cycleRequest workspace cursor cutoff)).run w = .ok result w' ∧
      filings.map Filing.subject = dueOf start.store cursor cutoff workspace ∧
      (∀ filing ∈ filings, filing.Valid start span) ∧
      Filed w w' (filings.flatMap Filing.messages) ∧ Clear start span w' later := by
  obtain ⟨result, w', filings, ran, rest⟩ := pumpEach_run (cycleRequest workspace cursor cutoff)
    { workspaceId := workspace.id } rfl rfl rfl clear within
  refine ⟨result, w', filings, ?_, rest⟩
  unfold pumpEvents
  refine Txn.bind_ok.mpr ⟨(), w, rfl, Txn.bind_ok.mpr ⟨(), w, rfl, ?_⟩⟩
  refine Txn.bind_ok.mpr ⟨(), w, Txn.raiseIf_ok.mpr ⟨by simp [cycleRequest], rfl⟩, ?_⟩
  refine Txn.bind_ok.mpr ⟨listEvents start.store workspace.id, w, ?_, ran⟩
  rw [Txn.read_run, clear.store]
  rfl

/-- The loop over the workspaces files all that is due. -/
theorem pumpWorkspaces_run (created : Nat) {workspaces : List Workspace}
    (clear : Clear start span w
      ((workspaces.filter (·.isWebhook)).flatMap (dueOf start.store cursor cutoff)))
    (within : ∀ workspace ∈ workspaces, workspace.isWebhook = true →
      Within start span 0 (dueOf start.store cursor cutoff workspace)) :
    ∃ (total : Nat) (w' : Work Db) (filings : List Filing),
      (pumpWorkspaces cursor cutoff created workspaces).run w = .ok total w' ∧
      filings.map Filing.subject =
        (workspaces.filter (·.isWebhook)).flatMap (dueOf start.store cursor cutoff) ∧
      (∀ filing ∈ filings, filing.Valid start span) ∧
      Filed w w' (filings.flatMap Filing.messages) := by
  induction workspaces generalizing w created with
  | nil => exact ⟨created, w, [], rfl, rfl, List.forall_mem_nil _, .nil rfl rfl⟩
  | cons workspace rest ih =>
    have restWithin := fun other member => within other (List.mem_cons_of_mem workspace member)
    cases webhook : workspace.isWebhook with
    | false =>
      rw [List.filter_cons_of_neg (by simp [webhook])] at clear ⊢
      obtain ⟨total, w', filings, ran, others⟩ := ih created clear restWithin
      refine ⟨total, w', filings, ?_, others⟩
      unfold pumpWorkspaces
      rw [if_neg (by simpa [Workspace.isWebhook] using webhook)]
      exact ran
    | true =>
      rw [List.filter_cons_of_pos webhook, List.flatMap_cons] at clear ⊢
      obtain ⟨result, middle, filings, ran, same, valids, files, clearRest⟩ :=
        pumpEvents_run clear (within workspace (List.mem_cons_self ..) webhook)
      obtain ⟨total, w', others, restRan, restSame, restValids, restFiles⟩ :=
        ih (created + result.created) clearRest restWithin
      refine ⟨total, w', filings ++ others, ?_, by rw [List.map_append, same, restSame], ?_, ?_⟩
      · unfold pumpWorkspaces
        rw [if_pos (by simpa [Workspace.isWebhook] using webhook)]
        exact Txn.bind_ok.mpr ⟨result, middle, ran, restRan⟩
      · exact List.forall_mem_append.mpr ⟨valids, restValids⟩
      · rw [List.flatMap_append]
        exact files.trans restFiles

/-- What a cycle must meet when it starts with a cursor. A due event reads the clock at most five times
and draws at most three identifiers. -/
structure Smooth (start : Work Db) (cursor : Nat) : Prop where
  renders : ∀ subject ∈ due start.store cursor, ∀ i j, i < 5 * (due start.store cursor).length →
    j < 5 * (due start.store cursor).length → ∃ results,
      renderFor start.store (now (start.tick + i)) (now (start.tick + j)) subject = .ok results
  within : ∀ workspace ∈ listWorkspaces start.store, workspace.isWebhook = true →
    Within start (5 * (due start.store cursor).length) 0
      (dueOf start.store cursor (maxRowid start.store) workspace)
  free : ∀ filing : Filing, filing.Valid start (5 * (due start.store cursor).length) →
    filing.subject ∈ due start.store cursor → ∀ message ∈ filing.messages,
      ∀ row ∈ start.store.deliveries, row.messageKey ≠ message.messageKey
  apart : (due start.store cursor).Pairwise fun x y => ∀ first second : Filing,
    first.Valid start (5 * (due start.store cursor).length) →
      second.Valid start (5 * (due start.store cursor).length) →
        first.subject = x → second.subject = y →
          ∀ one ∈ first.messages, ∀ other ∈ second.messages, one.messageKey ≠ other.messageKey
  named : ∀ filing : Filing, filing.Valid start (5 * (due start.store cursor).length) →
    filing.subject ∈ due start.store cursor → filing.messages ≠ [] → filing.workspace.id ≠ ""
  fresh : FreshIds start (3 * (due start.store cursor).length)

omit [Platform] [EventRenderer] in
theorem mem_listEvents {db : Db} {workspaceId : String} {rowid : Nat} {row : EventRow} :
    (rowid, row) ∈ listEvents db workspaceId ↔
      (∃ i, rowid = i + 1 ∧ db.events.rows[i]? = some row) ∧
        (workspaceId = "" ∨ row.workspaceId = some workspaceId) := by
  have numbered : (rowid, row) ∈ (db.events.rows.zipIdx.map fun entry => (entry.2 + 1, entry.1)) ↔
      ∃ i, rowid = i + 1 ∧ db.events.rows[i]? = some row := by
    constructor
    · intro member
      obtain ⟨⟨found, i⟩, indexed, same⟩ := List.mem_map.mp member
      cases same
      exact ⟨i, rfl, List.mem_zipIdx_iff_getElem?.mp indexed⟩
    · rintro ⟨i, rfl, found⟩
      exact List.mem_map.mpr ⟨(row, i), List.mem_zipIdx_iff_getElem?.mpr found, rfl⟩
  rw [← numbered]
  unfold listEvents
  by_cases all : workspaceId = "" <;> simp [all]

omit [Platform] [EventRenderer] in
/-- The events above the cursor and at or below the cutoff. -/
theorem mem_dueRows {db : Db} {workspace : Workspace} {row : EventRow} :
    row ∈ dueRows db cursor cutoff workspace ↔
      ∃ i, db.events.rows[i]? = some row ∧ cursor < i + 1 ∧ i + 1 ≤ cutoff ∧
        (workspace.id = "" ∨ row.workspaceId = some workspace.id) := by
  unfold dueRows
  rw [List.mem_map]
  constructor
  · rintro ⟨⟨rowid, found⟩, member, rfl⟩
    obtain ⟨listed, considered⟩ := List.mem_filter.mp member
    obtain ⟨⟨i, rfl, at_i⟩, owned⟩ := mem_listEvents.mp listed
    have bounds : cursor < i + 1 ∧ i + 1 ≤ cutoff := by
      simpa [PumpRequest.considers, cycleRequest] using considered
    exact ⟨i, at_i, bounds.1, bounds.2, owned⟩
  · rintro ⟨i, at_i, above, below, owned⟩
    refine ⟨(i + 1, row), List.mem_filter.mpr ⟨mem_listEvents.mpr ⟨⟨i, rfl, at_i⟩, owned⟩, ?_⟩, rfl⟩
    simpa [PumpRequest.considers, cycleRequest] using And.intro above below

omit [Platform] [EventRenderer] in
theorem mem_due {db : Db} {workspace : Workspace} {row : EventRow} :
    (workspace, row) ∈ due db cursor ↔
      workspace ∈ db.workspaces ∧ workspace.isWebhook = true ∧
        ∃ i, db.events.rows[i]? = some row ∧ cursor < i + 1 ∧
          (workspace.id = "" ∨ row.workspaceId = some workspace.id) := by
  have dueFor : ∀ other, (workspace, row) ∈ dueOf db cursor (maxRowid db) other ↔
      other = workspace ∧ row ∈ dueRows db cursor (maxRowid db) workspace := by
    intro other
    unfold dueOf
    rw [List.mem_map]
    constructor
    · rintro ⟨found, member, same⟩
      cases same
      exact ⟨rfl, member⟩
    · rintro ⟨rfl, member⟩
      exact ⟨row, member, rfl⟩
  unfold due
  simp only [List.mem_flatMap, List.mem_filter, dueFor, listWorkspaces, mem_sortBy, mem_dueRows]
  constructor
  · rintro ⟨other, ⟨member, webhook⟩, rfl, i, at_i, above, -, owned⟩
    exact ⟨member, webhook, i, at_i, above, owned⟩
  · rintro ⟨member, webhook, i, at_i, above, owned⟩
    obtain ⟨bound, -⟩ := List.getElem?_eq_some_iff.mp at_i
    exact ⟨workspace, ⟨member, webhook⟩, rfl, i, at_i, above, bound, owned⟩

theorem Smooth.clear (smooth : Smooth start cursor) :
    Clear start (5 * (due start.store cursor).length) start (due start.store cursor) where
  store := rfl
  began := Nat.le_refl _
  ends := Nat.le_refl _
  known subject member := by
    obtain ⟨-, -, i, at_i, -⟩ := mem_due.mp member
    exact List.mem_of_getElem? at_i
  renders := smooth.renders
  free := smooth.free
  apart := smooth.apart
  fresh := smooth.fresh

/-- A smooth cycle files all that is due. -/
theorem createDue_run (smooth : Smooth start cursor) :
    ∃ (total : Nat) (w' : Work Db) (filings : List Filing),
      (createDue cursor).run start = .ok (maxRowid start.store, total) w' ∧
      filings.map Filing.subject = due start.store cursor ∧
      (∀ filing ∈ filings, filing.Valid start (5 * (due start.store cursor).length)) ∧
      Filed start w' (filings.flatMap Filing.messages) := by
  obtain ⟨total, w', filings, ran, filed⟩ :=
    pumpWorkspaces_run 0 smooth.clear smooth.within
  refine ⟨total, w', filings, ?_, filed⟩
  unfold createDue
  refine Txn.bind_ok.mpr ⟨_, start, rfl, Txn.bind_ok.mpr ⟨_, start, rfl, ?_⟩⟩
  exact Txn.bind_ok.mpr ⟨total, w', ran, rfl⟩

omit [Platform] [EventRenderer] in
/-- An event is in one place of the ledger. -/
theorem event_index_unique {db : Db} {i j : Nat} {a b : EventRow}
    (at_i : db.events.rows[i]? = some a) (at_j : db.events.rows[j]? = some b) (same : a.id = b.id) :
    i = j := by
  obtain ⟨hi, rfl⟩ := List.getElem?_eq_some_iff.mp at_i
  obtain ⟨hj, rfl⟩ := List.getElem?_eq_some_iff.mp at_j
  have apart := List.pairwise_iff_getElem.mp db.events.distinct
  rcases Nat.lt_trichotomy i j with before | equal | after
  · have free := apart i j hi hj before
    simp [eventSchema, same] at free
  · exact equal
  · have free := apart j i hj hi after
    simp [eventSchema, same] at free

omit [Platform] [EventRenderer] in
theorem Filing.message_event {filing : Filing} {message : Message}
    (member : message ∈ filing.messages) : message.eventId = some filing.event.id := by
  obtain ⟨result, -, rfl⟩ := List.mem_map.mp member
  rfl

/-- Two filings of one event with something to create are for one workspace. -/
theorem Smooth.subject_unique (smooth : Smooth start cursor) {other filing : Filing}
    (valid : other.Valid start (5 * (due start.store cursor).length))
    (otherDue : other.subject ∈ due start.store cursor)
    (isDue : filing.subject ∈ due start.store cursor)
    (owned : filing.event.workspaceId = some filing.workspace.id)
    (same : other.event.id = filing.event.id) (nonempty : other.messages ≠ []) :
    other.subject = filing.subject := by
  have named := smooth.named other valid otherDue nonempty
  obtain ⟨otherMember, -, i, at_i, -, otherOwned⟩ := mem_due.mp otherDue
  obtain ⟨member, -, j, at_j, -, -⟩ := mem_due.mp isDue
  have index := event_index_unique at_i at_j same
  rw [index, at_j] at at_i
  have sameEvent : filing.event = other.event := Option.some.inj at_i
  have sameId : other.workspace.id = filing.workspace.id := by
    rw [← sameEvent, owned] at otherOwned
    rcases otherOwned with anonymous | same
    · exact absurd anonymous named
    · exact (Option.some.inj same).symm
  have sameWorkspace : other.workspace = filing.workspace :=
    Table.eq_of_clash otherMember member (by simp [keyedBy, sameId])
  rw [Filing.subject, Filing.subject, sameWorkspace, sameEvent]

/-- Among all that a smooth cycle files, the messages of an event are those for its own workspace. -/
theorem Smooth.own_messages (smooth : Smooth start cursor) {filings : List Filing} {filing : Filing}
    (subjects : filings.map Filing.subject = due start.store cursor)
    (valids : ∀ other ∈ filings, other.Valid start (5 * (due start.store cursor).length))
    (member : filing ∈ filings) (owned : filing.event.workspaceId = some filing.workspace.id) :
    (filings.flatMap Filing.messages).filter (·.eventId = some filing.event.id) =
      filing.messages := by
  have isDue : ∀ other ∈ filings, other.subject ∈ due start.store cursor := fun other member =>
    subjects ▸ List.mem_map_of_mem member
  have apart := smooth.apart
  rw [← subjects, List.pairwise_map, subjects] at apart
  obtain ⟨earlier, later, rfl⟩ := List.append_of_mem member
  obtain ⟨-, apartLater, apartEarlier⟩ := List.pairwise_append.mp apart
  -- a filing of the same event elsewhere in the list has nothing to create
  have none : ∀ other ∈ earlier ++ later, other.messages.filter
      (·.eventId = some filing.event.id) = [] := by
    intro other elsewhere
    have otherMember : other ∈ earlier ++ filing :: later := by
      rcases List.mem_append.mp elsewhere with before | after
      · exact List.mem_append_left _ before
      · exact List.mem_append_right _ (List.mem_cons_of_mem _ after)
    have valid := valids other otherMember
    refine List.filter_eq_nil_iff.mpr fun message isMessage about => ?_
    rw [Filing.message_event isMessage] at about
    have same : other.event.id = filing.event.id := by simpa using about
    have subject := smooth.subject_unique valid (isDue other otherMember) (isDue filing member) owned
      same (List.ne_nil_of_mem isMessage)
    rcases List.mem_append.mp elsewhere with before | after
    · exact apartEarlier other before filing (List.mem_cons_self ..) other other valid valid rfl
        subject message isMessage message isMessage rfl
    · exact (List.pairwise_cons.mp apartLater).1 other after other other valid valid subject rfl
        message isMessage message isMessage rfl
  have own : filing.messages.filter (·.eventId = some filing.event.id) = filing.messages :=
    List.filter_eq_self.mpr fun message isMessage => by
      rw [Filing.message_event isMessage]
      exact decide_eq_true rfl
  rw [List.filter_flatMap, List.flatMap_append, List.flatMap_cons, own]
  rw [List.flatMap_eq_nil_iff.mpr fun other before => none other (List.mem_append_left _ before),
    List.flatMap_eq_nil_iff.mpr fun other after => none other (List.mem_append_right _ after),
    List.nil_append, List.append_nil]

end Cycle

end Coordinate
