import Coordinate.Library.Machine
import Coordinate.Model.Store

/-! # Sending generic deliveries

`send_delivery` and `pump_deliveries` of `bus.py` over the rows of `deliveries`, as calls that run
beside each other. Every SQL statement with its commit and every `bus.send` is one step of one call,
and a call may stop for good between any two of them.
-/

namespace Coordinate

/-- `is_channel_delivery`, which parses the payload. -/
def isChannelDelivery (row : DeliveryRow) : Except Exn Bool := do
  let payload ← decodeColumn row.payloadJson
  raiseIf (¬ payload.isObj) (Exn.type "object has no attribute 'get'")
  return payload.get "purpose" = .str "channel_io.v1"

/-- `get_delivery`. -/
def getDelivery (deliveries : Table deliverySchema) (deliveryId : String) : Except Exn DeliveryRow :=
  match deliveries.find? (·.id = deliveryId) with
  | none => throw (Exn.key deliveryId)
  | some row => return row

/-- The platform filter of the readers, which an empty text switches off. -/
def onPlatform (platform : Option String) (row : DeliveryRow) : Bool :=
  match platform with
  | none => true
  | some name => name = "" || row.platform = name

def listDeliveries (deliveries : Table deliverySchema) (status : String) (platform : Option String) :
    List DeliveryRow :=
  deliveries.filter fun row => row.status = status && onPlatform platform row

/-- `UPDATE deliveries ... WHERE`, of columns outside the unique indexes. -/
def setDeliveries (deliveries : Table deliverySchema) (p : DeliveryRow → Bool) (status : String)
    (attemptCount : DeliveryRow → Nat) (platformMessageId : DeliveryRow → Option String)
    (lastError : Option String) : Table deliverySchema :=
  deliveries.modify p
    (fun row => { row with
      status, attemptCount := attemptCount row, platformMessageId := platformMessageId row,
      lastError })
    (fun _ => rfl) fun _ _ => rfl

namespace Sending

structure SendRequest where
  deliveryId : String
  maxAttempts : Int := 3
deriving DecidableEq, Repr

structure PumpRequest where
  platform : Option String := none
  limit : Int := 10
  recoverSending : Bool := false
deriving DecidableEq, Repr

inductive Request where
  | send (request : SendRequest)
  | pump (request : PumpRequest)
deriving DecidableEq, Repr

structure SendDeliveryResult where
  delivery : DeliveryDict
  sent : Bool
deriving DecidableEq, Repr

structure PumpResult where
  processed : Nat
  sent : Nat
  failed : Nat
  deliveries : List DeliveryDict
deriving DecidableEq, Repr

inductive Outcome where
  | sent (result : SendDeliveryResult)
  | pumped (result : PumpResult)
  | raised (error : Exn)
deriving DecidableEq, Repr

/-- The loop of a pump while one of its sends is in progress. -/
structure Loop where
  rest : List String
  result : PumpResult
deriving DecidableEq, Repr

/-- A `send_delivery` in progress, with the pump that called it. -/
structure Send where
  deliveryId : String
  maxAttempts : Int
  loop : Option Loop
deriving DecidableEq, Repr

/-- The next statement of a `send_delivery`. -/
inductive Point where
  /-- before `get_delivery` and the test of the status -/
  | checking
  /-- before `bus_for_platform` -/
  | choosing
  /-- before the read of `attempt_count` in `mark_delivery_sending` -/
  | counting
  /-- before its `UPDATE` -/
  | marking (attemptCount : Nat)
  /-- before its last read -/
  | rereading
  /-- before `adapter.send` -/
  | posting (row : DeliveryRow) (payload : Json)
  | recordingFailed (row : DeliveryRow) (error : String)
  | recordingSent (platformMessageId : String)
  /-- before the read that the result is built from -/
  | reporting (sent : Bool)
deriving DecidableEq, Repr

inductive Phase where
  | idle
  /-- before the `SELECT` of `recover_sending_deliveries` -/
  | recovering (request : PumpRequest)
  /-- before its updates, which commit together -/
  | resetting (request : PumpRequest) (deliveryIds : List String)
  | listingPending (request : PumpRequest)
  | listingFailed (request : PumpRequest) (pending : List DeliveryRow)
  | sending (send : Send) (point : Point)
  | returned (outcome : Outcome)
deriving DecidableEq, Repr

/-- What the platform saw of one `adapter.send`; `confirmed` is the id that the call returned. -/
structure Post where
  deliveryId : String
  destination : String
  payload : Json
  messageKey : String
  confirmed : Option String
deriving DecidableEq, Repr

structure State where
  deliveries : Table deliverySchema
  posts : List Post
  /-- the attempts that were counted by a call that stopped before its post -/
  lost : List String
  phase : Nat → Phase
  alive : Nat → Bool

/-- The next send of a pump, or its result. -/
def Loop.next (loop : Loop) : Phase :=
  match loop.rest with
  | [] => .returned (.pumped loop.result)
  | deliveryId :: rest => .sending ⟨deliveryId, 3, some { loop with rest }⟩ .checking

def PumpResult.add (pumped : PumpResult) (result : SendDeliveryResult) : PumpResult :=
  { pumped with
    sent := if result.sent then pumped.sent + 1 else pumped.sent
    failed := if result.sent then pumped.failed else pumped.failed + 1
    deliveries := pumped.deliveries ++ [result.delivery] }

/-- Where a call stands when its `send_delivery` has returned. -/
def Send.finish (send : Send) (result : SendDeliveryResult) : Phase :=
  match send.loop with
  | none => .returned (.sent result)
  | some loop => Loop.next { loop with result := loop.result.add result }

/-- `retryable[:limit]`. -/
def upTo (limit : Int) (rows : List DeliveryRow) : List DeliveryRow :=
  if 0 ≤ limit then rows.take limit.toNat else rows.take (rows.length - limit.natAbs)

/-- Where the call goes on, or the exception that ends it. -/
def resume (next : Except Exn Phase) : Phase :=
  match next with
  | .ok phase => phase
  | .error error => .returned (.raised error)

/-- The rows that `recover_sending_deliveries` puts back to pending. -/
def recoverable (deliveries : Table deliverySchema) (platform : Option String) :
    Except Exn (List DeliveryRow) :=
  (listDeliveries deliveries "sending" platform).filterM fun row => not <$> isChannelDelivery row

def recoveryReason : String := "recovered from sending state; platform delivery may need audit"

/-- The deliveries that a pump sends, one after another. -/
def retryable (request : PumpRequest) (pending failed : List DeliveryRow) :
    Except Exn (List DeliveryRow) := do
  let generic ← (pending ++ failed).filterM fun row => not <$> isChannelDelivery row
  let sendable := if request.platform = none then generic.filter (·.platform ≠ "none") else generic
  return upTo request.limit sendable

/-- The tests of `send_delivery` on the row that it has read. -/
def checkSendable (row : DeliveryRow) : Except Exn Unit := do
  let channel ← isChannelDelivery row
  raiseIf channel (Exn.runtime "channel one-shot delivery cannot use generic send")
  raiseIf (row.status ≠ "pending" ∧ row.status ≠ "failed") (Exn.runtime
    s!"delivery {row.id} is {row.status}; only pending/failed deliveries can be sent")

/-- `dead`, from the attempt count that the call read back. -/
def isDead (send : Send) (row : DeliveryRow) : Bool := send.maxAttempts ≤ row.attemptCount

/-- The payload that is posted, or the error of parsing it, which counts as a failed send. -/
def Send.prepare (send : Send) (row : DeliveryRow) : Phase :=
  match row.payloadJson.loads with
  | .ok payload => .sending send (.posting row payload)
  | .error error => .sending send (.recordingFailed row error)

/-- The next statement of a `send_delivery`, other than its `adapter.send`. -/
def sendStep (deliveries : Table deliverySchema) (send : Send) :
    Point → Option (Table deliverySchema × Phase)
  | .checking => some (deliveries, resume do
      let row ← getDelivery deliveries send.deliveryId
      checkSendable row
      return .sending send .choosing)
  | .choosing => some (deliveries, .sending send .counting)
  | .counting => some (deliveries, resume do
      let row ← getDelivery deliveries send.deliveryId
      return .sending send (.marking row.attemptCount))
  | .marking attemptCount =>
    some (setDeliveries deliveries (·.id = send.deliveryId) "sending" (fun _ => attemptCount + 1)
      (·.platformMessageId) none, .sending send .rereading)
  | .rereading => some (deliveries, resume do
      let row ← getDelivery deliveries send.deliveryId
      return send.prepare row)
  | .posting .. => none
  | .recordingFailed row error =>
    some (setDeliveries deliveries (·.id = send.deliveryId) (if isDead send row then "dead" else "failed")
      (·.attemptCount) (·.platformMessageId) (some error), .sending send (.reporting false))
  | .recordingSent platformMessageId =>
    some (setDeliveries deliveries (·.id = send.deliveryId) "sent" (·.attemptCount)
      (fun _ => some platformMessageId) none, .sending send (.reporting true))
  | .reporting sent => some (deliveries, resume do
      let row ← getDelivery deliveries send.deliveryId
      let delivery ← row.toDict
      return send.finish ⟨delivery, sent⟩)

/-- The next statement of a call. -/
def callStep (deliveries : Table deliverySchema) : Phase → Option (Table deliverySchema × Phase)
  | .idle => none
  | .recovering request => some (deliveries, resume do
      let rows ← recoverable deliveries request.platform
      return .resetting request (rows.map (·.id)))
  | .resetting request deliveryIds =>
    some (setDeliveries deliveries (deliveryIds.contains ·.id) "pending" (·.attemptCount)
      (·.platformMessageId) (some recoveryReason), .listingPending request)
  | .listingPending request =>
    some (deliveries, .listingFailed request (listDeliveries deliveries "pending" request.platform))
  | .listingFailed request pending => some (deliveries, resume do
      let rows ← retryable request pending (listDeliveries deliveries "failed" request.platform)
      return Loop.next ⟨rows.map (·.id), ⟨rows.length, 0, 0, []⟩⟩)
  | .sending send point => sendStep deliveries send point
  | .returned _ => none

def Request.begin : Request → Phase
  | .send request => .sending ⟨request.deliveryId, request.maxAttempts, none⟩ .checking
  | .pump request => if request.recoverSending then .recovering request else .listingPending request

/-- The call has counted its attempt and not yet posted it. -/
def Phase.unposted : Phase → Option String
  | .sending send .rereading => some send.deliveryId
  | .sending send (.posting ..) => some send.deliveryId
  | _ => none

inductive Label where
  /-- `create_delivery` -/
  | create (row : DeliveryRow)
  | start (call : Nat) (request : Request)
  | proceed (call : Nat)
  /-- `bus_for_platform` raises -/
  | refuse (call : Nat) (error : Exn)
  /-- `adapter.send` returns the platform message id, or raises -/
  | answer (call : Nat) (outcome : Except String String)
  | stop (call : Nat)

def State.moveTo (s : State) (call : Nat) (phase : Phase) : State :=
  { s with phase := Function.update s.phase call phase }

def Send.post (send : Send) (row : DeliveryRow) (payload : Json) (confirmed : Option String) : Post :=
  ⟨send.deliveryId, row.destination, payload, row.messageKey, confirmed⟩

def step (s : State) : Label → Option State
  | .create row =>
    if row.status = "pending" ∧ row.attemptCount = 0 then
      (s.deliveries.insert? row).map fun deliveries => { s with deliveries }
    else none
  | .start call request =>
    if s.phase call = .idle then some (s.moveTo call request.begin) else none
  | .proceed call =>
    if s.alive call then
      (callStep s.deliveries (s.phase call)).map fun (deliveries, phase) =>
        { s.moveTo call phase with deliveries }
    else none
  | .refuse call error =>
    match s.phase call with
    | .sending _ .choosing =>
      if s.alive call then some (s.moveTo call (.returned (.raised error))) else none
    | _ => none
  | .answer call outcome =>
    match s.phase call with
    | .sending send (.posting row payload) =>
      if s.alive call then
        match outcome with
        | .ok platformMessageId =>
          some { s.moveTo call (.sending send (.recordingSent platformMessageId)) with
            posts := s.posts ++ [send.post row payload (some platformMessageId)] }
        | .error error =>
          some { s.moveTo call (.sending send (.recordingFailed row error)) with
            posts := s.posts ++ [send.post row payload none] }
      else none
    | _ => none
  | .stop call =>
    if s.alive call then
      some { s with
        alive := Function.update s.alive call false
        lost := s.lost ++ (s.phase call).unposted.toList }
    else none

/-- The calls on one database, one step of one of them at a time. -/
def calls : Machine State Label := ⟨step⟩

/-- A new database, and no call in progress. -/
def start : State := ⟨.empty, [], [], fun _ => .idle, fun _ => true⟩

end Sending

end Coordinate
