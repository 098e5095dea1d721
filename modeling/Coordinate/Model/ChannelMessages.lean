import Coordinate.Model.ChannelBindings
import Coordinate.Model.DiscordHistory

/-! # Reads and waits of a channel

`read` and `wait` of `channel_messages.py`: authorized reads of the pages of a bound channel, whose
cursor names the last message that the page has shown. A wait reads until a page is not empty or its
time is over.
-/

namespace Coordinate

/-- A cursor text, by what `base64` and `json.loads` make of it. -/
inductive CursorText where
  /-- too long, or not an encoding of JSON -/
  | unreadable
  | encoded (value : Json)
deriving DecidableEq, Repr

/-- The verified client of a call. -/
structure ChannelPrincipal where
  clientId : String
  tools : List String
  workspaceIds : List String
  platforms : List String
deriving DecidableEq, Repr

/-- What a call on channels looks at besides Discord. -/
class ChannelHost extends DiscordHost where
  /-- the database that a fresh connection sees -/
  database : Nat → Db
  /-- `_history`, whose reader asks the same Discord under the identity of the principal -/
  history : Nat → ChannelPrincipal → Except Failure Unit
  /-- `asyncio.wait_for` gives up -/
  expires : Nat → Bool
  /-- the waits in progress, all and of one client -/
  waits : Nat → String → Nat × Nat

namespace ChannelMessages

open Calling DiscordHistory

inductive Operation where
  | read
  | wait
deriving DecidableEq, Repr

def Operation.tool : Operation → String
  | read => "coordinate.channel_read"
  | wait => "coordinate.channel_wait"

/-- The arguments of a call, with the defaults of the source. -/
structure Input where
  workspaceId : String
  platform : String := "discord"
  channelId : String
  afterCursor : Option CursorText := none
  limit : Int := 20
  timeoutSeconds : Int := 20
deriving DecidableEq, Repr

/-- The arguments after their checks. -/
structure Request extends Input where
  afterMessageId : Option Nat
deriving DecidableEq, Repr

/-- How long `json.dumps` writes a character of a text. -/
def escapedLength (c : Char) : Nat :=
  if c = '"' ∨ c = '\\' then 2
  else if 32 ≤ c.toNat ∧ c.toNat < 127 then 1
  else if c = '\n' ∨ c = '\r' ∨ c = '\t' ∨ c.toNat = 8 ∨ c.toNat = 12 then 2
  else if c.toNat < 65536 then 6
  else 12

def dumpedLength (text : String) : Nat := 2 + (text.toList.map escapedLength).sum

def cursorValue (workspaceId channelId : String) (last : Nat) : Json :=
  .obj [("v", .int 1), ("platform", .str "discord"), ("workspace_id", .str workspaceId),
    ("channel_id", .str channelId), ("last_message_id", .str (toString last))]

/-- `_encode_cursor`. A text of more than 4096 characters is not accepted by any later call. -/
def encodeCursor (input : Input) (last : Nat) : CursorText :=
  let bytes := 77 + dumpedLength input.workspaceId + dumpedLength input.channelId +
    dumpedLength (toString last)
  if 4096 < (4 * bytes + 2) / 3 then .unreadable
  else .encoded (cursorValue input.workspaceId input.channelId last)

def cursorKeys : List String :=
  ["v", "platform", "workspace_id", "channel_id", "last_message_id"]

def invalidCursor : Failure := .history ⟨"invalid_cursor", "Invalid channel cursor.", none⟩

/-- `_decode_cursor`. -/
def decodeCursor (value : CursorText) (input : Input) : Except Failure Nat := do
  let decoded ← match value with
    | .unreadable => throw invalidCursor
    | .encoded decoded => pure decoded
  raiseIf (¬ decoded.hasExactlyKeys cursorKeys ∨ decoded.get "v" ≠ .int 1) invalidCursor
  let last ← orRaise (fun _ => invalidCursor) (snowflake (decoded.get "last_message_id") true)
  raiseIf (¬ isStr (decoded.get "platform") ∨ ¬ isStr (decoded.get "workspace_id") ∨
    ¬ isStr (decoded.get "channel_id")) invalidCursor
  raiseIf (decoded.get "platform" ≠ .str input.platform ∨
      decoded.get "workspace_id" ≠ .str input.workspaceId ∨
      decoded.get "channel_id" ≠ .str input.channelId)
    (Failure.history ⟨"cursor_scope_mismatch", "Cursor scope does not match this request.", none⟩)
  return last

def invalidInput (message : String) : Failure := .history ⟨"invalid_input", message, none⟩

/-- `_input`. -/
def checkInput (input : Input) (operation : Operation) : Except Failure Request := do
  raiseIf (input.workspaceId = "" ∨ input.workspaceId ≠ Text.strip input.workspaceId ∨
      256 < input.workspaceId.toList.length ∨ input.workspaceId.toList.any (·.toNat < 32))
    (invalidInput "workspace_id is required.")
  let _ ← snowflake (.str input.channelId) false
  raiseIf (input.platform ≠ "discord")
    (Failure.history ⟨"unsupported_platform", "Only Discord is supported.", none⟩)
  raiseIf (input.limit < 1 ∨ 100 < input.limit) (invalidInput "limit must be between 1 and 100.")
  let afterMessageId ← input.afterCursor.mapM (decodeCursor · input)
  raiseIf (operation = .wait ∧ afterMessageId = none)
    (invalidInput "after_cursor is required for wait.")
  raiseIf (operation = .wait ∧ (input.timeoutSeconds < 0 ∨ 30 < input.timeoutSeconds))
    (invalidInput "timeout_seconds must be between 0 and 30.")
  return ⟨input, afterMessageId⟩

def forbidden : Failure := .history ⟨"forbidden", "Forbidden.", none⟩

/-- `_authorize_grants`. -/
def authorizeGrants (request : Request) (principal : Option ChannelPrincipal)
    (operation : Operation) : Except Failure ChannelPrincipal :=
  match principal with
  | none => throw forbidden
  | some principal => do
    raiseIf (operation.tool ∉ principal.tools ∨ request.workspaceId ∉ principal.workspaceIds ∨
      request.platform ∉ principal.platforms) forbidden
    return principal

inductive Status where
  | messages
  | timeout
deriving DecidableEq, Repr

inductive Coverage where
  | afterCursor
  | recentWindow
deriving DecidableEq, Repr

/-- The `data` of a successful response. -/
structure Data where
  messages : List Message
  nextCursor : CursorText
  hasMore : Bool
  coverage : Coverage
  status : Option Status := none
deriving DecidableEq, Repr

/-- `_result`. -/
def resultOf (request : Request) (page : Page) : Data where
  messages := page.messages
  nextCursor :=
    match page.messages.getLast?, request.afterCursor with
    | some message, _ => encodeCursor request.toInput message.messageId
    | none, some cursor => cursor
    | none, none => encodeCursor request.toInput 0
  hasMore := page.hasMore
  coverage := if request.afterCursor.isSome then .afterCursor else .recentWindow

section Calls

variable [Platform] [ChannelHost]

/-- `_authorize`. -/
def authorize (request : Request) (principal : Option ChannelPrincipal) (operation : Operation) :
    Calling Unit := do
  let _ ← lift (authorizeGrants request principal operation)
  let db ← reading fun n => .ok (ChannelHost.database n)
  let binding ← lift (orRaise (fun e : Exn => Failure.raised e.message)
    (resolveChannelWorkspace db request.platform request.channelId))
  lift (raiseIf (∀ row ∈ binding, row.workspaceId ≠ request.workspaceId) forbidden)

/-- `_history`. -/
def historyOf (principal : ChannelPrincipal) : Calling Unit :=
  reading fun n => ChannelHost.history n principal

/-- `_page`. -/
def pageOf (request : Request) (timeout : Rat) : Calling Page :=
  readPage request.channelId request.afterMessageId request.limit timeout

/-- The envelope of a call, which holds every error but those that the service does not handle. -/
def envelope (body : Calling Data) : Calling (Except DiscordHistoryError Data) :=
  tryCatch (Except.ok <$> body) fun failure =>
    match failure with
    | .history error => pure (.error error)
    | .deadline =>
      pure (.error ⟨"upstream_unavailable", "Discord operation deadline expired.", none⟩)
    | .raised message => throw (.raised message)

/-- `read`. -/
def read (input : Input) (principal : Option ChannelPrincipal) :
    Calling (Except DiscordHistoryError Data) := envelope do
  let request ← lift (checkInput input .read)
  authorize request principal .read
  let client ← lift (authorizeGrants request principal .read)
  historyOf client
  let page ← pageOf request 30
  authorize request principal .read
  return resultOf request page

/-- `asyncio.wait_for(asyncio.to_thread(..))` before a deadline that is still ahead. -/
def waitFor {α : Type} (deadline : Rat) (body : Rat → Calling α) : Calling α := do
  let budget := deadline - (← clock)
  lift (raiseIf (budget ≤ 0) Failure.deadline)
  let late ← reading fun n => .ok (ChannelHost.expires n)
  lift (raiseIf late Failure.deadline)
  body budget

/-- `_wait_authorize`. -/
def waitAuthorize (request : Request) (principal : Option ChannelPrincipal) (deadline : Rat) :
    Calling Unit := do
  waitFor deadline fun _ => authorize request principal .wait
  let later ← clock
  lift (raiseIf (deadline < later) Failure.deadline)

/-- Every round but the first is authorized again. -/
def authorizeRound (request : Request) (principal : Option ChannelPrincipal) (deadline : Rat)
    (first : Bool) : Calling Unit :=
  if first then pure () else waitAuthorize request principal deadline

/-- One round of `_wait_loop` up to its page. -/
def waitPage (request : Request) (principal : Option ChannelPrincipal) (deadline : Rat)
    (first : Bool) : Calling Page := do
  authorizeRound request principal deadline first
  let page ← waitFor deadline (pageOf request)
  waitAuthorize request principal deadline
  return page

def Data.ended (data : Data) (status : Status) : Data := { data with status := some status }

/-- The end of a wait whose time is over: only an earlier complete empty read proves normal expiry. -/
def timedOut : Option Data → Calling Data
  | some result => return result.ended .timeout
  | none => throw .deadline

/-- `_wait_loop`, with the result of the last complete empty read. A run of the model ends after
`rounds` rounds at the latest; the source goes on until the deadline. -/
def waitLoop (request : Request) (principal : Option ChannelPrincipal) (deadline : Rat) :
    Nat → Option Data → Calling Data
  | 0, _ => throw (.raised "rounds")
  | rounds + 1, result => do
    let remaining := deadline - (← clock)
    if result.isSome ∧ remaining ≤ 0 then timedOut result
    else do
      let page ← tryCatch (some <$> waitPage request principal deadline result.isNone) fun failure =>
        if failure = .deadline ∧ result.isSome then pure none else throw failure
      match page with
      | none => timedOut result
      | some page =>
        let data := resultOf request page
        if page.messages ≠ [] then return data.ended .messages
        else do
          let remaining := deadline - (← clock)
          if remaining ≤ 0 ∨ request.timeoutSeconds = 0 then return data.ended .timeout
          -- `self._sleep(min(2, remaining))`
          else waitLoop request principal deadline rounds (some data)

/-- `wait`. -/
def wait (rounds : Nat) (input : Input) (principal : Option ChannelPrincipal) :
    Calling (Except DiscordHistoryError Data) := do
  let started ← clock
  envelope do
    let request ← lift (checkInput input .wait)
    -- zero means one immediate page, still bounded as a whole
    let deadline := started + (if request.timeoutSeconds = 0 then 30 else request.timeoutSeconds)
    let client ← lift (authorizeGrants request principal .wait)
    let (total, own) ← reading fun n => .ok (ChannelHost.waits n client.clientId)
    lift (raiseIf (8 ≤ total ∨ 2 ≤ own)
      (Failure.history ⟨"busy", "Channel wait capacity is full.", none⟩))
    waitAuthorize request principal deadline
    waitFor deadline fun _ => historyOf client
    waitLoop request principal deadline rounds none

inductive Call where
  | read (input : Input) (principal : Option ChannelPrincipal)
  | wait (rounds : Nat) (input : Input) (principal : Option ChannelPrincipal)

namespace Call

def input : Call → Input
  | read input _ => input
  | wait _ input _ => input

def run : Call → Calling (Except DiscordHistoryError Data)
  | read input principal => ChannelMessages.read input principal
  | wait rounds input principal => ChannelMessages.wait rounds input principal

end Call

/-- Successful calls on a channel, one after another, from one reading to a later one. Every call but
the first passes on the cursor that the one before has returned. -/
inductive Chain (channelId : String) :
    Nat → Option CursorText → List (Call × Data) → Nat → Prop
  | nil {n : Nat} {cursor : Option CursorText} : Chain channelId n cursor [] n
  | later {n m k : Nat} {cursor : Option CursorText} {calls : List (Call × Data)} (later : n ≤ m)
    (rest : Chain channelId m cursor calls k) : Chain channelId n cursor calls k
  | call {n m k : Nat} {cursor : Option CursorText} {calls : List (Call × Data)} {call : Call}
    {data : Data} (channel : call.input.channelId = channelId)
    (follows : call.input.afterCursor = cursor) (returned : call.run n = .ok (.ok data) m)
    (rest : Chain channelId m (some data.nextCursor) calls k) :
    Chain channelId n cursor ((call, data) :: calls) k

end Calls

end ChannelMessages

end Coordinate
