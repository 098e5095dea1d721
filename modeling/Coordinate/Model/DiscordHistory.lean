import Coordinate.Model.Platform
import Mathlib.Data.List.Sort

/-! # Reading pages of a Discord channel

`DiscordHistory.read_page` of `discord_history.py`. Whatever a call looks at outside, a clock, an HTTP
request or a database, is a reading with a number, and a call goes from one number to a later one.
-/

namespace Coordinate

/-- `DiscordHistoryError`. -/
structure DiscordHistoryError where
  code : String
  message : String
  retryAfterSeconds : Option Rat := none
deriving DecidableEq

/-- How a reader stops: `DiscordHistoryError`, its subclass `DiscordHistoryDeadline`, or an exception
that the service does not handle. -/
inductive Failure where
  | history (error : DiscordHistoryError)
  | deadline
  | raised (message : String)
deriving DecidableEq

/-- `GET /channels/../messages`; a message id is sent as its decimal text. -/
structure MessagesQuery where
  channelId : String
  limit : Int
  after : Option Nat
deriving DecidableEq, Repr

/-- What the readings with their numbers find. -/
class DiscordHost where
  /-- `time.monotonic()` -/
  clock : Nat → Rat
  /-- `_request_json`, whose other exceptions count as an unavailable Discord -/
  requestMessages : Nat → MessagesQuery → Except Failure Json
  /-- `_capabilities`, which raises where the channel must not be used -/
  capabilities : Nat → String → Except Failure Unit

/-- A call that has made so many readings. -/
abbrev Calling := EStateM Failure Nat

namespace Calling

/-- The next reading. -/
def reading {α : Type} (read : Nat → Except Failure α) : Calling α := fun n =>
  match read n with
  | .ok a => .ok a (n + 1)
  | .error e => .error e (n + 1)

def lift {α : Type} (result : Except Failure α) : Calling α := fun n =>
  match result with
  | .ok a => .ok a n
  | .error e => .error e n

end Calling

namespace DiscordHistory

open Calling

def invalidIdentifier : Failure := .history ⟨"invalid_input", "Invalid Discord identifier.", none⟩

/-- `_unavailable`. -/
def unavailable : Failure := .history ⟨"upstream_unavailable", "Discord is unavailable.", none⟩

def digitsValue (digits : List Char) : Nat :=
  digits.foldl (fun value digit => 10 * value + (digit.toNat - 48)) 0

/-- `_snowflake`, as the number that the text denotes. -/
def snowflake (value : Json) (zero : Bool) : Except Failure Nat :=
  match value with
  | .str text => do
    let digits := text.toList
    raiseIf (digits = [] ∨ 20 < digits.length ∨ ¬ digits.all Text.isDigit) invalidIdentifier
    let id := digitsValue digits
    raiseIf ((id = 0 ∧ ¬ zero) ∨ 2 ^ 64 - 1 < id ∨ toString id ≠ text) invalidIdentifier
    return id
  | _ => throw invalidIdentifier

/-- `value[key]`, whose `KeyError` or `TypeError` the callers turn into an unavailable Discord. -/
def item (value : Json) (key : String) : Except Failure Json :=
  match value.field? key with
  | some found => return found
  | none => throw unavailable

/-- `value.get(key)`, of a value that may be no dictionary. -/
def getOf (value : Json) (key : String) : Except Failure Json := do
  raiseIf (¬ value.isObj) (Failure.raised "object has no attribute 'get'")
  return value.get key

structure Author where
  id : Nat
  name : Json
  isBot : Bool
deriving DecidableEq, Repr

structure Message where
  messageId : Nat
  author : Author
  createdAt : Json
  text : Json
  embeds : Json
  attachments : Json
  replyToMessageId : Json
deriving DecidableEq, Repr

def isArr : Json → Bool
  | .arr _ => true
  | _ => false

def isStr : Json → Bool
  | .str _ => true
  | _ => false

/-- The descriptions of the embeds that have one, a line each. -/
def describe : Json → Except Failure Json
  | .arr embeds => do
    let descriptions ← embeds.mapM (getOf · "description")
    return .str (Text.join "\n" (descriptions.filterMap Json.asStr?))
  | _ => return .str ""

/-- The text of a message, which a bot of the channel carries in its embeds. -/
def shownText (content embeds : Json) : Except Failure Json :=
  if content = .str "[multinexus-channel]" then describe embeds else return content

/-- `author.get("global_name") or author["username"]`. -/
def displayName (author : Json) : Except Failure Json :=
  if (author.get "global_name").truthy then return author.get "global_name"
  else item author "username"

/-- `normalize_message`. -/
def normalizeMessage (raw : Json) (channelId : String) : Except Failure Message := do
  let channel ← item raw "channel_id"
  raiseIf (channel ≠ .str channelId) unavailable
  let messageId ← snowflake (← item raw "id") false
  let author ← item raw "author"
  let embeds ← item raw "embeds"
  let attachments ← item raw "attachments"
  let content ← item raw "content"
  raiseIf (¬ isStr content ∨ ¬ isArr embeds ∨ ¬ isArr attachments) unavailable
  let text ← shownText content embeds
  let reference := (raw.get "message_reference").orElse (.obj [])
  raiseIf (¬ reference.isObj) (Failure.raised "object has no attribute 'get'")
  let referenced := (reference.field? "channel_id").getD (.str channelId)
  let reply := if referenced = .str channelId then reference.get "message_id" else .null
  let authorId ← snowflake (← item author "id") false
  let name ← displayName author
  let createdAt ← item raw "timestamp"
  return ⟨messageId, ⟨authorId, name, (author.get "bot").truthy⟩, createdAt, text, embeds, attachments,
    reply⟩

structure Page where
  messages : List Message
  hasMore : Bool
deriving DecidableEq, Repr

variable [DiscordHost]

def clock : Calling Rat := reading fun n => .ok (DiscordHost.clock n)

def capabilities (channelId : String) : Calling Unit :=
  reading fun n => DiscordHost.capabilities n channelId

/-- `_get`, of a list. -/
def getRows (query : MessagesQuery) (deadline : Rat) : Calling (List Json) := do
  let current ← clock
  lift (raiseIf (deadline - current ≤ 0) Failure.deadline)
  let value ← reading fun n => DiscordHost.requestMessages n query
  let rows ← lift (match value with
    | .arr rows => return rows
    | _ => throw unavailable)
  let later ← clock
  lift (raiseIf (deadline < later) Failure.deadline)
  return rows

/-- A row with its id. -/
def keyed (row : Json) : Except Failure (Nat × Json) := do
  let id ← snowflake (← item row "id") false
  return (id, row)

/-- The rows by id, if they can be an answer to the query. -/
def checkRows (query : MessagesQuery) (rows : List Json) : Except Failure (List (Nat × Json)) := do
  let pairs ← rows.mapM keyed
  let sorted := pairs.insertionSort fun a b => a.1 ≤ b.1
  raiseIf (¬ (sorted.map Prod.fst).Nodup ∨ query.limit < sorted.length) unavailable
  raiseIf (∃ after ∈ query.after, ∃ row ∈ sorted, row.1 ≤ after) unavailable
  return sorted

/-- The request that looks for one message beyond the page. -/
def probe (channelId : String) (last : Nat) (deadline : Rat) : Calling Bool := do
  let rows ← getRows ⟨channelId, 1, some last⟩ deadline
  lift (raiseIf (1 < rows.length) unavailable)
  let pairs ← lift (rows.mapM keyed)
  lift (raiseIf (∃ row ∈ pairs, row.1 ≤ last) unavailable)
  return ¬ rows.isEmpty

/-- `has_more` of a page, from one row too many or, where Discord was asked for no such row, from
another request. -/
def moreThan (channelId : String) (after : Option Nat) (limit : Int) (deadline : Rat)
    (sorted : List (Nat × Json)) : Calling Bool :=
  match (sorted.take limit.toNat).getLast? with
  | none => pure false
  | some (last, _) =>
    if after = none ∨ limit = 100 then probe channelId last deadline
    else pure (limit < sorted.length)

/-- `read_page`. -/
def readPage (channelId : String) (after : Option Nat) (limit : Int) (timeout : Rat) :
    Calling Page := do
  lift (raiseIf (timeout ≤ 0 ∨ 30 < timeout)
    (Failure.raised "operation timeout must be positive and at most thirty seconds"))
  let deadline := (← clock) + timeout
  capabilities channelId
  lift (raiseIf (limit < 1 ∨ 100 < limit)
    (Failure.history ⟨"invalid_input", "limit must be between 1 and 100.", none⟩))
  let after ← lift (after.mapM fun id => snowflake (.str (toString id)) true)
  let query : MessagesQuery :=
    ⟨channelId, if after.isSome then min (limit + 1) 100 else limit, after⟩
  let rows ← getRows query deadline
  let sorted ← lift (checkRows query rows)
  let hasMore ← moreThan channelId after limit deadline sorted
  let messages ← lift ((sorted.take limit.toNat).mapM fun row => normalizeMessage row.2 channelId)
  -- a permission that was revoked meanwhile keeps the page back
  capabilities channelId
  return ⟨messages, hasMore⟩

end DiscordHistory

end Coordinate
