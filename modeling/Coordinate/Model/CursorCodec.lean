import Coordinate.Library.Base64
import Coordinate.Library.Encodings
import Coordinate.Library.JsonReader
import Coordinate.Model.ChannelMessages

/-! # The text of a channel cursor

`_encode_cursor` and `_decode_cursor` of `channel_messages.py` on the texts themselves: JSON in ASCII, in URL-safe
base64 without padding. How deeply the interpreter can read JSON depends on where the call stands in its stack.
-/

namespace Coordinate.CursorCodec

open JsonReader DiscordHistory ChannelMessages

/-- The scope of a request whose common arguments `_input` accepts. -/
structure Scope where
  workspaceId : String
  channelId : String
  workspace : ¬ (workspaceId = "" ∨ workspaceId ≠ Text.strip workspaceId ∨
    256 < workspaceId.toList.length ∨ workspaceId.toList.any (·.toNat < 32))
  channel : ∃ id, snowflake (.str channelId) false = .ok id

/-- An accepted request has such a scope. -/
def Scope.ofRequest {input : Input} {operation : Operation} {request : Request}
    (accepted : checkInput input operation = .ok request) : Scope where
  workspaceId := input.workspaceId
  channelId := input.channelId
  workspace := by
    simp only [checkInput, Except.bind_ok, raiseIf_except_ok] at accepted
    exact accepted.choose_spec.1
  channel := by
    simp only [checkInput, Except.bind_ok] at accepted
    obtain ⟨-, -, id, read, -⟩ := accepted
    exact ⟨id, read⟩

/-- A message id as a text. -/
def IsSnowflake (last : String) : Prop := ∃ id, snowflake (.str last) true = .ok id

def cursorFields (scope : Scope) (last : String) : List (String × Scalar) :=
  [("v", .nat 1), ("platform", .text "discord"), ("workspace_id", .text scope.workspaceId),
    ("channel_id", .text scope.channelId), ("last_message_id", .text last)]

/-- `_encode_cursor`. -/
def encodeText (scope : Scope) (last : String) : String :=
  String.ofList (Base64.encode (dumps (cursorFields scope last)))

def scopeMismatch : Failure :=
  .history ⟨"cursor_scope_mismatch", "Cursor scope does not match this request.", none⟩

/-- `RecursionError`, which is none of the exceptions that `_decode_cursor` expects. -/
def recursionError : Failure := .raised "maximum recursion depth exceeded"

/-- The bytes of a cursor text, if it has the length and the alphabet of one. -/
def cursorBytes (value : String) : Option (List Nat) :=
  if 4096 < value.toList.length ∨ value = "" ∨ ¬ value.toList.all (Base64.value? · |>.isSome) then none
  else Base64.decode value.toList

/-- `json.loads` on bytes, with so much of the stack left. -/
def loadsBytes (stack : Nat) (bytes : List Nat) : Except Trouble Loaded :=
  match Encodings.decodeBytes bytes with
  | none => .error .invalid
  | some text => loads stack text

/-- The text under a key. -/
def textAt (decoded : Loaded) (key : String) : Option (List Code) :=
  match decoded.field? key with
  | some (.text text) => some text
  | _ => none

/-- `set(decoded) == _CURSOR_KEYS`. -/
def hasCursorKeys (fields : List (List Code × Loaded)) : Bool :=
  fields.all (fun field => cursorKeys.any (codes · = field.1)) &&
    cursorKeys.all fun key => fields.any (·.1 = codes key)

/-- An object with the keys of a cursor and the version that is read. -/
def isCursor (decoded : Loaded) : Bool :=
  match decoded with
  | .dict fields => hasCursorKeys fields &&
      match decoded.field? "v" with
      | some (.int version) => version = 1
      | _ => false
  | _ => false

/-- A text without surrogates. -/
def textOf? (text : List Code) : Option String :=
  if text.all fun code : Nat => decide code.isValidChar then some (String.ofList (text.map Char.ofNat)) else none

/-- `_snowflake` on a decoded text. -/
def textSnowflake (text : Option (List Code)) : Except Failure String :=
  match text.bind textOf? with
  | none => throw invalidIdentifier
  | some text => do
    let _ ← snowflake (.str text) true
    return text

/-- The checks of `_decode_cursor` on the decoded value. -/
def checkDecoded (decoded : Loaded) (scope : Scope) : Except Failure String := do
  raiseIf (¬ isCursor decoded) invalidCursor
  let last ← orRaise (fun _ => invalidCursor) (textSnowflake (textAt decoded "last_message_id"))
  raiseIf (["platform", "workspace_id", "channel_id"].any fun key => (textAt decoded key).isNone) invalidCursor
  raiseIf (textAt decoded "platform" ≠ some (codes "discord") ∨
    textAt decoded "workspace_id" ≠ some (codes scope.workspaceId) ∨
    textAt decoded "channel_id" ≠ some (codes scope.channelId)) scopeMismatch
  return last

/-- `_decode_cursor`. -/
def decodeText (stack : Nat) (value : String) (scope : Scope) : Except Failure String :=
  match cursorBytes value with
  | none => throw invalidCursor
  | some bytes =>
    match loadsBytes stack bytes with
    | .error .invalid => throw invalidCursor
    | .error .tooDeep => throw recursionError
    | .ok decoded => checkDecoded decoded scope

end Coordinate.CursorCodec
