import Coordinate.Model.AgentReport
import Coordinate.Model.Platform

/-! # Reading the body of a request

`_read_json_object` of `runtime_http.py`. The decoder of the standard library is a parameter, and so is the
one read of the body, which takes what the network has delivered by then.
-/

namespace Coordinate.RequestBody

section Decoding

/-- How `json.loads(raw.decode("utf-8"))` ends: it may also exhaust the stack of the interpreter. -/
inductive Decoded (Value : Type) where
  | value (value : Value)
  | invalid
  | tooDeep
deriving DecidableEq, Repr

/-- A decoder of texts, which refuses the empty one, and the object that a text is: the decoder finds it unless
it gives up. -/
structure Decoder (Value : Type) where
  loads : List UInt8 → Decoded Value
  isDict : Value → Bool
  object? : List UInt8 → Option Value
  loads_nil : loads [] = .invalid
  finds : ∀ text value, loads text = .value value → object? text = if isDict value then some value else none
  refuses : ∀ text, loads text = .invalid → object? text = none

/-- Whether decoding a text exhausts the stack. -/
def Decoder.exhausts {Value : Type} (decoder : Decoder Value) (text : List UInt8) : Bool :=
  match decoder.loads text with
  | .tooDeep => true
  | _ => false

end Decoding

/-- The headers that are looked at; a `Content-Length` is the length of the body. -/
structure Request where
  contentType : String
  contentLength : Option Nat
deriving DecidableEq, Repr

/-- An `_HttpError`, with what its envelope carries, or the `RecursionError` that nothing catches. -/
inductive Failure where
  | http (status : Nat) (code message : String)
  | recursion
deriving DecidableEq, Repr

/-- `_HttpError(400, _BAD_BODY_ENVELOPE)`. -/
def badBody : Failure := .http 400 "invalid_request" "invalid request body"

/-- `_HttpError(413, _TOO_LARGE_ENVELOPE)`. -/
def tooLarge : Failure := .http 413 "payload_too_large" "request body too large"

/-- `content_type.split(";", 1)[0].strip().lower() == "application/json"`. -/
def isJson [Platform] (contentType : String) : Bool :=
  let media := String.ofList (contentType.toList.takeWhile (· ≠ ';'))
  AgentReport.lowerText (Text.strip media) = "application/json"

/-- `_read_json_object`, whose one read asks for a byte more than the limit. -/
def readJsonObject [Platform] {Value : Type} (decoder : Decoder Value) (maxBodyBytes : Nat) (request : Request)
    (read : Nat → List UInt8) : Except Failure Value :=
  if !isJson request.contentType then throw badBody
  else if request.contentLength.any (· > maxBodyBytes) then throw tooLarge
  else
    let raw := read (maxBodyBytes + 1)
    if raw.length > maxBodyBytes then throw tooLarge
    else if raw = [] then throw badBody
    else
      match decoder.loads raw with
      | .value payload => if decoder.isDict payload then return payload else throw badBody
      | .invalid => throw badBody
      | .tooDeep => throw .recursion

end Coordinate.RequestBody
