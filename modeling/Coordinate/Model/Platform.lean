import Coordinate.Library.Calendar
import Coordinate.Library.Json
import Coordinate.Library.Text
import Coordinate.Library.Transaction

/-! # The interpreter and operating system under the coordinator

`Platform` collects what the program takes from outside its own source: the wall clock, random
identifiers, the hash function, the Unicode tables and path resolution. A point in time is a number
of seconds (`Calendar`), and the laws of the class are the documented ones. The exceptions of the
program are one type, and each module's own exception class is a type of its own that embeds in it.
-/

namespace Coordinate

class Platform where
  /-- The successive readings of `datetime.now(timezone.utc)`, truncated to seconds. -/
  clock : Nat → Nat
  clock_bound : ∀ n, clock n + 86400 ≤ Calendar.horizon
  /-- The successive results of `str(uuid.uuid4())`. -/
  uuid4 : Nat → String
  uuid4_form : ∀ n, Text.uuidShape (uuid4 n).toList = true
  /-- `hashlib.sha256(text.encode("utf-8")).hexdigest()`, of the characters of the text. -/
  sha256 : List Char → String
  /-- `unicodedata.normalize("NFC", text)`. -/
  nfc : String → String
  casefold : String → String
  lower : Char → String
  isalpha : Char → Bool
  /-- `unicodedata.category(char).startswith("C")`. -/
  isCategoryC : Char → Bool
  /-- `_absolute_path(path, base=base)`, which follows the links of the control host. -/
  absolutePath (path : String) (base : Option String) : String

export Platform (sha256)

/-- A JSON text column: its text is empty, does not parse, or denotes a value. -/
inductive JsonText where
  | blank
  | malformed (problem : String)
  | value (json : Json)
deriving DecidableEq, Repr

instance : Inhabited JsonText := ⟨.blank⟩

namespace JsonText

/-- `json.loads`, with the text of its `JSONDecodeError`. -/
def loads : JsonText → Except String Json
  | blank => .error "Expecting value: line 1 column 1 (char 0)"
  | malformed problem => .error problem
  | value json => .ok json

/-- `json.dumps(value or {})`. -/
def dumps (json : Json) : JsonText :=
  value (json.orElse (.obj []))

theorem loads_dumps_obj (fields : List (String × Json)) :
    (dumps (.obj fields)).loads = .ok (.obj fields) := by
  cases fields <;> rfl

end JsonText

structure ContextError where
  message : String
deriving DecidableEq, Repr

structure ResourceIdentityError where
  message : String
deriving DecidableEq, Repr

structure ExecutorIdentityError where
  message : String
deriving DecidableEq, Repr

structure CapacityError where
  message : String
deriving DecidableEq, Repr

structure ExecutorRoutingError where
  message : String
deriving DecidableEq, Repr

structure LeaseError where
  message : String
deriving DecidableEq, Repr

structure LeaseEnvelopeError where
  message : String
deriving DecidableEq, Repr

structure UsageEvidenceError where
  message : String
deriving DecidableEq, Repr

/-- `RuntimeLeaseError` carries the selection diagnostics of a refused claim. -/
structure RuntimeLeaseError where
  message : String
  oldestBlockedJobId : Option String := none
  oldestBlockedResourceKey : Option String := none
deriving DecidableEq, Repr

/-- `CompletionReceiptError`, whose `reason` is the code that callers read. -/
structure CompletionReceiptError where
  message : String
  reason : String
deriving DecidableEq, Repr

/-- `GitHubCommandError`, whose `reason` is the code that callers read. -/
structure GitHubCommandError where
  message : String
  reason : String
  stderr : String := ""
deriving DecidableEq, Repr

structure PublishError where
  message : String
  reason : String
deriving DecidableEq, Repr

structure RecordPublishError where
  message : String
  reason : String
deriving DecidableEq, Repr

/-- `DependencyUpdateError`, whose `reason` is the code that callers read. -/
structure DependencyUpdateError where
  message : String
  reason : String
deriving DecidableEq, Repr

/-- Every exception a modelled call can raise, by class. -/
inductive Exn where
  | context (error : ContextError)
  | resource (error : ResourceIdentityError)
  | identity (error : ExecutorIdentityError)
  | capacity (error : CapacityError)
  | routing (error : ExecutorRoutingError)
  | lease (error : LeaseError)
  | usage (error : UsageEvidenceError)
  | runtimeLease (error : RuntimeLeaseError)
  | completion (error : CompletionReceiptError)
  | github (error : GitHubCommandError)
  | publish (error : PublishError)
  | recording (error : RecordPublishError)
  | dependency (error : DependencyUpdateError)
  | runtime (message : String)
  | job (message : String)
  | value (message : String)
  | key (message : String)
  | type (message : String)
  | overflow (message : String)
  | integrity
  /-- the integrity error of a unique index, which names its columns -/
  | unique (columns : String)
  | operational (message : String)
  | os (message : String)
deriving DecidableEq, Repr

namespace Exn

/-- `str(exc)`. -/
def message : Exn → String
  | context e => e.message
  | resource e => e.message
  | identity e => e.message
  | capacity e => e.message
  | routing e => e.message
  | lease e => e.message
  | usage e => e.message
  | runtimeLease e => e.message
  | completion e => e.message
  | github e => e.message
  | publish e => e.message
  | recording e => e.message
  | dependency e => e.message
  | runtime message => message
  | job message => message
  | value message => message
  | key message => Text.repr message
  | type message => message
  | overflow message => message
  | integrity => "constraint failed"
  | unique columns => "UNIQUE constraint failed: " ++ columns
  | operational message => message
  | os message => message

/-- The classes under `ValueError`. -/
def isValueError : Exn → Bool
  | runtime _ | job _ | key _ | type _ | overflow _ | integrity | unique _ | operational _ | os _ =>
    false
  | _ => true

def nestedBegin : Exn := operational "cannot start a transaction within a transaction"

end Exn

/-- A set of names in a message; Python prints its elements in no specified order. -/
def displayKeys (keys : List String) : String :=
  Text.join ", " (keys.map Text.repr)

section Time

variable [Platform]

/-- `utc_now` as a column value; `Calendar.isoformat` is its text. -/
def now (tick : Nat) : Nat :=
  Platform.clock tick

theorem now_lt (tick : Nat) : now tick < Calendar.horizon := by
  have bound := Platform.clock_bound tick
  change Platform.clock tick < _
  omega

end Time

end Coordinate
