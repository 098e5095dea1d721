import Coordinate.Library.Revisions
import Coordinate.Model.Workflow

/-! # The writers of the checklist files

Processes that write the checklist: `mutate_checklist` of `checklist_io.py` under its lock, the same
pipeline of the harness scripts without one, `activate_item.py`, which tests a copy before it starts the
pipeline, and `migrate-checklist`. Resolving, reading, locking, replacing and renaming are one step each.
-/

namespace Coordinate.ChecklistWriters

open Coordinate.Checklist

/-- A process by its number. -/
abbrev Pid := Nat

section Managed

/-- The error of `checklist_io.py`, or another exception. -/
inductive Refusal where
  | checklist (message reason : String)
  | raised (error : Exn)
deriving DecidableEq, Repr

/-- A callback that changes a checklist, and whether it has. -/
abbrev Callback : Type := Json → Except Refusal (Json × Bool)

variable [Scripting]

/-- `item_plan_locator_fields` of `checklist_io.py`. -/
def locatorFields (item : Json) : Except Exn (List (String × String)) := do
  let artifacts := (item.get "artifacts").orElse (.obj [])
  raiseIf (¬ artifacts.isObj) (Exn.type s!"'{typeName artifacts}' object has no attribute 'get'")
  return [("plan_path", item.get "plan_path"), ("artifacts.plan", artifacts.get "plan"),
    ("artifact_path", item.get "artifact_path")].filterMap fun field => match field.2 with
      | .str text => if Text.isBlank text then none else some (field.1, Text.strip text)
      | _ => none

/-- The problems of one item, for `checklist_runtime_problems` of `checklist_io.py`. -/
def itemProblems (item : Json) : Except Exn (List String) := do
  let label := "item " ++ (item.get "id").pyRepr
  let planPath := match item.get "plan_path" with
    | .null | .str _ => []
    | other => [s!"{label} plan_path must be a string or null, got {typeName other}"]
  let artifactPath := if item.get "artifact_path" = .null || isNonEmptyString (item.get "artifact_path")
    then [] else
    [s!"{label} artifact_path must be a non-empty string or null, got " ++ (item.get "artifact_path").pyRepr]
  let artifactsPlan := match (item.get "artifacts").get "plan" with
    | .null | .str _ => []
    | other => [s!"{label} artifacts.plan must be a string or null, got {typeName other}"]
  let fields ← locatorFields item
  let climbs := fun field : String × String => (Path.Pure.parse field.2).parts.contains ".."
  let climbing := (fields.filter climbs).map fun field =>
    s!"{label} {field.1} locator contains '..': {Text.repr field.2}"
  let norms := ((fields.filter fun field => !climbs field).map fun field =>
    (Path.Pure.parse field.2).text).dedup
  let conflicts := if norms.length > 1 then
    [s!"{label} has conflicting plan locators: {describeFields fields}"] else []
  return (safeItemIdProblem (item.get "id")).toList ++ planPath ++ artifactPath ++ artifactsPlan ++
    climbing ++ conflicts

def runtimeProblems (checklist : Json) : Except Exn (List String) :=
  match checklist.get "items" with
  | .arr items => List.flatten <$> (items.filter (·.isObj)).mapM itemProblems
  | _ => return []

omit [Scripting] in
/-- The path of a checklist file under a harness root. -/
def pathUnder (root : String) (kind : Kind) : String :=
  ((Path.Pure.parse root).join ⟨"", [kind.name]⟩).text

omit [Scripting] in
/-- `load_checklist` of `checklist_io.py`, of a text that has been read. -/
def loadText (path : String) (text : JsonText) : Except Refusal Json := do
  let invalid := fun message => Refusal.checklist message "validation_error"
  let data ← orRaise (fun problem => invalid s!"checklist {path} is not valid JSON: {problem}") text.loads
  raiseIf (¬ data.isObj) (invalid s!"checklist {path} root must be a JSON object")
  let errors ← orRaise Refusal.raised (validateChecklist data)
  raiseIf (errors ≠ []) (invalid
    (s!"current checklist is invalid; refusing to use it: {path}\n" ++ listProblems (errors.take 8)))
  return data

/-- `mutate_checklist` of `checklist_io.py` from the text to the candidate, if there is a change. -/
def managedCandidate [Platform] (root : String) (callback : Callback) (kind : Kind) (text : JsonText) :
    StateT Nat (Except Refusal) (Option Json) := do
  let path := pathUnder root kind
  let invalid := fun message => Refusal.checklist message "validation_error"
  let current ← orRaise id (loadText path text)
  let (candidate, changed) ← orRaise id (callback current)
  if !changed then return none
  else
    let tick ← get
    set (tick + 1)
    let candidate := candidate.set "updated_at" (.str (Text.takePrefix (Calendar.isoformat (now tick)) 10))
    let errors ← orRaise Refusal.raised (validateChecklist candidate)
    raiseIf (errors ≠ []) (invalid
      (s!"candidate checklist is invalid after mutation; nothing written: {path}\n" ++
        listProblems (errors.take 8)))
    let problems ← orRaise Refusal.raised (runtimeProblems candidate)
    raiseIf (problems ≠ []) (invalid
      (s!"candidate checklist has runtime authority problems; nothing written: {path}\n" ++
        listProblems problems))
    return some candidate

end Managed

section Processes

variable [Platform] [Scripting]

/-- A pipeline that a process runs. `start` carries what it has tested, and the reading of the clock at
which it did. -/
inductive Writer where
  | managed (root : String) (callback : Callback)
  | script (site : Site) (callback : Json → Script Json)
  | start (site : Site) (arguments : ClaimArguments) (planPath : Path.Pure) (tested : JsonText)
    (testedAt : Nat)

/-- The lock is taken by Coordinate only. -/
def Writer.locks : Writer → Bool
  | managed .. => true
  | _ => false

/-- The program that a process is told to run. -/
inductive Program where
  | managed (root : String) (callback : Callback)
  | script (site : Site) (callback : Json → Script Json)
  | start (site : Site) (arguments : ClaimArguments)
  | migrate

/-- Where a process stands. -/
inductive Phase where
  | idle
  /-- before `resolve_checklist` of a pipeline -/
  | resolving (writer : Writer)
  /-- before `lock.acquire` -/
  | locking (writer : Writer) (kind : Kind)
  /-- before the checklist is read -/
  | reading (writer : Writer) (kind : Kind)
  /-- before the callback -/
  | computing (writer : Writer) (kind : Kind) (text : JsonText)
  /-- before `os.replace` -/
  | replacing (writer : Writer) (kind : Kind) (text : JsonText) (candidate : Json)
  /-- before `lock.release` -/
  | releasing (kind : Kind)
  /-- `start` before `load_checklist` resolves, before it reads, and before the tests -/
  | looking (site : Site) (arguments : ClaimArguments)
  | loading (site : Site) (arguments : ClaimArguments) (kind : Kind)
  | testing (site : Site) (arguments : ClaimArguments) (text : JsonText)
  /-- `migrate-checklist` before it resolves, before it reads, and before `os.replace` -/
  | migrating
  | validating
  | moving (text : JsonText)

structure State where
  files : Files
  tick : Nat
  lock : Kind → Option Pid
  phase : Pid → Phase

def State.moveTo (s : State) (pid : Pid) (phase : Phase) : State :=
  { s with phase := Function.update s.phase pid phase }

/-- The candidate of a pipeline, if it has one. -/
def Writer.candidate (writer : Writer) (kind : Kind) (text : JsonText) (tick : Nat) :
    Option (Json × Nat) :=
  match writer with
  | managed root callback =>
    match managedCandidate root callback kind text tick with
    | .ok (some candidate, tick) => some (candidate, tick)
    | _ => none
  | script site callback => (candidateOf site callback kind text tick).toOption
  | start site arguments planPath _ _ =>
    (candidateOf site (onItem arguments.item fun _ => startItem site arguments planPath) kind text
      tick).toOption

/-- `main` of `activate_item.py` from the text that it has loaded to the path of the plan. -/
def testStart (site : Site) (arguments : ClaimArguments) (text : JsonText) : Script Path.Pure := do
  let checklist ← orRaise (fun problem => Exit.raised (Exn.value problem)) text.loads
  let errors ← orRaise Exit.raised (validateChecklist checklist)
  raiseIf (errors ≠ []) (Exit.failed
    ("current checklist is invalid; refusing to start:\n" ++ listProblems (errors.take 8)))
  let problems ← orRaise Exit.raised (checklistRuntimeProblems site checklist)
  raiseIf (problems ≠ []) (Exit.failed
    ("current checklist has runtime authority problems; refusing to start:\n" ++ listProblems problems))
  let item ← orRaise id (requireItem checklist arguments.item)
  assertCanStart checklist item arguments.owner arguments.force arguments.reason
  let located ← orRaise Exit.raised (itemHasPlanLocator item)
  orRaise id (resolveItemPlan site item located)

/-- A text that `migrate-checklist` finds valid. -/
def isMigratable (text : JsonText) : Bool :=
  match text.loads with
  | .ok data => validateChecklist data = .ok []
  | .error _ => false

/-- `os.replace(old_path, new_path)`. -/
def rename (files : Files) : Option Files :=
  files.legacy.map fun text => ⟨some text, none⟩

/-- What a process does next, or nothing where it has to wait or to stop. -/
def advance (s : State) (pid : Pid) : Option State :=
  match s.phase pid with
  | .idle => none
  | .resolving writer =>
    match resolveChecklist .mutation s.files with
    | .ok kind =>
      some (s.moveTo pid (if writer.locks then .locking writer kind else .reading writer kind))
    | .error _ => none
  | .locking writer kind =>
    if s.lock kind = none then
      some { s.moveTo pid (.reading writer kind) with lock := Function.update s.lock kind (some pid) }
    else none
  | .reading writer kind =>
    (s.files.file kind).map fun text => s.moveTo pid (.computing writer kind text)
  | .computing writer kind text =>
    (writer.candidate kind text s.tick).map fun (candidate, tick) =>
      { s.moveTo pid (.replacing writer kind text candidate) with tick }
  | .replacing writer kind _ candidate =>
    some { s.moveTo pid (if writer.locks then .releasing kind else .idle) with
      files := s.files.replace kind candidate }
  | .releasing kind => some { s.moveTo pid .idle with lock := Function.update s.lock kind none }
  | .looking site arguments =>
    match resolveChecklist .read s.files with
    | .ok kind => some (s.moveTo pid (.loading site arguments kind))
    | .error _ => none
  | .loading site arguments kind =>
    (s.files.file kind).map fun text => s.moveTo pid (.testing site arguments text)
  | .testing site arguments text =>
    match testStart site arguments text s.tick with
    | .ok (planPath, tick) =>
      some { s.moveTo pid (.resolving (.start site arguments planPath text s.tick)) with tick }
    | .error _ => none
  | .migrating =>
    match resolveChecklist .migrate s.files with
    | .ok _ => some (s.moveTo pid .validating)
    | .error _ => none
  | .validating => (s.files.legacy.filter isMigratable).map fun text => s.moveTo pid (.moving text)
  | .moving _ => (rename s.files).map fun files => { s.moveTo pid .idle with files }

/-- The lock after a process has stopped, by itself or not: what it held is given back. -/
def unlock (lock : Kind → Option Pid) (pid : Pid) (kind : Kind) : Option Pid :=
  if lock kind = some pid then none else lock kind

inductive Action where
  | run (program : Program)
  | advance
  | stop

/-- One process does something, or time passes. -/
inductive Label where
  | act (pid : Pid) (action : Action)
  | wait (readings : Nat)

def begin : Program → Phase
  | .managed root callback => .resolving (.managed root callback)
  | .script site callback => .resolving (.script site callback)
  | .start site arguments => .looking site arguments
  | .migrate => .migrating

def step (s : State) : Label → Option State
  | .act pid (.run program) =>
    match s.phase pid with
    | .idle => some (s.moveTo pid (begin program))
    | _ => none
  | .act pid .advance => advance s pid
  | .act pid .stop => some { s.moveTo pid .idle with lock := unlock s.lock pid }
  | .wait readings => some { s with tick := s.tick + readings }

/-- Any number of processes over the two files. -/
def writers : Machine State Label := ⟨step⟩

/-- The revision that a step commits. -/
def committed (s : State) : Label → Option (Revision JsonText)
  | .act pid .advance =>
    match s.phase pid with
    | .replacing _ _ text candidate => some ⟨text, .value candidate⟩
    | _ => none
  | _ => none

/-- The writers with a record of the mutations that were committed. -/
def recorded : Machine (State × List (Revision JsonText)) Label := writers.recording committed

/-- One of the two files. -/
def only : Kind → JsonText → Files
  | .new, text => ⟨some text, none⟩
  | .legacy, text => ⟨none, some text⟩

/-- There is one checklist, no process is at work, and no lock is held. -/
structure Initial (s : State) : Prop where
  files : ∃ kind text, s.files = only kind text
  phase : ∀ pid, s.phase pid = .idle
  lock : ∀ kind, s.lock kind = none

end Processes

end Coordinate.ChecklistWriters
