import Coordinate.Library.Path
import Coordinate.Model.Platform
import Mathlib.Data.List.Sort

/-! # The checklist of the harness scripts

`validate_checklist.py`, and the resolver and the mutation pipeline of `harness_common.py`. A script
reads the clock as often as its source does; what it reads besides the checklist is its `Site`. The
warnings of the validator are left out, since no writer reads them.
-/

namespace Coordinate.Checklist

/-- How a script ends before it has written. -/
inductive Exit where
  /-- `fail`, or a `SystemExit` with a text -/
  | failed (message : String)
  | raised (error : Exn)
deriving DecidableEq, Repr

/-- What the scripts take from Python. -/
class Scripting where
  /-- `datetime.fromisoformat(text)` in microseconds of UTC, which is also the offset of a text without
  one; `none` is a `ValueError`. -/
  fromisoformat : String → Except Exn (Option Int)
  /-- `unicodedata.category(char).startswith("C")`. -/
  isCategoryC : Char → Bool
  /-- `namespace.format(owner=owner, item_id=item_id)`. -/
  formatNamespace (pattern owner itemId : String) : Except Exn String

/-- What a script reads besides the checklist. -/
structure Site where
  projectRoot : String
  /-- the file `harness-config.json` -/
  configFile : Option JsonText := none
  /-- `path.is_file() and os.access(path, os.R_OK)` -/
  isReadable : String → Bool
  /-- `current/blocker.md`, or nothing -/
  blockerText : String := ""

/-- A script, which counts its readings of the clock. -/
abbrev Script (α : Type) : Type := StateT Nat (Except Exit) α

section Values

/-- `type(value).__name__`. -/
def typeName : Json → String
  | .null => "NoneType"
  | .bool _ => "bool"
  | .int _ => "int"
  | .str _ => "str"
  | .arr _ => "list"
  | .obj _ => "dict"

/-- `value in names`, which raises where the value has no hash. -/
def isIn (value : Json) (names : List String) : Except Exn Bool :=
  match value with
  | .arr _ => throw (Exn.type "unhashable type: 'list'")
  | .obj _ => throw (Exn.type "unhashable type: 'dict'")
  | .str name => return names.contains name
  | _ => return false

def isNonEmptyString : Json → Bool
  | .str text => !Text.isBlank text
  | _ => false

/-- `repr` of a list of texts. -/
def reprTexts (texts : List String) : String := (Json.arr (texts.map .str)).pyRepr

end Values

section Validation

/-- `sorted(ALLOWED_STATUSES)`. -/
def allowedStatuses : List String := ["blocked", "doing", "done", "todo"]

def allowedPriorities : List String := ["p0", "p1", "p2"]

def allowedWorkflowStatuses : List String :=
  ["accepted", "assigned", "blocked", "changes_requested", "closed", "closeout_requested",
    "handoff_requested", "ready_for_review", "released", "review_approved", "review_requested",
    "running", "todo", "unblocked"]

/-- `ALLOWED_REVIEW_DECISIONS` without `None`. -/
def allowedReviewDecisions : List String := ["approved", "blocked", "changes_requested"]

def workflowModes : List String := ["high-risk", "ordinary"]

def topRequired : List String := ["harness_root", "items", "project", "updated_at"]

def itemRequired : List String :=
  ["acceptance", "blocked_by", "blocked_reason", "dependencies", "handoff", "id", "owner", "priority",
    "selected_in_session", "status", "title", "updated_at", "verification"]

def itemLabel (item : Json) (index : Nat) : String :=
  if item.isObj && isNonEmptyString (item.get "id") then "item " ++ (item.get "id").pyRepr
  else s!"item at index {index}"

/-- A workflow without a status. -/
def modeOnlyErrors (item workflow : Json) (label : String) : List String :=
  let keys := reprTexts (workflow.keys.insertionSort (· ≤ ·))
  if (workflow.field? "mode").isNone then
    [s!"{label} workflow without 'status' must carry exactly 'mode', got keys {keys}"]
  else if !workflow.hasExactlyKeys ["mode"] then
    [s!"{label} mode-only workflow may only carry 'mode', got keys {keys}"]
  else if item.get "status" ≠ .str "todo" then
    [s!"{label} mode-only workflow requires coarse status 'todo', got " ++ (item.get "status").pyRepr]
  else []

def validateOptionalWorkflow (item : Json) (label : String) : Except Exn (List String) := do
  let workflow := item.get "workflow"
  if workflow = .null then return []
  else if !workflow.isObj then
    return [s!"{label} optional field 'workflow' must be an object when present"]
  else
    let mode := workflow.get "mode"
    let modeKnown ← if (workflow.field? "mode").isNone then pure true else isIn mode workflowModes
    let modeErrors := if modeKnown then [] else
      [s!"{label} workflow.mode must be one of {reprTexts workflowModes}, got {mode.pyRepr}"]
    let status := workflow.get "status"
    if status = .null then return modeErrors ++ modeOnlyErrors item workflow label
    else
      let known ← isIn status allowedWorkflowStatuses
      let errors := if known then [] else
        [s!"{label} workflow.status must be one of {reprTexts allowedWorkflowStatuses}, " ++
          s!"got {status.pyRepr}"]
      return modeErrors ++ errors

def validateOptionalLease (item : Json) (label : String) : List String :=
  let lease := item.get "lease"
  if lease = .null then []
  else if !lease.isObj then [s!"{label} optional field 'lease' must be an object or null"]
  else
    let blank := ["owner", "session", "acquired_at", "expires_at"].filter fun field =>
      !isNonEmptyString (lease.get field)
    let minutes := match lease.field? "ttl_minutes" with
      | none | some (.int _) | some (.bool _) => []
      | some _ => [s!"{label} lease.ttl_minutes must be an integer when present"]
    blank.map (fun field => s!"{label} lease.{field} must be a non-empty string") ++ minutes

def artifactErrors (label key : String) (value : Json) : List String :=
  let keyErrors := if Text.isBlank key then [s!"{label} artifacts keys must be non-empty strings"] else []
  let valueErrors := match value with
    | .arr entries =>
      if entries.all isNonEmptyString then []
      else [s!"{label} artifacts.{key} list entries must be non-empty strings"]
    | other =>
      if isNonEmptyString other then []
      else [s!"{label} artifacts.{key} must be a string or list of strings"]
  keyErrors ++ valueErrors

def validateOptionalArtifacts (item : Json) (label : String) : List String :=
  match item.get "artifacts" with
  | .null => []
  | .obj fields => fields.flatMap fun field => artifactErrors label field.1 field.2
  | _ => [s!"{label} optional field 'artifacts' must be an object when present"]

def validateOptionalReview (item : Json) (label : String) : Except Exn (List String) := do
  let review := item.get "review"
  if review = .null then return []
  else if !review.isObj then
    return [s!"{label} optional field 'review' must be an object when present"]
  else
    let decision := review.get "decision"
    let known ← if decision = .null then pure true else isIn decision allowedReviewDecisions
    return if known then [] else
      [s!"{label} review.decision must be one of {reprTexts allowedReviewDecisions} or null"]

/-- The errors about the fields that every item has, with those about the identifier. -/
def fieldErrors (item : Json) (label : String) (identifier : List String) : Except Exn (List String) := do
  let missing := (itemRequired.filter fun field => (item.field? field).isNone).map fun field =>
    s!"{label} missing required field: {field}"
  let texts := (["title", "updated_at", "acceptance"].filter fun field =>
    (item.field? field).any fun value => !isNonEmptyString value).map fun field =>
    s!"{label} field '{field}' must be a non-empty string"
  let status := item.get "status"
  let statusKnown ← isIn status allowedStatuses
  let statusErrors := if statusKnown then [] else
    [s!"{label} field 'status' must be one of {reprTexts allowedStatuses}, got {status.pyRepr}"]
  let priority := item.get "priority"
  let priorityKnown ← isIn priority allowedPriorities
  let priorityErrors := if priorityKnown then [] else
    [s!"{label} field 'priority' must be one of {reprTexts allowedPriorities}, got {priority.pyRepr}"]
  let arrays := (["dependencies", "blocked_by"].filter fun field =>
    match item.field? field with
    | none | some (.arr _) => false
    | some _ => true).map fun field => s!"{label} field '{field}' must be an array"
  let reason := match item.get "blocked_reason" with
    | .null | .str _ => []
    | _ => [s!"{label} field 'blocked_reason' must be a string or null"]
  return missing ++ identifier ++ texts ++ statusErrors ++ priorityErrors ++ arrays ++ reason

/-- What a status asks of the other fields. -/
def statusErrors (item : Json) (label : String) : List String :=
  let doing := item.get "status" = .str "doing"
  let owner := if doing && !isNonEmptyString (item.get "owner") then
    [s!"{label} with status 'doing' must have non-empty owner"] else []
  let session := if doing && !isNonEmptyString (item.get "selected_in_session") then
    [s!"{label} with status 'doing' must have non-empty selected_in_session"] else []
  let verification :=
    if item.get "status" = .str "done" && !isNonEmptyString (item.get "verification") then
      [s!"{label} with status 'done' must have non-empty verification"] else []
  owner ++ session ++ verification

def identifierErrors (seen : List String) (item : Json) (label : String) : List String × List String :=
  match item.get "id" with
  | .str itemId =>
    if Text.isBlank itemId then ([s!"{label} field 'id' must be a non-empty string"], seen)
    else if seen.contains itemId then ([s!"{label} has duplicate id"], seen)
    else ([], seen ++ [itemId])
  | _ => ([s!"{label} field 'id' must be a non-empty string"], seen)

/-- The errors of the items from an index on, and the identifiers seen. -/
def itemsErrors (seen : List String) (index : Nat) : List Json → Except Exn (List String × List String)
  | [] => return ([], seen)
  | item :: rest => do
    let label := itemLabel item index
    if !item.isObj then
      let (errors, all) ← itemsErrors seen (index + 1) rest
      return (s!"{label} must be an object" :: errors, all)
    else
      let (identifier, seen) := identifierErrors seen item label
      let fields ← fieldErrors item label identifier
      let workflow ← validateOptionalWorkflow item label
      let review ← validateOptionalReview item label
      let (errors, all) ← itemsErrors seen (index + 1) rest
      return (fields ++ statusErrors item label ++ workflow ++ validateOptionalLease item label ++
        validateOptionalArtifacts item label ++ review ++ errors, all)

/-- The errors of a list of other items; `place` and `missing` are the two texts. -/
def referenceErrors (seen : List String) (label field missing : String) : Nat → List Json → List String
  | _, [] => []
  | index, entry :: rest =>
    let errors := match entry with
      | .str itemId =>
        if Text.isBlank itemId then [s!"{label} {field}[{index}] must be a non-empty string"]
        else if seen.contains itemId then []
        else [s!"{label} {missing} {entry.pyRepr} does not exist"]
      | _ => [s!"{label} {field}[{index}] must be a non-empty string"]
    errors ++ referenceErrors seen label field missing (index + 1) rest

def linkErrors (seen : List String) (index : Nat) (item : Json) : List String :=
  let label := itemLabel item index
  match item.get "dependencies" with
  | .arr dependencies =>
    referenceErrors seen label "dependencies" "dependency" 0 dependencies ++
      match item.get "blocked_by" with
      | .arr blockers => referenceErrors seen label "blocked_by" "blocked_by item" 0 blockers
      | _ => []
  | _ => []

/-- `validate_checklist`, without the warnings. -/
def validateChecklist (data : Json) : Except Exn (List String) := do
  if !data.isObj then return ["root must be a JSON object"]
  else
    let missing := (topRequired.filter fun field => (data.field? field).isNone).map fun field =>
      s!"root missing required field: {field}"
    let texts := (["project", "harness_root", "updated_at"].filter fun field =>
      (data.field? field).any fun value => !isNonEmptyString value).map fun field =>
      s!"root field '{field}' must be a non-empty string"
    match data.field? "items" with
    | none => return missing ++ texts
    | some (.arr items) =>
      let (errors, seen) ← itemsErrors [] 0 items
      let links := (items.zipIdx.filter (·.1.isObj)).flatMap fun entry =>
        linkErrors seen entry.2 entry.1
      return missing ++ texts ++ errors ++ links
    | some _ => return missing ++ texts ++ ["root field 'items' must be an array"]

end Validation

section Locators

variable [Scripting]

/-- Four hexadecimal digits at least, in capitals. -/
def hex4 (n : Nat) : String :=
  let digits := (Nat.toDigits 16 n).map Char.toUpper
  String.ofList (List.replicate (4 - digits.length) '0' ++ digits)

def safeItemIdProblem (itemId : Json) : Option String :=
  match itemId with
  | .str text =>
    if Text.isBlank text then some "item id must be a non-empty string"
    else if text = "." ∨ text = ".." then some s!"item id {Text.repr text} is not a safe path component"
    else if text.toList.contains '/' ∨ text.toList.contains '\\' then
      some s!"item id {Text.repr text} contains a path separator"
    else (text.toList.find? Scripting.isCategoryC).map fun char =>
      s!"item id {Text.repr text} contains a control/format/surrogate character (U+{hex4 char.toNat})"
  | other => some s!"item id must be a string, got {typeName other}"

omit [Scripting] in
def itemLocatorTypeProblems (item : Json) : List String :=
  let label := "item " ++ (item.get "id").pyRepr
  let planPath := match item.get "plan_path" with
    | .null | .str _ => []
    | other => [s!"{label} plan_path must be a string or null, got {typeName other}"]
  let artifactsPlan := match (item.get "artifacts").get "plan" with
    | .null | .str _ => []
    | other => [s!"{label} artifacts.plan must be a string or null, got {typeName other}"]
  planPath ++ artifactsPlan

/-- `item_plan_locator_fields`: the locators that are not blank, without the white space around them. -/
def itemPlanLocatorFields (item : Json) : Except Exn (List (String × String)) := do
  let artifacts := (item.get "artifacts").orElse (.obj [])
  raiseIf (¬ artifacts.isObj) (Exn.type s!"'{typeName artifacts}' object has no attribute 'get'")
  return [("plan_path", item.get "plan_path"), ("artifacts.plan", artifacts.get "plan")].filterMap
    fun field => match field.2 with
      | .str text => if Text.isBlank text then none else some (field.1, Text.strip text)
      | _ => none

def itemHasPlanLocator (item : Json) : Except Exn Bool :=
  (!·.isEmpty) <$> itemPlanLocatorFields item

/-- The path that a locator names. -/
def locate (site : Site) (raw : String) : Path.Pure :=
  (Path.Pure.parse site.projectRoot).join (Path.Pure.parse raw)

def describeFields (fields : List (String × String)) : String :=
  Text.join "; " (fields.map fun field => s!"{field.1}={Text.repr field.2}")

/-- The problems of one item. -/
def runtimeProblems (site : Site) (item : Json) : Except Exn (List String) := do
  let fields ← itemPlanLocatorFields item
  let label := "item " ++ (item.get "id").pyRepr
  let climbs := fun field : String × String => (Path.Pure.parse field.2).parts.contains ".."
  let climbing := (fields.filter climbs).map fun field =>
    s!"{label} {field.1} locator contains '..': {Text.repr field.2}"
  let norms := ((fields.filter fun field => !climbs field).map fun field =>
    (locate site field.2).text).dedup
  let conflicts := if norms.length > 1 then
    [s!"{label} has conflicting plan locators: {describeFields fields}"] else []
  return (safeItemIdProblem (item.get "id")).toList ++ itemLocatorTypeProblems item ++ climbing ++
    conflicts

/-- `checklist_runtime_problems` of a checklist whose items are a list. -/
def checklistRuntimeProblems (site : Site) (checklist : Json) : Except Exn (List String) :=
  match checklist.get "items" with
  | .arr items => List.flatten <$> (items.filter (·.isObj)).mapM (runtimeProblems site)
  | _ => return []

/-- `resolve_item_plan`: the path, as far as the locators go. -/
def resolveItemPlan (site : Site) (item : Json) (requireExists : Bool) : Except Exit Path.Pure := do
  let problems := itemLocatorTypeProblems item
  raiseIf (problems ≠ []) (Exit.failed (Text.join "; " problems))
  let fields ← orRaise Exit.raised (itemPlanLocatorFields item)
  let climbs := fun field : String × String => (Path.Pure.parse field.2).parts.contains ".."
  match fields.find? climbs with
  | some field => throw (Exit.failed s!"{field.1} locator must not contain '..': {Text.repr field.2}")
  | none => do
    let paths := (fields.map fun field => locate site field.2).dedup
    raiseIf (paths.length > 1) (Exit.failed
      ("conflicting plan locators on item " ++ (item.get "id").pyRepr ++ s!": {describeFields fields}. " ++
        "Keep only one of plan_path / artifacts.plan, or make them equal."))
    let path ← match paths with
      | path :: _ => pure path
      | [] => match safeItemIdProblem (item.get "id") with
        | some problem => throw (Exit.failed s!"cannot resolve default plan: {problem}")
        | none => pure ((Path.Pure.parse site.projectRoot).join
            ⟨"", ["docs", "tasks", (item.get "id").pyStr, "plan.md"]⟩)
    raiseIf (requireExists ∧ ¬ site.isReadable path.text)
      (Exit.failed s!"plan file not found or not readable: {path.text}")
    return path

omit [Scripting] in
/-- `rel`. -/
def rel (site : Site) (path : Path.Pure) : String :=
  ((path.relativeTo? (Path.Pure.parse site.projectRoot)).getD path).text

end Locators

section Configuration

def defaultConfig : Json :=
  .obj [("deployment_profile", .str "standalone"), ("commands", .obj []),
    ("runtime", .obj [("session_init_commands", .arr [.str "typecheck", .str "test"]),
      ("lease_ttl_minutes", .int 120)]),
    ("git", .obj [("base_branch", .str "main"), ("branch_namespace", .str "agent/\x7bowner\x7d/\x7bitem_id\x7d")]),
    ("message_bus", .obj [("event_log", .str "docs/events.jsonl"),
      ("visible_bus", .str "discord-or-kook")])]

/-- One entry of the file over the configuration: an object updates an object. -/
def mergeConfig (config : Json) (field : String × Json) : Json :=
  let current := config.get field.1
  if field.2.isObj && current.isObj then config.set field.1 (current.update field.2)
  else config.set field.1 field.2

def loadConfig (site : Site) : Except Exit Json := do
  match site.configFile with
  | none => return defaultConfig
  | some text =>
    match text.loads with
    | .error problem => throw (Exit.failed s!"harness-config.json is not valid JSON: {problem}")
    | .ok (.obj fields) => return fields.foldl mergeConfig defaultConfig
    | .ok _ => throw (Exit.failed "harness-config.json root must be a JSON object")

/-- `config.get(section, {}).get(key, default)`. -/
def configured (config : Json) (part key : String) (default : Json) : Except Exit Json := do
  let values := (config.field? part).getD (.obj [])
  raiseIf (¬ values.isObj) (Exit.raised (Exn.type s!"'{typeName values}' object has no attribute 'get'"))
  return (values.field? key).getD default

/-- `branch_for`. -/
def branchFor [Scripting] (site : Site) (owner itemId : String) : Except Exit String := do
  let config ← loadConfig site
  let default := "agent/\x7bowner\x7d/\x7bitem_id\x7d"
  let pattern ← configured config "git" "branch_namespace" (.str default)
  let pattern := match pattern with
    | .str text => if Text.isBlank text then default else text
    | _ => default
  orRaise Exit.raised (Scripting.formatNamespace pattern owner itemId)

end Configuration

section Moments

/-- `utc_now()`. -/
def utcNow [Platform] : Script Nat := fun tick => .ok (now tick, tick + 1)

/-- `today()`. -/
def today [Platform] : Script String := do
  let time ← utcNow
  return Text.takePrefix (Calendar.isoformat time) 10

/-- `iso_z()`. -/
def isoNow [Platform] : Script String := do
  let time ← utcNow
  return Calendar.isoformat time

/-- `parse_time`. -/
def parseTime [Scripting] (value : Json) : Except Exn (Option Int) :=
  match value with
  | .str text =>
    if Text.isBlank text then return none
    else
      let text := Text.strip text
      let text := if text.toList.getLast? = some 'Z' then
        String.ofList text.toList.dropLast ++ "+00:00" else text
      Scripting.fromisoformat text
  | _ => return none

end Moments

section Files

variable [Platform] [Scripting]

/-- The two files of which one is the checklist. -/
structure Files where
  /-- `harness-checklist.json` -/
  new : Option JsonText
  /-- `mvp-checklist.json` -/
  legacy : Option JsonText
deriving DecidableEq, Repr

inductive Kind where
  | new
  | legacy
deriving DecidableEq, Repr

namespace Kind

def name : Kind → String
  | new => "harness-checklist.json"
  | legacy => "mvp-checklist.json"

end Kind

namespace Files

def file (files : Files) : Kind → Option JsonText
  | .new => files.new
  | .legacy => files.legacy

/-- `os.replace` of a file by a written one. -/
def replace (files : Files) (kind : Kind) (content : Json) : Files :=
  match kind with
  | .new => { files with new := some (.value content) }
  | .legacy => { files with legacy := some (.value content) }

end Files

inductive Purpose where
  | read
  | mutation
  | migrate
deriving DecidableEq, Repr

/-- `resolve_checklist`. -/
def resolveChecklist (purpose : Purpose) (files : Files) : Except Exit Kind :=
  match files.new, files.legacy with
  | some _, some _ => throw (Exit.failed
      ("dual checklist authority: both harness-checklist.json and mvp-checklist.json exist; refusing " ++
        "to pick either. Manually compare both files and keep exactly one authority (delete or move " ++
        "the superseded file). Only after the legacy file is the sole remaining checklist may you run " ++
        "migrate-checklist to rename it."))
  | some _, none =>
    if purpose = .migrate then throw (Exit.failed
      ("cannot migrate: harness-checklist.json already exists; migration only accepts a legacy-only " ++
        "checklist."))
    else return .new
  | none, some _ => return .legacy
  | none, none =>
    if purpose = .migrate then throw (Exit.failed "cannot migrate: mvp-checklist.json does not exist.")
    else throw (Exit.failed
      ("no checklist found: neither harness-checklist.json nor mvp-checklist.json exists. Initialize " ++
        "the harness first."))

/-- The text of the checklist that a purpose resolves to. -/
def readResolved (purpose : Purpose) (files : Files) : Except Exit (Kind × JsonText) := do
  let kind ← resolveChecklist purpose files
  return (kind, (files.file kind).getD .blank)

/-- `load_checklist`. -/
def loadChecklist (files : Files) : Except Exit Json := do
  let (_, text) ← readResolved .read files
  orRaise (fun problem => Exit.raised (Exn.value problem)) text.loads

omit [Platform] [Scripting] in
/-- The path of a checklist file. -/
def checklistPath (site : Site) (kind : Kind) : String :=
  ((Path.Pure.parse site.projectRoot).join ⟨"", ["docs", kind.name]⟩).text

omit [Platform] [Scripting] in
def listProblems (problems : List String) : String :=
  Text.join "\n" (problems.map ("  - " ++ ·))

/-- `mutate_checklist` from the text that it has read to the candidate that it writes. -/
def candidateOf (site : Site) (callback : Json → Script Json) (kind : Kind) (text : JsonText) :
    Script Json := do
  let path := checklistPath site kind
  let current ← orRaise (fun problem => Exit.failed s!"checklist {path} is not valid JSON: {problem}")
    text.loads
  raiseIf (¬ current.isObj) (Exit.failed s!"checklist {path} root must be a JSON object")
  let errors ← orRaise Exit.raised (validateChecklist current)
  raiseIf (errors ≠ []) (Exit.failed
    (s!"current checklist is invalid; refusing to mutate: {path}\n" ++ listProblems (errors.take 8)))
  let changed ← callback current
  let date ← today
  let candidate := changed.set "updated_at" (.str date)
  let errors ← orRaise Exit.raised (validateChecklist candidate)
  raiseIf (errors ≠ []) (Exit.failed
    ("candidate checklist is invalid after mutation; nothing written:\n" ++
      listProblems (errors.take 8)))
  let problems ← orRaise Exit.raised (checklistRuntimeProblems site candidate)
  raiseIf (problems ≠ []) (Exit.failed
    ("candidate checklist has runtime authority problems; nothing written:\n" ++ listProblems problems))
  return candidate

/-- `mutate_checklist`. -/
def mutateChecklist (site : Site) (callback : Json → Script Json) (files : Files) :
    Script Files := do
  let (kind, text) ← orRaise id (readResolved .mutation files)
  let candidate ← candidateOf site callback kind text
  return files.replace kind candidate

end Files

section Items

/-- `checklist.get("items", [])` as something to go through. -/
def itemsOf (checklist : Json) : Except Exn (List Json) :=
  if !checklist.isObj then throw (Exn.type s!"'{typeName checklist}' object has no attribute 'get'")
  else match checklist.field? "items" with
    | none | some (.str "") | some (.obj []) => return []
    | some (.arr items) => return items
    | some (.str _) | some (.obj _) => throw (Exn.type "'str' object has no attribute 'get'")
    | some other => throw (Exn.type s!"'{typeName other}' object is not iterable")

/-- The first entry with an identifier. -/
def findItem (itemId : String) : List Json → Except Exn (Option Json)
  | [] => return none
  | entry :: rest =>
    if !entry.isObj then throw (Exn.type s!"'{typeName entry}' object has no attribute 'get'")
    else if entry.get "id" = .str itemId then return some entry
    else findItem itemId rest

/-- `require_item`. -/
def requireItem (checklist : Json) (itemId : String) : Except Exit Json := do
  let items ← orRaise Exit.raised (itemsOf checklist)
  match ← orRaise Exit.raised (findItem itemId items) with
  | some item => return item
  | none => throw (Exit.failed s!"Checklist item not found: {itemId}")

/-- The first entry with an identifier, in its place. -/
def replaceFirst (itemId : String) (item : Json) : List Json → List Json
  | [] => []
  | entry :: rest =>
    if entry.get "id" = .str itemId then item :: rest else entry :: replaceFirst itemId item rest

/-- The checklist after a callback has changed the entry that it has required. -/
def putItem (checklist : Json) (itemId : String) (item : Json) : Json :=
  match checklist.get "items" with
  | .arr items => checklist.set "items" (.arr (replaceFirst itemId item items))
  | _ => checklist

/-- `unfinished_dependencies`, of an item whose dependencies are a list of texts. -/
def unfinishedDependencies (checklist item : Json) : List String :=
  let items := match checklist.get "items" with
    | .arr items => items
    | _ => []
  let dependencies := match item.get "dependencies" with
    | .arr dependencies => dependencies.filterMap Json.asStr?
    | _ => []
  dependencies.filter fun dependency =>
    match (items.filter fun entry => entry.get "id" = .str dependency).getLast? with
    | some entry => entry.get "status" ≠ .str "done"
    | none => true

end Items

end Coordinate.Checklist
