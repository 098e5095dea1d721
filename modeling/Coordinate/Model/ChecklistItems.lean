import Coordinate.Model.Workflow

/-! # The items of the checklist

`add-item` and `update-item` of `checklist_items.py`, by what they do to the checklist files. Both are the
one pipeline of the scripts with a callback that changes items.
-/

namespace Coordinate.Checklist

section Profile

/-- `sorted(ALLOWED_DEPLOYMENT_PROFILES)`. -/
def allowedDeploymentProfiles : List String := ["coordinate-managed", "standalone"]

def deploymentProfile (site : Site) : Except Exit String := do
  let config ← loadConfig site
  let profile := (config.field? "deployment_profile").getD (.str "standalone")
  let invalid := Exit.failed (s!"invalid deployment_profile {profile.pyRepr}; must be one of " ++
    reprTexts allowedDeploymentProfiles)
  match profile with
  | .str name => do
    raiseIf (¬ allowedDeploymentProfiles.contains name) invalid
    return name
  | _ => throw invalid

def requireStandaloneMutation (site : Site) : Except Exit Unit := do
  let profile ← deploymentProfile site
  raiseIf (profile ≠ "standalone") (Exit.failed
    ("add-item/update-item are disabled under deployment_profile=coordinate-managed; register or " ++
      "update checklist items through the Coordinate entry point."))

end Profile

section Arguments

/-- The path that `validate_plan_argument` looks for. -/
def planCandidate (site : Site) (path : Path.Pure) : String :=
  let root := (Path.Pure.parse site.projectRoot).text
  if path.root ≠ "" then path.text
  else if root.toList.getLast? = some '/' then root ++ path.text
  else root ++ "/" ++ path.text

/-- `validate_plan_argument`. Without a part `..` the parts of `os.path.normpath` are those of `pathlib`. -/
def validatePlanArgument (site : Site) (raw : String) : Except Exit String := do
  let path := Path.Pure.parse raw
  raiseIf (path.parts.contains "..") (Exit.failed s!"--plan must not contain '..': {Text.repr raw}")
  let candidate := planCandidate site path
  raiseIf (¬ site.isReadable candidate) (Exit.failed s!"--plan file not found or not readable: {candidate}")
  return path.text

/-- `_set_plan_locator`. -/
def setPlanLocator (item : Json) (stored : String) : Json :=
  let inArtifacts := (item.fieldIn? "artifacts" "plan").isSome
  let located := if (item.field? "plan_path").isSome || !inArtifacts then
    item.set "plan_path" (.str stored) else item
  if inArtifacts then located.setIn "artifacts" "plan" (.str stored) else located

/-- `args.item_id.strip()` of an identifier that is safe before it is stripped. -/
def requireSafeId [Scripting] (command itemId : String) : Except Exit String := do
  let problem := safeItemIdProblem (.str itemId)
  raiseIf problem.isSome (Exit.failed (s!"cannot {command} item: " ++ problem.getD ""))
  return Text.strip itemId

structure AddArguments where
  itemId : String
  title : String
  acceptance : String
  priority : String := "p1"
  plan : Option String := none
  dependency : List String := []
  handoff : Option String := none

structure UpdateArguments where
  itemId : String
  title : Option String := none
  acceptance : Option String := none
  priority : Option String := none
  plan : Option String := none
  verification : Option String := none
  handoff : Option String := none
  addDependency : List String := []
  removeDependency : List String := []

/-- `simple_fields`. -/
def UpdateArguments.simpleFields (arguments : UpdateArguments) : List (String × String) :=
  [("title", arguments.title), ("acceptance", arguments.acceptance), ("priority", arguments.priority),
    ("verification", arguments.verification), ("handoff", arguments.handoff)].filterMap
    fun field => field.2.map fun value => (field.1, value)

end Arguments

section Callbacks

variable [Platform] [Scripting]

omit [Platform] [Scripting] in
/-- `list(item.get("dependencies") or [])` of an item of a valid checklist. -/
def dependenciesOf (item : Json) : List Json :=
  match item.get "dependencies" with
  | .arr dependencies => dependencies
  | _ => []

omit [Platform] [Scripting] in
/-- `find_item(checklist, dep) is None`, as a refusal. -/
def requireDependency (items : List Json) (dependency : String) : Except Exit Unit := do
  let found ← orRaise Exit.raised (findItem dependency items)
  raiseIf found.isNone (Exit.failed s!"dependency item not found: {dependency}")

omit [Platform] [Scripting] in
def refuseSelf (itemId dependency : String) : Except Exit Unit :=
  raiseIf (dependency = itemId) (Exit.failed s!"item {Text.repr itemId} cannot depend on itself")

omit [Scripting] in
/-- The callback of `do_add_item`. -/
def appendItem (arguments : AddArguments) (itemId : String) (plan : Option String) (checklist : Json) :
    Script Json := do
  let items ← orRaise Exit.raised (itemsOf checklist)
  let existing ← orRaise Exit.raised (findItem itemId items)
  raiseIf existing.isSome (Exit.failed s!"checklist item already exists: {itemId}")
  orRaise id (arguments.dependency.forM fun dependency => do
    refuseSelf itemId dependency
    requireDependency items dependency)
  let date ← today
  let item := Json.obj [("id", .str itemId), ("title", .str arguments.title), ("status", .str "todo"),
    ("priority", .str arguments.priority), ("owner", .null), ("selected_in_session", .null),
    ("updated_at", .str date), ("dependencies", .arr (arguments.dependency.map .str)),
    ("blocked_by", .arr []), ("blocked_reason", .null), ("acceptance", .str arguments.acceptance),
    ("verification", .str ""), ("handoff", .str (arguments.handoff.getD ""))]
  let item := match plan with
    | some stored => item.set "plan_path" (.str stored)
    | none => item
  return checklist.set "items" (.arr (items ++ [item]))

/-- `do_add_item`. -/
def addItem (site : Site) (arguments : AddArguments) (files : Files) : Script Files := do
  orRaise id (requireStandaloneMutation site)
  let itemId ← orRaise id (requireSafeId "add" arguments.itemId)
  let plan ← orRaise id ((arguments.plan.filter (· ≠ "")).mapM (validatePlanArgument site))
  mutateChecklist site (appendItem arguments itemId plan) files

omit [Platform] [Scripting] in
/-- One of `simple_fields`. -/
def setSimpleField (item : Json) (field : String × String) : Except Exit Json := do
  raiseIf (field.1 ≠ "priority" ∧ Text.isBlank field.2)
    (Exit.failed s!"--{field.1} must be a non-empty string")
  return item.set field.1 (.str field.2)

omit [Platform] [Scripting] in
/-- One of `remove_dependencies` and of `add_dependencies`, on the list of an item. -/
def removeDependencies (current : List Json) (dependencies : List String) : Except Exit (List Json) := do
  let missing := dependencies.filter fun dependency => !current.contains (.str dependency)
  let names := Text.join ", " missing
  raiseIf (missing ≠ []) (Exit.failed s!"cannot remove missing dependencies: {names}")
  return current.filter fun entry => !(dependencies.map Json.str).contains entry

omit [Platform] [Scripting] in
def addDependency (items : List Json) (itemId : String) (current : List Json) (dependency : String) :
    Except Exit (List Json) := do
  refuseSelf itemId dependency
  raiseIf (current.contains (.str dependency)) (Exit.failed s!"dependency already present: {dependency}")
  requireDependency items dependency
  return current ++ [.str dependency]

omit [Platform] [Scripting] in
/-- The callback of `do_update_item`, on the item that it requires. -/
def changeItem (arguments : UpdateArguments) (itemId : String) (plan : Option String)
    (checklist item : Json) : Except Exit Json := do
  let items ← orRaise Exit.raised (itemsOf checklist)
  let edited ← arguments.simpleFields.foldlM setSimpleField item
  let kept ← removeDependencies (dependenciesOf edited) arguments.removeDependency
  let dependencies ← arguments.addDependency.foldlM (addDependency items itemId) kept
  let linked := if arguments.addDependency ≠ [] ∨ arguments.removeDependency ≠ [] then
    edited.set "dependencies" (.arr dependencies) else edited
  return match plan with
    | some stored => setPlanLocator linked stored
    | none => linked

/-- `do_update_item`. -/
def updateItem (site : Site) (arguments : UpdateArguments) (files : Files) : Script Files := do
  orRaise id (requireStandaloneMutation site)
  let itemId ← orRaise id (requireSafeId "update" arguments.itemId)
  let plan ← orRaise id (arguments.plan.mapM (validatePlanArgument site))
  raiseIf (arguments.simpleFields = [] ∧ plan = none ∧ arguments.addDependency = [] ∧
    arguments.removeDependency = []) (Exit.failed "update-item requires at least one modification flag")
  mutateChecklist site (onItem itemId fun checklist item =>
    orRaise id (changeItem arguments itemId plan checklist item)) files

end Callbacks

end Coordinate.Checklist
