import Coordinate.Library.Argparse
import Coordinate.Model.Jobs

/-! # The commands of the harness

The argument vectors of `transitions.py` and `HarnessAdapter.run_mutation`, their rearrangement by the wrapper
`harnessctl`, and the parsers of the scripts that it calls.
-/

namespace Coordinate.HarnessCommands

open Argparse

/-- The arguments of `accept_task`, `handoff_task`, `blocker_task` and `unblock_task` that reach the harness. -/
inductive Request where
  | accept (taskId owner session : String) (branch : Option String)
  | handoff (taskId target actor : String) (reason : Option String)
  | blocker (taskId actor unblockOwner : String) (reason : Option String)
  | unblock (taskId actor decision : String) (force : Bool) (reason : Option String)
deriving DecidableEq, Repr

section Transitions

def Request.operation : Request → String
  | .accept .. => "accept"
  | .handoff .. => "handoff"
  | .blocker .. => "blocker"
  | .unblock .. => "unblock"

def Request.taskId : Request → String
  | .accept taskId .. => taskId
  | .handoff taskId .. => taskId
  | .blocker taskId .. => taskId
  | .unblock taskId .. => taskId

/-- `args.extend([name, value])`, if there is a value. -/
def extendArgs (name : String) (value : Option String) : List String :=
  match nonEmpty value with
  | none => []
  | some value => [name, value]

/-- The `args` of the transitions. -/
def Request.args : Request → List String
  | .accept _ owner session branch => [owner, session] ++ extendArgs "--branch" branch
  | .handoff _ target actor reason => [target, "--actor", actor] ++ extendArgs "--reason" reason
  | .blocker _ actor unblockOwner reason =>
    ["--actor", actor, "--unblock-owner", unblockOwner] ++ extendArgs "--reason" reason
  | .unblock _ actor decision force reason =>
    [actor, "--decision", decision] ++ (if force then ["--force"] else []) ++ extendArgs "--reason" reason

/-- `blocker_task` refuses a blank unblock owner. -/
def Request.refused : Request → Bool
  | .blocker _ _ unblockOwner _ => Text.strip unblockOwner = ""
  | _ => false

/-- The arguments of `harnessctl` in `run_mutation`, which refuses an empty task. -/
def runMutation (request : Request) : Option (List String) :=
  if request.refused ∨ request.operation = "" ∨ request.taskId = "" then none
  else some (request.operation :: request.taskId :: request.args)

/-- `subprocess.run` refuses an argument with a NUL in it. -/
def subprocessRun (command : List String) : Option (List String) :=
  if command.any (·.toList.contains '\x00') then none else some command

end Transitions

section Wrapper

inductive Script where
  | workflowTransition
  | prepareHandoffPacket
  | prepareBlockerPacket
deriving DecidableEq, Repr

/-- `harnessctl` for the four commands: the script it calls and its arguments. A missing argument is empty. -/
def harnessctl : List String → Option (Script × List String)
  | "accept" :: args =>
    let item := args.getD 0 ""
    let owner := args.getD 1 ""
    let session := args.getD 2 ""
    if item = "" ∨ owner = "" ∨ session = "" then none
    else some (.workflowTransition,
      ["accept", "--item", item, "--owner", owner, "--session", session] ++ args.drop 3)
  | "unblock" :: args =>
    let item := args.getD 0 ""
    let actor := args.getD 1 ""
    if item = "" ∨ actor = "" then none
    else some (.workflowTransition, ["unblock", "--item", item, "--actor", actor] ++ args.drop 2)
  | "handoff" :: args =>
    let item := args.getD 0 ""
    let target := args.getD 1 ""
    if item = "" ∨ target = "" then none
    else some (.prepareHandoffPacket, ["--item", item, "--target", target] ++ args.drop 2)
  | "blocker" :: args =>
    let item := args.getD 0 ""
    if item = "" then none else some (.prepareBlockerPacket, ["--item", item] ++ args.drop 1)
  | _ => none

end Wrapper

section Scripts

def required (name : String) : Spec := ⟨name, .store, true⟩
def optional (name : String) : Spec := ⟨name, .store, false⟩
def flag (name : String) : Spec := ⟨name, .storeTrue, false⟩

/-- The parser `accept` of `build_parser`. The wrapper passes no `--lease-minutes`, whose value is a number. -/
def acceptParser : Parser :=
  helpOptions ++ [required "--item", required "--owner", required "--session", optional "--branch",
    optional "--lease-minutes", optional "--summary", flag "--force", optional "--reason"]

/-- The parser `unblock` of `build_parser`. -/
def unblockParser : Parser :=
  helpOptions ++ [required "--item", required "--actor", required "--decision", flag "--force",
    optional "--reason"]

/-- The parser of `prepare_handoff_packet.py`. -/
def handoffParser : Parser :=
  helpOptions ++ [required "--item", required "--target", optional "--actor", optional "--reason",
    optional "--date"]

/-- The parser of `prepare_blocker_packet.py`. -/
def blockerParser : Parser :=
  helpOptions ++ [required "--item", optional "--actor", optional "--reason", optional "--unblock-owner",
    optional "--date"]

/-- The script parses its arguments. The parser over the sub-parsers has the options for help only, which no
argument abbreviates in two ways, and leaves what follows the command to the sub-parser. -/
def runScript (negativeNumber : String → Bool) : Script → List String → Except Problem (List Assignment)
  | .workflowTransition, "accept" :: args => parseArgs negativeNumber acceptParser args
  | .workflowTransition, "unblock" :: args => parseArgs negativeNumber unblockParser args
  | .workflowTransition, _ => throw .usage
  | .prepareHandoffPacket, args => parseArgs negativeNumber handoffParser args
  | .prepareBlockerPacket, args => parseArgs negativeNumber blockerParser args

/-- The options that the script receives for a request. -/
def deliver (negativeNumber : String → Bool) (request : Request) : Except Problem (List Assignment) :=
  match ((runMutation request).bind subprocessRun).bind harnessctl with
  | none => throw .usage
  | some (script, args) => runScript negativeNumber script args

end Scripts

end Coordinate.HarnessCommands
