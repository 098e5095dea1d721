import Coordinate.Model.HarnessCommands

/-! # The values of a request reach the script in their options

Every value follows its own option, and a value that looks like an option is refused there.
-/

namespace Coordinate.HarnessCommands

open Argparse

section Requests

/-- An option that is given if it has a value. -/
def optionalPart (name : String) (value : Option String) : List Part :=
  ((nonEmpty value).map (Part.given name)).toList

/-- The options that a request means. -/
def Request.parts : Request → List Part
  | .accept taskId owner session branch =>
    [.given "--item" taskId, .given "--owner" owner, .given "--session" session] ++ optionalPart "--branch" branch
  | .handoff taskId target actor reason =>
    [.given "--item" taskId, .given "--target" target, .given "--actor" actor] ++ optionalPart "--reason" reason
  | .blocker taskId actor unblockOwner reason =>
    [.given "--item" taskId, .given "--actor" actor, .given "--unblock-owner" unblockOwner] ++
      optionalPart "--reason" reason
  | .unblock taskId actor decision force reason =>
    [.given "--item" taskId, .given "--actor" actor, .given "--decision" decision] ++
      (if force then [.flag "--force"] else []) ++ optionalPart "--reason" reason

/-- The values of a request. -/
def Request.values (request : Request) : List String :=
  request.parts.flatMap Part.values

/-- The parser of the script that a request reaches. -/
def Request.parser : Request → Parser
  | .accept .. => acceptParser
  | .handoff .. => handoffParser
  | .blocker .. => blockerParser
  | .unblock .. => unblockParser

/-- The options with their values as the request means them. -/
def Request.expected (request : Request) : List Assignment :=
  request.parts.map Part.assignment

/-- The values of a request are not empty, without NUL, and its unblock owner is not blank. -/
structure Request.Filled (request : Request) : Prop where
  nonempty : ∀ value ∈ request.values, value ≠ ""
  nul : ∀ value ∈ request.values, value.toList.contains '\x00' = false
  unrefused : request.refused = false

theorem extendArgs_eq (name : String) (value : Option String) :
    extendArgs name value = (optionalPart name value).flatMap Part.args := by
  unfold extendArgs optionalPart
  cases nonEmpty value <;> rfl

theorem known_optionalPart {parser : Parser} {name : String} {value : Option String}
    (known : ∀ text, (Part.given name text).Known parser) :
    ∀ part ∈ optionalPart name value, part.Known parser := by
  intro part member
  rw [optionalPart] at member
  cases given : nonEmpty value with
  | none => simp [given] at member
  | some text =>
    simp only [given, Option.map_some, Option.toList_some, List.mem_singleton] at member
    exact member ▸ known text

/-- The parser knows an option by its name alone. -/
theorem known_given {parser : Parser} {name : String} (text other : String)
    (known : (Part.given name other).Known parser) : (Part.given name text).Known parser :=
  ⟨known.dash, known.name, known.spec⟩

theorem parts_known (request : Request) : ∀ part ∈ request.parts, part.Known request.parser := by
  cases request with
  | accept taskId owner session branch =>
    simp only [Request.parts, Request.parser, List.forall_mem_append, List.forall_mem_cons]
    refine ⟨⟨known_given taskId "" (by decide), known_given owner "" (by decide),
      known_given session "" (by decide), List.forall_mem_nil _⟩, known_optionalPart fun text => ?_⟩
    exact known_given text "" (by decide)
  | handoff taskId target actor reason =>
    simp only [Request.parts, Request.parser, List.forall_mem_append, List.forall_mem_cons]
    refine ⟨⟨known_given taskId "" (by decide), known_given target "" (by decide),
      known_given actor "" (by decide), List.forall_mem_nil _⟩, known_optionalPart fun text => ?_⟩
    exact known_given text "" (by decide)
  | blocker taskId actor unblockOwner reason =>
    simp only [Request.parts, Request.parser, List.forall_mem_append, List.forall_mem_cons]
    refine ⟨⟨known_given taskId "" (by decide), known_given actor "" (by decide),
      known_given unblockOwner "" (by decide), List.forall_mem_nil _⟩, known_optionalPart fun text => ?_⟩
    exact known_given text "" (by decide)
  | unblock taskId actor decision force reason =>
    simp only [Request.parts, Request.parser, List.forall_mem_append, List.forall_mem_cons]
    refine ⟨⟨⟨known_given taskId "" (by decide), known_given actor "" (by decide),
      known_given decision "" (by decide), List.forall_mem_nil _⟩, ?_⟩, known_optionalPart fun text => ?_⟩
    · split
      · exact List.forall_mem_cons.mpr ⟨by decide, List.forall_mem_nil _⟩
      · exact List.forall_mem_nil _
    · exact known_given text "" (by decide)

/-- The names of the required options of a parser. -/
def requiredNames (parser : Parser) : List String :=
  (parser.filter (·.required)).map (·.name)

theorem parts_complete (request : Request) : ∀ spec ∈ request.parser, spec.required = true →
    ∃ part ∈ request.parts, part.option = spec.name := by
  have listed : ∀ name ∈ requiredNames request.parser, name ∈ request.parts.map Part.option := by
    intro name member
    cases request with
    | accept taskId owner session branch =>
      have three : name ∈ ["--item", "--owner", "--session"] := member
      simp only [Request.parts, List.map_append]
      exact List.mem_append_left _ three
    | handoff taskId target actor reason =>
      have two : name ∈ ["--item", "--target"] := member
      simp only [Request.parts, List.map_append]
      exact List.mem_append_left _ (List.mem_append_left ["--actor"] two)
    | blocker taskId actor unblockOwner reason =>
      have one : name ∈ ["--item"] := member
      simp only [Request.parts, List.map_append]
      exact List.mem_append_left _ (List.mem_append_left ["--actor", "--unblock-owner"] one)
    | unblock taskId actor decision force reason =>
      have three : name ∈ ["--item", "--actor", "--decision"] := member
      simp only [Request.parts, List.map_append]
      exact List.mem_append_left _ (List.mem_append_left _ three)
  intro spec member required
  obtain ⟨part, among, same⟩ := List.mem_map.mp (listed spec.name
    (List.mem_map_of_mem (List.mem_filter.mpr ⟨member, required⟩)))
  exact ⟨part, among, same⟩

/-- An argument without a NUL. -/
abbrev Clean (arg : String) : Prop :=
  arg.toList.contains '\x00' = false

theorem clean_extendArgs {name : String} {value : Option String} (named : Clean name)
    (values : ∀ text ∈ (optionalPart name value).flatMap Part.values, Clean text) :
    ∀ arg ∈ extendArgs name value, Clean arg := by
  unfold extendArgs
  unfold optionalPart at values
  cases given : nonEmpty value with
  | none => exact List.forall_mem_nil _
  | some text =>
    simp only [given, Option.map_some, Option.toList_some, List.flatMap_singleton, Part.values,
      List.forall_mem_singleton] at values
    exact List.forall_mem_cons.mpr ⟨named, List.forall_mem_singleton.mpr values⟩

/-- No argument of the command has a NUL in it. -/
theorem clean_command {request : Request} (nul : ∀ value ∈ request.values, Clean value) :
    ∀ arg ∈ request.operation :: request.taskId :: request.args, Clean arg := by
  cases request with
  | accept taskId owner session branch =>
    simp only [Request.values, Request.parts, List.flatMap_append, List.flatMap_cons, List.flatMap_nil,
      Part.values, List.forall_mem_append, List.forall_mem_cons] at nul
    obtain ⟨⟨item, owned, session, -⟩, optional⟩ := nul
    simp only [Request.operation, Request.taskId, Request.args, List.cons_append, List.nil_append,
      List.forall_mem_cons]
    exact ⟨by decide, item.1, owned.1, session.1, clean_extendArgs (by decide) optional⟩
  | handoff taskId target actor reason =>
    simp only [Request.values, Request.parts, List.flatMap_append, List.flatMap_cons, List.flatMap_nil,
      Part.values, List.forall_mem_append, List.forall_mem_cons] at nul
    obtain ⟨⟨item, target, actor, -⟩, optional⟩ := nul
    simp only [Request.operation, Request.taskId, Request.args, List.cons_append, List.nil_append,
      List.forall_mem_cons]
    exact ⟨by decide, item.1, target.1, by decide, actor.1, clean_extendArgs (by decide) optional⟩
  | blocker taskId actor unblockOwner reason =>
    simp only [Request.values, Request.parts, List.flatMap_append, List.flatMap_cons, List.flatMap_nil,
      Part.values, List.forall_mem_append, List.forall_mem_cons] at nul
    obtain ⟨⟨item, actor, owner, -⟩, optional⟩ := nul
    simp only [Request.operation, Request.taskId, Request.args, List.cons_append, List.nil_append,
      List.forall_mem_cons]
    exact ⟨by decide, item.1, by decide, actor.1, by decide, owner.1, clean_extendArgs (by decide) optional⟩
  | unblock taskId actor decision force reason =>
    simp only [Request.values, Request.parts, List.flatMap_append, List.flatMap_cons, List.flatMap_nil,
      Part.values, List.forall_mem_append, List.forall_mem_cons] at nul
    obtain ⟨⟨⟨item, actor, decision, -⟩, -⟩, optional⟩ := nul
    simp only [Request.operation, Request.taskId, Request.args, List.cons_append, List.nil_append,
      List.forall_mem_cons, List.forall_mem_append]
    refine ⟨by decide, item.1, actor.1, by decide, decision.1, ?_, clean_extendArgs (by decide) optional⟩
    cases force <;> decide

/-- The wrapper rearranges the arguments into the options of the request. -/
theorem harnessctl_eq {request : Request} (nonempty : ∀ value ∈ request.values, value ≠ "") :
    ∃ script arguments, harnessctl (request.operation :: request.taskId :: request.args) =
        some (script, arguments) ∧
      ∀ negativeNumber, runScript negativeNumber script arguments =
        parseArgs negativeNumber request.parser (request.parts.flatMap Part.args) := by
  cases request with
  | accept taskId owner session branch =>
    have empty : ¬ (taskId = "" ∨ owner = "" ∨ session = "") := by
      simp only [not_or]
      exact ⟨nonempty _ (by simp [Request.values, Request.parts, Part.values]),
        nonempty _ (by simp [Request.values, Request.parts, Part.values]),
        nonempty _ (by simp [Request.values, Request.parts, Part.values])⟩
    refine ⟨_, _, if_neg empty, fun negativeNumber => ?_⟩
    rw [Request.parts, List.flatMap_append, ← extendArgs_eq]
    rfl
  | handoff taskId target actor reason =>
    have empty : ¬ (taskId = "" ∨ target = "") := by
      simp only [not_or]
      exact ⟨nonempty _ (by simp [Request.values, Request.parts, Part.values]),
        nonempty _ (by simp [Request.values, Request.parts, Part.values])⟩
    refine ⟨_, _, if_neg empty, fun negativeNumber => ?_⟩
    rw [Request.parts, List.flatMap_append, ← extendArgs_eq]
    rfl
  | blocker taskId actor unblockOwner reason =>
    have empty : taskId ≠ "" := nonempty _ (by simp [Request.values, Request.parts, Part.values])
    refine ⟨_, _, if_neg empty, fun negativeNumber => ?_⟩
    rw [Request.parts, List.flatMap_append, ← extendArgs_eq]
    rfl
  | unblock taskId actor decision force reason =>
    have empty : ¬ (taskId = "" ∨ actor = "") := by
      simp only [not_or]
      exact ⟨nonempty _ (by simp [Request.values, Request.parts, Part.values]),
        nonempty _ (by simp [Request.values, Request.parts, Part.values])⟩
    refine ⟨_, _, if_neg empty, fun negativeNumber => ?_⟩
    rw [Request.parts, List.flatMap_append, List.flatMap_append, ← extendArgs_eq]
    cases force <;> rfl

/-- A request reaches the parser of its script as its options. -/
theorem deliver_eq {negativeNumber : String → Bool} {request : Request} (filled : request.Filled) :
    deliver negativeNumber request =
      parseArgs negativeNumber request.parser (request.parts.flatMap Part.args) := by
  have clean : ¬ (request.operation :: request.taskId :: request.args).any
      (·.toList.contains '\x00') = true := by
    simpa only [List.any_eq_true, not_exists, not_and, Bool.not_eq_true] using clean_command filled.nul
  have item : request.taskId ≠ "" := by
    apply filled.nonempty
    cases request <;> simp [Request.values, Request.parts, Part.values, Request.taskId]
  have operation : request.operation ≠ "" := by
    cases request <;> simp [Request.operation]
  have ran : (runMutation request).bind subprocessRun =
      some (request.operation :: request.taskId :: request.args) := by
    rw [runMutation, if_neg (by simp [filled.unrefused, operation, item]), Option.bind_some, subprocessRun,
      if_neg clean]
  obtain ⟨script, arguments, wrapped, parsed⟩ := harnessctl_eq filled.nonempty
  rw [deliver, ran, Option.bind_some, wrapped]
  exact parsed negativeNumber

/-- A request reaches its script as it is meant exactly if argparse takes none of its values for an option.
Otherwise the script refuses its arguments, and no option is set at all. -/
theorem deliver_expected_iff (negativeNumber : String → Bool) {request : Request} (filled : request.Filled) :
    (deliver negativeNumber request = .ok request.expected ↔
      ∀ value ∈ request.values, Consumable negativeNumber request.parser value) ∧
    (deliver negativeNumber request ≠ .ok request.expected →
      deliver negativeNumber request = .error .usage) := by
  have parsed := (deliver_eq filled).trans
    (@parseArgs_parts negativeNumber _ _ (parts_known request) (parts_complete request))
  rw [parsed]
  split
  · rename_i consumable
    exact ⟨iff_of_true rfl consumable, fun other => absurd rfl other⟩
  · rename_i consumable
    exact ⟨iff_of_false (fun same => by cases same) consumable, fun _ => rfl⟩

end Requests

namespace Sample

/-- The negative numbers of `argparse`, of digits alone. -/
def negativeInteger (arg : String) : Bool :=
  match arg.toList with
  | '-' :: digits => digits ≠ [] && digits.all Char.isDigit
  | _ => false

def ordinary : Request :=
  .unblock "task-1" "operator" "resume" true (some "- see the notes of Monday")

/-- A reason with spaces that begins with a dash is read after its option. -/
theorem ordinary_delivered :
    (∀ value ∈ ordinary.values, Consumable negativeInteger ordinary.parser value) ∧
    deliver negativeInteger ordinary = .ok ordinary.expected := by
  have filled : ordinary.Filled := ⟨by decide, by decide, rfl⟩
  have consumable : ∀ value ∈ ordinary.values, Consumable negativeInteger ordinary.parser value := by decide
  exact ⟨consumable, (deliver_expected_iff negativeInteger filled).1.mpr consumable⟩

def forced : Request :=
  .unblock "task-1" "operator" "resume" false (some "--force")

def declined : Request :=
  .unblock "task-1" "operator" "-n/a" false none

/-- Two unblockings of non-empty texts fail in the parser of the script. -/
theorem dashed_refused : forced.Filled ∧ deliver negativeInteger forced = .error .usage ∧
    declined.Filled ∧ deliver negativeInteger declined = .error .usage := by
  refine ⟨⟨by decide, by decide, rfl⟩, by decide, ⟨by decide, by decide, rfl⟩, by decide⟩

end Sample

end Coordinate.HarnessCommands
