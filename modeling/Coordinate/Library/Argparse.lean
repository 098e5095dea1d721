import Coordinate.Library.Transaction

/-! # Option parsers

`argparse.ArgumentParser` of the standard library, for parsers all of whose arguments are options. An argument
that looks like an option is not the value of another one, an unambiguous prefix stands for a long option, and
a value may follow its option after an equals sign. What looks like a negative number is a parameter.
-/

namespace Argparse

inductive Action where
  | store
  | storeTrue
  | help
deriving DecidableEq, Repr

/-- An option with its dashes. -/
structure Spec where
  name : String
  action : Action := .store
  required : Bool := false
deriving DecidableEq, Repr

/-- The options of a parser, with those that ask for help. -/
abbrev Parser := List Spec

def helpOptions : Parser := [⟨"-h", .help, false⟩, ⟨"--help", .help, false⟩]

/-- What an argument is taken for. -/
inductive Role where
  | positional
  /-- an option, and the value that comes with it after an equals sign -/
  | optional (spec : Spec) (explicit : Option String)
  | unknown
  | ambiguous
  /-- the argument `--` -/
  | dashes
deriving DecidableEq, Repr

inductive Value where
  | text (value : String)
  | flag
deriving DecidableEq, Repr

inductive Problem where
  | usage
  | helpShown
deriving DecidableEq, Repr

section Roles

/-- The part before the first equals sign, and the part after it. -/
def splitEquals (arg : List Char) : List Char × Option (List Char) :=
  match arg.dropWhile (· ≠ '=') with
  | [] => (arg, none)
  | _ :: value => (arg.takeWhile (· ≠ '='), some value)

/-- `_get_option_tuples`: the options that an argument may abbreviate. -/
def abbreviated (parser : Parser) (arg : List Char) : List (Spec × Option String) :=
  match arg with
  | '-' :: '-' :: _ =>
    let (name, value) := splitEquals arg
    (parser.filter fun spec => name.isPrefixOf spec.name.toList).map (·, value.map String.ofList)
  | '-' :: c :: value => parser.filterMap fun spec =>
    if spec.name.toList = ['-', c] then some (spec, some (String.ofList value))
    else if arg.isPrefixOf spec.name.toList then some (spec, none)
    else none
  | _ => []

variable (negativeNumber : String → Bool) (parser : Parser)

/-- `_parse_optional`. -/
def roleOf (arg : String) : Role :=
  if arg.toList.head? ≠ some '-' then .positional
  else
    match parser.find? (·.name = arg) with
    | some spec => .optional spec none
    | none =>
      if arg = "-" then .positional
      else
        let (name, value) := splitEquals arg.toList
        match value, parser.find? (·.name.toList = name) with
        | some value, some spec => .optional spec (some (String.ofList value))
        | _, _ =>
          match abbreviated parser arg.toList with
          | [(spec, value)] => .optional spec value
          | _ :: _ :: _ => .ambiguous
          | [] => if negativeNumber arg || arg.toList.contains ' ' then .positional else .unknown

/-- The roles of some arguments; after `--` none is an option. -/
def roles : List String → List (String × Role)
  | [] => []
  | arg :: rest =>
    if arg = "--" then (arg, .dashes) :: rest.map (·, .positional)
    else (arg, roleOf negativeNumber parser arg) :: roles rest

end Roles

section Parsing

/-- An option that was given, with its value. -/
abbrev Assignment := String × Value

/-- The options in the order of their arguments. An argument that no option takes is one too many. -/
def consume : List (String × Role) → Except Problem (List Assignment)
  | [] => return []
  | (_, .optional spec explicit) :: rest =>
    match spec.action, explicit, rest with
    | .help, none, _ => throw .helpShown
    | .help, some value, _ =>
      if spec.name = "-h" ∧ value.toList.all (· = 'h') then throw .helpShown else throw .usage
    | .storeTrue, none, rest => return (spec.name, .flag) :: (← consume rest)
    | .storeTrue, some _, _ => throw .usage
    | .store, some value, rest => return (spec.name, .text value) :: (← consume rest)
    | .store, none, (value, .positional) :: rest => return (spec.name, .text value) :: (← consume rest)
    | .store, none, _ => throw .usage
  | _ :: _ => throw .usage

variable (negativeNumber : String → Bool) (parser : Parser)

/-- `parse_args`. -/
def parseArgs (args : List String) : Except Problem (List Assignment) := do
  let roles := roles negativeNumber parser args
  raiseIf (roles.any (·.2 = .ambiguous)) Problem.usage
  let assignments ← consume roles
  raiseIf (parser.any fun spec => spec.required && !assignments.any (·.1 = spec.name)) Problem.usage
  return assignments

end Parsing

section Vectors

/-- A part of an argument vector: an option with a value, or a flag. -/
inductive Part where
  | given (name value : String)
  | flag (name : String)
deriving DecidableEq, Repr

def Part.option : Part → String
  | .given name _ => name
  | .flag name => name

def Part.args : Part → List String
  | .given name value => [name, value]
  | .flag name => [name]

def Part.assignment : Part → Assignment
  | .given name value => (name, .text value)
  | .flag name => (name, .flag)

/-- The values of a part. -/
def Part.values : Part → List String
  | .given _ value => [value]
  | .flag _ => []

def Part.action : Part → Action
  | .given .. => .store
  | .flag _ => .storeTrue

variable (negativeNumber : String → Bool) (parser : Parser)

/-- The parser has the option of a part, with its action. -/
structure Part.Known (part : Part) : Prop where
  dash : part.option.toList.head? = some '-'
  name : part.option ≠ "--"
  spec : ∃ spec, parser.find? (·.name = part.option) = some spec ∧ spec.action = part.action

instance (part : Part) : Decidable (part.Known parser) :=
  decidable_of_iff (part.option.toList.head? = some '-' ∧ part.option ≠ "--" ∧
      ((parser.find? (·.name = part.option)).any fun spec => spec.action = part.action) = true)
    ⟨fun ⟨dash, name, spec⟩ => ⟨dash, name, by simpa [Option.any_eq_true] using spec⟩,
      fun ⟨dash, name, spec⟩ => ⟨dash, name, by simpa [Option.any_eq_true] using spec⟩⟩

/-- A value that the parser takes for no option, and so reads after one. -/
def Consumable (value : String) : Prop :=
  value ≠ "--" ∧ roleOf negativeNumber parser value = .positional

instance (value : String) : Decidable (Consumable negativeNumber parser value) :=
  inferInstanceAs (Decidable (_ ∧ _))

variable {negativeNumber parser}

theorem roleOf_name {name : String} {spec : Spec} (dash : name.toList.head? = some '-')
    (found : parser.find? (·.name = name) = some spec) :
    roleOf negativeNumber parser name = .optional spec none := by
  rw [roleOf, if_neg (not_not.mpr dash), found]

/-- The option of a known part is read as such. -/
theorem Part.Known.roleOf {part : Part} (known : part.Known parser) :
    ∃ spec, Argparse.roleOf negativeNumber parser part.option = .optional spec none ∧
      spec.name = part.option ∧ spec.action = part.action := by
  obtain ⟨spec, found, action⟩ := known.spec
  have name : spec.name = part.option := by simpa using List.find?_some found
  exact ⟨spec, roleOf_name known.dash found, name, action⟩

theorem roles_name {part : Part} (known : part.Known parser) (rest : List String) :
    roles negativeNumber parser (part.option :: rest) =
      (part.option, roleOf negativeNumber parser part.option) :: roles negativeNumber parser rest :=
  if_neg known.name

theorem roles_value {value : String} (consumable : Consumable negativeNumber parser value)
    (rest : List String) :
    roles negativeNumber parser (value :: rest) =
      (value, .positional) :: roles negativeNumber parser rest := by
  rw [roles, if_neg consumable.1, consumable.2]

/-- What is not consumable is no value of an option. -/
theorem roles_refused {value : String} (refused : ¬ Consumable negativeNumber parser value)
    (rest : List String) : ∃ role others, role ≠ .positional ∧
      roles negativeNumber parser (value :: rest) = (value, role) :: others := by
  rw [roles]
  split
  · exact ⟨.dashes, _, by simp, rfl⟩
  · rename_i dashes
    exact ⟨_, _, fun positional => refused ⟨dashes, positional⟩, rfl⟩

/-- What an option with a value consumes. -/
theorem consume_given {name value : String} {spec : Spec} (store : spec.action = .store)
    (rest : List (String × Role)) :
    consume ((name, .optional spec none) :: (value, .positional) :: rest) =
      (do return (spec.name, .text value) :: (← consume rest)) := by
  obtain ⟨option, action, required⟩ := spec
  cases store
  simp only [consume]

theorem consume_refused {name value : String} {spec : Spec} {role : Role} (store : spec.action = .store)
    (refused : role ≠ .positional) (rest : List (String × Role)) :
    consume ((name, .optional spec none) :: (value, role) :: rest) = .error .usage := by
  obtain ⟨option, action, required⟩ := spec
  cases store
  cases role with
  | positional => exact absurd rfl refused
  | _ => simp only [consume, throw, throwThe, MonadExceptOf.throw]

theorem consume_flag {name : String} {spec : Spec} (flag : spec.action = .storeTrue)
    (rest : List (String × Role)) :
    consume ((name, .optional spec none) :: rest) =
      (do return (spec.name, .flag) :: (← consume rest)) := by
  obtain ⟨option, action, required⟩ := spec
  cases flag
  simp only [consume]

/-- A vector of known parts is consumed as it is meant, or refused if a value is not consumable. -/
theorem consume_parts {parts : List Part} (known : ∀ part ∈ parts, part.Known parser) :
    consume (roles negativeNumber parser (parts.flatMap Part.args)) =
      if ∀ value ∈ parts.flatMap Part.values, Consumable negativeNumber parser value
        then .ok (parts.map Part.assignment) else .error .usage := by
  induction parts with
  | nil => rfl
  | cons part rest ih =>
    have first := known part List.mem_cons_self
    have others := ih fun part member => known part (List.mem_cons_of_mem _ member)
    obtain ⟨spec, role, name, action⟩ := @Part.Known.roleOf negativeNumber _ _ first
    cases part with
    | flag option =>
      have read := @roles_name negativeNumber _ _ first (rest.flatMap Part.args)
      simp only [Part.option] at read role name
      simp only [List.flatMap_cons, Part.args, List.singleton_append, List.map_cons, Part.assignment, read, role,
        consume_flag action, name, Part.values, List.nil_append, others]
      split <;> rfl
    | given option value =>
      have read := @roles_name negativeNumber _ _ first (value :: rest.flatMap Part.args)
      simp only [Part.option] at read role name
      simp only [List.flatMap_cons, Part.args, List.cons_append, List.nil_append, List.map_cons, Part.assignment,
        read, role, Part.values, List.forall_mem_cons]
      by_cases consumable : Consumable negativeNumber parser value
      · rw [roles_value consumable, consume_given action, name, others]
        simp only [consumable, true_and]
        split <;> rfl
      · obtain ⟨role, following, refused, same⟩ := roles_refused consumable (rest.flatMap Part.args)
        rw [same, consume_refused action refused, if_neg fun all => consumable all.1]

/-- No argument of such a vector is ambiguous. -/
theorem unambiguous_parts {parts : List Part} (known : ∀ part ∈ parts, part.Known parser)
    (consumable : ∀ value ∈ parts.flatMap Part.values, Consumable negativeNumber parser value) :
    ∀ entry ∈ roles negativeNumber parser (parts.flatMap Part.args), entry.2 ≠ .ambiguous := by
  induction parts with
  | nil => exact List.forall_mem_nil _
  | cons part rest ih =>
    have first := known part List.mem_cons_self
    obtain ⟨spec, role, -, -⟩ := @Part.Known.roleOf negativeNumber _ _ first
    have others := ih (fun part member => known part (List.mem_cons_of_mem _ member))
      fun value member => consumable value (by
        rw [List.flatMap_cons]
        exact List.mem_append_right _ member)
    have option : (Argparse.roleOf negativeNumber parser part.option) ≠ .ambiguous := by
      rw [role]
      simp
    cases part with
    | flag name =>
      have read := @roles_name negativeNumber _ _ first (rest.flatMap Part.args)
      simp only [Part.option] at read option
      simp only [List.flatMap_cons, Part.args, List.singleton_append, read, List.forall_mem_cons]
      exact ⟨option, others⟩
    | given name value =>
      have read := @roles_name negativeNumber _ _ first (value :: rest.flatMap Part.args)
      have value := roles_value (consumable value (by simp [Part.values])) (rest.flatMap Part.args)
      simp only [Part.option] at read option
      simp only [List.flatMap_cons, Part.args, List.cons_append, List.nil_append, read, value,
        List.forall_mem_cons]
      exact ⟨option, by simp, others⟩

/-- A vector of known parts, among them all that are required, is parsed as it is meant, or refused if a value
is not consumable. -/
theorem parseArgs_parts {parts : List Part} (known : ∀ part ∈ parts, part.Known parser)
    (complete : ∀ spec ∈ parser, spec.required = true → ∃ part ∈ parts, part.option = spec.name) :
    parseArgs negativeNumber parser (parts.flatMap Part.args) =
      if ∀ value ∈ parts.flatMap Part.values, Consumable negativeNumber parser value
        then .ok (parts.map Part.assignment) else .error .usage := by
  have given : ¬ (parser.any fun spec =>
      spec.required && !(parts.map Part.assignment).any (·.1 = spec.name)) = true := by
    intro missing
    obtain ⟨spec, member, missing⟩ := List.any_eq_true.mp missing
    simp only [Bool.and_eq_true, Bool.not_eq_true', List.any_eq_false, List.mem_map,
      forall_exists_index, and_imp, decide_eq_true_eq] at missing
    obtain ⟨part, among, same⟩ := complete spec member missing.1
    refine missing.2 _ part among rfl ?_
    rw [← same]
    cases part <;> rfl
  simp only [parseArgs, consume_parts known]
  by_cases consumable : ∀ value ∈ parts.flatMap Part.values, Consumable negativeNumber parser value
  · have clear : ¬ ((roles negativeNumber parser (parts.flatMap Part.args)).any
        (·.2 = .ambiguous)) = true := by
      intro ambiguous
      obtain ⟨entry, member, same⟩ := List.any_eq_true.mp ambiguous
      exact unambiguous_parts known consumable entry member (of_decide_eq_true same)
    rw [raiseIf, if_neg clear, if_pos consumable]
    change (do raiseIf _ Problem.usage; return _ : Except Problem (List Assignment)) = _
    rw [raiseIf, if_neg given]
    rfl
  · rw [if_neg consumable, raiseIf]
    split <;> rfl

end Vectors

end Argparse
