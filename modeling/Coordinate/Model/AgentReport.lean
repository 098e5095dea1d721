import Coordinate.Model.Platform

/-! # Structured agent reports in a response text

The parser of `[agent-report]` blocks (`agent_report.py`), with the parts of `shlex.split` and
`str.splitlines` that it rests on.
-/

namespace Coordinate.AgentReport

variable [Platform]

def lowerText (s : String) : String :=
  Text.join "" (s.toList.map Platform.lower)

def isLineBreak (c : Char) : Bool :=
  let n := c.toNat
  (10 ≤ n && n ≤ 13) || (28 ≤ n && n ≤ 30) || n == 0x85 || n == 0x2028 || n == 0x2029

/-- `str.splitlines`; `line` is the line read so far. -/
def splitLines (line : List Char) : List Char → List (List Char)
  | [] => if line = [] then [] else [line]
  | '\r' :: '\n' :: rest => line :: splitLines [] rest
  | c :: rest => if isLineBreak c then line :: splitLines [] rest else splitLines (line ++ [c]) rest

/-- The states of the `shlex` lexer in POSIX mode. -/
inductive Lexer where
  | blank
  | word
  | single
  | double
  | escape
  | escapeDouble

def isShlexBlank (c : Char) : Bool :=
  c = ' ' || c = '\t' || c = '\r' || c = '\n'

/-- `shlex.split`; an open quotation or a final backslash has no result. -/
def shlexFrom : Lexer → List Char → List Char → Option (List (List Char))
  | .blank, _, [] => some []
  | .blank, _, c :: rest =>
    if isShlexBlank c then shlexFrom .blank [] rest
    else if c = '\\' then shlexFrom .escape [] rest
    else if c = '\'' then shlexFrom .single [] rest
    else if c = '"' then shlexFrom .double [] rest
    else shlexFrom .word [c] rest
  | .word, token, [] => some [token]
  | .word, token, c :: rest =>
    if isShlexBlank c then (shlexFrom .blank [] rest).map (token :: ·)
    else if c = '\\' then shlexFrom .escape token rest
    else if c = '\'' then shlexFrom .single token rest
    else if c = '"' then shlexFrom .double token rest
    else shlexFrom .word (token ++ [c]) rest
  | .single, _, [] => none
  | .single, token, c :: rest =>
    if c = '\'' then shlexFrom .word token rest else shlexFrom .single (token ++ [c]) rest
  | .double, _, [] => none
  | .double, token, c :: rest =>
    if c = '"' then shlexFrom .word token rest
    else if c = '\\' then shlexFrom .escapeDouble token rest
    else shlexFrom .double (token ++ [c]) rest
  | .escape, _, [] => none
  | .escape, token, c :: rest => shlexFrom .word (token ++ [c]) rest
  | .escapeDouble, _, [] => none
  | .escapeDouble, token, c :: rest =>
    if c = '\\' ∨ c = '"' then shlexFrom .double (token ++ [c]) rest
    else shlexFrom .double (token ++ ['\\', c]) rest

/-- The pair of one `key=value` part, if its normalized key is not empty. -/
def keyValue (part : List Char) : Option (String × String) :=
  match part.splitOn '=' with
  | [] | [_] => none
  | key :: _ =>
    let value := String.ofList (part.drop (key.length + 1))
    let normalized := Text.replaceChar '-' '_' (lowerText (Text.strip (String.ofList key)))
    if normalized = "" then none else some (normalized, Text.strip value)

/-- `parse_key_values`; a later pair replaces an earlier one, so the pairs are listed last first. -/
def parseKeyValues (text : List Char) : List (String × String) :=
  match shlexFrom .blank [] text with
  | none => []
  | some parts => (parts.filterMap keyValue).reverse

def tags : List String :=
  ["agent-report", "accept", "accepted", "handoff-received", "done", "blocker", "progress"]

/-- Whether a character matches a letter of a tag under `re.IGNORECASE`, as four from outside ASCII do. -/
def matchesLetter (letter c : Char) : Bool :=
  c = letter || c = letter.toUpper || (letter = 'i' && (c = '\u0130' || c = '\u0131')) ||
    (letter = 'k' && c = '\u212a') || (letter = 's' && c = '\u017f')

def matchesTag (name : List Char) (tag : String) : Bool :=
  name.length = tag.toList.length && (tag.toList.zip name).all fun (letter, c) => matchesLetter letter c

/-- The tag of a line `[tag]...` in lower case, and the text after it. -/
def tagOf (line : List Char) : Option (String × List Char) :=
  match line with
  | '[' :: rest =>
    let name := rest.takeWhile (· ≠ ']')
    match rest.dropWhile (· ≠ ']') with
    | ']' :: after => if tags.any (matchesTag name) then some (lowerText (String.ofList name), after) else none
    | _ => none
  | _ => none

/-- The test of `_TAG_RE`: a tag that ends its line or is followed by a blank. -/
def isTagLine (line : List Char) : Bool :=
  match tagOf line with
  | some (_, after) => after.head?.all Text.isSpace
  | none => false

/-- The test of `^[A-Za-z_][A-Za-z0-9_-]*=`. -/
def isContinuation (line : List Char) : Bool :=
  match line with
  | first :: rest =>
    (Text.isAsciiAlpha first || first = '_') &&
      (rest.dropWhile fun c => Text.isAsciiAlnum c || c = '_' || c = '-').head? = some '='
  | [] => false

/-- The lines of a block after its tag line. -/
def continuationLines : List (List Char) → List (List Char)
  | [] => []
  | line :: rest =>
    let stripped := Text.stripChars line
    if stripped = [] ∨ isTagLine stripped ∨ ¬ isContinuation stripped then []
    else stripped :: continuationLines rest

def actionOf (tag : String) (fields : List (String × String)) : String :=
  if tag = "agent-report" then lowerText ((fields.lookup "action").getD "")
  else if tag = "accept" ∨ tag = "accepted" ∨ tag = "handoff-received" then "accept"
  else tag

/-- The tag and the fields of a block. -/
def readBlock (block : List Char) : Option (String × List (String × String)) :=
  (tagOf block).map fun found => (found.1, parseKeyValues (found.2.dropWhile Text.isSpace))

/-- The first block with a signal other than `accept`, else the first with `accept`. -/
def extractFrom (accepted : Option (List Char)) : List (List Char) → Option (List Char)
  | [] => accepted
  | line :: rest =>
    let stripped := Text.stripChars line
    if ¬ isTagLine stripped then extractFrom accepted rest
    else
      let candidate := ['\n'].intercalate (stripped :: continuationLines rest)
      match readBlock candidate with
      | none => extractFrom accepted rest
      | some (tag, fields) =>
        let action := actionOf tag fields
        if action ∈ ["accept", "done", "blocker", "progress"] ∨
            fields.lookup "decision" = some "approve" ∨ fields.lookup "decision" = some "reject" then
          if action ≠ "accept" then some candidate
          else extractFrom (accepted.or (some candidate)) rest
        else extractFrom accepted rest

/-- `extract_agent_report_block`. -/
def extractAgentReportBlock (text : String) : Option (List Char) :=
  extractFrom none (splitLines [] (Text.stripChars text.toList))

structure Report where
  action : String
  workspaceId : String
  taskId : String
  reason : Option String
  summary : Option String
  decision : Option String
deriving DecidableEq, Repr

/-- A field that is present and not empty. -/
def present (fields : List (String × String)) (name : String) : Option String :=
  (fields.lookup name).filter (· ≠ "")

/-- `parse_agent_report`. -/
def parseAgentReport (text : String) (fallbackWorkspaceId fallbackTaskId : Option String) :
    Option Report := do
  let block ← if text = "" then none else extractAgentReportBlock text
  let (tag, fields) ← readBlock block
  let decision := lowerText ((fields.lookup "decision").getD "")
  let decided := decision = "approve" ∨ decision = "reject"
  let action := if decided then "review_decision" else actionOf tag fields
  if action ∉ ["accept", "done", "blocker", "progress", "review_decision"] then none
  let fallback := do
    let workspaceId ← fallbackWorkspaceId.filter (· ≠ "")
    let taskId ← fallbackTaskId.filter (· ≠ "")
    return ((present fields "workspace_id").getD workspaceId,
      (present fields "task_id").getD taskId)
  let (workspaceId, taskId) ← match present fields "workspace_id", present fields "task_id" with
    | some workspaceId, some taskId => some (workspaceId, taskId)
    | _, _ => fallback
  return ⟨action, workspaceId, taskId, fields.lookup "reason", fields.lookup "summary",
    if decided then some decision else none⟩

end Coordinate.AgentReport
