import Coordinate.Library.Inert
import Coordinate.Model.AgentReport
import Coordinate.Model.Installation

/-! # Which block of a response is extracted, and the decision that is read of it

Extraction looks for a decision in exact lower case and the parser in any case, so a block whose decision the
parser would read can be passed over.
-/

namespace Coordinate.AgentReport

section Blocks

variable [Platform]

/-- The blocks of the lines of a text, in order. -/
def blocksOf : List (List Char) → List (List Char)
  | [] => []
  | line :: rest =>
    let stripped := Text.stripChars line
    if isTagLine stripped then ['\n'].intercalate (stripped :: continuationLines rest) :: blocksOf rest
    else blocksOf rest

/-- The blocks of a text: a tag line with the `key=value` lines that follow it. -/
def blocks (text : String) : List (List Char) :=
  blocksOf (splitLines [] (Text.stripChars text.toList))

/-- The parts of what follows the tag of a block. -/
def partsOf (block : List Char) : List (List Char) :=
  ((tagOf block).bind fun found => shlexFrom .blank [] (found.2.dropWhile Text.isSpace)).getD []

/-- The normalized name of a `key=value` part. -/
def nameOf (part : List Char) : String :=
  Text.replaceChar '-' '_' (lowerText (Text.strip (String.ofList (part.takeWhile (· ≠ '=')))))

/-- The value of a `key=value` part as it is written. -/
def valueOf (part : List Char) : String :=
  String.ofList (part.drop ((part.takeWhile (· ≠ '=')).length + 1))

def isField (name : String) (part : List Char) : Bool :=
  part.contains '=' && nameOf part = name

/-- The decision field of a block as it is written: the last one counts. -/
def writtenDecision (block : List Char) : Option String :=
  ((partsOf block).reverse.find? (isField "decision")).map valueOf

/-- A decision, whatever its letter case and the white space around it. -/
def readDecision (written : String) : Option String :=
  let decision := lowerText (Text.strip written)
  if decision = "approve" ∨ decision = "reject" then some decision else none

/-- The decision of a block. -/
def decisionOf (block : List Char) : Option String :=
  (writtenDecision block).bind readDecision

/-- Whether extraction sees a signal in a block: one of four actions, or a decision in lower case. -/
def signals (block : List Char) : Bool :=
  match readBlock block with
  | none => false
  | some (tag, fields) => actionOf tag fields ∈ ["accept", "done", "blocker", "progress"] ||
      fields.lookup "decision" = some "approve" || fields.lookup "decision" = some "reject"

def accepts (block : List Char) : Bool :=
  match readBlock block with
  | none => false
  | some (tag, fields) => actionOf tag fields = "accept"

/-- A block that comes first among those with a signal: one that accepts waits for all that do not. -/
structure Leads (before : List (List Char)) (block : List Char) (after : List (List Char)) : Prop where
  signal : signals block = true
  first : ∀ other ∈ before, signals other = true → accepts other = true ∧ accepts block = false
  waits : accepts block = true → ∀ other ∈ after, signals other = true → accepts other = true

end Blocks

section Fields

theorem splitOn_head (sep : Char) : ∀ cs : List Char, (cs.splitOn sep).head? = some (cs.takeWhile (· ≠ sep))
  | [] => by simp
  | c :: rest => by
    rw [List.splitOn_cons_eq_if_modifyHead]
    by_cases own : c = sep
    · simp [own]
    · rw [if_neg (by simpa using own), List.head?_modifyHead, splitOn_head sep rest]
      simp [own]

variable [Platform]

theorem keyValue_eq (part : List Char) : keyValue part =
    if part.contains '=' ∧ nameOf part ≠ "" then some (nameOf part, Text.strip (valueOf part)) else none := by
  have size := List.length_splitOn '=' part
  have head := splitOn_head '=' part
  unfold keyValue
  split
  · rename_i pieces
    rw [pieces] at head
    cases head
  · rename_i piece pieces
    rw [pieces] at size
    have missing : part.contains '=' = false := by
      have none : '=' ∉ part := List.count_eq_zero.mp (by simpa using size.symm)
      simpa using none
    rw [missing, if_neg (by simp)]
  · rename_i key rest several pieces
    rw [pieces] at head size
    have key_eq : key = part.takeWhile (· ≠ '=') := by simpa using head
    have present : part.contains '=' = true := by
      by_contra missing
      have none : part.count '=' = 0 := List.count_eq_zero.mpr (by simpa using missing)
      rw [none] at size
      exact several (List.length_eq_zero_iff.mp (by simpa using size))
    subst key_eq
    change (if nameOf part = "" then none else some (nameOf part, Text.strip (valueOf part))) = _
    rw [present]
    by_cases empty : nameOf part = ""
    · rw [if_pos empty, if_neg fun named => named.2 empty]
    · rw [if_neg empty, if_pos ⟨rfl, empty⟩]

/-- A field is the last part that names it, without the white space around. -/
theorem lookup_filterMap {name : String} (named : name ≠ "") : ∀ parts : List (List Char),
    (parts.filterMap keyValue).lookup name = ((parts.find? (isField name)).map valueOf).map Text.strip
  | [] => rfl
  | part :: rest => by
    rw [List.filterMap_cons, keyValue_eq, List.find?_cons]
    have others := lookup_filterMap named rest
    cases own : isField name part with
    | true =>
      obtain ⟨present, same⟩ := Bool.and_eq_true_iff.mp own
      have same : nameOf part = name := of_decide_eq_true same
      rw [if_pos ⟨present, same ▸ named⟩, same, List.lookup_cons_self]
      rfl
    | false =>
      by_cases kept : part.contains '=' = true ∧ nameOf part ≠ ""
      · have other : name ≠ nameOf part := by
          rintro rfl
          rw [isField, kept.1, decide_eq_true rfl] at own
          cases own
        rw [if_pos kept, List.lookup_cons, beq_false_of_ne other]
        exact others
      · rw [if_neg kept]
        exact others

theorem lookup_decision {block : List Char} {tag : String} {fields : List (String × String)}
    (read : readBlock block = some (tag, fields)) :
    fields.lookup "decision" = (writtenDecision block).map Text.strip := by
  unfold readBlock at read
  obtain ⟨found, tagged, same⟩ := Option.map_eq_some_iff.mp read
  have parts : fields = ((partsOf block).reverse.filterMap keyValue) := by
    rw [← (Prod.mk.inj same).2, parseKeyValues, partsOf, tagged, Option.bind_some]
    cases shlexFrom .blank [] (found.2.dropWhile Text.isSpace) with
    | none => rfl
    | some parts => exact List.filterMap_reverse.symm
  rw [parts, lookup_filterMap (by decide)]
  rfl

end Fields

section Extraction

variable [Platform]

/-- Extraction takes the first block with a signal other than `accept`, else the first that accepts. -/
theorem extractFrom_eq : ∀ (accepted : Option (List Char)) (lines : List (List Char)),
    extractFrom accepted lines =
      ((blocksOf lines).find? fun block => signals block && !accepts block).or
        (accepted.or ((blocksOf lines).find? fun block => signals block && accepts block))
  | accepted, [] => by simp [extractFrom, blocksOf]
  | accepted, line :: rest => by
    rw [extractFrom, blocksOf]
    dsimp only
    by_cases tagged : isTagLine (Text.stripChars line) = true
    · rw [if_neg (by simpa using tagged), if_pos tagged, List.find?_cons, List.find?_cons]
      generalize ['\n'].intercalate (Text.stripChars line :: continuationLines rest) = block
      cases read : readBlock block with
      | none =>
        have silent : signals block = false := by rw [signals, read]
        rw [silent]
        exact extractFrom_eq accepted rest
      | some found =>
        obtain ⟨tag, fields⟩ := found
        have signal : signals block = true ↔ actionOf tag fields ∈ ["accept", "done", "blocker", "progress"] ∨
            fields.lookup "decision" = some "approve" ∨ fields.lookup "decision" = some "reject" := by
          rw [signals, read]
          simp only [Bool.or_eq_true, decide_eq_true_eq, or_assoc]
        have accept : accepts block = true ↔ actionOf tag fields = "accept" := by
          rw [accepts, read]
          exact decide_eq_true_iff
        dsimp only
        cases seen : signals block with
        | false =>
          rw [if_neg (mt signal.mpr (by simp [seen]))]
          exact extractFrom_eq accepted rest
        | true =>
          rw [if_pos (signal.mp seen)]
          cases known : accepts block with
          | false =>
            rw [if_pos (mt accept.mpr (by simp [known]))]
            rfl
          | true =>
            rw [if_neg (not_not.mpr (accept.mp known)), extractFrom_eq (accepted.or (some block)) rest]
            cases accepted <;> rfl
    · rw [if_pos (by simpa using tagged), if_neg tagged]
      exact extractFrom_eq accepted rest

variable {text : String} {block : List Char}

/-- The extracted block is the one that leads the blocks of the text. -/
theorem extract_iff : extractAgentReportBlock text = some block ↔
    ∃ before after, blocks text = before ++ block :: after ∧ Leads before block after := by
  rw [extractAgentReportBlock, extractFrom_eq, ← blocks, Option.none_or, Option.or_eq_some_iff]
  constructor
  · rintro (found | ⟨none, found⟩)
    · obtain ⟨strong, before, after, located, weaker⟩ := List.find?_eq_some_iff_append.mp found
      obtain ⟨signal, other⟩ := Bool.and_eq_true_iff.mp strong
      have other : accepts block = false := by simpa using other
      refine ⟨before, after, located, signal, fun earlier member seen => ⟨?_, other⟩, ?_⟩
      · simpa [seen] using weaker earlier member
      · rw [other]
        exact fun accept => absurd accept (by decide)
    · obtain ⟨weak, before, after, located, silent⟩ := List.find?_eq_some_iff_append.mp found
      obtain ⟨signal, accept⟩ := Bool.and_eq_true_iff.mp weak
      have accepting : ∀ earlier ∈ blocks text, signals earlier = true → accepts earlier = true := by
        intro earlier member seen
        simpa [seen] using List.find?_eq_none.mp none earlier member
      rw [located] at accepting
      refine ⟨before, after, located, signal, fun earlier member seen => ?_, fun _ later member => ?_⟩
      · have quiet := silent earlier member
        rw [seen, accepting earlier (List.mem_append_left _ member) seen] at quiet
        cases quiet
      · exact accepting later (List.mem_append_right _ (List.mem_cons_of_mem _ member))
  · rintro ⟨before, after, located, leads⟩
    cases known : accepts block with
    | false =>
      refine .inl (List.find?_eq_some_iff_append.mpr ⟨by simp [leads.signal, known], before, after, located, ?_⟩)
      intro earlier member
      cases seen : signals earlier with
      | false => rfl
      | true => rw [(leads.first earlier member seen).1]; rfl
    | true =>
      have silent : ∀ earlier ∈ before, signals earlier = false := by
        intro earlier member
        by_contra seen
        have other := (leads.first earlier member (by simpa using seen)).2
        rw [known] at other
        cases other
      refine .inr ⟨List.find?_eq_none.mpr fun other member => ?_,
        List.find?_eq_some_iff_append.mpr ⟨by simp [leads.signal, known], before, after, located, ?_⟩⟩
      · rw [located] at member
        obtain earlier | here := List.mem_append.mp member
        · simp [silent other earlier]
        · obtain rfl | later := List.mem_cons.mp here
          · simp [known]
          · cases seen : signals other with
            | false => simp
            | true => simp [leads.waits known other later seen]
      · intro earlier member
        simp [silent earlier member]

end Extraction

section Parsing

variable [Platform] {text : String} {block : List Char}

/-- A block with a signal can be read. -/
theorem readBlock_of_signals (signal : signals block = true) :
    ∃ tag fields, readBlock block = some (tag, fields) := by
  unfold signals at signal
  split at signal
  · cases signal
  · rename_i tag fields read
    exact ⟨tag, fields, read⟩

/-- `str.lower` leaves the small letters of ASCII alone. -/
def KeepsSmallLetters : Prop :=
  ∀ c : Char, c.isLower = true → Platform.lower c = String.ofList [c]

/-- The decision as the parser takes it from the fields. -/
theorem decision_eq {tag : String} {fields : List (String × String)}
    (read : readBlock block = some (tag, fields)) :
    (let decision := lowerText ((fields.lookup "decision").getD "")
      if decision = "approve" ∨ decision = "reject" then some decision else none) = decisionOf block := by
  rw [lookup_decision read, decisionOf]
  cases writtenDecision block with
  | none =>
    have empty : lowerText "" = "" := rfl
    simp [empty]
  | some written => simp only [Option.map_some, Option.getD_some, Option.bind_some, readDecision]

omit [Platform] in
theorem join_chars : ∀ cs : List Char, Text.join "" (cs.map fun c => String.ofList [c]) = String.ofList cs
  | [] => rfl
  | [c] => rfl
  | c :: d :: rest => by
    have others := join_chars (d :: rest)
    simp only [List.map_cons, Text.join] at others ⊢
    rw [others, String.append_empty, ← String.ofList_append, List.singleton_append]

theorem lowerText_eq_self (keeps : KeepsSmallLetters) {word : String}
    (small : word.toList.all Char.isLower = true) : lowerText word = word := by
  have letters : word.toList.map Platform.lower = word.toList.map fun c => String.ofList [c] :=
    List.map_congr_left fun c member => keeps c (List.all_eq_true.mp small c member)
  rw [lowerText, letters, join_chars, String.ofList_toList]

/-- The workspace and the task of a report: its own, or those of the caller. -/
def identify (fields : List (String × String)) (fallbackWorkspaceId fallbackTaskId : Option String) :
    Option (String × String) :=
  match present fields "workspace_id", present fields "task_id" with
  | some workspaceId, some taskId => some (workspaceId, taskId)
  | _, _ => do
    let workspaceId ← fallbackWorkspaceId.filter (· ≠ "")
    let taskId ← fallbackTaskId.filter (· ≠ "")
    return ((present fields "workspace_id").getD workspaceId, (present fields "task_id").getD taskId)

/-- What the parser makes of an extracted block. -/
theorem parseAgentReport_eq {tag : String} {fields : List (String × String)}
    (found : extractAgentReportBlock text = some block) (read : readBlock block = some (tag, fields))
    (fallbackWorkspaceId fallbackTaskId : Option String) :
    parseAgentReport text fallbackWorkspaceId fallbackTaskId =
      let action := if (decisionOf block).isSome then "review_decision" else actionOf tag fields
      if action ∈ ["accept", "done", "blocker", "progress", "review_decision"] then
        (identify fields fallbackWorkspaceId fallbackTaskId).map fun (workspaceId, taskId) =>
          ⟨action, workspaceId, taskId, fields.lookup "reason", fields.lookup "summary", decisionOf block⟩
      else none := by
  have filled : text ≠ "" := by
    rintro rfl
    cases found
  rw [← decision_eq read]
  unfold parseAgentReport identify
  rw [if_neg filled, found]
  simp only [Option.bind_eq_bind, Option.bind_some, read]
  generalize lowerText ((fields.lookup "decision").getD "") = decision
  have known : ((if decision = "approve" ∨ decision = "reject" then some decision else none).isSome = true) ↔
      (decision = "approve" ∨ decision = "reject") := by
    split <;> simp [*]
  simp only [known]
  generalize (if decision = "approve" ∨ decision = "reject" then "review_decision" else actionOf tag fields) = action
  by_cases allowed : action ∈ ["accept", "done", "blocker", "progress", "review_decision"]
  · rw [if_neg (not_not.mpr allowed), if_pos allowed]
    cases present fields "workspace_id" with
    | none => exact Option.map_eq_bind.symm
    | some workspaceId =>
      cases present fields "task_id" with
      | none => exact Option.map_eq_bind.symm
      | some taskId => rfl
  · rw [if_pos allowed, if_neg allowed]
    rfl

omit [Platform] in
theorem identify_isSome (fields : List (String × String)) {workspaceId taskId : String}
    (workspace : workspaceId ≠ "") (task : taskId ≠ "") :
    (identify fields (some workspaceId) (some taskId)).isSome = true := by
  unfold identify
  split
  · rfl
  · simp [Option.filter, workspace, task]

end Parsing

section Agreement

variable [Platform]

/-- Extraction and parsing agree on a text: a block with a decision is the one that is extracted, and the
parser reads of the extracted block the decision it carries, if the report can be attributed. -/
structure Agrees (text : String) : Prop where
  kept : ∀ block ∈ blocks text, decisionOf block ≠ none → extractAgentReportBlock text = some block
  read : ∀ block, extractAgentReportBlock text = some block → ∀ workspaceId taskId report,
    parseAgentReport text workspaceId taskId = some report → report.decision = decisionOf block
  heard : ∀ block, extractAgentReportBlock text = some block → ∀ workspaceId taskId, workspaceId ≠ "" →
    taskId ≠ "" → ∃ report, parseAgentReport text (some workspaceId) (some taskId) = some report

/-- A block with a decision leads the blocks of its text. -/
def DecisionsLead (text : String) : Prop :=
  ∀ block ∈ blocks text, decisionOf block ≠ none →
    ∃ before after, blocks text = before ++ block :: after ∧ Leads before block after

variable {text : String} {block : List Char}

theorem parsed_decision (found : extractAgentReportBlock text = some block) {workspaceId taskId : Option String}
    {report : Report} (parsed : parseAgentReport text workspaceId taskId = some report) :
    report.decision = decisionOf block := by
  obtain ⟨before, after, -, leads⟩ := extract_iff.mp found
  obtain ⟨tag, fields, read⟩ := readBlock_of_signals leads.signal
  rw [parseAgentReport_eq found read] at parsed
  dsimp only at parsed
  generalize (if (decisionOf block).isSome = true then "review_decision" else actionOf tag fields) = action at parsed
  split at parsed
  · obtain ⟨ids, -, rfl⟩ := Option.map_eq_some_iff.mp parsed
    rfl
  · cases parsed

theorem extracted_heard (keeps : KeepsSmallLetters) (found : extractAgentReportBlock text = some block)
    {workspaceId taskId : String} (workspace : workspaceId ≠ "") (task : taskId ≠ "") :
    ∃ report, parseAgentReport text (some workspaceId) (some taskId) = some report := by
  obtain ⟨before, after, -, leads⟩ := extract_iff.mp found
  obtain ⟨tag, fields, read⟩ := readBlock_of_signals leads.signal
  have signal := leads.signal
  rw [signals, read] at signal
  simp only [Bool.or_eq_true, decide_eq_true_eq] at signal
  have exact : ∀ word, word = "approve" ∨ word = "reject" → fields.lookup "decision" = some word →
      decisionOf block = some word := by
    intro word decision present
    have small : lowerText word = word := by
      refine lowerText_eq_self keeps ?_
      obtain rfl | rfl := decision <;> decide
    rw [← decision_eq read, present]
    simp only [Option.getD_some, small, decision, if_true]
  rw [parseAgentReport_eq found read]
  dsimp only
  have allowed : (if (decisionOf block).isSome = true then "review_decision" else actionOf tag fields) ∈
      ["accept", "done", "blocker", "progress", "review_decision"] := by
    cases decided : decisionOf block with
    | some decision => simp
    | none =>
      obtain (action | approved) | rejected := signal
      · exact List.mem_append_left ["review_decision"] action
      · rw [exact "approve" (.inl rfl) approved] at decided
        cases decided
      · rw [exact "reject" (.inr rfl) rejected] at decided
        cases decided
  rw [if_pos allowed]
  obtain ⟨ids, identified⟩ := Option.isSome_iff_exists.mp (identify_isSome fields workspace task)
  rw [identified]
  exact ⟨_, rfl⟩

/-- **Extraction and parsing agree on a text exactly if its decisions lead its blocks.** -/
theorem agreement_iff (keeps : KeepsSmallLetters) : Agrees text ↔ DecisionsLead text := by
  constructor
  · intro agrees block member decided
    exact extract_iff.mp (agrees.kept block member decided)
  · intro lead
    refine ⟨fun block member decided => extract_iff.mpr (lead block member decided), ?_, ?_⟩
    · intro block found workspaceId taskId report parsed
      exact parsed_decision found parsed
    · intro block found workspaceId taskId workspace task
      exact extracted_heard keeps found workspace task

end Agreement

namespace Sample

open Coordinate.Sample

/-- A review whose decision is written with a capital letter. -/
def review : String := "Reviewed.\n[agent-report] decision=Approve\n"

def lowerReview : String := "Reviewed.\n[agent-report] decision=approve\n"

theorem keepsSmallLetters : KeepsSmallLetters := by
  intro c small
  have same : c.toLower = c := by
    have above : 'a'.val ≤ c.val := of_decide_eq_true (Bool.and_eq_true_iff.mp small).1
    delta Char.toLower
    rw [dif_neg]
    rintro ⟨-, below⟩
    exact absurd (UInt32.le_trans above below) (by decide)
  change String.ofList [c.toLower] = String.ofList [c]
  rw [same]

/-- The same review with a small letter is extracted and read. -/
theorem small_decision_agrees : Agrees lowerReview := by
  refine (agreement_iff keepsSmallLetters).mpr fun block member _ => ⟨[], [], ?_⟩
  have only : blocks lowerReview = ["[agent-report] decision=approve".toList] := by decide
  rw [only] at member ⊢
  obtain rfl := List.mem_singleton.mp member
  exact ⟨rfl, by decide, List.forall_mem_nil _, fun _ => List.forall_mem_nil _⟩

/-- The parser would read the decision of the block, and the block is not extracted. -/
theorem capital_decision_dropped :
    ∃ block ∈ blocks review, decisionOf block = some "approve" ∧ extractAgentReportBlock review = none ∧
      parseAgentReport review (some "w") (some "t") = none :=
  ⟨"[agent-report] decision=Approve".toList, by decide, by decide, by decide, by decide⟩

end Sample

end Coordinate.AgentReport
