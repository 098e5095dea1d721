import Coordinate.Model.Store

/-! # Discord embeds

`discord_rendering.py`. An exception anywhere on the way leaves an event without an embed, so a step that may
raise has no result. The colours and the texts that do not depend on an event are those of the module.
-/

namespace Coordinate.DiscordRendering

def MAX_TITLE : Nat := 256
def MAX_FIELD_NAME : Nat := 256
def MAX_FIELD_VALUE : Nat := 1024
def MAX_TOTAL : Nat := 6000

def GREEN : Nat := 0x57F287
def YELLOW : Nat := 0xFEE75C
def RED : Nat := 0xED4245
def BLUE : Nat := 0x5865F2
def GREY : Nat := 0x99AAB5

/-- `_STYLING`. -/
def STYLING : List (String × String × Nat) :=
  [("agent.reported", "🚧 Agent 汇报", YELLOW),
    ("assignment.accepted", "🚀 任务已接收", GREEN),
    ("assignment.requested", "📌 任务已分配", BLUE),
    ("blocker.raised", "🛑 任务阻塞", RED),
    ("blocker.resolved", "✅ 阻塞已解除", GREEN),
    ("closeout.requested", "🔍 请求 Closeout", BLUE),
    ("handoff.requested", "🤝 请求交接", BLUE),
    ("harness.mutation_failed", "⚠️ Harness 操作失败", RED),
    ("issue.spotted", "🧭 GitHub Issue 候选", BLUE),
    ("job.completed", "✅ Job 完成", GREEN),
    ("job.failed", "❌ Job 失败", RED),
    ("plan.ready", "📋 计划就绪", YELLOW),
    ("plan.approved", "✅ 计划已批准", GREEN),
    ("plan.rejected", "❌ 计划被拒绝", RED),
    ("plan.review_requested", "🔍 请求计划审核", YELLOW),
    ("worker.handoff.prepared", "🤝 Worker 交接", BLUE),
    ("task_mirror.created", "🪞 任务已同步", YELLOW),
    ("task_mirror.updated", "🚧 任务状态更新", YELLOW),
    ("reconciliation.completed", "🔄 状态同步", GREY),
    ("task.done", "🏁 任务完成", GREEN),
    ("review.completed", "🔍 审核完成", BLUE),
    ("pr.linked", "🔗 PR 已关联", YELLOW),
    ("pr.created", "✨ PR 已创建", GREEN),
    ("push.required", "📤 需要 Push", YELLOW),
    ("publish.blocked", "🛑 Publish 被拦截", RED),
    ("ci.failed", "❌ CI 失败", RED),
    ("ci.passed", "✅ CI 通过", GREEN),
    ("pr_review.approved", "✅ PR 审核通过", GREEN),
    ("pr_review.changes_requested", "📝 PR 需要修改", RED),
    ("pr_review.required", "🔍 需要 PR 审核", BLUE),
    ("progress.reported", "🚧 任务进度", YELLOW)]

/-- The field names of the templates. -/
inductive FieldName where
  | action | actor | agent | assignedBy | base | bootstrap | branch | commit | created | decision | exitCode
  | failedChecks | sender | head | job | labels | logs | operation | owner | phase | plan | pr | project | reason
  | remote | remoteSha | repo | reported | reviewer | role | session | summary | target | task | title | trust
  | unchanged | updated
deriving DecidableEq, Repr

/-- `_FIELD_LABELS.get(name, name)`. -/
def FieldName.label : FieldName → String
  | action => "⚙️ 动作"
  | actor => "👤 操作者"
  | agent => "🤖 执行者"
  | assignedBy => "📨 分配人"
  | base => "Base"
  | bootstrap => "🧭 Bootstrap"
  | branch => "🌿 分支"
  | commit => "Commit"
  | created => "➕ 新增"
  | decision => "✅ 结论"
  | exitCode => "🚪 退出码"
  | failedChecks => "❌ 失败检查"
  | sender => "📤 来源"
  | head => "Head"
  | job => "🧰 Job"
  | labels => "🏷️ 标签"
  | logs => "📜 日志"
  | operation => "🛠️ 操作"
  | owner => "👤 负责人"
  | phase => "🚦 阶段"
  | plan => "📄 计划文档"
  | pr => "🔗 PR"
  | project => "📁 项目"
  | reason => "🧱 原因"
  | remote => "Remote"
  | remoteSha => "Remote SHA"
  | repo => "Repo"
  | reported => "Reported"
  | reviewer => "🔍 审核人"
  | role => "🎭 角色"
  | session => "🧵 会话"
  | summary => "📝 摘要"
  | target => "🎯 目标"
  | task => "📌 任务"
  | title => "🏷️ 标题"
  | trust => "🔒 信任边界"
  | unchanged => "➖ 未变"
  | updated => "🔄 更新"

/-- `_VALUE_LABELS`. -/
def VALUE_LABELS : List (String × String) :=
  [("accept", "已接收"), ("approved", "通过"), ("blocked", "阻塞"), ("blocker", "阻塞"),
    ("changes_requested", "需要修改"), ("closed", "已关闭"), ("closeout_requested", "等待 closeout"),
    ("done", "完成"), ("failed", "失败"), ("pass", "通过"), ("passed", "通过"), ("pending", "等待中"),
    ("progress", "进度"), ("ready", "就绪"), ("ready_for_worker", "可交给 worker"), ("rejected", "拒绝"),
    ("review_approved", "审核通过"), ("running", "运行中"), ("worker", "worker")]

structure Field where
  name : String
  value : String
  isInline : Bool
deriving DecidableEq, Repr

structure Embed where
  title : String
  color : Nat
  fields : List Field
  footer : Option String
deriving DecidableEq, Repr

/-- `_truncate`. -/
def truncate (text : String) (limit : Nat) : String :=
  let text := Text.collapseSpaces text
  if text.length ≤ limit then text else Text.takePrefix text (limit - 3) ++ "..."

/-- `_display_value`. -/
def displayValue (name : FieldName) (value : Json) : String :=
  let text := value.pyStr
  if name = .action ∨ name = .decision ∨ name = .phase then (VALUE_LABELS.lookup text).getD text else text

/-- The arguments of a call of `_field` in a template. -/
structure Candidate where
  name : FieldName
  value : Json
  isInline : Bool := true
deriving DecidableEq, Repr

/-- `_field`. -/
def field (candidate : Candidate) : Option Field :=
  if candidate.value = .null ∨ candidate.value = .str "" then none
  else some ⟨truncate candidate.name.label MAX_FIELD_NAME,
    truncate (displayValue candidate.name candidate.value) MAX_FIELD_VALUE, candidate.isInline⟩

def fieldsTotal (fields : List Field) : Nat :=
  (fields.map fun field => field.name.length + field.value.length).sum

/-- `_embed_total`. -/
def embedTotal (embed : Embed) : Nat :=
  embed.title.length + (embed.footer.map String.length).getD 0 + fieldsTotal embed.fields

section Templates

/-- `payload.get(key)`, which a payload that is no dictionary does not have. -/
def lookup (payload : Json) (key : String) : Option Json :=
  if payload.isObj then some (payload.get key) else none

/-- `payload.get(key, default)`. -/
def lookupOr (payload : Json) (key : String) (default : Json) : Option Json :=
  if payload.isObj then some ((payload.field? key).getD default) else none

/-- `value or other`, where the other is evaluated only if it counts. -/
def orElse (value : Option Json) (other : Option Json) : Option Json :=
  value.bind fun value => if value.truthy then some value else other

/-- `event.get("actor") or "operator"`. -/
def actorName (event : EventRow) : Json :=
  (Json.str event.actor).orElse (.str "operator")

/-- `_actor`. -/
def actorOf (event : EventRow) (payload : Json) : Option Json :=
  orElse (lookup payload "owner") (orElse (lookup payload "target")
    (some ((Json.ofOption event.target).orElse (actorName event))))

/-- `_build_footer`. -/
def buildFooter (event : EventRow) : Option String :=
  match (event.actor :: event.workspaceId.toList).filter (· ≠ "") with
  | [] => none
  | parts => some (Text.join " · " parts)

/-- The name of a check of `ci.failed`, if it failed; a failed check has to have a text for its name. -/
def failedCheck (check : Json) : Option (Option String) :=
  if check.isObj && check.get "status" = .str "failed" then (check.get "name").asStr?.map some else some none

/-- The values that a `for` loop over a value goes through, which has none over a number. The keys of a dictionary
and the characters of a text are texts. -/
def iterated : Json → Option (List Json)
  | .arr items => some items
  | .obj fields => some (fields.map fun entry => .str entry.1)
  | .str text => some (text.toList.map fun c => .str (String.ofList [c]))
  | _ => none

def orNull (text : String) : Json :=
  if text = "" then .null else .str text

/-- The templates of `_build_fields`. -/
def template (eventType : String) (event : EventRow) (payload : Json) : Option (List Candidate) := do
  let get := lookup payload
  let taskId ← orElse (some (.ofOption event.taskId)) (orElse (get "task_id") (some (.str "")))
  let actor := actorName event
  let target := Json.ofOption event.target
  if eventType = "agent.reported" then
    let owner ← orElse (get "owner") (some actor)
    let action ← lookupOr payload "action" (.str "unknown")
    if action = .str "done" then
      return [⟨.task, taskId, true⟩, ⟨.agent, owner, true⟩, ⟨.summary, ← get "summary", false⟩]
    else if action = .str "blocker" then
      return [⟨.task, taskId, true⟩, ⟨.agent, owner, true⟩,
        ⟨.reason, ← orElse (get "reason") (get "summary"), false⟩]
    else if action = .str "progress" then
      return [⟨.task, taskId, true⟩, ⟨.agent, owner, true⟩, ⟨.summary, ← get "summary", false⟩]
    else return [⟨.task, taskId, true⟩, ⟨.agent, owner, true⟩, ⟨.action, action, true⟩]
  else if eventType = "assignment.accepted" then
    return [⟨.task, taskId, true⟩, ⟨.agent, ← actorOf event payload, true⟩, ⟨.session, ← get "session", true⟩]
  else if eventType = "assignment.requested" then
    return [⟨.task, taskId, true⟩, ⟨.owner, ← actorOf event payload, true⟩, ⟨.assignedBy, actor, true⟩]
  else if eventType = "blocker.raised" then
    return [⟨.task, taskId, true⟩, ⟨.agent, actor, true⟩, ⟨.reason, ← get "reason", false⟩]
  else if eventType = "blocker.resolved" then
    return [⟨.task, taskId, true⟩, ⟨.agent, actor, true⟩, ⟨.decision, ← get "decision", false⟩]
  else if eventType = "progress.reported" then
    let owner ← orElse (get "owner") (some actor)
    let summary ← orElse (get "summary") (orElse (get "content_summary") (some (.str "")))
    return [⟨.task, taskId, true⟩, ⟨.agent, owner, true⟩, ⟨.summary, summary, false⟩]
  else if eventType = "review.completed" then
    return [⟨.task, taskId, true⟩, ⟨.reviewer, ← get "reviewer", true⟩, ⟨.decision, ← get "decision", true⟩,
      ⟨.summary, ← get "summary", false⟩]
  else if eventType = "task.done" then return [⟨.task, taskId, true⟩, ⟨.agent, actor, true⟩]
  else if eventType = "closeout.requested" then
    return [⟨.task, taskId, true⟩, ⟨.agent, actor, true⟩, ⟨.reviewer, ← get "reviewer", true⟩]
  else if eventType = "worker.handoff.prepared" then
    return [⟨.task, taskId, true⟩, ⟨.target, ← orElse (get "target_agent") (some target), true⟩,
      ⟨.role, ← get "role", true⟩, ⟨.bootstrap, ← get "bootstrap_path", false⟩, ⟨.branch, ← get "branch", true⟩]
  else if eventType = "handoff.requested" then
    return [⟨.task, taskId, true⟩, ⟨.target, ← orElse (get "target") (some target), true⟩, ⟨.sender, actor, true⟩,
      ⟨.reason, ← get "reason", false⟩]
  else if eventType = "plan.ready" then
    return [⟨.task, taskId, true⟩, ⟨.target, ← orElse (get "target") (some target), true⟩,
      ⟨.title, ← get "title", false⟩, ⟨.plan, ← orElse (get "plan_doc") (get "source_plan"), false⟩]
  else if eventType = "plan.approved" then
    return [⟨.task, taskId, true⟩, ⟨.reviewer, ← orElse (get "reviewer") (some actor), true⟩,
      ⟨.plan, ← get "source_plan", false⟩]
  else if eventType = "plan.rejected" then
    return [⟨.task, taskId, true⟩, ⟨.reviewer, ← orElse (get "reviewer") (some actor), true⟩,
      ⟨.reason, ← get "reason", false⟩]
  else if eventType = "pr.linked" then
    return [⟨.task, taskId, true⟩, ⟨.pr, ← orElse (get "pr") (get "pr_url"), false⟩, ⟨.branch, ← get "branch", true⟩]
  else if eventType = "pr.created" then
    return [⟨.task, taskId, true⟩, ⟨.pr, ← orElse (get "pr") (get "pr_url"), false⟩, ⟨.repo, ← get "repo", true⟩,
      ⟨.branch, ← get "branch", true⟩, ⟨.head, ← get "head_ref", true⟩, ⟨.base, ← get "base", true⟩,
      ⟨.reported, ← get "reported_commit", true⟩, ⟨.remoteSha, ← get "remote_sha", true⟩]
  else if eventType = "push.required" then
    return [⟨.task, taskId, true⟩, ⟨.repo, ← get "repo", true⟩, ⟨.branch, ← get "branch", true⟩,
      ⟨.commit, ← get "reported_commit", true⟩, ⟨.remote, ← orElse (get "remote") (some (.str "origin")), true⟩,
      ⟨.reason, ← orElse (get "detail") (some (.str "branch not pushed")), false⟩]
  else if eventType = "publish.blocked" then
    return [⟨.task, taskId, true⟩, ⟨.reason, ← get "reason", false⟩, ⟨.repo, ← get "repo", true⟩,
      ⟨.branch, ← get "branch", true⟩, ⟨.head, ← get "head_ref", true⟩, ⟨.base, ← get "base", true⟩,
      ⟨.reported, ← get "reported_commit", true⟩, ⟨.remoteSha, ← get "remote_sha", true⟩]
  else if eventType = "ci.passed" then return [⟨.task, taskId, true⟩, ⟨.branch, ← get "branch", true⟩]
  else if eventType = "ci.failed" then
    let checks ← iterated (← orElse (get "checks") (some (.arr [])))
    let failed := Text.join ", " ((← checks.mapM failedCheck).filterMap id)
    return [⟨.task, taskId, true⟩, ⟨.branch, ← get "branch", true⟩, ⟨.failedChecks, orNull failed, false⟩]
  else if eventType ∈ ["pr_review.approved", "pr_review.changes_requested", "pr_review.required"] then
    return [⟨.task, taskId, true⟩, ⟨.branch, ← get "branch", true⟩]
  else if eventType = "job.completed" then
    return [⟨.task, taskId, true⟩, ⟨.job, ← get "job_id", true⟩, ⟨.logs, ← get "logs_path", false⟩]
  else if eventType = "job.failed" then
    let reason ← if (← get "timeout").truthy then some ("timeout " ++ (← get "timeout_seconds").pyStr ++ "s")
      else if (← get "exit_code") ≠ .null then some ("exit_code=" ++ (← get "exit_code").pyStr)
      else some "runner failed"
    return [⟨.task, taskId, true⟩, ⟨.job, ← get "job_id", true⟩, ⟨.reason, .str reason, true⟩,
      ⟨.logs, ← get "logs_path", false⟩]
  else if eventType = "harness.mutation_failed" then
    let own ← get "exit_code"
    let exitCode ← if own ≠ .null then some own
      else lookupOr (← orElse (get "mutation") (some (.obj []))) "exit_code" (.str "unknown")
    return [⟨.task, taskId, true⟩, ⟨.operation, ← get "operation", true⟩, ⟨.owner, ← actorOf event payload, true⟩,
      ⟨.exitCode, .str exitCode.pyStr, true⟩]
  else if eventType = "issue.spotted" then
    let labels ← orElse (get "labels") (some (.arr []))
    let labelText := match labels with
      | .arr items => Text.join ", " (items.map Json.pyStr)
      | other => other.pyStr
    return [⟨.project, ← orElse (get "repo") (some target), true⟩,
      ⟨.task, .str ("#" ++ (← get "number").pyStr), true⟩, ⟨.title, ← get "title", false⟩,
      ⟨.owner, ← get "author", true⟩, ⟨.labels, .str labelText, true⟩, ⟨.trust, .str "untrusted", true⟩,
      ⟨.summary, ← get "body_excerpt", false⟩]
  else if eventType ∈ ["task_mirror.created", "task_mirror.updated"] then
    return [⟨.task, taskId, true⟩, ⟨.phase, ← get "phase", true⟩, ⟨.owner, ← get "owner", true⟩,
      ⟨.branch, ← get "branch", true⟩, ⟨.pr, ← get "pr", false⟩]
  else if eventType = "reconciliation.completed" then
    let project ← orElse (get "project") (some ((Json.ofOption event.workspaceId).orElse (.str "")))
    let count (key : String) := lookupOr payload key (.int 0)
    return [⟨.project, project, true⟩, ⟨.created, .str (← count "created").pyStr, true⟩,
      ⟨.updated, .str (← count "updated").pyStr, true⟩, ⟨.unchanged, .str (← count "unchanged").pyStr, true⟩]
  else if eventType = "plan.review_requested" then
    return [⟨.task, taskId, true⟩, ⟨.title, ← get "title", false⟩]
  else return [⟨.task, taskId, true⟩, ⟨.actor, actor, true⟩]

/-- `_build_fields`. -/
def buildFields (eventType : String) (event : EventRow) (payload : Json) : Option (List Field) :=
  (template eventType event payload).map (·.filterMap field)

end Templates

/-- The styling of an event, which depends on the action of a report. -/
def stylingOf (eventType : String) (payload : Json) : Option (String × Nat) := do
  let styling ← STYLING.lookup eventType
  if eventType = "agent.reported" then
    let action ← lookupOr payload "action" (.str "")
    if action = .str "done" then return ("🎯 Agent 完成", GREEN)
    else if action = .str "blocker" then return ("🛑 Agent 阻塞", RED)
    else if action = .str "accept" then return ("🚀 Agent 已接收", BLUE)
    else if action = .str "progress" then return ("🚧 Agent 进度", YELLOW)
    else return styling
  else return styling

/-- The embed of `render_embed` before fields are dropped. -/
def draftEmbed (eventType : String) (event : EventRow) (payload : Json) : Option Embed := do
  let (title, color) ← stylingOf eventType payload
  let fields ← buildFields eventType event payload
  return { title := truncate title MAX_TITLE, color, fields, footer := buildFooter event }

/-- The loop that drops fields, the last one first, over the reversed fields. It never drops the only one. -/
def dropFields (embed : Embed) : List Field → List Field
  | [] => []
  | [field] => [field]
  | field :: next :: rest =>
    if embedTotal { embed with fields := (field :: next :: rest).reverse } > MAX_TOTAL then
      dropFields embed (next :: rest)
    else field :: next :: rest

/-- `render_embed`. -/
def renderEmbed (eventType : String) (event : EventRow) (payload : Json) : Option Embed :=
  (draftEmbed eventType event payload).map fun embed =>
    { embed with fields := (dropFields embed embed.fields.reverse).reverse }

end Coordinate.DiscordRendering
