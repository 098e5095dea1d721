import Coordinate.Model.Installation
import Coordinate.Proofs.Runs

/-! # The lifecycle of a job

`JobPhase.Step` says what a job is for: it waits, its attempts run one after the other, and an outcome or a
cancellation ends it. Every transition of the queue moves each job along these steps, and so does every run.
-/

namespace Coordinate

section JobPhases

/-- How far a job has come: its status, and how many attempts it has started. -/
structure JobPhase where
  status : JobStatus
  attempts : Nat
deriving DecidableEq, Repr

/-- What may happen to a job. An attempt that timed out may be followed by another one, or its result may still
arrive late. -/
inductive JobPhase.Step : JobPhase → JobPhase → Prop
  | start {status : JobStatus} {n : Nat} (waits : status = .pending ∨ status = .timedOut) :
    Step ⟨status, n⟩ ⟨.running, n + 1⟩
  | report {status : JobStatus} {n : Nat} (outcome : ReportStatus)
      (unfinished : status = .running ∨ status = .timedOut) : Step ⟨status, n⟩ ⟨outcome.jobStatus, n⟩
  | cancel {status : JobStatus} {n : Nat} (unfinished : status.isFinal = false) : Step ⟨status, n⟩ ⟨.cancelled, n⟩

/-- The phases that a phase leads to. -/
def JobPhase.Leads : JobPhase → JobPhase → Prop := Relation.ReflTransGen JobPhase.Step

/-- The phase of a job that has just been created. -/
def JobPhase.fresh : JobPhase := ⟨.pending, 0⟩

namespace JobPhase

variable {p q r : JobPhase}

theorem Leads.trans (first : p.Leads q) (second : q.Leads r) : p.Leads r :=
  Relation.ReflTransGen.trans first second

theorem Step.attempts_le (step : p.Step q) : p.attempts ≤ q.attempts := by
  cases step with
  | start => exact Nat.le_succ _
  | report => exact Nat.le_refl _
  | cancel => exact Nat.le_refl _

/-- No attempt is forgotten. -/
theorem Leads.attempts_le (leads : p.Leads q) : p.attempts ≤ q.attempts := by
  induction leads with
  | refl => exact Nat.le_refl _
  | tail _ step before => exact before.trans step.attempts_le

theorem Step.unfinished (step : p.Step q) : p.status.isFinal = false := by
  cases step with
  | start waits => obtain rfl | rfl := waits <;> rfl
  | report outcome unfinished => obtain rfl | rfl := unfinished <;> rfl
  | cancel unfinished => exact unfinished

/-- Nothing happens to a job that is over. -/
theorem Leads.final (leads : p.Leads q) (final : p.status.isFinal = true) : q = p := by
  cases leads.cases_head with
  | inl same => exact same.symm
  | inr more =>
    obtain ⟨middle, step, _⟩ := more
    rw [step.unfinished] at final
    cases final

/-- The attempts of a phase fit its status: none before the first start, and some once there is an outcome. -/
def Counted (p : JobPhase) : Prop :=
  (p.status = .pending → p.attempts = 0) ∧ (p.status ≠ .pending → p.status ≠ .cancelled → 0 < p.attempts)

theorem Step.counted (step : p.Step q) (counted : p.Counted) : q.Counted := by
  cases step with
  | start => exact ⟨nofun, fun _ _ => Nat.succ_pos _⟩
  | @report status n outcome unfinished =>
    refine ⟨fun pending => ?_, fun _ _ => counted.2 ?_ ?_⟩
    · cases outcome <;> cases pending
    · obtain rfl | rfl := unfinished <;> exact nofun
    · obtain rfl | rfl := unfinished <;> exact nofun
  | cancel => exact ⟨nofun, fun _ other => absurd rfl other⟩

theorem Leads.counted (leads : fresh.Leads q) : q.Counted := by
  induction leads with
  | refl => exact ⟨fun _ => rfl, fun other => absurd rfl other⟩
  | tail _ step before => exact step.counted before

end JobPhase

end JobPhases

section Rows

/-- The phase of the row of a job. -/
def JobRow.phase (job : JobRow) : JobPhase := ⟨job.status, job.attemptCount⟩

/-- The row of a job at two times. The result of a job that is over stays. -/
structure JobRow.Evolves (old new : JobRow) : Prop where
  id : new.id = old.id
  leads : old.phase.Leads new.phase
  kept : old.status.isFinal = true → new.resultJson = old.resultJson ∧ new.completedAt = old.completedAt

namespace JobRow.Evolves

variable {a b c : JobRow}

theorem refl (job : JobRow) : job.Evolves job := ⟨rfl, .refl, fun _ => ⟨rfl, rfl⟩⟩

/-- A step of a job that is not over. -/
theorem of_step (id : b.id = a.id) (step : a.phase.Step b.phase) : a.Evolves b where
  id := id
  leads := .single step
  kept final := by
    rw [show a.status.isFinal = false from step.unfinished] at final
    cases final

theorem trans (ab : a.Evolves b) (bc : b.Evolves c) : a.Evolves c where
  id := bc.id.trans ab.id
  leads := ab.leads.trans bc.leads
  kept final := by
    have status : b.status = a.status := congrArg JobPhase.status (ab.leads.final final)
    obtain ⟨result, completed⟩ := bc.kept (status ▸ final)
    exact ⟨result.trans (ab.kept final).1, completed.trans (ab.kept final).2⟩

end JobRow.Evolves

/-- Every job of `s` evolves into one of `t`, and every job of `t` comes from one of `s` or is fresh. -/
structure Follows (s t : Db) : Prop where
  evolves : ∀ job ∈ s.jobs, ∃ row ∈ t.jobs, job.Evolves row
  origin : ∀ row ∈ t.jobs, (∃ job ∈ s.jobs, job.Evolves row) ∨ row.phase = .fresh

namespace Follows

variable {s t : Db}

theorem of_jobs (same : t.jobs = s.jobs) : Follows s t where
  evolves job member := ⟨job, same ▸ member, .refl job⟩
  origin row member := .inl ⟨row, same ▸ member, .refl row⟩

/-- A statement whose effect on each row it reaches is a step. -/
theorem of_update {p : JobRow → Bool} {f : JobRow → JobRow} (updated : s.jobs.update? p f = some t.jobs)
    (evolves : ∀ row ∈ s.jobs, p row = true → row.Evolves (f row)) : Follows s t := by
  have each : ∀ row ∈ s.jobs, row.Evolves (if p row then f row else row) := by
    intro row member
    split
    · rename_i chosen
      exact evolves row member chosen
    · exact .refl row
  constructor
  · intro job member
    exact ⟨_, (Table.mem_update? updated).mpr ⟨job, member, rfl⟩, each job member⟩
  · intro row member
    obtain ⟨job, old, rfl⟩ := (Table.mem_update? updated).mp member
    exact .inl ⟨job, old, each job old⟩

section Transitions

variable [Platform] {w w' : Work Db}

theorem created {job : NewJob} {row : JobRow} (ran : (createJob job).run w = .ok row w') :
    Follows w.store w'.store := by
  obtain ⟨jobs, path, jobId, createdAt, rfl, inserted, store, _⟩ := createJob_ok ran
  rw [store]
  constructor
  · exact fun old member => ⟨old, (Table.mem_insert? inserted).mpr (.inl member), .refl old⟩
  · intro other member
    obtain old | rfl := (Table.mem_insert? inserted).mp member
    · exact .inl ⟨other, old, .refl other⟩
    · exact .inr rfl

omit [Platform] in
/-- The compare-and-swap of a claim starts the next attempt of its candidate. -/
theorem started {recoverable : Bool} {agentId : String} {candidate : JobRow} {payload : Json} {current : Nat}
    (member : candidate ∈ s.jobs) (claimable : isClaimable recoverable agentId candidate = true)
    (updated : s.jobs.update? (isCandidate candidate)
      (startedJob (candidate.attemptCount + 1) payload current) = some t.jobs) : Follows s t := by
  refine of_update updated fun row rowMember chosen => .of_step rfl ?_
  simp only [isCandidate, Bool.and_eq_true, decide_eq_true_eq] at chosen
  have same : row = candidate := job_unique rowMember member chosen.1
  subst same
  exact .start ((isClaimable_iff.mp claimable).2.imp_right fun late => late.2.1)

/-- Every transition of the queue moves each job along its lifecycle. -/
theorem of_transition {since : Nat} (transition : Transition since s t) : Follows s t := by
  cases transition with
  | quiet same => exact of_jobs (queue_eq.mp same).1
  | created ran => exact created ran
  | @progressed w w' report job progress current result ran =>
    obtain ⟨stored, jobs, _, _, _, _, _, _, updated, store⟩ := recordJobProgressBody_ok ran
    have same : w'.store.jobs = jobs := (queue_eq.mp (queue_of_accounts store)).1
    subst same
    exact of_update updated fun row _ _ => ⟨rfl, .refl, fun _ => ⟨rfl, rfl⟩⟩
  | renewed late ran =>
    obtain ⟨_, _, _, _, _, _, _, _, _, _, _, _, store⟩ := renewManagedLeaseBody_ok ran
    exact of_jobs (congrArg (·.1.1) store)
  | @expired w w' lease actor current job member active expires =>
    obtain ⟨leases, jobs, _, updated, store⟩ := expires.activity
    have same : w'.store.jobs = jobs := congrArg (·.1.1) store
    subst same
    refine of_update updated fun row _ chosen => .of_step rfl (.report .timedOut ?_)
    simp only [isExpiring, Bool.and_eq_true, decide_eq_true_eq] at chosen
    exact .inl chosen.1.2
  | started member claimable updated => exact started member claimable updated
  | claimed selects ran =>
    obtain ⟨jobs, _, _, updated, _, _, same, _⟩ := startManagedAttempt_queue ran
    exact started selects.member selects.claimable (same ▸ updated)
  | @reported w w' report status job result usage current outcome ran =>
    obtain ⟨stored, jobs, leases, _, _, _, _, updated, _, store⟩ := reportRunningBody_activity ran
    have same : w'.store.jobs = jobs := congrArg (·.1.1) store
    subst same
    refine of_update updated fun row _ chosen => .of_step rfl (.report status ?_)
    simp only [isReporting, Bool.and_eq_true, decide_eq_true_eq] at chosen
    exact .inl chosen.1.2
  | @late w w' report status job result usage current swapped ran matched =>
    obtain ⟨stored, jobs, _, _, _, _, _, _, updated, _, rfl⟩ := swapLateJob_ok ran
    refine of_update updated fun row _ chosen => .of_step rfl (.report status ?_)
    simp only [isLate, Bool.and_eq_true, decide_eq_true_eq] at chosen
    exact .inr chosen.1.1.2
  | cancelled member freed stopped =>
    obtain ⟨_, rfl⟩ | ⟨unfinished, updated⟩ := stopped
    · exact of_jobs rfl
    · refine of_update updated fun row rowMember chosen => .of_step rfl (.cancel ?_)
      rw [job_unique rowMember member (of_decide_eq_true chosen)]
      exact unfinished

end Transitions

end Follows

/-- Every job of `s` evolves into one of `t`, whose jobs have all come from a fresh one. -/
structure Lives (s t : Db) : Prop where
  evolves : ∀ job ∈ s.jobs, ∃ row ∈ t.jobs, job.Evolves row
  born : ∀ row ∈ t.jobs, JobPhase.fresh.Leads row.phase

theorem Lives.closed [Platform] {since : Nat} {s : Db} : Closed since (Lives s) := by
  intro t u transition lives
  have follows := Follows.of_transition transition
  constructor
  · intro job member
    obtain ⟨row, rowMember, first⟩ := lives.evolves job member
    obtain ⟨next, nextMember, second⟩ := follows.evolves row rowMember
    exact ⟨next, nextMember, first.trans second⟩
  · intro next nextMember
    obtain ⟨row, member, evolves⟩ | fresh := follows.origin next nextMember
    · exact (lives.born row member).trans evolves.leads
    · rw [fresh]
      exact .refl

end Rows

/-- In every run, whatever its calls, each job keeps its identity and moves along its lifecycle: the attempts are
counted up from none, an outcome needs an attempt, and a job that is over stays as it is with its result. -/
theorem jobs_follow_lifecycle [Platform] {work later : Work Db} (reachable : Reachable work)
    (steps : Relation.ReflTransGen Step work later) :
    (∀ job ∈ work.store.jobs, ∃ row ∈ later.store.jobs, job.Continues row ∧ job.phase.Leads row.phase ∧
      job.attemptCount ≤ row.attemptCount ∧ (job.status.isFinal = true → row.phase = job.phase ∧
        row.resultJson = job.resultJson ∧ row.completedAt = job.completedAt)) ∧
    ∀ row ∈ later.store.jobs, JobPhase.fresh.Leads row.phase ∧ row.phase.Counted := by
  have empty : Lives Db.empty Db.empty :=
    ⟨fun _ member => absurd member (Table.not_mem_empty _), fun _ member => absurd member (Table.not_mem_empty _)⟩
  have born := (Lives.closed.reachable empty reachable).born
  have lives : Lives work.store later.store :=
    Lives.closed.moving.later (Nat.zero_le _) steps ⟨fun job member => ⟨job, member, .refl job⟩, born⟩
  refine ⟨fun job member => ?_, fun row member => ⟨lives.born row member, (lives.born row member).counted⟩⟩
  obtain ⟨row, rowMember, evolves⟩ := lives.evolves job member
  obtain ⟨same, sameMember, continues⟩ := (grows_of_run steps).jobs job member
  rw [job_unique sameMember rowMember (continues.id.trans evolves.id.symm)] at continues
  exact ⟨row, rowMember, continues, evolves.leads, evolves.leads.attempts_le,
    fun final => ⟨evolves.leads.final final, evolves.kept final⟩⟩

namespace Sample

/-- An attempt of an untyped agent. -/
def begun : List Call := [.submit request, .claim { agentId := "a" }]

/-- It times out, and the agent claims the job again. -/
def resumed : List Call :=
  [.report { jobId, agentId := "a", status := "timed_out", result := .obj [] },
    .claim { agentId := "a", recoverable := true }]

theorem begun_lives : ∃ job ∈ (run begun).store.jobs, job.phase = ⟨.running, 1⟩ ∧
    ∃ row ∈ (runCalls (run begun) resumed).store.jobs, job.Continues row ∧ job.phase.Leads row.phase := by
  have ran : ∃ job ∈ (run begun).store.jobs.rows, job.phase = ⟨.running, 1⟩ := by decide +kernel
  obtain ⟨job, member, first⟩ := ran
  obtain ⟨row, rowMember, continues, leads, _⟩ :=
    (jobs_follow_lifecycle (reachable_run begun) (steps_runCalls resumed _)).1 job member
  exact ⟨job, member, first, row, rowMember, continues, leads⟩

end Sample

end Coordinate
