import Coordinate.Model.Agents

/-! # The coordinator as a system of calls

A call runs on a connection of its own: what it does not commit is gone when the connection is
closed. In a sequential run every call reads the store that it finds. In an interleaved run the
reads before its transaction may see any earlier store, because other calls commit in between.
Between calls an administrator may replace the configuration.
-/

namespace Coordinate

variable [Platform]

/-- The transactional operations on the coordinator store. -/
inductive Call where
  | submit (request : SubmitRequest)
  | claim (request : ClaimRequest)
  | renew (leaseId jobId : String) (attemptToken : Int) (agentId : String) (ttlSeconds : Int)
  | progress (request : ProgressReport)
  | report (request : ResultReport)
  | reapDue (actor : String) (supplied : Option Nat) (batchSize : Nat)
  | reapExact (leaseId jobId actor : String) (supplied : Option String)
  | cancel (jobId : String) (reason : Option String) (actor : String)
  | retry (jobId : String) (reason : Option String) (actor : String)
  | deactivate (request : Deactivation)
  | register (registration : Registration)
  | heartbeat (agentId hostId actor : String)
  | syncCatalog (catalog : ExecutorCatalog)

/-- What a call returns. -/
inductive Response where
  | submitted (result : RuntimeRequestResult)
  | claimed (result : RuntimeClaimResult)
  | renewed (result : RenewResult)
  | progressed (result : RuntimeProgressResult)
  | reported (result : RuntimeReportResult)
  | reaped (summary : ReapSummary)
  | expired (outcome : ReapOutcome)
  | cancelled (result : CancelJobResult)
  | retried (result : RetryJobResult)
  | deactivated (result : DeactivateResult)
  | registered (event : EventDict)
  | synced (changed : Bool)

def Call.run : Call → DbTx Response
  | submit request => Response.submitted <$> submitRequest request
  | claim request => Response.claimed <$> claimJob request
  | renew leaseId jobId attemptToken agentId ttlSeconds =>
    Response.renewed <$> renewManagedLease leaseId jobId attemptToken agentId ttlSeconds
  | progress request => Response.progressed <$> recordJobProgress request
  | report request => Response.reported <$> reportJobResult request
  | reapDue actor supplied batchSize => Response.reaped <$> reapDueLeases actor supplied batchSize
  | reapExact leaseId jobId actor supplied =>
    Response.expired <$> reapExactLease leaseId jobId actor supplied
  | cancel jobId reason actor => Response.cancelled <$> cancelJob jobId reason actor
  | retry jobId reason actor => Response.retried <$> retryJob jobId reason actor
  | deactivate request => Response.deactivated <$> deactivateAgent request
  | register registration => Response.registered <$> registerAgent registration
  | heartbeat agentId hostId actor => Response.registered <$> heartbeatAgent agentId hostId actor
  | syncCatalog catalog => Response.synced <$> syncExecutorCatalog catalog

/-- How a call ends: its response or its exception, and the connection at its end. -/
abbrev Outcome := EStateM.Result Exn (Session Db) Response

/-- Run a call on a fresh connection whose reads outside a transaction see `view`. -/
def Call.outcome (call : Call) (work : Work Db) (view : Db) : Outcome :=
  call.run.run (Session.connect work view)

/-- The state that a call leaves to the next one. -/
def Call.after (call : Call) (work : Work Db) (view : Db) : Work Db :=
  (call.outcome work view).final.settle

/-- A change of configuration: every table that the calls above write jobs, attempts or records in
stays as it is. -/
structure Configures (s t : Db) : Prop where
  jobs : t.jobs = s.jobs
  leases : t.leases = s.leases
  events : t.events = s.events
  deliveries : t.deliveries = s.deliveries
  usage : t.usage = s.usage

/-- One step of a sequential run. -/
inductive Step : Work Db → Work Db → Prop
  | call {work : Work Db} (call : Call) : Step work (call.after work work.store)
  | configure {work : Work Db} (store : Db) (configures : Configures work.store store) :
    Step work { work with store }

/-- An interleaved run so far: its state, and the stores that earlier reads may have seen. -/
structure History where
  work : Work Db
  earlier : List Db

/-- The stores of a run, the current one first. -/
def History.stores (history : History) : List Db :=
  history.work.store :: history.earlier

/-- One step of an interleaved run. -/
inductive InterleavedStep : History → History → Prop
  | call {history : History} (call : Call) (view : Db) (seen : view ∈ history.stores) :
    InterleavedStep history ⟨call.after history.work view, history.stores⟩
  | configure {history : History} (store : Db)
      (configures : Configures history.work.store store) :
    InterleavedStep history ⟨{ history.work with store }, history.stores⟩

/-- The state right after the migrations. -/
def initialWork : Work Db := ⟨Db.empty, 0, 0⟩

def initialHistory : History := ⟨initialWork, []⟩

/-- The states of sequential runs. -/
def Reachable (work : Work Db) : Prop :=
  Relation.ReflTransGen Step initialWork work

/-- The histories of interleaved runs. -/
def InterleavedReachable (history : History) : Prop :=
  Relation.ReflTransGen InterleavedStep initialHistory history

/-- A sequential run of the calls of a list. -/
def runCalls (work : Work Db) : List Call → Work Db
  | [] => work
  | call :: rest => runCalls (call.after work work.store) rest

theorem steps_runCalls (calls : List Call) (work : Work Db) :
    Relation.ReflTransGen Step work (runCalls work calls) := by
  induction calls generalizing work with
  | nil => exact .refl
  | cons call rest ih => exact (ih _).head (.call call)

/-- Every call extends the store that it found. -/
theorem Call.after_grows (call : Call) (work : Work Db) (view : Db) :
    work.store.Grows (call.after work view).store :=
  Tx.settle_extends call.run work view

omit [Platform] in
theorem Configures.grows {s t : Db} (configures : Configures s t) : s.Grows t :=
  .of_eq configures.events configures.deliveries configures.usage configures.jobs configures.leases

theorem Step.grows {work next : Work Db} (step : Step work next) : work.store.Grows next.store := by
  cases step with
  | call call => exact call.after_grows work work.store
  | configure store configures => exact configures.grows

theorem InterleavedStep.grows {history next : History} (step : InterleavedStep history next) :
    history.work.store.Grows next.work.store := by
  cases step with
  | call call view => exact call.after_grows history.work view
  | configure store configures => exact configures.grows

/-- Nothing that was recorded is lost in a run. -/
theorem grows_of_run {work later : Work Db} (steps : Relation.ReflTransGen Step work later) :
    work.store.Grows later.store := by
  induction steps with
  | refl => exact .refl _
  | tail _ step grown => exact grown.trans step.grows

theorem grows_of_steps {history later : History}
    (steps : Relation.ReflTransGen InterleavedStep history later) :
    history.work.store.Grows later.work.store := by
  induction steps with
  | refl => exact .refl _
  | tail _ step grown => exact grown.trans step.grows

/-- Every store of a run is one that the current store extends. -/
theorem InterleavedReachable.stores_grow {history : History}
    (reachable : InterleavedReachable history) :
    ∀ view ∈ history.stores, view.Grows history.work.store := by
  induction reachable with
  | refl =>
    intro view seen
    rw [List.mem_singleton.mp seen]
    exact .refl _
  | tail _ step grown =>
    have extends' := step.grows
    cases step with
    | call call view seen =>
      rintro store (_ | ⟨_, old⟩)
      · exact .refl _
      · exact (grown store old).trans extends'
    | configure store configures =>
      rintro store (_ | ⟨_, old⟩)
      · exact .refl _
      · exact (grown store old).trans extends'

/-- The clock of a run never goes back. -/
theorem Call.after_advances (call : Call) (work : Work Db) (view : Db) :
    work.tick ≤ (call.after work view).tick :=
  Tx.settle_advances call.run work view

theorem Step.advances {work next : Work Db} (step : Step work next) : work.tick ≤ next.tick := by
  cases step with
  | call call => exact call.after_advances work work.store
  | configure => exact Nat.le_refl _

theorem advances_of_run {work later : Work Db} (steps : Relation.ReflTransGen Step work later) :
    work.tick ≤ later.tick := by
  induction steps with
  | refl => exact Nat.le_refl _
  | tail _ step before => exact before.trans step.advances

/-- A property of stores that each step of a sequential run preserves holds of every store
reached. -/
theorem Reachable.induct {P : Db → Prop} (initial : P Db.empty)
    (call : ∀ (call : Call) (work : Work Db), P work.store → P (call.after work work.store).store)
    (configure : ∀ s t : Db, Configures s t → P s → P t) {work : Work Db}
    (reachable : Reachable work) : P work.store := by
  induction reachable with
  | refl => exact initial
  | tail _ step holds =>
    cases step with
    | call next => exact call next _ holds
    | configure store configures => exact configure _ _ configures holds

end Coordinate
