import Coordinate.Model.Calls
import Coordinate.Model.System

/-! # The reconnect snapshot of an agent

`RuntimeInterface.reconcile_agent`: the active leases and the running jobs of an agent, read one after the
other, and the claims, reports, renewals and expiries that commit in between.
-/

namespace Coordinate

variable [Platform]

/-- `list_active_leases_for_agent`. -/
def listActiveLeasesForAgent (db : Db) (agentId : String) : Except LeaseError (List LeaseRow) := do
  let leases := sortBy (fun a b => a.acquiredAt < b.acquiredAt)
    (db.leases.filter fun lease => lease.agentId = agentId && lease.status = .active)
  leases.forM validateStoredResource
  return leases

/-- The jobs that an agent runs. -/
def runningJobsOf (db : Db) (agentId : String) : List JobRow :=
  db.jobs.filter fun job => job.assignedAgent = agentId && job.status = .running

/-- An entry of the snapshot; the lease is absent for a legacy attempt. -/
structure ReconcileEntry where
  jobId : String
  leaseId : Option String
  attemptToken : Nat
  status : String
  expiresAt : Option Nat
  serverNow : Nat
deriving DecidableEq, Repr

def leaseEntry (serverNow : Nat) (lease : LeaseRow) : ReconcileEntry :=
  ⟨lease.jobId, some lease.leaseId, lease.attemptToken, lease.status.text, some lease.expiresAt, serverNow⟩

def jobEntry (serverNow : Nat) (job : JobRow) : ReconcileEntry :=
  ⟨job.id, none, job.attemptCount, job.status.text, none, serverNow⟩

/-- The two readings joined by the id of the job. -/
def joinReadings (leases : List LeaseRow) (serverNow : Nat) (jobs : List JobRow) : List ReconcileEntry :=
  let activeLeases := leases.map (leaseEntry serverNow)
  activeLeases ++ (jobs.filter fun job => !activeLeases.any (·.jobId = job.id)).map (jobEntry serverNow)

/-- What `reconcile_agent` answers; an exception is an error envelope. -/
inductive ReconcileResult where
  | invalidRequest (message : String)
  | ok (activeLeases : List ReconcileEntry)
deriving DecidableEq, Repr

/-- `reconcile_agent`. -/
def reconcileAgent (agentId : Option String) : DbCall ReconcileResult :=
  match agentId.map Text.strip with
  | none | some "" => return .invalidRequest "agent_id is required"
  | some agent => do
    let found ← DbCall.query (listActiveLeasesForAgent · agent)
    let leases ← orRaise Exn.lease found
    let serverNow ← DbCall.clock now
    let jobs ← DbCall.query (runningJobsOf · agent)
    return .ok (joinReadings leases serverNow jobs)

/-- What another process does meanwhile. The reads of a call before its transaction see an earlier store;
`expire` is one turn of the reaper, on a row that it has read before. -/
inductive Concurrent where
  | claim (request : ClaimRequest) (view : Db)
  | report (request : ResultReport) (view : Db)
  | renew (leaseId jobId : String) (attemptToken : Int) (agentId : String) (ttlSeconds : Int)
  | expire (lease : LeaseRow) (actor : String) (current : Nat)
  | expireExact (leaseId jobId actor : String) (supplied : Option String)

/-- The state that it leaves. -/
def Concurrent.after (work : Work Db) : Concurrent → Work Db
  | claim request view => (Call.claim request).after work view
  | report request view => (Call.report request).after work view
  | renew leaseId jobId attemptToken agentId ttlSeconds =>
    (Call.renew leaseId jobId attemptToken agentId ttlSeconds).after work work.store
  | expire lease actor current =>
    ((reapCommitted lease actor current).run (Session.connect work work.store)).final.settle
  | expireExact leaseId jobId actor supplied =>
    (Call.reapExact leaseId jobId actor supplied).after work work.store

/-- Snapshots in progress, and what other processes do in between. -/
def reconciling : Machine (Pool (Option String) DbStatement (Work Db) Exn ReconcileResult ×
    List (Nat × Program.Performed DbStatement (Work Db))) (Pool.Move (Option String) Concurrent) :=
  Pool.recorded reconcileAgent fun step work => some (step.after work)

end Coordinate
