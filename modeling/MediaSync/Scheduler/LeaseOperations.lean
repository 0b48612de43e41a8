import MediaSync.Scheduler.Claiming

/-!
# Operations on claimed and waiting jobs

The operations that present a worker and a lease token, and the control
operations that need none: resume, cancel and removal.
-/

namespace MediaSync.Scheduler

open Python Transaction SchedulerError

namespace SchedulerRepository

variable (repo : SchedulerRepository)

def ownedUpdate (jobId workerId leaseToken : String) (allowedStatuses : JobStatus → Bool)
    (values : Job → Job) (now : Time) : Session Job := do
  let updated ← updateJob jobId
    (fun db j => j.isSync && ownsLease db j workerId leaseToken allowedStatuses now) values
  match updated with
  | some job => pure job
  | none => throwLeaseFailure jobId workerId

/-- The job and lease that a worker presents, as the repository normalizes them. -/
structure Presented where
  jobId : String
  workerId : String
  leaseToken : String

/-- The three checked arguments shared by the owned operations. -/
def presented (jobId workerId leaseToken : String) : Except SchedulerError Presented := do
  let jobId ← requiredText jobId "job_id" 36
  let owner ← requiredText workerId "worker_id" 255
  let token ← requiredText leaseToken "lease_token" 36
  .ok ⟨jobId, owner, token⟩

def startedValues (now : Time) (j : Job) : Job :=
  { j with status := .running, startedAt := some now, updatedAt := now }

def start (jobId workerId leaseToken : String) (now : Time) : Session SchedulerClaim := do
  let p ← Tx.ofExcept (presented jobId workerId leaseToken)
  let _ ← getSyncJob p.jobId
  let started ← ownedUpdate p.jobId p.workerId p.leaseToken (fun s => s = .claimed)
    (startedValues now) now
  Tx.ofExcept (claimOf started)

def renewedValues (expiresAt now : Time) (j : Job) : Job :=
  { j with leaseExpiresAt := some expiresAt, updatedAt := now }

def heartbeat (jobId workerId leaseToken : String) (leaseSeconds : Int) (now : Time) :
    Session SchedulerClaim := do
  let p ← Tx.ofExcept (presented jobId workerId leaseToken)
  let lease ← Tx.ofExcept (boundedInt leaseSeconds "lease_seconds" 1 maxLeaseSeconds)
  let _ ← getSyncJob p.jobId
  let expiresAt ← Tx.ofExcept (safeAdd now lease "lease_seconds")
  let renewed ← ownedUpdate p.jobId p.workerId p.leaseToken (fun s => s = .running)
    (renewedValues expiresAt now) now
  Tx.ofExcept (claimOf renewed)

def assertOwned (jobId workerId leaseToken : String) (now : Time) : Session SchedulerClaim := do
  let p ← Tx.ofExcept (presented jobId workerId leaseToken)
  let guarded ← ownedUpdate p.jobId p.workerId p.leaseToken (fun s => s = .running) id now
  Tx.ofExcept (claimOf guarded)

/-- The run that `attach_run` replaces is terminal. -/
def previousRunTerminal (db : Db) (job : Job) (runId : String) : Bool :=
  match job.runId with
  | none => true
  | some current => current = runId || (db.runs.get? current).any (fun r =>
      some r.subscriptionId = job.subscriptionId && r.status.isTerminal)

def attachedValues (runId : String) (now : Time) (j : Job) : Job :=
  { j with runId := some runId, updatedAt := now }

def attachRun (jobId workerId leaseToken runId : String) (expectedCurrentRunId : Option String)
    (now : Time) : Session SchedulerClaim := do
  let p ← Tx.ofExcept (presented jobId workerId leaseToken)
  let runId ← Tx.ofExcept (requiredText runId "run_id" 36)
  let expected ← Tx.ofExcept (optionalIdentifier expectedCurrentRunId "expected_current_run_id")
  let _ ← assertOwned p.jobId p.workerId p.leaseToken now
  let job ← getSyncJob p.jobId
  Tx.require (job.runId = expected)
    (schedulerLeaseLostError "scheduler run attachment changed")
  let run ← getRun runId
  Tx.require (run.any (fun r => some r.subscriptionId = job.subscriptionId))
    (schedulerRepositoryError "scheduler run attachment scope is invalid")
  let terminal ← Tx.read (fun db => previousRunTerminal db job runId)
  Tx.require terminal (schedulerRepositoryError "scheduler current run is not terminal")
  let alreadyAttached ← Tx.read (fun db => db.jobs.rows.any (fun j =>
    j.id ≠ p.jobId && j.isSync && j.runId = some runId))
  Tx.require (!alreadyAttached)
    (schedulerRepositoryError "scheduler run is already attached to another job")
  Tx.modify (fun db => db.setJob p.jobId (attachedValues runId now))
  let job ← getSyncJob p.jobId
  Tx.ofExcept (claimOf job)

def validatedResultRunId (job : Job) (runId : Option String) (explicitOwnershipConflict : Bool) :
    Session (Option String) :=
  match runId with
  | none => pure none
  | some runId => do
    Tx.require (job.runId.all (fun r => r = runId))
      (schedulerRepositoryError "scheduler result run does not match its attachment")
    let run ← getRun runId
    match run with
    | none => Tx.throw (schedulerRepositoryError "scheduler result run scope is invalid")
    | some run => do
      Tx.require (some run.subscriptionId = job.subscriptionId)
        (schedulerRepositoryError "scheduler result run scope is invalid")
      Tx.require (!(job.runId.isNone && run.status = .failedTerminal &&
          run.errorCode = some "content_ownership_conflict" && !explicitOwnershipConflict))
        (schedulerRepositoryError "scheduler conflict result requires its current attachment")
      pure (some runId)

def rejectFailureForSucceededRun (job : Job) (runId : Option String) : Session Unit := do
  let run ← Tx.read (fun db => (runId <|> job.runId).bind db.runs.get?)
  Tx.require (!run.any (fun r => r.status = .succeeded))
    (schedulerRepositoryError
      "a succeeded attached run cannot be finalized as a scheduler failure")

def completedValues (runId : Option String) (now : Time) (j : Job) : Job :=
  { releaseLease j with
    status := .succeeded
    finishedAt := some now
    updatedAt := now
    lastErrorCode := none
    lastErrorMessage := none
    runId := runId <|> j.runId }

def succeed (jobId workerId leaseToken : String) (runId : Option String) (now : Time) :
    Session SchedulerJobSummary := do
  let p ← Tx.ofExcept (presented jobId workerId leaseToken)
  let runId ← Tx.ofExcept (optionalIdentifier runId "run_id")
  let observed ← getSyncJob p.jobId
  let runId ← validatedResultRunId observed runId false
  let reconciled ← reconcileOwnershipConflictAttachment repo observed now false
    (some (p.workerId, p.leaseToken)) (fun s => s = .running) none
  match reconciled with
  | some reconciled => Tx.ofExcept (summary reconciled)
  | none => do
    let completed ← ownedUpdate p.jobId p.workerId p.leaseToken (fun s => s = .running)
      (completedValues runId now) now
    applyLaneSuccess repo.uuid completed now none
    finalizeSubscription repo completed now .success true
    enqueuePipelineForSucceededRun repo completed now
    Tx.ofExcept (summary completed)

/-- The status of a job after a classified failure. -/
def failedStatus (retryable : Bool) (retryAt : Option Time) (now : Time) : JobStatus :=
  if retryable then if retryAt.any (fun t => now < t) then .retryWait else .failedRetryable
  else .failedTerminal

/-- The row values of a classified failure; the observed row is the row updated. -/
def failedValues (retry : Bool) (retryAt : Option Time) (code : String) (runId : Option String)
    (now : Time) (j : Job) : Job :=
  let retryable := retry && !attemptsExhausted j
  { releaseLease j with
    status := failedStatus retryable retryAt now
    availableAt := if retryable then retryAt.getD now else j.availableAt
    finishedAt := if retryable then none else some now
    updatedAt := now
    lastErrorCode := some code
    lastErrorMessage := none
    runId := runId <|> j.runId }

/-- The argument checks of `fail` on its code. -/
def failureClassification (code : String) (affectsCircuit : Option Bool) (retryAt : Option Time) :
    Except SchedulerError FailureClassification := do
  let code ← requiredText code "error_code" 128
  if isFixedCode code = false then
    .error (valueError "error_code is outside the closed scheduler vocabulary")
  else
    let c := classifyFailure code
    if c.code ≠ code ∨ c.disposition = .waitingAuth ∨ c.disposition = .waitingUser then
      .error (valueError "fail requires a closed retry or terminal error code")
    else if affectsCircuit.any (fun a => a ≠ c.affectsCircuit) then
      .error (valueError "affects_circuit must match the closed failure classification")
    else if retryAt.isSome ∧ c.disposition ≠ .retry then
      .error (valueError "retry_at is valid only for a retryable failure")
    else .ok c

/-- Only a terminal failure closes the cycle. -/
def finalizeFailed (failed : Job) (now : Time) : Session Unit :=
  if failed.status = .failedTerminal then finalizeSubscription repo failed now .failure true
  else pure ()

def fail (jobId workerId leaseToken errorCode : String) (retryAt : Option Time)
    (affectsCircuit : Option Bool) (runId : Option String) (now : Time) :
    Session SchedulerJobSummary := do
  let p ← Tx.ofExcept (presented jobId workerId leaseToken)
  let c ← Tx.ofExcept (failureClassification errorCode affectsCircuit retryAt)
  let runId ← Tx.ofExcept (optionalIdentifier runId "run_id")
  let observed ← getSyncJob p.jobId
  let runId ← validatedResultRunId observed runId (c.code = "content_ownership_conflict")
  let reconciled ← reconcileOwnershipConflictAttachment repo observed now false
    (some (p.workerId, p.leaseToken)) JobStatus.isActiveWork none
  match reconciled with
  | some reconciled => Tx.ofExcept (summary reconciled)
  | none => do
    rejectFailureForSucceededRun observed runId
    let failed ← ownedUpdate p.jobId p.workerId p.leaseToken JobStatus.isActiveWork
      (failedValues (c.disposition = .retry) retryAt c.code runId now) now
    applyLaneFailure repo.uuid failed now c.affectsCircuit none
    finalizeFailed repo failed now
    Tx.ofExcept (summary failed)

/-- The two waiting statuses. -/
inductive WaitingStatus where
  | waitingAuth | waitingUser
  deriving DecidableEq, Repr

def WaitingStatus.status : WaitingStatus → JobStatus
  | waitingAuth => .waitingAuth
  | waitingUser => .waitingUser

def WaitingStatus.disposition : WaitingStatus → FailureDisposition
  | waitingAuth => .waitingAuth
  | waitingUser => .waitingUser

/-- The argument checks of `wait` on its code. -/
def waitClassification (status : WaitingStatus) (code : String) (affectsCircuit : Option Bool) :
    Except SchedulerError FailureClassification := do
  let code ← requiredText code "error_code" 128
  let c := classifyFailure code
  if c.code ≠ code ∨ c.disposition ≠ status.disposition then
    .error (valueError "waiting status and error_code classification do not match")
  else if affectsCircuit.any (fun a => a ≠ c.affectsCircuit) then
    .error (valueError "affects_circuit must match the closed failure classification")
  else .ok c

def waitingValues (status : WaitingStatus) (code : String) (runId : Option String) (now : Time)
    (j : Job) : Job :=
  { releaseLease j with
    status := status.status
    finishedAt := none
    updatedAt := now
    lastErrorCode := some code
    lastErrorMessage := none
    runId := runId <|> j.runId }

def wait (jobId workerId leaseToken : String) (status : WaitingStatus) (errorCode : String)
    (affectsCircuit : Option Bool) (runId : Option String) (now : Time) :
    Session SchedulerJobSummary := do
  let p ← Tx.ofExcept (presented jobId workerId leaseToken)
  let c ← Tx.ofExcept (waitClassification status errorCode affectsCircuit)
  let runId ← Tx.ofExcept (optionalIdentifier runId "run_id")
  let observed ← getSyncJob p.jobId
  let runId ← validatedResultRunId observed runId false
  let reconciled ← reconcileOwnershipConflictAttachment repo observed now false
    (some (p.workerId, p.leaseToken)) JobStatus.isActiveWork none
  match reconciled with
  | some reconciled => Tx.ofExcept (summary reconciled)
  | none => do
    rejectFailureForSucceededRun observed runId
    let waiting ← ownedUpdate p.jobId p.workerId p.leaseToken JobStatus.isActiveWork
      (waitingValues status c.code runId now) now
    applyLaneFailure repo.uuid waiting now c.affectsCircuit none
    Tx.ofExcept (summary waiting)

def requireActiveScope : Option String → Session Unit
  | none => pure ()
  | some subscriptionId => do
    let _ ← requireActive subscriptionId

/-- A waiting job whose attached run is an ownership conflict is settled, not resumed. -/
def reconcileWaiting (observed : Job) (now : Time) : Session (Option Job) :=
  if observed.status.isWaiting then
    reconcileOwnershipConflictAttachment repo observed now false none JobStatus.isActiveWork none
  else pure none

def resumedValues (now : Time) (j : Job) : Job :=
  { releaseLease j with
    status := .queued
    attempts := if j.maxAttempts ≤ j.attempts then j.maxAttempts - 1 else j.attempts
    availableAt := now
    finishedAt := none
    updatedAt := now
    lastErrorCode := none
    lastErrorMessage := none }

def resume (jobId : String) (now : Time) : Session SchedulerJobSummary := do
  let id ← Tx.ofExcept (requiredText jobId "job_id" 36)
  let observed ← getSyncJob id
  requireActiveScope observed.subscriptionId
  let reconciled ← reconcileWaiting repo observed now
  match reconciled with
  | some reconciled => Tx.ofExcept (summary reconciled)
  | none => do
    let resumed ← updateJob id (fun _ j => j.isSync && j.status.isWaiting)
      (resumedValues now)
    match resumed with
    | none => Tx.throw (schedulerRepositoryError
        "only an explicit waiting scheduler job can be resumed")
    | some resumed => do
      releaseLaneProbe repo.uuid resumed now false none
      Tx.ofExcept (summary resumed)

/-- The jobs that `resume_waiting_auth_for_account` selects, in its order. -/
def waitingAuthJobs (db : Db) (accountId : String) : List String :=
  let waiting := db.jobs.rows.filter (fun j => j.isSync && j.accountId = some accountId &&
    j.status = .waitingAuth && subscriptionActive db j)
  let before (a b : Job) : Bool :=
    a.createdAt < b.createdAt || (a.createdAt = b.createdAt && a.id ≤ b.id)
  (waiting.mergeSort before).map Job.id

def resumeAll (now : Time) : List String → Nat → Session Nat
  | [], resumed => pure resumed
  | id :: rest, resumed => do
    let s ← resume repo id now
    resumeAll now rest (if s.status = .queued then resumed + 1 else resumed)

def resumeWaitingAuthForAccount (accountId : String) (now : Time) : Session Nat := do
  Tx.require (isCanonicalUuid accountId) (valueError "account_id must be a canonical UUID")
  let jobs ← Tx.read (fun db => waitingAuthJobs db accountId)
  resumeAll repo now jobs 0

/-- `_CANCELLABLE`: active without a lease. -/
def isCancellable (s : JobStatus) : Bool := s.isActive && !s.isActiveWork

/-- The row values of a cancelled job. -/
def cancelledValues (now : Time) (j : Job) : Job :=
  { releaseLease j with
    status := .cancelled
    finishedAt := some now
    updatedAt := now
    lastErrorCode := none
    lastErrorMessage := none }

/-- A lane that belongs to the job's platform, or to its account there. -/
def laneOfJob (job : Job) (lane : SchedulerLane) : Bool :=
  some lane.platform = job.platform &&
    (lane.scopeType = .platform || lane.accountId = job.accountId)

def cancelUnstartedForRemoval (jobId : String) (now : Time) (lockedLanes : List String) :
    Session SchedulerJobSummary := do
  let observed ← getSyncJob jobId
  let foreign ← Tx.read (fun db => lockedLanes.any (fun id =>
    (db.lanes.get? id).any (fun lane => !laneOfJob observed lane)))
  Tx.require (!foreign) (schedulerRepositoryError "removal lane scope is invalid")
  Tx.require (isCancellable observed.status) (subscriptionRemovalError "subscription_busy")
  let succeeded ← reconcileSucceededAttachment repo observed now false (some lockedLanes)
  match succeeded with
  | some succeeded => Tx.ofExcept (summary succeeded)
  | none => do
    let conflict ← reconcileOwnershipConflictAttachment repo observed now false none
      JobStatus.isActiveWork (some lockedLanes)
    match conflict with
    | some conflict => Tx.ofExcept (summary conflict)
    | none => do
      Tx.modify (fun db => db.setJob jobId (cancelledValues now))
      let cancelled ← getSyncJob jobId
      releaseLaneProbe repo.uuid cancelled now false (some lockedLanes)
      Tx.ofExcept (summary cancelled)

def cancel (jobId : String) (now : Time) : Session SchedulerJobSummary := do
  let id ← Tx.ofExcept (requiredText jobId "job_id" 36)
  let observed ← getSyncJob id
  if observed.status.isTerminal then Tx.ofExcept (summary observed)
  else do
    let succeeded ← reconcileSucceededAttachment repo observed now false none
    match succeeded with
    | some succeeded => Tx.ofExcept (summary succeeded)
    | none => do
      let conflict ← reconcileOwnershipConflictAttachment repo observed now false none
        JobStatus.isActiveWork none
      match conflict with
      | some conflict => Tx.ofExcept (summary conflict)
      | none => do
        let cancelled ← updateJob id (fun _ j => j.isSync && !j.status.isTerminal)
          (cancelledValues now)
        match cancelled with
        | none => do
          let current ← getSyncJob id
          Tx.ofExcept (summary current)
        | some cancelled => do
          cancelAttachedRun cancelled now "scheduler_cancelled"
          releaseLaneProbe repo.uuid cancelled now false none
          finalizeSubscription repo cancelled now .cancelled false
          Tx.ofExcept (summary cancelled)

/-- `_set_subscription_schedule` with the values of one control operation. -/
def setSubscriptionSchedule (subscriptionId : String) (values : Subscription → Subscription)
    (now : Time) : Session Subscription := do
  let id ← Tx.ofExcept (requiredText subscriptionId "subscription_id" 36)
  let _ ← requireActive id
  let updated ← updateSubscription id (fun _ _ => true)
    (fun s => { values s with updatedAt := now })
  require? updated s!"subscription not found: {id}"

def pauseSubscription (subscriptionId : String) (now : Time) : Session Subscription :=
  setSubscriptionSchedule subscriptionId (fun s => { s with enabled := false }) now

def resumeSubscription (subscriptionId : String) (now : Time) : Session Subscription :=
  setSubscriptionSchedule subscriptionId (fun s => { s with enabled := true }) now

def runNow (subscriptionId : String) (now : Time) : Session Subscription :=
  setSubscriptionSchedule subscriptionId (fun s => { s with nextRunAt := none }) now

/-- `_job_scope`. -/
def inRemovalScope (db : Db) (subscriptionId : String) (j : Job) : Bool :=
  j.subscriptionId = some subscriptionId ||
    (j.runId.bind db.runs.get?).any (fun r => r.subscriptionId = subscriptionId)

/-- The active jobs of the subscription, in the order of their keys. -/
def removalJobs (db : Db) (subscriptionId : String) : List Job :=
  (db.jobs.rows.filter (fun j => inRemovalScope db subscriptionId j && j.status.isActive)).mergeSort
    (fun a b => a.id ≤ b.id)

/-- A job that blocks removal. -/
def blocksRemoval (j : Job) : Bool :=
  !(j.jobType = syncSubscriptionJobType || j.jobType = pipelineSubscriptionJobType) ||
    !isCancellable j.status || j.leaseOwner.isSome || j.leaseToken.isSome || j.leaseExpiresAt.isSome

def rejectBusy (subscription : Subscription) : Session (List Job) := do
  let jobs ← Tx.read (fun db => removalJobs db subscription.id)
  Tx.require (!jobs.any blocksRemoval) (subscriptionRemovalError "subscription_busy")
  let busy ← Tx.read (fun db => repo.operationBusy db subscription)
  Tx.require (!busy) (subscriptionRemovalError "subscription_busy")
  pure jobs

/-- The lanes of one job among all lanes. -/
def removalLanes (db : Db) (job : Job) : List String :=
  ((db.lanes.rows.filter (laneOfJob job)).mergeSort (fun a b => a.id ≤ b.id)).map SchedulerLane.id

/-- The loop of `remove` over the sync jobs. -/
def cancelForRemoval (now : Time) : List Job → Nat → Session Nat
  | [], cancelled => pure cancelled
  | job :: rest, cancelled =>
    if (job.isSync && isCancellable job.status) = false then cancelForRemoval now rest cancelled
    else do
      let lanes ← Tx.read (fun db => removalLanes db job)
      let result ← cancelUnstartedForRemoval repo job.id now lanes
      cancelForRemoval now rest (if result.status = .cancelled then cancelled + 1 else cancelled)

def lockedSubscription (subscriptionId : String) : Session Subscription := do
  Tx.require (isCanonicalUuid subscriptionId) (subscriptionRemovalError "subscription_not_found")
  let subscription ← getSubscription subscriptionId
  match subscription with
  | none => Tx.throw (subscriptionRemovalError "subscription_not_found")
  | some s => pure s

/-- A pending coordinator of the subscription. -/
def isPendingCoordinator (db : Db) (subscriptionId : String) (j : Job) : Bool :=
  inRemovalScope db subscriptionId j && j.jobType = pipelineSubscriptionJobType &&
    isCancellable j.status

/-- `SubscriptionRemovalService.remove`, with the number of cancelled jobs. -/
def remove (subscriptionId : String) (now : Time) : Session Nat := do
  let subscription ← lockedSubscription subscriptionId
  if subscription.deletedAt.isSome then pure 0
  else do
    let jobs ← rejectBusy repo subscription
    let cancelled ← cancelForRemoval repo now jobs 0
    let coordinators ← Tx.read (fun db =>
      db.jobs.rows.countP (isPendingCoordinator db subscriptionId))
    Tx.modify (fun db => { db with
      jobs := db.jobs.update (isPendingCoordinator db subscriptionId)
        (cancelledValues now) (by intro j; rfl) })
    Tx.modify (fun db => db.setSubscription subscriptionId (fun s => { s with
      deletedAt := some now
      updatedAt := now
      enabled := false }))
    pure (cancelled + coordinators)

def restore (subscriptionId : String) (now : Time) : Session Unit := do
  let subscription ← lockedSubscription subscriptionId
  if subscription.deletedAt.isNone then
    Tx.require (!subscription.enabled) (subscriptionRemovalError "subscription_not_removed")
  else do
    let _ ← rejectBusy repo subscription
    Tx.modify (fun db => db.setSubscription subscriptionId (fun s => { s with
      deletedAt := none
      enabled := false
      updatedAt := now }))

end SchedulerRepository

end MediaSync.Scheduler
