import MediaSync.Scheduler.PipelineReceipt

/-!
# Coordinator jobs

A sync job whose run succeeded emits one `pipeline.subscription` coordinator.
Emission is idempotent by natural key and repairs only a row that was rejected
before.
-/

namespace MediaSync.Scheduler

open Python Transaction SchedulerError

/-- `_source_scope`: the scope of a succeeded source job. -/
def sourceScope (syncJobId runId : String) : Session (Job × String × String × Platform) := do
  let source ← getJob syncJobId
  match source with
  | none => Tx.throw (notFoundError s!"source sync job not found: {syncJobId}")
  | some source => do
    Tx.require source.isSync
      (pipelineJobRepositoryError "pipeline source is not a sync.subscription job")
    Tx.require (parsePayload source).isOk
      (pipelineJobRepositoryError "pipeline source durable contract is invalid")
    Tx.require (source.status = .succeeded && source.runId = some runId)
      (pipelineJobRepositoryError "pipeline source is not bound to the exact succeeded run")
    match source.subscriptionId, source.accountId, source.platform with
    | some subscriptionId, some accountId, some platform => do
      let run ← getRun runId
      Tx.require (run.any (fun r => r.status = .succeeded && r.subscriptionId = subscriptionId))
        (pipelineJobRepositoryError
          "pipeline run is not a succeeded run for the source subscription")
      let subscription ← Tx.catching (requireActive subscriptionId)
        (fun e => match e with
          | subscriptionRemovalError _ => true
          | _ => false)
        (fun _ => Tx.throw (pipelineJobRepositoryError "subscription_removed"))
      Tx.require (subscription.accountId = accountId)
        (pipelineJobRepositoryError
          "pipeline source does not match the current subscription account")
      let account ← getAccount accountId
      Tx.require (account.any (fun a => a.platform = platform))
        (pipelineJobRepositoryError "pipeline source does not match the current account platform")
      pure (source, subscriptionId, accountId, platform)
    | _, _, _ => Tx.throw (pipelineJobRepositoryError "pipeline source scope is incomplete")

/-- `_projection` and `_matches_source`: the row is the coordinator of this source. -/
def matchesSource (job : Job) (sourceId subscriptionId accountId runId : String)
    (platform : Platform) : Bool :=
  match pipelineProjection job with
  | .ok p =>
    p.syncJobId = sourceId && p.subscriptionId = subscriptionId && p.accountId = accountId &&
      p.platform = platform && p.runId = runId
  | .error _ => false

/-- A row this repository rejected before, without a lease. -/
def isRejectedCoordinator (job : Job) : Bool :=
  job.status = .failedTerminal &&
    (job.lastErrorCode = some pipelineCoordinatorInvalid ||
      job.lastErrorCode = some pipelineCoordinatorStale) &&
    job.leaseOwner.isNone && job.leaseToken.isNone && job.leaseExpiresAt.isNone

/-- The row of a coordinator that was not emitted before. -/
def newCoordinator (id sourceId subscriptionId accountId runId : String) (platform : Platform)
    (now utc : Time) : Job where
  id := id
  runId := some runId
  subscriptionId := some subscriptionId
  accountId := some accountId
  platform := some platform
  jobType := pipelineSubscriptionJobType
  naturalKey := pipelineNaturalKey sourceId
  payload := (⟨1, sourceId, subscriptionId, runId, none⟩ : PipelineSubscriptionPayload).toMapping
  status := .queued
  priority := 0
  attempts := 0
  maxAttempts := pipelineMaxAttempts
  availableAt := now
  scheduledFor := some now
  leaseOwner := none
  leaseToken := none
  leaseExpiresAt := none
  lastErrorCode := none
  lastErrorMessage := none
  startedAt := none
  finishedAt := none
  createdAt := utc
  updatedAt := utc

/-- `JobRepository.enqueue`: the row with this natural key, inserted if absent. -/
def coordinatorRow (existing : Option Job) (row : Job) : Session Job :=
  match existing with
  | some job => pure job
  | none => insertJob row

/-- The row values that `_repair_rejected_collision` writes. -/
def repairedValues (sourceId subscriptionId accountId runId : String) (platform : Platform)
    (now : Time) (j : Job) : Job :=
  { j with
    payload := (⟨1, sourceId, subscriptionId, runId, none⟩ : PipelineSubscriptionPayload).toMapping
    runId := some runId
    subscriptionId := some subscriptionId
    accountId := some accountId
    platform := some platform
    status := .queued
    priority := 0
    attempts := 0
    maxAttempts := pipelineMaxAttempts
    availableAt := now
    scheduledFor := some now
    leaseOwner := none
    leaseToken := none
    leaseExpiresAt := none
    startedAt := none
    finishedAt := none
    lastErrorCode := none
    lastErrorMessage := none
    updatedAt := now }

def enqueueSucceededSync (uuid : Nat → String) (utcNow : Nat → Time) (syncJobId runId : String)
    (now : Time) : Session Unit := do
  Tx.require (isCanonicalUuid syncJobId)
    (valueError "sync_job_id must be a canonical UUID string")
  Tx.require (isCanonicalUuid runId) (valueError "run_id must be a canonical UUID string")
  let (source, subscriptionId, accountId, platform) ← sourceScope syncJobId runId
  let superseding ← Tx.read (fun db => db.jobs.rows.any (fun j =>
    j.isSync && j.subscriptionId = some subscriptionId && j.id ≠ source.id && j.status.isActive))
  Tx.require (!superseding)
    (pipelineJobRepositoryError "pipeline source was superseded by an active sync")
  let utc ← Tx.read (fun db => utcNow db.drawn)
  let id ← newUuid uuid
  let existing ← Tx.read (fun db => db.jobs.rows.find? (fun j =>
    j.jobType = pipelineSubscriptionJobType && j.naturalKey = pipelineNaturalKey source.id))
  let job ← coordinatorRow existing
    (newCoordinator id source.id subscriptionId accountId runId platform now utc)
  if matchesSource job source.id subscriptionId accountId runId platform then pure ()
  else do
    Tx.require (isRejectedCoordinator job)
      (pipelineJobRepositoryError
        "idempotent pipeline job conflicts with the succeeded sync scope")
    let repaired ← updateJob job.id
      (fun _ j => j.jobType = pipelineSubscriptionJobType &&
        j.naturalKey = pipelineNaturalKey source.id && isRejectedCoordinator j)
      (repairedValues source.id subscriptionId accountId runId platform now)
    Tx.require (repaired.any (fun j =>
        matchesSource j source.id subscriptionId accountId runId platform))
      (pipelineJobRepositoryError "repaired pipeline job conflicts with the succeeded sync scope")

end MediaSync.Scheduler
