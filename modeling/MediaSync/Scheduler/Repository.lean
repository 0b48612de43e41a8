import MediaSync.Scheduler.DeliveryProgress
import MediaSync.Scheduler.Lanes
import MediaSync.Scheduler.Pipeline

/-!
# The scheduler repository

The shared parts of a `sync.subscription` scheduler session: what an attached
run decides about its job, how a terminal job closes its cycle, and how a cycle
is materialized.
-/

namespace MediaSync.Scheduler

open Python Transaction SchedulerError

/-- What a repository instance is constructed with or takes from its modules. -/
structure SchedulerRepository where
  uuid : Nat → String
  codec : DeliveryCodec
  biliUpstreamSha : Option String
  xhsUpstreamSha : Option String
  douyinUpstreamSha : Option String
  /-- `bili_scan_continuation.delay_after_success` -/
  delayAfterSuccess : Db → Job → Option SyncRun → Subscription → Nat → Nat → Nat
  /-- `utc_now()` at the n-th identifier -/
  utcNow : Nat → Time
  /-- an active operation concerns the subscription, its author or its jobs -/
  operationBusy : Db → Subscription → Bool

namespace SchedulerRepository

variable (repo : SchedulerRepository)

/-- `_get_sync_job` and `_locked_sync_job`. -/
def getSyncJob (jobId : String) : Session Job := do
  let job ← getJob jobId
  match job with
  | none => Tx.throw (notFoundError s!"job not found: {jobId}")
  | some job => do
    Tx.require job.isSync
      (schedulerRepositoryError "scheduler operation rejected a foreign job type")
    pure job

/-! ## Attached runs -/

def enqueuePipelineForSucceededRun (job : Job) (now : Time) : Session Unit := do
  match job.runId with
  | none => pure ()
  | some runId => do
    let run ← getRun runId
    match run with
    | none => pure ()
    | some run =>
      if some run.subscriptionId ≠ job.subscriptionId ∨ run.status ≠ .succeeded then pure ()
      else enqueueSucceededSync repo.uuid repo.utcNow job.id run.id now

def cancelAttachedRun (job : Job) (now : Time) (errorCode : String) : Session Unit := do
  match job.runId with
  | none => pure ()
  | some runId => do
    let run ← getRun runId
    match run with
    | none => Tx.throw (schedulerRepositoryError "scheduler attached run scope is invalid")
    | some run => do
      Tx.require (some run.subscriptionId = job.subscriptionId)
        (schedulerRepositoryError "scheduler attached run scope is invalid")
      if run.status.isTerminal then pure ()
      else setRunStatus run.id .cancelled run.status (some errorCode) now

inductive Outcome where
  | success | failure | cancelled
  deriving DecidableEq, Repr

/-- The delay before the next run; `none` for `OverflowError` and `ValueError`. -/
def nextRunAt (job : Job) (payload : Option Payload) (s : Subscription) (outcome : Outcome)
    (now : Time) : Session (Option Time) := do
  if s.intervalSeconds < 60 ∨ maxRevision < s.intervalSeconds then pure none
  else
    match outcome, payload with
    | .success, some payload => do
      let binding ← bindingForSubscription repo.codec .bili repo.biliUpstreamSha s
      if binding.isSome then pure (addSeconds now s.intervalSeconds)
      else do
        let delay ← Tx.read (fun db => repo.delayAfterSuccess db job
          (job.runId.bind db.runs.get?) s payload.scheduleRevision s.intervalSeconds)
        pure (addSeconds now delay)
    | _, _ => pure (addSeconds now s.intervalSeconds)

/-- The payload of a terminal job; a missing one is an error when it is required. -/
def cyclePayload (job : Job) (requirePayload : Bool) : Session (Option Payload) :=
  match parsePayload job with
  | .ok payload => pure (some payload)
  | .error _ =>
    if requirePayload then
      Tx.throw (schedulerRepositoryError "terminal scheduler job payload is invalid")
    else pure none

def finalizeSubscription (job : Job) (now : Time) (outcome : Outcome) (requirePayload : Bool) :
    Session Unit := do
  let payload ← cyclePayload job requirePayload
  match (payload.map Payload.subscriptionId) <|> job.subscriptionId with
  | none => pure ()
  | some subscriptionId => do
    let subscription ← getSubscription subscriptionId
    match subscription with
    | none => pure ()
    | some subscription => do
      let next ← nextRunAt repo job payload subscription outcome now
      match next with
      | none =>
        if requirePayload then
          Tx.throw (schedulerRepositoryError "subscription fixed delay is invalid")
        else
          Tx.modify (fun db => db.setSubscription subscriptionId (fun s => { s with
            enabled := false
            nextRunAt := none
            lastRunAt := some now
            consecutiveFailures := s.consecutiveFailures + 1
            updatedAt := now }))
      | some next => do
        let _ ← updateSubscription subscriptionId
          (fun _ s => payload.all (fun p => s.scheduleRevision = p.scheduleRevision + 1))
          (fun s => { s with
            nextRunAt := some next
            lastRunAt := some now
            updatedAt := now
            lastSuccessAt := if outcome = .success then some now else s.lastSuccessAt
            consecutiveFailures := match outcome with
              | .success => 0
              | .failure => s.consecutiveFailures + 1
              | .cancelled => s.consecutiveFailures })

/-- A job row that leaves its lease behind. -/
def releaseLease (j : Job) : Job :=
  { j with leaseOwner := none, leaseToken := none, leaseExpiresAt := none }

/-- The row values under an attached succeeded run. -/
def settledValues (finishedAt : Option Time) (now : Time) (j : Job) : Job :=
  { releaseLease j with
    status := .succeeded
    finishedAt := finishedAt <|> some now
    updatedAt := now
    lastErrorCode := none
    lastErrorMessage := none }

/-- The row values under an attached ownership conflict. -/
def conflictValues (finishedAt : Option Time) (now : Time) (j : Job) : Job :=
  { releaseLease j with
    status := .failedTerminal
    finishedAt := finishedAt <|> some now
    updatedAt := now
    lastErrorCode := some "content_ownership_conflict"
    lastErrorMessage := none }

/-- A lease that ended at or before `now`. -/
def leaseExpired (j : Job) (now : Time) : Bool := j.leaseExpiresAt.any (fun t => t ≤ now)

def reconcileSucceededAttachment (job : Job) (now : Time) (expiredOnly : Bool)
    (lockedLanes : Option (List String)) : Session (Option Job) := do
  match job.runId with
  | none => pure none
  | some runId => do
    let run ← getRun runId
    match run with
    | none => Tx.throw (schedulerRepositoryError "scheduler attached run scope is invalid")
    | some run => do
      Tx.require (some run.subscriptionId = job.subscriptionId)
        (schedulerRepositoryError "scheduler attached run scope is invalid")
      if run.status ≠ .succeeded then pure none
      else do
        let reconciled ← updateJob job.id
          (fun _ j => j.isSync && j.status = job.status && j.runId = some run.id &&
            (!expiredOnly || (j.leaseToken = job.leaseToken && leaseExpired j now)))
          (settledValues run.finishedAt now)
        match reconciled with
        | none => pure none
        | some reconciled => do
          applyLaneSuccess repo.uuid reconciled now lockedLanes
          finalizeSubscription repo reconciled now .success true
          enqueuePipelineForSucceededRun repo reconciled now
          pure (some reconciled)

def hasOwnershipConflictAttachment (db : Db) (j : Job) : Bool :=
  (j.runId.bind db.runs.get?).any (fun r =>
    some r.subscriptionId = j.subscriptionId && r.status = .failedTerminal &&
      r.errorCode = some "content_ownership_conflict")

/-- The job's subscription exists and is not removed. -/
def subscriptionActive (db : Db) (j : Job) : Bool :=
  (j.subscriptionId.bind db.subscriptions.get?).any (fun s => s.deletedAt.isNone)

/-- The exact lease that a worker presents is the stored one and has time left. -/
def ownsLease (db : Db) (j : Job) (workerId leaseToken : String)
    (allowedStatuses : JobStatus → Bool) (now : Time) : Bool :=
  j.leaseOwner = some workerId && j.leaseToken = some leaseToken && allowedStatuses j.status &&
    j.leaseExpiresAt.any (fun t => now < t) && subscriptionActive db j

/-- `_lease_failure`, raised. -/
def throwLeaseFailure {α : Type} (jobId workerId : String) : Session α := do
  let current ← getJob jobId
  match current with
  | none => Tx.throw (notFoundError s!"job not found: {jobId}")
  | some current =>
    if current.isSync then
      Tx.throw (schedulerLeaseLostError
        s!"worker '{workerId}' no longer owns scheduler job {jobId}")
    else
      Tx.throw (schedulerRepositoryError "scheduler operation rejected a foreign job type")

/-- A malformed cycle identity proves the outcome but no schedule write. -/
def finalizeConflict (job : Job) (now : Time) : Session Unit :=
  if (parsePayload job).isOk then finalizeSubscription repo job now .failure true else pure ()

def reconcileOwnershipConflictAttachment (job : Job) (now : Time) (expiredOnly : Bool)
    (ownedBy : Option (String × String)) (allowedStatuses : JobStatus → Bool)
    (lockedLanes : Option (List String)) : Session (Option Job) := do
  match job.runId with
  | none => pure none
  | some runId =>
    if job.status.isTerminal then pure none
    else do
      let run ← getRun runId
      match run with
      | none => Tx.throw (schedulerRepositoryError "scheduler attached run scope is invalid")
      | some run => do
        Tx.require (some run.subscriptionId = job.subscriptionId)
          (schedulerRepositoryError "scheduler attached run scope is invalid")
        if run.status ≠ .failedTerminal ∨ run.errorCode ≠ some "content_ownership_conflict" then
          pure none
        else do
          let reconciled ← updateJob job.id
            (fun db j => j.isSync && j.subscriptionId = job.subscriptionId &&
              j.status = job.status && j.runId = job.runId && j.leaseOwner = job.leaseOwner &&
              j.leaseToken = job.leaseToken && hasOwnershipConflictAttachment db j &&
              (!expiredOnly || (j.isActiveWork && leaseExpired j now)) &&
              ownedBy.all (fun o => ownsLease db j o.1 o.2 allowedStatuses now))
            (conflictValues run.finishedAt now)
          match reconciled with
          | none =>
            match ownedBy with
            | some owner => throwLeaseFailure job.id owner.1
            | none => Tx.throw (schedulerRepositoryError
                "scheduler conflict attachment changed during reconciliation")
          | some reconciled => do
            applyLaneFailure repo.uuid reconciled now false lockedLanes
            finalizeConflict repo reconciled now
            pure (some reconciled)

structure MaterializedCycle where
  jobId : String
  subscriptionId : String
  scheduleRevision : Nat
  scheduledFor : Time

def activeCycle (db : Db) (subscriptionId : String) : Bool :=
  db.jobs.rows.any (fun j =>
    j.isSync && j.subscriptionId = some subscriptionId && j.status.isActive)

def activePipelineJob (db : Db) (subscriptionId : String) : Bool :=
  db.jobs.rows.any (fun j => j.jobType = pipelineSubscriptionJobType &&
    j.subscriptionId = some subscriptionId && j.status.isActive)

def activeDeliveryOperation (db : Db) (subscriptionId : String) : Bool :=
  db.operations.rows.any (fun o => o.kind = "subscription-delivery" &&
    o.targetType = "subscription" && o.targetId = subscriptionId &&
    (o.state = "queued" || o.state = "running"))

def isDue (s : Subscription) (now : Time) : Bool := s.nextRunAt.all (fun t => t ≤ now)

/-- The job row of a new cycle. -/
def cycleJob (id subscriptionId accountId : String) (platform : Platform) (scheduleRevision : Nat)
    (scheduledFor now : Time) (retry : RetryPolicy) : Job where
  id := id
  runId := none
  subscriptionId := some subscriptionId
  accountId := some accountId
  platform := some platform
  jobType := syncSubscriptionJobType
  naturalKey := scheduleNaturalKey subscriptionId scheduleRevision
  payload := schedulePayload subscriptionId scheduleRevision retry
  status := .queued
  priority := 0
  attempts := 0
  maxAttempts := retry.maxAttempts
  availableAt := now
  scheduledFor := some scheduledFor
  leaseOwner := none
  leaseToken := none
  leaseExpiresAt := none
  lastErrorCode := none
  lastErrorMessage := none
  startedAt := none
  finishedAt := none
  createdAt := now
  updatedAt := now

def materializeCycle (subscriptionId accountId : String) (platform : Platform)
    (scheduleRevision : Nat) (scheduledFor now : Time) (retry : RetryPolicy)
    (dueOnly resumeBlocked : Bool) : Session (Option MaterializedCycle) := do
  let subscription ← getSubscription subscriptionId
  match subscription with
  | none => pure none
  | some s =>
    if s.accountId ≠ accountId ∨ s.scheduleRevision ≠ scheduleRevision ∨ s.deletedAt.isSome ∨
        s.enabled = false then pure none
    else do
      let bili ← ensureForMaterialization repo.codec repo.uuid .bili subscriptionId
        repo.biliUpstreamSha scheduleRevision now resumeBlocked
      let xhs ← ensureForMaterialization repo.codec repo.uuid .xhs subscriptionId
        repo.xhsUpstreamSha scheduleRevision now (resumeBlocked || platform = .xhs)
      let douyin ← ensureForMaterialization repo.codec repo.uuid .douyin subscriptionId
        repo.douyinUpstreamSha scheduleRevision now (resumeBlocked || platform = .dy)
      Tx.require ([bili, xhs, douyin].countP Option.isSome ≤ 1)
        (schedulerRepositoryError "multiple delivery progress contracts selected one subscription")
      let progress := bili <|> xhs <|> douyin
      if progress.any (fun p => p.phase = .blocked) then pure none
      else do
        let claimedRevision ← updateSubscription subscriptionId
          (fun db s => s.enabled && s.deletedAt.isNone && s.accountId = accountId &&
            s.scheduleRevision = scheduleRevision &&
            (!dueOnly || (isDue s now && !activeDeliveryOperation db subscriptionId)) &&
            !activeCycle db subscriptionId &&
            (progress.isNone || !activePipelineJob db subscriptionId))
          (fun s => { s with scheduleRevision := s.scheduleRevision + 1, updatedAt := now })
        match claimedRevision with
        | none => pure none
        | some _ => do
          let id ← newUuid repo.uuid
          let job ← insertJob (cycleJob id subscriptionId accountId platform scheduleRevision
            scheduledFor now retry)
          pure (some ⟨job.id, subscriptionId, scheduleRevision, scheduledFor⟩)

/-- The rows that `materialize_due` selects, in its order. -/
def dueCandidates (db : Db) (now : Time) : List (Subscription × Account) :=
  let joined := db.subscriptions.rows.filterMap (fun s =>
    (db.accounts.get? s.accountId).map (fun a => (s, a)))
  let due := joined.filter (fun c => c.1.enabled && c.1.deletedAt.isNone && isDue c.1 now &&
    !activeCycle db c.1.id && !activeDeliveryOperation db c.1.id)
  let before (a b : Subscription) : Bool :=
    match a.nextRunAt, b.nextRunAt with
    | none, some _ => true
    | some _, none => false
    | none, none => a.createdAt < b.createdAt || (a.createdAt = b.createdAt && a.id ≤ b.id)
    | some s, some t => s < t || (s = t &&
        (a.createdAt < b.createdAt || (a.createdAt = b.createdAt && a.id ≤ b.id)))
  (due.mergeSort (fun a b => before a.1 b.1)).take maxBatch

/-- The loop of `materialize_due` over its candidates. -/
def materializeCandidates (batchLimit : Nat) (now : Time) (retry : RetryPolicy) :
    List (Subscription × Account) → List MaterializedCycle → Session (List MaterializedCycle)
  | [], done => pure done
  | (s, account) :: rest, done =>
    if batchLimit ≤ done.length then pure done
    else do
      let cycle ← materializeCycle repo s.id s.accountId account.platform s.scheduleRevision
        (s.nextRunAt.getD now) now retry true false
      materializeCandidates batchLimit now retry rest (done ++ cycle.toList)

def materializeDue (limit : Int) (now : Time) (retry : RetryPolicy) :
    Session (List MaterializedCycle) := do
  let batchLimit ← Tx.ofExcept (boundedInt limit "limit" 1 maxBatch)
  let candidates ← Tx.read (fun db => dueCandidates db now)
  materializeCandidates repo batchLimit now retry candidates []

def materializeOne (subscriptionId : String) (expectedScheduleRevision : Int) (now : Time)
    (retry : RetryPolicy) : Session MaterializedCycle := do
  let id ← Tx.ofExcept (requiredText subscriptionId "subscription_id" 36)
  let revision ← Tx.ofExcept
    (boundedInt expectedScheduleRevision "expected_schedule_revision" 0 maxRevision)
  let subscription ← requireActive id
  Tx.require subscription.enabled (schedulerExactConflictError "subscription_delivery_paused")
  Tx.require (subscription.scheduleRevision = revision)
    (schedulerExactConflictError "subscription_delivery_stale")
  let busy ← Tx.read (fun db => activePipelineJob db id)
  Tx.require (!busy) (schedulerExactConflictError "subscription_delivery_busy")
  let account ← getAccount subscription.accountId
  match account with
  | none => Tx.throw (schedulerExactConflictError "subscription_delivery_stale")
  | some account => do
    let active ← Tx.read (fun db => db.jobs.rows.filter (fun j =>
      j.isSync && j.subscriptionId = some id && j.status.isActive))
    match active with
    | [] => do
      let cycle ← materializeCycle repo id account.id account.platform revision now now retry
        false true
      match cycle with
      | none => Tx.throw (schedulerExactConflictError "subscription_delivery_stale")
      | some cycle => pure cycle
    | [job] =>
      match parsePayload job, job.scheduledFor with
      | .ok payload, some scheduledFor => do
        Tx.require (payload.scheduleRevision + 1 = revision &&
            job.accountId = some subscription.accountId && job.platform = some account.platform)
          (schedulerExactConflictError "subscription_delivery_stale")
        pure ⟨job.id, id, payload.scheduleRevision, scheduledFor⟩
      | _, _ => Tx.throw (schedulerExactConflictError "subscription_delivery_stale")
    | _ => Tx.throw (schedulerExactConflictError "subscription_delivery_busy")

end SchedulerRepository

end MediaSync.Scheduler
