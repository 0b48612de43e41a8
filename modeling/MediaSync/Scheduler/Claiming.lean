import MediaSync.Scheduler.Repository

/-!
# Expiry and claiming

A claim first settles expired leases and requeues due retries, then scans the
queue for a job whose two lanes allow it, and writes a fresh lease token.
-/

namespace MediaSync.Scheduler

open Python Transaction SchedulerError

namespace SchedulerRepository

variable (repo : SchedulerRepository)

/-- `[a-z][a-z0-9_.-]{0,127}\Z`. -/
def isAdapterKey (key : String) : Bool :=
  match key.toList with
  | [] => false
  | c :: rest => c.isLower && rest.length ≤ 127 &&
      rest.all (fun d => d.isLower || d.isDigit || d == '_' || d == '.' || d == '-')

/-- `_adapter_allowlist`. -/
def normalizeAllowlist : Option (List String) → Except SchedulerError (Option (List String))
  | none => .ok none
  | some values =>
    if (values.map strip).all isAdapterKey then .ok (some (values.map strip))
    else .error (valueError "adapter_allowlist contains an invalid adapter key")

/-- Ascending order of nullable columns, nulls first. -/
def nullableLt (a b : Option Time) : Bool :=
  match a, b with
  | none, some _ => true
  | some s, some t => s < t
  | _, none => false

/-- The job has used its attempts up. -/
def attemptsExhausted (j : Job) : Bool := j.maxAttempts ≤ j.attempts

/-- The row values of an expired lease; the observed row is the row updated. -/
def expiredValues (now : Time) (j : Job) : Job :=
  { releaseLease j with
    status := if attemptsExhausted j then .failedTerminal else .failedRetryable
    availableAt := now
    finishedAt := if attemptsExhausted j then some now else none
    updatedAt := now
    lastErrorCode := some "unexpected_handler_failure"
    lastErrorMessage := none }

/-- One expired job of `_reclaim_expired_sync`. -/
def reclaimOne (now : Time) (observed : Job) : Session Unit := do
  let succeeded ← reconcileSucceededAttachment repo observed now true none
  if succeeded.isSome then pure ()
  else do
    let conflict ← reconcileOwnershipConflictAttachment repo observed now true none
      JobStatus.isActiveWork none
    if conflict.isSome then pure ()
    else do
      let reclaimed ← updateJob observed.id
        (fun _ j => j.isSync && j.status = observed.status &&
          j.leaseToken = observed.leaseToken && leaseExpired j now)
        (expiredValues now)
      match reclaimed with
      | none => pure ()
      | some reclaimed => do
        cancelAttachedRun reclaimed now "scheduler_lease_lost"
        applyLaneFailure repo.uuid reclaimed now true none
        if attemptsExhausted reclaimed then finalizeSubscription repo reclaimed now .failure true else pure ()

/-- The expired jobs in the order of their leases. -/
def expiredJobs (db : Db) (now : Time) (jobId : Option String) : List Job :=
  let expired := db.jobs.rows.filter (fun j => j.isSync && j.isActiveWork && leaseExpired j now &&
    jobId.all (fun id => j.id = id))
  let before (a b : Job) : Bool :=
    nullableLt a.leaseExpiresAt b.leaseExpiresAt || (a.leaseExpiresAt = b.leaseExpiresAt &&
      (a.createdAt < b.createdAt || (a.createdAt = b.createdAt && a.id ≤ b.id)))
  (expired.mergeSort before).take maxBatch

def reclaimExpiredSync (now : Time) (jobId : Option String) : Session Unit := do
  let expired ← Tx.read (fun db => expiredJobs db now jobId)
  Tx.forEach (reclaimOne repo now) expired

/-- The interrupted finalizations that `_requeue_due_sync` recovers first. -/
def conflictedJobs (db : Db) (jobId : Option String) : List Job :=
  let conflicts := db.jobs.rows.filter (fun j => j.isSync && j.status.isRequeue &&
    hasOwnershipConflictAttachment db j && jobId.all (fun id => j.id = id))
  let before (a b : Job) : Bool :=
    a.availableAt < b.availableAt || (a.availableAt = b.availableAt && a.id ≤ b.id)
  (conflicts.mergeSort before).take maxBatch

def recoverConflict (now : Time) (observed : Job) : Session Unit := do
  let _ ← reconcileOwnershipConflictAttachment repo observed now false none
    JobStatus.isActiveWork none

/-- The row values of a due retry. -/
def requeuedValues (now : Time) (j : Job) : Job := { j with status := .queued, updatedAt := now }

def requeueDueSync (now : Time) (jobId : Option String) : Session Unit := do
  let conflicts ← Tx.read (fun db => conflictedJobs db jobId)
  Tx.forEach (recoverConflict repo now) conflicts
  Tx.modify (fun db => { db with
    jobs := db.jobs.update
      (fun j => j.isSync && j.status.isRequeue && j.availableAt ≤ now && j.attempts < j.maxAttempts &&
        !hasOwnershipConflictAttachment db j && jobId.all (fun id => j.id = id))
      (requeuedValues now) (by intro j; rfl) })

/-- The row values of a rejected candidate. -/
def invalidValues (now : Time) (j : Job) : Job :=
  { j with
    status := .failedTerminal
    finishedAt := some now
    updatedAt := now
    lastErrorCode := some "schema_invalid"
    lastErrorMessage := none }

def terminalizeInvalidCandidate (job : Job) (now : Time) : Session Unit := do
  let terminal ← updateJob job.id (fun _ j => j.isSync && j.status = .queued)
    (invalidValues now)
  match terminal with
  | none => pure ()
  | some terminal => finalizeSubscription repo terminal now .failure false

/-- The subscription of a candidate accepts work. -/
def candidateActive (subscriptionId : String) : Session Bool :=
  Tx.catching (do
      let _ ← requireActive subscriptionId
      pure true)
    (fun e => match e with
      | notFoundError _ | subscriptionRemovalError _ => true
      | _ => false)
    (fun _ => pure false)

/-- The lanes of a valid candidate; an invalid one is retired, an attached
ownership conflict settles it. -/
def candidateLanes (candidate : Job) (now : Time) : Session (Option (List String)) :=
  Tx.catching (do
      let _ ← Tx.ofExcept (parsePayload candidate)
      let lanes ← jobLanes repo.uuid candidate now
      let reconciled ← reconcileOwnershipConflictAttachment repo candidate now false none
        JobStatus.isActiveWork (some lanes)
      pure (if reconciled.isSome then none else some lanes))
    (fun e => e.isValueError || e.isSchedulerRepositoryError)
    (fun _ => do
      terminalizeInvalidCandidate repo candidate now
      pure none)

/-- All lanes allow the job. -/
def lanesAllow (db : Db) (lanes : List String) (jobId : String) (now : Time) : Bool :=
  lanes.all (fun id => (db.lanes.get? id).any (fun lane => laneAllows db lane jobId now))

/-- The row values of a claim. -/
def claimedValues (owner leaseToken : String) (expiresAt now : Time) (j : Job) : Job :=
  { j with
    status := .claimed
    leaseOwner := some owner
    leaseToken := some leaseToken
    leaseExpiresAt := some expiresAt
    attempts := j.attempts + 1
    startedAt := none
    finishedAt := none
    updatedAt := now }

/-- The compare-and-swap from queued to claimed. -/
def claimRow (jobId owner : String) (lease : Nat) (now : Time) : Session (Option Job) := do
  let leaseToken ← newUuid repo.uuid
  let expiresAt ← Tx.ofExcept (safeAdd now lease "lease_seconds")
  updateJob jobId
    (fun db j => j.isSync && j.status = .queued && j.availableAt ≤ now &&
      j.attempts < j.maxAttempts && !hasOwnershipConflictAttachment db j)
    (claimedValues owner leaseToken expiresAt now)

/-- The candidate loop of `_claim_eligible`. -/
def claimCandidates (owner : String) (lease : Nat) (now : Time) :
    List Job → Session (Option SchedulerClaim)
  | [] => pure none
  | candidate :: rest =>
    match candidate.subscriptionId with
    | none => do
      terminalizeInvalidCandidate repo candidate now
      claimCandidates owner lease now rest
    | some subscriptionId => do
      let active ← candidateActive subscriptionId
      if active = false then claimCandidates owner lease now rest
      else do
        let lanes ← candidateLanes repo candidate now
        match lanes with
        | none => claimCandidates owner lease now rest
        | some lanes => do
          let allowed ← Tx.read (fun db => lanesAllow db lanes candidate.id now)
          if allowed = false then claimCandidates owner lease now rest
          else do
            let claimed ← claimRow repo candidate.id owner lease now
            match claimed with
            | none => claimCandidates owner lease now rest
            | some claimed => do
              Tx.forEach (fun laneId => reserveLane laneId claimed.id now) lanes
              let claim ← Tx.ofExcept (claimOf claimed)
              pure (some claim)

/-- The queue that a claim scans. -/
def queuedCandidates (db : Db) (now : Time) (exact : Option (String × String))
    (adapters : Option (List String)) (limit : Nat) : List Job :=
  let eligible := db.jobs.rows.filter (fun j =>
    j.isSync && j.status = .queued && j.availableAt ≤ now && j.attempts < j.maxAttempts &&
      exact.all (fun e => j.id = e.1 && j.subscriptionId = some e.2) &&
      adapters.all (fun keys =>
        ((j.accountId.bind db.accounts.get?).any (fun a => keys.contains a.adapter))))
  let before (a b : Job) : Bool :=
    b.priority < a.priority || (a.priority = b.priority &&
      (a.availableAt < b.availableAt || (a.availableAt = b.availableAt &&
        (nullableLt a.scheduledFor b.scheduledFor || (a.scheduledFor = b.scheduledFor &&
          (a.createdAt < b.createdAt || (a.createdAt = b.createdAt && a.id ≤ b.id)))))))
  (eligible.mergeSort before).take limit

/-- The checks of an exact claim before any recovery. -/
def checkExactTarget (jobId subscriptionId : String) : Session Unit := do
  let observed ← getSyncJob jobId
  Tx.require (observed.subscriptionId = some subscriptionId)
    (schedulerExactConflictError "subscription_delivery_stale")
  let subscription ← requireActive subscriptionId
  Tx.require subscription.enabled (schedulerExactConflictError "subscription_delivery_paused")
  let account ← getAccount subscription.accountId
  match parsePayload observed, account with
  | .ok payload, some account =>
    Tx.require (observed.accountId = some subscription.accountId &&
        observed.platform = some account.platform &&
        payload.scheduleRevision + 1 = subscription.scheduleRevision)
      (schedulerExactConflictError "subscription_delivery_stale")
  | _, _ => Tx.throw (schedulerExactConflictError "subscription_delivery_stale")

def checkExact : Option (String × String) → Session Unit
  | none => pure ()
  | some (jobId, subscriptionId) => checkExactTarget jobId subscriptionId

/-- The arguments that both claims take. -/
structure ClaimArguments where
  workerId : String
  globalCapacity : Int
  leaseSeconds : Int
  scanLimit : Int
  adapterAllowlist : Option (List String)
  now : Time

def claimEligible (args : ClaimArguments) (exact : Option (String × String)) :
    Session (Option SchedulerClaim) := do
  let owner ← Tx.ofExcept (requiredText args.workerId "worker_id" 255)
  let capacity ← Tx.ofExcept (boundedInt args.globalCapacity "global_capacity" 1 maxBatch)
  let lease ← Tx.ofExcept (boundedInt args.leaseSeconds "lease_seconds" 1 maxLeaseSeconds)
  let candidateLimit ← Tx.ofExcept (boundedInt args.scanLimit "scan_limit" 1 maxBatch)
  let adapters ← Tx.ofExcept (normalizeAllowlist args.adapterAllowlist)
  checkExact exact
  reclaimExpiredSync repo args.now (exact.map Prod.fst)
  requeueDueSync repo args.now (exact.map Prod.fst)
  let activeCount ← Tx.read (fun db => db.jobs.rows.countP (fun j => j.isSync && j.isActiveWork))
  if capacity ≤ activeCount then pure none
  else if adapters = some [] then pure none
  else do
    let candidates ← Tx.read (fun db =>
      queuedCandidates db args.now exact adapters candidateLimit)
    claimCandidates repo owner lease args.now candidates

def claimNext (args : ClaimArguments) : Session (Option SchedulerClaim) :=
  claimEligible repo args none

def claimExact (jobId expectedSubscriptionId : String) (args : ClaimArguments) :
    Session (Option SchedulerClaim) := do
  let jobId ← Tx.ofExcept (requiredText jobId "job_id" 36)
  let subscriptionId ← Tx.ofExcept
    (requiredText expectedSubscriptionId "expected_subscription_id" 36)
  claimEligible repo { args with scanLimit := 1 } (some (jobId, subscriptionId))

end SchedulerRepository

end MediaSync.Scheduler
