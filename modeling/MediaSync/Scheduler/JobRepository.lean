import MediaSync.Scheduler.Records

/-!
# The job repository

Pipeline and download jobs are claimed, renewed and finished by single
conditional statements on the job table. Besides the usual cycle there are four
recovery operations: one renews a token that nobody reclaimed, one replaces an
expired token, one resumes a reclaimed attempt and one finishes a job whose
result is already published.
-/

namespace MediaSync.Scheduler

open Python Transaction

inductive JobError where
  | valueError (message : String)
  | notFoundError (message : String)
  | subscriptionRemovalError (code : String)
  | leaseLostError (message : String)
  | integrityError (table : String)
  | overflowError

abbrev JobSession := Tx Db JobError

/-- The identifiers that `new_uuid` hands out, and redaction. -/
structure JobRepository where
  uuid : Nat → String
  redactMapping : Json → Json
  redactText : String → String

namespace JobRepository

open JobError

/-- The columns that a statement writes; the key is never among them. -/
def keyed (values : Job → Job) (j : Job) : Job := { values j with id := j.id }

def updateRows (conditions : Job → Bool) (values : Job → Job) : JobSession Unit :=
  Tx.modify (fun db => { db with jobs := db.jobs.update conditions (keyed values) })

/-- `update(Job).where(Job.id == id, ...).values(...).returning(Job)`. -/
def updateReturning (id : String) (conditions : Job → Bool) (values : Job → Job) :
    JobSession (Option Job) :=
  Tx.modifyGet (fun db =>
    (((db.jobs.get? id).filter conditions).map (keyed values),
      { db with jobs := db.jobs.update (fun j => j.id = id && conditions j) (keyed values) }))

def get (jobId : String) : JobSession (Option Job) := Tx.read (fun db => db.jobs.get? jobId)

/-- What follows a statement that matched no row. -/
def orLost (jobId message : String) (updated : Option Job) : JobSession Job :=
  match updated with
  | some job => pure job
  | none => do
    let existing ← get jobId
    Tx.require existing.isSome (notFoundError s!"job not found: {jobId}")
    Tx.throw (leaseLostError message)

def newToken (repo : JobRepository) : JobSession String :=
  Tx.modifyGet (fun db => (repo.uuid db.drawn, { db with drawn := db.drawn + 1 }))

/-- `current + timedelta(seconds=lease_seconds)` for a positive number of seconds. -/
def leaseUntil (leaseSeconds : Int) (current : Time) : JobSession Time := do
  Tx.require (1 ≤ leaseSeconds) (valueError "lease_seconds must be positive")
  match addSeconds current leaseSeconds.toNat with
  | some expiresAt => pure expiresAt
  | none => Tx.throw overflowError

/-- `_normalize_job_types`. -/
def normalizeJobTypes (jobTypes : Option (List String)) : JobSession (Option (List String)) :=
  match jobTypes with
  | none => pure none
  | some requested => do
    Tx.require (!requested.isEmpty) (valueError "job_types must not be empty")
    Tx.require (requested.all (fun t => t ≠ "" && t.length ≤ 128 && t.toList.all (!isControl ·)))
      (valueError "job_types contains an invalid job type name")
    pure (some requested.dedup)

/-- `SubscriptionRepository.require_active`. -/
def requireActive (subscriptionId : String) : JobSession Unit := do
  let subscription ← Tx.read (fun db : Db => db.subscriptions.get? subscriptionId)
  match subscription with
  | none => Tx.throw (notFoundError "subscription not found")
  | some s => Tx.require s.deletedAt.isNone (subscriptionRemovalError "subscription_removed")

def isRemoval : JobError → Bool
  | subscriptionRemovalError _ => true
  | _ => false

/-- The subscription of a job, where it has one, was not removed. -/
def scopeActive (job : Option Job) : JobSession Bool :=
  match job.bind (·.subscriptionId) with
  | none => pure true
  | some subscriptionId =>
    Tx.catching
      (do
        requireActive subscriptionId
        pure true)
      isRemoval (fun _ => pure false)

structure EnqueueArguments where
  jobType : String
  naturalKey : String
  payload : Json
  runId : Option String
  subscriptionId : Option String
  accountId : Option String
  platform : Option Platform
  priority : Int
  maxAttempts : Nat
  availableAt : Time
  scheduledFor : Option Time

def newJob (repo : JobRepository) (id : String) (args : EnqueueArguments) (now : Time) : Job where
  id := id
  runId := args.runId
  subscriptionId := args.subscriptionId
  accountId := args.accountId
  platform := args.platform
  jobType := args.jobType
  naturalKey := args.naturalKey
  payload := repo.redactMapping args.payload
  status := .queued
  priority := args.priority
  attempts := 0
  maxAttempts := args.maxAttempts
  availableAt := args.availableAt
  scheduledFor := args.scheduledFor
  leaseOwner := none
  leaseToken := none
  leaseExpiresAt := none
  lastErrorCode := none
  lastErrorMessage := none
  startedAt := none
  finishedAt := none
  createdAt := now
  updatedAt := now

def insertRow (job : Job) : JobSession Job := fun db =>
  match db.jobs.insert? job with
  | some jobs => (.ok job, { db with jobs := jobs })
  | none => (.error (integrityError "jobs"), db)

/-- `enqueue`: idempotent by job type and natural key. -/
def enqueue (repo : JobRepository) (args : EnqueueArguments) (now : Time) : JobSession Job := do
  match args.subscriptionId with
  | some subscriptionId => requireActive subscriptionId
  | none => pure ()
  let id ← newToken repo
  let existing ← Tx.read (fun db : Db => db.jobs.rows.find?
    (fun j => j.jobType = args.jobType && j.naturalKey = args.naturalKey))
  match existing with
  | some job => pure job
  | none => insertRow (newJob repo id args now)

/-- The row is under a lease that has run out. -/
def hasExpired (now : Time) (j : Job) : Bool :=
  j.status.isActiveWork && j.leaseExpiresAt.any (· ≤ now)

def reclaimedValues (status : JobStatus) (message : String) (now : Time) (j : Job) : Job :=
  { j with
    status := status, leaseOwner := none, leaseToken := none, leaseExpiresAt := none
    finishedAt := if status = .failedTerminal then some now else j.finishedAt
    availableAt := if status = .failedTerminal then j.availableAt else now
    updatedAt := now, lastErrorCode := some "lease_expired", lastErrorMessage := some message }

/-- The rows that one call of `reclaim_expired` looks at. -/
def inScope (jobId : Option String) (jobTypes : Option (List String)) (j : Job) : Bool :=
  jobId.all (fun id => j.id = id) && jobTypes.all (fun types => j.jobType ∈ types)

/-- The two statements of `reclaim_expired`, for normalized job types. -/
def reclaimScope (now : Time) (scope : Job → Bool) : JobSession Unit := do
  updateRows (fun j => hasExpired now j && scope j && decide (j.maxAttempts ≤ j.attempts))
    (reclaimedValues .failedTerminal "job lease expired after the final attempt" now)
  updateRows (fun j => hasExpired now j && scope j && decide (j.attempts < j.maxAttempts))
    (reclaimedValues .failedRetryable "job lease expired and was reclaimed" now)

def reclaimExpired (now : Time) (jobId : Option String) (jobTypes : Option (List String)) :
    JobSession Unit := do
  let normalized ← normalizeJobTypes jobTypes
  reclaimScope now (inScope jobId normalized)

/-- `Job.available_at <= current, Job.attempts < Job.max_attempts`. -/
def isDue (now : Time) (j : Job) : Bool := j.availableAt ≤ now && j.attempts < j.maxAttempts

def requeuedValues (now : Time) (j : Job) : Job := { j with status := .queued, updatedAt := now }

def requeue (now : Time) (scope : Job → Bool) : JobSession Unit :=
  updateRows (fun j => scope j && (j.status = .retryWait || j.status = .failedRetryable) &&
    isDue now j) (requeuedValues now)

def claimedValues (workerId token : String) (expiresAt now : Time) (j : Job) : Job :=
  { j with
    status := .claimed, leaseOwner := some workerId, leaseToken := some token
    leaseExpiresAt := some expiresAt, attempts := j.attempts + 1, startedAt := none
    finishedAt := none, updatedAt := now }

def isEligible (now : Time) (j : Job) : Bool := j.status = .queued && isDue now j

def claim (repo : JobRepository) (jobId workerId : String) (leaseSeconds : Int) (now : Time) :
    JobSession (Option Job) := do
  let expiresAt ← leaseUntil leaseSeconds now
  let observed ← get jobId
  let active ← scopeActive observed
  if active then
    reclaimScope now (inScope (some jobId) none)
    requeue now (fun j => j.id = jobId)
    let token ← newToken repo
    let claimed ← updateReturning jobId (isEligible now)
      (claimedValues workerId token expiresAt now)
    match claimed with
    | some job => pure (some job)
    | none => do
      let existing ← get jobId
      Tx.require existing.isSome (notFoundError s!"job not found: {jobId}")
      pure none
  else pure none

/-- `Job.priority.desc(), Job.available_at, Job.created_at, Job.id`. -/
def claimsBefore (a b : Job) : Bool :=
  if a.priority ≠ b.priority then b.priority < a.priority
  else if a.availableAt ≠ b.availableAt then a.availableAt < b.availableAt
  else if a.createdAt ≠ b.createdAt then a.createdAt < b.createdAt
  else a.id ≤ b.id

/-- The job has no subscription, or one that was not removed. -/
def subscriptionIsActive (db : Db) (j : Job) : Bool :=
  j.subscriptionId.all (fun id => (db.subscriptions.get? id).any (·.deletedAt.isNone))

def candidate (now : Time) (scope : Job → Bool) (db : Db) : Option Job :=
  ((db.jobs.rows.filter (fun j => isEligible now j && subscriptionIsActive db j && scope j)).mergeSort
    claimsBefore).head?

def claimNext (repo : JobRepository) (workerId : String) (leaseSeconds : Int)
    (jobTypes : Option (List String)) (now : Time) : JobSession (Option Job) := do
  let expiresAt ← leaseUntil leaseSeconds now
  let normalized ← normalizeJobTypes jobTypes
  let scope := inScope none normalized
  reclaimScope now scope
  requeue now scope
  let chosen ← Tx.read (candidate now scope)
  match chosen with
  | none => pure none
  | some chosen => do
    let active ← scopeActive (some chosen)
    if active then
      let token ← newToken repo
      updateReturning chosen.id (fun j => isEligible now j && scope j)
        (claimedValues workerId token expiresAt now)
    else pure none

/-- The stored lease is the presented one. -/
def holds (workerId leaseToken : String) (j : Job) : Bool :=
  j.leaseOwner = some workerId && j.leaseToken = some leaseToken

/-- `_owned_update`. -/
def ownedUpdate (jobId workerId leaseToken : String) (allowedStatuses : List JobStatus)
    (values : Job → Job) (now : Time) : JobSession Job := do
  let updated ← updateReturning jobId
    (fun j => holds workerId leaseToken j && j.status ∈ allowedStatuses &&
      j.leaseExpiresAt.any (now < ·)) values
  orLost jobId s!"worker {workerId} no longer owns job {jobId}" updated

def startedValues (now : Time) (j : Job) : Job :=
  { j with status := .running, startedAt := some now, updatedAt := now }

def start (jobId workerId leaseToken : String) (now : Time) : JobSession Job :=
  ownedUpdate jobId workerId leaseToken [.claimed] (startedValues now) now

def renewedValues (expiresAt now : Time) (payload : Option Json) (j : Job) : Job :=
  { j with leaseExpiresAt := some expiresAt, payload := payload.getD j.payload, updatedAt := now }

def renewLease (repo : JobRepository) (jobId workerId leaseToken : String) (leaseSeconds : Int)
    (replacementPayload : Option Json) (now : Time) : JobSession Job := do
  let expiresAt ← leaseUntil leaseSeconds now
  ownedUpdate jobId workerId leaseToken [.running]
    (renewedValues expiresAt now (replacementPayload.map repo.redactMapping)) now

/-- `complete`, and what `complete_recovered_publication` writes. -/
def succeededValues (now : Time) (payload : Option Json) (j : Job) : Job :=
  { j with
    status := .succeeded, leaseOwner := none, leaseToken := none, leaseExpiresAt := none
    finishedAt := some now, updatedAt := now, lastErrorCode := none, lastErrorMessage := none
    payload := payload.getD j.payload }

def complete (repo : JobRepository) (jobId workerId leaseToken : String)
    (replacementPayload : Option Json) (now : Time) : JobSession Job :=
  ownedUpdate jobId workerId leaseToken [.running]
    (succeededValues now (replacementPayload.map repo.redactMapping)) now

/-- A retryable failure waits until its time while attempts remain. -/
def failedStatus (retryable : Bool) (retryAt : Option Time) (now : Time) (j : Job) : JobStatus :=
  if retryable && decide (j.attempts < j.maxAttempts) then
    if retryAt.any (now < ·) then .retryWait else .failedRetryable
  else .failedTerminal

def failedValues (retryable : Bool) (retryAt : Option Time) (errorCode errorMessage : String)
    (now : Time) (j : Job) : Job :=
  { j with
    status := failedStatus retryable retryAt now j
    leaseOwner := none, leaseToken := none, leaseExpiresAt := none
    lastErrorCode := some errorCode, lastErrorMessage := some errorMessage, updatedAt := now
    availableAt := if retryable && decide (j.attempts < j.maxAttempts) then retryAt.getD now
      else j.availableAt
    finishedAt := if retryable && decide (j.attempts < j.maxAttempts) then none else some now }

def fail (repo : JobRepository) (jobId workerId leaseToken : String) (retryable : Bool)
    (errorCode errorMessage : String) (retryAt : Option Time) (now : Time) : JobSession Job :=
  ownedUpdate jobId workerId leaseToken [.claimed, .running]
    (failedValues retryable retryAt errorCode (repo.redactText errorMessage) now) now

/-- `renew_unreclaimed_lease`: an exact running token, also after its expiry. -/
def renewUnreclaimedLease (jobId workerId leaseToken : String) (leaseSeconds : Int) (now : Time) :
    JobSession Job := do
  let expiresAt ← leaseUntil leaseSeconds now
  let updated ← updateReturning jobId
    (fun j => j.status = .running && holds workerId leaseToken j && j.leaseExpiresAt.isSome)
    (renewedValues expiresAt now none)
  orLost jobId s!"worker {workerId} no longer owns job {jobId}" updated

def takenOverValues (workerId token : String) (expiresAt now : Time) (j : Job) : Job :=
  { j with
    leaseOwner := some workerId, leaseToken := some token, leaseExpiresAt := some expiresAt
    updatedAt := now }

/-- `takeover_expired_running_lease`. -/
def takeoverExpiredRunningLease (repo : JobRepository)
    (jobId expectedWorkerId expectedLeaseToken workerId : String) (leaseSeconds : Int)
    (now : Time) : JobSession Job := do
  let expiresAt ← leaseUntil leaseSeconds now
  let token ← newToken repo
  let updated ← updateReturning jobId
    (fun j => j.status = .running && holds expectedWorkerId expectedLeaseToken j &&
      j.leaseExpiresAt.any (· ≤ now)) (takenOverValues workerId token expiresAt now)
  orLost jobId s!"expired running lease changed for job {jobId}" updated

def resumedValues (workerId token : String) (expiresAt now : Time) (j : Job) : Job :=
  { j with
    status := .running, leaseOwner := some workerId, leaseToken := some token
    leaseExpiresAt := some expiresAt, finishedAt := none, updatedAt := now
    lastErrorCode := none, lastErrorMessage := none }

/-- A reclaimed attempt of the status, without a lease. -/
def isReclaimed (expectedStatus : JobStatus) (j : Job) : Bool :=
  j.status = expectedStatus &&
    (if expectedStatus = .failedRetryable then decide (j.attempts < j.maxAttempts)
      else decide (j.maxAttempts ≤ j.attempts)) &&
    j.leaseOwner.isNone && j.leaseToken.isNone && j.leaseExpiresAt.isNone &&
    j.lastErrorCode = some "lease_expired"

def resumeReclaimedPreparedResult (repo : JobRepository) (jobId : String)
    (expectedStatus : JobStatus) (workerId : String) (leaseSeconds : Int) (now : Time) :
    JobSession Job := do
  let expiresAt ← leaseUntil leaseSeconds now
  Tx.require (expectedStatus = .failedRetryable || expectedStatus = .failedTerminal)
    (valueError "prepared-result recovery requires a reclaimed job status")
  let token ← newToken repo
  let updated ← updateReturning jobId (isReclaimed expectedStatus)
    (resumedValues workerId token expiresAt now)
  orLost jobId s!"reclaimed prepared result is no longer resumable for job {jobId}" updated

/-- The terminal-only form of the recovery. -/
def resumeTerminalPreparedResult (repo : JobRepository) (jobId workerId : String)
    (leaseSeconds : Int) (now : Time) : JobSession Job :=
  resumeReclaimedPreparedResult repo jobId .failedTerminal workerId leaseSeconds now

/-- The statuses that a recovered publication may be found in. -/
def recoverableStatuses : List JobStatus :=
  [.queued, .claimed, .running, .retryWait, .failedRetryable, .failedTerminal]

/-- No live owner: an expired lease, or a status without one. -/
def isRecoverable (expectedStatus : JobStatus) (expectedAttempts : Int)
    (expectedLeaseToken : Option String) (now : Time) (j : Job) : Bool :=
  j.status = expectedStatus && (j.attempts : Int) = expectedAttempts &&
    j.leaseToken = expectedLeaseToken &&
    (hasExpired now j || j.status ∈
      [JobStatus.queued, .retryWait, .failedRetryable, .failedTerminal])

def completeRecoveredPublication (repo : JobRepository) (jobId : String)
    (expectedStatus : JobStatus) (expectedAttempts : Int) (expectedLeaseToken : Option String)
    (replacementPayload : Json) (now : Time) : JobSession Job := do
  Tx.require (expectedStatus ∈ recoverableStatuses)
    (valueError "unsupported recovered publication job status")
  Tx.require (1 ≤ expectedAttempts) (valueError "expected_attempts must be positive")
  let updated ← updateReturning jobId
    (isRecoverable expectedStatus expectedAttempts expectedLeaseToken now)
    (succeededValues now (some (repo.redactMapping replacementPayload)))
  orLost jobId s!"publication job is no longer recoverable: {jobId}" updated

def cancelledValues (now : Time) (j : Job) : Job :=
  { j with
    status := .cancelled, leaseOwner := none, leaseToken := none, leaseExpiresAt := none
    finishedAt := some now, updatedAt := now }

def cancel (jobId : String) (now : Time) : JobSession Job := do
  let updated ← updateReturning jobId (fun j => !j.status.isTerminal) (cancelledValues now)
  match updated with
  | some job => pure job
  | none => do
    let existing ← get jobId
    match existing with
    | some job => pure job
    | none => Tx.throw (notFoundError s!"job not found: {jobId}")

end JobRepository

/-- One transaction of the repository with its arguments. -/
inductive JobCall where
  | enqueue (args : JobRepository.EnqueueArguments) (now : Time)
  | reclaimExpired (jobId : Option String) (jobTypes : Option (List String)) (now : Time)
  | claim (jobId workerId : String) (leaseSeconds : Int) (now : Time)
  | claimNext (workerId : String) (leaseSeconds : Int) (jobTypes : Option (List String))
      (now : Time)
  | start (jobId workerId leaseToken : String) (now : Time)
  | renewLease (jobId workerId leaseToken : String) (leaseSeconds : Int)
      (replacementPayload : Option Json) (now : Time)
  | complete (jobId workerId leaseToken : String) (replacementPayload : Option Json) (now : Time)
  | fail (jobId workerId leaseToken : String) (retryable : Bool) (errorCode errorMessage : String)
      (retryAt : Option Time) (now : Time)
  | renewUnreclaimedLease (jobId workerId leaseToken : String) (leaseSeconds : Int) (now : Time)
  | takeoverExpiredRunningLease (jobId expectedWorkerId expectedLeaseToken workerId : String)
      (leaseSeconds : Int) (now : Time)
  | resumeReclaimedPreparedResult (jobId : String) (expectedStatus : JobStatus)
      (workerId : String) (leaseSeconds : Int) (now : Time)
  | completeRecoveredPublication (jobId : String) (expectedStatus : JobStatus)
      (expectedAttempts : Int) (expectedLeaseToken : Option String) (replacementPayload : Json)
      (now : Time)
  | cancel (jobId : String) (now : Time)

namespace JobCall

open JobRepository

/-- The row that the call returns, if any. -/
def run (repo : JobRepository) : JobCall → JobSession (Option Job)
  | enqueue args now => do
    let job ← repo.enqueue args now
    pure (some job)
  | reclaimExpired jobId jobTypes now => do
    JobRepository.reclaimExpired now jobId jobTypes
    pure none
  | claim jobId workerId leaseSeconds now => repo.claim jobId workerId leaseSeconds now
  | claimNext workerId leaseSeconds jobTypes now =>
    repo.claimNext workerId leaseSeconds jobTypes now
  | start jobId workerId leaseToken now => do
    let job ← JobRepository.start jobId workerId leaseToken now
    pure (some job)
  | renewLease jobId workerId leaseToken leaseSeconds payload now => do
    let job ← repo.renewLease jobId workerId leaseToken leaseSeconds payload now
    pure (some job)
  | complete jobId workerId leaseToken payload now => do
    let job ← repo.complete jobId workerId leaseToken payload now
    pure (some job)
  | fail jobId workerId leaseToken retryable errorCode errorMessage retryAt now => do
    let job ← repo.fail jobId workerId leaseToken retryable errorCode errorMessage retryAt now
    pure (some job)
  | renewUnreclaimedLease jobId workerId leaseToken leaseSeconds now => do
    let job ← JobRepository.renewUnreclaimedLease jobId workerId leaseToken leaseSeconds now
    pure (some job)
  | takeoverExpiredRunningLease jobId expectedWorkerId expectedToken workerId leaseSeconds now => do
    let job ← repo.takeoverExpiredRunningLease jobId expectedWorkerId expectedToken workerId
      leaseSeconds now
    pure (some job)
  | resumeReclaimedPreparedResult jobId expectedStatus workerId leaseSeconds now => do
    let job ← repo.resumeReclaimedPreparedResult jobId expectedStatus workerId leaseSeconds now
    pure (some job)
  | completeRecoveredPublication jobId expectedStatus attempts token payload now => do
    let job ← repo.completeRecoveredPublication jobId expectedStatus attempts token payload now
    pure (some job)
  | cancel jobId now => do
    let job ← JobRepository.cancel jobId now
    pure (some job)

/-- The clock that the caller presents. -/
def now : JobCall → Time
  | enqueue _ now | reclaimExpired _ _ now | claim _ _ _ now | claimNext _ _ _ now
  | start _ _ _ now | renewLease _ _ _ _ _ now | complete _ _ _ _ now | fail _ _ _ _ _ _ _ now
  | renewUnreclaimedLease _ _ _ _ now | takeoverExpiredRunningLease _ _ _ _ _ now
  | resumeReclaimedPreparedResult _ _ _ _ now | completeRecoveredPublication _ _ _ _ _ now
  | cancel _ now => now

/-- The job and the token that a lease-checked call presents. -/
def presents? : JobCall → Option (String × String)
  | start jobId _ token _ | renewLease jobId _ token _ _ _ | complete jobId _ token _ _
  | fail jobId _ token _ _ _ _ _ | renewUnreclaimedLease jobId _ token _ _
  | takeoverExpiredRunningLease jobId _ token _ _ _
  | completeRecoveredPublication jobId _ _ (some token) _ _ => some (jobId, token)
  | _ => none

/-- The calls that hand a token to their caller. -/
def issues : JobCall → Bool
  | claim .. | claimNext .. | takeoverExpiredRunningLease .. | resumeReclaimedPreparedResult .. =>
    true
  | _ => false

/-- The calls by which a holder gives its own lease back. -/
def finishes : JobCall → Bool
  | complete .. | fail .. => true
  | _ => false

def cancels? : JobCall → Option String
  | cancel jobId _ => some jobId
  | _ => none

end JobCall

end MediaSync.Scheduler
