import MediaSync.Scheduler.Records

/-!
# Cycle payloads and projections

The closed payload of a `sync.subscription` job, its parser, and the summary
and claim that the repository hands out.
-/

namespace MediaSync.Scheduler

open Python Transaction SchedulerError

def syncSubscriptionJobType : String := "sync.subscription"
def pipelineSubscriptionJobType : String := "pipeline.subscription"

def Job.isSync (j : Job) : Bool := j.jobType = syncSubscriptionJobType

/-- A job under a lease. -/
def Job.isActiveWork (j : Job) : Bool := j.status.isActiveWork

structure Payload where
  subscriptionId : String
  scheduleRevision : Nat
  retryPolicy : RetryPolicy

def scheduleNaturalKey (subscriptionId : String) (scheduleRevision : Nat) : String :=
  "subscription:" ++ subscriptionId ++ ":schedule:" ++ toString scheduleRevision

/-- `_schedule_payload`. -/
def schedulePayload (subscriptionId : String) (scheduleRevision : Nat) (retry : RetryPolicy) :
    Json :=
  .obj [("schema_version", .int 1), ("subscription_id", .str subscriptionId),
    ("schedule_revision", .int scheduleRevision), ("retry_policy", retry.toPayload)]

def payloadKeys : List String :=
  ["schema_version", "subscription_id", "schedule_revision", "retry_policy"]

/-- `_parse_payload`. -/
def parsePayload (job : Job) : Except SchedulerError Payload :=
  match job.payload with
  | .obj fields =>
    if !Json.hasKeys fields payloadKeys then
      .error (valueError "sync.subscription payload is not closed schema v1")
    else if !Json.eqInt (Json.get? fields "schema_version") 1 then
      .error (valueError "sync.subscription payload schema_version is unsupported")
    else match Json.asStr? (Json.get? fields "subscription_id") with
      | none =>
        .error (valueError "sync.subscription payload subscription_id does not match its scope")
      | some subscriptionId =>
        if job.subscriptionId ≠ some subscriptionId then
          .error (valueError "sync.subscription payload subscription_id does not match its scope")
        else match Json.asInt? (Json.get? fields "schedule_revision") with
          | some (.ofNat scheduleRevision) =>
            match Json.get? fields "retry_policy" with
            | some (.obj retry) =>
              match RetryPolicy.fromPayload retry with
              | .error e => .error e
              | .ok retryPolicy =>
                if job.naturalKey ≠ scheduleNaturalKey subscriptionId scheduleRevision ∨
                    job.maxAttempts ≠ retryPolicy.maxAttempts then
                  .error (valueError
                    "sync.subscription durable identity does not match its payload")
                else .ok ⟨subscriptionId, scheduleRevision, retryPolicy⟩
            | _ => .error (valueError "sync.subscription payload retry_policy is invalid")
          | _ => .error (valueError "sync.subscription payload schedule_revision is invalid")
  | _ => .error (valueError "sync.subscription payload is not closed schema v1")

/-- A job row that carries the payload written for its own identity parses. -/
theorem parsePayload_schedulePayload {job : Job} {subscriptionId : String}
    {scheduleRevision : Nat} {retry : RetryPolicy}
    (hpayload : job.payload = schedulePayload subscriptionId scheduleRevision retry)
    (hsubscription : job.subscriptionId = some subscriptionId)
    (hkey : job.naturalKey = scheduleNaturalKey subscriptionId scheduleRevision)
    (hattempts : job.maxAttempts = retry.maxAttempts) :
    parsePayload job = .ok ⟨subscriptionId, scheduleRevision, retry⟩ := by
  unfold parsePayload
  rw [hpayload]
  simp [schedulePayload, Json.hasKeys, payloadKeys, Json.eqInt, Json.get?, Json.asStr?,
    Json.asInt?, hsubscription, hkey, hattempts, RetryPolicy.toPayload_eq,
    RetryPolicy.fromPayload_payloadFields]

/-- What a parse reads is the row's scope, payload, natural key and attempt budget. -/
theorem parsePayload_congr {j j' : Job} (hp : j'.payload = j.payload)
    (hs : j'.subscriptionId = j.subscriptionId) (hk : j'.naturalKey = j.naturalKey)
    (hm : j'.maxAttempts = j.maxAttempts) : parsePayload j' = parsePayload j := by
  unfold parsePayload
  rw [hp, hs, hk, hm]

theorem parsePayload_subscription {job : Job} {p : Payload} (h : parsePayload job = .ok p) :
    job.subscriptionId = some p.subscriptionId := by
  unfold parsePayload at h
  split at h
  · split at h
    · cases h
    · split at h
      · cases h
      · split at h
        · cases h
        · split at h
          · cases h
          · rename_i hs
            split at h
            · split at h
              · split at h
                · cases h
                · split at h
                  · cases h
                  · cases h
                    simpa using hs
              · cases h
            · cases h
  · cases h

structure SchedulerClaim where
  jobId : String
  subscriptionId : String
  accountId : String
  platform : Platform
  scheduleRevision : Nat
  attempt : Nat
  maxAttempts : Nat
  leaseToken : String
  leaseExpiresAt : Time
  retryPolicy : RetryPolicy
  runId : Option String

/-- `_claim`. -/
def claimOf (job : Job) : Except SchedulerError SchedulerClaim := do
  let payload ← parsePayload job
  match job.subscriptionId, job.accountId, job.platform, job.leaseToken, job.leaseExpiresAt with
  | some subscriptionId, some accountId, some platform, some leaseToken, some leaseExpiresAt =>
    .ok {
      jobId := job.id
      subscriptionId := subscriptionId
      accountId := accountId
      platform := platform
      scheduleRevision := payload.scheduleRevision
      attempt := job.attempts
      maxAttempts := job.maxAttempts
      leaseToken := leaseToken
      leaseExpiresAt := leaseExpiresAt
      retryPolicy := payload.retryPolicy
      runId := job.runId }
  | _, _, _, _, _ =>
    .error (schedulerRepositoryError
      "claimed sync.subscription job scope or lease is incomplete")

structure SchedulerJobSummary where
  jobId : String
  subscriptionId : String
  accountId : String
  platform : Platform
  status : JobStatus
  attempts : Nat
  maxAttempts : Nat
  availableAt : Time
  scheduledFor : Option Time
  runId : Option String
  lastErrorCode : Option String
  createdAt : Time
  updatedAt : Time
  startedAt : Option Time
  finishedAt : Option Time

/-- `_summary`. -/
def summary (job : Job) : Except SchedulerError SchedulerJobSummary :=
  if job.jobType ≠ syncSubscriptionJobType then
    .error (schedulerRepositoryError "scheduler projection rejected a foreign job type")
  else match job.subscriptionId, job.accountId, job.platform with
    | some subscriptionId, some accountId, some platform =>
      .ok {
        jobId := job.id
        subscriptionId := subscriptionId
        accountId := accountId
        platform := platform
        status := job.status
        attempts := job.attempts
        maxAttempts := job.maxAttempts
        availableAt := job.availableAt
        scheduledFor := job.scheduledFor
        runId := job.runId
        lastErrorCode := job.lastErrorCode
        createdAt := job.createdAt
        updatedAt := job.updatedAt
        startedAt := job.startedAt
        finishedAt := job.finishedAt }
    | _, _, _ => .error (schedulerRepositoryError "sync.subscription job scope is incomplete")

end MediaSync.Scheduler
