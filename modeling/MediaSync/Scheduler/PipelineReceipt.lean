import MediaSync.Scheduler.Payload

/-!
# Pipeline receipts and coordinator payloads

A coordinator names the sync job, subscription and run it was emitted for; once
it has succeeded its payload also carries the delivery receipt.
-/

namespace MediaSync.Scheduler

open Python SchedulerError

structure PipelineDeliveryReceipt where
  subscriptionId : String
  accountId : String
  authorId : String
  platform : String
  exportJobId : String
  selectedAssetCount : Nat
  verifiedAssetCount : Nat
  downloadedCount : Nat
  alreadyVerifiedCount : Nat
  publicationDisposition : String
  managedFileCount : Nat
  directoryVerified : Bool
  schemaVersion : Nat
  sourceRunId : Option String
  observedContentCount : Nat
  deliveredContentCount : Nat
  failedContentCount : Nat
  retryBacklogContentCount : Nat
  deliveredRetryBacklogContentCount : Nat
  failedRetryBacklogContentCount : Nat
  retryableFailedContentCount : Nat
  terminalFailedContentCount : Nat
  failureCodes : List String
  partialDelivery : Bool
  deriving DecidableEq

namespace PipelineDeliveryReceipt

def legacyKeys : List String :=
  ["subscription_id", "account_id", "author_id", "platform", "export_job_id",
    "selected_asset_count", "verified_asset_count", "downloaded_count", "already_verified_count",
    "publication_disposition", "managed_file_count", "directory_verified"]

def v2Keys : List String :=
  legacyKeys ++ ["schema_version", "source_run_id", "observed_content_count",
    "delivered_content_count", "failed_content_count", "retry_backlog_content_count",
    "delivered_retry_backlog_content_count", "failed_retry_backlog_content_count",
    "retryable_failed_content_count", "terminal_failed_content_count", "failure_codes", "partial"]

def platforms : List String := ["xhs", "dy", "ks", "bili", "wb", "tieba", "zhihu"]

/-- Strictly increasing: distinct and sorted. -/
def isSortedSet : List String → Bool
  | [] => true
  | [_] => true
  | a :: b :: rest => decide (a < b) && isSortedSet (b :: rest)

/-- `__post_init__`, on fields of the right types. -/
def valid (r : PipelineDeliveryReceipt) : Bool :=
  [r.subscriptionId, r.accountId, r.authorId, r.exportJobId].all isCanonicalUuid &&
    platforms.contains r.platform && (r.schemaVersion = 1 || r.schemaVersion = 2) &&
    [r.selectedAssetCount, r.verifiedAssetCount, r.downloadedCount, r.alreadyVerifiedCount,
      r.managedFileCount, r.observedContentCount, r.deliveredContentCount, r.failedContentCount,
      r.retryBacklogContentCount, r.deliveredRetryBacklogContentCount,
      r.failedRetryBacklogContentCount, r.retryableFailedContentCount,
      r.terminalFailedContentCount].all (· ≤ 9007199254740991) &&
    r.verifiedAssetCount = r.selectedAssetCount &&
    r.downloadedCount + r.alreadyVerifiedCount = r.verifiedAssetCount &&
    ["published", "already_exported"].contains r.publicationDisposition && r.directoryVerified &&
    (if r.schemaVersion = 1 then
      r.sourceRunId.isNone && r.observedContentCount = 0 && r.deliveredContentCount = 0 &&
        r.failedContentCount = 0 && r.retryBacklogContentCount = 0 &&
        r.deliveredRetryBacklogContentCount = 0 && r.failedRetryBacklogContentCount = 0 &&
        r.retryableFailedContentCount = 0 && r.terminalFailedContentCount = 0 &&
        r.failureCodes.isEmpty && !r.partialDelivery
    else
      r.sourceRunId.any isCanonicalUuid &&
        r.deliveredContentCount + r.failedContentCount = r.observedContentCount &&
        r.deliveredRetryBacklogContentCount + r.failedRetryBacklogContentCount =
          r.retryBacklogContentCount &&
        r.retryableFailedContentCount + r.terminalFailedContentCount =
          r.failedContentCount + r.failedRetryBacklogContentCount &&
        r.partialDelivery = (0 < r.failedContentCount + r.failedRetryBacklogContentCount) &&
        r.failureCodes.length ≤ 16 && isSortedSet r.failureCodes &&
        r.failureCodes.all isFixedCode &&
        r.failureCodes.isEmpty = (r.failedContentCount + r.failedRetryBacklogContentCount = 0))

def toMapping (r : PipelineDeliveryReceipt) : Json :=
  let legacy : List (String × Json) :=
    [("subscription_id", .str r.subscriptionId), ("account_id", .str r.accountId),
      ("author_id", .str r.authorId), ("platform", .str r.platform),
      ("export_job_id", .str r.exportJobId),
      ("selected_asset_count", .int r.selectedAssetCount),
      ("verified_asset_count", .int r.verifiedAssetCount),
      ("downloaded_count", .int r.downloadedCount),
      ("already_verified_count", .int r.alreadyVerifiedCount),
      ("publication_disposition", .str r.publicationDisposition),
      ("managed_file_count", .int r.managedFileCount),
      ("directory_verified", .bool r.directoryVerified)]
  if r.schemaVersion = 1 then .obj legacy
  else .obj (legacy ++
    [("schema_version", .int r.schemaVersion),
      ("source_run_id", match r.sourceRunId with
        | some id => .str id
        | none => .null),
      ("observed_content_count", .int r.observedContentCount),
      ("delivered_content_count", .int r.deliveredContentCount),
      ("failed_content_count", .int r.failedContentCount),
      ("retry_backlog_content_count", .int r.retryBacklogContentCount),
      ("delivered_retry_backlog_content_count", .int r.deliveredRetryBacklogContentCount),
      ("failed_retry_backlog_content_count", .int r.failedRetryBacklogContentCount),
      ("retryable_failed_content_count", .int r.retryableFailedContentCount),
      ("terminal_failed_content_count", .int r.terminalFailedContentCount),
      ("failure_codes", .arr (r.failureCodes.map .str)), ("partial", .bool r.partialDelivery)])

def count? (fields : List (String × Json)) (name : String) : Option Nat :=
  match Json.asInt? (Json.get? fields name) with
  | some (.ofNat n) => some n
  | _ => none

def flag? (fields : List (String × Json)) (name : String) : Option Bool :=
  match Json.get? fields name with
  | some (.bool b) => some b
  | _ => none

def texts? : List Json → Option (List String)
  | [] => some []
  | .str s :: rest => (texts? rest).map (s :: ·)
  | _ => none

/-- `from_mapping`, with `none` for `ValueError` and `TypeError`. -/
def fromMapping (value : Json) : Option PipelineDeliveryReceipt := do
  match value with
  | .obj fields =>
    let legacy := Json.hasKeys fields legacyKeys
    if !legacy && !(Json.hasKeys fields v2Keys && Json.eqInt (Json.get? fields "schema_version") 2)
    then none
    else
      let text (name : String) := Json.asStr? (Json.get? fields name)
      let v2count (name : String) := if legacy then some 0 else count? fields name
      let r : PipelineDeliveryReceipt := {
        subscriptionId := ← text "subscription_id"
        accountId := ← text "account_id"
        authorId := ← text "author_id"
        platform := ← text "platform"
        exportJobId := ← text "export_job_id"
        selectedAssetCount := ← count? fields "selected_asset_count"
        verifiedAssetCount := ← count? fields "verified_asset_count"
        downloadedCount := ← count? fields "downloaded_count"
        alreadyVerifiedCount := ← count? fields "already_verified_count"
        publicationDisposition := ← text "publication_disposition"
        managedFileCount := ← count? fields "managed_file_count"
        directoryVerified := ← flag? fields "directory_verified"
        schemaVersion := ← if legacy then some 1 else count? fields "schema_version"
        sourceRunId := if legacy then none else text "source_run_id"
        observedContentCount := ← v2count "observed_content_count"
        deliveredContentCount := ← v2count "delivered_content_count"
        failedContentCount := ← v2count "failed_content_count"
        retryBacklogContentCount := ← v2count "retry_backlog_content_count"
        deliveredRetryBacklogContentCount := ← v2count "delivered_retry_backlog_content_count"
        failedRetryBacklogContentCount := ← v2count "failed_retry_backlog_content_count"
        retryableFailedContentCount := ← v2count "retryable_failed_content_count"
        terminalFailedContentCount := ← v2count "terminal_failed_content_count"
        failureCodes := ← if legacy then some [] else
          match Json.get? fields "failure_codes" with
          | some (.arr items) => texts? items
          | _ => none
        partialDelivery := ← if legacy then some false else flag? fields "partial" }
      if r.valid then some r else none
  | _ => none

end PipelineDeliveryReceipt

def pipelineMaxAttempts : Nat := 100
def pipelineCoordinatorInvalid : String := "pipeline_coordinator_invalid"
def pipelineCoordinatorStale : String := "pipeline_coordinator_stale"

def pipelineNaturalKey (syncJobId : String) : String := "sync-job:" ++ syncJobId

def pipelineSourceKeys : List String := ["schema_version", "sync_job_id", "subscription_id", "run_id"]

structure PipelineSubscriptionPayload where
  schemaVersion : Nat
  syncJobId : String
  subscriptionId : String
  runId : String
  receipt : Option PipelineDeliveryReceipt

def PipelineSubscriptionPayload.toMapping (p : PipelineSubscriptionPayload) : Json :=
  .obj ([("schema_version", .int p.schemaVersion), ("sync_job_id", .str p.syncJobId),
    ("subscription_id", .str p.subscriptionId), ("run_id", .str p.runId)] ++
      (match p.receipt with
        | some r => [("result", r.toMapping)]
        | none => []))

/-- The receipt of a version 2 coordinator payload, bound to the job's scope. -/
def boundReceipt (job : Job) (fields : List (String × Json)) :
    Except SchedulerError PipelineDeliveryReceipt :=
  if job.status ≠ .succeeded then
    .error (pipelineJobRepositoryError "pipeline receipt requires terminal success")
  else match (Json.get? fields "result").bind PipelineDeliveryReceipt.fromMapping with
    | none => .error (pipelineJobRepositoryError "pipeline receipt is invalid")
    | some r =>
      if some r.subscriptionId ≠ job.subscriptionId ∨ some r.accountId ≠ job.accountId ∨
          some r.platform ≠ job.platform.map Platform.value then
        .error (pipelineJobRepositoryError "pipeline receipt scope is invalid")
      else .ok r

/-- `parse_pipeline_subscription_payload`. -/
def parsePipelineSubscriptionPayload (job : Job) :
    Except SchedulerError PipelineSubscriptionPayload := do
  if job.jobType ≠ pipelineSubscriptionJobType then
    .error (pipelineJobRepositoryError "pipeline projection rejected a foreign job type")
  else match job.payload with
  | .obj fields => do
    let version ← match Json.asInt? (Json.get? fields "schema_version") with
      | some 1 => .ok 1
      | some 2 => .ok 2
      | _ => .error (pipelineJobRepositoryError
          "pipeline.subscription payload schema_version is unsupported")
    if !Json.hasKeys fields (pipelineSourceKeys ++ if version = 2 then ["result"] else []) then
      .error (pipelineJobRepositoryError "pipeline.subscription payload is not closed schema")
    else do
      let receipt ← if version = 2 then (boundReceipt job fields).map some else .ok none
      let uuidText (name : String) : Except SchedulerError String :=
        match Json.asStr? (Json.get? fields name) with
        | some v => if isCanonicalUuid v then .ok v
            else .error (pipelineJobRepositoryError s!"{name} must be a canonical UUID string")
        | none => .error (pipelineJobRepositoryError s!"{name} must be a canonical UUID string")
      let syncJobId ← uuidText "sync_job_id"
      let subscriptionId ← uuidText "subscription_id"
      let runId ← uuidText "run_id"
      if job.naturalKey ≠ pipelineNaturalKey syncJobId then
        .error (pipelineJobRepositoryError
          "pipeline.subscription natural key does not match its payload")
      else if job.subscriptionId ≠ some subscriptionId ∨ job.runId ≠ some runId then
        .error (pipelineJobRepositoryError
          "pipeline.subscription payload does not match its durable scope")
      else .ok ⟨version, syncJobId, subscriptionId, runId, receipt⟩
  | _ => .error (pipelineJobRepositoryError "pipeline.subscription payload is not closed schema")

structure PipelineSubscriptionJob where
  jobId : String
  syncJobId : String
  subscriptionId : String
  accountId : String
  platform : Platform
  runId : String
  status : JobStatus
  attempts : Nat
  maxAttempts : Nat
  availableAt : Time
  createdAt : Time
  updatedAt : Time
  receipt : Option PipelineDeliveryReceipt

/-- `_projection`. -/
def pipelineProjection (job : Job) : Except SchedulerError PipelineSubscriptionJob := do
  let payload ← parsePipelineSubscriptionPayload job
  match job.accountId, job.platform with
  | some accountId, some platform =>
    if job.maxAttempts ≠ pipelineMaxAttempts then
      .error (pipelineJobRepositoryError "pipeline.subscription attempt policy is invalid")
    else .ok {
      jobId := job.id
      syncJobId := payload.syncJobId
      subscriptionId := payload.subscriptionId
      accountId := accountId
      platform := platform
      runId := payload.runId
      status := job.status
      attempts := job.attempts
      maxAttempts := job.maxAttempts
      availableAt := job.availableAt
      createdAt := job.createdAt
      updatedAt := job.updatedAt
      receipt := payload.receipt }
  | _, _ => .error (pipelineJobRepositoryError
      "pipeline.subscription account or platform scope is incomplete")

end MediaSync.Scheduler
