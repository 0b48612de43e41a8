import MediaSync.Scheduler.Records

/-!
# Delivery progress before a cycle

Materializing a cycle first brings the subscription's delivery row in step with
its current account, policy, creator and upstream revision. The three contracts
select a subscription by platform; Bili keeps its history cursor over a change
of policy, the creator contracts start again.

Cursor decoding, policy parsing and hashing are the codec's.
-/

namespace MediaSync.Scheduler

open Python Transaction SchedulerError

namespace Contract

def platform : Contract → Platform
  | .bili => .bili
  | .xhs => .xhs
  | .douyin => .dy

def scope : Contract → String
  | .bili => "uploads"
  | .xhs => "notes"
  | .douyin => "posts"

end Contract

/-- The pure functions that delivery takes from the scan and policy modules. -/
structure DeliveryCodec where
  sha256 : String → String
  /-- `bili_policy_fingerprint` and its two siblings; `none` for `ValueError` -/
  policyFingerprint : Contract → Json → Nat → Option String
  /-- `_head_cursor` with `preserve_history` set; `none` when nothing can be kept -/
  headCursor : Option Json → DeliveryBinding → Option Json
  /-- `UUID(value)` succeeds -/
  isUuid : String → Bool

def maxCounter : Nat := 9007199254740991

def isLowerHex (c : Char) : Bool := c.isDigit || ('a' ≤ c && c ≤ 'f')

/-- `[0-9a-f]{40}\Z`. -/
def isSha1 (value : String) : Bool := value.length = 40 && value.toList.all isLowerHex

/-- `binding_for_subscription` and its two siblings, on the subscription's rows. -/
def bindingFor (codec : DeliveryCodec) (contract : Contract) (s : Subscription) (account : Account)
    (author : Author) (upstreamSha : Option String) : Option DeliveryBinding :=
  match upstreamSha with
  | none => none
  | some sha =>
    if isSha1 sha && account.adapter = "mediacrawler" && account.platform = contract.platform &&
        author.platform = contract.platform then
      match codec.policyFingerprint contract s.policy s.maxItems with
      | none => none
      | some fingerprint =>
        if codec.isUuid s.id && codec.isUuid s.accountId && codec.isUuid s.authorId &&
            account.authRevision ≤ maxCounter then
          some {
            accountId := s.accountId
            authRevision := account.authRevision
            authorId := s.authorId
            authorFingerprintSha256 := codec.sha256 author.remoteId
            scope := contract.scope
            policyFingerprintSha256 := fingerprint
            upstreamSha := sha }
        else none
    else none

/-- `binding_for_subscription(subscription, upstream_sha)` through the relationships. -/
def bindingForSubscription (codec : DeliveryCodec) (contract : Contract)
    (upstreamSha : Option String) (s : Subscription) : Session (Option DeliveryBinding) := do
  let account ← getAccount s.accountId
  let account ← require? account "account not found"
  let author ← getAuthor s.authorId
  let author ← require? author "author not found"
  pure (bindingFor codec contract s account author upstreamSha)

/-- A fresh row for a binding. -/
def newProgress (contract : Contract) (s : Subscription) (binding : DeliveryBinding)
    (generationId : String) (scheduleRevision : Nat) (now : Time) : DeliveryProgress where
  contract := contract
  subscriptionId := s.id
  phase := .backfill
  generationId := generationId
  binding := binding
  creatorFingerprintSha256 := none
  checkpointRevision := s.checkpointRevision
  scheduleRevision := scheduleRevision
  batchCount := 0
  observationCount := 0
  cursorStepCount := 0
  backfillBatchCount := 0
  reconciliationBatchCount := 0
  incrementalBatchCount := 0
  partialBatchCount := 0
  failedCount := 0
  lastLane := none
  lastStopReason := none
  lastSyncJobId := none
  lastRunId := none
  lastPipelineJobId := none
  lastDeliveryAt := none
  sourceEndObservedAt := none
  sourceEndRunId := none
  sourceEndBoundarySha256 := none
  reconciledAt := none
  reconciliationRunId := none
  baselineSnapshotAt := none
  nextEligibleAt := s.nextRunAt
  blockedCode := none
  createdAt := now
  updatedAt := now

def clearEvidence (phase : DeliveryPhase) (generationId : String) (now : Time)
    (row : DeliveryProgress) : DeliveryProgress :=
  { row with
    phase := phase, generationId := generationId, creatorFingerprintSha256 := none
    batchCount := 0, observationCount := 0, cursorStepCount := 0
    backfillBatchCount := 0, reconciliationBatchCount := 0, incrementalBatchCount := 0
    partialBatchCount := 0, failedCount := 0
    lastLane := none, lastStopReason := none, lastSyncJobId := none, lastRunId := none
    lastPipelineJobId := none, lastDeliveryAt := none
    sourceEndObservedAt := none, sourceEndRunId := none, sourceEndBoundarySha256 := none
    reconciledAt := none, reconciliationRunId := none, baselineSnapshotAt := none
    nextEligibleAt := none, blockedCode := none, updatedAt := now }

/-- The phase a blocked row resumes in. -/
def resumedPhase (contract : Contract) (row : DeliveryProgress) : DeliveryPhase :=
  match contract with
  | .bili => if row.sourceEndObservedAt.isSome then .reconciling else .backfill
  | .xhs | .douyin =>
    if row.baselineSnapshotAt.isSome then .incremental
    else if row.sourceEndObservedAt.isSome then .reconciling
    else .backfill

/-- Whether a changed binding keeps the row's history, and the cursor that results. -/
def replacementCursor (codec : DeliveryCodec) (contract : Contract) (s : Subscription)
    (row : DeliveryProgress) (binding : DeliveryBinding) : Option Json :=
  match contract with
  | .bili =>
    if row.binding.accountId = binding.accountId ∧ row.binding.authorId = binding.authorId ∧
        row.binding.authorFingerprintSha256 = binding.authorFingerprintSha256 ∧
        row.binding.scope = binding.scope ∧ row.binding.upstreamSha = binding.upstreamSha ∧
        (row.baselineSnapshotAt.isSome ∨ row.sourceEndObservedAt.isSome) then
      codec.headCursor s.cursor binding
    else none
  | .xhs | .douyin => none

/-- `dict(subscription.cursor) if isinstance(subscription.cursor, Mapping) else None`. -/
def currentCursor (s : Subscription) : Option Json :=
  match s.cursor with
  | some (.obj fields) => some (.obj fields)
  | _ => none

/-- Whether a changed binding moves the cursor; the creator contracts always do. -/
def cursorMoves (contract : Contract) (s : Subscription) (replacement : Option Json) : Bool :=
  match contract with
  | .bili => !Json.same? replacement (currentCursor s)
  | .xhs | .douyin => true

/-- `ensure_for_materialization` of the three progress repositories. -/
def ensureForMaterialization (codec : DeliveryCodec) (uuid : Nat → String) (contract : Contract)
    (subscriptionId : String) (upstreamSha : Option String) (scheduleRevision : Nat) (now : Time)
    (resumeBlocked : Bool) : Session (Option DeliveryProgress) := do
  let s ← getSubscription subscriptionId
  let s ← require? s "subscription not found"
  let binding ← bindingForSubscription codec contract upstreamSha s
  match binding with
  | none => pure none
  | some binding => do
    let row ← getProgress contract s.id
    match row with
    | none => do
      let generationId ← newUuid uuid
      let row := newProgress contract s binding generationId scheduleRevision now
      fun db => match db.progress.insert? row with
        | some progress => (.ok (some row), { db with progress := progress })
        | none => (.error (integrityError "progress"), db)
    | some row =>
      if row.binding = binding then
        if row.phase = .blocked ∧ resumeBlocked then do
          Tx.modify (fun db => db.setProgress contract s.id (fun row =>
            { row with
              phase := resumedPhase contract row, blockedCode := none
              nextEligibleAt := s.nextRunAt, checkpointRevision := s.checkpointRevision
              scheduleRevision := scheduleRevision, updatedAt := now }))
          getProgress contract s.id
        else pure (some row)
      else do
        let replacement := replacementCursor codec contract s row binding
        let moved := cursorMoves contract s replacement
        let checkpointRevision := if moved then s.checkpointRevision + 1 else s.checkpointRevision
        let generationId ← newUuid uuid
        Tx.modify (fun db => db.setSubscription s.id (fun s =>
          { s with
            cursor := if moved then replacement else s.cursor
            checkpointRevision := checkpointRevision }))
        Tx.modify (fun db => db.setProgress contract s.id (fun row =>
          { clearEvidence (if replacement.isSome then .reconciling else .backfill)
              generationId now row with
            binding := binding, checkpointRevision := checkpointRevision
            scheduleRevision := scheduleRevision }))
        getProgress contract s.id

end MediaSync.Scheduler
