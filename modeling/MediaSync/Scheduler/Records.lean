import MediaSync.Foundation.Table
import MediaSync.Foundation.Transaction
import MediaSync.Scheduler.Policy

/-!
# Durable records

The rows that a scheduler session reads and writes, the session itself as a
transactional program over the tables, and the row updates it is made of. A
row that the session holds is named by its key and read from the table, as the
identity map refreshes it after every `RETURNING`.

The partial unique index over active cycles is not part of the tables: no
operation here relies on it. Generated identifiers are drawn in order from a
stream; a rolled back transaction leaves the stream where it was.
-/

namespace MediaSync.Scheduler

open Python Transaction

inductive Platform where
  | xhs | dy | ks | bili | wb | tieba | zhihu
  deriving DecidableEq, Repr

def Platform.value : Platform → String
  | .xhs => "xhs"
  | .dy => "dy"
  | .ks => "ks"
  | .bili => "bili"
  | .wb => "wb"
  | .tieba => "tieba"
  | .zhihu => "zhihu"

inductive JobStatus where
  | queued | claimed | running | retryWait | waitingAuth | waitingUser
  | succeeded | failedRetryable | failedTerminal | cancelled
  deriving DecidableEq, Repr

namespace JobStatus

/-- `TERMINAL_JOB_STATUSES`. -/
def isTerminal : JobStatus → Bool
  | succeeded | failedTerminal | cancelled => true
  | _ => false

/-- `_ACTIVE_WORK_STATUSES`: the statuses under a lease. -/
def isActiveWork : JobStatus → Bool
  | claimed | running => true
  | _ => false

/-- `ACTIVE_SYNC_JOB_STATUSES`, which is also the complement of the terminal ones. -/
def isActive (s : JobStatus) : Bool := !s.isTerminal

/-- `_REQUEUE_STATUSES`. -/
def isRequeue : JobStatus → Bool
  | retryWait | failedRetryable => true
  | _ => false

/-- `_WAITING_STATUSES`. -/
def isWaiting : JobStatus → Bool
  | waitingAuth | waitingUser => true
  | _ => false

theorem not_isTerminal_of_isActiveWork {s : JobStatus} (h : s.isActiveWork = true) :
    s.isTerminal = false := by
  cases s <;> first | rfl | cases h

end JobStatus

inductive RunStatus where
  | queued | claimed | awaitingAuth | running | ingesting
  | succeeded | failedRetryable | failedTerminal | cancelled
  deriving DecidableEq, Repr

namespace RunStatus

def value : RunStatus → String
  | queued => "queued"
  | claimed => "claimed"
  | awaitingAuth => "awaiting_auth"
  | running => "running"
  | ingesting => "ingesting"
  | succeeded => "succeeded"
  | failedRetryable => "failed_retryable"
  | failedTerminal => "failed_terminal"
  | cancelled => "cancelled"

def isTerminal : RunStatus → Bool
  | succeeded | failedTerminal | cancelled => true
  | _ => false

/-- `RUN_TRANSITIONS`. -/
def transitions : RunStatus → List RunStatus
  | queued => [claimed, cancelled]
  | claimed => [awaitingAuth, running, failedRetryable, failedTerminal, cancelled]
  | awaitingAuth => [running, failedRetryable, failedTerminal, cancelled]
  | running => [awaitingAuth, ingesting, failedRetryable, failedTerminal, cancelled]
  | ingesting => [awaitingAuth, succeeded, failedRetryable, failedTerminal, cancelled]
  | failedRetryable => [queued, cancelled]
  | succeeded | failedTerminal | cancelled => []

end RunStatus

structure Account where
  id : String
  platform : Platform
  adapter : String
  authStatus : String
  authRevision : Nat

structure Author where
  id : String
  platform : Platform
  remoteId : String

structure Subscription where
  id : String
  accountId : String
  authorId : String
  enabled : Bool
  deletedAt : Option Time
  intervalSeconds : Nat
  maxItems : Nat
  cursor : Option Json
  checkpointRevision : Nat
  scheduleRevision : Nat
  policy : Json
  nextRunAt : Option Time
  lastRunAt : Option Time
  lastSuccessAt : Option Time
  consecutiveFailures : Nat
  createdAt : Time
  updatedAt : Time

structure SyncRun where
  id : String
  subscriptionId : String
  status : RunStatus
  attempt : Nat
  cursorBefore : Option Json
  cursorAfter : Option Json
  checkpointRevisionBefore : Nat
  checkpointRevisionAfter : Option Nat
  manifest : Json
  errorCode : Option String
  errorMessage : Option String
  eventSequence : Nat
  startedAt : Option Time
  finishedAt : Option Time
  updatedAt : Time

structure Job where
  id : String
  runId : Option String
  subscriptionId : Option String
  accountId : Option String
  platform : Option Platform
  jobType : String
  naturalKey : String
  payload : Json
  status : JobStatus
  priority : Int
  attempts : Nat
  maxAttempts : Nat
  availableAt : Time
  scheduledFor : Option Time
  leaseOwner : Option String
  leaseToken : Option String
  leaseExpiresAt : Option Time
  lastErrorCode : Option String
  lastErrorMessage : Option String
  startedAt : Option Time
  finishedAt : Option Time
  createdAt : Time
  updatedAt : Time

inductive CircuitState where
  | closed | opened | halfOpen
  deriving DecidableEq, Repr

inductive ScopeType where
  | platform | account
  deriving DecidableEq, Repr

structure SchedulerLane where
  id : String
  scopeType : ScopeType
  platform : Platform
  accountId : Option String
  maxConcurrency : Nat
  minStartIntervalSeconds : Nat
  failureThreshold : Nat
  cooldownSeconds : Nat
  nextStartAt : Option Time
  consecutiveFailures : Nat
  circuitState : CircuitState
  circuitOpenUntil : Option Time
  halfOpenJobId : Option String
  revision : Nat
  createdAt : Time
  updatedAt : Time
  deriving DecidableEq

structure Operation where
  id : String
  kind : String
  targetType : String
  targetId : String
  state : String

/-- The three delivery contracts; each has its own progress table. -/
inductive Contract where
  | bili | xhs | douyin
  deriving DecidableEq, Repr

structure DeliveryBinding where
  accountId : String
  authRevision : Nat
  authorId : String
  authorFingerprintSha256 : String
  scope : String
  policyFingerprintSha256 : String
  upstreamSha : String
  deriving DecidableEq

inductive DeliveryPhase where
  | backfill | reconciling | incremental | blocked
  deriving DecidableEq, Repr

/-- A row of one of the progress tables. `cursorStepCount` and
`creatorFingerprintSha256` stay at their defaults in the Bili table, which has
`lastLane` instead. -/
structure DeliveryProgress where
  contract : Contract
  subscriptionId : String
  phase : DeliveryPhase
  generationId : String
  binding : DeliveryBinding
  creatorFingerprintSha256 : Option String
  checkpointRevision : Nat
  scheduleRevision : Nat
  batchCount : Nat
  observationCount : Nat
  cursorStepCount : Nat
  backfillBatchCount : Nat
  reconciliationBatchCount : Nat
  incrementalBatchCount : Nat
  partialBatchCount : Nat
  failedCount : Nat
  lastLane : Option String
  lastStopReason : Option String
  lastSyncJobId : Option String
  lastRunId : Option String
  lastPipelineJobId : Option String
  lastDeliveryAt : Option Time
  sourceEndObservedAt : Option Time
  sourceEndRunId : Option String
  sourceEndBoundarySha256 : Option String
  reconciledAt : Option Time
  reconciliationRunId : Option String
  baselineSnapshotAt : Option Time
  nextEligibleAt : Option Time
  blockedCode : Option String
  createdAt : Time
  updatedAt : Time

def DeliveryProgress.key (p : DeliveryProgress) : Contract × String :=
  (p.contract, p.subscriptionId)

structure SubscriptionScanProgress where
  subscriptionId : String
  feed : String
  checkpointRevision : Nat
  lastLane : String
  lastStopReason : String

def SubscriptionScanProgress.key (p : SubscriptionScanProgress) : String × String :=
  (p.subscriptionId, p.feed)

structure SyncRunContent where
  runId : String
  contentId : String
  subscriptionId : String

def SyncRunContent.key (c : SyncRunContent) : String × String := (c.runId, c.contentId)

structure Db where
  accounts : Table Account.id
  authors : Table Author.id
  subscriptions : Table Subscription.id
  jobs : Table Job.id
  runs : Table SyncRun.id
  lanes : Table SchedulerLane.id
  operations : Table Operation.id
  progress : Table DeliveryProgress.key
  scanProgress : Table SubscriptionScanProgress.key
  runContents : Table SyncRunContent.key
  /-- how many identifiers `new_uuid` has handed out -/
  drawn : Nat

abbrev Session := Tx Db SchedulerError

open SchedulerError

/-- `new_uuid` over a stream of identifiers. -/
def newUuid (uuid : Nat → String) : Session String :=
  Tx.modifyGet (fun db => (uuid db.drawn, { db with drawn := db.drawn + 1 }))

def getAccount (id : String) : Session (Option Account) := Tx.read (fun db => db.accounts.get? id)
def getAuthor (id : String) : Session (Option Author) := Tx.read (fun db => db.authors.get? id)
def getSubscription (id : String) : Session (Option Subscription) :=
  Tx.read (fun db => db.subscriptions.get? id)
def getJob (id : String) : Session (Option Job) := Tx.read (fun db => db.jobs.get? id)
def getRun (id : String) : Session (Option SyncRun) := Tx.read (fun db => db.runs.get? id)
def getLane (id : String) : Session (Option SchedulerLane) := Tx.read (fun db => db.lanes.get? id)
def getProgress (contract : Contract) (subscriptionId : String) :
    Session (Option DeliveryProgress) :=
  Tx.read (fun db => db.progress.get? (contract, subscriptionId))

/-- The row that a foreign key names; the constraint keeps it present. -/
def require? {α : Type} (x : Option α) (message : String) : Session α :=
  match x with
  | some a => pure a
  | none => Tx.throw (notFoundError message)

namespace Db

def setJob (db : Db) (id : String) (values : Job → Job) : Db :=
  { db with jobs := db.jobs.update (fun j => j.id = id) (fun j => { values j with id := j.id }) }

def setRun (db : Db) (id : String) (values : SyncRun → SyncRun) : Db :=
  { db with runs := db.runs.update (fun r => r.id = id) (fun r => { values r with id := r.id }) }

def setLane (db : Db) (id : String) (values : SchedulerLane → SchedulerLane) : Db :=
  { db with
    lanes := db.lanes.update (fun l => l.id = id) (fun l => { values l with id := l.id }) }

def setSubscription (db : Db) (id : String) (values : Subscription → Subscription) : Db :=
  { db with
    subscriptions :=
      db.subscriptions.update (fun s => s.id = id) (fun s => { values s with id := s.id }) }

def setProgress (db : Db) (contract : Contract) (subscriptionId : String)
    (values : DeliveryProgress → DeliveryProgress) : Db :=
  { db with
    progress := db.progress.update (fun p => p.key = (contract, subscriptionId))
      (fun p => { values p with contract := p.contract, subscriptionId := p.subscriptionId }) }

theorem get?_setJob (db : Db) (id : String) (values : Job → Job) (k : String) :
    (db.setJob id values).jobs.get? k =
      if k = id then (db.jobs.get? k).map (fun j => { values j with id := j.id })
      else db.jobs.get? k :=
  Table.get?_updateKey db.jobs id _ (by intro j; rfl) k

theorem get?_setRun (db : Db) (id : String) (values : SyncRun → SyncRun) (k : String) :
    (db.setRun id values).runs.get? k =
      if k = id then (db.runs.get? k).map (fun r => { values r with id := r.id })
      else db.runs.get? k :=
  Table.get?_updateKey db.runs id _ (by intro r; rfl) k

theorem get?_setLane (db : Db) (id : String) (values : SchedulerLane → SchedulerLane)
    (k : String) :
    (db.setLane id values).lanes.get? k =
      if k = id then (db.lanes.get? k).map (fun l => { values l with id := l.id })
      else db.lanes.get? k :=
  Table.get?_updateKey db.lanes id _ (by intro l; rfl) k

theorem get?_setSubscription (db : Db) (id : String) (values : Subscription → Subscription)
    (k : String) :
    (db.setSubscription id values).subscriptions.get? k =
      if k = id then (db.subscriptions.get? k).map (fun s => { values s with id := s.id })
      else db.subscriptions.get? k :=
  Table.get?_updateKey db.subscriptions id _ (by intro s; rfl) k

end Db

/-- `update(Job).where(Job.id == id, ...).values(...).returning(Job)`. -/
def updateJob (id : String) (conditions : Db → Job → Bool) (values : Job → Job) :
    Session (Option Job) :=
  Tx.modifyGet (fun db =>
    match db.jobs.get? id with
    | none => (none, db)
    | some j =>
      if conditions db j then ((db.setJob id values).jobs.get? id, db.setJob id values)
      else (none, db))

theorem updateJob_some {id : String} {conditions : Db → Job → Bool} {values : Job → Job}
    {s t : Db} {j' : Job} (h : updateJob id conditions values s = (.ok (some j'), t)) :
    ∃ j, s.jobs.get? id = some j ∧ conditions s j = true ∧ j' = { values j with id := j.id } ∧
      t = s.setJob id values := by
  unfold updateJob at h
  simp only [Tx.run_modifyGet] at h
  cases hget : s.jobs.get? id with
  | none =>
    rw [hget] at h
    cases h
  | some j =>
    rw [hget] at h
    by_cases hc : conditions s j = true
    · simp only [hc, if_true, Prod.mk.injEq, Except.ok.injEq] at h
      obtain ⟨hj, rfl⟩ := h
      rw [Db.get?_setJob, if_pos rfl, hget] at hj
      cases hj
      exact ⟨j, rfl, hc, rfl, rfl⟩
    · simp [hc] at h

theorem updateJob_none {id : String} {conditions : Db → Job → Bool} {values : Job → Job}
    {s t : Db} (h : updateJob id conditions values s = (.ok none, t)) : t = s := by
  unfold updateJob at h
  simp only [Tx.run_modifyGet] at h
  cases hget : s.jobs.get? id with
  | none =>
    rw [hget] at h
    cases h
    rfl
  | some j =>
    rw [hget] at h
    by_cases hc : conditions s j = true
    · simp only [hc, if_true, Prod.mk.injEq, Except.ok.injEq] at h
      rw [Db.get?_setJob, if_pos rfl, hget] at h
      cases h.1
    · simp only [hc, Prod.mk.injEq] at h
      exact h.2.symm

/-- `update(SchedulerLane).where(SchedulerLane.id == id, ...)...returning(SchedulerLane)`. -/
def updateLaneRow (id : String) (conditions : SchedulerLane → Bool)
    (values : SchedulerLane → SchedulerLane) : Session (Option SchedulerLane) :=
  Tx.modifyGet (fun db =>
    match db.lanes.get? id with
    | none => (none, db)
    | some l =>
      if conditions l then ((db.setLane id values).lanes.get? id, db.setLane id values)
      else (none, db))

/-- `update(Subscription).where(Subscription.id == id, ...)...returning(Subscription)`. -/
def updateSubscription (id : String) (conditions : Db → Subscription → Bool)
    (values : Subscription → Subscription) : Session (Option Subscription) :=
  Tx.modifyGet (fun db =>
    match db.subscriptions.get? id with
    | none => (none, db)
    | some s =>
      if conditions db s then
        ((db.setSubscription id values).subscriptions.get? id, db.setSubscription id values)
      else (none, db))

/-- `session.add(job); session.flush()` under the primary and natural keys. -/
def insertJob (job : Job) : Session Job := fun db =>
  if db.jobs.rows.any (fun j => j.jobType = job.jobType && j.naturalKey = job.naturalKey) then
    (.error (integrityError "jobs"), db)
  else match db.jobs.insert? job with
    | some jobs => (.ok job, { db with jobs := jobs })
    | none => (.error (integrityError "jobs"), db)

/-- `SyncRunRepository.set_status`. -/
def setRunStatus (runId : String) (status expected : RunStatus) (errorCode : Option String)
    (now : Time) : Session Unit := do
  Tx.require (status ∈ expected.transitions)
    (invalidStateTransitionError "sync_run" expected.value status.value)
  let run ← getRun runId
  Tx.require (run.any (fun r => r.status = expected))
    (repositoryError s!"sync run {runId} is missing or no longer has status {expected.value}")
  Tx.modify (fun db => db.setRun runId (fun r =>
    { r with
      status := status, errorCode := errorCode, errorMessage := none, updatedAt := now
      startedAt := if status = .claimed ∨ status = .running then r.startedAt <|> some now
        else r.startedAt
      finishedAt := if status.isTerminal then some now else r.finishedAt
      eventSequence := r.eventSequence + 1 }))

/-- `SubscriptionRepository.require_active`. -/
def requireActive (subscriptionId : String) : Session Subscription := do
  let subscription ← getSubscription subscriptionId
  match subscription with
  | none => Tx.throw (notFoundError "subscription not found")
  | some s => do
    Tx.require s.deletedAt.isNone (subscriptionRemovalError "subscription_removed")
    pure s

end MediaSync.Scheduler
