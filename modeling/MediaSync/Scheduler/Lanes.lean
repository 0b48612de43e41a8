import MediaSync.Scheduler.Payload

/-!
# Scheduler lanes

Each job runs in a platform lane and an account lane. A lane limits
concurrency and start rate and carries a circuit; a half-open circuit names the
one probe job that may run in it.
-/

namespace MediaSync.Scheduler

open Python Transaction SchedulerError

/-- `LanePolicy`: an instance that `__post_init__` accepts. -/
structure LanePolicy where
  scopeType : ScopeType
  platform : Platform
  accountId : Option String
  maxConcurrency : Nat
  minStartIntervalSeconds : Nat
  failureThreshold : Nat
  cooldownSeconds : Nat
  scope_shape : accountId.isSome = (scopeType = .account)
  account_text : ∀ a ∈ accountId, (requiredText a "account_id" 36).isOk = true
  concurrency_range : 1 ≤ maxConcurrency ∧ maxConcurrency ≤ maxBatch
  interval_range : minStartIntervalSeconds ≤ maxLaneSeconds
  threshold_range : 1 ≤ failureThreshold ∧ failureThreshold ≤ maxRevision
  cooldown_range : 1 ≤ cooldownSeconds ∧ cooldownSeconds ≤ maxLaneSeconds

namespace LanePolicy

/-- `LanePolicy(scope_type="platform", platform=platform)`. -/
def ofPlatform (platform : Platform) : LanePolicy where
  scopeType := .platform
  platform := platform
  accountId := none
  maxConcurrency := 1
  minStartIntervalSeconds := 5
  failureThreshold := 3
  cooldownSeconds := 900
  scope_shape := by simp
  account_text := by intro a ha; cases ha
  concurrency_range := by decide
  interval_range := by decide
  threshold_range := by decide
  cooldown_range := by decide

/-- `LanePolicy(scope_type="account", platform=platform, account_id=account_id)`. -/
def ofAccount (platform : Platform) (accountId : String) : Except SchedulerError LanePolicy :=
  if h : (requiredText accountId "account_id" 36).isOk = true then
    .ok {
      scopeType := .account
      platform := platform
      accountId := some accountId
      maxConcurrency := 1
      minStartIntervalSeconds := 5
      failureThreshold := 3
      cooldownSeconds := 900
      scope_shape := by simp
      account_text := by
        intro a ha
        cases ha
        exact h
      concurrency_range := by decide
      interval_range := by decide
      threshold_range := by decide
      cooldown_range := by decide }
  else .error (valueError "account_id is invalid")

theorem ofAccount_ok {platform : Platform} {accountId : String} {p : LanePolicy}
    (h : ofAccount platform accountId = .ok p) :
    p.scopeType = .account ∧ p.platform = platform ∧ p.accountId = some accountId := by
  unfold ofAccount at h
  split at h
  · cases h
    exact ⟨rfl, rfl, rfl⟩
  · cases h

end LanePolicy

namespace SchedulerLane

/-- `_lane_filter`. -/
def inScope (l : SchedulerLane) (scopeType : ScopeType) (platform : Platform)
    (accountId : Option String) : Bool :=
  match scopeType with
  | .platform => l.scopeType = .platform && l.platform = platform && l.accountId.isNone
  | .account => l.scopeType = .account && l.platform = platform && l.accountId = accountId

/-- The two unique indexes of the lane table: one lane for each platform, one for
each account. -/
def sameSlot (l m : SchedulerLane) : Bool :=
  (l.scopeType = .platform && m.scopeType = .platform && l.platform = m.platform) ||
    (l.scopeType = .account && m.scopeType = .account && l.accountId = m.accountId)

/-- The lane counts this job: the platform lane by platform, the account lane by account. -/
def counts (l : SchedulerLane) (j : Job) : Bool :=
  match l.scopeType with
  | .platform => j.platform = some l.platform
  | .account => l.accountId.isSome && j.accountId = l.accountId

end SchedulerLane

structure LaneSnapshot where
  laneId : String
  policy : LanePolicy
  nextStartAt : Option Time
  consecutiveFailures : Nat
  circuitState : CircuitState
  circuitOpenUntil : Option Time
  halfOpenJobId : Option String
  revision : Nat
  createdAt : Time
  updatedAt : Time

def findLane (db : Db) (policy : LanePolicy) : Option SchedulerLane :=
  db.lanes.rows.find? (fun l => l.inScope policy.scopeType policy.platform policy.accountId)

/-- The row that `_ensure_lane` inserts. -/
def newLane (policy : LanePolicy) (id : String) (now : Time) : SchedulerLane where
  id := id
  scopeType := policy.scopeType
  platform := policy.platform
  accountId := policy.accountId
  maxConcurrency := policy.maxConcurrency
  minStartIntervalSeconds := policy.minStartIntervalSeconds
  failureThreshold := policy.failureThreshold
  cooldownSeconds := policy.cooldownSeconds
  nextStartAt := none
  consecutiveFailures := 0
  circuitState := .closed
  circuitOpenUntil := none
  halfOpenJobId := none
  revision := 0
  createdAt := now
  updatedAt := now

/-- `insert(SchedulerLane)...on_conflict_do_nothing()`. -/
def insertLaneIfAbsent (lane : SchedulerLane) : Session Unit :=
  Tx.modify (fun db =>
    if db.lanes.rows.any (fun l => l.sameSlot lane) then db
    else match db.lanes.insert? lane with
      | some lanes => { db with lanes := lanes }
      | none => db)

/-- The account of an account lane exists on the lane's platform. -/
def checkLaneAccount (policy : LanePolicy) : Session Unit :=
  match policy.accountId with
  | none => pure ()
  | some accountId => do
    let account ← getAccount accountId
    match account with
    | none => Tx.throw (notFoundError s!"account not found: {accountId}")
    | some account =>
      Tx.require (account.platform = policy.platform)
        (schedulerRepositoryError "account lane platform does not match its account")

/-- `_ensure_lane`, returning the row's key. -/
def ensureLane (uuid : Nat → String) (policy : LanePolicy) (now : Time) : Session String := do
  checkLaneAccount policy
  let id ← newUuid uuid
  insertLaneIfAbsent (newLane policy id now)
  let lane ← Tx.read (fun db => findLane db policy)
  match lane with
  | some lane => pure lane.id
  | none => Tx.throw (schedulerRepositoryError "scheduler lane insert lost its durable row")

/-- `_job_lanes`: the keys of the platform lane and the account lane. -/
def jobLanes (uuid : Nat → String) (job : Job) (now : Time) : Session (List String) :=
  match job.platform, job.accountId with
  | some platform, some accountId => do
    let platformLane ← ensureLane uuid (LanePolicy.ofPlatform platform) now
    let policy ← Tx.ofExcept (LanePolicy.ofAccount platform accountId)
    let accountLane ← ensureLane uuid policy now
    pure [platformLane, accountLane]
  | _, _ =>
    Tx.throw (schedulerRepositoryError "sync.subscription job lane scope is incomplete")

/-- The row behind a lane the session holds. -/
def heldLane (laneId : String) : Session SchedulerLane := do
  let lane ← getLane laneId
  require? lane "scheduler lane not found"

def laneActiveCount (db : Db) (lane : SchedulerLane) : Nat :=
  db.jobs.rows.countP (fun j => j.isSync && j.isActiveWork && lane.counts j)

def laneAllows (db : Db) (lane : SchedulerLane) (jobId : String) (now : Time) : Bool :=
  if lane.nextStartAt.any (fun t => now < t) then false
  else if lane.maxConcurrency ≤ laneActiveCount db lane then false
  else match lane.circuitState with
    | .closed => true
    | .opened => lane.circuitOpenUntil.any (fun t => t ≤ now)
    | .halfOpen => lane.halfOpenJobId = none || lane.halfOpenJobId = some jobId

def reserveLane (laneId : String) (jobId : String) (now : Time) : Session Unit := do
  let lane ← heldLane laneId
  let nextStartAt ← Tx.ofExcept
    (safeAdd now lane.minStartIntervalSeconds "min_start_interval_seconds")
  let reserved ← updateLaneRow lane.id
    (fun l => l.revision = lane.revision && l.nextStartAt.all (fun t => t ≤ now) &&
      match lane.circuitState with
      | .closed => l.circuitState = .closed
      | .opened => l.circuitState = .opened && l.circuitOpenUntil.any (fun t => t ≤ now)
      | .halfOpen => l.circuitState = .halfOpen &&
          (l.halfOpenJobId = none || l.halfOpenJobId = some jobId))
    (fun l => { l with
      nextStartAt := some nextStartAt
      revision := l.revision + 1
      updatedAt := now
      circuitState := if lane.circuitState = .opened then .halfOpen else l.circuitState
      circuitOpenUntil := none
      halfOpenJobId := if lane.circuitState = .closed then none else some jobId })
  Tx.require reserved.isSome
    (staleLaneError "scheduler lane reservation changed concurrently")

/-- The columns that `_update_lane_values` is called with. -/
structure CircuitValues where
  consecutiveFailures : Nat
  circuitState : CircuitState
  circuitOpenUntil : Option Time
  halfOpenJobId : Option String

def updateLaneValues (lane : SchedulerLane) (values : CircuitValues) (now : Time) :
    Session Unit := do
  let updated ← updateLaneRow lane.id (fun l => l.revision = lane.revision)
    (fun l => { l with
      consecutiveFailures := values.consecutiveFailures
      circuitState := values.circuitState
      circuitOpenUntil := values.circuitOpenUntil
      halfOpenJobId := values.halfOpenJobId
      revision := l.revision + 1
      updatedAt := now })
  Tx.require updated.isSome (staleLaneError "scheduler lane result revision changed")

/-- A closed circuit with the given failure count. -/
def closedCircuit (failures : Nat) : CircuitValues := ⟨failures, .closed, none, none⟩

/-- The lanes a job settles: the given ones, or its own two. -/
def settledLanes (uuid : Nat → String) (job : Job) (now : Time)
    (lockedLanes : Option (List String)) : Session (List String) :=
  match lockedLanes with
  | some lanes => pure lanes
  | none => jobLanes uuid job now

/-- One lane of `_apply_lane_success`. -/
def laneSuccess (job : Job) (now : Time) (laneId : String) : Session Unit := do
  let lane ← heldLane laneId
  if lane.circuitState = .closed then updateLaneValues lane (closedCircuit 0) now
  else if lane.circuitState = .halfOpen ∧ lane.halfOpenJobId = some job.id then
    updateLaneValues lane (closedCircuit 0) now
  else pure ()

def applyLaneSuccess (uuid : Nat → String) (job : Job) (now : Time)
    (lockedLanes : Option (List String)) : Session Unit := do
  let lanes ← settledLanes uuid job now lockedLanes
  Tx.forEach (laneSuccess job now) lanes

/-- The circuit of a lane after a counted failure. -/
def failedCircuit (lane : SchedulerLane) (now : Time) : Except SchedulerError CircuitValues :=
  let failures := min maxRevision (lane.consecutiveFailures + 1)
  if lane.circuitState = .opened ∨ lane.circuitState = .halfOpen ∨
      lane.failureThreshold ≤ failures then
    match safeAdd now lane.cooldownSeconds "cooldown_seconds" with
    | .error e => .error e
    | .ok openUntil =>
      .ok ⟨failures, .opened,
        some (match lane.circuitState, lane.circuitOpenUntil with
          | .opened, some current => max openUntil current
          | _, _ => openUntil), none⟩
  else .ok (closedCircuit failures)

/-- One lane of `_apply_lane_failure`. -/
def laneFailure (job : Job) (now : Time) (affectsCircuit : Bool) (laneId : String) :
    Session Unit := do
  let lane ← heldLane laneId
  if affectsCircuit = false then
    if job.status.isTerminal ∧ lane.circuitState = .halfOpen ∧ lane.halfOpenJobId = some job.id then
      updateLaneValues lane (closedCircuit lane.consecutiveFailures) now
    else pure ()
  else if lane.circuitState = .halfOpen ∧ lane.halfOpenJobId ≠ none ∧
      lane.halfOpenJobId ≠ some job.id then pure ()
  else do
    let values ← Tx.ofExcept (failedCircuit lane now)
    updateLaneValues lane values now

def applyLaneFailure (uuid : Nat → String) (job : Job) (now : Time) (affectsCircuit : Bool)
    (lockedLanes : Option (List String)) : Session Unit := do
  let lanes ← settledLanes uuid job now lockedLanes
  Tx.forEach (laneFailure job now affectsCircuit) lanes

/-- One lane of `_release_lane_probe`. -/
def laneRelease (job : Job) (now : Time) (resetAll : Bool) (laneId : String) : Session Unit := do
  let lane ← heldLane laneId
  if resetAll = true ∨ (lane.circuitState = .halfOpen ∧ lane.halfOpenJobId = some job.id) then
    updateLaneValues lane
      (closedCircuit (if resetAll then 0 else lane.consecutiveFailures)) now
  else pure ()

def releaseLaneProbe (uuid : Nat → String) (job : Job) (now : Time) (resetAll : Bool)
    (lockedLanes : Option (List String)) : Session Unit := do
  let lanes ← settledLanes uuid job now lockedLanes
  Tx.forEach (laneRelease job now resetAll) lanes

def laneSnapshot (lane : SchedulerLane) (policy : LanePolicy) : LaneSnapshot where
  laneId := lane.id
  policy := policy
  nextStartAt := lane.nextStartAt
  consecutiveFailures := lane.consecutiveFailures
  circuitState := lane.circuitState
  circuitOpenUntil := lane.circuitOpenUntil
  halfOpenJobId := lane.halfOpenJobId
  revision := lane.revision
  createdAt := lane.createdAt
  updatedAt := lane.updatedAt

def updateLane (uuid : Nat → String) (policy : LanePolicy) (expectedRevision : Option Int)
    (now : Time) : Session LaneSnapshot := do
  let expected ← Tx.ofExcept (match expectedRevision with
    | none => Except.ok none
    | some r => (boundedInt r "expected_revision" 0 maxRevision).map some)
  let laneId ← ensureLane uuid policy now
  let lane ← heldLane laneId
  let updated ← updateLaneRow lane.id (fun l => l.revision = expected.getD lane.revision)
    (fun l => { l with
      maxConcurrency := policy.maxConcurrency
      minStartIntervalSeconds := policy.minStartIntervalSeconds
      failureThreshold := policy.failureThreshold
      cooldownSeconds := policy.cooldownSeconds
      revision := l.revision + 1
      updatedAt := now })
  match updated with
  | some lane => pure (laneSnapshot lane policy)
  | none => Tx.throw (staleLaneError "scheduler lane policy revision changed")

def resetLane (policy : LanePolicy) (expectedRevision : Option Int) (now : Time) :
    Session SchedulerLane := do
  let expected ← Tx.ofExcept (match expectedRevision with
    | none => Except.ok none
    | some r => (boundedInt r "expected_revision" 0 maxRevision).map some)
  let lane ← Tx.read (fun db => findLane db policy)
  match lane with
  | none => Tx.throw (notFoundError "scheduler lane not found")
  | some lane => do
    let reset ← updateLaneRow lane.id (fun l => l.revision = expected.getD lane.revision)
      (fun l => { l with
        consecutiveFailures := 0
        circuitState := .closed
        circuitOpenUntil := none
        halfOpenJobId := none
        revision := l.revision + 1
        updatedAt := now })
    match reset with
    | some lane => pure lane
    | none => Tx.throw (staleLaneError "scheduler lane state revision changed")

end MediaSync.Scheduler
