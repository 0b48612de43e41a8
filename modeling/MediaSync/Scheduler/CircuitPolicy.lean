import MediaSync.Scheduler.Records
import MediaSync.Scheduler.Policy

/-!
# The pure circuit policy

The circuit of a lane as the policy module states it, without a database: what a
snapshot may look like, whether a job may claim, and what a success or a
classified failure makes of it. A snapshot that the policy's constructor would
refuse cannot be built.
-/

namespace MediaSync.Scheduler

open Python SchedulerError

/-- The text that a half-open circuit may name as its probe. -/
def isProbeId (jobId : String) : Bool :=
  jobId ≠ "" && jobId.length ≤ 128 && jobId.toList.all (fun c => 0x20 ≤ c.toNat)

/-- `CircuitSnapshot`: an instance that `__post_init__` accepts. -/
@[ext] structure CircuitSnapshot where
  state : CircuitState
  consecutiveFailures : Nat
  openUntil : Option Time
  halfOpenJobId : Option String
  failures_range : consecutiveFailures ≤ maxRevision
  probe_text : ∀ j ∈ halfOpenJobId, isProbeId j = true
  shape : match state with
    | .closed => openUntil = none ∧ halfOpenJobId = none
    | .opened => openUntil.isSome = true ∧ halfOpenJobId = none
    | .halfOpen => openUntil = none ∧ halfOpenJobId.isSome = true

namespace CircuitSnapshot

/-- A closed circuit with the given failure count. -/
def closed (failures : Nat) (h : failures ≤ maxRevision) : CircuitSnapshot where
  state := .closed
  consecutiveFailures := failures
  openUntil := none
  halfOpenJobId := none
  failures_range := h
  probe_text := nofun
  shape := ⟨rfl, rfl⟩

/-- A circuit that stays open until a time. -/
def opened (failures : Nat) (openUntil : Time) (h : failures ≤ maxRevision) :
    CircuitSnapshot where
  state := .opened
  consecutiveFailures := failures
  openUntil := some openUntil
  halfOpenJobId := none
  failures_range := h
  probe_text := nofun
  shape := ⟨rfl, rfl⟩

/-- A half-open circuit with its probe. -/
def probing (failures : Nat) (jobId : String) (h : failures ≤ maxRevision)
    (hid : isProbeId jobId = true) : CircuitSnapshot where
  state := .halfOpen
  consecutiveFailures := failures
  openUntil := none
  halfOpenJobId := some jobId
  failures_range := h
  probe_text := by
    intro j hj
    cases hj
    exact hid
  shape := ⟨rfl, rfl⟩

end CircuitSnapshot

structure CircuitClaimDecision where
  allowed : Bool
  snapshot : CircuitSnapshot
  transitionRequired : Bool

def decideCircuitClaim (snapshot : CircuitSnapshot) (jobId : String) (now : Time) :
    Except SchedulerError CircuitClaimDecision :=
  if hid : isProbeId jobId = true then
    match snapshot.state with
    | .closed => .ok ⟨true, snapshot, false⟩
    | .halfOpen => .ok ⟨snapshot.halfOpenJobId = some jobId, snapshot, false⟩
    | .opened =>
      if snapshot.openUntil.any (fun openUntil => now < openUntil) then .ok ⟨false, snapshot, false⟩
      else .ok ⟨true, .probing snapshot.consecutiveFailures jobId snapshot.failures_range hid, true⟩
  else .error (valueError "job_id is invalid")

def circuitSuccess (_snapshot : CircuitSnapshot) : CircuitSnapshot := .closed 0 (Nat.zero_le _)

/-- `_safe_add` of the policy. -/
def policySafeAdd (value : Time) (seconds : Nat) (name : String) : Except SchedulerError Time :=
  if maxRetrySeconds < seconds then .error (valueError s!"{name} is outside the supported range")
  else match addSeconds value seconds with
    | some r => .ok r
    | none => .error (valueError s!"{name} overflows datetime")

def maxCooldownSeconds : Nat := 604800

/-- The failure count after one more. -/
def countedFailures (snapshot : CircuitSnapshot) : Nat :=
  min maxRevision (snapshot.consecutiveFailures + 1)

theorem countedFailures_le (snapshot : CircuitSnapshot) : countedFailures snapshot ≤ maxRevision :=
  Nat.min_le_left _ _

/-- A counted failure under checked limits. -/
def failedSnapshot (snapshot : CircuitSnapshot) (now : Time) (threshold cooldown : Nat) :
    Except SchedulerError CircuitSnapshot :=
  if snapshot.state = .halfOpen ∨ threshold ≤ countedFailures snapshot then
    (policySafeAdd now cooldown "circuit cooldown").map
      (fun openUntil => .opened (countedFailures snapshot) openUntil (countedFailures_le snapshot))
  else .ok (.closed (countedFailures snapshot) (countedFailures_le snapshot))

def circuitFailure (snapshot : CircuitSnapshot) (now : Time) (affectsCircuit : Bool)
    (failureThreshold cooldownSeconds : Int) : Except SchedulerError CircuitSnapshot := do
  let threshold ← boundedInt failureThreshold "failure_threshold" 1 maxRevision
  let cooldown ← boundedInt cooldownSeconds "cooldown_seconds" 1 maxCooldownSeconds
  if affectsCircuit then failedSnapshot snapshot now threshold cooldown else .ok snapshot

end MediaSync.Scheduler
