import MediaSync.Foundation.Transition
import MediaSync.Scheduler.CircuitPolicy
import MediaSync.Scheduler.ProbeClaim

/-!
# The circuit of a lane row

The repository keeps the circuit of the pure policy in a lane row and moves it
itself. The two move alike on every claim and on every result that the circuit
waits for. They part on late results, where the policy looks at the snapshot
alone and the repository also at the job: a success or a counted failure of a job
that is not the probe leaves the row alone, a counted failure never closes an open
row or shortens its cooldown, and a probe that ends without a verdict closes it.
-/

namespace MediaSync.Scheduler

open Python Transaction Transition SchedulerError

/-- A lane row shows the circuit of a snapshot. -/
structure Agrees (l : SchedulerLane) (c : CircuitSnapshot) : Prop where
  state : l.circuitState = c.state
  failures : l.consecutiveFailures = c.consecutiveFailures
  openUntil : l.circuitOpenUntil = c.openUntil
  probe : l.halfOpenJobId = c.halfOpenJobId

/-- The limits of a lane are some lane policy's. -/
structure Configured (l : SchedulerLane) : Prop where
  threshold : 1 ≤ l.failureThreshold ∧ l.failureThreshold ≤ maxRevision
  cooldown : 1 ≤ l.cooldownSeconds ∧ l.cooldownSeconds ≤ maxLaneSeconds

/-- What happens to the circuit of one lane. -/
inductive LaneAct where
  | claim (jobId : String) (now : Time) (valid : isProbeId jobId = true)
  | success (job : Job) (now : Time)
  | failure (job : Job) (now : Time) (affectsCircuit : Bool)
  | release (job : Job) (now : Time) (resetAll : Bool)

namespace LaneAct

/-- The lane's part of a claim: the check, and the reservation of a lane that allows it. -/
def claimLane (laneId jobId : String) (now : Time) : Session Unit := do
  let lane ← heldLane laneId
  let allowed ← Tx.read (fun db => laneAllows db lane jobId now)
  if allowed then reserveLane laneId jobId now else pure ()

def perform (laneId : String) : LaneAct → Session Unit
  | claim jobId now _ => claimLane laneId jobId now
  | success job now => laneSuccess job now laneId
  | failure job now affectsCircuit => laneFailure job now affectsCircuit laneId
  | release job now resetAll => laneRelease job now resetAll laneId

/-- What the pure policy makes of the act under the limits of a row; it has no release. -/
def policy (s : Db) (l : SchedulerLane) (c : CircuitSnapshot) :
    LaneAct → Except SchedulerError CircuitSnapshot
  | claim jobId now _ =>
    if laneAllows s l jobId now then (decideCircuitClaim c jobId now).map (·.snapshot) else .ok c
  | success _ _ => .ok (circuitSuccess c)
  | failure _ now affectsCircuit =>
    circuitFailure c now affectsCircuit l.failureThreshold l.cooldownSeconds
  | release _ _ _ => .ok c

/-- The act is a result that the circuit of the row does not wait for, or a probe that ends
without a verdict. -/
def Late (l : SchedulerLane) : LaneAct → Prop
  | claim _ _ _ => False
  | success job _ => l.circuitState ≠ .closed ∧
      ¬ (l.circuitState = .halfOpen ∧ l.halfOpenJobId = some job.id)
  | failure job now true =>
      (l.circuitState = .halfOpen ∧ l.halfOpenJobId ≠ some job.id) ∨
        (l.circuitState = .opened ∧
          (min maxRevision (l.consecutiveFailures + 1) < l.failureThreshold ∨
            l.circuitOpenUntil.any (fun t => now + l.cooldownSeconds * 1000000 < t) = true))
  | failure job _ false =>
      job.status.isTerminal = true ∧ l.circuitState = .halfOpen ∧ l.halfOpenJobId = some job.id
  | release job _ resetAll =>
      (resetAll = true ∧ (l.circuitState ≠ .closed ∨ l.consecutiveFailures ≠ 0)) ∨
        (l.circuitState = .halfOpen ∧ l.halfOpenJobId = some job.id)

/-- The circuit columns after a late act. -/
def lateCircuit (l : SchedulerLane) : LaneAct → CircuitValues
  | claim _ _ _ | success _ _ =>
      ⟨l.consecutiveFailures, l.circuitState, l.circuitOpenUntil, l.halfOpenJobId⟩
  | failure _ now true =>
    match l.circuitState with
    | .opened => ⟨min maxRevision (l.consecutiveFailures + 1), .opened,
        some (max (now + l.cooldownSeconds * 1000000) (l.circuitOpenUntil.getD 0)), none⟩
    | _ => ⟨l.consecutiveFailures, l.circuitState, l.circuitOpenUntil, l.halfOpenJobId⟩
  | failure _ _ false => closedCircuit l.consecutiveFailures
  | release _ _ resetAll => closedCircuit (if resetAll then 0 else l.consecutiveFailures)

end LaneAct

/-- The circuit columns of a row. -/
def SchedulerLane.circuit (l : SchedulerLane) : CircuitValues :=
  ⟨l.consecutiveFailures, l.circuitState, l.circuitOpenUntil, l.halfOpenJobId⟩

/-- Columns that are a snapshot's. -/
def CircuitSnapshot.values (c : CircuitSnapshot) : CircuitValues :=
  ⟨c.consecutiveFailures, c.state, c.openUntil, c.halfOpenJobId⟩

theorem agrees_iff {l : SchedulerLane} {c : CircuitSnapshot} :
    Agrees l c ↔ l.circuit = c.values := by
  constructor
  · rintro ⟨h₁, h₂, h₃, h₄⟩
    unfold SchedulerLane.circuit CircuitSnapshot.values
    rw [h₁, h₂, h₃, h₄]
  · intro h
    unfold SchedulerLane.circuit CircuitSnapshot.values at h
    injection h with h₁ h₂ h₃ h₄
    exact ⟨h₂, h₁, h₃, h₄⟩

/-- The row after an act, beside what the policy makes of the snapshot before it. -/
structure Follows (s : Db) (l : SchedulerLane) (c : CircuitSnapshot) (a : LaneAct)
    (l' : SchedulerLane) : Prop where
  onTime : ¬ a.Late l → ∃ c', a.policy s l c = .ok c' ∧ Agrees l' c'
  late : a.Late l → l'.circuit = a.lateCircuit l ∧
    ∀ c', a.policy s l c = .ok c' → ¬ Agrees l' c'
  snapshot : ∃ c', Agrees l' c'

/-- A row that an act leaves or writes, with the limits it had. -/
structure Acted (id : String) (l l' : SchedulerLane) (t : Db) : Prop where
  row : t.lanes.get? id = some l'
  threshold : l'.failureThreshold = l.failureThreshold
  cooldown : l'.cooldownSeconds = l.cooldownSeconds

section Steps

variable {s t : Db} {id : String} {l : SchedulerLane} {c : CircuitSnapshot} {now : Time}

theorem acted_stays (hl : s.lanes.get? id = some l) : Acted id l l s := ⟨hl, rfl, rfl⟩

theorem acted_circuitRow (hl : s.lanes.get? id = some l) (values : CircuitValues) :
    Acted id l (circuitRow values now l) (s.setLane id (circuitRow values now)) := by
  refine ⟨?_, rfl, rfl⟩
  rw [Db.get?_setLane, if_pos rfl, hl]
  rfl

theorem agrees_circuitRow (c : CircuitSnapshot) : Agrees (circuitRow c.values now l) c :=
  ⟨rfl, rfl, rfl, rfl⟩

/-- A success closes the circuit of its lane, unless the circuit waits for another job. -/
theorem laneSuccess_follows {job : Job} (hl : s.lanes.get? id = some l) (hc : Agrees l c)
    (hrun : laneSuccess job now id s = (.ok (), t)) :
    ∃ l', Acted id l l' t ∧ Follows s l c (.success job now) l' := by
  unfold laneSuccess at hrun
  rw [Tx.run_bind, heldLane_run hl] at hrun
  dsimp only at hrun
  have hclosing (ht : t = s.setLane id (circuitRow (closedCircuit 0) now))
      (hawaited : l.circuitState = .closed ∨
        (l.circuitState = .halfOpen ∧ l.halfOpenJobId = some job.id)) :
      ∃ l', Acted id l l' t ∧ Follows s l c (.success job now) l' := by
    refine ⟨circuitRow (closedCircuit 0) now l, ht ▸ acted_circuitRow hl _, ?_, ?_, ?_⟩
    · exact fun _ => ⟨circuitSuccess c, rfl, agrees_circuitRow (circuitSuccess c)⟩
    · rintro ⟨hopen, hother⟩
      exact (hawaited.elim hopen hother).elim
    · exact ⟨circuitSuccess c, agrees_circuitRow (circuitSuccess c)⟩
  split at hrun
  · rename_i hclosed
    rw [updateLaneValues_run hl] at hrun
    cases hrun
    exact hclosing rfl (.inl hclosed)
  · rename_i hopen
    split at hrun
    · rename_i hprobe
      rw [updateLaneValues_run hl] at hrun
      cases hrun
      exact hclosing rfl (.inr hprobe)
    · rename_i hother
      cases hrun
      refine ⟨l, acted_stays hl, fun hontime => (hontime ⟨hopen, hother⟩).elim, fun _ => ⟨rfl, ?_⟩,
        ⟨c, hc⟩⟩
      rintro c' hpolicy hagrees
      cases hpolicy
      exact hopen hagrees.state

/-- A closed snapshot is its failure count. -/
theorem agrees_closedCircuit (hc : c.state = .closed) :
    Agrees (circuitRow (closedCircuit c.consecutiveFailures) now l) c := by
  have hshape := c.shape
  rw [hc] at hshape
  exact ⟨hc.symm, rfl, hshape.1.symm, hshape.2.symm⟩

/-- A job gives up its probe, or an operator closes the circuit. -/
theorem laneRelease_follows {job : Job} {resetAll : Bool} (hl : s.lanes.get? id = some l)
    (hc : Agrees l c) (hrun : laneRelease job now resetAll id s = (.ok (), t)) :
    ∃ l', Acted id l l' t ∧ Follows s l c (.release job now resetAll) l' := by
  unfold laneRelease at hrun
  rw [Tx.run_bind, heldLane_run hl] at hrun
  dsimp only at hrun
  split at hrun
  · rename_i hreleased
    rw [updateLaneValues_run hl] at hrun
    cases hrun
    have hle : (if resetAll then 0 else l.consecutiveFailures) ≤ maxRevision := by
      split
      · exact Nat.zero_le _
      · rw [hc.failures]
        exact c.failures_range
    refine ⟨_, acted_circuitRow hl _, fun hontime => ⟨c, rfl, ?_⟩, fun hlate => ⟨rfl, ?_⟩,
      ⟨.closed _ hle, ⟨rfl, rfl, rfl, rfl⟩⟩⟩
    · -- on time only a circuit that is closed and has counted nothing is reset
      unfold LaneAct.Late at hontime
      rw [not_or] at hontime
      have hreset : resetAll = true := hreleased.resolve_right hontime.2
      have hquiet : ¬ (l.circuitState ≠ .closed ∨ l.consecutiveFailures ≠ 0) :=
        fun h => hontime.1 ⟨hreset, h⟩
      rw [not_or, not_not, not_not] at hquiet
      rw [hreset, if_pos rfl, ← hquiet.2, hc.failures]
      exact agrees_closedCircuit (hc.state ▸ hquiet.1)
    · intro c' hpolicy hagrees
      cases hpolicy
      have hclosed : l.circuitState = .closed := hc.state.trans hagrees.state.symm
      have hfailures : (if resetAll then 0 else l.consecutiveFailures) = l.consecutiveFailures :=
        hagrees.failures.trans hc.failures.symm
      rcases hlate with ⟨hreset, hopen | hcounted⟩ | ⟨hhalf, _⟩
      · exact hopen hclosed
      · rw [hreset, if_pos rfl] at hfailures
        exact hcounted hfailures.symm
      · rw [hclosed] at hhalf
        cases hhalf
  · rename_i hkept
    cases hrun
    rw [not_or] at hkept
    have hontime : ¬ (LaneAct.release job now resetAll).Late l := by
      rintro (⟨hreset, _⟩ | hprobe)
      · exact hkept.1 hreset
      · exact hkept.2 hprobe
    exact ⟨l, acted_stays hl, fun _ => ⟨c, rfl, hc⟩, fun hlate => (hontime hlate).elim, ⟨c, hc⟩⟩

theorem boundedInt_nat {n lower upper : Nat} (name : String) (h : lower ≤ n ∧ n ≤ upper) :
    boundedInt (n : Int) name lower upper = .ok n := by
  unfold boundedInt
  rw [if_pos ⟨Int.ofNat_le.2 h.1, Int.ofNat_le.2 h.2⟩, Int.toNat_natCast]

/-- Under a configured lane's limits, a failure is checked and then counted or passed over. -/
theorem circuitFailure_configured (hconf : Configured l) (affectsCircuit : Bool) :
    circuitFailure c now affectsCircuit l.failureThreshold l.cooldownSeconds =
      if affectsCircuit then failedSnapshot c now l.failureThreshold l.cooldownSeconds
      else .ok c := by
  unfold circuitFailure
  have hcooldown : _ ∧ l.cooldownSeconds ≤ maxCooldownSeconds := hconf.cooldown
  rw [boundedInt_nat _ hconf.threshold, boundedInt_nat _ hcooldown]
  rfl

/-- A failure that does not count leaves the circuit alone, unless its job ends as the probe. -/
theorem neutralFailure_follows {job : Job} (hl : s.lanes.get? id = some l) (hconf : Configured l)
    (hc : Agrees l c) (hrun : laneFailure job now false id s = (.ok (), t)) :
    ∃ l', Acted id l l' t ∧ Follows s l c (.failure job now false) l' := by
  have hpolicy : (LaneAct.failure job now false).policy s l c = .ok c :=
    circuitFailure_configured hconf false
  unfold laneFailure at hrun
  rw [Tx.run_bind, heldLane_run hl] at hrun
  dsimp only at hrun
  rw [if_pos rfl] at hrun
  split at hrun
  · rename_i hended
    rw [updateLaneValues_run hl] at hrun
    cases hrun
    have hle : l.consecutiveFailures ≤ maxRevision := hc.failures ▸ c.failures_range
    refine ⟨_, acted_circuitRow hl _, fun hontime => (hontime hended).elim, fun _ => ⟨rfl, ?_⟩,
      ⟨.closed _ hle, ⟨rfl, rfl, rfl, rfl⟩⟩⟩
    intro c' hc' hagrees
    rw [hpolicy] at hc'
    cases hc'
    have hclosed : l.circuitState = .closed := hc.state.trans hagrees.state.symm
    rw [hclosed] at hended
    cases hended.2.1
  · rename_i hgoes
    cases hrun
    exact ⟨l, acted_stays hl, fun _ => ⟨c, hpolicy, hc⟩, fun hlate => (hgoes hlate).elim, ⟨c, hc⟩⟩

/-- The two additions of a cooldown agree. -/
theorem policySafeAdd_of_safeAdd {r : Time} {seconds : Nat} {name name' : String}
    (h : safeAdd now seconds name = .ok r) :
    policySafeAdd now seconds name' = .ok (now + seconds * 1000000) := by
  have hr := safeAdd_ok h
  unfold safeAdd at h
  unfold policySafeAdd
  split at h
  · cases h
  · rename_i hrange
    have hrange' : ¬ maxRetrySeconds < seconds := hrange
    rw [if_neg hrange']
    cases hq : addSeconds now seconds with
    | none =>
      rw [hq] at h
      cases h
    | some q =>
      rw [hq] at h
      cases h
      exact congrArg Except.ok hr

/-- A counted failure that opens, in the repository and in the policy. -/
theorem failedSnapshot_opens {r : Time} {name : String}
    (hadd : safeAdd now l.cooldownSeconds name = .ok r)
    (hopens : c.state = .halfOpen ∨ l.failureThreshold ≤ countedFailures c) :
    failedSnapshot c now l.failureThreshold l.cooldownSeconds =
      .ok (.opened (countedFailures c) (now + l.cooldownSeconds * 1000000)
        (countedFailures_le c)) := by
  unfold failedSnapshot
  rw [if_pos hopens, policySafeAdd_of_safeAdd hadd]
  rfl

/-- A counted failure of a closed circuit, or of the probe of a half-open one. -/
theorem failedCircuit_follows {values : CircuitValues} {job : Job} (hconf : Configured l)
    (hc : Agrees l c) (hstate : l.circuitState ≠ .opened)
    (hvalues : failedCircuit l now = .ok values) :
    ∃ c', (LaneAct.failure job now true).policy s l c = .ok c' ∧
      Agrees (circuitRow values now l) c' := by
  have hpolicy : (LaneAct.failure job now true).policy s l c =
      failedSnapshot c now l.failureThreshold l.cooldownSeconds :=
    circuitFailure_configured hconf true
  have hcount : min maxRevision (l.consecutiveFailures + 1) = countedFailures c := by
    unfold countedFailures
    rw [hc.failures]
  rw [hpolicy]
  unfold failedCircuit at hvalues
  rw [hcount] at hvalues
  dsimp only at hvalues
  split at hvalues
  · rename_i hopens
    cases hadd : safeAdd now l.cooldownSeconds "cooldown_seconds" with
    | error e =>
      rw [hadd] at hvalues
      cases hvalues
    | ok r =>
      rw [hadd] at hvalues
      cases hvalues
      have hopens' : c.state = .halfOpen ∨ l.failureThreshold ≤ countedFailures c := by
        rw [← hc.state]
        exact hopens.resolve_left hstate
      refine ⟨_, failedSnapshot_opens hadd hopens', rfl, rfl, ?_, rfl⟩
      cases hcase : l.circuitState with
      | opened => exact (hstate hcase).elim
      | closed => exact congrArg some (safeAdd_ok hadd)
      | halfOpen => exact congrArg some (safeAdd_ok hadd)
  · rename_i hcloses
    cases hvalues
    rw [not_or, not_or, hc.state] at hcloses
    refine ⟨.closed (countedFailures c) (countedFailures_le c), ?_, rfl, rfl, rfl, rfl⟩
    unfold failedSnapshot
    rw [if_neg (not_or.2 ⟨hcloses.2.1, hcloses.2.2⟩)]

/-- A counted failure while the circuit is open keeps it open, to the later of two ends. -/
theorem failedCircuit_opened {values : CircuitValues} (hopen : l.circuitState = .opened)
    (hvalues : failedCircuit l now = .ok values) :
    (∃ name r, safeAdd now l.cooldownSeconds name = .ok r) ∧
      values = ⟨min maxRevision (l.consecutiveFailures + 1), .opened,
        some (max (now + l.cooldownSeconds * 1000000) (l.circuitOpenUntil.getD 0)), none⟩ := by
  unfold failedCircuit at hvalues
  dsimp only at hvalues
  rw [if_pos (.inl hopen)] at hvalues
  cases hadd : safeAdd now l.cooldownSeconds "cooldown_seconds" with
  | error e =>
    rw [hadd] at hvalues
    cases hvalues
  | ok r =>
    rw [hadd, hopen] at hvalues
    cases hvalues
    refine ⟨⟨_, r, hadd⟩, ?_⟩
    rw [← safeAdd_ok hadd]
    cases l.circuitOpenUntil with
    | none => simp
    | some current => rfl

/-- A counted failure is the policy's, but a job that is not the probe does not count in a
half-open lane, and an open lane neither closes nor shortens its cooldown. -/
theorem countedFailure_follows {job : Job} (hl : s.lanes.get? id = some l) (hconf : Configured l)
    (hc : Agrees l c) (hrun : laneFailure job now true id s = (.ok (), t)) :
    ∃ l', Acted id l l' t ∧ Follows s l c (.failure job now true) l' := by
  have hpolicy : (LaneAct.failure job now true).policy s l c =
      failedSnapshot c now l.failureThreshold l.cooldownSeconds :=
    circuitFailure_configured hconf true
  have hshape := c.shape
  unfold laneFailure at hrun
  rw [Tx.run_bind, heldLane_run hl] at hrun
  dsimp only at hrun
  rw [if_neg (by decide)] at hrun
  split at hrun
  · rename_i hother
    cases hrun
    have hlate : (LaneAct.failure job now true).Late l := .inl ⟨hother.1, hother.2.2⟩
    refine ⟨l, acted_stays hl, fun hontime => (hontime hlate).elim, fun _ => ⟨?_, ?_⟩, ⟨c, hc⟩⟩
    · unfold SchedulerLane.circuit LaneAct.lateCircuit
      rw [hother.1]
    · intro c' hc' hagrees
      rw [hpolicy] at hc'
      unfold failedSnapshot at hc'
      rw [if_pos (.inl (hc.state.symm.trans hother.1))] at hc'
      cases hadd : policySafeAdd now l.cooldownSeconds "circuit cooldown" with
      | error e =>
        rw [hadd] at hc'
        cases hc'
      | ok r =>
        rw [hadd] at hc'
        cases hc'
        rw [hagrees.state] at hother
        cases hother.1
  · rename_i hcounts
    obtain ⟨values, hvalues, hrun⟩ := Tx.run_bind_ofExcept hrun
    rw [updateLaneValues_run hl] at hrun
    cases hrun
    refine ⟨_, acted_circuitRow hl _, ?_⟩
    by_cases hopen : l.circuitState = .opened
    · obtain ⟨⟨name, r, hadd⟩, rfl⟩ := failedCircuit_opened hopen hvalues
      have hcopen : c.state = .opened := hc.state.symm.trans hopen
      rw [hcopen] at hshape
      obtain ⟨u, hu⟩ := Option.isSome_iff_exists.1 hshape.1
      have hlu : l.circuitOpenUntil = some u := hc.openUntil.trans hu
      have hcount : min maxRevision (l.consecutiveFailures + 1) = countedFailures c := by
        unfold countedFailures
        rw [hc.failures]
      rw [hlu, Option.getD_some]
      refine ⟨fun hontime => ?_, fun hlate => ⟨?_, ?_⟩,
        ⟨.opened (countedFailures c) (max (now + l.cooldownSeconds * 1000000) u)
          (countedFailures_le c), ⟨rfl, hcount, rfl, rfl⟩⟩⟩
      · unfold LaneAct.Late at hontime
        have hinTime := fun h => hontime (.inr ⟨hopen, h⟩)
        rw [hlu, Option.any_some, decide_eq_true_eq, hcount] at hinTime
        have hthreshold := not_lt.1 fun h => hinTime (.inl h)
        have hlater := not_lt.1 fun h => hinTime (.inr h)
        refine ⟨_, hpolicy.trans (failedSnapshot_opens hadd (.inr hthreshold)), rfl, hcount, ?_, rfl⟩
        exact congrArg some (max_eq_left hlater)
      · unfold LaneAct.lateCircuit
        rw [hopen, hlu]
        rfl
      · intro c' hc' hagrees
        rw [hpolicy] at hc'
        have hdue := (hlate.resolve_left (fun h => by rw [hopen] at h; cases h.1)).2
        rw [hcount, hlu, Option.any_some, decide_eq_true_eq] at hdue
        by_cases hthreshold : l.failureThreshold ≤ countedFailures c
        · rw [failedSnapshot_opens hadd (.inr hthreshold)] at hc'
          cases hc'
          have hlater := hdue.resolve_left (not_lt.2 hthreshold)
          have hmax : max (now + l.cooldownSeconds * 1000000) u = now + l.cooldownSeconds * 1000000 :=
            Option.some.inj hagrees.openUntil
          exact absurd (hmax ▸ le_max_right _ u) (not_le.2 hlater)
        · unfold failedSnapshot at hc'
          rw [if_neg (not_or.2 ⟨by rw [hcopen]; decide, hthreshold⟩)] at hc'
          cases hc'
          cases hagrees.state
    · obtain ⟨c', hc', hagrees⟩ : ∃ c', (LaneAct.failure job now true).policy s l c = .ok c' ∧ _ :=
        failedCircuit_follows hconf hc hopen hvalues
      have hontime : ¬ (LaneAct.failure job now true).Late l := by
        rintro (⟨hhalf, hother⟩ | ⟨h, _⟩)
        · have hchalf : c.state = .halfOpen := hc.state.symm.trans hhalf
          rw [hchalf] at hshape
          refine hcounts ⟨hhalf, fun hnone => ?_, hother⟩
          rw [← hc.probe, hnone] at hshape
          cases hshape.2
        · exact hopen h
      exact ⟨fun _ => ⟨c', hc', hagrees⟩, fun hlate => (hontime hlate).elim, ⟨c', hagrees⟩⟩

/-- What the lane checks of a claim beside its circuit. -/
def laneOpenFor (s : Db) (l : SchedulerLane) (now : Time) : Bool :=
  l.nextStartAt.all (fun t => t ≤ now) && laneActiveCount s l < l.maxConcurrency

theorem laneAllows_open {jobId : String} : laneAllows s l jobId now = (laneOpenFor s l now &&
    match l.circuitState with
    | .closed => true
    | .opened => l.circuitOpenUntil.any (fun t => t ≤ now)
    | .halfOpen => l.halfOpenJobId = none || l.halfOpenJobId = some jobId) := by
  have hstart : (l.nextStartAt.all (fun t => decide (t ≤ now))) =
      !(l.nextStartAt.any (fun t => decide (now < t))) := by
    cases l.nextStartAt with
    | none => rfl
    | some t => exact decide_eq_decide.2 not_lt.symm |>.trans (decide_not ..)
  unfold laneAllows laneOpenFor
  rw [hstart]
  by_cases hwait : l.nextStartAt.any (fun t => decide (now < t)) = true
  · rw [if_pos hwait, hwait]
    rfl
  · rw [if_neg hwait, Bool.eq_false_iff.2 hwait]
    by_cases hfull : l.maxConcurrency ≤ laneActiveCount s l
    · rw [if_pos hfull, decide_eq_false (not_lt.2 hfull)]
      rfl
    · rw [if_neg hfull, decide_eq_true (not_le.1 hfull)]
      rfl

/-- A lane allows a claim that its policy allows, where it has a slot and its interval is over. -/
theorem laneAllows_eq {jobId : String} {decision : CircuitClaimDecision} (hc : Agrees l c)
    (hdecision : decideCircuitClaim c jobId now = .ok decision) :
    laneAllows s l jobId now = (laneOpenFor s l now && decision.allowed) := by
  have hshape := c.shape
  rw [laneAllows_open, hc.state, hc.openUntil, hc.probe]
  congr 1
  unfold decideCircuitClaim at hdecision
  split at hdecision
  · cases hstate : c.state with
    | closed =>
      rw [hstate] at hdecision
      cases hdecision
      rfl
    | halfOpen =>
      rw [hstate] at hdecision hshape
      cases hdecision
      obtain ⟨probe, hprobe⟩ := Option.isSome_iff_exists.1 hshape.2
      simp [hprobe]
    | opened =>
      rw [hstate] at hdecision hshape
      obtain ⟨u, hu⟩ := Option.isSome_iff_exists.1 hshape.1
      rw [hu, Option.any_some] at hdecision ⊢
      dsimp only at hdecision ⊢
      by_cases hearly : now < u
      · rw [if_pos (by simpa using hearly)] at hdecision
        cases hdecision
        exact decide_eq_false (not_le.2 hearly)
      · rw [if_neg (by simpa using hearly)] at hdecision
        cases hdecision
        exact decide_eq_true (not_lt.1 hearly)
  · cases hdecision

/-- A job with a well-formed identifier gets a decision. -/
theorem decideCircuitClaim_ok {jobId : String} (valid : isProbeId jobId = true) :
    ∃ decision, decideCircuitClaim c jobId now = .ok decision := by
  unfold decideCircuitClaim
  rw [dif_pos valid]
  split
  · exact ⟨_, rfl⟩
  · exact ⟨_, rfl⟩
  · split <;> exact ⟨_, rfl⟩

/-- The row that an allowed claim reserves shows what the policy decided. -/
theorem agrees_reservedLane {jobId : String} {decision : CircuitClaimDecision} {next : Time}
    (hc : Agrees l c) (hdecision : decideCircuitClaim c jobId now = .ok decision)
    (hallowed : decision.allowed = true) :
    Agrees (reservedLane l.circuitState jobId next now l) decision.snapshot := by
  have hshape := c.shape
  unfold decideCircuitClaim at hdecision
  split at hdecision
  · cases hstate : c.state with
    | closed =>
      rw [hstate] at hdecision hshape
      cases hdecision
      have hl : l.circuitState = .closed := hc.state.trans hstate
      refine ⟨?_, hc.failures, hshape.1.symm, ?_⟩
      · unfold reservedLane
        rw [hl, hstate]
        rfl
      · unfold reservedLane
        rw [hl]
        exact hshape.2.symm
    | halfOpen =>
      rw [hstate] at hdecision hshape
      cases hdecision
      have hl : l.circuitState = .halfOpen := hc.state.trans hstate
      refine ⟨?_, hc.failures, hshape.1.symm, ?_⟩
      · unfold reservedLane
        rw [hl, hstate]
        rfl
      · unfold reservedLane
        rw [hl]
        exact (of_decide_eq_true hallowed).symm
    | opened =>
      rw [hstate] at hdecision
      have hl : l.circuitState = .opened := hc.state.trans hstate
      dsimp only at hdecision
      split at hdecision
      · cases hdecision
        cases hallowed
      · cases hdecision
        refine ⟨?_, hc.failures, rfl, ?_⟩
        · unfold reservedLane
          rw [hl]
          rfl
        · unfold reservedLane
          rw [hl]
          rfl
  · cases hdecision

/-- A claim moves the circuit as the policy decides, where the lane lets the claim through. -/
theorem claimLane_follows {jobId : String} {valid : isProbeId jobId = true}
    (hl : s.lanes.get? id = some l) (hc : Agrees l c)
    (hrun : LaneAct.claimLane id jobId now s = (.ok (), t)) :
    ∃ l', Acted id l l' t ∧ Follows s l c (.claim jobId now valid) l' := by
  unfold LaneAct.claimLane at hrun
  rw [Tx.run_bind, heldLane_run hl] at hrun
  dsimp only at hrun
  rw [Tx.run_read_bind] at hrun
  obtain ⟨decision, hdecision⟩ : ∃ decision, decideCircuitClaim c jobId now = .ok decision :=
    decideCircuitClaim_ok valid
  cases hallows : laneAllows s l jobId now with
  | false =>
    rw [hallows] at hrun
    cases hrun
    refine ⟨l, acted_stays hl, fun _ => ⟨c, ?_, hc⟩, fun hlate => hlate.elim, ⟨c, hc⟩⟩
    exact if_neg (by rw [hallows]; decide)
  | true =>
    rw [hallows, if_pos rfl] at hrun
    have hallowed := hallows
    rw [laneAllows_eq hc hdecision, Bool.and_eq_true] at hallowed
    have ht := reserveLane_ok hl hrun
    let next : Time := now + l.minStartIntervalSeconds * 1000000
    have hagrees : Agrees (reservedLane l.circuitState jobId next now l) decision.snapshot :=
      agrees_reservedLane hc hdecision hallowed.2
    refine ⟨reservedLane l.circuitState jobId next now l,
      ⟨?_, rfl, rfl⟩, fun _ => ⟨decision.snapshot, ?_, hagrees⟩, fun hlate => hlate.elim,
      ⟨decision.snapshot, hagrees⟩⟩
    · rw [ht, Db.get?_setLane, if_pos rfl, hl]
      rfl
    · refine (if_pos hallows).trans ?_
      rw [hdecision]
      rfl

/-- One act on a configured lane. -/
theorem perform_follows {a : LaneAct} (hl : s.lanes.get? id = some l) (hconf : Configured l)
    (hc : Agrees l c) (hrun : a.perform id s = (.ok (), t)) :
    ∃ l', Acted id l l' t ∧ Follows s l c a l' := by
  cases a with
  | claim jobId now valid => exact claimLane_follows hl hc hrun
  | success job now => exact laneSuccess_follows hl hc hrun
  | failure job now affectsCircuit =>
    cases affectsCircuit with
    | true => exact countedFailure_follows hl hconf hc hrun
    | false => exact neutralFailure_follows hl hconf hc hrun
  | release job now resetAll => exact laneRelease_follows hl hc hrun

end Steps

/-- An act on the lane that was committed, or anything else. -/
inductive LaneEvent where
  | act (before : Db) (a : LaneAct) (after : Db)
  | elsewhere (before after : Db)

/-- Everything else, edits of the lane's policy among it, leaves the circuit of the row, and
leaves or sets the limits of some policy. -/
def CircuitLeft (laneId : String) (s t : Db) : Prop :=
  ∀ l, s.lanes.get? laneId = some l → ∃ l', t.lanes.get? laneId = some l' ∧
    l'.circuit = l.circuit ∧ (Configured l → Configured l')

inductive LaneStep (laneId : String) : Db → LaneEvent → Db → Prop
  | act {s t : Db} {a : LaneAct} :
      Tx.commit (a.perform laneId) s = (.ok (), t) → LaneStep laneId s (.act s a t) t
  | elsewhere {s t : Db} : CircuitLeft laneId s t → LaneStep laneId s (.elsewhere s t) t

/-- The event is a late result for the row it found. -/
def LaneEvent.Late (laneId : String) : LaneEvent → Prop
  | act before a _ => ∃ l, before.lanes.get? laneId = some l ∧ a.Late l
  | elsewhere _ _ => False

/-- What the pure policy makes of the events, under the limits that each of them found. -/
def policyRun (laneId : String) : CircuitSnapshot → List LaneEvent → Except SchedulerError CircuitSnapshot
  | c, [] => .ok c
  | c, .elsewhere _ _ :: rest => policyRun laneId c rest
  | c, .act before a _ :: rest =>
    match before.lanes.get? laneId with
    | none => policyRun laneId c rest
    | some l => (a.policy before l c).bind (fun c' => policyRun laneId c' rest)

theorem policyRun_append {laneId : String} {c d : CircuitSnapshot} {events rest : List LaneEvent}
    (h : policyRun laneId c events = .ok d) :
    policyRun laneId c (events ++ rest) = policyRun laneId d rest := by
  induction events generalizing c with
  | nil =>
    cases h
    rfl
  | cons e events ih =>
    cases e with
    | elsewhere s t => exact ih h
    | act before a after =>
      simp only [policyRun, List.cons_append] at h ⊢
      cases hl : before.lanes.get? laneId with
      | none =>
        rw [hl] at h
        exact ih h
      | some l =>
        rw [hl] at h
        dsimp only at h ⊢
        cases hpolicy : a.policy before l c with
        | error e =>
          rw [hpolicy] at h
          cases h
        | ok c' =>
          rw [hpolicy] at h
          exact ih h

/-- The lane row shows a snapshot and has a policy's limits. -/
def LaneSound (laneId : String) (s : Db) (l : SchedulerLane) : Prop :=
  s.lanes.get? laneId = some l ∧ Configured l ∧ ∃ c, Agrees l c

theorem laneStep_sound {laneId : String} {s t : Db} {e : LaneEvent} {l : SchedulerLane}
    (h : LaneStep laneId s e t) (hl : LaneSound laneId s l) : ∃ l', LaneSound laneId t l' := by
  obtain ⟨hrow, hconf, c, hc⟩ := hl
  cases h with
  | elsewhere hleft =>
    obtain ⟨l', hl', hcircuit, hconf'⟩ := hleft l hrow
    exact ⟨l', hl', hconf' hconf, c, agrees_iff.2 (hcircuit.trans (agrees_iff.1 hc))⟩
  | act hrun =>
    obtain ⟨l', hacted, hfollows⟩ := perform_follows hrow hconf hc (Tx.commit_ok hrun)
    refine ⟨l', hacted.row, ⟨?_, ?_⟩, hfollows.snapshot⟩
    · rw [hacted.threshold]
      exact hconf.threshold
    · rw [hacted.cooldown]
      exact hconf.cooldown

/-- An event of a history left the row as the policy or the late rule says. -/
def EventFollows (laneId : String) : LaneEvent → Prop
  | .elsewhere _ _ => True
  | .act s a t => ∃ l l' c, s.lanes.get? laneId = some l ∧ t.lanes.get? laneId = some l' ∧
      Agrees l c ∧ Follows s l c a l' ∧
      ∀ jobId now valid decision, a = .claim jobId now valid →
        decideCircuitClaim c jobId now = .ok decision →
        laneAllows s l jobId now = (laneOpenFor s l now && decision.allowed)

/-- In every run over a lane whose row shows a snapshot, with any change of its limits between:
without a late result, the row shows after each event what the pure policy has made of the
snapshot; each act moves the row as the policy moves its snapshot exactly where it is not late,
and where it is, as the late rule says; and a lane allows a claim exactly where its policy does,
a slot is free and its start interval is over. -/
theorem lane_follows_circuit_policy {laneId : String} {s t : Db} {events : List LaneEvent}
    {l : SchedulerLane} {c : CircuitSnapshot} (h : Trace (LaneStep laneId) s events t)
    (hl : s.lanes.get? laneId = some l) (hconf : Configured l) (hc : Agrees l c) :
    ((∀ e ∈ events, ¬ e.Late laneId) → ∃ l' c', t.lanes.get? laneId = some l' ∧
      policyRun laneId c events = .ok c' ∧ Agrees l' c') ∧
    ∀ e ∈ events, EventFollows laneId e := by
  have hsound {events : List LaneEvent} {t : Db} (h : Trace (LaneStep laneId) s events t) :
      ∃ l', LaneSound laneId t l' :=
    h.invariant (I := fun t => ∃ l', LaneSound laneId t l')
      (fun _ _ _ ⟨_, hsound⟩ hstep => laneStep_sound hstep hsound) ⟨l, hl, hconf, c, hc⟩
  constructor
  · intro hontime
    induction h with
    | nil => exact ⟨l, c, hl, rfl, hc⟩
    | @snoc events t u e hbefore hstep ih =>
      obtain ⟨m, d, hm, hrun, hagrees⟩ :=
        ih fun e he => hontime e (List.mem_append_left _ he)
      obtain ⟨m', hm', hconf', _⟩ := hsound hbefore
      obtain rfl : m = m' := Option.some.inj (hm.symm.trans hm')
      rw [policyRun_append hrun]
      cases hstep with
      | elsewhere hleft =>
        obtain ⟨l', hl', hcircuit, _⟩ := hleft m hm
        exact ⟨l', d, hl', rfl, agrees_iff.2 (hcircuit.trans (agrees_iff.1 hagrees))⟩
      | @act _ a hcommit =>
        obtain ⟨l', hacted, hfollows⟩ := perform_follows hm hconf' hagrees (Tx.commit_ok hcommit)
        obtain ⟨c', hc', hagrees'⟩ := hfollows.onTime fun hlate =>
          hontime _ (List.mem_append_right _ (List.mem_singleton_self _)) ⟨m, hm, hlate⟩
        refine ⟨l', c', hacted.row, ?_, hagrees'⟩
        simp only [policyRun, hm, hc', Except.bind]
  · intro e he
    obtain ⟨pre, post, rfl⟩ := List.append_of_mem he
    obtain ⟨a, b, ha, hstep, _⟩ := h.at_label
    obtain ⟨m, hm, hconf', d, hagrees⟩ := hsound ha
    cases hstep with
    | elsewhere _ => trivial
    | act hcommit =>
      obtain ⟨l', hacted, hfollows⟩ := perform_follows hm hconf' hagrees (Tx.commit_ok hcommit)
      exact ⟨m, l', d, hm, hacted.row, hagrees, hfollows,
        fun jobId now valid decision _ hdecision => laneAllows_eq hagrees hdecision⟩

/-- The platform lane of the small installation, open after three failures. -/
def openLane : SchedulerLane :=
  { newLane (LanePolicy.ofPlatform .bili) "lane" 0 with
    consecutiveFailures := 3, circuitState := .opened, circuitOpenUntil := some 900000000 }

def openLaneDb : Db := { sampleDb with lanes := ⟨[openLane], List.nodup_singleton _⟩ }

/-- A cycle that was claimed before the lane opened. -/
def earlierJob : Job := SchedulerRepository.cycleJob "earlier" "subscription" "account" .bili 0 0 0 .standard

/-- The circuit that the row shows. -/
def openSnapshot : CircuitSnapshot := .opened 3 900000000 (by decide)

/-- The job's success leaves the row open, where the policy closes the circuit. -/
theorem lane_not_circuit_policy :
    Agrees openLane openSnapshot ∧ laneSuccess earlierJob 500 "lane" openLaneDb = (.ok (), openLaneDb) ∧
      openLane.circuitState = .opened ∧ (circuitSuccess openSnapshot).state = .closed :=
  ⟨⟨rfl, rfl, rfl, rfl⟩, rfl, rfl, rfl⟩

/-- The claim of a probe when the cooldown is over. -/
def probeClaim : LaneAct := .claim "earlier" 900000000 (by decide)

theorem lane_follows_circuit_policy_sample :
    ∃ t l' c', Trace (LaneStep "lane") openLaneDb [.act openLaneDb probeClaim t] t ∧
      t.lanes.get? "lane" = some l' ∧
      policyRun "lane" openSnapshot [.act openLaneDb probeClaim t] = .ok c' ∧ Agrees l' c' := by
  have hrun : Tx.commit (probeClaim.perform "lane") openLaneDb =
      (.ok (), (Tx.commit (probeClaim.perform "lane") openLaneDb).2) := rfl
  have htrace : Trace (LaneStep "lane") openLaneDb
      ([] ++ [.act openLaneDb probeClaim (Tx.commit (probeClaim.perform "lane") openLaneDb).2])
      (Tx.commit (probeClaim.perform "lane") openLaneDb).2 := .snoc .nil (.act hrun)
  obtain ⟨l', c', hl', hpolicy, hagrees⟩ := (lane_follows_circuit_policy htrace (l := openLane)
    (c := openSnapshot) rfl ⟨by decide, by decide⟩ ⟨rfl, rfl, rfl, rfl⟩).1 (by
      intro e he
      obtain rfl := List.mem_singleton.1 he
      rintro ⟨_, _, hlate⟩
      exact hlate)
  exact ⟨_, l', c', htrace, hl', hpolicy, hagrees⟩

end MediaSync.Scheduler
