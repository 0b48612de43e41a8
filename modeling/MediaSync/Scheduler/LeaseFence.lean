import MediaSync.Scheduler.ActRuns
import MediaSync.Scheduler.ClaimSteps

/-!
# Lease fencing

A sync job is leased when it is claimed or running. No operation but a claim
makes a job leased, changes the owner or the token of a leased job, or accepts
a caller that does not present both. Hence a committed operation was called
with the pair that the last claim of its job wrote, and that lease has lasted
through every state in between.
-/

namespace MediaSync.Scheduler

open Python Transaction Transition SchedulerError SchedulerRepository

/-- A sync job under a lease. -/
def Job.isLeased (j : Job) : Bool := j.isSync && j.isActiveWork

/-- A lease is kept as it is or lost. -/
def LeaseKept (j j' : Job) : Prop :=
  j'.isLeased = true →
    j.isLeased = true ∧ j'.leaseOwner = j.leaseOwner ∧ j'.leaseToken = j.leaseToken

def Unleased (j : Job) : Prop := j.isLeased = false

theorem LeaseKept.of_not_active {j j' : Job} (h : j'.isActiveWork = false) : LeaseKept j j' := by
  intro hl
  simp only [Job.isLeased, h, Bool.and_false] at hl
  cases hl

/-- Every repository update but the claim's keeps or ends a lease. -/
theorem leaseKept_accepts : Accepts LeaseKept Unleased where
  refl j h := ⟨h, rfl, rfl⟩
  trans i j k hij hjk hk := by
    obtain ⟨hj, ho, ht⟩ := hjk hk
    obtain ⟨hi, ho', ht'⟩ := hij hj
    exact ⟨hi, ho.trans ho', ht.trans ht'⟩
  added j k hj hjk := by
    cases hk : k.isLeased with
    | false => exact hk
    | true =>
      have hj' := (hjk hk).1
      rw [hj] at hj'
      cases hj'
  cycle _ _ _ _ _ _ _ _ := rfl
  coordinator _ _ _ _ _ _ _ _ := rfl
  repaired _ _ _ _ _ _ _ _ := LeaseKept.of_not_active rfl
  settled _ _ _ _ _ := LeaseKept.of_not_active rfl
  conflict _ _ _ _ _ := LeaseKept.of_not_active rfl
  expired j now _ _ := by
    apply LeaseKept.of_not_active
    simp only [Job.isActiveWork, expiredValues]
    split <;> rfl
  requeued _ _ _ _ := LeaseKept.of_not_active rfl
  invalid _ _ _ _ := LeaseKept.of_not_active rfl
  started j now hsync hclaimed _ := by
    refine ⟨?_, rfl, rfl⟩
    simp [Job.isLeased, hsync, Job.isActiveWork, hclaimed, JobStatus.isActiveWork]
  renewed _ _ _ _ _ h := ⟨h, rfl, rfl⟩
  attached _ _ _ _ h := ⟨h, rfl, rfl⟩
  completed _ _ _ _ _ := LeaseKept.of_not_active rfl
  failed j retry retryAt code runId now _ _ := by
    apply LeaseKept.of_not_active
    simp only [Job.isActiveWork, failedValues, failedStatus]
    split
    · split <;> rfl
    · rfl
  waiting _ status _ _ _ _ _ := by
    apply LeaseKept.of_not_active
    cases status <;> rfl
  resumed _ _ _ _ := LeaseKept.of_not_active rfl
  cancelled _ _ _ := LeaseKept.of_not_active rfl

abbrev LeaseSteps : Db → Db → Prop := JobSteps LeaseKept Unleased

/-- A leased row was leased to the same holder before. -/
theorem LeaseSteps.back {s t : Db} (h : LeaseSteps s t) {id : String} {j' : Job}
    (hj : t.jobs.get? id = some j') (hl : j'.isLeased = true) :
    ∃ j, s.jobs.get? id = some j ∧ j.isLeased = true ∧
      j'.leaseOwner = j.leaseOwner ∧ j'.leaseToken = j.leaseToken := by
  cases hs : s.jobs.get? id with
  | none =>
    have hnew := h.added id j' hs hj
    rw [Unleased, hl] at hnew
    cases hnew
  | some j =>
    obtain ⟨k, hk, hkept⟩ := h.kept id j hs
    rw [hj] at hk
    cases hk
    exact ⟨j, rfl, hkept hl⟩

/-! ## One owned operation -/

/-- The presented lease is the stored one, of a leased job, and has time left. -/
structure Stored (s : Db) (p : Presented) (now : Time) (j : Job) : Prop where
  row : s.jobs.get? p.jobId = some j
  leased : j.isLeased = true
  owner : j.leaseOwner = some p.workerId
  token : j.leaseToken = some p.leaseToken
  unexpired : ∃ expiresAt, j.leaseExpiresAt = some expiresAt ∧ now < expiresAt

/-- The row holds the presented pair under a lease. -/
def HeldBy (s : Db) (p : Presented) : Prop :=
  ∃ j, s.jobs.get? p.jobId = some j ∧ j.isLeased = true ∧
    j.leaseOwner = some p.workerId ∧ j.leaseToken = some p.leaseToken

theorem Stored.held {s : Db} {p : Presented} {now : Time} {j : Job} (h : Stored s p now j) :
    HeldBy s p :=
  ⟨j, h.row, h.leased, h.owner, h.token⟩

theorem Stored.of_ownsLease {s : Db} {p : Presented} {now : Time} {j : Job}
    {allowed : JobStatus → Bool} (hallowed : ∀ x, allowed x = true → x.isActiveWork = true)
    (hget : s.jobs.get? p.jobId = some j) (hsync : j.isSync = true)
    (h : ownsLease s j p.workerId p.leaseToken allowed now = true) : Stored s p now j := by
  simp only [ownsLease, Bool.and_eq_true, decide_eq_true_eq] at h
  obtain ⟨⟨⟨⟨howner, htoken⟩, hstatus⟩, hexpires⟩, _⟩ := h
  rw [Option.any_eq_true] at hexpires
  obtain ⟨expiresAt, hexpires, hlt⟩ := hexpires
  refine ⟨hget, ?_, howner, htoken, expiresAt, hexpires, of_decide_eq_true hlt⟩
  simp only [Job.isLeased, hsync, Bool.true_and]
  exact hallowed _ hstatus

theorem ownedUpdate_ok {p : Presented} {allowed : JobStatus → Bool} {values : Job → Job}
    {now : Time} {s t : Db} {job : Job}
    (hallowed : ∀ x, allowed x = true → x.isActiveWork = true)
    (h : ownedUpdate p.jobId p.workerId p.leaseToken allowed values now s = (.ok job, t)) :
    ∃ j, Stored s p now j ∧ job = { values j with id := j.id } ∧ t = s.setJob p.jobId values := by
  obtain ⟨updated, u, hupdate, h⟩ := Tx.run_bind_ok h
  cases updated with
  | none => exact (throwLeaseFailure_not_ok h).elim
  | some job' =>
    cases h
    obtain ⟨j, hget, hc, rfl, rfl⟩ := updateJob_some hupdate
    simp only [Bool.and_eq_true] at hc
    exact ⟨j, Stored.of_ownsLease hallowed hget hc.1 hc.2, rfl, rfl⟩

theorem active_of_claimed (x : JobStatus) (h : decide (x = .claimed) = true) :
    x.isActiveWork = true := by
  rw [of_decide_eq_true h]
  rfl

theorem active_of_running (x : JobStatus) (h : decide (x = .running) = true) :
    x.isActiveWork = true := by
  rw [of_decide_eq_true h]
  rfl

/-- The row is there and no longer under a lease. -/
def Gone (s : Db) (jobId : String) : Prop :=
  ∃ j, s.jobs.get? jobId = some j ∧ j.isLeased = false

theorem Gone.after {s t : Db} {jobId : String} (h : Gone s jobId) (k : LeaseSteps s t) :
    Gone t jobId := by
  obtain ⟨j, hj, hl⟩ := h
  obtain ⟨j', hj', hkept⟩ := k.kept jobId j hj
  refine ⟨j', hj', ?_⟩
  cases hl' : j'.isLeased with
  | false => rfl
  | true =>
    rw [(hkept hl').1] at hl
    cases hl

theorem Gone.of_setJob {s : Db} {jobId : String} {j : Job} {values : Job → Job}
    (hget : s.jobs.get? jobId = some j) (h : ∀ j, (values j).isActiveWork = false) :
    Gone (s.setJob jobId values) jobId := by
  refine ⟨{ values j with id := j.id }, ?_, ?_⟩
  · rw [Db.get?_setJob, if_pos rfl, hget]
    rfl
  · have hactive := h j
    simp only [Job.isActiveWork] at hactive
    simp [Job.isLeased, Job.isActiveWork, hactive]

theorem completed_not_active (runId : Option String) (now : Time) (j : Job) :
    (completedValues runId now j).isActiveWork = false := rfl

theorem conflict_not_active (finishedAt : Option Time) (now : Time) (j : Job) :
    (conflictValues finishedAt now j).isActiveWork = false := rfl

theorem failed_not_active (retry : Bool) (retryAt : Option Time) (code : String)
    (runId : Option String) (now : Time) (j : Job) :
    (failedValues retry retryAt code runId now j).isActiveWork = false := by
  simp only [Job.isActiveWork, failedValues, failedStatus]
  split
  · split <;> rfl
  · rfl

theorem waiting_not_active (status : WaitingStatus) (code : String) (runId : Option String)
    (now : Time) (j : Job) : (waitingValues status code runId now j).isActiveWork = false := by
  cases status <;> rfl

section Owned

variable (repo : SchedulerRepository) {jobId workerId leaseToken : String} {now : Time}
  {s t : Db}

theorem start_ok {claim : SchedulerClaim}
    (h : start jobId workerId leaseToken now s = (.ok claim, t)) :
    ∃ p j, presented jobId workerId leaseToken = .ok p ∧ Stored s p now j := by
  obtain ⟨p, hp, h⟩ := Tx.run_bind_ofExcept h
  obtain ⟨_, _, h⟩ := Tx.run_bind_read (within_getSyncJob Tx.ReadOnly.chains _) h
  obtain ⟨_, u, hupdate, _⟩ := Tx.run_bind_ok h
  obtain ⟨j, hj, _, _⟩ := ownedUpdate_ok active_of_claimed hupdate
  exact ⟨p, j, hp, hj⟩

theorem heartbeat_ok {leaseSeconds : Int} {claim : SchedulerClaim}
    (h : heartbeat jobId workerId leaseToken leaseSeconds now s = (.ok claim, t)) :
    ∃ p j, presented jobId workerId leaseToken = .ok p ∧ Stored s p now j := by
  obtain ⟨p, hp, h⟩ := Tx.run_bind_ofExcept h
  obtain ⟨_, _, h⟩ := Tx.run_bind_ofExcept h
  obtain ⟨_, _, h⟩ := Tx.run_bind_read (within_getSyncJob Tx.ReadOnly.chains _) h
  obtain ⟨_, _, h⟩ := Tx.run_bind_ofExcept h
  obtain ⟨_, u, hupdate, _⟩ := Tx.run_bind_ok h
  obtain ⟨j, hj, _, _⟩ := ownedUpdate_ok active_of_running hupdate
  exact ⟨p, j, hp, hj⟩

theorem assertOwned_ok {claim : SchedulerClaim}
    (h : assertOwned jobId workerId leaseToken now s = (.ok claim, t)) :
    ∃ p j, presented jobId workerId leaseToken = .ok p ∧ Stored s p now j := by
  obtain ⟨p, hp, h⟩ := Tx.run_bind_ofExcept h
  obtain ⟨_, u, hupdate, _⟩ := Tx.run_bind_ok h
  obtain ⟨j, hj, _, _⟩ := ownedUpdate_ok active_of_running hupdate
  exact ⟨p, j, hp, hj⟩

theorem attachRun_ok {runId : String} {expected : Option String} {claim : SchedulerClaim}
    (h : attachRun jobId workerId leaseToken runId expected now s = (.ok claim, t)) :
    ∃ p j, presented jobId workerId leaseToken = .ok p ∧ Stored s p now j := by
  obtain ⟨p, hp, h⟩ := Tx.run_bind_ofExcept h
  obtain ⟨_, _, h⟩ := Tx.run_bind_ofExcept h
  obtain ⟨_, _, h⟩ := Tx.run_bind_ofExcept h
  obtain ⟨_, u, hassert, _⟩ := Tx.run_bind_ok h
  obtain ⟨q, j, hq, hj⟩ := assertOwned_ok hassert
  -- `attach_run` hands its normalized arguments on, which are normalized again
  rw [presented_again hp] at hq
  cases hq
  exact ⟨p, j, hp, hj⟩

/-- A finalizer that found an attached ownership conflict. -/
theorem reconcileConflict_owned {p : Presented} {observed : Job} {allowed : JobStatus → Bool}
    {r : Job} (hallowed : ∀ x, allowed x = true → x.isActiveWork = true)
    (hid : observed.id = p.jobId)
    (h : reconcileOwnershipConflictAttachment repo observed now false
      (some (p.workerId, p.leaseToken)) allowed none s = (.ok (some r), t)) :
    (∃ j, Stored s p now j) ∧ Gone t p.jobId := by
  rcases reconcileConflict_ok repo h with ⟨hr, _⟩ |
    ⟨j, finishedAt, hget, hsync, _, _, _, howned, _, m, hpass, houtside⟩
  · cases hr
  · have hlanes := (LaneWork.closed.applyLaneFailure _ _ _ _ _).ends hpass
    rw [hid] at hget hlanes
    refine ⟨⟨j, Stored.of_ownsLease hallowed hget hsync (howned _ rfl)⟩, ?_⟩
    obtain ⟨k, hk, hl⟩ := Gone.of_setJob hget (conflict_not_active finishedAt now)
    exact ⟨k, by rw [houtside.jobs, hlanes.jobs]; exact hk, hl⟩

theorem succeed_ok {runId : Option String} {r : SchedulerJobSummary}
    (h : succeed repo jobId workerId leaseToken runId now s = (.ok r, t)) :
    ∃ p j, presented jobId workerId leaseToken = .ok p ∧ Stored s p now j ∧ Gone t p.jobId := by
  obtain ⟨p, hp, h⟩ := Tx.run_bind_ofExcept h
  obtain ⟨_, _, h⟩ := Tx.run_bind_ofExcept h
  obtain ⟨observed, hobserved, h⟩ := Tx.run_bind_read (within_getSyncJob Tx.ReadOnly.chains _) h
  have hid := Job.get?_id (getSyncJob_ok hobserved).2.1
  obtain ⟨runId, _, h⟩ := Tx.run_bind_read (readOnly_validatedResultRunId _ _ _) h
  obtain ⟨reconciled, u, hconflict, h⟩ := Tx.run_bind_ok h
  cases reconciled with
  | some reconciled =>
    obtain ⟨⟨j, hj⟩, hgone⟩ := reconcileConflict_owned repo active_of_running hid hconflict
    rw [(Tx.run_ofExcept_ok h).2]
    exact ⟨p, j, hp, hj, hgone⟩
  | none =>
    cases reconcileConflict_none repo hconflict
    obtain ⟨completed, v, hupdate, h⟩ := Tx.run_bind_ok h
    obtain ⟨j, hj, _, rfl⟩ := ownedUpdate_ok active_of_running hupdate
    obtain ⟨_, v₁, h₁, h⟩ := Tx.run_bind_ok h
    obtain ⟨_, v₂, h₂, h⟩ := Tx.run_bind_ok h
    obtain ⟨_, v₃, h₃, h⟩ := Tx.run_bind_ok h
    rw [(Tx.run_ofExcept_ok h).2]
    have hgone := Gone.of_setJob hj.row (completed_not_active runId now)
    have hP := leaseKept_accepts
    have k₁ := (steps_laneWork hP (LaneWork.closed.applyLaneSuccess _ _ _ _)).ends h₁
    have k₂ := (steps_outside hP (outside_finalizeSubscription _ _ _ _ _)).ends h₂
    have k₃ := (steps_enqueuePipeline hP repo _ _).ends h₃
    exact ⟨p, j, hp, hj, ((hgone.after k₁).after k₂).after k₃⟩

theorem fail_ok {errorCode : String} {retryAt : Option Time} {affectsCircuit : Option Bool}
    {runId : Option String} {r : SchedulerJobSummary}
    (h : fail repo jobId workerId leaseToken errorCode retryAt affectsCircuit runId now s =
      (.ok r, t)) :
    ∃ p j, presented jobId workerId leaseToken = .ok p ∧ Stored s p now j ∧ Gone t p.jobId := by
  obtain ⟨p, hp, h⟩ := Tx.run_bind_ofExcept h
  obtain ⟨c, _, h⟩ := Tx.run_bind_ofExcept h
  obtain ⟨_, _, h⟩ := Tx.run_bind_ofExcept h
  obtain ⟨observed, hobserved, h⟩ := Tx.run_bind_read (within_getSyncJob Tx.ReadOnly.chains _) h
  have hid := Job.get?_id (getSyncJob_ok hobserved).2.1
  obtain ⟨runId, _, h⟩ := Tx.run_bind_read (readOnly_validatedResultRunId _ _ _) h
  obtain ⟨reconciled, u, hconflict, h⟩ := Tx.run_bind_ok h
  cases reconciled with
  | some reconciled =>
    obtain ⟨⟨j, hj⟩, hgone⟩ := reconcileConflict_owned repo (fun _ hx => hx) hid hconflict
    rw [(Tx.run_ofExcept_ok h).2]
    exact ⟨p, j, hp, hj, hgone⟩
  | none =>
    cases reconcileConflict_none repo hconflict
    obtain ⟨_, _, h⟩ := Tx.run_bind_read (readOnly_rejectFailure _ _) h
    obtain ⟨failed, v, hupdate, h⟩ := Tx.run_bind_ok h
    obtain ⟨j, hj, _, rfl⟩ := ownedUpdate_ok (fun _ hx => hx) hupdate
    obtain ⟨_, v₁, h₁, h⟩ := Tx.run_bind_ok h
    obtain ⟨_, v₂, h₂, h⟩ := Tx.run_bind_ok h
    rw [(Tx.run_ofExcept_ok h).2]
    have hgone := Gone.of_setJob hj.row
      (failed_not_active (c.disposition = .retry) retryAt c.code runId now)
    have hP := leaseKept_accepts
    have k₁ := (steps_laneWork hP (LaneWork.closed.applyLaneFailure _ _ _ _ _)).ends h₁
    have k₂ := (steps_outside hP (outside_finalizeFailed _ _ _)).ends h₂
    exact ⟨p, j, hp, hj, (hgone.after k₁).after k₂⟩

theorem wait_ok {status : WaitingStatus} {errorCode : String} {affectsCircuit : Option Bool}
    {runId : Option String} {r : SchedulerJobSummary}
    (h : wait repo jobId workerId leaseToken status errorCode affectsCircuit runId now s =
      (.ok r, t)) :
    ∃ p j, presented jobId workerId leaseToken = .ok p ∧ Stored s p now j ∧ Gone t p.jobId := by
  obtain ⟨p, hp, h⟩ := Tx.run_bind_ofExcept h
  obtain ⟨c, _, h⟩ := Tx.run_bind_ofExcept h
  obtain ⟨_, _, h⟩ := Tx.run_bind_ofExcept h
  obtain ⟨observed, hobserved, h⟩ := Tx.run_bind_read (within_getSyncJob Tx.ReadOnly.chains _) h
  have hid := Job.get?_id (getSyncJob_ok hobserved).2.1
  obtain ⟨runId, _, h⟩ := Tx.run_bind_read (readOnly_validatedResultRunId _ _ _) h
  obtain ⟨reconciled, u, hconflict, h⟩ := Tx.run_bind_ok h
  cases reconciled with
  | some reconciled =>
    obtain ⟨⟨j, hj⟩, hgone⟩ := reconcileConflict_owned repo (fun _ hx => hx) hid hconflict
    rw [(Tx.run_ofExcept_ok h).2]
    exact ⟨p, j, hp, hj, hgone⟩
  | none =>
    cases reconcileConflict_none repo hconflict
    obtain ⟨_, _, h⟩ := Tx.run_bind_read (readOnly_rejectFailure _ _) h
    obtain ⟨waiting, v, hupdate, h⟩ := Tx.run_bind_ok h
    obtain ⟨j, hj, _, rfl⟩ := ownedUpdate_ok (fun _ hx => hx) hupdate
    obtain ⟨_, v₁, h₁, h⟩ := Tx.run_bind_ok h
    rw [(Tx.run_ofExcept_ok h).2]
    have hgone := Gone.of_setJob hj.row (waiting_not_active status c.code runId now)
    have k₁ :=
      (steps_laneWork leaseKept_accepts (LaneWork.closed.applyLaneFailure _ _ _ _ _)).ends h₁
    exact ⟨p, j, hp, hj, hgone.after k₁⟩

/-- A committed owned operation presented the stored lease; a finalizer ended it. -/
theorem perform_owned {op : Op} {c : LeaseCall} {reply : Reply} (hc : op.leaseCall? = some c)
    (h : op.perform repo s = (.ok reply, t)) :
    ∃ p j, presented c.jobId c.workerId c.leaseToken = .ok p ∧ Stored s p c.now j ∧
      (op.isFinalizer = true → Gone t p.jobId) := by
  cases op with
  | start =>
    cases hc
    obtain ⟨_, u, h, _⟩ := Tx.run_bind_ok h
    obtain ⟨p, j, hp, hj⟩ := start_ok h
    exact ⟨p, j, hp, hj, nofun⟩
  | heartbeat =>
    cases hc
    obtain ⟨_, u, h, _⟩ := Tx.run_bind_ok h
    obtain ⟨p, j, hp, hj⟩ := heartbeat_ok h
    exact ⟨p, j, hp, hj, nofun⟩
  | assertOwned =>
    cases hc
    obtain ⟨_, u, h, _⟩ := Tx.run_bind_ok h
    obtain ⟨p, j, hp, hj⟩ := assertOwned_ok h
    exact ⟨p, j, hp, hj, nofun⟩
  | attachRun =>
    cases hc
    obtain ⟨_, u, h, _⟩ := Tx.run_bind_ok h
    obtain ⟨p, j, hp, hj⟩ := attachRun_ok h
    exact ⟨p, j, hp, hj, nofun⟩
  | succeed =>
    cases hc
    obtain ⟨_, u, h, hpure⟩ := Tx.run_bind_ok h
    cases hpure
    obtain ⟨p, j, hp, hj, hgone⟩ := succeed_ok repo h
    exact ⟨p, j, hp, hj, fun _ => hgone⟩
  | fail =>
    cases hc
    obtain ⟨_, u, h, hpure⟩ := Tx.run_bind_ok h
    cases hpure
    obtain ⟨p, j, hp, hj, hgone⟩ := fail_ok repo h
    exact ⟨p, j, hp, hj, fun _ => hgone⟩
  | wait =>
    cases hc
    obtain ⟨_, u, h, hpure⟩ := Tx.run_bind_ok h
    cases hpure
    obtain ⟨p, j, hp, hj, hgone⟩ := wait_ok repo h
    exact ⟨p, j, hp, hj, fun _ => hgone⟩
  | _ => cases hc

end Owned

/-! ## Histories -/

def LeaseCall.presented (c : LeaseCall) : Except SchedulerError Presented :=
  SchedulerRepository.presented c.jobId c.workerId c.leaseToken

namespace Event

/-- The job and the pair that a committed claim handed out. -/
def grant? : Event → Option Presented
  | call _ op (.ok (.claimed (some claim))) _ =>
    op.claimer?.bind (fun workerId =>
      match requiredText workerId "worker_id" 255 with
      | .ok owner => some ⟨claim.jobId, owner, claim.leaseToken⟩
      | .error _ => none)
  | _ => none

/-- An owned operation, whatever came of it. -/
def ownedCall? : Event → Option LeaseCall
  | call _ op _ _ => op.leaseCall?
  | elsewhere _ _ => none

def isCommitted : Event → Bool
  | call _ _ (.ok _) _ => true
  | _ => false

/-- A committed `succeed`, `fail` or `wait`. -/
def finalizes : Event → Bool
  | call _ op (.ok _) _ => op.isFinalizer
  | _ => false

end Event

/-- Other code gives no sync job a lease and takes no identifier back. -/
structure LeasesLeft (s t : Db) : Prop where
  held : ∀ p, HeldBy t p → HeldBy s p
  drawn : s.drawn ≤ t.drawn

/-- The event at `k` handed out `p`; up to `i` no other claim of the job has
followed, and the row has held the pair under a lease throughout. -/
structure HeldSince (h : List Event) (k i : Nat) (p : Presented) : Prop where
  before : k < i
  granted : ∃ e, h[k]? = some e ∧ e.grant? = some p
  latest : ∀ (m : Nat) (e : Event) (g : Presented), k < m → m < i → h[m]? = some e →
    e.grant? = some g → g.jobId ≠ p.jobId
  held : ∀ (m : Nat) (e : Event), k ≤ m → m < i → h[m]? = some e → HeldBy e.after p

structure Fenced (h : List Event) : Prop where
  /-- A committed owned operation presented the pair of the last claim of its
  job, whose lease still stands and has time left. -/
  owned : ∀ i e c, h[i]? = some e → e.isCommitted = true → e.ownedCall? = some c →
    ∃ p j k, c.presented = .ok p ∧ Stored e.before p c.now j ∧ HeldSince h k i p
  /-- After a finalizer its token opens nothing. -/
  once : ∀ (i k : Nat) (e f : Event) (c d : LeaseCall) (p q : Presented), i < k →
    h[i]? = some e → h[k]? = some f → e.finalizes = true → e.ownedCall? = some c →
    c.presented = .ok p → f.isCommitted = true →
    f.ownedCall? = some d → d.presented = .ok q → q.leaseToken ≠ p.leaseToken
  /-- A token older than the last claim of its job opens nothing. -/
  stale : ∀ (k m i : Nat) (e f g : Event) (p q r : Presented) (c : LeaseCall), k < m → m < i →
    h[k]? = some e → h[m]? = some f → h[i]? = some g → e.grant? = some p → f.grant? = some q → q.jobId = p.jobId →
    g.ownedCall? = some c → c.presented = .ok r → r.leaseToken = p.leaseToken →
    g.isCommitted = false ∧ g.after = g.before

theorem HeldBy.unique {s : Db} {p q : Presented} (hp : HeldBy s p) (hq : HeldBy s q)
    (hid : p.jobId = q.jobId) : p = q := by
  obtain ⟨j, hj, _, howner, htoken⟩ := hp
  obtain ⟨k, hk, _, howner', htoken'⟩ := hq
  rw [hid, hk] at hj
  cases hj
  rw [howner] at howner'
  rw [htoken] at htoken'
  cases p
  cases q
  cases hid
  cases howner'
  cases htoken'
  rfl

theorem LeaseSteps.held {s t : Db} (h : LeaseSteps s t) {p : Presented} (hp : HeldBy t p) :
    HeldBy s p := by
  obtain ⟨j', hj', hl, howner, htoken⟩ := hp
  obtain ⟨j, hj, hl', ho, ht⟩ := h.back hj' hl
  exact ⟨j, hj, hl', ho ▸ howner, ht ▸ htoken⟩

/-- What one event can do to the leases. -/
structure StepLeases (repo : SchedulerRepository) (s : Db) (e : Event) (t : Db) : Prop where
  back : ∀ p, HeldBy t p → (∀ g, e.grant? = some g → g.jobId ≠ p.jobId) → HeldBy s p
  granted : ∀ g, e.grant? = some g → HeldBy t g
  token : ∀ g, e.grant? = some g → ∃ n, g.leaseToken = repo.uuid n ∧ s.drawn ≤ n ∧ n < t.drawn
  drawn : s.drawn ≤ t.drawn

theorem StepLeases.of_ungranted {repo : SchedulerRepository} {s t : Db} {e : Event}
    (he : e.grant? = none) (hback : ∀ p, HeldBy t p → HeldBy s p) (hdrawn : s.drawn ≤ t.drawn) :
    StepLeases repo s e t where
  back p hp _ := hback p hp
  granted g hg := by
    rw [he] at hg
    cases hg
  token g hg := by
    rw [he] at hg
    cases hg
  drawn := hdrawn

theorem StepLeases.of_granted {repo : SchedulerRepository} {s m t : Db} {e : Event}
    {owner : String} {claim : SchedulerClaim}
    (he : e.grant? = some ⟨claim.jobId, owner, claim.leaseToken⟩) (hm : LeaseSteps s m)
    (h : Granted owner m t claim) (hn : ∃ n, claim.leaseToken = repo.uuid n ∧
      s.drawn ≤ n ∧ n < t.drawn) : StepLeases repo s e t where
  back p hp hne := by
    apply hm.held
    obtain ⟨j, hj, hl, howner, htoken⟩ := hp
    have hid : p.jobId ≠ claim.jobId := fun hid => hne _ he hid.symm
    rw [h.get?_ne hid] at hj
    exact ⟨j, hj, hl, howner, htoken⟩
  granted g hg := by
    rw [he] at hg
    cases hg
    obtain ⟨j, hj, hsync, hclaimed, howner, htoken⟩ := h.get?
    refine ⟨j, hj, ?_, howner, htoken⟩
    simp [Job.isLeased, hsync, Job.isActiveWork, hclaimed, JobStatus.isActiveWork]
  token g hg := by
    rw [he] at hg
    cases hg
    exact hn
  drawn := Nat.le_trans hm.drawn h.drawn

theorem grant?_of_not_claim {op : Op} (hop : op.claimer? = none) (s t : Db)
    (reply : Except SchedulerError Reply) : (Event.call s op reply t).grant? = none := by
  unfold Event.grant?
  split
  · rename_i heq
    cases heq
    rw [hop]
    rfl
  · rfl

theorem step_leases {repo : SchedulerRepository} {s t : Db} {e : Event}
    (h : Step repo LeasesLeft s e t) : StepLeases repo s e t := by
  have hP := leaseKept_accepts
  cases h with
  | elsewhere henv => exact StepLeases.of_ungranted rfl henv.held henv.drawn
  | call op hrun =>
    rename_i reply
    cases hop : op.claimer? with
    | none =>
      have hsteps : LeaseSteps s t :=
        (Tx.Within.commit (JobSteps.chains hP) (steps_perform repo hP hop)).ends hrun
      exact StepLeases.of_ungranted (grant?_of_not_claim hop _ _ _) (fun _ => hsteps.held)
        hsteps.drawn
    | some workerId =>
      cases reply with
      | error err =>
        rw [Tx.commit_error hrun]
        exact StepLeases.of_ungranted rfl (fun _ hp => hp) (Nat.le_refl _)
      | ok reply =>
        obtain ⟨owner, r, howner, rfl, hends⟩ :=
          perform_claim_ok repo hP hop (Tx.commit_ok hrun)
        cases r with
        | none =>
          have hsteps : LeaseSteps s t := hends
          exact StepLeases.of_ungranted rfl (fun _ => hsteps.held) hsteps.drawn
        | some claim =>
          obtain ⟨m, hm, hgrant, n, hn, hle, hlt⟩ := hends
          have he : (Event.call s op (.ok (.claimed (some claim))) t).grant? =
              some ⟨claim.jobId, owner, claim.leaseToken⟩ := by
            simp only [Event.grant?, hop, Option.bind_some, howner]
          exact StepLeases.of_granted he hm hgrant
            ⟨n, hn, hle, Nat.lt_of_lt_of_le hlt hgrant.drawn⟩

theorem HeldSince.append {h : List Event} {k i : Nat} {p : Presented} (hh : HeldSince h k i p)
    (hi : i ≤ h.length) (rest : List Event) : HeldSince (h ++ rest) k i p where
  before := hh.before
  granted := by
    obtain ⟨e, he, hg⟩ := hh.granted
    exact ⟨e, by rw [List.getElem?_append_left (Nat.lt_of_lt_of_le hh.before hi)]; exact he, hg⟩
  latest m e g hkm hmi he := by
    rw [List.getElem?_append_left (Nat.lt_of_lt_of_le hmi hi)] at he
    exact hh.latest m e g hkm hmi he
  held m e hkm hmi he := by
    rw [List.getElem?_append_left (Nat.lt_of_lt_of_le hmi hi)] at he
    exact hh.held m e hkm hmi he

section Runs

variable {repo : SchedulerRepository} {s t : Db} {h : List Event}

/-- A lease that stands at the end of a history was handed out in it and has
stood ever since. -/
theorem History.heldSince (hs : ∀ p, ¬ HeldBy s p) (ht : History repo LeasesLeft s h t) :
    ∀ p, HeldBy t p → ∃ k, HeldSince h k h.length p := by
  induction ht with
  | nil => exact fun p hp => (hs p hp).elim
  | @snoc h t u e htr hstep ih =>
    intro p hp
    have hleases := step_leases hstep
    have hafter := hstep.ends.2
    rw [List.length_append, List.length_singleton]
    by_cases hg : ∃ g, e.grant? = some g ∧ g.jobId = p.jobId
    · obtain ⟨g, hg, hid⟩ := hg
      cases (hleases.granted g hg).unique hp hid
      refine ⟨h.length, Nat.lt_succ_self _, ⟨e, by simp, hg⟩, ?_, ?_⟩
      · intro m e' g' hkm hmi _ _
        omega
      · intro m e' hkm hmi he'
        obtain rfl : m = h.length := by omega
        rw [List.getElem?_append_right (Nat.le_refl _), Nat.sub_self] at he'
        cases he'
        rw [hafter]
        exact hp
    · have hnot : ∀ g, e.grant? = some g → g.jobId ≠ p.jobId :=
        fun g hg' hid => hg ⟨g, hg', hid⟩
      obtain ⟨k, hk⟩ := ih p (hleases.back p hp hnot)
      have hk' := hk.append (Nat.le_refl _) [e]
      refine ⟨k, Nat.lt_succ_of_lt hk.before, hk'.granted, ?_, ?_⟩
      · intro m e' g hkm hmi he' hg'
        rcases Nat.lt_succ_iff_lt_or_eq.mp hmi with hlt | rfl
        · exact hk'.latest m e' g hkm hlt he' hg'
        · rw [List.getElem?_append_right (Nat.le_refl _), Nat.sub_self] at he'
          cases he'
          exact hnot g hg'
      · intro m e' hkm hmi he'
        rcases Nat.lt_succ_iff_lt_or_eq.mp hmi with hlt | rfl
        · exact hk'.held m e' hkm hlt he'
        · rw [List.getElem?_append_right (Nat.le_refl _), Nat.sub_self] at he'
          cases he'
          rw [hafter]
          exact hp

/-- Two claims of one history never hand out one token. -/
theorem History.grant_unique (hfresh : Function.Injective repo.uuid)
    (ht : History repo LeasesLeft s h t) {i k : Nat} {e f : Event} {p q : Presented} (hik : i < k)
    (hi : h[i]? = some e) (hk : h[k]? = some f) (hp : e.grant? = some p)
    (hq : f.grant? = some q) : p.leaseToken ≠ q.leaseToken := by
  obtain ⟨a, b, c, d, hab, ⟨l, hbc⟩, hcd⟩ := ht.at_indices hik hi hk
  obtain ⟨n, hn, _, hnb⟩ := (step_leases hab).token p hp
  obtain ⟨m, hm, hcm, _⟩ := (step_leases hcd).token q hq
  have hdrawn : b.drawn ≤ c.drawn :=
    hbc.relates (R := fun x y => x.drawn ≤ y.drawn) (fun _ => Nat.le_refl _)
      (fun _ _ _ => Nat.le_trans)
      (fun _ _ _ hstep => (step_leases hstep).drawn)
  intro heq
  rw [hn, hm] at heq
  have := hfresh heq
  omega

theorem History.owned (hs : ∀ p, ¬ HeldBy s p) (ht : History repo LeasesLeft s h t) {i : Nat}
    {e : Event} {c : LeaseCall} (hi : h[i]? = some e) (hcommit : e.isCommitted = true)
    (hc : e.ownedCall? = some c) :
    ∃ p j k, c.presented = .ok p ∧ Stored e.before p c.now j ∧ HeldSince h k i p ∧
      (e.finalizes = true → Gone e.after p.jobId) := by
  have hlt := (List.getElem?_eq_some_iff.mp hi).1
  obtain ⟨a, b, hpre, hstep, _⟩ := ht.at_index hi
  cases hstep with
  | elsewhere => cases hc
  | call op hrun =>
    rename_i reply
    cases reply with
    | error => cases hcommit
    | ok reply =>
      obtain ⟨p, j, hp, hj, hgone⟩ := perform_owned repo hc (Tx.commit_ok hrun)
      obtain ⟨k, hk⟩ := History.heldSince hs hpre p hj.held
      have hlen : (h.take i).length = i := by rw [List.length_take]; omega
      have hk' := hk.append (Nat.le_refl _) (h.drop i)
      rw [List.take_append_drop, hlen] at hk'
      exact ⟨p, j, k, hp, hj, hk', hgone⟩

/-- Lease fencing: any number of workers, any order of transactions and any
clock arguments. -/
theorem lease_fencing (hfresh : Function.Injective repo.uuid) (hs : ∀ p, ¬ HeldBy s p)
    (ht : History repo LeasesLeft s h t) : Fenced h where
  owned i e c hi hcommit hc := by
    obtain ⟨p, j, k, hp, hj, hk, _⟩ := History.owned hs ht hi hcommit hc
    exact ⟨p, j, k, hp, hj, hk⟩
  once i k e f c d p q hik hi hk hfinal hc hp hcommit hd hq heq := by
    have hcommit' : e.isCommitted = true := by
      cases e with
      | elsewhere => cases hfinal
      | call _ _ reply _ =>
        cases reply with
        | error => cases hfinal
        | ok => rfl
    obtain ⟨p', _, m, hp', _, hm, hgone⟩ := History.owned hs ht hi hcommit' hc
    rw [hp] at hp'
    cases hp'
    obtain ⟨q', _, n, hq', _, hn, _⟩ := History.owned hs ht hk hcommit hd
    rw [hq] at hq'
    cases hq'
    obtain ⟨x, hx, hxg⟩ := hm.granted
    obtain ⟨y, hy, hyg⟩ := hn.granted
    -- one token, hence one claim; the finalizer stands between it and the later call
    have hmn : m = n := by
      rcases Nat.lt_trichotomy m n with hlt | rfl | hlt
      · exact (History.grant_unique hfresh ht hlt hx hy hxg hyg heq.symm).elim
      · rfl
      · exact (History.grant_unique hfresh ht hlt hy hx hyg hxg heq).elim
    subst hmn
    rw [hx] at hy
    cases hy
    rw [hxg] at hyg
    cases hyg
    obtain ⟨j, hj, hl⟩ := hgone hfinal
    obtain ⟨j', hj', hl', _⟩ := hn.held i e (Nat.le_of_lt hm.before) hik hi
    rw [hj] at hj'
    cases hj'
    rw [hl] at hl'
    cases hl'
  stale k m i e f g p q r c hkm hmi hk hm hi hp hq hid hc hr heq := by
    cases hcommit : g.isCommitted with
    | true =>
      obtain ⟨r', _, n, hr', _, hn, _⟩ := History.owned hs ht hi hcommit hc
      rw [hr] at hr'
      cases hr'
      obtain ⟨y, hy, hyg⟩ := hn.granted
      have hkn : k = n := by
        rcases Nat.lt_trichotomy k n with hlt | rfl | hlt
        · exact (History.grant_unique hfresh ht hlt hk hy hp hyg heq.symm).elim
        · rfl
        · exact (History.grant_unique hfresh ht hlt hy hk hyg hp heq).elim
      subst hkn
      rw [hk] at hy
      cases hy
      rw [hp] at hyg
      cases hyg
      exact (hn.latest m f q hkm hmi hm hq hid).elim
    | false =>
      obtain ⟨a, b, _, hstep, _⟩ := ht.at_index hi
      refine ⟨rfl, ?_⟩
      cases hstep with
      | elsewhere => cases hc
      | call op hrun =>
        rename_i reply
        cases reply with
        | error => exact Tx.commit_error hrun
        | ok => cases hcommit

end Runs

/-- One job from its cycle to its success, and a late failure of the same lease. -/
def sampleLease : List Op :=
  [.materializeDue 10 500 .standard,
    .claimNext ⟨"worker", 10, 60, 10, none, 1000⟩,
    .start "a" "worker" "aaaa" 2000,
    .succeed "a" "worker" "aaaa" none 3000,
    .fail "a" "worker" "aaaa" "upstream_timeout" none none none 3000]

theorem sampleDb_unheld (p : Presented) : ¬ HeldBy sampleDb p := by
  rintro ⟨j, hj, _⟩
  cases hj

theorem lease_fencing_sample :
    Fenced (replay sampleRepository sampleDb sampleLease).1 ∧
      (replay sampleRepository sampleDb sampleLease).1.map Event.isCommitted =
        [true, true, true, true, false] :=
  ⟨lease_fencing sampleRepository_fresh sampleDb_unheld
    (replay_history sampleRepository LeasesLeft sampleDb sampleLease), by decide +kernel⟩

end MediaSync.Scheduler
