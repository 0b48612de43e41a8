import MediaSync.Scheduler.ClaimSteps

/-!
# The shape of a sync job's row

The status of a row decides which of its other columns are set. The attempts
stay within their bound, a job that is to be claimed later has one left, and a
terminal status is final. One update at a time, every operation keeps this.
-/

namespace MediaSync.Scheduler

open Python Transaction Transition SchedulerError SchedulerRepository

/-- The statuses from which a job is claimed without an explicit resume. -/
def JobStatus.isPending (s : JobStatus) : Bool := s = .queued || s.isRequeue

structure Job.WellFormed (j : Job) : Prop where
  leased : j.isActiveWork = true →
    j.leaseOwner.isSome = true ∧ j.leaseToken.isSome = true ∧ j.leaseExpiresAt.isSome = true
  unleased : j.isActiveWork = false →
    j.leaseOwner = none ∧ j.leaseToken = none ∧ j.leaseExpiresAt = none
  allowed : 1 ≤ j.maxAttempts
  attempts : j.attempts ≤ j.maxAttempts
  claimable : j.status.isPending = true → j.attempts < j.maxAttempts
  finished : j.finishedAt.isSome = true ↔ j.status.isTerminal = true

/-- A sync job keeps its kind and its shape, and a terminal one its status. -/
structure ShapeKept (j k : Job) : Prop where
  kind : k.isSync = j.isSync
  shape : j.isSync = true → j.WellFormed → k.WellFormed
  final : j.isSync = true → j.status.isTerminal = true → k.status = j.status

def Shaped (j : Job) : Prop := j.isSync = true → j.WellFormed

section Updates

variable {j : Job}

/-- A row without a lease, by the kind of its status. -/
theorem Job.WellFormed.of_released {k : Job} (hactive : k.isActiveWork = false)
    (howner : k.leaseOwner = none) (htoken : k.leaseToken = none)
    (hexpires : k.leaseExpiresAt = none) (hallowed : 1 ≤ k.maxAttempts)
    (hattempts : k.attempts ≤ k.maxAttempts)
    (hclaimable : k.status.isPending = true → k.attempts < k.maxAttempts)
    (hfinished : k.finishedAt.isSome = true ↔ k.status.isTerminal = true) : k.WellFormed where
  leased h := by
    rw [hactive] at h
    cases h
  unleased _ := ⟨howner, htoken, hexpires⟩
  allowed := hallowed
  attempts := hattempts
  claimable := hclaimable
  finished := hfinished

theorem ShapeKept.of_active {k : Job} (hkind : k.isSync = j.isSync)
    (hactive : j.status.isTerminal = false) (hshape : j.WellFormed → k.WellFormed) :
    ShapeKept j k where
  kind := hkind
  shape _ := hshape
  final _ h := by
    rw [hactive] at h
    cases h

/-- A terminal row: no lease, a time of its end, attempts as they were. -/
theorem Job.WellFormed.ended {k : Job} (h : j.WellFormed) (hstatus : k.status.isTerminal = true)
    (howner : k.leaseOwner = none) (htoken : k.leaseToken = none)
    (hexpires : k.leaseExpiresAt = none) (hmax : k.maxAttempts = j.maxAttempts)
    (hattempts : k.attempts = j.attempts) (hfinished : k.finishedAt.isSome = true) :
    k.WellFormed := by
  have hstatus' : k.status.isActiveWork = false ∧ k.status.isPending = false := by
    cases hk : k.status <;> rw [hk] at hstatus <;> first | exact ⟨rfl, rfl⟩ | cases hstatus
  refine .of_released hstatus'.1 howner htoken hexpires (hmax ▸ h.allowed)
    (by rw [hmax, hattempts]; exact h.attempts) ?_ (by simp [hfinished, hstatus])
  intro hpending
  rw [hstatus'.2] at hpending
  cases hpending

theorem terminal_of_active {s : JobStatus} (h : s.isActiveWork = true) : s.isTerminal = false :=
  JobStatus.not_isTerminal_of_isActiveWork h

theorem orElse_isSome (a : Option Time) (now : Time) : (a <|> some now).isSome = true := by
  cases a <;> rfl

theorem shapeKept_expired (now : Time) (hactive : j.isActiveWork = true) :
    ShapeKept j (expiredValues now j) := by
  refine .of_active rfl (terminal_of_active hactive) (fun h => ?_)
  by_cases hout : attemptsExhausted j = true
  · exact h.ended (by simp [expiredValues, hout, JobStatus.isTerminal]) rfl rfl rfl rfl rfl
      (by simp [expiredValues, hout])
  · have hleft : j.attempts < j.maxAttempts := by simpa [attemptsExhausted] using hout
    exact .of_released (by simp [Job.isActiveWork, expiredValues, hout, JobStatus.isActiveWork])
      rfl rfl rfl h.allowed h.attempts (fun _ => hleft)
      (by simp [expiredValues, hout, JobStatus.isTerminal])

theorem shapeKept_failed (retry : Bool) (retryAt : Option Time) (code : String)
    (runId : Option String) (now : Time) (hactive : j.isActiveWork = true) :
    ShapeKept j (failedValues retry retryAt code runId now j) := by
  refine .of_active rfl (terminal_of_active hactive) (fun h => ?_)
  cases hretry : retry && !attemptsExhausted j with
  | true =>
    have hleft : j.attempts < j.maxAttempts := by
      simp only [Bool.and_eq_true, Bool.not_eq_true'] at hretry
      simpa [attemptsExhausted] using hretry.2
    have hstatus : (failedStatus true retryAt now).isActiveWork = false ∧
        (failedStatus true retryAt now).isTerminal = false := by
      unfold failedStatus
      simp only [if_true]
      split_ifs <;> exact ⟨rfl, rfl⟩
    exact .of_released (by simp [Job.isActiveWork, failedValues, hretry, hstatus.1])
      rfl rfl rfl h.allowed h.attempts (fun _ => hleft)
      (by simp [failedValues, hretry, hstatus.2])
  | false =>
    exact h.ended (by simp [failedValues, hretry, failedStatus, JobStatus.isTerminal])
      rfl rfl rfl rfl rfl (by simp [failedValues, hretry])

theorem shapeKept_waiting (status : WaitingStatus) (code : String) (runId : Option String)
    (now : Time) (hactive : j.isActiveWork = true) :
    ShapeKept j (waitingValues status code runId now j) := by
  refine .of_active rfl (terminal_of_active hactive) (fun h => ?_)
  cases status <;>
    exact .of_released rfl rfl rfl rfl h.allowed h.attempts nofun (by simp [waitingValues,
      WaitingStatus.status, JobStatus.isTerminal])

theorem shapeKept_resumed (now : Time) (hwaiting : j.status.isWaiting = true) :
    ShapeKept j (resumedValues now j) := by
  have hactive : j.status.isTerminal = false := by
    cases hj : j.status <;> rw [hj] at hwaiting <;> first | rfl | cases hwaiting
  refine .of_active rfl hactive (fun h => ?_)
  have hallowed := h.allowed
  -- A job that waited in its last attempt gets that attempt back.
  have hleft : (resumedValues now j).attempts < j.maxAttempts := by
    simp only [resumedValues, releaseLease]
    split_ifs <;> omega
  exact .of_released rfl rfl rfl rfl hallowed hleft.le (fun _ => hleft)
    (by simp [resumedValues, JobStatus.isTerminal])

theorem shapeKept_claimed (owner leaseToken : String) (expiresAt now : Time)
    (hqueued : j.status = .queued) :
    ShapeKept j (claimedValues owner leaseToken expiresAt now j) := by
  refine .of_active rfl (by rw [hqueued]; rfl) (fun h => ?_)
  have hleft := h.claimable (by rw [hqueued]; rfl)
  exact
    { leased := fun _ => ⟨rfl, rfl, rfl⟩
      unleased := nofun
      allowed := h.allowed
      attempts := hleft
      claimable := nofun
      finished := by simp [claimedValues, JobStatus.isTerminal] }

/-- An update of a leased row that leaves its lease, its attempts and its end alone. -/
theorem shapeKept_leased {k : Job} (hkind : k.isSync = j.isSync) (hj : j.isActiveWork = true)
    (hk : k.isActiveWork = true) (howner : k.leaseOwner = j.leaseOwner)
    (htoken : k.leaseToken = j.leaseToken)
    (hexpires : j.leaseExpiresAt.isSome = true → k.leaseExpiresAt.isSome = true)
    (hmax : k.maxAttempts = j.maxAttempts) (hattempts : k.attempts = j.attempts)
    (hfinished : k.finishedAt = j.finishedAt) : ShapeKept j k := by
  have hpending : k.status.isPending = false := by
    have h : k.status.isActiveWork = true := hk
    cases hs : k.status <;> rw [hs] at h <;> first | rfl | cases h
  refine .of_active hkind (terminal_of_active hj) (fun h => ?_)
  exact
    { leased := fun _ => by
        obtain ⟨h1, h2, h3⟩ := h.leased hj
        exact ⟨howner ▸ h1, htoken ▸ h2, hexpires h3⟩
      unleased := fun hfalse => by
        rw [hk] at hfalse
        cases hfalse
      allowed := hmax ▸ h.allowed
      attempts := by rw [hmax, hattempts]; exact h.attempts
      claimable := fun hp => by
        rw [hpending] at hp
        cases hp
      finished := by
        rw [hfinished, h.finished, terminal_of_active hj, terminal_of_active hk] }

end Updates

theorem shapeKept_accepts : Accepts ShapeKept Shaped where
  refl _ := ⟨rfl, fun _ h => h, fun _ _ => rfl⟩
  trans i j k hij hjk :=
    { kind := hjk.kind.trans hij.kind
      shape := fun hi h => hjk.shape (hij.kind.trans hi) (hij.shape hi h)
      final := fun hi h => by
        have hstatus := hij.final hi h
        exact (hjk.final (hij.kind.trans hi) (hstatus ▸ h)).trans hstatus }
  added j k hj hjk hk := by
    have hsync : j.isSync = true := hjk.kind.symm.trans hk
    exact hjk.shape hsync (hj hsync)
  cycle _ _ _ _ _ _ _ retry _ :=
    .of_released rfl rfl rfl rfl retry.attempts_range.1 (Nat.zero_le _)
      (fun _ => retry.attempts_range.1) (by simp [cycleJob, JobStatus.isTerminal])
  coordinator _ _ _ _ _ _ _ _ h := by cases h
  repaired j _ _ _ _ _ _ hj :=
    { kind := rfl
      shape := fun h => by
        rw [hj] at h
        cases h
      final := fun h => by
        rw [hj] at h
        cases h }
  settled j finishedAt now _ hactive :=
    .of_active rfl hactive fun h =>
      h.ended rfl rfl rfl rfl rfl rfl (orElse_isSome finishedAt now)
  conflict j finishedAt now _ hactive :=
    .of_active rfl hactive fun h =>
      h.ended rfl rfl rfl rfl rfl rfl (orElse_isSome finishedAt now)
  expired _ now _ hactive := shapeKept_expired now hactive
  requeued j now _ hrequeue := by
    have hstatus : j.status.isActiveWork = false ∧ j.status.isTerminal = false := by
      cases hj : j.status <;> rw [hj] at hrequeue <;> first | exact ⟨rfl, rfl⟩ | cases hrequeue
    refine .of_active rfl hstatus.2 (fun h => ?_)
    obtain ⟨h1, h2, h3⟩ := h.unleased hstatus.1
    have hleft := h.claimable (by simp [JobStatus.isPending, hrequeue])
    refine .of_released rfl h1 h2 h3 h.allowed h.attempts (fun _ => hleft) ?_
    have := h.finished
    rw [hstatus.2] at this
    simpa [requeuedValues, JobStatus.isTerminal] using this
  invalid j now _ hqueued :=
    .of_active rfl (by rw [hqueued]; rfl) fun h => by
      obtain ⟨h1, h2, h3⟩ := h.unleased (by simp [Job.isActiveWork, hqueued, JobStatus.isActiveWork])
      exact h.ended rfl h1 h2 h3 rfl rfl rfl
  started j now _ hclaimed :=
    shapeKept_leased rfl (by simp [Job.isActiveWork, hclaimed, JobStatus.isActiveWork]) rfl rfl rfl
      id rfl rfl rfl
  renewed j expiresAt now _ hrunning :=
    shapeKept_leased rfl (by simp [Job.isActiveWork, hrunning, JobStatus.isActiveWork])
      (by simp [Job.isActiveWork, renewedValues, hrunning, JobStatus.isActiveWork]) rfl rfl
      (fun _ => rfl) rfl rfl rfl
  attached _ _ _ _ :=
    ⟨rfl, fun _ h => ⟨h.leased, h.unleased, h.allowed, h.attempts, h.claimable, h.finished⟩,
      fun _ _ => rfl⟩
  completed j runId now _ hrunning :=
    .of_active rfl (by rw [hrunning]; rfl) fun h => h.ended rfl rfl rfl rfl rfl rfl rfl
  failed _ retry retryAt code runId now _ hactive :=
    shapeKept_failed retry retryAt code runId now hactive
  waiting _ status code runId now _ hactive := shapeKept_waiting status code runId now hactive
  resumed _ now _ hwaiting := shapeKept_resumed now hwaiting
  cancelled j now hactive :=
    .of_active rfl hactive fun h => h.ended rfl rfl rfl rfl rfl rfl rfl

/-- Other code leaves the rows of the sync jobs as they are. -/
def SyncJobsLeft (s t : Db) : Prop :=
  ∀ id, (t.jobs.get? id).filter Job.isSync = (s.jobs.get? id).filter Job.isSync

/-- Every sync job is one that a cycle has just materialized. -/
def Materialized (s : Db) : Prop :=
  ∀ j ∈ s.jobs.rows, j.isSync = true →
    ∃ id subscriptionId accountId platform revision scheduledFor now retry,
      j = cycleJob id subscriptionId accountId platform revision scheduledFor now retry

def JobsWellFormed (s : Db) : Prop := ∀ j ∈ s.jobs.rows, j.isSync = true → j.WellFormed

/-- A terminal sync job is still there, with the same status. -/
def TerminalKept (s t : Db) : Prop :=
  ∀ id j, s.jobs.get? id = some j → j.isSync = true → j.status.isTerminal = true →
    ∃ j', t.jobs.get? id = some j' ∧ j'.status = j.status

theorem Materialized.jobsWellFormed {s : Db} (h : Materialized s) : JobsWellFormed s := by
  intro j hj hsync
  obtain ⟨id, subscriptionId, accountId, platform, revision, scheduledFor, now, retry, rfl⟩ :=
    h j hj hsync
  exact shapeKept_accepts.cycle _ _ _ _ _ _ _ _ hsync

theorem SyncJobsLeft.get? {s t : Db} (h : SyncJobsLeft s t) {id : String} {j : Job}
    (hj : s.jobs.get? id = some j) (hsync : j.isSync = true) : t.jobs.get? id = some j := by
  have hfilter := h id
  rw [hj, Option.filter_some, if_pos hsync] at hfilter
  exact (Option.filter_eq_some_iff.1 hfilter).1

theorem SyncJobsLeft.symm {s t : Db} (h : SyncJobsLeft s t) : SyncJobsLeft t s :=
  fun id => (h id).symm

theorem shape_of_steps {s t : Db} (h : JobSteps ShapeKept Shaped s t) :
    (JobsWellFormed s → JobsWellFormed t) ∧ TerminalKept s t := by
  constructor
  · intro hs j' hj' hsync
    have hget := Table.get?_of_mem hj'
    cases hold : s.jobs.get? j'.id with
    | none => exact h.added _ _ hold hget hsync
    | some j =>
      obtain ⟨k, hk, hkept⟩ := h.kept _ _ hold
      rw [hget] at hk
      cases hk
      have hjsync : j.isSync = true := hkept.kind.symm.trans hsync
      exact hkept.shape hjsync (hs j (Table.get?_mem hold) hjsync)
  · intro id j hj hsync hterminal
    obtain ⟨k, hk, hkept⟩ := h.kept id j hj
    exact ⟨k, hk, hkept.final hsync hterminal⟩

theorem step_shape {repo : SchedulerRepository} {s t : Db} {e : Event}
    (h : Step repo SyncJobsLeft s e t) :
    (JobsWellFormed s → JobsWellFormed t) ∧ TerminalKept s t := by
  cases h with
  | call op hrun =>
    refine shape_of_steps (steps_call repo shapeKept_accepts ?_ hrun)
    intro j owner leaseToken expiresAt now _ hqueued
    exact shapeKept_claimed owner leaseToken expiresAt now hqueued
  | elsewhere henv =>
    constructor
    · intro hs j hj hsync
      exact hs j (Table.get?_mem (henv.symm.get? (Table.get?_of_mem hj) hsync)) hsync
    · intro id j hj hsync _
      exact ⟨j, henv.get? hj hsync, rfl⟩

/-- Whatever is issued from materialized jobs on, every sync job has the shape of its
status, and no operation takes a terminal status back. -/
theorem sync_jobs_well_formed {repo : SchedulerRepository} {s t : Db} {events : List Event}
    (hs : Materialized s) (ht : History repo SyncJobsLeft s events t) :
    (∀ j ∈ t.jobs.rows, j.isSync = true → j.WellFormed) ∧
      ∀ e ∈ events, TerminalKept e.before e.after := by
  constructor
  · exact ht.invariant (I := JobsWellFormed) (fun _ _ _ hI hstep => (step_shape hstep).1 hI)
      hs.jobsWellFormed
  · intro e he
    obtain ⟨pre, post, rfl⟩ := List.append_of_mem he
    obtain ⟨a, b, _, hstep, _⟩ := ht.at_label
    obtain ⟨rfl, rfl⟩ := hstep.ends
    exact (step_shape hstep).2

/-- A job fails in its first attempt, is claimed again, waits and is cancelled. -/
def sampleAttempts : List Op :=
  [.materializeDue 10 500 .standard,
    .claimNext ⟨"worker", 10, 60, 10, none, 1000⟩,
    .fail "a" "worker" "aaaa" "upstream_timeout" none none none 2000,
    .claimNext ⟨"worker", 10, 60, 10, none, 10000000⟩,
    .cancel "a" 11000000,
    .resume "a" 12000000]

theorem sync_jobs_well_formed_sample :
    (∀ j ∈ (replay sampleRepository sampleDb sampleAttempts).2.jobs.rows,
        j.isSync = true → j.WellFormed) ∧
      (replay sampleRepository sampleDb sampleAttempts).2.jobs.rows.map
        (fun j => (j.status, j.attempts)) = [(.cancelled, 2)] :=
  ⟨(sync_jobs_well_formed (s := sampleDb) (by simp [Materialized, sampleDb])
    (replay_history sampleRepository SyncJobsLeft sampleDb sampleAttempts)).1, by
      decide +kernel⟩

end MediaSync.Scheduler
