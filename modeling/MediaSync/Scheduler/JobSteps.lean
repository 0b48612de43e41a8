import MediaSync.Scheduler.Acts

/-!
# What a transaction can do to a job row

`JobSteps P New` relates two states in which every job row is kept up to `P`
and every added row satisfies `New`. `Accepts P New` lists, once, the updates
and insertions the repository makes, each with the guard it makes them under.
A relation that accepts them relates the two ends of every transaction; the
claim's own update is left out here, so that it can be treated on its own.
-/

namespace MediaSync.Scheduler

open Python Transaction Transition SchedulerError SchedulerRepository

/-- Every job row of the first state is kept up to `P`, every new one satisfies `New`. -/
structure JobSteps (P : Job → Job → Prop) (New : Job → Prop) (s t : Db) : Prop where
  kept : ∀ id j, s.jobs.get? id = some j → ∃ j', t.jobs.get? id = some j' ∧ P j j'
  added : ∀ id j', s.jobs.get? id = none → t.jobs.get? id = some j' → New j'
  drawn : s.drawn ≤ t.drawn

/-- What the two relations on job rows must allow: each change that an operation makes. -/
structure Accepts (P : Job → Job → Prop) (New : Job → Prop) : Prop where
  refl : ∀ j, P j j
  trans : ∀ i j k, P i j → P j k → P i k
  added : ∀ j k, New j → P j k → New k
  cycle : ∀ id subscriptionId accountId platform revision scheduledFor now retry,
    New (cycleJob id subscriptionId accountId platform revision scheduledFor now retry)
  coordinator : ∀ id sourceId subscriptionId accountId runId platform now utc,
    New (newCoordinator id sourceId subscriptionId accountId runId platform now utc)
  repaired : ∀ j sourceId subscriptionId accountId runId platform now, j.isSync = false →
    P j (repairedValues sourceId subscriptionId accountId runId platform now j)
  settled : ∀ j finishedAt now, j.isSync = true → j.status.isTerminal = false →
    P j (settledValues finishedAt now j)
  conflict : ∀ j finishedAt now, j.isSync = true → j.status.isTerminal = false →
    P j (conflictValues finishedAt now j)
  expired : ∀ j now, j.isSync = true → j.isActiveWork = true →
    P j (expiredValues now j)
  requeued : ∀ j now, j.isSync = true → j.status.isRequeue = true → P j (requeuedValues now j)
  invalid : ∀ j now, j.isSync = true → j.status = .queued → P j (invalidValues now j)
  started : ∀ j now, j.isSync = true → j.status = .claimed → P j (startedValues now j)
  renewed : ∀ j expiresAt now, j.isSync = true → j.status = .running →
    P j (renewedValues expiresAt now j)
  attached : ∀ j runId now, j.isSync = true → P j (attachedValues runId now j)
  completed : ∀ j runId now, j.isSync = true → j.status = .running →
    P j (completedValues runId now j)
  failed : ∀ j retry retryAt code runId now, j.isSync = true → j.isActiveWork = true →
    P j (failedValues retry retryAt code runId now j)
  waiting : ∀ j status code runId now, j.isSync = true → j.isActiveWork = true →
    P j (waitingValues status code runId now j)
  resumed : ∀ j now, j.isSync = true → j.status.isWaiting = true → P j (resumedValues now j)
  cancelled : ∀ j now, j.status.isTerminal = false → P j (cancelledValues now j)

section

variable {P : Job → Job → Prop} {New : Job → Prop} (hP : Accepts P New)

include hP

theorem JobSteps.chains : Tx.Chains (JobSteps P New) where
  refl s := by
    refine ⟨fun _ j h => ⟨j, h, hP.refl j⟩, fun _ _ h h' => ?_, Nat.le_refl _⟩
    rw [h] at h'
    cases h'
  trans s t u h k := by
    refine ⟨fun id j hj => ?_, fun id j' hs hu => ?_, Nat.le_trans h.drawn k.drawn⟩
    · obtain ⟨j', hj', hp⟩ := h.kept id j hj
      obtain ⟨j'', hj'', hp'⟩ := k.kept id j' hj'
      exact ⟨j'', hj'', hP.trans _ _ _ hp hp'⟩
    · cases ht : t.jobs.get? id with
      | none => exact k.added id j' ht hu
      | some m =>
        obtain ⟨m', hm', hp⟩ := k.kept id m ht
        rw [hm'] at hu
        cases hu
        exact hP.added _ _ (h.added id m hs ht) hp

/-- Where no job row changes, the steps are trivial. -/
theorem JobSteps.of_jobs_eq {s t : Db} (hj : t.jobs = s.jobs) (hd : s.drawn ≤ t.drawn) :
    JobSteps P New s t := by
  refine ⟨fun id j h => ⟨j, hj ▸ h, hP.refl j⟩, fun id j' hs ht => ?_, hd⟩
  rw [hj, hs] at ht
  cases ht

theorem steps_outside {α : Type} {m : Session α} (h : Tx.Within Outside m) :
    Tx.Within (JobSteps P New) m :=
  Tx.Within.mono (fun _ _ h => JobSteps.of_jobs_eq hP h.jobs h.drawn) h

theorem steps_laneWork {α : Type} {m : Session α} (h : Tx.Within LaneWork m) :
    Tx.Within (JobSteps P New) m :=
  Tx.Within.mono (fun _ _ h => JobSteps.of_jobs_eq hP h.jobs h.drawn) h

/-- An update by a condition changes the rows it selects, each by an allowed change. -/
theorem JobSteps.of_update (db : Db) (p : Job → Bool) (f : Job → Job)
    (keeps : ∀ j, (f j).id = j.id) (h : ∀ j, p j = true → P j (f j)) :
    JobSteps P New db { db with jobs := db.jobs.update p f keeps } := by
  refine ⟨fun id j hj => ?_, fun id j' hs ht => ?_, Nat.le_refl _⟩
  · refine ⟨if p j then f j else j, ?_, ?_⟩
    · rw [Table.get?_update, hj]
      rfl
    · split
      · rename_i hp
        exact h j hp
      · exact hP.refl j
  · rw [Table.get?_update, hs] at ht
    cases ht

/-- A write to one row. -/
theorem JobSteps.of_setJob (db : Db) (id : String) (values : Job → Job)
    (h : ∀ j, db.jobs.get? id = some j → P j { values j with id := j.id }) :
    JobSteps P New db (db.setJob id values) := by
  refine ⟨fun k j hj => ?_, fun k j' hs ht => ?_, Nat.le_refl _⟩
  · rw [Db.get?_setJob]
    by_cases hk : k = id
    · rw [if_pos hk, hj]
      exact ⟨_, rfl, h j (hk ▸ hj)⟩
    · rw [if_neg hk]
      exact ⟨j, hj, hP.refl j⟩
  · rw [Db.get?_setJob, hs] at ht
    split at ht <;> cases ht

/-- The guarded write of one row; the conditions may be assumed of the row. -/
theorem steps_updateJob (id : String) (conditions : Db → Job → Bool) (values : Job → Job)
    (h : ∀ db j, conditions db j = true → P j { values j with id := j.id }) :
    Tx.Within (JobSteps P New) (updateJob id conditions values) := by
  apply Tx.Within.modifyGet
  intro db
  cases hget : db.jobs.get? id with
  | none => exact (JobSteps.chains hP).refl db
  | some j =>
    by_cases hc : conditions db j = true
    · simp only [hc, if_true]
      apply JobSteps.of_setJob hP
      intro j' hj'
      rw [hget] at hj'
      cases hj'
      exact h db j hc
    · simp only [hc]
      exact (JobSteps.chains hP).refl db

/-- A new row, unless its natural key is taken. -/
theorem steps_insertJob (job : Job) (h : New job) :
    Tx.Within (JobSteps P New) (insertJob job) := by
  intro db
  unfold insertJob
  split
  · exact (JobSteps.chains hP).refl db
  · split
    · rename_i jobs hins
      refine ⟨fun id j hj => ?_, fun id j' hs ht => ?_, Nat.le_refl _⟩
      · refine ⟨j, ?_, hP.refl j⟩
        rw [Table.get?_insert? hins]
        split
        · rename_i hid
          have hfresh := Table.insert?_fresh hins
          rw [hid, hj] at hfresh
          cases hfresh
        · exact hj
      · change jobs.get? id = some j' at ht
        rw [Table.get?_insert? hins] at ht
        split at ht
        · cases ht
          exact h
        · rw [hs] at ht
          cases ht
    · exact (JobSteps.chains hP).refl db

end

/-! ## The operations -/

section Operations

variable {P : Job → Job → Prop} {New : Job → Prop} (hP : Accepts P New)
  (repo : SchedulerRepository)

include hP

theorem steps_enqueueSucceededSync (uuid : Nat → String) (utcNow : Nat → Time)
    (syncJobId runId : String) (now : Time) :
    Tx.Within (JobSteps P New) (enqueueSucceededSync uuid utcNow syncJobId runId now) := by
  have hR := JobSteps.chains hP
  refine Tx.Within.bind hR (Tx.Within.require hR _ _) (fun _ => ?_)
  refine Tx.Within.bind hR (Tx.Within.require hR _ _) (fun _ => ?_)
  refine Tx.Within.bind hR (within_sourceScope hR _ _) (fun scope => ?_)
  obtain ⟨source, subscriptionId, accountId, platform⟩ := scope
  refine Tx.Within.bind hR (Tx.Within.read hR _) (fun superseding => ?_)
  refine Tx.Within.bind hR (Tx.Within.require hR _ _) (fun _ => ?_)
  refine Tx.Within.bind hR (Tx.Within.read hR _) (fun utc => ?_)
  refine Tx.Within.bind hR (steps_outside hP (outside_newUuid uuid)) (fun id => ?_)
  refine Tx.Within.bind hR (Tx.Within.read hR _) (fun existing => ?_)
  refine Tx.Within.bind hR ?_ (fun job => ?_)
  · cases existing with
    | some job => exact Tx.Within.pure hR _
    | none => exact steps_insertJob hP _ (hP.coordinator _ _ _ _ _ _ _ _)
  · split
    · exact Tx.Within.pure hR _
    · refine Tx.Within.bind hR (Tx.Within.require hR _ _) (fun _ => ?_)
      refine Tx.Within.bind hR (steps_updateJob hP _ _ _ ?_) (fun _ => Tx.Within.require hR _ _)
      intro db j hc
      apply hP.repaired
      simp only [Bool.and_eq_true, decide_eq_true_eq] at hc
      simp [Job.isSync, hc.1.1, pipelineSubscriptionJobType, syncSubscriptionJobType]

theorem steps_enqueuePipeline (job : Job) (now : Time) :
    Tx.Within (JobSteps P New) (enqueuePipelineForSucceededRun repo job now) := by
  have hR := JobSteps.chains hP
  unfold enqueuePipelineForSucceededRun
  split
  · exact Tx.Within.pure hR _
  · refine Tx.Within.bind hR (Tx.Within.read hR _) (fun run => ?_)
    cases run with
    | none => exact Tx.Within.pure hR _
    | some run =>
      dsimp only
      split
      · exact Tx.Within.pure hR _
      · exact steps_enqueueSucceededSync hP _ _ _ _ _

/-- A job that is not terminal may take the result of its attached run. -/
theorem steps_reconcileSucceeded (job : Job) (now : Time) (expiredOnly : Bool)
    (lockedLanes : Option (List String)) (hactive : job.status.isTerminal = false) :
    Tx.Within (JobSteps P New)
      (reconcileSucceededAttachment repo job now expiredOnly lockedLanes) := by
  have hR := JobSteps.chains hP
  unfold reconcileSucceededAttachment
  split
  · exact Tx.Within.pure hR _
  · refine Tx.Within.bind hR (Tx.Within.read hR _) (fun run => ?_)
    cases run with
    | none => exact Tx.Within.throw hR _
    | some run =>
      refine Tx.Within.bind hR (Tx.Within.require hR _ _) (fun _ => ?_)
      split
      · exact Tx.Within.pure hR _
      · refine Tx.Within.bind hR (steps_updateJob hP _ _ _ ?_) (fun reconciled => ?_)
        · intro db j hc
          simp only [Bool.and_eq_true, decide_eq_true_eq] at hc
          exact hP.settled j _ _ hc.1.1.1 (hc.1.1.2 ▸ hactive)
        · cases reconciled with
          | none => exact Tx.Within.pure hR _
          | some reconciled =>
            refine Tx.Within.bind hR
              (steps_laneWork hP (LaneWork.closed.applyLaneSuccess _ _ _ _)) (fun _ => ?_)
            refine Tx.Within.bind hR
              (steps_outside hP (outside_finalizeSubscription _ _ _ _ _)) (fun _ => ?_)
            refine Tx.Within.bind hR (steps_enqueuePipeline hP repo _ _) (fun _ => ?_)
            exact Tx.Within.pure hR _

theorem within_throwLeaseFailure {α : Type} (jobId workerId : String) :
    Tx.Within (JobSteps P New) (throwLeaseFailure jobId workerId : Session α) := by
  have hR := JobSteps.chains hP
  refine Tx.Within.bind hR (Tx.Within.read hR _) (fun current => ?_)
  cases current with
  | none => exact Tx.Within.throw hR _
  | some current =>
    dsimp only
    split
    · exact Tx.Within.throw hR _
    · exact Tx.Within.throw hR _

/-- A job may take the conflict of its attached run, if its lease allows it. -/
theorem steps_reconcileConflict (job : Job) (now : Time) (expiredOnly : Bool)
    (ownedBy : Option (String × String)) (allowed : JobStatus → Bool)
    (lockedLanes : Option (List String)) :
    Tx.Within (JobSteps P New)
      (reconcileOwnershipConflictAttachment repo job now expiredOnly ownedBy allowed
        lockedLanes) := by
  have hR := JobSteps.chains hP
  unfold reconcileOwnershipConflictAttachment
  split
  · exact Tx.Within.pure hR _
  · split
    · exact Tx.Within.pure hR _
    · rename_i hactive
      refine Tx.Within.bind hR (Tx.Within.read hR _) (fun run => ?_)
      cases run with
      | none => exact Tx.Within.throw hR _
      | some run =>
        refine Tx.Within.bind hR (Tx.Within.require hR _ _) (fun _ => ?_)
        split
        · exact Tx.Within.pure hR _
        · refine Tx.Within.bind hR (steps_updateJob hP _ _ _ ?_) (fun reconciled => ?_)
          · intro db j hc
            simp only [Bool.and_eq_true, decide_eq_true_eq] at hc
            have hstatus : j.status = job.status := hc.1.1.1.1.1.1.2
            exact hP.conflict j _ _ hc.1.1.1.1.1.1.1.1 (by rw [hstatus]; simpa using hactive)
          · cases reconciled with
            | none =>
              cases ownedBy with
              | none => exact Tx.Within.throw hR _
              | some owner => exact within_throwLeaseFailure hP _ _
            | some reconciled =>
              refine Tx.Within.bind hR
                (steps_laneWork hP (LaneWork.closed.applyLaneFailure _ _ _ _ _)) (fun _ => ?_)
              refine Tx.Within.bind hR
                (steps_outside hP (outside_finalizeConflict repo _ _)) (fun _ => ?_)
              exact Tx.Within.pure hR _

/-- A materialization adds the job row of its cycle and changes no other. -/
theorem JobSteps.cycleClosed : CycleClosed (JobSteps P New) where
  chains := JobSteps.chains hP
  outside h := .of_jobs_eq hP h.jobs h.drawn
  insert _ _ _ _ _ _ _ _ := steps_insertJob hP _ (hP.cycle _ _ _ _ _ _ _ _)

theorem steps_reclaimOne (now : Time) (observed : Job) (hactive : observed.isActiveWork = true) :
    Tx.Within (JobSteps P New) (reclaimOne repo now observed) := by
  have hR := JobSteps.chains hP
  have hterminal := JobStatus.not_isTerminal_of_isActiveWork hactive
  refine Tx.Within.bind hR (steps_reconcileSucceeded hP repo _ _ _ _ hterminal)
    (fun succeeded => ?_)
  split
  · exact Tx.Within.pure hR _
  · refine Tx.Within.bind hR (steps_reconcileConflict hP repo _ _ _ _ _ _) (fun conflict => ?_)
    split
    · exact Tx.Within.pure hR _
    · refine Tx.Within.bind hR ?_ (fun reclaimed => ?_)
      · apply steps_updateJob hP
        intro db j hc
        simp only [Bool.and_eq_true, decide_eq_true_eq] at hc
        have hwork : j.isActiveWork = true := by
          rw [Job.isActiveWork, hc.1.1.2]
          exact hactive
        exact hP.expired j _ hc.1.1.1 hwork
      · cases reclaimed with
        | none => exact Tx.Within.pure hR _
        | some reclaimed =>
          refine Tx.Within.bind hR (steps_outside hP (outside_cancelAttachedRun _ _ _))
            (fun _ => ?_)
          refine Tx.Within.bind hR (steps_laneWork hP (LaneWork.closed.applyLaneFailure _ _ _ _ _))
            (fun _ => ?_)
          split
          · exact steps_outside hP (outside_finalizeSubscription _ _ _ _ _)
          · exact Tx.Within.pure hR _

theorem steps_reclaimExpiredSync (now : Time) (jobId : Option String) :
    Tx.Within (JobSteps P New) (reclaimExpiredSync repo now jobId) := by
  have hR := JobSteps.chains hP
  intro s
  apply Tx.Within.bind_at hR (Tx.Within.read hR _)
  intro expired t hread
  cases hread
  refine Tx.Within.forEach hR _ (fun j hj => ?_) s
  have hmem := List.mem_of_mem_take hj
  rw [List.mem_mergeSort, List.mem_filter] at hmem
  simp only [Bool.and_eq_true] at hmem
  exact steps_reclaimOne hP repo now j hmem.2.1.1.2

/-- The due retries go back to the queue after the conflicts are recovered. -/
theorem steps_requeueDueSync (now : Time) (jobId : Option String) :
    Tx.Within (JobSteps P New) (requeueDueSync repo now jobId) := by
  have hR := JobSteps.chains hP
  refine Tx.Within.bind hR (Tx.Within.read hR _) (fun conflicts => ?_)
  refine Tx.Within.bind hR ?_ (fun _ => ?_)
  · refine Tx.Within.forEach hR conflicts (fun j _ => ?_)
    exact Tx.Within.bind hR (steps_reconcileConflict hP repo _ _ _ _ _ _)
      (fun _ => Tx.Within.pure hR _)
  · apply Tx.Within.modify
    intro db
    apply JobSteps.of_update hP
    intro j hj
    simp only [Bool.and_eq_true] at hj
    exact hP.requeued j now hj.1.1.1.1.1 hj.1.1.1.1.2

theorem steps_terminalizeInvalidCandidate (job : Job) (now : Time) :
    Tx.Within (JobSteps P New) (terminalizeInvalidCandidate repo job now) := by
  have hR := JobSteps.chains hP
  refine Tx.Within.bind hR ?_ (fun terminal => ?_)
  · apply steps_updateJob hP
    intro db j hc
    simp only [Bool.and_eq_true, decide_eq_true_eq] at hc
    exact hP.invalid j now hc.1 hc.2
  · cases terminal with
    | none => exact Tx.Within.pure hR _
    | some terminal => exact steps_outside hP (outside_finalizeSubscription _ _ _ _ _)

theorem steps_candidateActive (subscriptionId : String) :
    Tx.Within (JobSteps P New) (candidateActive subscriptionId) := by
  have hR := JobSteps.chains hP
  refine Tx.Within.catching hR ?_ (fun _ => Tx.Within.pure hR _)
  exact Tx.Within.bind hR (within_requireActive hR _) (fun _ => Tx.Within.pure hR _)

theorem steps_candidateLanes (candidate : Job) (now : Time) :
    Tx.Within (JobSteps P New) (candidateLanes repo candidate now) := by
  have hR := JobSteps.chains hP
  refine Tx.Within.catching hR ?_ (fun _ => ?_)
  · refine Tx.Within.bind hR (Tx.Within.ofExcept hR _) (fun _ => ?_)
    refine Tx.Within.bind hR (steps_laneWork hP (LaneWork.closed.jobLanes _ _ _)) (fun lanes => ?_)
    refine Tx.Within.bind hR (steps_reconcileConflict hP repo _ _ _ _ _ _) (fun _ => ?_)
    exact Tx.Within.pure hR _
  · exact Tx.Within.bind hR (steps_terminalizeInvalidCandidate hP repo _ _)
      (fun _ => Tx.Within.pure hR _)

theorem steps_checkExact (target : Option (String × String)) :
    Tx.Within (JobSteps P New) (checkExact target) := by
  have hR := JobSteps.chains hP
  cases target with
  | none => exact Tx.Within.pure hR _
  | some e =>
    obtain ⟨jobId, subscriptionId⟩ := e
    refine Tx.Within.bind hR (within_getSyncJob hR _) (fun observed => ?_)
    refine Tx.Within.bind hR (Tx.Within.require hR _ _) (fun _ => ?_)
    refine Tx.Within.bind hR (within_requireActive hR _) (fun subscription => ?_)
    refine Tx.Within.bind hR (Tx.Within.require hR _ _) (fun _ => ?_)
    refine Tx.Within.bind hR (Tx.Within.read hR _) (fun account => ?_)
    split
    · exact Tx.Within.require hR _ _
    · exact Tx.Within.throw hR _

/-- What the holder of a lease writes to its own row. -/
theorem steps_ownedUpdate (jobId workerId leaseToken : String) (allowed : JobStatus → Bool)
    (values : Job → Job) (now : Time)
    (h : ∀ j, j.isSync = true → allowed j.status = true → P j { values j with id := j.id }) :
    Tx.Within (JobSteps P New) (ownedUpdate jobId workerId leaseToken allowed values now) := by
  have hR := JobSteps.chains hP
  refine Tx.Within.bind hR (steps_updateJob hP _ _ _ ?_) (fun updated => ?_)
  · intro db j hc
    simp only [ownsLease, Bool.and_eq_true] at hc
    exact h j hc.1 hc.2.1.1.2
  · cases updated with
    | none => exact within_throwLeaseFailure hP _ _
    | some job => exact Tx.Within.pure hR _

theorem steps_start (jobId workerId leaseToken : String) (now : Time) :
    Tx.Within (JobSteps P New) (start jobId workerId leaseToken now) := by
  have hR := JobSteps.chains hP
  refine Tx.Within.bind hR (Tx.Within.ofExcept hR _) (fun p => ?_)
  refine Tx.Within.bind hR (within_getSyncJob hR _) (fun _ => ?_)
  refine Tx.Within.bind hR (steps_ownedUpdate hP _ _ _ _ _ _ ?_)
    (fun _ => Tx.Within.ofExcept hR _)
  intro j hsync hstatus
  exact hP.started j now hsync (of_decide_eq_true hstatus)

theorem steps_heartbeat (jobId workerId leaseToken : String) (leaseSeconds : Int) (now : Time) :
    Tx.Within (JobSteps P New) (heartbeat jobId workerId leaseToken leaseSeconds now) := by
  have hR := JobSteps.chains hP
  refine Tx.Within.bind hR (Tx.Within.ofExcept hR _) (fun p => ?_)
  refine Tx.Within.bind hR (Tx.Within.ofExcept hR _) (fun lease => ?_)
  refine Tx.Within.bind hR (within_getSyncJob hR _) (fun _ => ?_)
  refine Tx.Within.bind hR (Tx.Within.ofExcept hR _) (fun expiresAt => ?_)
  refine Tx.Within.bind hR (steps_ownedUpdate hP _ _ _ _ _ _ ?_)
    (fun _ => Tx.Within.ofExcept hR _)
  intro j hsync hstatus
  exact hP.renewed j expiresAt now hsync (of_decide_eq_true hstatus)

theorem steps_assertOwned (jobId workerId leaseToken : String) (now : Time) :
    Tx.Within (JobSteps P New) (assertOwned jobId workerId leaseToken now) := by
  have hR := JobSteps.chains hP
  refine Tx.Within.bind hR (Tx.Within.ofExcept hR _) (fun p => ?_)
  refine Tx.Within.bind hR (steps_ownedUpdate hP _ _ _ _ _ _ ?_)
    (fun _ => Tx.Within.ofExcept hR _)
  intro j _ _
  exact hP.refl j

/-- A row that is still owned gets its run after the checks of what is attached. -/
theorem steps_attachRun (jobId workerId leaseToken runId : String) (expected : Option String)
    (now : Time) :
    Tx.Within (JobSteps P New) (attachRun jobId workerId leaseToken runId expected now) := by
  have hR := JobSteps.chains hP
  refine Tx.Within.bind hR (Tx.Within.ofExcept hR _) (fun p => ?_)
  refine Tx.Within.bind hR (Tx.Within.ofExcept hR _) (fun runId => ?_)
  refine Tx.Within.bind hR (Tx.Within.ofExcept hR _) (fun expected => ?_)
  refine Tx.Within.bind hR (steps_assertOwned hP _ _ _ _) (fun _ => ?_)
  intro s
  apply Tx.Within.bind_at hR (within_getSyncJob hR _)
  intro job t hjob
  obtain ⟨rfl, hget, hsync⟩ := getSyncJob_ok hjob
  refine Tx.Within.require_at hR (fun _ => Tx.Within.read_at ?_)
  refine Tx.Within.require_at hR (fun _ => Tx.Within.read_at ?_)
  refine Tx.Within.require_at hR (fun _ => Tx.Within.read_at ?_)
  refine Tx.Within.require_at hR (fun _ => ?_)
  refine hR.trans _ _ _ (JobSteps.of_setJob hP t p.jobId (attachedValues runId now) ?_) ?_
  · intro j hj
    rw [hget] at hj
    cases hj
    exact hP.attached job runId now hsync
  · exact Tx.Within.bind hR (within_getSyncJob hR _) (fun _ => Tx.Within.ofExcept hR _) _

theorem steps_readOnly {α : Type} {m : Session α} (h : Tx.ReadOnly m) :
    Tx.Within (JobSteps P New) m :=
  Tx.Within.mono (fun _ _ h => h ▸ (JobSteps.chains hP).refl _) h

theorem steps_succeed (jobId workerId leaseToken : String) (runId : Option String) (now : Time) :
    Tx.Within (JobSteps P New) (succeed repo jobId workerId leaseToken runId now) := by
  have hR := JobSteps.chains hP
  refine Tx.Within.bind hR (Tx.Within.ofExcept hR _) (fun p => ?_)
  refine Tx.Within.bind hR (Tx.Within.ofExcept hR _) (fun runId => ?_)
  refine Tx.Within.bind hR (within_getSyncJob hR _) (fun observed => ?_)
  refine Tx.Within.bind hR (steps_readOnly hP (readOnly_validatedResultRunId _ _ _))
    (fun runId => ?_)
  refine Tx.Within.bind hR (steps_reconcileConflict hP repo _ _ _ _ _ _) (fun reconciled => ?_)
  cases reconciled with
  | some reconciled => exact Tx.Within.ofExcept hR _
  | none =>
    refine Tx.Within.bind hR (steps_ownedUpdate hP _ _ _ _ _ _ ?_) (fun completed => ?_)
    · intro j hsync hstatus
      exact hP.completed j runId now hsync (of_decide_eq_true hstatus)
    · refine Tx.Within.bind hR (steps_laneWork hP (LaneWork.closed.applyLaneSuccess _ _ _ _))
        (fun _ => ?_)
      refine Tx.Within.bind hR (steps_outside hP (outside_finalizeSubscription _ _ _ _ _))
        (fun _ => ?_)
      refine Tx.Within.bind hR (steps_enqueuePipeline hP repo _ _) (fun _ => ?_)
      exact Tx.Within.ofExcept hR _

theorem steps_fail (jobId workerId leaseToken errorCode : String) (retryAt : Option Time)
    (affectsCircuit : Option Bool) (runId : Option String) (now : Time) :
    Tx.Within (JobSteps P New)
      (fail repo jobId workerId leaseToken errorCode retryAt affectsCircuit runId now) := by
  have hR := JobSteps.chains hP
  refine Tx.Within.bind hR (Tx.Within.ofExcept hR _) (fun p => ?_)
  refine Tx.Within.bind hR (Tx.Within.ofExcept hR _) (fun c => ?_)
  refine Tx.Within.bind hR (Tx.Within.ofExcept hR _) (fun runId => ?_)
  refine Tx.Within.bind hR (within_getSyncJob hR _) (fun observed => ?_)
  refine Tx.Within.bind hR (steps_readOnly hP (readOnly_validatedResultRunId _ _ _))
    (fun runId => ?_)
  refine Tx.Within.bind hR (steps_reconcileConflict hP repo _ _ _ _ _ _) (fun reconciled => ?_)
  cases reconciled with
  | some reconciled => exact Tx.Within.ofExcept hR _
  | none =>
    refine Tx.Within.bind hR (steps_readOnly hP (readOnly_rejectFailure _ _)) (fun _ => ?_)
    refine Tx.Within.bind hR (steps_ownedUpdate hP _ _ _ _ _ _ ?_) (fun failed => ?_)
    · intro j hsync hstatus
      exact hP.failed j _ retryAt c.code runId now hsync hstatus
    · refine Tx.Within.bind hR (steps_laneWork hP (LaneWork.closed.applyLaneFailure _ _ _ _ _))
        (fun _ => ?_)
      refine Tx.Within.bind hR (steps_outside hP (outside_finalizeFailed _ _ _)) (fun _ => ?_)
      exact Tx.Within.ofExcept hR _

theorem steps_wait (jobId workerId leaseToken : String) (status : WaitingStatus)
    (errorCode : String) (affectsCircuit : Option Bool) (runId : Option String) (now : Time) :
    Tx.Within (JobSteps P New)
      (wait repo jobId workerId leaseToken status errorCode affectsCircuit runId now) := by
  have hR := JobSteps.chains hP
  refine Tx.Within.bind hR (Tx.Within.ofExcept hR _) (fun p => ?_)
  refine Tx.Within.bind hR (Tx.Within.ofExcept hR _) (fun c => ?_)
  refine Tx.Within.bind hR (Tx.Within.ofExcept hR _) (fun runId => ?_)
  refine Tx.Within.bind hR (within_getSyncJob hR _) (fun observed => ?_)
  refine Tx.Within.bind hR (steps_readOnly hP (readOnly_validatedResultRunId _ _ _))
    (fun runId => ?_)
  refine Tx.Within.bind hR (steps_reconcileConflict hP repo _ _ _ _ _ _) (fun reconciled => ?_)
  cases reconciled with
  | some reconciled => exact Tx.Within.ofExcept hR _
  | none =>
    refine Tx.Within.bind hR (steps_readOnly hP (readOnly_rejectFailure _ _)) (fun _ => ?_)
    refine Tx.Within.bind hR (steps_ownedUpdate hP _ _ _ _ _ _ ?_) (fun waiting => ?_)
    · intro j hsync hstatus
      exact hP.waiting j status c.code runId now hsync hstatus
    · refine Tx.Within.bind hR (steps_laneWork hP (LaneWork.closed.applyLaneFailure _ _ _ _ _))
        (fun _ => ?_)
      exact Tx.Within.ofExcept hR _

/-- A waiting job goes back to the queue, unless its run has settled it. -/
theorem steps_resume (jobId : String) (now : Time) :
    Tx.Within (JobSteps P New) (resume repo jobId now) := by
  have hR := JobSteps.chains hP
  refine Tx.Within.bind hR (Tx.Within.ofExcept hR _) (fun id => ?_)
  refine Tx.Within.bind hR (within_getSyncJob hR _) (fun observed => ?_)
  refine Tx.Within.bind hR ?_ (fun _ => ?_)
  · cases observed.subscriptionId with
    | none => exact Tx.Within.pure hR _
    | some subscriptionId =>
      exact Tx.Within.bind hR (within_requireActive hR _) (fun _ => Tx.Within.pure hR _)
  · refine Tx.Within.bind hR ?_ (fun reconciled => ?_)
    · unfold reconcileWaiting
      split
      · exact steps_reconcileConflict hP repo _ _ _ _ _ _
      · exact Tx.Within.pure hR _
    · cases reconciled with
      | some reconciled => exact Tx.Within.ofExcept hR _
      | none =>
        refine Tx.Within.bind hR (steps_updateJob hP _ _ _ ?_) (fun resumed => ?_)
        · intro db j hc
          simp only [Bool.and_eq_true] at hc
          exact hP.resumed j now hc.1 hc.2
        · cases resumed with
          | none => exact Tx.Within.throw hR _
          | some resumed =>
            exact Tx.Within.bind hR (steps_laneWork hP (LaneWork.closed.releaseLaneProbe _ _ _ _ _))
              (fun _ => Tx.Within.ofExcept hR _)

theorem steps_resumeAll (now : Time) (ids : List String) (n : Nat) :
    Tx.Within (JobSteps P New) (resumeAll repo now ids n) := by
  have hR := JobSteps.chains hP
  induction ids generalizing n with
  | nil => exact Tx.Within.pure hR _
  | cons id rest ih => exact Tx.Within.bind hR (steps_resume hP repo _ _) (fun _ => ih _)

theorem steps_resumeWaitingAuth (accountId : String) (now : Time) :
    Tx.Within (JobSteps P New) (resumeWaitingAuthForAccount repo accountId now) := by
  have hR := JobSteps.chains hP
  refine Tx.Within.bind hR (Tx.Within.require hR _ _) (fun _ => ?_)
  refine Tx.Within.bind hR (Tx.Within.read hR _) (fun jobs => ?_)
  exact steps_resumeAll hP repo _ _ _

/-- Only a job that can still be cancelled goes with its subscription. -/
theorem steps_cancelUnstartedForRemoval (jobId : String) (now : Time) (lanes : List String) :
    Tx.Within (JobSteps P New) (cancelUnstartedForRemoval repo jobId now lanes) := by
  have hR := JobSteps.chains hP
  intro s
  apply Tx.Within.bind_at hR (within_getSyncJob hR _)
  intro observed t hjob
  obtain ⟨rfl, hget, hsync⟩ := getSyncJob_ok hjob
  refine Tx.Within.read_at (Tx.Within.require_at hR (fun _ => ?_))
  refine Tx.Within.require_at hR (fun hcancellable => ?_)
  have hterminal := isCancellable_active hcancellable
  refine Tx.Within.bind_at hR (steps_reconcileSucceeded hP repo _ _ _ _ hterminal) ?_
  intro succeeded u hrun
  cases succeeded with
  | some succeeded => exact Tx.Within.ofExcept hR _ u
  | none =>
    cases reconcileSucceeded_none repo hrun
    refine Tx.Within.bind_at hR (steps_reconcileConflict hP repo _ _ _ _ _ _) ?_
    intro conflict v hrun
    cases conflict with
    | some conflict => exact Tx.Within.ofExcept hR _ v
    | none =>
      rcases reconcileConflict_ok repo hrun with ⟨_, rfl⟩ | ⟨_, _, _, _, _, _, _, _, hr, _⟩
      · refine hR.trans _ _ _ (JobSteps.of_setJob hP v jobId (cancelledValues now) ?_) ?_
        · intro j hj
          rw [hget] at hj
          cases hj
          exact hP.cancelled observed now hterminal
        · refine Tx.Within.bind hR (within_getSyncJob hR _) (fun cancelled => ?_) _
          exact Tx.Within.bind hR (steps_laneWork hP (LaneWork.closed.releaseLaneProbe _ _ _ _ _))
            (fun _ => Tx.Within.ofExcept hR _)
      · cases hr

theorem steps_cancel (jobId : String) (now : Time) :
    Tx.Within (JobSteps P New) (cancel repo jobId now) := by
  have hR := JobSteps.chains hP
  refine Tx.Within.bind hR (Tx.Within.ofExcept hR _) (fun id => ?_)
  refine Tx.Within.bind hR (within_getSyncJob hR _) (fun observed => ?_)
  split
  · exact Tx.Within.ofExcept hR _
  · rename_i hactive
    have hterminal : observed.status.isTerminal = false := by simpa using hactive
    refine Tx.Within.bind hR (steps_reconcileSucceeded hP repo _ _ _ _ hterminal)
      (fun succeeded => ?_)
    cases succeeded with
    | some succeeded => exact Tx.Within.ofExcept hR _
    | none =>
      refine Tx.Within.bind hR (steps_reconcileConflict hP repo _ _ _ _ _ _) (fun conflict => ?_)
      cases conflict with
      | some conflict => exact Tx.Within.ofExcept hR _
      | none =>
        refine Tx.Within.bind hR (steps_updateJob hP _ _ _ ?_) (fun cancelled => ?_)
        · intro db j hc
          simp only [Bool.and_eq_true, Bool.not_eq_true'] at hc
          exact hP.cancelled j now hc.2
        · cases cancelled with
          | none =>
            exact Tx.Within.bind hR (within_getSyncJob hR _) (fun _ => Tx.Within.ofExcept hR _)
          | some cancelled =>
            refine Tx.Within.bind hR (steps_outside hP (outside_cancelAttachedRun _ _ _))
              (fun _ => ?_)
            refine Tx.Within.bind hR (steps_laneWork hP (LaneWork.closed.releaseLaneProbe _ _ _ _ _))
              (fun _ => ?_)
            refine Tx.Within.bind hR (steps_outside hP (outside_finalizeSubscription _ _ _ _ _))
              (fun _ => ?_)
            exact Tx.Within.ofExcept hR _

theorem steps_setSubscriptionSchedule (subscriptionId : String)
    (values : Subscription → Subscription) (now : Time) :
    Tx.Within (JobSteps P New) (setSubscriptionSchedule subscriptionId values now) := by
  have hR := JobSteps.chains hP
  refine Tx.Within.bind hR (Tx.Within.ofExcept hR _) (fun id => ?_)
  refine Tx.Within.bind hR (within_requireActive hR _) (fun _ => ?_)
  refine Tx.Within.bind hR (steps_outside hP (outside_updateSubscription _ _ _)) (fun _ => ?_)
  exact within_require? hR _ _

theorem steps_lockedSubscription (subscriptionId : String) :
    Tx.Within (JobSteps P New) (lockedSubscription subscriptionId) := by
  have hR := JobSteps.chains hP
  refine Tx.Within.bind hR (Tx.Within.require hR _ _) (fun _ => ?_)
  refine Tx.Within.bind hR (Tx.Within.read hR _) (fun subscription => ?_)
  cases subscription with
  | none => exact Tx.Within.throw hR _
  | some s => exact Tx.Within.pure hR _

theorem steps_rejectBusy (subscription : Subscription) :
    Tx.Within (JobSteps P New) (rejectBusy repo subscription) := by
  have hR := JobSteps.chains hP
  refine Tx.Within.bind hR (Tx.Within.read hR _) (fun jobs => ?_)
  refine Tx.Within.bind hR (Tx.Within.require hR _ _) (fun _ => ?_)
  refine Tx.Within.bind hR (Tx.Within.read hR _) (fun busy => ?_)
  exact Tx.Within.bind hR (Tx.Within.require hR _ _) (fun _ => Tx.Within.pure hR _)

theorem steps_cancelForRemoval (now : Time) (jobs : List Job) (n : Nat) :
    Tx.Within (JobSteps P New) (cancelForRemoval repo now jobs n) := by
  have hR := JobSteps.chains hP
  induction jobs generalizing n with
  | nil => exact Tx.Within.pure hR _
  | cons job rest ih =>
    unfold cancelForRemoval
    split
    · exact ih _
    · refine Tx.Within.bind hR (Tx.Within.read hR _) (fun lanes => ?_)
      exact Tx.Within.bind hR (steps_cancelUnstartedForRemoval hP repo _ _ _) (fun _ => ih _)

/-- A removal cancels the jobs that have not started and closes the subscription. -/
theorem steps_remove (subscriptionId : String) (now : Time) :
    Tx.Within (JobSteps P New) (remove repo subscriptionId now) := by
  have hR := JobSteps.chains hP
  refine Tx.Within.bind hR (steps_lockedSubscription hP _) (fun subscription => ?_)
  split
  · exact Tx.Within.pure hR _
  · refine Tx.Within.bind hR (steps_rejectBusy hP repo _) (fun jobs => ?_)
    refine Tx.Within.bind hR (steps_cancelForRemoval hP repo _ _ _) (fun cancelled => ?_)
    refine Tx.Within.bind hR (Tx.Within.read hR _) (fun coordinators => ?_)
    refine Tx.Within.bind hR (Tx.Within.modify (fun db => ?_)) (fun _ => ?_)
    · apply JobSteps.of_update hP
      intro j hj
      simp only [isPendingCoordinator, Bool.and_eq_true] at hj
      exact hP.cancelled j now (isCancellable_active hj.2)
    · exact Tx.Within.bind hR (steps_outside hP (outside_setSubscription _ _))
        (fun _ => Tx.Within.pure hR _)

theorem steps_restore (subscriptionId : String) (now : Time) :
    Tx.Within (JobSteps P New) (restore repo subscriptionId now) := by
  have hR := JobSteps.chains hP
  refine Tx.Within.bind hR (steps_lockedSubscription hP _) (fun subscription => ?_)
  split
  · exact Tx.Within.require hR _ _
  · exact Tx.Within.bind hR (steps_rejectBusy hP repo _)
      (fun _ => steps_outside hP (outside_setSubscription _ _))

end Operations

end MediaSync.Scheduler
