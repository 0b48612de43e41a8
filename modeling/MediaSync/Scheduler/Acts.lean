import Mathlib.Logic.Relation
import MediaSync.Scheduler.History

/-!
# What a transaction is made of

A transaction that commits is a sequence of acts: one write to a job row
together with the lane, run and subscription work that the source does for it,
under what the source has checked by then. `Act` lists them once. Every
operation but materialization, an immediate run request and the last write of a
claim is a chain of acts, so an invariant is proved act by act.

A part whose error is caught leaves its writes behind, so `lanes`, `conflict`
and `invalid` are acts however they end.
-/

namespace MediaSync.Scheduler

open Python Transaction SchedulerError SchedulerRepository Relation

/-- The stored row of a sync job. -/
structure SyncRow (s : Db) (j : Job) : Prop where
  row : s.jobs.get? j.id = some j
  isSync : j.isSync = true

/-- The job is attached to a succeeded run of its own subscription. -/
def attachedSucceeded (db : Db) (j : Job) : Bool :=
  (j.runId.bind db.runs.get?).any (fun r =>
    some r.subscriptionId = j.subscriptionId && r.status = .succeeded)

/-- The columns of a subscription that only a cycle's end and an immediate run request write. -/
structure SameSchedule (a b : Subscription) : Prop where
  nextRunAt : b.nextRunAt = a.nextRunAt
  lastRunAt : b.lastRunAt = a.lastRunAt
  lastSuccessAt : b.lastSuccessAt = a.lastSuccessAt
  consecutiveFailures : b.consecutiveFailures = a.consecutiveFailures

inductive Act (repo : SchedulerRepository) : Db → Db → Prop
  | lanes {s t : Db} {job : Job} {now : Time} {r : Except SchedulerError (List String)} :
      jobLanes repo.uuid job now s = (r, t) → Act repo s t
  | drew {s : Db} : Act repo s { s with drawn := s.drawn + 1 }
  | settled {s u v t : Db} {j : Job} {run : SyncRun} {now : Time}
      {lockedLanes : Option (List String)} :
      SyncRow s j → j.status.isTerminal = false → s.runs.get? run.id = some run →
      j.runId = some run.id → run.status = .succeeded →
      applyLaneSuccess repo.uuid (settledValues run.finishedAt now j) now lockedLanes
        (s.setJob j.id (settledValues run.finishedAt now)) = (.ok (), u) →
      finalizeSubscription repo (settledValues run.finishedAt now j) now .success true u =
        (.ok (), v) →
      enqueuePipelineForSucceededRun repo (settledValues run.finishedAt now j) now v =
        (.ok (), t) → Act repo s t
  | conflict {s u t : Db} {j : Job} {finishedAt : Option Time} {now : Time}
      {lockedLanes : Option (List String)} {r : Except SchedulerError Unit} :
      SyncRow s j → j.status.isTerminal = false → hasOwnershipConflictAttachment s j = true →
      applyLaneFailure repo.uuid (conflictValues finishedAt now j) now false lockedLanes
        (s.setJob j.id (conflictValues finishedAt now)) = (r, u) →
      (t = u ∨ ∃ r', finalizeConflict repo (conflictValues finishedAt now j) now u = (r', t)) →
      Act repo s t
  | expired {s u v t : Db} {j : Job} {now : Time} :
      SyncRow s j → j.isActiveWork = true → leaseExpired j now = true →
      attachedSucceeded s j = false →
      cancelAttachedRun (expiredValues now j) now "scheduler_lease_lost"
        (s.setJob j.id (expiredValues now)) = (.ok (), u) →
      applyLaneFailure repo.uuid (expiredValues now j) now true none u = (.ok (), v) →
      (if attemptsExhausted j then
          finalizeSubscription repo (expiredValues now j) now .failure true v = (.ok (), t)
        else t = v) → Act repo s t
  | requeued {s : Db} {p : Job → Bool} {now : Time} (keeps : ∀ j, (requeuedValues now j).id = j.id) :
      (∀ j, p j = true → j.isSync = true ∧ j.status.isRequeue = true) →
      Act repo s { s with jobs := s.jobs.update p (requeuedValues now) keeps }
  | invalid {s t : Db} {j : Job} {now : Time} {r : Except SchedulerError Unit} :
      SyncRow s j → j.status = .queued →
      finalizeSubscription repo (invalidValues now j) now .failure false
        (s.setJob j.id (invalidValues now)) = (r, t) → Act repo s t
  | started {s : Db} {j : Job} {now : Time} :
      SyncRow s j → j.status = .claimed → Act repo s (s.setJob j.id (startedValues now))
  | renewed {s : Db} {j : Job} {expiresAt now : Time} :
      SyncRow s j → j.status = .running → Act repo s (s.setJob j.id (renewedValues expiresAt now))
  | guarded {s : Db} {j : Job} : SyncRow s j → Act repo s (s.setJob j.id id)
  | attached {s : Db} {j : Job} {runId : String} {now : Time} :
      SyncRow s j → j.status = .running →
      (s.runs.get? runId).any (fun r => some r.subscriptionId = j.subscriptionId) = true →
      previousRunTerminal s j runId = true →
      Act repo s (s.setJob j.id (attachedValues runId now))
  | completed {s u v t : Db} {j : Job} {runId : Option String} {now : Time} :
      SyncRow s j → j.status = .running →
      applyLaneSuccess repo.uuid (completedValues runId now j) now none
        (s.setJob j.id (completedValues runId now)) = (.ok (), u) →
      finalizeSubscription repo (completedValues runId now j) now .success true u = (.ok (), v) →
      enqueuePipelineForSucceededRun repo (completedValues runId now j) now v = (.ok (), t) →
      Act repo s t
  | failed {s u t : Db} {j : Job} {retry affectsCircuit : Bool} {retryAt : Option Time}
      {code : String} {runId : Option String} {now : Time} :
      SyncRow s j → j.isActiveWork = true → attachedSucceeded s j = false →
      applyLaneFailure repo.uuid (failedValues retry retryAt code runId now j) now affectsCircuit
        none (s.setJob j.id (failedValues retry retryAt code runId now)) = (.ok (), u) →
      finalizeFailed repo (failedValues retry retryAt code runId now j) now u = (.ok (), t) →
      Act repo s t
  | waiting {s t : Db} {j : Job} {status : WaitingStatus} {affectsCircuit : Bool} {code : String}
      {runId : Option String} {now : Time} :
      SyncRow s j → j.isActiveWork = true → attachedSucceeded s j = false →
      applyLaneFailure repo.uuid (waitingValues status code runId now j) now affectsCircuit none
        (s.setJob j.id (waitingValues status code runId now)) = (.ok (), t) → Act repo s t
  | resumed {s t : Db} {j : Job} {now : Time} :
      SyncRow s j → j.status.isWaiting = true →
      releaseLaneProbe repo.uuid (resumedValues now j) now false none
        (s.setJob j.id (resumedValues now)) = (.ok (), t) → Act repo s t
  | cancelled {s u v t : Db} {j : Job} {now : Time} :
      SyncRow s j → j.status.isTerminal = false → attachedSucceeded s j = false →
      cancelAttachedRun (cancelledValues now j) now "scheduler_cancelled"
        (s.setJob j.id (cancelledValues now)) = (.ok (), u) →
      releaseLaneProbe repo.uuid (cancelledValues now j) now false none u = (.ok (), v) →
      finalizeSubscription repo (cancelledValues now j) now .cancelled false v = (.ok (), t) →
      Act repo s t
  | withdrawn {s t : Db} {j : Job} {now : Time} {lockedLanes : List String} :
      SyncRow s j → isCancellable j.status = true → attachedSucceeded s j = false →
      releaseLaneProbe repo.uuid (cancelledValues now j) now false (some lockedLanes)
        (s.setJob j.id (cancelledValues now)) = (.ok (), t) → Act repo s t
  | coordinators {s : Db} {subscriptionId : String} {now : Time}
      (keeps : ∀ j, (cancelledValues now j).id = j.id) :
      Act repo s { s with
        jobs := s.jobs.update (isPendingCoordinator s subscriptionId) (cancelledValues now) keeps }
  | subscription {s : Db} {id : String} {values : Subscription → Subscription} :
      (∀ x, (values x).scheduleRevision = x.scheduleRevision ∧ SameSchedule x (values x)) →
      Act repo s (s.setSubscription id values)
  | lanePolicy {s t : Db} {policy : LanePolicy} {expected : Option Int} {now : Time}
      {r : LaneSnapshot} :
      updateLane repo.uuid policy expected now s = (.ok r, t) → Act repo s t
  | laneReset {s t : Db} {policy : LanePolicy} {expected : Option Int} {now : Time}
      {r : SchedulerLane} :
      resetLane policy expected now s = (.ok r, t) → Act repo s t

/-- A sequence of acts. -/
abbrev Acts (repo : SchedulerRepository) : Db → Db → Prop := ReflTransGen (Act repo)

/-- What every act is within, every sequence of acts is within. -/
theorem Acts.within {repo : SchedulerRepository} {R : Db → Db → Prop} (hR : Tx.Chains R)
    (hact : ∀ s t, Act repo s t → R s t) {s t : Db} (h : Acts repo s t) : R s t := by
  induction h with
  | refl => exact hR.refl s
  | tail _ hstep ih => exact hR.trans _ _ _ ih (hact _ _ hstep)

theorem Acts.chains (repo : SchedulerRepository) : Tx.Chains (Acts repo) where
  refl _ := .refl
  trans _ _ _ h k := h.trans k

/-! ## What the shared parts did -/

theorem updateSubscription_ok {id : String} {conditions : Db → Subscription → Bool}
    {values : Subscription → Subscription} {s t : Db} {r : Option Subscription}
    (h : updateSubscription id conditions values s = (.ok r, t)) :
    (r = none ∧ t = s) ∨ ∃ x, s.subscriptions.get? id = some x ∧ conditions s x = true ∧
      r = some { values x with id := x.id } ∧ t = s.setSubscription id values := by
  unfold updateSubscription at h
  simp only [Tx.run_modifyGet] at h
  cases hget : s.subscriptions.get? id with
  | none =>
    rw [hget] at h
    cases h
    exact .inl ⟨rfl, rfl⟩
  | some x =>
    rw [hget] at h
    by_cases hc : conditions s x = true
    · simp only [hc, if_true, Prod.mk.injEq, Except.ok.injEq] at h
      obtain ⟨hr, rfl⟩ := h
      rw [Db.get?_setSubscription, if_pos rfl, hget] at hr
      exact .inr ⟨x, rfl, hc, hr.symm, rfl⟩
    · simp only [hc] at h
      cases h
      exact .inl ⟨rfl, rfl⟩

theorem SyncRow.of_get? {s : Db} {id : String} {j : Job} (h : s.jobs.get? id = some j)
    (hsync : j.isSync = true) : j.id = id ∧ SyncRow s j := by
  obtain rfl := Table.get?_key h
  exact ⟨rfl, h, hsync⟩

theorem attachedSucceeded_of_none {s : Db} {j : Job} (h : j.runId = none) :
    attachedSucceeded s j = false := by
  simp [attachedSucceeded, h]

theorem attachedSucceeded_of_run {s : Db} {j : Job} {runId : String} {run : SyncRun}
    (hid : j.runId = some runId) (hrun : s.runs.get? runId = some run)
    (hscope : some run.subscriptionId = j.subscriptionId) :
    attachedSucceeded s j = decide (run.status = .succeeded) := by
  simp [attachedSucceeded, hid, hrun, hscope]

section Reconciliations

variable (repo : SchedulerRepository)

theorem getSyncJob_ok {jobId : String} {s t : Db} {j : Job}
    (h : getSyncJob jobId s = (.ok j, t)) :
    t = s ∧ s.jobs.get? jobId = some j ∧ j.isSync = true := by
  unfold getSyncJob getJob at h
  rw [Tx.run_read_bind] at h
  cases hget : s.jobs.get? jobId with
  | none =>
    rw [hget] at h
    cases h
  | some j' =>
    rw [hget] at h
    obtain ⟨_, hreq, h⟩ := Tx.run_bind_read (Tx.Within.require Tx.ReadOnly.chains _ _) h
    cases h
    exact ⟨rfl, rfl, (Tx.run_require_ok hreq).1⟩

theorem throwLeaseFailure_not_ok {α : Type} {jobId workerId : String} {s t : Db} {a : α}
    (h : (throwLeaseFailure jobId workerId : Session α) s = (.ok a, t)) : False := by
  unfold throwLeaseFailure getJob at h
  rw [Tx.run_read_bind] at h
  cases hget : s.jobs.get? jobId with
  | none =>
    rw [hget] at h
    cases h
  | some current =>
    rw [hget] at h
    dsimp only at h
    split at h <;> cases h

/-- A row made to succeed with its attached run, and the work of its success. -/
structure SettledRow (lockedLanes : Option (List String)) (now : Time) (s t : Db) (j : Job)
    (run : SyncRun) : Prop where
  row : SyncRow s j
  found : s.runs.get? run.id = some run
  attached : j.runId = some run.id
  succeeded : run.status = .succeeded
  written : ∃ u v, applyLaneSuccess repo.uuid (settledValues run.finishedAt now j) now lockedLanes
      (s.setJob j.id (settledValues run.finishedAt now)) = (.ok (), u) ∧
    finalizeSubscription repo (settledValues run.finishedAt now j) now .success true u =
      (.ok (), v) ∧
    enqueuePipelineForSucceededRun repo (settledValues run.finishedAt now j) now v = (.ok (), t)

/-- What a success reconciliation did: nothing, as the row it was shown is not on a succeeded
run, or it settled the row. -/
theorem reconcileSucceeded_ok {job : Job} {now : Time} {expiredOnly : Bool}
    {lockedLanes : Option (List String)} {s t : Db} {r : Option Job}
    (h : reconcileSucceededAttachment repo job now expiredOnly lockedLanes s = (.ok r, t)) :
    (r = none ∧ t = s ∧ (SyncRow s job → (expiredOnly = true → leaseExpired job now = true) →
        attachedSucceeded s job = false)) ∨
      ∃ j run, j.id = job.id ∧ j.status = job.status ∧
        some run.subscriptionId = job.subscriptionId ∧
        r = some (settledValues run.finishedAt now j) ∧
        SettledRow repo lockedLanes now s t j run := by
  unfold reconcileSucceededAttachment at h
  cases hid : job.runId with
  | none =>
    rw [hid] at h
    cases h
    exact .inl ⟨rfl, rfl, fun _ _ => attachedSucceeded_of_none hid⟩
  | some runId =>
    rw [hid] at h
    dsimp only at h
    unfold getRun at h
    rw [Tx.run_read_bind] at h
    cases hrun : s.runs.get? runId with
    | none =>
      rw [hrun] at h
      cases h
    | some run =>
      rw [hrun] at h
      obtain rfl : run.id = runId := Table.get?_key hrun
      obtain ⟨hscope, h⟩ := Tx.run_bind_require h
      have hattached := attachedSucceeded_of_run hid hrun (of_decide_eq_true hscope)
      split at h
      · rename_i hstatus
        cases h
        exact .inl ⟨rfl, rfl, fun _ _ => by simp [hattached, hstatus]⟩
      · rename_i hstatus
        obtain ⟨reconciled, u, hupdate, h⟩ := Tx.run_bind_ok h
        cases reconciled with
        | none =>
          cases h
          cases updateJob_none hupdate
          refine .inl ⟨rfl, rfl, fun hrow hexpired => ?_⟩
          -- The row is as it was observed, so the update cannot have failed.
          unfold updateJob at hupdate
          simp only [Tx.run_modifyGet, hrow.row, hrow.isSync, hid, decide_true, Bool.and_self,
            Bool.true_and] at hupdate
          rw [if_pos] at hupdate
          · rw [Db.get?_setJob, if_pos rfl, hrow.row] at hupdate
            cases hupdate
          · cases expiredOnly with
            | false => rfl
            | true => simpa using hexpired rfl
        | some reconciled =>
          obtain ⟨j, hget, hc, rfl, rfl⟩ := updateJob_some hupdate
          obtain ⟨_, u, hlanes, h⟩ := Tx.run_bind_ok h
          obtain ⟨_, v, hfinal, h⟩ := Tx.run_bind_ok h
          obtain ⟨_, x, hpipeline, h⟩ := Tx.run_bind_ok h
          cases h
          simp only [Bool.and_eq_true, decide_eq_true_eq] at hc
          obtain ⟨hkey, hrow⟩ := SyncRow.of_get? hget hc.1.1.1
          rw [← hkey] at hlanes
          exact .inr ⟨j, run, hkey, hc.1.1.2, of_decide_eq_true hscope, rfl, hrow, hrun, hc.1.2,
            not_not.1 hstatus, u, v, hlanes, hfinal, hpipeline⟩

/-- A reconciliation that finds nothing to settle writes nothing. -/
theorem reconcileSucceeded_none {job : Job} {now : Time} {expiredOnly : Bool}
    {lockedLanes : Option (List String)} {s t : Db}
    (h : reconcileSucceededAttachment repo job now expiredOnly lockedLanes s = (.ok none, t)) :
    t = s := by
  rcases reconcileSucceeded_ok repo h with ⟨_, rfl, _⟩ | ⟨_, _, _, _, _, hr, _⟩
  · rfl
  · cases hr

/-- What a conflict reconciliation did: nothing, or the guarded update of the row. -/
theorem reconcileConflict_ok {job : Job} {now : Time} {expiredOnly : Bool}
    {ownedBy : Option (String × String)} {allowed : JobStatus → Bool}
    {lockedLanes : Option (List String)} {s t : Db} {r : Option Job}
    (h : reconcileOwnershipConflictAttachment repo job now expiredOnly ownedBy allowed
      lockedLanes s = (.ok r, t)) :
    (r = none ∧ t = s) ∨
      ∃ j finishedAt, s.jobs.get? job.id = some j ∧ j.isSync = true ∧
        j.status = job.status ∧ job.status.isTerminal = false ∧
        (expiredOnly = true → j.isActiveWork = true ∧ leaseExpired j now = true) ∧
        (∀ o ∈ ownedBy, ownsLease s j o.1 o.2 allowed now = true) ∧
        r = some (conflictValues finishedAt now j) ∧
        ∃ u, applyLaneFailure repo.uuid { conflictValues finishedAt now j with id := j.id } now
            false lockedLanes (s.setJob job.id (conflictValues finishedAt now)) = (.ok (), u) ∧
          Outside u t := by
  unfold reconcileOwnershipConflictAttachment at h
  cases hid : job.runId with
  | none =>
    rw [hid] at h
    cases h
    exact Or.inl ⟨rfl, rfl⟩
  | some runId =>
    rw [hid] at h
    dsimp only at h
    split at h
    · cases h
      exact Or.inl ⟨rfl, rfl⟩
    · rename_i hactive
      unfold getRun at h
      rw [Tx.run_read_bind] at h
      cases hrun : s.runs.get? runId with
      | none =>
        rw [hrun] at h
        cases h
      | some run =>
        rw [hrun] at h
        obtain ⟨_, _, h⟩ := Tx.run_bind_read (Tx.Within.require Tx.ReadOnly.chains _ _) h
        split at h
        · cases h
          exact Or.inl ⟨rfl, rfl⟩
        · obtain ⟨reconciled, u, hupdate, h⟩ := Tx.run_bind_ok h
          cases reconciled with
          | none =>
            cases ownedBy with
            | none => cases h
            | some owner => exact (throwLeaseFailure_not_ok h).elim
          | some reconciled =>
            obtain ⟨j, hget, hc, rfl, rfl⟩ := updateJob_some hupdate
            obtain ⟨_, v, hlanes, h⟩ := Tx.run_bind_ok h
            obtain ⟨_, w, hfinal, h⟩ := Tx.run_bind_ok h
            cases h
            simp only [Bool.and_eq_true, decide_eq_true_eq, Bool.or_eq_true, Bool.not_eq_true',
              Option.all_eq_true] at hc
            refine Or.inr ⟨j, run.finishedAt, hget, ?_, ?_, ?_, ?_, ?_, rfl, v, ?_, ?_⟩
            · exact hc.1.1.1.1.1.1.1.1
            · exact hc.1.1.1.1.1.1.2
            · simpa using hactive
            · intro he
              rcases hc.1.2 with hf | hw
              · rw [he] at hf
                cases hf
              · exact hw
            · exact hc.2
            · exact hlanes
            · exact (outside_finalizeConflict repo _ _).ends hfinal

theorem readOnly_validatedResultRunId (job : Job) (runId : Option String) (explicit : Bool) :
    Tx.ReadOnly (validatedResultRunId job runId explicit) := by
  have hR := Tx.ReadOnly.chains (σ := Db)
  unfold validatedResultRunId
  cases runId with
  | none => exact Tx.Within.pure hR _
  | some runId =>
    refine Tx.Within.bind hR (Tx.Within.require hR _ _) (fun _ => ?_)
    refine Tx.Within.bind hR (Tx.Within.read hR _) (fun run => ?_)
    cases run with
    | none => exact Tx.Within.throw hR _
    | some run =>
      refine Tx.Within.bind hR (Tx.Within.require hR _ _) (fun _ => ?_)
      refine Tx.Within.bind hR (Tx.Within.require hR _ _) (fun _ => ?_)
      exact Tx.Within.pure hR _

theorem readOnly_rejectFailure (job : Job) (runId : Option String) :
    Tx.ReadOnly (rejectFailureForSucceededRun job runId) :=
  Tx.Within.bind Tx.ReadOnly.chains (Tx.Within.read Tx.ReadOnly.chains _)
    (fun _ => Tx.Within.require Tx.ReadOnly.chains _ _)

theorem isCancellable_active {status : JobStatus} (h : isCancellable status = true) :
    status.isTerminal = false := by
  simp only [isCancellable, JobStatus.isActive, Bool.and_eq_true, Bool.not_eq_true'] at h
  exact h.1

theorem reconcileConflict_none {job : Job} {now : Time} {expiredOnly : Bool}
    {ownedBy : Option (String × String)} {allowed : JobStatus → Bool}
    {lockedLanes : Option (List String)} {s t : Db}
    (h : reconcileOwnershipConflictAttachment repo job now expiredOnly ownedBy allowed
      lockedLanes s = (.ok none, t)) : t = s := by
  rcases reconcileConflict_ok repo h with ⟨_, rfl⟩ | ⟨_, _, _, _, _, _, _, _, hr, _⟩
  · rfl
  · cases hr

end Reconciliations

section Parts

variable {repo : SchedulerRepository}

/-- A success reconciliation settles the row, or finds no succeeded attachment. -/
theorem reconcileSucceeded_run {job : Job} {now : Time} {expiredOnly : Bool}
    {lockedLanes : Option (List String)} {s t : Db} {r : Option Job}
    (hactive : job.status.isTerminal = false)
    (h : reconcileSucceededAttachment repo job now expiredOnly lockedLanes s = (.ok r, t)) :
    Acts repo s t ∧ (r = none → t = s ∧ (SyncRow s job →
      (expiredOnly = true → leaseExpired job now = true) → attachedSucceeded s job = false)) := by
  rcases reconcileSucceeded_ok repo h with ⟨_, rfl, hnone⟩ | ⟨j, run, _, hstatus, _, rfl, hsettled⟩
  · exact ⟨.refl, fun _ => ⟨rfl, hnone⟩⟩
  · obtain ⟨u, v, hlanes, hfinal, hpipeline⟩ := hsettled.written
    exact ⟨.single (.settled hsettled.row (hstatus ▸ hactive) hsettled.found hsettled.attached
      hsettled.succeeded hlanes hfinal hpipeline), nofun⟩

theorem acts_lanes (job : Job) (now : Time) :
    Tx.Within (Acts repo) (jobLanes repo.uuid job now) :=
  fun s => .single (.lanes (rfl : jobLanes repo.uuid job now s = _))

theorem acts_throwLeaseFailure {α : Type} (jobId workerId : String) :
    Tx.Within (Acts repo) (throwLeaseFailure jobId workerId : Session α) := by
  have hR := Acts.chains repo
  refine Tx.Within.bind hR (Tx.Within.read hR _) (fun current => ?_)
  cases current with
  | none => exact Tx.Within.throw hR _
  | some current =>
    dsimp only
    split
    · exact Tx.Within.throw hR _
    · exact Tx.Within.throw hR _

theorem acts_reconcileConflict (job : Job) (now : Time) (expiredOnly : Bool)
    (ownedBy : Option (String × String)) (allowed : JobStatus → Bool)
    (lockedLanes : Option (List String)) :
    Tx.Within (Acts repo)
      (reconcileOwnershipConflictAttachment repo job now expiredOnly ownedBy allowed
        lockedLanes) := by
  have hR := Acts.chains repo
  unfold reconcileOwnershipConflictAttachment
  split
  · exact Tx.Within.pure hR _
  · split
    · exact Tx.Within.pure hR _
    · rename_i hactive
      refine Tx.Within.bind hR (Tx.Within.read hR _) (fun run => ?_)
      cases run with
      | none => exact Tx.Within.throw hR _
      | some run =>
        refine Tx.Within.bind hR (Tx.Within.require hR _ _) (fun _ => ?_)
        split
        · exact Tx.Within.pure hR _
        · intro s
          rw [Tx.run_bind]
          generalize hupdate : updateJob job.id _ _ s = updated
          obtain ⟨reconciled, u⟩ := updated
          cases reconciled with
          | error e =>
            unfold updateJob at hupdate
            cases hupdate
          | ok reconciled =>
            cases reconciled with
            | none =>
              cases updateJob_none hupdate
              cases ownedBy with
              | none => exact Tx.Within.throw hR _ _
              | some owner => exact acts_throwLeaseFailure _ _ _
            | some reconciled =>
              obtain ⟨j, hget, hc, rfl, rfl⟩ := updateJob_some hupdate
              simp only [Bool.and_eq_true, decide_eq_true_eq] at hc
              obtain ⟨hkey, hrow⟩ := SyncRow.of_get? hget hc.1.1.1.1.1.1.1.1
              have hterminal : j.status.isTerminal = false := by
                rw [hc.1.1.1.1.1.1.2]
                simpa using hactive
              have hconflict := hc.1.1.2
              dsimp only
              rw [← hkey, Tx.run_bind]
              split
              · rename_i hlanes
                rw [Tx.run_bind]
                split
                · rename_i hfinal
                  exact .single (.conflict hrow hterminal hconflict hlanes (.inr ⟨_, hfinal⟩))
                · rename_i hfinal
                  exact .single (.conflict hrow hterminal hconflict hlanes (.inr ⟨_, hfinal⟩))
              · rename_i hlanes
                exact .single (.conflict hrow hterminal hconflict hlanes (.inl rfl))

end Parts

end MediaSync.Scheduler
