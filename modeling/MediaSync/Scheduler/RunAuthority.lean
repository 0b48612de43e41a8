import MediaSync.Scheduler.Coordinators

/-!
# The authority of a succeeded run

The run of a sync job ends in another transaction than the job. Between the two
the job is held: nothing but its own success may end it by a failure, a wait, a
cancellation, a removal or an expired lease. The first two are refused; the
others settle the job and emit its coordinator.
-/

namespace MediaSync.Scheduler

open Python Transaction Transition SchedulerError SchedulerRepository Relation

/-- An active sync job on a succeeded run of its own subscription. -/
structure Held (s : Db) (j : Job) : Prop where
  row : SyncRow s j
  active : j.status.isTerminal = false
  succeeded : attachedSucceeded s j = true

/-- The sync job has succeeded and has a coordinator. -/
structure Settled (s : Db) (id : String) : Prop where
  row : ∃ k, SyncRow s k ∧ k.id = id ∧ k.status = .succeeded
  coordinator : ∃ p, Coordinator s id p

theorem Settled.kept {s t : Db} {id : String} (h : Settled s id) (hkeys : KeysKept s t) :
    Settled t id where
  row := by
    obtain ⟨k, hk, hid, hstatus⟩ := h.row
    obtain ⟨l, hl, hkl⟩ := hkeys.kept k hk.row
    refine ⟨l, ⟨hl, hkl.isSync.trans hk.isSync⟩, hkl.id.trans hid, ?_⟩
    rw [hkl.final hk.isSync (by rw [hstatus]; rfl), hstatus]
  coordinator := by
    obtain ⟨p, hp⟩ := h.coordinator
    obtain ⟨q, hq, _⟩ := hp.kept hkeys
    exact ⟨q, hq⟩

/-- A run that has ended stays as it is. -/
def EndedRunsKept (s t : Db) : Prop :=
  ∀ id r, s.runs.get? id = some r → r.status.isTerminal = true → t.runs.get? id = some r

theorem EndedRunsKept.chains : Tx.Chains EndedRunsKept where
  refl _ _ _ h _ := h
  trans _ _ _ h k id r hr hended := k id r (h id r hr hended) hended

theorem EndedRunsKept.of_eq {s t : Db} (h : t.runs = s.runs) : EndedRunsKept s t :=
  fun _ _ hr _ => by rw [h]; exact hr

/-- The run behind an attachment that counts. -/
theorem attachedSucceeded_run {s : Db} {j : Job} (h : attachedSucceeded s j = true) :
    ∃ run, j.runId = some run.id ∧ s.runs.get? run.id = some run ∧
      some run.subscriptionId = j.subscriptionId ∧ run.status = .succeeded := by
  unfold attachedSucceeded at h
  cases hid : j.runId with
  | none =>
    rw [hid] at h
    cases h
  | some runId =>
    rw [hid, Option.bind_some] at h
    cases hrun : s.runs.get? runId with
    | none =>
      rw [hrun] at h
      cases h
    | some run =>
      rw [hrun] at h
      obtain rfl : run.id = runId := Table.get?_key hrun
      simp only [Option.any_some, Bool.and_eq_true, decide_eq_true_eq] at h
      exact ⟨run, rfl, hrun, h.1, h.2⟩

theorem Held.kept {s t : Db} {j : Job} (h : Held s j) (hrow : SyncRow t j)
    (hruns : EndedRunsKept s t) : Held t j where
  row := hrow
  active := h.active
  succeeded := by
    obtain ⟨run, hid, hrun, hscope, hstatus⟩ := attachedSucceeded_run h.succeeded
    have hrun' := hruns run.id run hrun (by rw [hstatus]; rfl)
    rw [attachedSucceeded_of_run hid hrun' hscope, hstatus]
    rfl

theorem transitions_ended {status : RunStatus} (h : status.isTerminal = true) :
    status.transitions = [] := by
  cases status <;> first | rfl | cases h

/-- Only a run that has not ended is moved. -/
theorem endedRuns_setRunStatus (runId : String) (status expected : RunStatus)
    (errorCode : Option String) (now : Time) :
    Tx.Within EndedRunsKept (setRunStatus runId status expected errorCode now) := by
  have hR := EndedRunsKept.chains
  intro s
  refine Tx.Within.require_at hR fun hmove => ?_
  refine Tx.Within.read_at (Tx.Within.require_at hR fun hexpected => ?_)
  intro id r hr hended
  show (s.setRun runId _).runs.get? id = some r
  rw [Db.get?_setRun]
  split
  · rename_i hid
    rw [← hid, hr] at hexpected
    simp only [Option.any_some, decide_eq_true_eq] at hexpected
    rw [← hexpected, transitions_ended hended] at hmove
    simp at hmove
  · exact hr

theorem endedRuns_cancelAttachedRun (job : Job) (now : Time) (errorCode : String) :
    Tx.Within EndedRunsKept (cancelAttachedRun job now errorCode) := by
  have hR := EndedRunsKept.chains
  unfold cancelAttachedRun
  cases job.runId with
  | none => exact Tx.Within.pure hR _
  | some runId =>
    refine Tx.Within.bind hR (Tx.Within.read hR _) (fun run => ?_)
    cases run with
    | none => exact Tx.Within.throw hR _
    | some run =>
      refine Tx.Within.bind hR (Tx.Within.require hR _ _) (fun _ => ?_)
      split
      · exact Tx.Within.pure hR _
      · exact endedRuns_setRunStatus _ _ _ _ _

section Repository

variable {repo : SchedulerRepository}

theorem endedRuns_finalize (job : Job) (now : Time) (outcome : Outcome) (requirePayload : Bool) :
    Tx.Within EndedRunsKept (finalizeSubscription repo job now outcome requirePayload) :=
  within_finalizeSubscription repo EndedRunsKept.chains (fun _ _ _ => .of_eq rfl) _ _ _ _

theorem LaneWork.endedRuns {s t : Db} (h : LaneWork s t) : EndedRunsKept s t := .of_eq h.runs

theorem PipelineWork.endedRuns {s t : Db} (h : PipelineWork s t) : EndedRunsKept s t :=
  .of_eq h.runs

theorem Act.endedRuns {s t : Db} (h : Act repo s t) : EndedRunsKept s t := by
  have hR := EndedRunsKept.chains
  have hset {s t : Db} {id : String} {values : Job → Job}
      (h : EndedRunsKept (s.setJob id values) t) : EndedRunsKept s t := h
  cases h with
  | lanes hrun => exact ((LaneWork.closed.jobLanes _ _ _).ends hrun).endedRuns
  | drew => exact .of_eq rfl
  | settled _ _ _ _ _ hlanes hfinal hpipeline =>
    have hwork := hR.trans _ _ _
      ((LaneWork.closed.applyLaneSuccess _ _ _ _).ends hlanes).endedRuns
      ((endedRuns_finalize _ _ _ _).ends hfinal)
    exact hset (hR.trans _ _ _ hwork ((pipelineWork_enqueuePipeline _ _ _).ends hpipeline).endedRuns)
  | conflict _ _ _ hlanes hends =>
    have hwork := hset ((LaneWork.closed.applyLaneFailure _ _ _ _ _).ends hlanes).endedRuns
    rcases hends with rfl | ⟨r, hfinal⟩
    · exact hwork
    · exact hR.trans _ _ _ hwork ((within_finalizeConflict repo hR
        (fun _ _ _ => .of_eq rfl) _ _).ends hfinal)
  | expired _ _ _ _ hrun hlanes hfinal =>
    have hwork := hset (hR.trans _ _ _ ((endedRuns_cancelAttachedRun _ _ _).ends hrun)
      ((LaneWork.closed.applyLaneFailure _ _ _ _ _).ends hlanes).endedRuns)
    split at hfinal
    · exact hR.trans _ _ _ hwork ((endedRuns_finalize _ _ _ _).ends hfinal)
    · rw [hfinal]
      exact hwork
  | requeued _ _ => exact .of_eq rfl
  | invalid _ _ hfinal => exact hset ((endedRuns_finalize _ _ _ _).ends hfinal)
  | started _ _ => exact .of_eq rfl
  | renewed _ _ => exact .of_eq rfl
  | guarded _ => exact .of_eq rfl
  | attached _ _ _ _ => exact .of_eq rfl
  | completed _ _ hlanes hfinal hpipeline =>
    have hwork := hR.trans _ _ _
      ((LaneWork.closed.applyLaneSuccess _ _ _ _).ends hlanes).endedRuns
      ((endedRuns_finalize _ _ _ _).ends hfinal)
    exact hset (hR.trans _ _ _ hwork ((pipelineWork_enqueuePipeline _ _ _).ends hpipeline).endedRuns)
  | failed _ _ _ hlanes hfinal =>
    exact hset (hR.trans _ _ _
      ((LaneWork.closed.applyLaneFailure _ _ _ _ _).ends hlanes).endedRuns
      ((within_finalizeFailed repo hR (fun _ _ _ => .of_eq rfl) _ _).ends hfinal))
  | waiting _ _ _ hlanes =>
    exact hset ((LaneWork.closed.applyLaneFailure _ _ _ _ _).ends hlanes).endedRuns
  | resumed _ _ hlanes =>
    exact hset ((LaneWork.closed.releaseLaneProbe _ _ _ _ _).ends hlanes).endedRuns
  | cancelled _ _ _ hrun hlanes hfinal =>
    have hwork := hset (hR.trans _ _ _ ((endedRuns_cancelAttachedRun _ _ _).ends hrun)
      ((LaneWork.closed.releaseLaneProbe _ _ _ _ _).ends hlanes).endedRuns)
    exact hR.trans _ _ _ hwork ((endedRuns_finalize _ _ _ _).ends hfinal)
  | withdrawn _ _ _ hlanes =>
    exact hset ((LaneWork.closed.releaseLaneProbe _ _ _ _ _).ends hlanes).endedRuns
  | coordinators _ => exact .of_eq rfl
  | subscription _ => exact .of_eq rfl
  | lanePolicy hrun => exact ((LaneWork.closed.updateLane _ _ _ _).ends hrun).endedRuns
  | laneReset hrun => exact ((LaneWork.closed.resetLane _ _ _).ends hrun).endedRuns

theorem Acts.endedRuns {s t : Db} (h : Acts repo s t) : EndedRunsKept s t :=
  h.within EndedRunsKept.chains (fun _ _ => Act.endedRuns)

/-! ## The operations on a held job -/

theorem reconcileSucceeded_held {job : Job} {now : Time} {expiredOnly : Bool}
    {lockedLanes : Option (List String)} {s t : Db} {r : Option Job} (hheld : Held s job)
    (hexpired : expiredOnly = true → leaseExpired job now = true)
    (h : reconcileSucceededAttachment repo job now expiredOnly lockedLanes s = (.ok r, t)) :
    r.isSome = true ∧ Settled t job.id := by
  rcases reconcileSucceeded_ok repo h with ⟨_, _, hnot⟩ | ⟨j, run, hid, _, hscope, rfl, hsettled⟩
  · have hsucceeded := hheld.succeeded
    rw [hnot hheld.row hexpired] at hsucceeded
    cases hsucceeded
  · obtain rfl := hsettled.row.unique hheld.row hid
    obtain ⟨u, v, hlanes, hfinal, hpipeline⟩ := hsettled.written
    have hwork := (LaneWork.closed.applyLaneSuccess _ _ _ _).ends hlanes
    have hclosed := (outside_finalizeSubscription repo _ _ _ _).ends hfinal
    have hrow : SyncRow v (settledValues run.finishedAt now j) := by
      refine ⟨?_, hsettled.row.isSync⟩
      rw [hclosed.jobs, hwork.jobs]
      show (s.setJob j.id _).jobs.get? j.id = _
      rw [Db.get?_setJob, if_pos rfl, hsettled.row.row]
      rfl
    have hrun : v.runs.get? run.id = some run := by
      have hended : run.status.isTerminal = true := by
        rw [hsettled.succeeded]
        rfl
      refine (endedRuns_finalize _ _ _ _).ends hfinal _ _ ?_ hended
      rw [hwork.runs]
      exact hsettled.found
    have hpipelineRows := (pipelineWork_enqueuePipeline _ _ _).ends hpipeline
    exact ⟨rfl, ⟨_, ⟨(hpipelineRows.syncJobs _ _ hrow.isSync).2 hrow.row, hrow.isSync⟩, rfl, rfl⟩,
      enqueuePipeline_coordinator hsettled.attached hrun hscope hsettled.succeeded hpipeline⟩

/-- A succeeded run is no ownership conflict. -/
theorem reconcileConflict_held {job : Job} {now : Time} {expiredOnly : Bool}
    {ownedBy : Option (String × String)} {allowed : JobStatus → Bool}
    {lockedLanes : Option (List String)} {s t : Db} {r : Option Job} (hheld : Held s job)
    (h : reconcileOwnershipConflictAttachment repo job now expiredOnly ownedBy allowed
      lockedLanes s = (.ok r, t)) : r = none ∧ t = s := by
  obtain ⟨run, hid, hrun, _, hstatus⟩ := attachedSucceeded_run hheld.succeeded
  unfold reconcileOwnershipConflictAttachment getRun at h
  rw [hid] at h
  dsimp only at h
  rw [if_neg (by simp [hheld.active]), Tx.run_read_bind, hrun] at h
  obtain ⟨_, h⟩ := Tx.run_bind_require h
  rw [if_pos (.inl (by simp [hstatus]))] at h
  cases h
  exact ⟨rfl, rfl⟩

theorem reclaimOne_held {now : Time} {j : Job} {s t : Db} {r : Unit} (hheld : Held s j)
    (hexpired : leaseExpired j now = true) (h : reclaimOne repo now j s = (.ok r, t)) :
    Settled t j.id := by
  obtain ⟨succeeded, u, hsucceeded, h⟩ := Tx.run_bind_ok h
  obtain ⟨hsome, hsettled⟩ := reconcileSucceeded_held hheld (fun _ => hexpired) hsucceeded
  rw [if_pos hsome] at h
  cases h
  exact hsettled

theorem reclaimAll_held {now : Time} {jobs : List Job} {j : Job} {s t : Db} {r : Unit}
    (hjobs : ∀ j ∈ jobs, SyncRow s j ∧ j.isActiveWork = true ∧ leaseExpired j now = true)
    (hdistinct : (jobs.map Job.id).Nodup) (hheld : Held s j) (hj : j ∈ jobs)
    (hrun : Tx.forEach (reclaimOne repo now) jobs s = (.ok r, t)) : Settled t j.id := by
  induction jobs generalizing s with
  | nil => cases hj
  | cons job rest ih =>
    obtain ⟨_, u, hjob, hrest⟩ := Tx.run_bind_ok hrun
    obtain ⟨hrow, hactive, hexpired⟩ := hjobs job List.mem_cons_self
    rw [List.map_cons, List.nodup_cons] at hdistinct
    have hothers : ∀ k ∈ rest, SyncRow u k ∧ k.isActiveWork = true ∧ leaseExpired k now = true := by
      intro k hk
      obtain ⟨hrow', hwork⟩ := hjobs k (List.mem_cons_of_mem job hk)
      have hne : k.id ≠ job.id := fun heq => hdistinct.1 (heq ▸ List.mem_map_of_mem hk)
      exact ⟨(othersKept_reclaimOne repo now job).ends hjob k hne hrow', hwork⟩
    rcases List.mem_cons.mp hj with rfl | hj
    · exact (reclaimOne_held hheld hexpired hjob).kept
        (reclaimAll_acts hothers hdistinct.2 hrest).keys
    · exact ih hothers hdistinct.2
        (hheld.kept (hothers j hj).1 (reclaimOne_acts hrow hactive hexpired hjob).endedRuns) hj hrest

theorem claimEligible_held {args : ClaimArguments} {exact : Option (String × String)} {j : Job}
    {s t : Db} {r : Option SchedulerClaim} (hheld : Held s j)
    (hj : j ∈ expiredJobs s args.now (exact.map Prod.fst))
    (h : claimEligible repo args exact s = (.ok r, t)) : Settled t j.id := by
  obtain ⟨u, hreclaim, hacts⟩ := claimEligible_reclaims h
  unfold reclaimExpiredSync at hreclaim
  rw [Tx.run_read_bind] at hreclaim
  exact (reclaimAll_held (fun k hk => mem_expiredJobs hk) (rows_nodup s) hheld hj hreclaim).kept
    hacts.keys

theorem claimExact_held {jobId subscriptionId id : String} {args : ClaimArguments} {j : Job}
    {s t : Db} {r : Option SchedulerClaim} (hheld : Held s j)
    (hid : requiredText jobId "job_id" 36 = .ok id) (hj : j ∈ expiredJobs s args.now (some id))
    (h : claimExact repo jobId subscriptionId args s = (.ok r, t)) : Settled t j.id := by
  obtain ⟨id', hid', h⟩ := Tx.run_bind_ofExcept h
  rw [hid] at hid'
  cases hid'
  obtain ⟨sub, _, hrun⟩ := Tx.run_bind_ofExcept h
  refine claimEligible_held hheld ?_ hrun
  exact hj

theorem cancel_held {jobId : String} {now : Time} {j : Job} {s t : Db} {r : SchedulerJobSummary}
    (hheld : Held s j) (hid : requiredText jobId "job_id" 36 = .ok j.id)
    (h : cancel repo jobId now s = (.ok r, t)) : Settled t j.id := by
  obtain ⟨id, hid', h⟩ := Tx.run_bind_ofExcept h
  rw [hid] at hid'
  cases hid'
  obtain ⟨observed, hobserved, h⟩ := Tx.run_bind_read (within_getSyncJob Tx.ReadOnly.chains _) h
  obtain ⟨_, hkey, hrow⟩ := getSyncJob_row hobserved
  obtain rfl := hrow.unique hheld.row hkey
  rw [if_neg (by simp [hheld.active])] at h
  obtain ⟨succeeded, u, hsucceeded, h⟩ := Tx.run_bind_ok h
  obtain ⟨hsome, hsettled⟩ := reconcileSucceeded_held hheld (by simp) hsucceeded
  cases succeeded with
  | none => cases hsome
  | some succeeded =>
    rw [(Tx.run_ofExcept_ok h).2]
    exact hsettled

theorem cancelUnstarted_held {j : Job} {now : Time} {lockedLanes : List String} {s t : Db}
    {r : SchedulerJobSummary} (hheld : Held s j)
    (h : cancelUnstartedForRemoval repo j.id now lockedLanes s = (.ok r, t)) : Settled t j.id := by
  obtain ⟨observed, hobserved, h⟩ := Tx.run_bind_read (within_getSyncJob Tx.ReadOnly.chains _) h
  obtain ⟨_, hkey, hrow⟩ := getSyncJob_row hobserved
  obtain rfl := hrow.unique hheld.row hkey
  rw [Tx.run_read_bind] at h
  obtain ⟨_, h⟩ := Tx.run_bind_require h
  obtain ⟨_, h⟩ := Tx.run_bind_require h
  obtain ⟨succeeded, u, hsucceeded, h⟩ := Tx.run_bind_ok h
  obtain ⟨hsome, hsettled⟩ := reconcileSucceeded_held hheld (by simp) hsucceeded
  cases succeeded with
  | none => cases hsome
  | some succeeded =>
    rw [(Tx.run_ofExcept_ok h).2]
    exact hsettled

theorem othersKept_cancelUnstarted (jobId : String) (now : Time) (lockedLanes : List String)
    {s t : Db} {r : SchedulerJobSummary}
    (h : cancelUnstartedForRemoval repo jobId now lockedLanes s = (.ok r, t)) :
    OthersKept jobId s t := by
  have hR := OthersKept.chains jobId
  obtain ⟨observed, hobserved, h⟩ := Tx.run_bind_read (within_getSyncJob Tx.ReadOnly.chains _) h
  obtain ⟨_, rfl, hrow⟩ := getSyncJob_row hobserved
  refine Tx.Within.ends (R := OthersKept observed.id) ?_ h
  refine Tx.Within.bind hR (Tx.Within.read hR _) (fun foreign => ?_)
  refine Tx.Within.bind hR (Tx.Within.require hR _ _) (fun _ => ?_)
  refine Tx.Within.bind hR (Tx.Within.require hR _ _) (fun _ => ?_)
  refine Tx.Within.bind hR (othersKept_reconcileSucceeded repo _ _ _ _) (fun succeeded => ?_)
  cases succeeded with
  | some succeeded => exact Tx.Within.ofExcept hR _
  | none =>
    refine Tx.Within.bind hR (othersKept_reconcileConflict repo _ _ _ _ _ _) (fun conflict => ?_)
    cases conflict with
    | some conflict => exact Tx.Within.ofExcept hR _
    | none =>
      refine Tx.Within.bind hR (Tx.Within.modify fun db k hk hrow => ?_) (fun _ => ?_)
      · exact ⟨by rw [Db.get?_setJob, if_neg hk]; exact hrow.row, hrow.isSync⟩
      · refine Tx.Within.bind hR (within_getSyncJob hR _) (fun cancelled => ?_)
        exact Tx.Within.bind hR
          (othersKept_laneWork (LaneWork.closed.releaseLaneProbe _ _ _ _ _))
          (fun _ => Tx.Within.ofExcept hR _)

theorem cancelForRemoval_held {now : Time} {jobs : List Job} {j : Job} {s t : Db} {n m : Nat}
    (hdistinct : (jobs.map Job.id).Nodup) (hheld : Held s j) (hj : j ∈ jobs)
    (hcancellable : isCancellable j.status = true)
    (hrun : cancelForRemoval repo now jobs n s = (.ok m, t)) : Settled t j.id := by
  induction jobs generalizing s n with
  | nil => cases hj
  | cons job rest ih =>
    rw [List.map_cons, List.nodup_cons] at hdistinct
    unfold cancelForRemoval at hrun
    split at hrun
    · rename_i hskip
      rcases List.mem_cons.mp hj with rfl | hj
      · rw [hheld.row.isSync, hcancellable] at hskip
        cases hskip
      · exact ih hdistinct.2 hheld hj hrun
    · rw [Tx.run_read_bind] at hrun
      obtain ⟨_, u, hcancel, hrest⟩ := Tx.run_bind_ok hrun
      rcases List.mem_cons.mp hj with rfl | hj
      · exact (cancelUnstarted_held hheld hcancel).kept (cancelForRemoval_acts hrest).keys
      · have hne : j.id ≠ job.id := fun heq => hdistinct.1 (heq ▸ List.mem_map_of_mem hj)
        exact ih hdistinct.2 (hheld.kept (othersKept_cancelUnstarted _ _ _ hcancel j hne hheld.row)
          (cancelUnstarted_acts hcancel).endedRuns) hj hrest

theorem remove_held {subscriptionId : String} {now : Time} {j : Job} {x : Subscription} {s t : Db}
    {n : Nat} (hheld : Held s j) (hscope : j.subscriptionId = some subscriptionId)
    (hx : s.subscriptions.get? subscriptionId = some x) (hpresent : x.deletedAt = none)
    (h : remove repo subscriptionId now s = (.ok n, t)) : Settled t j.id := by
  obtain ⟨subscription, hlocked, h⟩ := Tx.run_bind_read (readOnly_lockedSubscription _) h
  obtain rfl : subscription = x := by
    obtain ⟨_, hlocked⟩ := Tx.run_bind_require hlocked
    unfold getSubscription at hlocked
    rw [Tx.run_read_bind, hx] at hlocked
    cases hlocked
    rfl
  rw [if_neg (by simp [hpresent])] at h
  obtain ⟨jobs, hjobs, hrest⟩ := Tx.run_bind_read (readOnly_rejectBusy _) h
  obtain ⟨cancelled, u, hcancel, hafter⟩ := Tx.run_bind_ok hrest
  unfold rejectBusy at hjobs
  rw [Tx.run_read_bind] at hjobs
  obtain ⟨hfree, hjobs⟩ := Tx.run_bind_require hjobs
  rw [Tx.run_read_bind] at hjobs
  obtain ⟨_, hjobs⟩ := Tx.run_bind_require hjobs
  cases hjobs
  have hmem : j ∈ removalJobs s subscription.id := by
    unfold removalJobs
    rw [List.mem_mergeSort, List.mem_filter]
    refine ⟨Table.get?_mem hheld.row.row, ?_⟩
    simp [inRemovalScope, hscope, Table.get?_key hx, JobStatus.isActive, hheld.active]
  have hcancellable : isCancellable j.status = true := by
    have hnot := hfree
    simp only [Bool.not_eq_true', List.any_eq_false] at hnot
    have hj := hnot j hmem
    simp only [blocksRemoval, Bool.or_eq_true, not_or, Bool.not_eq_true', Bool.not_eq_false] at hj
    exact hj.1.1.1.2
  have hdistinct : ((removalJobs s subscription.id).map Job.id).Nodup := by
    unfold removalJobs
    refine ((List.mergeSort_perm _ _).map _).nodup_iff.2 ?_
    exact List.Nodup.sublist (List.filter_sublist.map _) s.jobs.unique
  have hsettled := cancelForRemoval_held hdistinct hheld hmem hcancellable hcancel
  rw [Tx.run_read_bind] at hafter
  obtain ⟨_, v, hcoordinators, hafter⟩ := Tx.run_bind_ok hafter
  cases hcoordinators
  obtain ⟨_, w, hsubscription, hafter⟩ := Tx.run_bind_ok hafter
  cases hsubscription
  cases hafter
  have hcoordinators : Act repo u { u with
      jobs := u.jobs.update (isPendingCoordinator u subscriptionId) (cancelledValues now)
        (fun _ => rfl) } := .coordinators _
  exact (hsettled.kept hcoordinators.keys).kept (.of_jobs_eq rfl)

theorem presented_jobId {jobId workerId leaseToken id : String} {p : Presented}
    (h : presented jobId workerId leaseToken = .ok p)
    (hid : requiredText jobId "job_id" 36 = .ok id) : p.jobId = id := by
  obtain ⟨_, hjob, h⟩ := except_bind_ok h
  rw [hid] at hjob
  cases hjob
  obtain ⟨_, _, h⟩ := except_bind_ok h
  obtain ⟨_, _, h⟩ := except_bind_ok h
  cases h
  rfl

/-- What `fail` and `wait` do before their own update does not let a held job pass. -/
theorem reject_held {job : Job} {runId result : Option String} {explicit : Bool} {u v : Db} {a : Unit}
    {s : Db} (hheld : Held s job)
    (hresult : validatedResultRunId job runId explicit s = (.ok result, u))
    (hreject : rejectFailureForSucceededRun job result s = (.ok a, v)) : False := by
  have hsucceeded := hheld.succeeded
  rw [not_succeeded_of_reject hresult hreject] at hsucceeded
  cases hsucceeded

theorem fail_held {jobId workerId leaseToken errorCode : String} {retryAt : Option Time}
    {affectsCircuit : Option Bool} {runId : Option String} {now : Time} {j : Job} {s t : Db}
    {r : SchedulerJobSummary} (hheld : Held s j) (hid : requiredText jobId "job_id" 36 = .ok j.id)
    (h : fail repo jobId workerId leaseToken errorCode retryAt affectsCircuit runId now s =
      (.ok r, t)) : False := by
  obtain ⟨p, hp, h⟩ := Tx.run_bind_ofExcept h
  obtain ⟨c, _, h⟩ := Tx.run_bind_ofExcept h
  obtain ⟨_, _, h⟩ := Tx.run_bind_ofExcept h
  obtain ⟨observed, hobserved, h⟩ := Tx.run_bind_read (within_getSyncJob Tx.ReadOnly.chains _) h
  obtain ⟨_, hkey, hrow⟩ := getSyncJob_row hobserved
  obtain rfl := hrow.unique hheld.row (hkey.trans (presented_jobId hp hid))
  obtain ⟨result, hresult, h⟩ := Tx.run_bind_read (readOnly_validatedResultRunId _ _ _) h
  obtain ⟨reconciled, u, hconflict, hrest⟩ := Tx.run_bind_ok h
  obtain ⟨rfl, rfl⟩ := reconcileConflict_held hheld hconflict
  obtain ⟨_, hreject, _⟩ := Tx.run_bind_read (readOnly_rejectFailure _ _) hrest
  exact reject_held hheld hresult hreject

theorem wait_held {jobId workerId leaseToken : String} {status : WaitingStatus}
    {errorCode : String} {affectsCircuit : Option Bool} {runId : Option String} {now : Time}
    {j : Job} {s t : Db} {r : SchedulerJobSummary} (hheld : Held s j)
    (hid : requiredText jobId "job_id" 36 = .ok j.id)
    (h : wait repo jobId workerId leaseToken status errorCode affectsCircuit runId now s =
      (.ok r, t)) : False := by
  obtain ⟨p, hp, h⟩ := Tx.run_bind_ofExcept h
  obtain ⟨c, _, h⟩ := Tx.run_bind_ofExcept h
  obtain ⟨_, _, h⟩ := Tx.run_bind_ofExcept h
  obtain ⟨observed, hobserved, h⟩ := Tx.run_bind_read (within_getSyncJob Tx.ReadOnly.chains _) h
  obtain ⟨_, hkey, hrow⟩ := getSyncJob_row hobserved
  obtain rfl := hrow.unique hheld.row (hkey.trans (presented_jobId hp hid))
  obtain ⟨result, hresult, h⟩ := Tx.run_bind_read (readOnly_validatedResultRunId _ _ _) h
  obtain ⟨reconciled, u, hconflict, hrest⟩ := Tx.run_bind_ok h
  obtain ⟨rfl, rfl⟩ := reconcileConflict_held hheld hconflict
  obtain ⟨_, hreject, _⟩ := Tx.run_bind_read (readOnly_rejectFailure _ _) hrest
  exact reject_held hheld hresult hreject

/-- The operation reports a failure or a wait of the job. -/
def Op.reportsOn (j : Job) : Op → Prop
  | fail jobId _ _ _ _ _ _ _ => requiredText jobId "job_id" 36 = .ok j.id
  | wait jobId _ _ _ _ _ _ _ => requiredText jobId "job_id" 36 = .ok j.id
  | _ => False

/-- The operation cancels the job, removes its subscription or comes upon its expired lease. -/
def Op.endsCycle (s : Db) (j : Job) : Op → Prop
  | cancel jobId _ => requiredText jobId "job_id" 36 = .ok j.id
  | remove subscriptionId _ => j.subscriptionId = some subscriptionId ∧
      ∃ x, s.subscriptions.get? subscriptionId = some x ∧ x.deletedAt = none
  | claimNext args => j ∈ expiredJobs s args.now none
  | claimExact jobId _ args => ∃ id, requiredText jobId "job_id" 36 = .ok id ∧
      j ∈ expiredJobs s args.now (some id)
  | _ => False

theorem reportsOn_held {op : Op} {j : Job} {s t : Db} {reply : Reply} (hheld : Held s j)
    (hop : op.reportsOn j) (h : op.perform repo s = (.ok reply, t)) : False := by
  cases op with
  | fail =>
    obtain ⟨_, _, hrun, _⟩ := Tx.run_bind_ok h
    exact fail_held hheld hop hrun
  | wait =>
    obtain ⟨_, _, hrun, _⟩ := Tx.run_bind_ok h
    exact wait_held hheld hop hrun
  | _ => cases hop

theorem endsCycle_held {op : Op} {j : Job} {s t : Db} {reply : Reply} (hheld : Held s j)
    (hop : op.endsCycle s j) (h : op.perform repo s = (.ok reply, t)) : Settled t j.id := by
  have hdone {α : Type} {m : Session α} {f : α → Reply}
      (hm : ∀ {a u}, m s = (.ok a, u) → Settled u j.id)
      (h : (m >>= fun a => pure (f a)) s = (.ok reply, t)) : Settled t j.id := by
    obtain ⟨a, u, hrun, hpure⟩ := Tx.run_bind_ok h
    cases hpure
    exact hm hrun
  cases op with
  | cancel => exact hdone (cancel_held hheld hop) h
  | remove =>
    obtain ⟨hscope, x, hx, hpresent⟩ := hop
    exact hdone (remove_held hheld hscope hx hpresent) h
  | claimNext args =>
    have hmem : j ∈ expiredJobs s args.now ((none : Option (String × String)).map Prod.fst) := hop
    exact hdone (claimEligible_held hheld hmem) h
  | claimExact jobId subscriptionId args =>
    obtain ⟨id, hid, hmem⟩ := hop
    exact hdone (claimExact_held hheld hid hmem) h
  | _ => cases hop

/-- A succeeded run is authoritative, under any interleaving with code that keeps the natural
keys unique: a failed call changes nothing; a sync job has at most one coordinator, which every
call keeps; a failure or a wait of a held job is refused; and a cancellation, a removal or an
expired lease of it is refused, or settles the job with exactly one coordinator. -/
theorem succeeded_run_authoritative {env : Db → Db → Prop} {s t : Db} {events : List Event}
    (henv : ∀ s t, env s t → KeysUnique s → KeysUnique t) (hs : KeysUnique s)
    (ht : History repo env s events t) :
    (∀ id p q, Coordinator t id p → Coordinator t id q → p = q) ∧
      ∀ before op reply after, .call before op reply after ∈ events →
        (∀ e, reply = .error e → after = before) ∧
        (∀ id p, Coordinator before id p → ∃ q, Coordinator after id q ∧ q.id = p.id) ∧
        ∀ j, Held before j →
          (op.reportsOn j → ∃ e, reply = .error e ∧ after = before) ∧
          (op.endsCycle before j → (∃ e, reply = .error e ∧ after = before) ∨
            (∃ k, SyncRow after k ∧ k.id = j.id ∧ k.status = .succeeded) ∧
              ∃! p, Coordinator after j.id p) := by
  have hinv {events : List Event} {t : Db} (ht : History repo env s events t) : KeysUnique t := by
    refine ht.invariant (fun s e t hI hstep => ?_) hs
    cases hstep with
    | call op hrun => exact (call_keys hrun).unique hI
    | elsewhere h => exact henv _ _ h hI
  refine ⟨fun id p q hp hq => hp.unique (hinv ht) hq, fun before op reply after he => ?_⟩
  obtain ⟨pre, post, rfl⟩ := List.append_of_mem he
  obtain ⟨a, b, ha, hstep, _⟩ := ht.at_label
  obtain ⟨hbefore, hafter⟩ := hstep.ends
  cases hbefore
  cases hafter
  have hunique : KeysUnique after := hinv (ha.snoc hstep)
  cases hstep with
  | call _ hrun =>
    have hkeys := call_keys hrun
    refine ⟨fun e he => ?_, fun id p hp => hp.kept hkeys, fun j hheld => ⟨fun hop => ?_,
      fun hop => ?_⟩⟩
    · rw [he] at hrun
      exact Tx.commit_error hrun
    · cases reply with
      | error e => exact ⟨e, rfl, Tx.commit_error hrun⟩
      | ok reply => exact (reportsOn_held hheld hop (Tx.commit_ok hrun)).elim
    · cases reply with
      | error e => exact .inl ⟨e, rfl, Tx.commit_error hrun⟩
      | ok reply =>
        have hsettled := endsCycle_held hheld hop (Tx.commit_ok hrun)
        obtain ⟨p, hp⟩ := hsettled.coordinator
        exact .inr ⟨hsettled.row, p, hp, fun q hq => hq.unique hunique hp⟩

end Repository

/-- A repository that hands out canonical identifiers. -/
def authorityRepository : SchedulerRepository :=
  { sampleRepository with
    uuid := fun n =>
      "00000000-0000-4000-8000-00000000000" ++ String.ofList [Nat.digitChar (n % 10)] }

def authoritySubscription : String := "10000000-0000-4000-8000-000000000000"

def authorityAccount : String := "20000000-0000-4000-8000-000000000000"

def authorityRunId : String := "30000000-0000-4000-8000-000000000000"

/-- The small installation under canonical identifiers, with a run that has succeeded. -/
def authorityDb : Db where
  accounts := ⟨[{
    id := authorityAccount
    platform := .bili
    adapter := "sample"
    authStatus := "valid"
    authRevision := 0 }], List.nodup_singleton _⟩
  authors := sampleDb.authors
  subscriptions := ⟨[{
    id := authoritySubscription
    accountId := authorityAccount
    authorId := "author"
    enabled := true
    deletedAt := none
    intervalSeconds := 3600
    maxItems := 20
    cursor := none
    checkpointRevision := 0
    scheduleRevision := 0
    policy := .obj []
    nextRunAt := none
    lastRunAt := none
    lastSuccessAt := none
    consecutiveFailures := 0
    createdAt := 0
    updatedAt := 0 }], List.nodup_singleton _⟩
  jobs := .empty
  runs := ⟨[{
    id := authorityRunId
    subscriptionId := authoritySubscription
    status := .succeeded
    attempt := 1
    cursorBefore := none
    cursorAfter := none
    checkpointRevisionBefore := 0
    checkpointRevisionAfter := some 1
    manifest := .obj []
    errorCode := none
    errorMessage := none
    eventSequence := 5
    startedAt := some 1000
    finishedAt := some 1500
    updatedAt := 1500 }], List.nodup_singleton _⟩
  lanes := .empty
  operations := .empty
  progress := .empty
  scanProgress := .empty
  runContents := .empty
  drawn := 0

/-- A cycle that is claimed, started and attached to the run. -/
def heldOps : List Op :=
  [.materializeDue 10 500 .standard,
    .claimNext ⟨"worker", 10, 60, 10, none, 1000⟩,
    .start (authorityRepository.uuid 0) "worker" (authorityRepository.uuid 3) 1000,
    .attachRun (authorityRepository.uuid 0) "worker" (authorityRepository.uuid 3) authorityRunId
      none 1000]

def heldFail : Op :=
  .fail (authorityRepository.uuid 0) "worker" (authorityRepository.uuid 3) "upstream_timeout" none
    none none 2000

theorem authorityDb_keys : KeysUnique authorityDb := by
  intro j k hj
  have hnone : authorityDb.jobs.get? j.id = none := Table.get?_empty _
  rw [hnone] at hj
  cases hj

/-- The failure of a held job is refused: the job stays under its lease, without a coordinator. -/
theorem succeeded_run_failure_refused :
    ∃ events s j, History authorityRepository (fun _ _ => False) authorityDb events s ∧
      Held s j ∧ heldFail.reportsOn j ∧
      ∃ e, Tx.commit (heldFail.perform authorityRepository) s = (.error e, s) ∧
        s.jobs.rows.map (fun j => (j.jobType, j.status)) = [("sync.subscription", .running)] := by
  have hheld : ((replay authorityRepository authorityDb heldOps).2.jobs.get?
      (authorityRepository.uuid 0)).any (fun j => j.isSync && !j.status.isTerminal &&
        attachedSucceeded (replay authorityRepository authorityDb heldOps).2 j) = true := by
    decide +kernel
  have hrun := replay_history authorityRepository (fun _ _ => False) authorityDb heldOps
  cases hget : (replay authorityRepository authorityDb heldOps).2.jobs.get?
      (authorityRepository.uuid 0) with
  | none =>
    rw [hget] at hheld
    cases hheld
  | some j =>
    rw [hget] at hheld
    simp only [Option.any_some, Bool.and_eq_true, Bool.not_eq_true'] at hheld
    have hid : j.id = authorityRepository.uuid 0 := Table.get?_key hget
    have hfail : (Tx.commit (heldFail.perform authorityRepository)
        (replay authorityRepository authorityDb heldOps).2).1.isOk = false := by decide +kernel
    refine ⟨_, _, j, hrun, ⟨⟨hid ▸ hget, hheld.1.1⟩, hheld.1.2, hheld.2⟩, ?_, ?_⟩
    · show requiredText (authorityRepository.uuid 0) "job_id" 36 = .ok j.id
      rw [hid]
      decide +kernel
    · rcases hcall : Tx.commit (heldFail.perform authorityRepository)
        (replay authorityRepository authorityDb heldOps).2 with ⟨reply, t⟩
      cases reply with
      | ok reply =>
        rw [hcall] at hfail
        cases hfail
      | error e =>
        cases Tx.commit_error hcall
        exact ⟨e, rfl, by decide +kernel⟩

/-- The cancellation of the held job settles it and emits its coordinator, once. -/
theorem succeeded_run_authoritative_sample :
    let s := (replay authorityRepository authorityDb
      (heldOps ++ [heldFail, .cancel (authorityRepository.uuid 0) 3000,
        .cancel (authorityRepository.uuid 0) 4000])).2
    (∀ id p q, Coordinator s id p → Coordinator s id q → p = q) ∧
      s.jobs.rows.map (fun j => (j.naturalKey, j.status)) =
        [("subscription:10000000-0000-4000-8000-000000000000:schedule:0", .succeeded),
          ("sync-job:00000000-0000-4000-8000-000000000000", .queued)] :=
  ⟨(succeeded_run_authoritative (fun _ _ (h : False) _ => h.elim) authorityDb_keys
    (replay_history authorityRepository (fun _ _ => False) authorityDb _)).1, by decide +kernel⟩

end MediaSync.Scheduler
