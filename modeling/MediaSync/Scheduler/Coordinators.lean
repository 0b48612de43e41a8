import MediaSync.Scheduler.ActRuns

/-!
# Natural keys

The rows of the job table are unique by type and natural key. No act removes a
row or moves its key, and no act changes how a sync job has ended, so the
coordinator of a settled sync job is emitted once and stays.
-/

namespace MediaSync.Scheduler

open Python Transaction SchedulerError SchedulerRepository Relation

/-- `UniqueConstraint("job_type", "natural_key")`. -/
def KeysUnique (s : Db) : Prop :=
  ∀ j k, s.jobs.get? j.id = some j → s.jobs.get? k.id = some k → j.jobType = k.jobType →
    j.naturalKey = k.naturalKey → j = k

/-- A later row of the same job. -/
structure RowKept (j k : Job) : Prop where
  id : k.id = j.id
  jobType : k.jobType = j.jobType
  naturalKey : k.naturalKey = j.naturalKey
  final : j.isSync = true → j.status.isTerminal = true → k.status = j.status

theorem RowKept.refl (j : Job) : RowKept j j := ⟨rfl, rfl, rfl, fun _ _ => rfl⟩

theorem RowKept.isSync {j k : Job} (h : RowKept j k) : k.isSync = j.isSync := by
  simp only [Job.isSync, h.jobType]

theorem RowKept.trans {i j k : Job} (h : RowKept i j) (h' : RowKept j k) : RowKept i k where
  id := h'.id.trans h.id
  jobType := h'.jobType.trans h.jobType
  naturalKey := h'.naturalKey.trans h.naturalKey
  final hsync hterminal := by
    have hj := h.final hsync hterminal
    rw [h'.final (h.isSync.trans hsync) (by rw [hj]; exact hterminal), hj]

theorem RowKept.of_active {j k : Job} (hactive : j.status.isTerminal = false) (hid : k.id = j.id)
    (htype : k.jobType = j.jobType) (hkey : k.naturalKey = j.naturalKey) : RowKept j k :=
  ⟨hid, htype, hkey, fun _ h => by
    rw [hactive] at h
    cases h⟩

/-- The natural keys stay unique, and every job stays under its own. -/
structure KeysKept (s t : Db) : Prop where
  unique : KeysUnique s → KeysUnique t
  kept : ∀ j, s.jobs.get? j.id = some j → ∃ k, t.jobs.get? k.id = some k ∧ RowKept j k

theorem KeysKept.chains : Tx.Chains KeysKept where
  refl _ := ⟨id, fun j hj => ⟨j, hj, .refl j⟩⟩
  trans _ _ _ h h' := ⟨h'.unique ∘ h.unique, fun i hi => by
    obtain ⟨j, hj, hij⟩ := h.kept i hi
    obtain ⟨k, hk, hjk⟩ := h'.kept j hj
    exact ⟨k, hk, hij.trans hjk⟩⟩

theorem KeysKept.of_jobs_eq {s t : Db} (h : t.jobs = s.jobs) : KeysKept s t where
  unique hs j k hj hk := hs j k (h ▸ hj) (h ▸ hk)
  kept j hj := ⟨j, by rw [h]; exact hj, .refl j⟩

theorem KeysKept.of_update {s : Db} {p : Job → Bool} {f : Job → Job}
    (keeps : ∀ j, (f j).id = j.id)
    (h : ∀ j, s.jobs.get? j.id = some j → p j = true → RowKept j (f j)) :
    KeysKept s { s with jobs := s.jobs.update p f keeps } := by
  have hkept (j : Job) (hj : s.jobs.get? j.id = some j) : RowKept j (if p j then f j else j) := by
    split
    · rename_i hp
      exact h j hj hp
    · exact .refl j
  -- every row of the new table is a later row of one that was there
  have hold (k : Job) (hk : (s.jobs.update p f keeps).get? k.id = some k) :
      ∃ j, s.jobs.get? j.id = some j ∧ k = if p j then f j else j := by
    rw [Table.get?_update] at hk
    cases hj : s.jobs.get? k.id with
    | none =>
      rw [hj] at hk
      cases hk
    | some j =>
      rw [hj] at hk
      refine ⟨j, ?_, (Option.some.inj hk).symm⟩
      rw [Table.get?_key hj]
      exact hj
  refine ⟨fun hs j k hj hk htype hkey => ?_, fun j hj => ⟨_, ?_, hkept j hj⟩⟩
  · obtain ⟨j', hj', rfl⟩ := hold j hj
    obtain ⟨k', hk', rfl⟩ := hold k hk
    have hjrow := hkept j' hj'
    have hkrow := hkept k' hk'
    rw [hjrow.jobType, hkrow.jobType] at htype
    rw [hjrow.naturalKey, hkrow.naturalKey] at hkey
    rw [hs j' k' hj' hk' htype hkey]
  · rw [(hkept j hj).id]
    show (s.jobs.update p f keeps).get? j.id = _
    rw [Table.get?_update, hj]
    rfl

theorem KeysKept.of_setJob {s : Db} {id : String} {values : Job → Job}
    (h : ∀ j, s.jobs.get? id = some j → RowKept j { values j with id := j.id }) :
    KeysKept s (s.setJob id values) :=
  .of_update _ fun j hj hid => h j (of_decide_eq_true hid ▸ hj)

theorem keysKept_updateJob (id : String) (conditions : Db → Job → Bool) (values : Job → Job)
    (h : ∀ db j, conditions db j = true → RowKept j { values j with id := j.id }) :
    Tx.Within KeysKept (updateJob id conditions values) := by
  apply Tx.Within.modifyGet
  intro db
  cases hget : db.jobs.get? id with
  | none => exact KeysKept.chains.refl db
  | some j =>
    dsimp only
    split
    · rename_i hc
      refine .of_setJob fun i hi => ?_
      rw [hget] at hi
      cases hi
      exact h db j hc
    · exact KeysKept.chains.refl db

/-- A job is inserted under a key that is free. -/
theorem keysKept_insertJob (job : Job) : Tx.Within KeysKept (insertJob job) := by
  intro s
  unfold insertJob
  split
  · exact KeysKept.chains.refl s
  · rename_i hfree
    split
    · rename_i jobs hinsert
      have hnew (k : Job) (hk : jobs.get? k.id = some k) :
          k = job ∨ s.jobs.get? k.id = some k := by
        rw [Table.get?_insert? hinsert] at hk
        split at hk
        · exact .inl (Option.some.inj hk).symm
        · exact .inr hk
      have hother (k : Job) (hk : s.jobs.get? k.id = some k) (htype : k.jobType = job.jobType) :
          k.naturalKey ≠ job.naturalKey := by
        intro hkey
        exact hfree (List.any_eq_true.mpr ⟨k, Table.get?_mem hk, by simp [htype, hkey]⟩)
      refine ⟨fun hs j k hj hk htype hkey => ?_, fun j hj => ⟨j, ?_, .refl j⟩⟩
      · rcases hnew j hj, hnew k hk with ⟨hj | hj', hk | hk'⟩
        · rw [hj, hk]
        · exact (hother k hk' (by rw [← htype, hj]) (by rw [← hkey, hj])).elim
        · exact (hother j hj' (by rw [htype, hk]) (by rw [hkey, hk])).elim
        · exact hs j k hj' hk' htype hkey
      · show jobs.get? j.id = some j
        rw [Table.get?_insert? hinsert, if_neg]
        · exact hj
        · intro hid
          have hfresh := Table.insert?_fresh hinsert
          rw [hid, hj] at hfresh
          cases hfresh
    · exact KeysKept.chains.refl s

theorem keysKept_outside {α : Type} {m : Session α} (h : Tx.Within Outside m) :
    Tx.Within KeysKept m :=
  Tx.Within.mono (fun _ _ h => .of_jobs_eq h.jobs) h

theorem keysKept_newUuid (uuid : Nat → String) : Tx.Within KeysKept (newUuid uuid) :=
  keysKept_outside (outside_newUuid uuid)

theorem KeysKept.cycleClosed : CycleClosed KeysKept where
  chains := KeysKept.chains
  outside h := .of_jobs_eq h.jobs
  insert _ _ _ _ _ _ _ _ := keysKept_insertJob _

/-! ## Emission -/

/-- The row is the coordinator of the sync job. -/
structure Coordinator (s : Db) (syncJobId : String) (p : Job) : Prop where
  row : s.jobs.get? p.id = some p
  jobType : p.jobType = pipelineSubscriptionJobType
  naturalKey : p.naturalKey = pipelineNaturalKey syncJobId

theorem Coordinator.unique {s : Db} {id : String} {p q : Job} (hs : KeysUnique s)
    (hp : Coordinator s id p) (hq : Coordinator s id q) : p = q :=
  hs p q hp.row hq.row (hp.jobType.trans hq.jobType.symm) (hp.naturalKey.trans hq.naturalKey.symm)

theorem Coordinator.kept {s t : Db} {id : String} {p : Job} (hp : Coordinator s id p)
    (h : KeysKept s t) : ∃ q, Coordinator t id q ∧ q.id = p.id := by
  obtain ⟨q, hq, hpq⟩ := h.kept p hp.row
  exact ⟨q, ⟨hq, hpq.jobType.trans hp.jobType, hpq.naturalKey.trans hp.naturalKey⟩, hpq.id⟩

theorem keysKept_coordinatorRow (existing : Option Job) (row : Job) :
    Tx.Within KeysKept (coordinatorRow existing row) := by
  cases existing with
  | some job => exact Tx.Within.pure KeysKept.chains _
  | none => exact keysKept_insertJob _

theorem keysKept_enqueue (uuid : Nat → String) (utcNow : Nat → Time) (syncJobId runId : String)
    (now : Time) :
    Tx.Within KeysKept (enqueueSucceededSync uuid utcNow syncJobId runId now) := by
  have hR := KeysKept.chains
  refine Tx.Within.bind hR (Tx.Within.require hR _ _) (fun _ => ?_)
  refine Tx.Within.bind hR (Tx.Within.require hR _ _) (fun _ => ?_)
  refine Tx.Within.bind hR (within_sourceScope hR _ _) (fun scope => ?_)
  refine Tx.Within.bind hR (Tx.Within.read hR _) (fun superseding => ?_)
  refine Tx.Within.bind hR (Tx.Within.require hR _ _) (fun _ => ?_)
  refine Tx.Within.bind hR (Tx.Within.read hR _) (fun utc => ?_)
  refine Tx.Within.bind hR (keysKept_newUuid uuid) (fun id => ?_)
  refine Tx.Within.bind hR (Tx.Within.read hR _) (fun existing => ?_)
  refine Tx.Within.bind hR (keysKept_coordinatorRow _ _) (fun job => ?_)
  split
  · exact Tx.Within.pure hR _
  · refine Tx.Within.bind hR (Tx.Within.require hR _ _) (fun _ => ?_)
    refine Tx.Within.bind hR (keysKept_updateJob _ _ _ fun db j hj => ?_)
      (fun _ => Tx.Within.require hR _ _)
    simp only [Bool.and_eq_true, decide_eq_true_eq] at hj
    refine ⟨rfl, rfl, rfl, fun hsync => ?_⟩
    rw [not_isSync_of_pipeline hj.1.1] at hsync
    cases hsync

theorem keysKept_enqueuePipeline (repo : SchedulerRepository) (job : Job) (now : Time) :
    Tx.Within KeysKept (repo.enqueuePipelineForSucceededRun job now) := by
  have hR := KeysKept.chains
  unfold enqueuePipelineForSucceededRun
  split
  · exact Tx.Within.pure hR _
  · refine Tx.Within.bind hR (Tx.Within.read hR _) (fun run => ?_)
    cases run with
    | none => exact Tx.Within.pure hR _
    | some run =>
      dsimp only
      split
      · exact Tx.Within.pure hR _
      · exact keysKept_enqueue _ _ _ _ _

theorem sourceScope_source {syncJobId runId : String} {s t : Db}
    {source : Job} {subscriptionId accountId : String} {platform : Platform}
    (hrun : sourceScope syncJobId runId s = (.ok (source, subscriptionId, accountId, platform), t)) :
    source.id = syncJobId := by
  unfold sourceScope getJob at hrun
  rw [Tx.run_read_bind] at hrun
  cases hget : s.jobs.get? syncJobId with
  | none =>
    rw [hget] at hrun
    cases hrun
  | some job =>
    rw [hget] at hrun
    obtain ⟨_, h⟩ := Tx.run_bind_require hrun
    obtain ⟨_, h⟩ := Tx.run_bind_require h
    obtain ⟨_, h⟩ := Tx.run_bind_require h
    cases hsub : job.subscriptionId with
    | none =>
      rw [hsub] at h
      cases h
    | some sub =>
      cases hacc : job.accountId with
      | none =>
        rw [hsub, hacc] at h
        cases h
      | some acc =>
        cases hplatform : job.platform with
        | none =>
          rw [hsub, hacc, hplatform] at h
          cases h
        | some platform =>
          rw [hsub, hacc, hplatform] at h
          obtain ⟨run, _, _, h⟩ := Tx.run_bind_ok h
          obtain ⟨_, h⟩ := Tx.run_bind_require h
          obtain ⟨_, _, _, h⟩ := Tx.run_bind_ok h
          obtain ⟨_, h⟩ := Tx.run_bind_require h
          obtain ⟨_, _, _, h⟩ := Tx.run_bind_ok h
          obtain ⟨_, h⟩ := Tx.run_bind_require h
          cases h
          exact Table.get?_key hget

/-- The row that an emission goes on with is stored under the key of the source. -/
theorem coordinatorRow_coordinator {sourceId : String} {row job : Job} {s t : Db}
    (htype : row.jobType = pipelineSubscriptionJobType)
    (hkey : row.naturalKey = pipelineNaturalKey sourceId)
    (h : coordinatorRow (s.jobs.rows.find? (fun j =>
      j.jobType = pipelineSubscriptionJobType && j.naturalKey = pipelineNaturalKey sourceId)) row s =
        (.ok job, t)) : Coordinator t sourceId job := by
  cases hfind : s.jobs.rows.find? (fun j =>
      j.jobType = pipelineSubscriptionJobType && j.naturalKey = pipelineNaturalKey sourceId) with
  | some existing =>
    rw [hfind] at h
    cases h
    have hmatch := List.find?_some hfind
    simp only [Bool.and_eq_true, decide_eq_true_eq] at hmatch
    exact ⟨Table.get?_of_mem (List.mem_of_find?_eq_some hfind), hmatch.1, hmatch.2⟩
  | none =>
    rw [hfind] at h
    unfold coordinatorRow insertJob at h
    dsimp only at h
    split at h
    · cases h
    · split at h
      · rename_i jobs hinsert
        cases h
        exact ⟨by rw [Table.get?_insert? hinsert, if_pos rfl], htype, hkey⟩
      · cases h

theorem enqueue_coordinator {uuid : Nat → String} {utcNow : Nat → Time} {syncJobId runId : String}
    {now : Time} {s t : Db} {r : Unit}
    (hrun : enqueueSucceededSync uuid utcNow syncJobId runId now s = (.ok r, t)) :
    ∃ p, Coordinator t syncJobId p := by
  obtain ⟨_, hrun⟩ := Tx.run_bind_require hrun
  obtain ⟨_, hrun⟩ := Tx.run_bind_require hrun
  obtain ⟨⟨source, subscriptionId, accountId, platform⟩, u, hscope, h⟩ := Tx.run_bind_ok hrun
  obtain rfl := sourceScope_source hscope
  dsimp only at h
  rw [Tx.run_read_bind] at h
  obtain ⟨_, h⟩ := Tx.run_bind_require h
  rw [Tx.run_read_bind] at h
  obtain ⟨id, v, _, h⟩ := Tx.run_bind_ok h
  rw [Tx.run_read_bind] at h
  obtain ⟨job, w, hrow, h⟩ := Tx.run_bind_ok h
  have hjob : Coordinator w source.id job := coordinatorRow_coordinator rfl rfl hrow
  split at h
  · cases h
    exact ⟨job, hjob⟩
  · obtain ⟨_, h⟩ := Tx.run_bind_require h
    obtain ⟨repaired, x, hupdate, h⟩ := Tx.run_bind_ok h
    have hx : KeysKept w x := by
      refine (keysKept_updateJob _ _ _ fun db j hj => ?_).ends hupdate
      simp only [Bool.and_eq_true, decide_eq_true_eq] at hj
      refine ⟨rfl, rfl, rfl, fun hsync => ?_⟩
      rw [not_isSync_of_pipeline hj.1.1] at hsync
      cases hsync
    obtain ⟨q, hq, _⟩ := hjob.kept hx
    rw [(Tx.run_require_ok h).2]
    exact ⟨q, hq⟩

/-- A job on a succeeded run of its own subscription has a coordinator after the emission. -/
theorem enqueuePipeline_coordinator {repo : SchedulerRepository} {job : Job} {run : SyncRun}
    {now : Time} {s t : Db} {r : Unit} (hid : job.runId = some run.id)
    (hrun : s.runs.get? run.id = some run) (hscope : some run.subscriptionId = job.subscriptionId)
    (hstatus : run.status = .succeeded)
    (h : repo.enqueuePipelineForSucceededRun job now s = (.ok r, t)) :
    ∃ p, Coordinator t job.id p := by
  unfold enqueuePipelineForSucceededRun getRun at h
  rw [hid] at h
  dsimp only at h
  rw [Tx.run_read_bind, hrun] at h
  dsimp only at h
  rw [if_neg (by simp [hscope, hstatus])] at h
  exact enqueue_coordinator h

section Calls

variable {repo : SchedulerRepository}

theorem LaneWork.keys {s t : Db} (h : LaneWork s t) : KeysKept s t := .of_jobs_eq h.jobs

theorem Outside.keys {s t : Db} (h : Outside s t) : KeysKept s t := .of_jobs_eq h.jobs

/-- The update of an active row, and a part after it. -/
theorem keysKept_row {s t : Db} {j : Job} {values : Job → Job} (hrow : SyncRow s j)
    (hactive : j.status.isTerminal = false) (h : KeysKept (s.setJob j.id values) t)
    (htype : (values j).jobType = j.jobType) (hkey : (values j).naturalKey = j.naturalKey) :
    KeysKept s t := by
  refine KeysKept.chains.trans _ _ _ (.of_setJob fun i hi => ?_) h
  rw [hrow.row] at hi
  cases hi
  exact .of_active hactive rfl htype hkey

theorem Act.keys {s t : Db} (h : Act repo s t) : KeysKept s t := by
  have hR := KeysKept.chains
  cases h with
  | lanes hrun => exact ((LaneWork.closed.jobLanes _ _ _).ends hrun).keys
  | drew => exact .of_jobs_eq rfl
  | settled hrow hactive _ _ _ hlanes hfinal hpipeline =>
    have hwork := hR.trans _ _ _ ((LaneWork.closed.applyLaneSuccess _ _ _ _).ends hlanes).keys
      ((outside_finalizeSubscription repo _ _ _ _).ends hfinal).keys
    exact keysKept_row hrow hactive
      (hR.trans _ _ _ hwork ((keysKept_enqueuePipeline _ _ _).ends hpipeline)) rfl rfl
  | conflict hrow hactive _ hlanes hends =>
    have hwork := ((LaneWork.closed.applyLaneFailure _ _ _ _ _).ends hlanes).keys
    rcases hends with rfl | ⟨r, hfinal⟩
    · exact keysKept_row hrow hactive hwork rfl rfl
    · exact keysKept_row hrow hactive
        (hR.trans _ _ _ hwork ((outside_finalizeConflict repo _ _).ends hfinal).keys) rfl rfl
  | expired hrow hactive _ _ hrun hlanes hfinal =>
    have hwork := hR.trans _ _ _ ((outside_cancelAttachedRun _ _ _).ends hrun).keys
      ((LaneWork.closed.applyLaneFailure _ _ _ _ _).ends hlanes).keys
    have hactive := JobStatus.not_isTerminal_of_isActiveWork hactive
    split at hfinal
    · exact keysKept_row hrow hactive
        (hR.trans _ _ _ hwork ((outside_finalizeSubscription repo _ _ _ _).ends hfinal).keys) rfl rfl
    · rw [hfinal]
      exact keysKept_row hrow hactive hwork rfl rfl
  | requeued keeps hp =>
    refine .of_update keeps fun j _ hj => .of_active ?_ rfl rfl rfl
    have hrequeue := (hp j hj).2
    cases hstatus : j.status <;> rw [hstatus] at hrequeue <;> first | rfl | cases hrequeue
  | invalid hrow hqueued hfinal =>
    exact keysKept_row hrow (congrArg JobStatus.isTerminal hqueued)
      ((outside_finalizeSubscription repo _ _ _ _).ends hfinal).keys rfl rfl
  | started hrow hclaimed =>
    exact keysKept_row hrow (congrArg JobStatus.isTerminal hclaimed) (hR.refl _) rfl rfl
  | renewed hrow hrunning =>
    exact keysKept_row hrow (congrArg JobStatus.isTerminal hrunning) (hR.refl _) rfl rfl
  | guarded hrow => exact .of_setJob fun j _ => .refl j
  | attached hrow hrunning =>
    exact keysKept_row hrow (congrArg JobStatus.isTerminal hrunning) (hR.refl _) rfl rfl
  | completed hrow hrunning hlanes hfinal hpipeline =>
    have hwork := hR.trans _ _ _ ((LaneWork.closed.applyLaneSuccess _ _ _ _).ends hlanes).keys
      ((outside_finalizeSubscription repo _ _ _ _).ends hfinal).keys
    exact keysKept_row hrow (congrArg JobStatus.isTerminal hrunning)
      (hR.trans _ _ _ hwork ((keysKept_enqueuePipeline _ _ _).ends hpipeline)) rfl rfl
  | failed hrow hactive _ hlanes hfinal =>
    exact keysKept_row hrow (JobStatus.not_isTerminal_of_isActiveWork hactive)
      (hR.trans _ _ _ ((LaneWork.closed.applyLaneFailure _ _ _ _ _).ends hlanes).keys
        ((outside_finalizeFailed repo _ _).ends hfinal).keys) rfl rfl
  | waiting hrow hactive _ hlanes =>
    exact keysKept_row hrow (JobStatus.not_isTerminal_of_isActiveWork hactive)
      ((LaneWork.closed.applyLaneFailure _ _ _ _ _).ends hlanes).keys rfl rfl
  | @resumed t j now hrow hwaiting hlanes =>
    have hactive : j.status.isTerminal = false := by
      cases hstatus : j.status <;> rw [hstatus] at hwaiting <;> first | rfl | cases hwaiting
    exact keysKept_row hrow hactive
      ((LaneWork.closed.releaseLaneProbe _ _ _ _ _).ends hlanes).keys rfl rfl
  | cancelled hrow hactive _ hrun hlanes hfinal =>
    have hwork := hR.trans _ _ _ ((outside_cancelAttachedRun _ _ _).ends hrun).keys
      ((LaneWork.closed.releaseLaneProbe _ _ _ _ _).ends hlanes).keys
    exact keysKept_row hrow hactive
      (hR.trans _ _ _ hwork ((outside_finalizeSubscription repo _ _ _ _).ends hfinal).keys) rfl rfl
  | withdrawn hrow hcancellable _ hlanes =>
    exact keysKept_row hrow (isCancellable_active hcancellable)
      ((LaneWork.closed.releaseLaneProbe _ _ _ _ _).ends hlanes).keys rfl rfl
  | coordinators keeps =>
    refine .of_update keeps fun j _ hj => ⟨rfl, rfl, rfl, fun hsync => ?_⟩
    simp only [isPendingCoordinator, Bool.and_eq_true, decide_eq_true_eq] at hj
    rw [not_isSync_of_pipeline hj.1.2] at hsync
    cases hsync
  | subscription _ => exact .of_jobs_eq rfl
  | lanePolicy hrun => exact ((LaneWork.closed.updateLane _ _ _ _).ends hrun).keys
  | laneReset hrun => exact ((LaneWork.closed.resetLane _ _ _).ends hrun).keys

theorem Acts.keys {s t : Db} (h : Acts repo s t) : KeysKept s t :=
  h.within KeysKept.chains (fun _ _ => Act.keys)

theorem Grant.keys {owner : String} {lease : Nat} {now : Time} {s t : Db} {claim : SchedulerClaim}
    (h : Grant repo owner lease now s t claim) : KeysKept s t := by
  obtain ⟨j, lanes, u, k, v, _, hlanes, _, hclaim, hreserve, _⟩ := h.written
  have hR := KeysKept.chains
  have hreserved : LaneWork v t := (Tx.Within.forEach LaneWork.chains lanes
    (fun laneId _ => laneWork_reserveLane laneId k.id now)).ends hreserve
  refine hR.trans _ _ _ ((LaneWork.closed.jobLanes _ _ _).ends hlanes).keys
    (hR.trans _ _ _ ?_ hreserved.keys)
  refine (Tx.Within.bind hR (keysKept_newUuid _) (fun token => ?_)).ends hclaim
  refine Tx.Within.bind hR (Tx.Within.ofExcept hR _) (fun expiresAt => ?_)
  refine keysKept_updateJob _ _ _ fun db i hc => ?_
  simp only [Bool.and_eq_true, decide_eq_true_eq] at hc
  exact .of_active (congrArg JobStatus.isTerminal hc.1.1.1.2) rfl rfl rfl

theorem ClaimActs.keys {args : ClaimArguments} {s t : Db} {r : Option SchedulerClaim}
    (h : ClaimActs repo args s t r) : KeysKept s t := by
  cases r with
  | none => exact Acts.keys h
  | some claim =>
    obtain ⟨_, _, _, m, n, _, _, hm, _, hn, hgrant⟩ := h
    exact KeysKept.chains.trans _ _ _ (Acts.keys (hm.trans hn)) hgrant.keys

/-- Every call keeps the keys, however it ends. -/
theorem call_keys {s t : Db} {op : Op} {reply : Except SchedulerError Reply}
    (h : Tx.commit (op.perform repo) s = (reply, t)) : KeysKept s t := by
  have hR := KeysKept.chains
  cases reply with
  | error e =>
    rw [Tx.commit_error h]
    exact hR.refl s
  | ok reply =>
    have hrun := Tx.commit_ok h
    cases hclaim : op.claimArguments? with
    | some args =>
      obtain ⟨r, rfl, hacts⟩ := perform_claim_acts hclaim hrun
      exact hacts.keys
    | none =>
      cases hcycle : op.isMaterialization with
      | true =>
        cases op with
        | materializeDue limit now retry =>
          exact Tx.Within.ends (Tx.Within.bind hR (KeysKept.cycleClosed.materializeDue repo _ _ _)
            (fun _ => Tx.Within.pure hR _)) hrun
        | materializeOne id revision now retry =>
          exact Tx.Within.ends (Tx.Within.bind hR (KeysKept.cycleClosed.materializeOne repo _ _ _ _)
            (fun _ => Tx.Within.pure hR _)) hrun
        | _ => cases hcycle
      | false =>
        cases hrunNow : op.isRunNow with
        | true =>
          cases op with
          | runNow id now =>
            obtain ⟨r, u, hrun, hpure⟩ := Tx.run_bind_ok hrun
            cases hpure
            obtain ⟨id, rfl⟩ := setSubscriptionSchedule_ok hrun
            exact .of_jobs_eq rfl
          | _ => cases hrunNow
        | false => exact (perform_acts hclaim hcycle hrunNow hrun).keys

end Calls

end MediaSync.Scheduler
