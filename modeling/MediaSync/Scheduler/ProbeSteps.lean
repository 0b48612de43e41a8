import MediaSync.Scheduler.LeaseFence
import MediaSync.Scheduler.ProbeLanes

/-!
# Every operation keeps the probe invariant

Each way a job leaves or re-enters the active set is one job update and one
pass over its lanes. The update may leave the job terminal while it holds a
lane; the pass then frees that lane, so the invariant holds again before the
operation returns.
-/

namespace MediaSync.Scheduler

open Python Transaction SchedulerError SchedulerRepository

/-- From a sound state the program, when it does not fail, ends in a sound state. -/
abbrev Sound (watch : Option Watch) {α : Type} (m : Session α) : Prop :=
  Tx.Triple (ProbeState watch none) m (fun _ => ProbeState watch none) (fun _ _ => True)

theorem Sound.of_ok {watch : Option Watch} {α : Type} {m : Session α}
    (h : ∀ s a t, ProbeState watch none s → m s = (.ok a, t) → ProbeState watch none t) :
    Sound watch m :=
  fun s hs => ⟨fun a t hrun => h s a t hs hrun, fun _ _ _ => trivial⟩

theorem Sound.ok {watch : Option Watch} {α : Type} {m : Session α} (h : Sound watch m) {s t : Db}
    {a : α} (hs : ProbeState watch none s) (hrun : m s = (.ok a, t)) : ProbeState watch none t :=
  (h s hs).1 a t hrun

/-- What leaves the lanes and the sync jobs aside is sound. -/
theorem Sound.aside {watch : Option Watch} {α : Type} {m : Session α} (h : Tx.Within Aside m) :
    Sound watch m :=
  Sound.of_ok (fun _ _ _ hs hrun => hs.aside (h.ends hrun))

theorem Sound.bind {watch : Option Watch} {α β : Type} {m : Session α} {f : α → Session β}
    (hm : Sound watch m) (hf : ∀ a, Sound watch (f a)) : Sound watch (m >>= f) :=
  Tx.Triple.bind hm hf

theorem aside_outside {α : Type} {m : Session α} (h : Tx.Within Outside m) :
    Tx.Within Aside m :=
  Tx.Within.mono (fun _ _ => Aside.of_outside) h

theorem Aside.of_jobs_eq {s t : Db} (hl : t.lanes = s.lanes) (ha : t.accounts = s.accounts)
    (hr : t.runs = s.runs) (hj : t.jobs = s.jobs) : Aside s t :=
  ⟨hl, ha, fun _ r h => ⟨r, hr ▸ h, rfl⟩, fun _ _ h _ => hj ▸ h, fun _ _ h _ => hj ▸ h⟩

/-- Work on coordinators leaves the sync jobs aside. -/
theorem Aside.of_pipelineWork {s t : Db} (h : PipelineWork s t) : Aside s t :=
  ⟨h.lanes, h.accounts, fun _ r hr => ⟨r, h.runs ▸ hr, rfl⟩,
    fun id j hj hsync => (h.syncJobs id j hsync).2 hj,
    fun id j hj hsync => (h.syncJobs id j hsync).1 hj⟩

section Operations

variable (repo : SchedulerRepository)

theorem aside_enqueuePipeline (job : Job) (now : Time) :
    Tx.Within Aside (enqueuePipelineForSucceededRun repo job now) :=
  Tx.Within.mono (fun _ _ => Aside.of_pipelineWork) (pipelineWork_enqueuePipeline repo job now)

/-- A pass over the lanes of a job whose row is current. -/
theorem ProbeState.pass {watch : Option Watch} {free : Option String} {job : Job} {must may : Prop}
    {f : String → Session Unit} (hf : LaneAction watch job must may f) {uuid : Nat → String}
    {now : Time} {lockedLanes : Option (List String)} {s t : Db} {r : Except SchedulerError Unit}
    (h : ProbeState watch free s) (hrow : s.jobs.get? job.id = some job)
    (hsync : job.isSync = true) (hcover : ∀ ids ∈ lockedLanes, Covers s ids job.id)
    (hrun : (settledLanes uuid job now lockedLanes >>= fun ids => Tx.forEach f ids) s = (r, t)) :
    ProbeState watch free t ∧ t.jobs = s.jobs ∧ t.accounts = s.accounts ∧ t.runs = s.runs ∧
      (r = .ok () → must → Unheld t job.id) ∧
      (∀ e, r = .error e → may ∨ lockedLanes = none) := by
  have hended : ∀ u : Db, u.jobs = s.jobs → job.status.isTerminal = true → JobEnded u job.id :=
    fun u hu hend => ⟨job, hu ▸ hrow, hsync, hend⟩
  -- once the lanes are known, the loop settles them
  have hloop : ∀ u ids, ProbeState watch free u → Covers u ids job.id → u.jobs = s.jobs →
      u.accounts = s.accounts → u.runs = s.runs → Tx.forEach f ids u = (r, t) →
      ProbeState watch free t ∧ t.jobs = s.jobs ∧ t.accounts = s.accounts ∧ t.runs = s.runs ∧
        (r = .ok () → must → Unheld t job.id) ∧ (∀ e, r = .error e → may) := by
    intro u ids hu hcov hj ha hr hrun
    obtain ⟨hstate, hedits, hmay, hheld⟩ :=
      settleLanes hf ids hu (hended u hj) hcov.present hrun
    refine ⟨hstate, hedits.jobs.trans hj, hedits.accounts.trans ha, hedits.runs.trans hr, ?_, hmay⟩
    intro hok hmust l hl hhold
    obtain ⟨⟨m, hm, hid, hmhold⟩, hnot⟩ := hheld l hl hhold
    exact hnot hok hmust (hid ▸ hcov.held m hm hmhold)
  cases lockedLanes with
  | some ids =>
    obtain ⟨hstate, hj, ha, hr, hfree, hmay⟩ := hloop s ids h (hcover ids rfl) rfl rfl rfl hrun
    exact ⟨hstate, hj, ha, hr, hfree, fun e he => .inl (hmay e he)⟩
  | none =>
    have hjob := h.jobs job.id job hrow hsync
    rcases Tx.run_bind_ends hrun with ⟨e, hlanes, rfl⟩ | ⟨ids, u, hlanes, hrest⟩
    · obtain ⟨hstate, hgrown, _⟩ := jobLanes_ends h hjob hlanes
      exact ⟨hstate, hgrown.jobs, hgrown.accounts, hgrown.runs, nofun, fun _ _ => .inr rfl⟩
    · obtain ⟨hstate, hgrown, hfound⟩ := jobLanes_ends h hjob hlanes
      have hrow' : u.jobs.get? job.id = some job := hgrown.jobs ▸ hrow
      obtain ⟨hstate', hj, ha, hr, hfree, hmay⟩ := hloop u ids hstate
        (hfound.covers hstate hrow' rfl rfl) hgrown.jobs hgrown.accounts hgrown.runs hrest
      exact ⟨hstate', hj, ha, hr, hfree, fun e he => .inl (hmay e he)⟩

/-- The row after an update of a job. -/
def updatedRow (values : Job → Job) (j : Job) : Job := { values j with id := j.id }

theorem Db.get?_updated {s : Db} {id : String} {j : Job} (hj : s.jobs.get? id = some j)
    (values : Job → Job) :
    (s.setJob id values).jobs.get? (updatedRow values j).id = some (updatedRow values j) := by
  have hid : (updatedRow values j).id = id := (Job.get?_id hj : j.id = id)
  rw [hid, Db.get?_setJob, if_pos rfl, hj]
  rfl

theorem Covers.setJob {s : Db} {ids : List String} {jobId : String} (h : Covers s ids jobId)
    (id : String) (values : Job → Job) : Covers (s.setJob id values) ids jobId :=
  ⟨h.held, h.present⟩

/-- A live job's update followed by a pass over its lanes, which must free them
if the job has ended. -/
theorem ProbeState.finish {watch : Option Watch} {id : String} {j : Job} {values : Job → Job}
    {must may : Prop} {f : String → Session Unit}
    (hf : LaneAction watch (updatedRow values j) must may f)
    (hmust : (values j).status.isTerminal = true → must)
    {uuid : Nat → String} {now : Time} {lockedLanes : Option (List String)} {s u t : Db}
    (h : ProbeState watch none s) (hj : s.jobs.get? id = some j) (hsync : j.isSync = true)
    (hlive : j.status.isTerminal = false) (hscope : SameScope j (values j))
    (hrun : (values j).runId = j.runId ∨ RunAttached s (updatedRow values j))
    (hcover : ∀ ids ∈ lockedLanes, Covers s ids id) (hmid : Aside (s.setJob id values) u)
    (hpass : (settledLanes uuid (updatedRow values j) now lockedLanes >>= fun ids =>
      Tx.forEach f ids) u = (.ok (), t)) : ProbeState watch none t := by
  have hid : (updatedRow values j).id = id := (Job.get?_id hj : j.id = id)
  have hsync' : (updatedRow values j).isSync = true := hscope.isSync.trans hsync
  have hrow := hmid.kept _ _ (Db.get?_updated hj values) hsync'
  have hcover' : ∀ ids ∈ lockedLanes, Covers u ids (updatedRow values j).id := by
    intro ids hids
    rw [hid]
    have hc := (hcover ids hids).setJob id values
    exact ⟨by rw [hmid.lanes]; exact hc.held, by rw [hmid.lanes]; exact hc.present⟩
  by_cases hend : (values j).status.isTerminal = true
  · have hset : ProbeState watch (some id) (s.setJob id values) :=
      h.setJob hj hsync hlive hscope hrun (fun _ => .inl rfl)
    have hstate := hset.aside hmid
    obtain ⟨hstate', _, _, _, hfree, _⟩ := hstate.pass hf hrow hsync' hcover' hpass
    exact hstate'.freed (hid ▸ hfree rfl (hmust hend))
  · have hstate : ProbeState watch none u :=
      (h.setJob hj hsync hlive hscope hrun (fun hend' => (hend hend').elim)).aside hmid
    exact (hstate.pass hf hrow hsync' hcover' hpass).1

/-- The values of a settled row keep its scope. -/
theorem sameScope_settled (finishedAt : Option Time) (now : Time) (j : Job) :
    SameScope j (settledValues finishedAt now j) := ⟨rfl, rfl, rfl, rfl, rfl, rfl, rfl⟩

theorem sameScope_conflict (finishedAt : Option Time) (now : Time) (j : Job) :
    SameScope j (conflictValues finishedAt now j) := ⟨rfl, rfl, rfl, rfl, rfl, rfl, rfl⟩

section Reconciliation

variable {watch : Option Watch} {job : Job} {now : Time} {expiredOnly : Bool}
  {lockedLanes : Option (List String)} {s t : Db} {r : Option Job}

/-- The attached result ends the job, and its lanes are passed over. -/
theorem reconcileSucceeded_sound (h : ProbeState watch none s)
    (hlive : job.status.isTerminal = false)
    (hcover : ∀ ids ∈ lockedLanes, Covers s ids job.id)
    (hrun : reconcileSucceededAttachment repo job now expiredOnly lockedLanes s = (.ok r, t)) :
    ProbeState watch none t := by
  rcases reconcileSucceeded_ok repo hrun with ⟨_, rfl, _⟩ |
    ⟨j, run, hid, hstatus, _, _, hsettled⟩
  · exact h
  · obtain ⟨u, v, hpass, hfinal, hpipeline⟩ := hsettled.written
    have hu : ProbeState watch none u :=
      ProbeState.finish (laneSuccess_action watch _ now rfl) (fun _ => trivial) h
        hsettled.row.row hsettled.row.isSync (hstatus ▸ hlive) (sameScope_settled _ _ j) (.inl rfl)
        (hid ▸ hcover) (Aside.chains.refl _) hpass
    have houtside := (outside_finalizeSubscription repo _ _ _ _).ends hfinal
    exact (hu.aside (Aside.of_outside houtside)).aside ((aside_enqueuePipeline repo _ _).ends hpipeline)

/-- The attached conflict ends the job, and its lanes are passed over. -/
theorem reconcileConflict_sound (hnow : ∀ w ∈ watch, w.now = now) (h : ProbeState watch none s)
    {ownedBy : Option (String × String)} {allowed : JobStatus → Bool}
    (hcover : ∀ ids ∈ lockedLanes, Covers s ids job.id)
    (hrun : reconcileOwnershipConflictAttachment repo job now expiredOnly ownedBy allowed
      lockedLanes s = (.ok r, t)) : ProbeState watch none t := by
  rcases reconcileConflict_ok repo hrun with ⟨_, rfl⟩ |
    ⟨j, finishedAt, hj, hsync, hstatus, hlive, _, _, _, u, hpass, houtside⟩
  · exact h
  · have hu : ProbeState watch none u :=
      ProbeState.finish (laneFailure_action hnow _ false) .inl h hj hsync
        (hstatus ▸ hlive) (sameScope_conflict _ _ j) (.inl rfl) hcover (Aside.chains.refl _) hpass
    exact hu.aside (Aside.of_outside houtside)

end Reconciliation

theorem sameScope_expired (now : Time) (j : Job) : SameScope j (expiredValues now j) :=
  ⟨rfl, rfl, rfl, rfl, rfl, rfl, rfl⟩

/-- An expired job is settled, fails for good or waits for a retry; its lanes are released. -/
theorem sound_reclaimOne {watch : Option Watch} {now : Time} (hnow : ∀ w ∈ watch, w.now = now)
    (observed : Job) (hactive : observed.isActiveWork = true) :
    Sound watch (reclaimOne repo now observed) := by
  have hlive := JobStatus.not_isTerminal_of_isActiveWork hactive
  refine Sound.bind (Sound.of_ok (fun s r t hs hrun => ?_)) (fun succeeded => ?_)
  · exact reconcileSucceeded_sound repo hs hlive (by simp) hrun
  · split
    · exact Sound.aside (Tx.Within.pure Aside.chains _)
    · refine Sound.bind (Sound.of_ok (fun s r t hs hrun => ?_)) (fun conflict => ?_)
      · exact reconcileConflict_sound repo hnow hs (by simp) hrun
      · split
        · exact Sound.aside (Tx.Within.pure Aside.chains _)
        · apply Sound.of_ok
          intro s a t hs hrun
          obtain ⟨reclaimed, u, hupdate, hrest⟩ := Tx.run_bind_ok hrun
          cases reclaimed with
          | none =>
            cases hrest
            rw [updateJob_none hupdate]
            exact hs
          | some reclaimed =>
            obtain ⟨j, hj, hc, rfl, rfl⟩ := updateJob_some hupdate
            simp only [Bool.and_eq_true, decide_eq_true_eq] at hc
            obtain ⟨_, v, hcancel, hrest⟩ := Tx.run_bind_ok hrest
            obtain ⟨_, w, hpass, hrest⟩ := Tx.run_bind_ok hrest
            have hmid := Aside.of_outside ((outside_cancelAttachedRun _ _ _).ends hcancel)
            have hw : ProbeState watch none w :=
              ProbeState.finish (laneFailure_action hnow _ true) .inl hs hj hc.1.1.1
                (hc.1.1.2 ▸ hlive) (sameScope_expired now j) (.inl rfl) (by simp) hmid hpass
            refine hw.aside (Tx.Within.ends (m := if _ then _ else _) ?_ hrest)
            split
            · exact aside_outside (outside_finalizeSubscription _ _ _ _ _)
            · exact Tx.Within.pure Aside.chains _

theorem sound_reclaimExpiredSync {watch : Option Watch} {now : Time}
    (hnow : ∀ w ∈ watch, w.now = now) (jobId : Option String) :
    Sound watch (reclaimExpiredSync repo now jobId) := by
  apply Sound.of_ok
  intro s a t hs hrun
  have hrun' : Tx.forEach (reclaimOne repo now) (expiredJobs s now jobId) s = (.ok a, t) := hrun
  refine Sound.ok (Tx.Triple.forEach _ (fun j hj => sound_reclaimOne repo hnow j ?_)) hs hrun'
  have hmem := List.mem_of_mem_take hj
  rw [List.mem_mergeSort, List.mem_filter] at hmem
  simp only [Bool.and_eq_true] at hmem
  exact hmem.2.1.1.2

theorem requeue_live {s : JobStatus} (h : s.isRequeue = true) : s.isTerminal = false := by
  cases s <;> first | rfl | cases h

/-- A retry that is due holds no lane. -/
theorem sound_requeueDueSync {watch : Option Watch} {now : Time}
    (hnow : ∀ w ∈ watch, w.now = now) (jobId : Option String) :
    Sound watch (requeueDueSync repo now jobId) := by
  refine Sound.bind (Sound.aside (Tx.Within.read Aside.chains _)) (fun conflicts => ?_)
  refine Sound.bind ?_ (fun _ => ?_)
  · refine Tx.Triple.forEach conflicts (fun j _ => ?_)
    refine Sound.bind (Sound.of_ok (fun s r t hs hrun => ?_)) (fun _ => ?_)
    · exact reconcileConflict_sound repo hnow hs (by simp) hrun
    · exact Sound.aside (Tx.Within.pure Aside.chains _)
  · refine Sound.of_ok (fun s a t hs hrun => ?_)
    cases hrun
    refine hs.update (fun j hp => ?_)
    simp only [Bool.and_eq_true] at hp
    exact ⟨⟨rfl, rfl, rfl, rfl, rfl, rfl, rfl⟩, rfl, requeue_live hp.1.1.1.1.2, rfl⟩

/-! ## Operations behind a lease -/

theorem Stored.isSync {s : Db} {p : Presented} {now : Time} {j : Job} (h : Stored s p now j) :
    j.isSync = true := by
  have hl := h.leased
  simp only [Job.isLeased, Bool.and_eq_true] at hl
  exact hl.1

theorem Stored.live {s : Db} {p : Presented} {now : Time} {j : Job} (h : Stored s p now j) :
    j.status.isTerminal = false := by
  have hl := h.leased
  simp only [Job.isLeased, Bool.and_eq_true] at hl
  exact JobStatus.not_isTerminal_of_isActiveWork hl.2

/-- An update that keeps the job live needs no pass. -/
theorem ProbeState.renew {watch : Option Watch} {id : String} {j : Job} {values : Job → Job}
    {s : Db} (h : ProbeState watch none s) (hj : s.jobs.get? id = some j) (hsync : j.isSync = true)
    (hlive : j.status.isTerminal = false) (hscope : SameScope j (values j))
    (hrun : (values j).runId = j.runId ∨ RunAttached s (updatedRow values j))
    (hlive' : (values j).status.isTerminal = false) :
    ProbeState watch none (s.setJob id values) :=
  h.setJob hj hsync hlive hscope hrun (fun hend => by rw [hlive'] at hend; cases hend)

section Owned

variable {watch : Option Watch} {jobId workerId leaseToken : String} {now : Time}

/-- The holder of a lease moves its job among the live statuses. -/
theorem sound_ownedUpdate {p : Presented} {allowed : JobStatus → Bool} {values : Job → Job}
    (hallowed : ∀ x, allowed x = true → x.isActiveWork = true)
    (hscope : ∀ j, SameScope j (values j)) (hrun : ∀ j, (values j).runId = j.runId)
    (hlive : ∀ j, j.status.isTerminal = false → (values j).status.isTerminal = false) :
    Sound watch (ownedUpdate p.jobId p.workerId p.leaseToken allowed values now) := by
  apply Sound.of_ok
  intro s job t hs hupdate
  obtain ⟨j, hj, _, rfl⟩ := ownedUpdate_ok hallowed hupdate
  exact hs.renew hj.row hj.isSync hj.live (hscope j) (.inl (hrun j)) (hlive j hj.live)

theorem sound_ofExcept {α : Type} (x : Except SchedulerError α) :
    Sound watch (Tx.ofExcept x : Session α) :=
  Sound.aside (Tx.Within.ofExcept Aside.chains _)

theorem sound_getSyncJob (jobId : String) : Sound watch (getSyncJob jobId) :=
  Sound.aside (within_getSyncJob Aside.chains jobId)

theorem sound_start : Sound watch (start jobId workerId leaseToken now) := by
  refine Sound.bind (sound_ofExcept _) (fun p => ?_)
  refine Sound.bind (sound_getSyncJob _) (fun _ => ?_)
  refine Sound.bind ?_ (fun _ => sound_ofExcept _)
  exact sound_ownedUpdate active_of_claimed (fun _ => ⟨rfl, rfl, rfl, rfl, rfl, rfl, rfl⟩)
    (fun _ => rfl) (fun _ _ => rfl)

theorem sound_heartbeat (leaseSeconds : Int) :
    Sound watch (heartbeat jobId workerId leaseToken leaseSeconds now) := by
  refine Sound.bind (sound_ofExcept _) (fun p => ?_)
  refine Sound.bind (sound_ofExcept _) (fun lease => ?_)
  refine Sound.bind (sound_getSyncJob _) (fun _ => ?_)
  refine Sound.bind (sound_ofExcept _) (fun expiresAt => ?_)
  refine Sound.bind ?_ (fun _ => sound_ofExcept _)
  exact sound_ownedUpdate active_of_running (fun _ => ⟨rfl, rfl, rfl, rfl, rfl, rfl, rfl⟩)
    (fun _ => rfl) (fun _ h => h)

theorem sound_assertOwned : Sound watch (assertOwned jobId workerId leaseToken now) := by
  refine Sound.bind (sound_ofExcept _) (fun p => ?_)
  refine Sound.bind ?_ (fun _ => sound_ofExcept _)
  exact sound_ownedUpdate active_of_running (fun j => SameScope.refl j) (fun _ => rfl)
    (fun _ h => h)

/-- The attached run belongs to the subscription of the job. -/
theorem sound_attachRun (runId : String) (expected : Option String) :
    Sound watch (attachRun jobId workerId leaseToken runId expected now) := by
  apply Sound.of_ok
  intro s claim t hs hrun
  obtain ⟨p, hp, hrun⟩ := Tx.run_bind_ofExcept hrun
  obtain ⟨runId, _, hrun⟩ := Tx.run_bind_ofExcept hrun
  obtain ⟨expected, _, hrun⟩ := Tx.run_bind_ofExcept hrun
  obtain ⟨_, u, hassert, hrun⟩ := Tx.run_bind_ok hrun
  have hu := sound_assertOwned.ok hs hassert
  obtain ⟨q, hq, hassert⟩ := Tx.run_bind_ofExcept hassert
  rw [presented_again hp] at hq
  cases hq
  obtain ⟨guarded, v, hupdate, hclaim⟩ := Tx.run_bind_ok hassert
  obtain ⟨j, hj, _, hv⟩ := ownedUpdate_ok active_of_running hupdate
  have huv := (Tx.run_ofExcept_ok hclaim).2
  obtain ⟨job, hjob, hrun⟩ := Tx.run_bind_read (within_getSyncJob Tx.ReadOnly.chains _) hrun
  obtain ⟨_, hget, hsync⟩ := getSyncJob_ok hjob
  obtain ⟨_, hrun⟩ := Tx.run_bind_require hrun
  unfold getRun at hrun
  rw [Tx.run_read_bind] at hrun
  obtain ⟨hscope, hrun⟩ := Tx.run_bind_require hrun
  rw [Tx.run_read_bind] at hrun
  obtain ⟨_, hrun⟩ := Tx.run_bind_require hrun
  rw [Tx.run_read_bind] at hrun
  obtain ⟨_, hrun⟩ := Tx.run_bind_require hrun
  obtain ⟨_, w, hset, hrun⟩ := Tx.run_bind_ok hrun
  cases hset
  have hlive : job.status.isTerminal = false := by
    rw [huv, hv, Db.get?_setJob, if_pos rfl, hj.row] at hget
    cases hget
    exact hj.live
  have hattached : RunAttached u (updatedRow (attachedValues runId now) job) := by
    intro k hk
    cases hk
    rw [Option.any_eq_true] at hscope
    obtain ⟨r, hr, hsub⟩ := hscope
    exact ⟨r, hr, of_decide_eq_true hsub⟩
  have hw : ProbeState watch none (u.setJob p.jobId (attachedValues runId now)) :=
    hu.renew hget hsync hlive ⟨rfl, rfl, rfl, rfl, rfl, rfl, rfl⟩ (.inr hattached) hlive
  obtain ⟨_, _, hrun⟩ := Tx.run_bind_read (within_getSyncJob Tx.ReadOnly.chains _) hrun
  rw [(Tx.run_ofExcept_ok hrun).2]
  exact hw

/-- The result run of a finalizer is the job's own or none. -/
theorem validatedResultRunId_ok {job : Job} {runId r : Option String} {explicit : Bool} {s t : Db}
    (h : validatedResultRunId job runId explicit s = (.ok r, t)) :
    r = none ∨ ∃ id run, r = some id ∧ s.runs.get? id = some run ∧
      some run.subscriptionId = job.subscriptionId := by
  unfold validatedResultRunId at h
  cases runId with
  | none =>
    cases h
    exact .inl rfl
  | some id =>
    dsimp only at h
    obtain ⟨_, h⟩ := Tx.run_bind_require h
    unfold getRun at h
    rw [Tx.run_read_bind] at h
    cases hrun : s.runs.get? id with
    | none =>
      rw [hrun] at h
      cases h
    | some run =>
      rw [hrun] at h
      dsimp only at h
      obtain ⟨hscope, h⟩ := Tx.run_bind_require h
      obtain ⟨_, h⟩ := Tx.run_bind_require h
      cases h
      exact .inr ⟨id, run, rfl, hrun, of_decide_eq_true hscope⟩

theorem runAttached_result {s : Db} {j j' : Job} {r : Option String} (hj : JobRow s j)
    (hr : r = none ∨ ∃ id run, r = some id ∧ s.runs.get? id = some run ∧
      some run.subscriptionId = j.subscriptionId)
    (hrun : j'.runId = (r <|> j.runId)) (hsub : j'.subscriptionId = j.subscriptionId) :
    RunAttached s j' := by
  intro id hid
  rw [hrun] at hid
  rcases hr with rfl | ⟨k, run, rfl, hget, hscope⟩
  · obtain ⟨run, hget, hscope⟩ := hj.run id hid
    exact ⟨run, hget, by rw [hsub]; exact hscope⟩
  · cases hid
    exact ⟨run, hget, by rw [hsub]; exact hscope⟩

theorem Stored.attached_result {s : Db} {p : Presented} {j observed : Job} {r : Option String}
    (h : Stored s p now j) (hs : ProbeState watch none s)
    (hget : s.jobs.get? p.jobId = some observed)
    (hr : r = none ∨ ∃ id run, r = some id ∧ s.runs.get? id = some run ∧
      some run.subscriptionId = observed.subscriptionId) {j' : Job}
    (hrun : j'.runId = (r <|> j.runId)) (hsub : j'.subscriptionId = j.subscriptionId) :
    RunAttached s j' := by
  have hrow := h.row
  rw [hget] at hrow
  cases hrow
  exact runAttached_result (hs.jobs _ _ h.row h.isSync) hr hrun hsub

/-- A success ends the job and passes over its lanes. -/
theorem sound_succeed (runId : Option String) :
    Sound none (succeed repo jobId workerId leaseToken runId now) := by
  apply Sound.of_ok
  intro s a t hs hrun
  obtain ⟨p, _, hrun⟩ := Tx.run_bind_ofExcept hrun
  obtain ⟨_, _, hrun⟩ := Tx.run_bind_ofExcept hrun
  obtain ⟨observed, hobserved, hrun⟩ :=
    Tx.run_bind_read (within_getSyncJob Tx.ReadOnly.chains _) hrun
  have hget := (getSyncJob_ok hobserved).2.1
  obtain ⟨runId, hvalid, hrun⟩ := Tx.run_bind_read (readOnly_validatedResultRunId _ _ _) hrun
  have hresult := validatedResultRunId_ok hvalid
  obtain ⟨reconciled, u, hconflict, hrun⟩ := Tx.run_bind_ok hrun
  cases reconciled with
  | some reconciled =>
    rw [(Tx.run_ofExcept_ok hrun).2]
    exact reconcileConflict_sound repo (by simp) hs (by simp) hconflict
  | none =>
    cases reconcileConflict_none repo hconflict
    obtain ⟨completed, v, hupdate, hrun⟩ := Tx.run_bind_ok hrun
    obtain ⟨j, hj, rfl, rfl⟩ := ownedUpdate_ok active_of_running hupdate
    obtain ⟨_, v₁, hpass, hrun⟩ := Tx.run_bind_ok hrun
    obtain ⟨_, v₂, h₂, hrun⟩ := Tx.run_bind_ok hrun
    obtain ⟨_, v₃, h₃, hrun⟩ := Tx.run_bind_ok hrun
    rw [(Tx.run_ofExcept_ok hrun).2]
    have hv₁ : ProbeState none none v₁ :=
      ProbeState.finish (laneSuccess_action none _ now rfl) (fun _ => trivial) hs hj.row hj.isSync
        hj.live ⟨rfl, rfl, rfl, rfl, rfl, rfl, rfl⟩ (.inr (hj.attached_result hs hget hresult rfl rfl))
        (by simp) (Aside.chains.refl _) hpass
    have k₂ := (aside_outside (outside_finalizeSubscription repo _ _ _ _)).ends h₂
    have k₃ := (aside_enqueuePipeline repo _ _).ends h₃
    exact (hv₁.aside k₂).aside k₃

/-- A failure ends the job or leaves it live, and passes over its lanes. -/
theorem sound_fail (errorCode : String) (retryAt : Option Time) (affectsCircuit : Option Bool)
    (runId : Option String) :
    Sound none (fail repo jobId workerId leaseToken errorCode retryAt affectsCircuit runId
      now) := by
  apply Sound.of_ok
  intro s a t hs hrun
  obtain ⟨p, _, hrun⟩ := Tx.run_bind_ofExcept hrun
  obtain ⟨c, _, hrun⟩ := Tx.run_bind_ofExcept hrun
  obtain ⟨_, _, hrun⟩ := Tx.run_bind_ofExcept hrun
  obtain ⟨observed, hobserved, hrun⟩ :=
    Tx.run_bind_read (within_getSyncJob Tx.ReadOnly.chains _) hrun
  have hget := (getSyncJob_ok hobserved).2.1
  obtain ⟨runId, hvalid, hrun⟩ := Tx.run_bind_read (readOnly_validatedResultRunId _ _ _) hrun
  have hresult := validatedResultRunId_ok hvalid
  obtain ⟨reconciled, u, hconflict, hrun⟩ := Tx.run_bind_ok hrun
  cases reconciled with
  | some reconciled =>
    rw [(Tx.run_ofExcept_ok hrun).2]
    exact reconcileConflict_sound repo (by simp) hs (by simp) hconflict
  | none =>
    cases reconcileConflict_none repo hconflict
    obtain ⟨_, _, hrun⟩ := Tx.run_bind_read (readOnly_rejectFailure _ _) hrun
    obtain ⟨failed, v, hupdate, hrun⟩ := Tx.run_bind_ok hrun
    obtain ⟨j, hj, rfl, rfl⟩ := ownedUpdate_ok (fun _ hx => hx) hupdate
    obtain ⟨_, v₁, hpass, hrun⟩ := Tx.run_bind_ok hrun
    obtain ⟨_, v₂, h₂, hrun⟩ := Tx.run_bind_ok hrun
    rw [(Tx.run_ofExcept_ok hrun).2]
    have hv₁ : ProbeState none none v₁ :=
      ProbeState.finish (laneFailure_action (by simp) _ c.affectsCircuit) .inl hs hj.row hj.isSync
        hj.live ⟨rfl, rfl, rfl, rfl, rfl, rfl, rfl⟩ (.inr (hj.attached_result hs hget hresult rfl rfl))
        (by simp) (Aside.chains.refl _) hpass
    exact hv₁.aside ((aside_outside (outside_finalizeFailed repo _ _)).ends h₂)

/-- A wait keeps the job live and gives its probe back. -/
theorem sound_wait (status : WaitingStatus) (errorCode : String) (affectsCircuit : Option Bool)
    (runId : Option String) :
    Sound none (wait repo jobId workerId leaseToken status errorCode affectsCircuit runId
      now) := by
  apply Sound.of_ok
  intro s a t hs hrun
  obtain ⟨p, _, hrun⟩ := Tx.run_bind_ofExcept hrun
  obtain ⟨c, _, hrun⟩ := Tx.run_bind_ofExcept hrun
  obtain ⟨_, _, hrun⟩ := Tx.run_bind_ofExcept hrun
  obtain ⟨observed, hobserved, hrun⟩ :=
    Tx.run_bind_read (within_getSyncJob Tx.ReadOnly.chains _) hrun
  have hget := (getSyncJob_ok hobserved).2.1
  obtain ⟨runId, hvalid, hrun⟩ := Tx.run_bind_read (readOnly_validatedResultRunId _ _ _) hrun
  have hresult := validatedResultRunId_ok hvalid
  obtain ⟨reconciled, u, hconflict, hrun⟩ := Tx.run_bind_ok hrun
  cases reconciled with
  | some reconciled =>
    rw [(Tx.run_ofExcept_ok hrun).2]
    exact reconcileConflict_sound repo (by simp) hs (by simp) hconflict
  | none =>
    cases reconcileConflict_none repo hconflict
    obtain ⟨_, _, hrun⟩ := Tx.run_bind_read (readOnly_rejectFailure _ _) hrun
    obtain ⟨waiting, v, hupdate, hrun⟩ := Tx.run_bind_ok hrun
    obtain ⟨j, hj, rfl, rfl⟩ := ownedUpdate_ok (fun _ hx => hx) hupdate
    obtain ⟨_, v₁, hpass, hrun⟩ := Tx.run_bind_ok hrun
    rw [(Tx.run_ofExcept_ok hrun).2]
    exact ProbeState.finish (laneFailure_action (by simp) _ c.affectsCircuit) .inl hs hj.row
      hj.isSync hj.live ⟨rfl, rfl, rfl, rfl, rfl, rfl, rfl⟩ (.inr (hj.attached_result hs hget hresult rfl rfl))
      (by simp) (Aside.chains.refl _) hpass

end Owned

theorem waiting_live {s : JobStatus} (h : s.isWaiting = true) : s.isTerminal = false := by
  cases s <;> first | rfl | cases h

theorem sound_requireActiveScope {watch : Option Watch} (id : Option String) :
    Sound watch (requireActiveScope id) := by
  have hR := Aside.chains
  apply Sound.aside
  cases id with
  | none => exact Tx.Within.pure hR _
  | some subscriptionId =>
    exact Tx.Within.bind hR (within_requireActive hR _) (fun _ => Tx.Within.pure hR _)

theorem sound_resume (jobId : String) (now : Time) : Sound none (resume repo jobId now) := by
  refine Sound.bind (sound_ofExcept _) (fun id => ?_)
  refine Sound.bind (sound_getSyncJob _) (fun observed => ?_)
  refine Sound.bind (sound_requireActiveScope _) (fun _ => ?_)
  refine Sound.bind ?_ (fun reconciled => ?_)
  · unfold reconcileWaiting
    split
    · exact Sound.of_ok (fun s r t hs hrun =>
        reconcileConflict_sound repo (by simp) hs (by simp) hrun)
    · exact Sound.aside (Tx.Within.pure Aside.chains _)
  · cases reconciled with
    | some reconciled => exact sound_ofExcept _
    | none =>
      apply Sound.of_ok
      intro s a t hs hrun
      obtain ⟨resumed, u, hupdate, hrun⟩ := Tx.run_bind_ok hrun
      cases resumed with
      | none => cases hrun
      | some resumed =>
        obtain ⟨j, hj, hc, rfl, rfl⟩ := updateJob_some hupdate
        simp only [Bool.and_eq_true] at hc
        obtain ⟨_, v, hpass, hrun⟩ := Tx.run_bind_ok hrun
        rw [(Tx.run_ofExcept_ok hrun).2]
        exact ProbeState.finish (laneRelease_action _ now false) (fun _ => trivial) hs hj hc.1
          (waiting_live hc.2) ⟨rfl, rfl, rfl, rfl, rfl, rfl, rfl⟩ (.inl rfl) (by simp)
          (Aside.chains.refl _) hpass

theorem sound_resumeAll (now : Time) (ids : List String) (n : Nat) :
    Sound none (resumeAll repo now ids n) := by
  induction ids generalizing n with
  | nil => exact Sound.aside (Tx.Within.pure Aside.chains _)
  | cons id rest ih => exact Sound.bind (sound_resume repo _ _) (fun _ => ih _)

theorem sound_resumeWaitingAuth (accountId : String) (now : Time) :
    Sound none (resumeWaitingAuthForAccount repo accountId now) := by
  have hR := Aside.chains
  refine Sound.bind (Sound.aside (Tx.Within.require hR _ _)) (fun _ => ?_)
  refine Sound.bind (Sound.aside (Tx.Within.read hR _)) (fun jobs => ?_)
  exact sound_resumeAll repo _ _ _

theorem sound_cancelled {observed : Job} {now : Time} {lockedLanes : Option (List String)}
    {s u t : Db} (hs : ProbeState none none s) (hj : s.jobs.get? observed.id = some observed)
    (hsync : observed.isSync = true) (hlive : observed.status.isTerminal = false)
    (hcover : ∀ ids ∈ lockedLanes, Covers s ids observed.id)
    (hmid : Aside (s.setJob observed.id (cancelledValues now)) u)
    (hpass : releaseLaneProbe repo.uuid (updatedRow (cancelledValues now) observed) now false
      lockedLanes u = (.ok (), t)) : ProbeState none none t :=
  ProbeState.finish (laneRelease_action _ now false) (fun _ => trivial) hs hj hsync hlive
    ⟨rfl, rfl, rfl, rfl, rfl, rfl, rfl⟩ (.inl rfl) hcover hmid hpass

theorem sound_cancel (jobId : String) (now : Time) : Sound none (cancel repo jobId now) := by
  refine Sound.bind (sound_ofExcept _) (fun id => ?_)
  refine Sound.bind (sound_getSyncJob _) (fun observed => ?_)
  split
  · exact sound_ofExcept _
  · rename_i hactive
    have hlive : observed.status.isTerminal = false := by simpa using hactive
    refine Sound.bind (Sound.of_ok (fun s r t hs hrun => ?_)) (fun succeeded => ?_)
    · exact reconcileSucceeded_sound repo hs hlive (by simp) hrun
    · cases succeeded with
      | some succeeded => exact sound_ofExcept _
      | none =>
        refine Sound.bind (Sound.of_ok (fun s r t hs hrun => ?_)) (fun conflict => ?_)
        · exact reconcileConflict_sound repo (by simp) hs (by simp) hrun
        · cases conflict with
          | some conflict => exact sound_ofExcept _
          | none =>
            apply Sound.of_ok
            intro s a t hs hrun
            obtain ⟨cancelled, u, hupdate, hrun⟩ := Tx.run_bind_ok hrun
            cases cancelled with
            | none =>
              obtain ⟨_, _, hrun⟩ := Tx.run_bind_read (within_getSyncJob Tx.ReadOnly.chains _) hrun
              rw [(Tx.run_ofExcept_ok hrun).2, updateJob_none hupdate]
              exact hs
            | some cancelled =>
              obtain ⟨j, hj, hc, rfl, rfl⟩ := updateJob_some hupdate
              simp only [Bool.and_eq_true, Bool.not_eq_true'] at hc
              obtain ⟨_, v, hrunCancel, hrun⟩ := Tx.run_bind_ok hrun
              obtain ⟨_, w, hpass, hrun⟩ := Tx.run_bind_ok hrun
              obtain ⟨_, x, hfinal, hrun⟩ := Tx.run_bind_ok hrun
              rw [(Tx.run_ofExcept_ok hrun).2]
              have hid := Job.get?_id hj
              have hmid := (aside_outside (outside_cancelAttachedRun _ _ _)).ends hrunCancel
              rw [← hid] at hj hmid
              have hw := sound_cancelled repo hs hj hc.1 hc.2 (by simp) hmid hpass
              exact hw.aside ((aside_outside (outside_finalizeSubscription repo _ _ _ _)).ends hfinal)

/-! ## Removal -/

/-- The lanes that removal looks up cover what the job holds. -/
theorem removalLanes_covers {watch : Option Watch} {free : Option String} {s : Db}
    {job row : Job} (h : ProbeState watch free s) (hj : s.jobs.get? job.id = some row)
    (hscope : SameScope job row) : Covers s (removalLanes s job) job.id where
  held l hl hhold := by
    obtain ⟨j, hj', hsync, _, hcounts, _⟩ := h.holders l hl job.id hhold
    rw [hj] at hj'
    cases hj'
    unfold removalLanes
    rw [List.mem_map]
    refine ⟨l, ?_, rfl⟩
    rw [List.mem_mergeSort, List.mem_filter]
    refine ⟨hl, ?_⟩
    have hplatform := hscope.platform
    have haccount := hscope.accountId
    cases hls : l.scopeType with
    | platform =>
      have hp : row.platform = some l.platform := by
        simpa [SchedulerLane.counts, hls] using hcounts
      simp [laneOfJob, hls, ← hplatform, hp]
    | account =>
      obtain ⟨accountId, platform, account, hacc, hplat, hget, hfit⟩ :=
        (h.jobs _ _ hj hsync).scope
      obtain ⟨a, account', hla, hget', hfit'⟩ := (h.lanes l hl).accountLane hls
      have ha : row.accountId = l.accountId := by
        have hc : l.accountId.isSome = true ∧ row.accountId = l.accountId := by
          simpa [SchedulerLane.counts, hls] using hcounts
        exact hc.2
      have hsame : a = accountId := by
        rw [hla, hacc] at ha
        exact (Option.some.inj ha).symm
      subst hsame
      rw [hget] at hget'
      cases hget'
      simp [laneOfJob, ← haccount, ha, ← hplatform, hplat, ← hfit, hfit']
  present id hid := by
    unfold removalLanes at hid
    rw [List.mem_map] at hid
    obtain ⟨l, hl, rfl⟩ := hid
    rw [List.mem_mergeSort, List.mem_filter] at hl
    exact ⟨l, Table.get?_of_mem hl.1⟩

theorem cancelUnstarted_sound {jobId : String} {now : Time} {lanes : List String} {s t : Db}
    {a : SchedulerJobSummary} (hs : ProbeState none none s) (hcover : Covers s lanes jobId)
    (hrun : cancelUnstartedForRemoval repo jobId now lanes s = (.ok a, t)) :
    ProbeState none none t := by
  obtain ⟨observed, hobserved, hrun⟩ :=
    Tx.run_bind_read (within_getSyncJob Tx.ReadOnly.chains _) hrun
  obtain ⟨_, hget, hsync⟩ := getSyncJob_ok hobserved
  have hid := Job.get?_id hget
  rw [Tx.run_read_bind] at hrun
  obtain ⟨_, hrun⟩ := Tx.run_bind_require hrun
  obtain ⟨hcancellable, hrun⟩ := Tx.run_bind_require hrun
  have hlive := isCancellable_active hcancellable
  have hcover' : ∀ ids ∈ some lanes, Covers s ids observed.id := by
    intro ids hids
    cases hids
    rw [hid]
    exact hcover
  obtain ⟨succeeded, u, hsucceeded, hrun⟩ := Tx.run_bind_ok hrun
  cases succeeded with
  | some succeeded =>
    rw [(Tx.run_ofExcept_ok hrun).2]
    exact reconcileSucceeded_sound repo hs hlive hcover' hsucceeded
  | none =>
    cases reconcileSucceeded_none repo hsucceeded
    obtain ⟨conflict, v, hconflict, hrun⟩ := Tx.run_bind_ok hrun
    cases conflict with
    | some conflict =>
      rw [(Tx.run_ofExcept_ok hrun).2]
      exact reconcileConflict_sound repo (by simp) hs hcover' hconflict
    | none =>
      cases reconcileConflict_none repo hconflict
      obtain ⟨_, w, hset, hrun⟩ := Tx.run_bind_ok hrun
      cases hset
      obtain ⟨cancelled, hcancelled, hrun⟩ :=
        Tx.run_bind_read (within_getSyncJob Tx.ReadOnly.chains _) hrun
      have hrow := (getSyncJob_ok hcancelled).2.1
      rw [Db.get?_setJob, if_pos rfl, hget] at hrow
      obtain ⟨_, x, hpass, hrun⟩ := Tx.run_bind_ok hrun
      rw [(Tx.run_ofExcept_ok hrun).2]
      subst hid
      cases hrow
      exact sound_cancelled repo hs hget hsync hlive hcover' (Aside.chains.refl _) hpass

/-- No operation but the coordinator's repair rewrites a job's scope. -/
def ScopeKept (j j' : Job) : Prop := j.isSync = true → SameScope j j'

theorem scopeKept_accepts : Accepts ScopeKept (fun _ => True) where
  refl j _ := SameScope.refl j
  trans i j k hij hjk hsync := by
    obtain ⟨a₁, a₂, a₃, a₄, a₅, a₆, a₇⟩ := hij hsync
    obtain ⟨b₁, b₂, b₃, b₄, b₅, b₆, b₇⟩ := hjk ((hij hsync).isSync.trans hsync)
    exact ⟨b₁.trans a₁, b₂.trans a₂, b₃.trans a₃, b₄.trans a₄, b₅.trans a₅, b₆.trans a₆,
      b₇.trans a₇⟩
  added _ _ _ _ := trivial
  cycle _ _ _ _ _ _ _ _ := trivial
  coordinator _ _ _ _ _ _ _ _ := trivial
  repaired _ _ _ _ _ _ _ h hsync := by
    rw [h] at hsync
    cases hsync
  settled _ _ _ _ _ _ := ⟨rfl, rfl, rfl, rfl, rfl, rfl, rfl⟩
  conflict _ _ _ _ _ _ := ⟨rfl, rfl, rfl, rfl, rfl, rfl, rfl⟩
  expired _ _ _ _ _ := ⟨rfl, rfl, rfl, rfl, rfl, rfl, rfl⟩
  requeued _ _ _ _ _ := ⟨rfl, rfl, rfl, rfl, rfl, rfl, rfl⟩
  invalid _ _ _ _ _ := ⟨rfl, rfl, rfl, rfl, rfl, rfl, rfl⟩
  started _ _ _ _ _ := ⟨rfl, rfl, rfl, rfl, rfl, rfl, rfl⟩
  renewed _ _ _ _ _ _ := ⟨rfl, rfl, rfl, rfl, rfl, rfl, rfl⟩
  attached _ _ _ _ _ := ⟨rfl, rfl, rfl, rfl, rfl, rfl, rfl⟩
  completed _ _ _ _ _ _ := ⟨rfl, rfl, rfl, rfl, rfl, rfl, rfl⟩
  failed _ _ _ _ _ _ _ _ _ := ⟨rfl, rfl, rfl, rfl, rfl, rfl, rfl⟩
  waiting _ _ _ _ _ _ _ _ := ⟨rfl, rfl, rfl, rfl, rfl, rfl, rfl⟩
  resumed _ _ _ _ _ := ⟨rfl, rfl, rfl, rfl, rfl, rfl, rfl⟩
  cancelled _ _ _ _ := ⟨rfl, rfl, rfl, rfl, rfl, rfl, rfl⟩

/-- The jobs are rows of the table, up to what operations rewrite. -/
def KnownJobs (db : Db) (jobs : List Job) : Prop :=
  ∀ j ∈ jobs, ∃ row, db.jobs.get? j.id = some row ∧ (j.isSync = true → SameScope j row)

theorem KnownJobs.after {s t : Db} {jobs : List Job} (h : KnownJobs s jobs)
    (k : JobSteps ScopeKept (fun _ => True) s t) : KnownJobs t jobs := by
  intro j hj
  obtain ⟨row, hrow, hscope⟩ := h j hj
  obtain ⟨row', hrow', hkept⟩ := k.kept _ _ hrow
  refine ⟨row', hrow', fun hsync => ?_⟩
  exact scopeKept_accepts.trans j row row' hscope hkept hsync

theorem cancelForRemoval_sound {now : Time} {jobs : List Job} {n m : Nat} {s t : Db}
    (hs : ProbeState none none s) (hknown : KnownJobs s jobs)
    (hrun : cancelForRemoval repo now jobs n s = (.ok m, t)) : ProbeState none none t := by
  induction jobs generalizing s n with
  | nil =>
    cases hrun
    exact hs
  | cons job rest ih =>
    have hrest : KnownJobs s rest := fun j hj => hknown j (List.mem_cons_of_mem job hj)
    unfold cancelForRemoval at hrun
    split at hrun
    · exact ih hs hrest hrun
    · rename_i hcancellable
      have hsync : job.isSync = true := by
        cases hsync : job.isSync with
        | true => rfl
        | false => simp [hsync] at hcancellable
      rw [Tx.run_read_bind] at hrun
      obtain ⟨result, u, hcancel, hrun⟩ := Tx.run_bind_ok hrun
      obtain ⟨row, hrow, hscope⟩ := hknown job List.mem_cons_self
      have hu := cancelUnstarted_sound repo hs
        (removalLanes_covers hs hrow (hscope hsync)) hcancel
      have hsteps := (steps_cancelUnstartedForRemoval scopeKept_accepts repo _ _ _).ends hcancel
      exact ih hu (hrest.after hsteps) hrun

theorem removalJobs_known (s : Db) (subscriptionId : String) :
    KnownJobs s (removalJobs s subscriptionId) := by
  intro j hj
  unfold removalJobs at hj
  rw [List.mem_mergeSort, List.mem_filter] at hj
  exact ⟨j, Table.get?_of_mem hj.1, fun _ => SameScope.refl j⟩

theorem rejectBusy_ok {subscription : Subscription} {s t : Db} {jobs : List Job}
    (h : rejectBusy repo subscription s = (.ok jobs, t)) :
    t = s ∧ jobs = removalJobs s subscription.id := by
  unfold rejectBusy at h
  rw [Tx.run_read_bind] at h
  obtain ⟨_, h⟩ := Tx.run_bind_require h
  rw [Tx.run_read_bind] at h
  obtain ⟨_, h⟩ := Tx.run_bind_require h
  cases h
  exact ⟨rfl, rfl⟩

theorem within_lockedSubscription {R : Db → Db → Prop} (hR : Tx.Chains R)
    (subscriptionId : String) : Tx.Within R (lockedSubscription subscriptionId) := by
  refine Tx.Within.bind hR (Tx.Within.require hR _ _) (fun _ => ?_)
  refine Tx.Within.bind hR (Tx.Within.read hR _) (fun subscription => ?_)
  cases subscription with
  | none => exact Tx.Within.throw hR _
  | some s => exact Tx.Within.pure hR _

theorem sound_remove (subscriptionId : String) (now : Time) :
    Sound none (remove repo subscriptionId now) := by
  apply Sound.of_ok
  intro s a t hs hrun
  obtain ⟨subscription, _, hrun⟩ :=
    Tx.run_bind_read (within_lockedSubscription Tx.ReadOnly.chains _) hrun
  split at hrun
  · cases hrun
    exact hs
  · obtain ⟨jobs, u, hbusy, hrun⟩ := Tx.run_bind_ok hrun
    obtain ⟨rfl, rfl⟩ := rejectBusy_ok repo hbusy
    obtain ⟨cancelled, v, hcancel, hrun⟩ := Tx.run_bind_ok hrun
    have hv := cancelForRemoval_sound repo hs (removalJobs_known _ _) hcancel
    rw [Tx.run_read_bind] at hrun
    obtain ⟨_, w, hset, hrun⟩ := Tx.run_bind_ok hrun
    cases hset
    obtain ⟨_, x, hset, hrun⟩ := Tx.run_bind_ok hrun
    cases hset
    cases hrun
    have hpending : Aside v { v with
        jobs := v.jobs.update (isPendingCoordinator v subscriptionId) (cancelledValues now)
          (by intro j; rfl) } := by
      refine Aside.of_pipelineWork (PipelineWork.update _ (fun j _ hp => ?_))
      simp only [isPendingCoordinator, Bool.and_eq_true, decide_eq_true_eq] at hp
      exact ⟨not_isSync_of_pipeline hp.1.2, not_isSync_of_pipeline hp.1.2⟩
    exact (hv.aside hpending).aside (Aside.of_jobs_eq rfl rfl rfl rfl)

theorem aside_rejectBusy (subscription : Subscription) :
    Tx.Within Aside (rejectBusy repo subscription) := by
  have hR := Aside.chains
  refine Tx.Within.bind hR (Tx.Within.read hR _) (fun jobs => ?_)
  refine Tx.Within.bind hR (Tx.Within.require hR _ _) (fun _ => ?_)
  refine Tx.Within.bind hR (Tx.Within.read hR _) (fun busy => ?_)
  exact Tx.Within.bind hR (Tx.Within.require hR _ _) (fun _ => Tx.Within.pure hR _)

theorem aside_restore (subscriptionId : String) (now : Time) :
    Tx.Within Aside (restore repo subscriptionId now) := by
  have hR := Aside.chains
  refine Tx.Within.bind hR (within_lockedSubscription hR _) (fun subscription => ?_)
  split
  · exact Tx.Within.require hR _ _
  · exact Tx.Within.bind hR (aside_rejectBusy repo _)
      (fun _ => aside_outside (outside_setSubscription _ _))

theorem aside_setSubscriptionSchedule (subscriptionId : String)
    (values : Subscription → Subscription) (now : Time) :
    Tx.Within Aside (setSubscriptionSchedule subscriptionId values now) := by
  have hR := Aside.chains
  refine Tx.Within.bind hR (Tx.Within.ofExcept hR _) (fun id => ?_)
  refine Tx.Within.bind hR (within_requireActive hR _) (fun _ => ?_)
  refine Tx.Within.bind hR (aside_outside (outside_updateSubscription _ _ _)) (fun _ => ?_)
  exact within_require? hR _ _

theorem updateLaneRow_some {id : String} {conditions : SchedulerLane → Bool}
    {values : SchedulerLane → SchedulerLane} {s t : Db} {r : Option SchedulerLane}
    (h : updateLaneRow id conditions values s = (.ok r, t)) :
    (r = none ∧ t = s) ∨ ∃ l, s.lanes.get? id = some l ∧ conditions l = true ∧
      r = some { values l with id := l.id } ∧ t = s.setLane id values := by
  unfold updateLaneRow at h
  simp only [Tx.run_modifyGet] at h
  cases hget : s.lanes.get? id with
  | none =>
    rw [hget] at h
    cases h
    exact .inl ⟨rfl, rfl⟩
  | some l =>
    rw [hget] at h
    by_cases hc : conditions l = true
    · simp only [hc, if_true, Prod.mk.injEq, Except.ok.injEq] at h
      obtain ⟨hr, rfl⟩ := h
      rw [Db.get?_setLane, if_pos rfl, hget] at hr
      exact .inr ⟨l, rfl, hc, hr.symm, rfl⟩
    · simp only [hc, Prod.mk.injEq] at h
      exact .inl ⟨(Except.ok.inj h.1).symm, h.2.symm⟩

theorem sound_updateLane {watch : Option Watch} (uuid : Nat → String) (policy : LanePolicy)
    (expectedRevision : Option Int) (now : Time) :
    Sound watch (updateLane uuid policy expectedRevision now) := by
  apply Sound.of_ok
  intro s a t hs hrun
  obtain ⟨expected, _, hrun⟩ := Tx.run_bind_ofExcept hrun
  obtain ⟨laneId, u, hensure, hrun⟩ := Tx.run_bind_ok hrun
  obtain ⟨hu, _, l, hl, _⟩ := ensureLane_ends hs hensure
  obtain ⟨lane, v, hheld, hrun⟩ := Tx.run_bind_ok hrun
  rw [heldLane_run hl] at hheld
  cases hheld
  have hkey : u.lanes.get? l.id = some l := Table.get?_of_mem (Table.get?_mem hl)
  obtain ⟨updated, w, hupdate, hrun⟩ := Tx.run_bind_ok hrun
  rcases updateLaneRow_some hupdate with ⟨rfl, _⟩ | ⟨l', hl', _, rfl, rfl⟩
  · cases hrun
  · cases hrun
    rw [hkey] at hl'
    cases hl'
    exact hu.setLane hkey (fun _ => ⟨rfl, rfl, rfl, rfl⟩) (hu.lanes l (Table.get?_mem hl)).shape
      policy.cooldown_range.1 (hu.holders l (Table.get?_mem hl)) (fun w _ _ hguard => .inl hguard)

theorem sound_resetLane (policy : LanePolicy) (expectedRevision : Option Int) (now : Time) :
    Sound none (resetLane policy expectedRevision now) := by
  apply Sound.of_ok
  intro s a t hs hrun
  obtain ⟨expected, _, hrun⟩ := Tx.run_bind_ofExcept hrun
  rw [Tx.run_read_bind] at hrun
  cases hfind : findLane s policy with
  | none =>
    rw [hfind] at hrun
    cases hrun
  | some lane =>
    rw [hfind] at hrun
    obtain ⟨reset, w, hupdate, hrun⟩ := Tx.run_bind_ok hrun
    rcases updateLaneRow_some hupdate with ⟨rfl, _⟩ | ⟨l, hl, _, rfl, rfl⟩
    · cases hrun
    · cases hrun
      exact hs.setLane hl (fun _ => ⟨rfl, rfl, rfl, rfl⟩) ⟨rfl, rfl⟩
        (hs.lanes l (Table.get?_mem hl)).cooldown nofun (by simp)

/-! ## Materialization -/

theorem ProbeState.inserted {watch : Option Watch} {s t : Db} {job r : Job}
    (h : ProbeState watch none s) (hrow : JobRow s job)
    (hrun : insertJob job s = (.ok r, t)) :
    ProbeState watch none t ∧ t.accounts = s.accounts := by
  unfold insertJob at hrun
  split at hrun
  · cases hrun
  · split at hrun
    · rename_i jobs hins
      cases hrun
      refine ⟨h.change rfl (AccountsKept.of_eq rfl) (RunsKept.refl s) (fun _ hf => hf) ?_ ?_, rfl⟩
      · intro id j hj hsync
        refine ⟨j, ?_, Moved.refl _ _ _ j⟩
        dsimp only
        rw [Table.get?_insert? hins]
        split
        · rename_i hid
          have hfresh := Table.insert?_fresh hins
          rw [hid, hj] at hfresh
          cases hfresh
        · exact hj
      · intro id j' hj' hsync
        dsimp only at hj'
        rw [Table.get?_insert? hins] at hj'
        split at hj'
        · cases hj'
          exact .inr (hrow.congr rfl rfl)
        · exact .inl ⟨j', hj', hsync⟩
    · cases hrun

theorem cycleJob_row {s : Db} {accountId : String} {platform : Platform} {account : Account}
    (hget : s.accounts.get? accountId = some account) (hfit : account.platform = platform)
    (id subscriptionId : String) (revision : Nat) (scheduledFor now : Time)
    (retry : RetryPolicy) :
    JobRow s (cycleJob id subscriptionId accountId platform revision scheduledFor now retry) where
  payload := ⟨_, parsePayload_schedulePayload rfl rfl rfl rfl⟩
  scope := ⟨accountId, platform, account, rfl, rfl, hget, hfit⟩
  run _ h := by cases h

theorem materializeCycle_sound {subscriptionId accountId : String} {platform : Platform}
    {revision : Nat} {scheduledFor now : Time} {retry : RetryPolicy} {dueOnly resumeBlocked : Bool}
    {watch : Option Watch} {s t : Db} {r : Option MaterializedCycle} {account : Account}
    (hs : ProbeState watch none s) (hget : s.accounts.get? accountId = some account)
    (hfit : account.platform = platform)
    (hrun : materializeCycle repo subscriptionId accountId platform revision scheduledFor now retry
      dueOnly resumeBlocked s = (.ok r, t)) :
    ProbeState watch none t ∧ t.accounts = s.accounts := by
  -- everything before the insertion happens outside jobs and lanes
  have hstep : ∀ {α : Type} {m : Session α} {u v : Db} {a : α}, Tx.Within Outside m →
      ProbeState watch none u ∧ u.accounts = s.accounts → m u = (.ok a, v) →
      ProbeState watch none v ∧ v.accounts = s.accounts := by
    intro α m u v a hm hu hrun
    have hout := hm.ends hrun
    exact ⟨hu.1.aside (Aside.of_outside hout), hout.accounts.trans hu.2⟩
  unfold materializeCycle getSubscription at hrun
  rw [Tx.run_read_bind] at hrun
  cases hsub : s.subscriptions.get? subscriptionId with
  | none =>
    rw [hsub] at hrun
    cases hrun
    exact ⟨hs, rfl⟩
  | some subscription =>
    rw [hsub] at hrun
    dsimp only at hrun
    split at hrun
    · cases hrun
      exact ⟨hs, rfl⟩
    · obtain ⟨bili, s₁, h₁, hrun⟩ := Tx.run_bind_ok hrun
      have k₁ := hstep (outside_ensureForMaterialization _ _ _ _ _ _ _ _) ⟨hs, rfl⟩ h₁
      obtain ⟨xhs, s₂, h₂, hrun⟩ := Tx.run_bind_ok hrun
      have k₂ := hstep (outside_ensureForMaterialization _ _ _ _ _ _ _ _) k₁ h₂
      obtain ⟨douyin, s₃, h₃, hrun⟩ := Tx.run_bind_ok hrun
      have k₃ := hstep (outside_ensureForMaterialization _ _ _ _ _ _ _ _) k₂ h₃
      obtain ⟨_, hrun⟩ := Tx.run_bind_require hrun
      split at hrun
      · cases hrun
        exact k₃
      · obtain ⟨claimed, s₄, h₄, hrun⟩ := Tx.run_bind_ok hrun
        have k₄ := hstep (outside_updateSubscription _ _ _) k₃ h₄
        cases claimed with
        | none =>
          cases hrun
          exact k₄
        | some claimed =>
          dsimp only at hrun
          obtain ⟨id, s₅, h₅, hrun⟩ := Tx.run_bind_ok hrun
          have k₅ := hstep (outside_newUuid _) k₄ h₅
          obtain ⟨job, s₆, h₆, hrun⟩ := Tx.run_bind_ok hrun
          cases hrun
          have hget' : s₅.accounts.get? accountId = some account := by rw [k₅.2]; exact hget
          obtain ⟨k₆, ha⟩ := k₅.1.inserted (cycleJob_row hget' hfit _ _ _ _ _ _) h₆
          exact ⟨k₆, ha.trans k₅.2⟩

theorem materializeCandidates_sound {batchLimit : Nat} {now : Time} {retry : RetryPolicy}
    {candidates : List (Subscription × Account)} {done r : List MaterializedCycle}
    {watch : Option Watch} {s t : Db} (hs : ProbeState watch none s)
    (haccounts : ∀ c ∈ candidates, s.accounts.get? c.1.accountId = some c.2)
    (hrun : materializeCandidates repo batchLimit now retry candidates done s = (.ok r, t)) :
    ProbeState watch none t := by
  induction candidates generalizing s done with
  | nil =>
    cases hrun
    exact hs
  | cons c rest ih =>
    obtain ⟨subscription, account⟩ := c
    unfold materializeCandidates at hrun
    split at hrun
    · cases hrun
      exact hs
    · obtain ⟨cycle, u, hcycle, hrun⟩ := Tx.run_bind_ok hrun
      obtain ⟨hu, ha⟩ := materializeCycle_sound repo hs
        (haccounts _ List.mem_cons_self) rfl hcycle
      refine ih hu (fun c hc => ?_) hrun
      rw [ha]
      exact haccounts c (List.mem_cons_of_mem _ hc)

theorem dueCandidates_accounts (s : Db) (now : Time) :
    ∀ c ∈ dueCandidates s now, s.accounts.get? c.1.accountId = some c.2 := by
  intro c hc
  have hmem := List.mem_of_mem_take hc
  rw [List.mem_mergeSort, List.mem_filter, List.mem_filterMap] at hmem
  obtain ⟨⟨subscription, _, hjoin⟩, _⟩ := hmem
  rw [Option.map_eq_some_iff] at hjoin
  obtain ⟨account, hget, rfl⟩ := hjoin
  exact hget

theorem sound_materializeDue {watch : Option Watch} (limit : Int) (now : Time)
    (retry : RetryPolicy) : Sound watch (materializeDue repo limit now retry) := by
  apply Sound.of_ok
  intro s a t hs hrun
  obtain ⟨batchLimit, _, hrun⟩ := Tx.run_bind_ofExcept hrun
  rw [Tx.run_read_bind] at hrun
  exact materializeCandidates_sound repo hs (dueCandidates_accounts s now) hrun

theorem sound_materializeOne {watch : Option Watch} (subscriptionId : String) (revision : Int)
    (now : Time) (retry : RetryPolicy) :
    Sound watch (materializeOne repo subscriptionId revision now retry) := by
  apply Sound.of_ok
  intro s a t hs hrun
  obtain ⟨id, _, hrun⟩ := Tx.run_bind_ofExcept hrun
  obtain ⟨revision, _, hrun⟩ := Tx.run_bind_ofExcept hrun
  obtain ⟨subscription, _, hrun⟩ := Tx.run_bind_read (within_requireActive Tx.ReadOnly.chains _) hrun
  obtain ⟨_, hrun⟩ := Tx.run_bind_require hrun
  obtain ⟨_, hrun⟩ := Tx.run_bind_require hrun
  rw [Tx.run_read_bind] at hrun
  obtain ⟨_, hrun⟩ := Tx.run_bind_require hrun
  unfold getAccount at hrun
  rw [Tx.run_read_bind] at hrun
  cases hacc : s.accounts.get? subscription.accountId with
  | none =>
    rw [hacc] at hrun
    cases hrun
  | some account =>
    rw [hacc] at hrun
    dsimp only at hrun
    rw [Tx.run_read_bind] at hrun
    generalize s.jobs.rows.filter _ = active at hrun
    match active, hrun with
    | [], hrun =>
      obtain ⟨cycle, u, hcycle, hrun⟩ := Tx.run_bind_ok hrun
      have haid : account.id = subscription.accountId := Table.get?_key hacc
      have hu := (materializeCycle_sound repo hs (haid ▸ hacc) rfl hcycle).1
      cases cycle with
      | none => cases hrun
      | some cycle =>
        cases hrun
        exact hu
    | [job], hrun =>
      cases hpayload : parsePayload job with
      | error e =>
        simp only [hpayload] at hrun
        cases hrun
      | ok payload =>
        cases hscheduled : job.scheduledFor with
        | none =>
          simp only [hpayload, hscheduled] at hrun
          cases hrun
        | some scheduledFor =>
          simp only [hpayload, hscheduled] at hrun
          obtain ⟨_, hrun⟩ := Tx.run_bind_require hrun
          cases hrun
          exact hs
    | _ :: _ :: _, hrun => cases hrun

end Operations

end MediaSync.Scheduler
