import MediaSync.Scheduler.ProbeSteps

/-!
# Claims and the probe invariant

The scan catches the errors of one candidate and retires it, so here the errors
matter: a candidate that holds a lane never fails before its lanes are free.
When a job is claimed, no lane that counts it is held by another job, and a
probe whose lane it entered has ended.
-/

namespace MediaSync.Scheduler

open Python Transaction SchedulerError SchedulerRepository

/-- Only one job's row may differ. -/
def JobsExcept (id : String) (s t : Db) : Prop := ∀ k, k ≠ id → t.jobs.get? k = s.jobs.get? k

theorem JobsExcept.chains (id : String) : Tx.Chains (JobsExcept id) where
  refl _ _ _ := rfl
  trans _ _ _ h k i hi := (k i hi).trans (h i hi)

theorem jobsExcept_outside {id : String} {α : Type} {m : Session α} (h : Tx.Within Outside m) :
    Tx.Within (JobsExcept id) m :=
  Tx.Within.mono (fun _ _ h _ _ => by rw [h.jobs]) h

theorem jobsExcept_laneWork {id : String} {α : Type} {m : Session α} (h : Tx.Within LaneWork m) :
    Tx.Within (JobsExcept id) m :=
  Tx.Within.mono (fun _ _ h _ _ => by rw [h.jobs]) h

theorem jobsExcept_updateJob (id : String) (conditions : Db → Job → Bool) (values : Job → Job) :
    Tx.Within (JobsExcept id) (updateJob id conditions values) := by
  apply Tx.Within.modifyGet
  intro db k hk
  cases hget : db.jobs.get? id with
  | none => rfl
  | some j =>
    dsimp only
    split
    · rw [Db.get?_setJob, if_neg hk]
    · rfl

section Claims

variable (repo : SchedulerRepository) {watch : Option Watch} {now : Time}

/-- An invalid candidate may be retired: it has ended, or it holds nothing. -/
def Retirable (db : Db) (jobId : String) : Prop := JobEnded db jobId ∨ Unheld db jobId

theorem terminalizeInvalid_sound {job : Job} {s t : Db} (hs : ProbeState watch none s)
    (hretire : Retirable s job.id)
    (hrun : terminalizeInvalidCandidate repo job now s = (.ok (), t)) :
    ProbeState watch none t := by
  obtain ⟨terminal, u, hupdate, hrun⟩ := Tx.run_bind_ok hrun
  cases terminal with
  | none =>
    cases hrun
    rw [updateJob_none hupdate]
    exact hs
  | some terminal =>
    obtain ⟨j, hj, hc, rfl, rfl⟩ := updateJob_some hupdate
    simp only [Bool.and_eq_true, decide_eq_true_eq] at hc
    have hu : ProbeState watch none (s.setJob job.id (invalidValues now)) := by
      refine hs.setJob hj hc.1 (by rw [hc.2]; rfl) ⟨rfl, rfl, rfl, rfl, rfl, rfl, rfl⟩ (.inl rfl)
        (fun _ => .inr ?_)
      rcases hretire with ⟨j', hj', _, hend⟩ | hfree
      · rw [hj] at hj'
        cases hj'
        rw [hc.2] at hend
        cases hend
      · exact hfree
    exact hu.aside (Aside.of_outside ((outside_finalizeSubscription repo _ _ _ _).ends hrun))

theorem jobsExcept_terminalizeInvalid (job : Job) (now : Time) :
    Tx.Within (JobsExcept job.id) (terminalizeInvalidCandidate repo job now) := by
  have hR := JobsExcept.chains job.id
  refine Tx.Within.bind hR (jobsExcept_updateJob _ _ _) (fun terminal => ?_)
  cases terminal with
  | none => exact Tx.Within.pure hR _
  | some terminal => exact jobsExcept_outside (outside_finalizeSubscription _ _ _ _ _)

/-! ## One candidate -/

/-- A candidate as the scan read it: its row is current and queued. -/
structure Candidate (db : Db) (job : Job) : Prop where
  row : db.jobs.get? job.id = some job
  isSync : job.isSync = true
  queued : job.status = .queued

theorem Candidate.live {db : Db} {job : Job} (h : Candidate db job) :
    job.status.isTerminal = false := by
  rw [h.queued]
  rfl

/-- The conflict reconciliation of a current row fails only after the job has
ended and its lanes are free. -/
theorem reconcileConflict_error {job : Job} {allowed : JobStatus → Bool} {ids : List String}
    {s t : Db} {e : SchedulerError} (hnow : ∀ w ∈ watch, w.now = now)
    (hs : ProbeState watch none s) (hjob : Candidate s job) (hcover : Covers s ids job.id)
    (hrun : reconcileOwnershipConflictAttachment repo job now false none allowed (some ids) s =
      (.error e, t)) : ProbeState watch none t ∧ JobEnded t job.id := by
  have hrow := hs.jobs _ _ hjob.row hjob.isSync
  unfold reconcileOwnershipConflictAttachment at hrun
  cases hid : job.runId with
  | none =>
    rw [hid] at hrun
    cases hrun
  | some runId =>
    obtain ⟨run, hget, hscope⟩ := hrow.run runId hid
    rw [hid] at hrun
    dsimp only at hrun
    rw [if_neg (by rw [hjob.live]; simp)] at hrun
    unfold getRun at hrun
    rw [Tx.run_read_bind, hget] at hrun
    dsimp only at hrun
    rw [Tx.run_bind, Tx.run_require, if_pos (decide_eq_true hscope)] at hrun
    dsimp only at hrun
    split at hrun
    · cases hrun
    · rename_i hconflict
      rw [not_or, not_not, not_not] at hconflict
      rcases Tx.run_bind_ends hrun with ⟨e', hupdate, _⟩ | ⟨reconciled, u, hupdate, hrun₁⟩
      · cases hupdate
      · cases reconciled with
        | none =>
          -- the row is the one that was read, so the update's conditions hold
          unfold updateJob at hupdate
          simp only [Tx.run_modifyGet, hjob.row] at hupdate
          rw [if_pos] at hupdate
          · rw [Db.get?_setJob, if_pos rfl, hjob.row] at hupdate
            cases hupdate
          · simp [hjob.isSync, hid, hasOwnershipConflictAttachment, hget, hscope, hconflict.1,
              hconflict.2]
        | some reconciled =>
          obtain ⟨j, hj, hc, rfl, rfl⟩ := updateJob_some hupdate
          rw [hjob.row] at hj
          cases hj
          have hcover' : ∀ ids' ∈ some ids,
              Covers (s.setJob job.id (conflictValues run.finishedAt now)) ids'
                (updatedRow (conflictValues run.finishedAt now) job).id := by
            intro ids' hids
            cases hids
            exact hcover.setJob _ _
          have hset : ProbeState watch (some job.id)
              (s.setJob job.id (conflictValues run.finishedAt now)) :=
            hs.setJob hjob.row hjob.isSync hjob.live (sameScope_conflict _ _ job) (.inl rfl)
              (fun _ => .inl rfl)
          have hupdated := Db.get?_updated hjob.row (conflictValues run.finishedAt now)
          rcases Tx.run_bind_ends hrun₁ with ⟨e', hpass, _⟩ | ⟨_, v, hpass, hrun₂⟩
          · obtain ⟨_, _, _, _, _, hmay⟩ :=
              hset.pass (laneFailure_action hnow _ false) hupdated hjob.isSync hcover' hpass
            rcases hmay e' rfl with hfalse | hfalse
            · cases hfalse
            · cases hfalse
          · obtain ⟨hv, hjobs, _, _, hfree, _⟩ :=
              hset.pass (laneFailure_action hnow _ false) hupdated hjob.isSync hcover' hpass
            have hvfree : ProbeState watch none v := hv.freed (hfree rfl (.inl rfl))
            have hended : JobEnded v job.id :=
              ⟨updatedRow (conflictValues run.finishedAt now) job, by rw [hjobs]; exact hupdated,
                hjob.isSync, rfl⟩
            rcases Tx.run_bind_ends hrun₂ with ⟨e', hfinal, _⟩ | ⟨_, w, _, hrun₃⟩
            · have hout := (outside_finalizeConflict repo _ _).ends hfinal
              refine ⟨hvfree.aside (Aside.of_outside hout), ?_⟩
              obtain ⟨j, hj, hsync, hend⟩ := hended
              exact ⟨j, hout.jobs ▸ hj, hsync, hend⟩
            · cases hrun₃

theorem jobsExcept_reconcileConflict (job : Job) (expiredOnly : Bool)
    (ownedBy : Option (String × String)) (allowed : JobStatus → Bool)
    (lockedLanes : Option (List String)) :
    Tx.Within (JobsExcept job.id) (reconcileOwnershipConflictAttachment repo job now expiredOnly
      ownedBy allowed lockedLanes) := by
  have hR := JobsExcept.chains job.id
  unfold reconcileOwnershipConflictAttachment
  split
  · exact Tx.Within.pure hR _
  · split
    · exact Tx.Within.pure hR _
    · refine Tx.Within.bind hR (Tx.Within.read hR _) (fun run => ?_)
      cases run with
      | none => exact Tx.Within.throw hR _
      | some run =>
        refine Tx.Within.bind hR (Tx.Within.require hR _ _) (fun _ => ?_)
        split
        · exact Tx.Within.pure hR _
        · refine Tx.Within.bind hR (jobsExcept_updateJob _ _ _) (fun reconciled => ?_)
          cases reconciled with
          | none =>
            cases ownedBy with
            | none => exact Tx.Within.throw hR _
            | some owner =>
              refine Tx.Within.bind hR (Tx.Within.read hR _) (fun current => ?_)
              cases current with
              | none => exact Tx.Within.throw hR _
              | some current =>
                dsimp only
                split
                · exact Tx.Within.throw hR _
                · exact Tx.Within.throw hR _
          | some reconciled =>
            refine Tx.Within.bind hR
              (jobsExcept_laneWork (LaneWork.closed.applyLaneFailure _ _ _ _ _)) (fun _ => ?_)
            refine Tx.Within.bind hR
              (jobsExcept_outside (outside_finalizeConflict repo _ _)) (fun _ => ?_)
            exact Tx.Within.pure hR _

theorem jobsExcept_candidateLanes (candidate : Job) :
    Tx.Within (JobsExcept candidate.id) (candidateLanes repo candidate now) := by
  have hR := JobsExcept.chains candidate.id
  refine Tx.Within.catching hR ?_ (fun _ => ?_)
  · refine Tx.Within.bind hR (Tx.Within.ofExcept hR _) (fun _ => ?_)
    refine Tx.Within.bind hR (jobsExcept_laneWork (LaneWork.closed.jobLanes _ _ _)) (fun lanes => ?_)
    refine Tx.Within.bind hR (jobsExcept_reconcileConflict repo _ _ _ _ _) (fun _ => ?_)
    exact Tx.Within.pure hR _
  · exact Tx.Within.bind hR (jobsExcept_terminalizeInvalid repo _ _)
      (fun _ => Tx.Within.pure hR _)

theorem Unheld.of_not_ready {free : Option String} {s : Db} {job : Job}
    (hs : ProbeState watch free s) (hrow : s.jobs.get? job.id = some job)
    (h : ¬ LanesReady s job) : Unheld s job.id := by
  intro l hl hhold
  obtain ⟨j, hj, _, _, _, hready⟩ := hs.holders l hl job.id hhold
  rw [hrow] at hj
  cases hj
  exact h hready

theorem Unheld.grown {s t : Db} {jobId : String} (h : Unheld s jobId) (k : Grown s t) :
    Unheld t jobId := by
  intro l hl hhold
  rcases k.fresh l hl with hm | hn
  · exact h l hm hhold
  · rw [hn] at hhold
    cases hhold

/-- A candidate's lanes, unless it was settled or retired. -/
theorem candidateLanes_sound {candidate : Job} {s t : Db} {r : Option (List String)}
    (hnow : ∀ w ∈ watch, w.now = now) (hs : ProbeState watch none s)
    (hjob : Candidate s candidate) (hrun : candidateLanes repo candidate now s = (.ok r, t)) :
    ProbeState watch none t ∧
      ∀ ids, r = some ids → JobLanes t candidate ids ∧ Candidate t candidate := by
  have hrow := hs.jobs _ _ hjob.row hjob.isSync
  -- from a retirable state the handler retires the candidate
  have hhandler : ∀ {u}, ProbeState watch none u → Retirable u candidate.id →
      (do terminalizeInvalidCandidate repo candidate now
          pure none : Session (Option (List String))) u = (.ok r, t) →
      ProbeState watch none t ∧
        ∀ ids, r = some ids → JobLanes t candidate ids ∧ Candidate t candidate := by
    intro u hu hretire hrun
    obtain ⟨_, v, hterminal, hrun⟩ := Tx.run_bind_ok hrun
    cases hrun
    exact ⟨terminalizeInvalid_sound repo hu hretire hterminal, nofun⟩
  unfold candidateLanes Tx.catching at hrun
  obtain ⟨payload, hpayload⟩ := hrow.payload
  rw [hpayload] at hrun
  split at hrun
  · rename_i a u hbody
    cases hrun
    obtain ⟨_, _, hbody⟩ := Tx.run_bind_ofExcept hbody
    obtain ⟨ids, v, hlanes, hbody⟩ := Tx.run_bind_ok hbody
    obtain ⟨hv, hgrown, hfound⟩ := jobLanes_ends hs hrow hlanes
    have hvjob : Candidate v candidate := ⟨hgrown.jobs ▸ hjob.row, hjob.isSync, hjob.queued⟩
    have hcover := hfound.covers hv hvjob.row rfl rfl
    obtain ⟨reconciled, w, hconflict, hbody⟩ := Tx.run_bind_ok hbody
    cases hbody
    have hw := reconcileConflict_sound repo hnow hv
      (by intro ids' hids; cases hids; exact hcover) hconflict
    refine ⟨hw, fun ids' hids => ?_⟩
    cases reconciled with
    | some reconciled => cases hids
    | none =>
      cases hids
      cases reconcileConflict_none repo hconflict
      exact ⟨hfound, hvjob⟩
  · rename_i e u hbody
    split at hrun
    · rcases Tx.run_bind_ends hbody with ⟨_, hok, _⟩ | ⟨_, _, hok, hbody₁⟩
      · cases hok
      · cases hok
        rcases Tx.run_bind_ends hbody₁ with ⟨_, hlanes, _⟩ | ⟨ids, v, hlanes, hbody₂⟩
        · obtain ⟨hu, hgrown, hnot⟩ := jobLanes_ends hs hrow hlanes
          exact hhandler hu (.inr ((Unheld.of_not_ready hs hjob.row hnot).grown hgrown)) hrun
        · obtain ⟨hv, hgrown, hfound⟩ := jobLanes_ends hs hrow hlanes
          have hvjob : Candidate v candidate :=
            ⟨hgrown.jobs ▸ hjob.row, hjob.isSync, hjob.queued⟩
          have hcover := hfound.covers hv hvjob.row rfl rfl
          rcases Tx.run_bind_ends hbody₂ with ⟨_, hconflict, _⟩ | ⟨_, _, _, hbody₃⟩
          · obtain ⟨hu, hended⟩ := reconcileConflict_error repo hnow hv hvjob hcover hconflict
            exact hhandler hu (.inl hended) hrun
          · cases hbody₃
    · cases hrun

/-! ## Claiming -/

/-- No lane of the job is held by another one. -/
def OwnLanes (db : Db) (job : Job) : Prop :=
  ∀ l ∈ db.lanes.rows, l.counts job = true → ∀ jobId, l.halfOpenJobId = some jobId → jobId = job.id

theorem ownLanes_of_allow {s : Db} {job : Job} {ids : List String} (hs : ProbeState watch none s)
    (hlanes : JobLanes s job ids) (hallow : lanesAllow s ids job.id now = true) :
    OwnLanes s job := by
  intro l hl hcounts jobId hhold
  have hmem := hlanes.all l hl hcounts
  unfold lanesAllow at hallow
  rw [List.all_eq_true] at hallow
  have hlane := hallow l.id hmem
  rw [Table.get?_of_mem hl] at hlane
  simp only [Option.any_some] at hlane
  have hopen := (hs.lanes l hl).shape.halfOpen hhold
  unfold laneAllows at hlane
  rw [hopen, hhold] at hlane
  split at hlane
  · cases hlane
  · split at hlane
    · cases hlane
    · simpa using hlane

/-- A watched probe in a lane that lets another job in has ended. -/
theorem ended_of_allow {s : Db} {job : Job} {ids : List String}
    (hnow : ∀ w ∈ watch, w.now = now) (hs : ProbeState watch none s)
    (hlanes : JobLanes s job ids) (hallow : lanesAllow s ids job.id now = true) :
    ∀ w ∈ watch, w.lane.counts job = true → w.jobId ≠ job.id → JobEnded s w.jobId := by
  intro w hw hcounts hne
  rcases hs.watched w hw with hend | ⟨l, hl, hsame, hguard⟩
  · exact hend
  · exfalso
    have hcounts' : l.counts job = true := by rw [hsame.counts]; exact hcounts
    have hmem := Table.get?_mem hl
    rcases hguard with ⟨_, hhold⟩ | ⟨hopen, u, huntil, hlater⟩
    · exact hne (ownLanes_of_allow hs hlanes hallow l hmem hcounts' w.jobId hhold)
    · unfold lanesAllow at hallow
      rw [List.all_eq_true] at hallow
      have hlane := hallow l.id (hlanes.all l hmem hcounts')
      rw [Table.get?_of_mem hmem] at hlane
      simp only [Option.any_some] at hlane
      unfold laneAllows at hlane
      rw [hopen, huntil] at hlane
      split at hlane
      · cases hlane
      · split at hlane
        · cases hlane
        · simp only [Option.any_some, decide_eq_true_eq] at hlane
          rw [hnow w hw] at hlater
          exact absurd hlane (Nat.not_le.mpr hlater)

/-- What the reservation of one lane writes. -/
def reservedLane (laneState : CircuitState) (jobId : String) (nextStartAt now : Time)
    (l : SchedulerLane) : SchedulerLane :=
  { l with
    nextStartAt := some nextStartAt
    revision := l.revision + 1
    updatedAt := now
    circuitState := if laneState = .opened then .halfOpen else l.circuitState
    circuitOpenUntil := none
    halfOpenJobId := if laneState = .closed then none else some jobId }

theorem reserveLane_ok {id jobId : String} {l : SchedulerLane} {s t : Db}
    (hl : s.lanes.get? id = some l) (hrun : reserveLane id jobId now s = (.ok (), t)) :
    t = s.setLane id (reservedLane l.circuitState jobId
      (now + l.minStartIntervalSeconds * 1000000) now) := by
  unfold reserveLane at hrun
  rw [Tx.run_bind, heldLane_run hl] at hrun
  dsimp only at hrun
  obtain ⟨nextStartAt, hnext, hrun⟩ := Tx.run_bind_ofExcept hrun
  obtain ⟨reserved, u, hupdate, hrun⟩ := Tx.run_bind_ok hrun
  have hid : l.id = id := Table.get?_key hl
  rcases updateLaneRow_some hupdate with ⟨rfl, _⟩ | ⟨l', hl', _, rfl, rfl⟩
  · cases hrun
  · cases hrun
    rw [hid, ← safeAdd_ok hnext]
    rfl

/-- Reserving the lanes of a live job keeps the state sound and the lanes its own. -/
theorem reserveLanes_sound {job : Job} {ids : List String} {s t : Db}
    (hs : ProbeState none none s) (hrow : s.jobs.get? job.id = some job)
    (hsync : job.isSync = true) (hlive : job.status.isTerminal = false)
    (hready : LanesReady s job)
    (honly : ∀ id ∈ ids, ∃ l, s.lanes.get? id = some l ∧ l.counts job = true)
    (hown : OwnLanes s job)
    (hrun : Tx.forEach (fun laneId => reserveLane laneId job.id now) ids s = (.ok (), t)) :
    ProbeState none none t ∧ t.jobs = s.jobs ∧ OwnLanes t job := by
  induction ids generalizing s with
  | nil =>
    cases hrun
    exact ⟨hs, rfl, hown⟩
  | cons id rest ih =>
    obtain ⟨l, hl, hcounts⟩ := honly id List.mem_cons_self
    obtain ⟨_, u, hreserve, hloop⟩ := Tx.run_bind_ok hrun
    obtain ⟨nextStartAt, rfl⟩ : ∃ nextStartAt, u = s.setLane id
        (reservedLane l.circuitState job.id nextStartAt now) := ⟨_, reserveLane_ok hl hreserve⟩
    have hrowl := hs.lanes l (Table.get?_mem hl)
    have hshape := hrowl.shape
    have hu : ProbeState none none
        (s.setLane id (reservedLane l.circuitState job.id nextStartAt now)) := by
      refine hs.setLane hl (fun _ => ⟨rfl, rfl, rfl, rfl⟩) ?_ hrowl.cooldown ?_ (by simp)
      · unfold SchedulerLane.WellShaped at hshape ⊢
        cases hstate : l.circuitState with
        | closed => simp [reservedLane, hstate]
        | opened => simp [reservedLane]
        | halfOpen => simp [reservedLane, hstate]
      · intro jobId hhold
        have hjobId : job.id = jobId := by
          simp only [reservedLane] at hhold
          split at hhold
          · cases hhold
          · exact Option.some.inj hhold
        subst hjobId
        exact ⟨job, hrow, hsync, fun _ => hlive, hcounts, hready⟩
    have hslots : ∀ m ∈ s.lanes.rows, ∃ n ∈ (s.setLane id
        (reservedLane l.circuitState job.id nextStartAt now)).lanes.rows, m.SameSlotColumns n := by
      intro m hm
      refine ⟨_, Db.mem_setLane.mpr ⟨m, hm, rfl⟩, ?_⟩
      split <;> exact ⟨rfl, rfl, rfl, rfl⟩
    have hown' : OwnLanes (s.setLane id
        (reservedLane l.circuitState job.id nextStartAt now)) job := by
      intro m hm hmcounts jobId hhold
      obtain ⟨n, hn, rfl⟩ := Db.mem_setLane.mp hm
      split at hhold
      · simp only [reservedLane] at hhold
        split at hhold
        · cases hhold
        · exact (Option.some.inj hhold).symm
      · rename_i hne
        rw [if_neg hne] at hmcounts
        exact hown n hn hmcounts jobId hhold
    have honly' : ∀ k ∈ rest, ∃ m, (s.setLane id
        (reservedLane l.circuitState job.id nextStartAt now)).lanes.get? k = some m ∧
        m.counts job = true := by
      intro k hk
      obtain ⟨m, hm, hmcounts⟩ := honly k (List.mem_cons_of_mem id hk)
      rw [Db.get?_setLane, hm]
      split
      · exact ⟨_, rfl, hmcounts⟩
      · exact ⟨m, rfl, hmcounts⟩
    have hrest := ih hu hrow (hready.kept hslots) honly' hown' hloop
    exact hrest

/-- What a claim leaves: no lane of the claimed job is held by another job, and
the watched probe, if its lane counts the job, has ended. -/
def ClaimedAlone (watch : Option Watch) (db : Db) (jobId : String) : Prop :=
  ∃ row, db.jobs.get? jobId = some row ∧ OwnLanes db row ∧
    ∀ w ∈ watch, w.lane.counts row = true → w.jobId ≠ jobId → JobEnded db w.jobId

theorem claim_sound {candidate : Job} {owner : String} {lease : Nat} {ids : List String}
    {claimed : Job} {s u t : Db} (hnow : ∀ w ∈ watch, w.now = now)
    (hs : ProbeState watch none s) (hjob : Candidate s candidate)
    (hlanes : JobLanes s candidate ids) (hallow : lanesAllow s ids candidate.id now = true)
    (hclaim : claimRow repo candidate.id owner lease now s = (.ok (some claimed), u))
    (hreserve : Tx.forEach (fun laneId => reserveLane laneId claimed.id now) ids u = (.ok (), t)) :
    ProbeState none none t ∧ claimed.id = candidate.id ∧ ClaimedAlone watch t candidate.id := by
  obtain ⟨j, expiresAt, hj, _, _, rfl, rfl⟩ := claimRow_some repo hclaim
  rw [hjob.row] at hj
  cases hj
  have hended := ended_of_allow hnow hs hlanes hallow
  have hown := ownLanes_of_allow hs hlanes hallow
  have hdrawn : ProbeState none none { s with drawn := s.drawn + 1 } := by
    have h : ProbeState none none s :=
      ⟨hs.lanes, hs.slots, hs.jobs, hs.holders, fun w hw => by cases hw⟩
    exact h.aside (Aside.of_jobs_eq rfl rfl rfl rfl)
  have hu : ProbeState none none ({ s with drawn := s.drawn + 1 }.setJob candidate.id
      (claimedValues owner (repo.uuid s.drawn) expiresAt now)) :=
    hdrawn.renew hjob.row hjob.isSync hjob.live ⟨rfl, rfl, rfl, rfl, rfl, rfl, rfl⟩ (.inl rfl) rfl
  have hrow := Db.get?_updated (s := { s with drawn := s.drawn + 1 }) hjob.row
    (claimedValues owner (repo.uuid s.drawn) expiresAt now)
  have hready : LanesReady ({ s with drawn := s.drawn + 1 }.setJob candidate.id
      (claimedValues owner (repo.uuid s.drawn) expiresAt now))
      (updatedRow (claimedValues owner (repo.uuid s.drawn) expiresAt now) candidate) :=
    hlanes.ready.congr rfl rfl rfl
  obtain ⟨ht, hjobs, hown'⟩ := reserveLanes_sound hu hrow hjob.isSync rfl hready hlanes.only hown
    hreserve
  refine ⟨ht, rfl, _, hjobs ▸ hrow, hown', fun w hw hcounts hne => ?_⟩
  obtain ⟨k, hk, hksync, hend⟩ := hended w hw hcounts hne
  refine ⟨k, ?_, hksync, hend⟩
  rw [hjobs, Db.get?_setJob, if_neg hne]
  exact hk

/-- The outcome of a scan. -/
def ScanEnds (watch : Option Watch) (t : Db) : Option SchedulerClaim → Prop
  | none => ProbeState watch none t
  | some claim => ProbeState none none t ∧ ClaimedAlone watch t claim.jobId

theorem claimCandidates_sound {owner : String} {lease : Nat} {jobs : List Job} {s t : Db}
    {r : Option SchedulerClaim} (hnow : ∀ w ∈ watch, w.now = now) (hs : ProbeState watch none s)
    (hjobs : ∀ j ∈ jobs, Candidate s j) (hdistinct : (jobs.map Job.id).Nodup)
    (hrun : claimCandidates repo owner lease now jobs s = (.ok r, t)) : ScanEnds watch t r := by
  induction jobs generalizing s with
  | nil =>
    cases hrun
    exact hs
  | cons candidate rest ih =>
    have hjob := hjobs candidate List.mem_cons_self
    rw [List.map_cons, List.nodup_cons] at hdistinct
    -- the rest of the queue is as it was read while only this row changes
    have hrest : ∀ {u : Db}, JobsExcept candidate.id s u → ∀ j ∈ rest, Candidate u j := by
      intro u hu j hj
      obtain ⟨hrow, hsync, hqueued⟩ := hjobs j (List.mem_cons_of_mem candidate hj)
      refine ⟨?_, hsync, hqueued⟩
      rw [hu j.id (fun heq => hdistinct.1 (heq ▸ List.mem_map_of_mem hj))]
      exact hrow
    obtain ⟨payload, hpayload⟩ := (hs.jobs _ _ hjob.row hjob.isSync).payload
    have hsub := parsePayload_subscription hpayload
    unfold claimCandidates at hrun
    rw [hsub] at hrun
    dsimp only at hrun
    obtain ⟨active, m, hactive, hrun⟩ := Tx.run_bind_ok hrun
    have hm : m = s := by
      refine Tx.ReadOnly.state ?_ hactive
      exact Tx.Within.catching Tx.ReadOnly.chains
        (Tx.Within.bind Tx.ReadOnly.chains (within_requireActive Tx.ReadOnly.chains _)
          (fun _ => Tx.Within.pure Tx.ReadOnly.chains _))
        (fun _ => Tx.Within.pure Tx.ReadOnly.chains _)
    rw [hm] at hrun
    split at hrun
    · exact ih hs (hrest ((JobsExcept.chains _).refl s)) hdistinct.2 hrun
    · obtain ⟨lanes, u, hlanes, hrun⟩ := Tx.run_bind_ok hrun
      obtain ⟨hu, hfound⟩ := candidateLanes_sound repo hnow hs hjob hlanes
      have hexcept := (jobsExcept_candidateLanes repo candidate).ends hlanes
      cases lanes with
      | none => exact ih hu (hrest hexcept) hdistinct.2 hrun
      | some ids =>
        obtain ⟨hids, hjob'⟩ := hfound ids rfl
        dsimp only at hrun
        rw [Tx.run_read_bind] at hrun
        split at hrun
        · exact ih hu (hrest hexcept) hdistinct.2 hrun
        · rename_i hallow
          have hallow' : lanesAllow u ids candidate.id now = true := by simpa using hallow
          obtain ⟨claimed, v, hclaim, hrun⟩ := Tx.run_bind_ok hrun
          cases claimed with
          | none =>
            rw [claimRow_none repo hclaim] at hrun
            have hdrawn : Aside u { u with drawn := u.drawn + 1 } :=
              Aside.of_jobs_eq rfl rfl rfl rfl
            exact ih (hu.aside hdrawn) (hrest hexcept) hdistinct.2 hrun
          | some claimed =>
            dsimp only at hrun
            obtain ⟨_, w, hreserve, hrun⟩ := Tx.run_bind_ok hrun
            obtain ⟨claim, hclaimOf, hrun⟩ := Tx.run_bind_ofExcept hrun
            cases hrun
            obtain ⟨ht, hid, halone⟩ :=
              claim_sound repo hnow hu hjob' hids hallow' hclaim hreserve
            have hkey : claim.jobId = candidate.id := (claimOf_ok hclaimOf).1.trans hid
            exact ⟨ht, hkey ▸ halone⟩

theorem queuedCandidates_current (s : Db) (exact : Option (String × String))
    (adapters : Option (List String)) (limit : Nat) :
    (∀ j ∈ queuedCandidates s now exact adapters limit, Candidate s j) ∧
      ((queuedCandidates s now exact adapters limit).map Job.id).Nodup := by
  constructor
  · intro j hj
    have hmem := List.mem_of_mem_take hj
    rw [List.mem_mergeSort, List.mem_filter] at hmem
    simp only [Bool.and_eq_true, decide_eq_true_eq] at hmem
    exact ⟨Table.get?_of_mem hmem.1, hmem.2.1.1.1.1.1, hmem.2.1.1.1.1.2⟩
  · unfold queuedCandidates
    dsimp only
    refine List.Nodup.sublist ((List.take_sublist _ _).map Job.id) ?_
    refine (List.Perm.nodup_iff ((List.mergeSort_perm _ _).map Job.id)).mpr ?_
    exact List.Nodup.sublist (List.filter_sublist.map Job.id) s.jobs.unique

theorem aside_checkExact (target : Option (String × String)) :
    Tx.Within Aside (checkExact target) := by
  have hR := Aside.chains
  cases target with
  | none => exact Tx.Within.pure hR _
  | some e =>
    obtain ⟨jobId, subscriptionId⟩ := e
    refine Tx.Within.bind hR (within_getSyncJob hR _) (fun observed => ?_)
    refine Tx.Within.bind hR (Tx.Within.require hR _ _) (fun _ => ?_)
    refine Tx.Within.bind hR (within_requireActive hR _) (fun subscription => ?_)
    refine Tx.Within.bind hR (Tx.Within.require hR _ _) (fun _ => ?_)
    refine Tx.Within.bind hR (Tx.Within.read hR _) (fun account => ?_)
    split
    · exact Tx.Within.require hR _ _
    · exact Tx.Within.throw hR _

theorem claimEligible_sound {args : ClaimArguments} {exact : Option (String × String)} {s t : Db}
    {r : Option SchedulerClaim} (hnow : ∀ w ∈ watch, w.now = args.now)
    (hs : ProbeState watch none s) (hrun : claimEligible repo args exact s = (.ok r, t)) :
    ScanEnds watch t r := by
  obtain ⟨owner, _, hrun⟩ := Tx.run_bind_ofExcept hrun
  obtain ⟨capacity, _, hrun⟩ := Tx.run_bind_ofExcept hrun
  obtain ⟨lease, _, hrun⟩ := Tx.run_bind_ofExcept hrun
  obtain ⟨candidateLimit, _, hrun⟩ := Tx.run_bind_ofExcept hrun
  obtain ⟨adapters, _, hrun⟩ := Tx.run_bind_ofExcept hrun
  obtain ⟨_, s₁, h₁, hrun⟩ := Tx.run_bind_ok hrun
  have k₁ := hs.aside ((aside_checkExact exact).ends h₁)
  obtain ⟨_, s₂, h₂, hrun⟩ := Tx.run_bind_ok hrun
  have k₂ := (sound_reclaimExpiredSync repo hnow _).ok k₁ h₂
  obtain ⟨_, s₃, h₃, hrun⟩ := Tx.run_bind_ok hrun
  have k₃ := (sound_requeueDueSync repo hnow _).ok k₂ h₃
  rw [Tx.run_read_bind] at hrun
  split at hrun
  · cases hrun
    exact k₃
  · split at hrun
    · cases hrun
      exact k₃
    · rw [Tx.run_read_bind] at hrun
      obtain ⟨hcurrent, hdistinct⟩ := queuedCandidates_current s₃ exact adapters candidateLimit
      exact claimCandidates_sound repo hnow k₃ hcurrent hdistinct hrun

theorem claimExact_sound {jobId subscriptionId : String} {args : ClaimArguments} {s t : Db}
    {r : Option SchedulerClaim} (hnow : ∀ w ∈ watch, w.now = args.now)
    (hs : ProbeState watch none s)
    (hrun : claimExact repo jobId subscriptionId args s = (.ok r, t)) : ScanEnds watch t r := by
  obtain ⟨id, _, hrun⟩ := Tx.run_bind_ofExcept hrun
  obtain ⟨subscriptionId, _, hrun⟩ := Tx.run_bind_ofExcept hrun
  refine claimEligible_sound repo ?_ hs hrun
  exact hnow

end Claims

end MediaSync.Scheduler
