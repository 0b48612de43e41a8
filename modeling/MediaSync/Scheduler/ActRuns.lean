import MediaSync.Scheduler.Acts

/-!
# Committed operations as chains of acts

Every operation that commits is a chain of acts. The loops of a claim read
their rows before the first of them is written; a row they come to later is
still the one they read, since the work on one row leaves the others alone.
-/

namespace MediaSync.Scheduler

open Python Transaction SchedulerError SchedulerRepository Relation

/-- The rows of the other sync jobs stay as they are. -/
def OthersKept (id : String) (s t : Db) : Prop := ∀ j, j.id ≠ id → SyncRow s j → SyncRow t j

theorem OthersKept.chains (id : String) : Tx.Chains (OthersKept id) where
  refl _ _ _ h := h
  trans _ _ _ h k j hj hrow := k j hj (h j hj hrow)

theorem OthersKept.of_jobs_eq {id : String} {s t : Db} (h : t.jobs = s.jobs) :
    OthersKept id s t :=
  fun _ _ hrow => ⟨by rw [h]; exact hrow.row, hrow.isSync⟩

theorem othersKept_outside {id : String} {α : Type} {m : Session α} (h : Tx.Within Outside m) :
    Tx.Within (OthersKept id) m :=
  Tx.Within.mono (fun _ _ h => .of_jobs_eq h.jobs) h

theorem othersKept_laneWork {id : String} {α : Type} {m : Session α} (h : Tx.Within LaneWork m) :
    Tx.Within (OthersKept id) m :=
  Tx.Within.mono (fun _ _ h => .of_jobs_eq h.jobs) h

theorem othersKept_pipelineWork {id : String} {α : Type} {m : Session α}
    (h : Tx.Within PipelineWork m) : Tx.Within (OthersKept id) m :=
  Tx.Within.mono
    (fun _ _ h _ _ hrow => ⟨(h.syncJobs _ _ hrow.isSync).2 hrow.row, hrow.isSync⟩) h

/-- A guarded write keeps every row but its own. -/
theorem othersKept_updateJob (id : String) (conditions : Db → Job → Bool) (values : Job → Job) :
    Tx.Within (OthersKept id) (updateJob id conditions values) := by
  apply Tx.Within.modifyGet
  intro db j hj hrow
  cases hget : db.jobs.get? id with
  | none => exact hrow
  | some i =>
    dsimp only
    split
    · exact ⟨by rw [Db.get?_setJob, if_neg hj]; exact hrow.row, hrow.isSync⟩
    · exact hrow

section Parts

variable (repo : SchedulerRepository)

theorem othersKept_reconcileSucceeded (job : Job) (now : Time) (expiredOnly : Bool)
    (lockedLanes : Option (List String)) :
    Tx.Within (OthersKept job.id)
      (reconcileSucceededAttachment repo job now expiredOnly lockedLanes) := by
  have hR := OthersKept.chains job.id
  unfold reconcileSucceededAttachment
  split
  · exact Tx.Within.pure hR _
  · refine Tx.Within.bind hR (Tx.Within.read hR _) (fun run => ?_)
    cases run with
    | none => exact Tx.Within.throw hR _
    | some run =>
      refine Tx.Within.bind hR (Tx.Within.require hR _ _) (fun _ => ?_)
      split
      · exact Tx.Within.pure hR _
      · refine Tx.Within.bind hR (othersKept_updateJob _ _ _) (fun reconciled => ?_)
        cases reconciled with
        | none => exact Tx.Within.pure hR _
        | some reconciled =>
          refine Tx.Within.bind hR
            (othersKept_laneWork (LaneWork.closed.applyLaneSuccess _ _ _ _)) (fun _ => ?_)
          refine Tx.Within.bind hR
            (othersKept_outside (outside_finalizeSubscription _ _ _ _ _)) (fun _ => ?_)
          refine Tx.Within.bind hR
            (othersKept_pipelineWork (pipelineWork_enqueuePipeline _ _ _)) (fun _ => ?_)
          exact Tx.Within.pure hR _

theorem othersKept_throwLeaseFailure {id : String} {α : Type} (jobId workerId : String) :
    Tx.Within (OthersKept id) (throwLeaseFailure jobId workerId : Session α) := by
  have hR := OthersKept.chains id
  refine Tx.Within.bind hR (Tx.Within.read hR _) (fun current => ?_)
  cases current with
  | none => exact Tx.Within.throw hR _
  | some current =>
    dsimp only
    split
    · exact Tx.Within.throw hR _
    · exact Tx.Within.throw hR _

theorem othersKept_reconcileConflict (job : Job) (now : Time) (expiredOnly : Bool)
    (ownedBy : Option (String × String)) (allowed : JobStatus → Bool)
    (lockedLanes : Option (List String)) :
    Tx.Within (OthersKept job.id)
      (reconcileOwnershipConflictAttachment repo job now expiredOnly ownedBy allowed
        lockedLanes) := by
  have hR := OthersKept.chains job.id
  unfold reconcileOwnershipConflictAttachment
  split
  · exact Tx.Within.pure hR _
  · split
    · exact Tx.Within.pure hR _
    · refine Tx.Within.bind hR (Tx.Within.read hR _) (fun run => ?_)
      cases run with
      | none => exact Tx.Within.throw hR _
      | some run =>
        refine Tx.Within.bind hR (Tx.Within.require hR _ _) (fun _ => ?_)
        split
        · exact Tx.Within.pure hR _
        · refine Tx.Within.bind hR (othersKept_updateJob _ _ _) (fun reconciled => ?_)
          cases reconciled with
          | none =>
            cases ownedBy with
            | none => exact Tx.Within.throw hR _
            | some owner => exact othersKept_throwLeaseFailure _ _
          | some reconciled =>
            refine Tx.Within.bind hR
              (othersKept_laneWork (LaneWork.closed.applyLaneFailure _ _ _ _ _)) (fun _ => ?_)
            refine Tx.Within.bind hR
              (othersKept_outside (outside_finalizeConflict repo _ _)) (fun _ => ?_)
            exact Tx.Within.pure hR _

theorem othersKept_reclaimOne (now : Time) (observed : Job) :
    Tx.Within (OthersKept observed.id) (reclaimOne repo now observed) := by
  have hR := OthersKept.chains observed.id
  refine Tx.Within.bind hR (othersKept_reconcileSucceeded repo _ _ _ _) (fun succeeded => ?_)
  split
  · exact Tx.Within.pure hR _
  · refine Tx.Within.bind hR (othersKept_reconcileConflict repo _ _ _ _ _ _) (fun conflict => ?_)
    split
    · exact Tx.Within.pure hR _
    · refine Tx.Within.bind hR (othersKept_updateJob _ _ _) (fun reclaimed => ?_)
      cases reclaimed with
      | none => exact Tx.Within.pure hR _
      | some reclaimed =>
        refine Tx.Within.bind hR (othersKept_outside (outside_cancelAttachedRun _ _ _))
          (fun _ => ?_)
        refine Tx.Within.bind hR (othersKept_laneWork (LaneWork.closed.applyLaneFailure _ _ _ _ _))
          (fun _ => ?_)
        split
        · exact othersKept_outside (outside_finalizeSubscription _ _ _ _ _)
        · exact Tx.Within.pure hR _

theorem othersKept_terminalizeInvalid (job : Job) (now : Time) :
    Tx.Within (OthersKept job.id) (terminalizeInvalidCandidate repo job now) := by
  have hR := OthersKept.chains job.id
  refine Tx.Within.bind hR (othersKept_updateJob _ _ _) (fun terminal => ?_)
  cases terminal with
  | none => exact Tx.Within.pure hR _
  | some terminal => exact othersKept_outside (outside_finalizeSubscription _ _ _ _ _)

theorem othersKept_candidateLanes (candidate : Job) (now : Time) :
    Tx.Within (OthersKept candidate.id) (candidateLanes repo candidate now) := by
  have hR := OthersKept.chains candidate.id
  refine Tx.Within.catching hR ?_ (fun _ => ?_)
  · refine Tx.Within.bind hR (Tx.Within.ofExcept hR _) (fun _ => ?_)
    refine Tx.Within.bind hR (othersKept_laneWork (LaneWork.closed.jobLanes _ _ _)) (fun lanes => ?_)
    refine Tx.Within.bind hR (othersKept_reconcileConflict repo _ _ _ _ _ _) (fun _ => ?_)
    exact Tx.Within.pure hR _
  · exact Tx.Within.bind hR (othersKept_terminalizeInvalid repo _ _)
      (fun _ => Tx.Within.pure hR _)

end Parts

section Expiry

variable {repo : SchedulerRepository}

/-- An expired job is recovered by one of the acts. -/
theorem reclaimOne_acts {now : Time} {observed : Job} {s t : Db} {r : Unit}
    (hrow : SyncRow s observed) (hactive : observed.isActiveWork = true)
    (hexpired : leaseExpired observed now = true)
    (hrun : reclaimOne repo now observed s = (.ok r, t)) : Acts repo s t := by
  obtain ⟨succeeded, u, hsucceeded, h⟩ := Tx.run_bind_ok hrun
  obtain ⟨hacts, hnone⟩ := reconcileSucceeded_run
    (JobStatus.not_isTerminal_of_isActiveWork hactive) hsucceeded
  split at h
  · cases h
    exact hacts
  · rename_i hsome
    obtain ⟨rfl, hattached⟩ := hnone (Option.not_isSome_iff_eq_none.1 hsome)
    obtain ⟨conflict, v, hconflict, h⟩ := Tx.run_bind_ok h
    have hacts := (acts_reconcileConflict _ _ _ _ _ _).ends hconflict
    split at h
    · cases h
      exact hacts
    · rename_i hsome
      rw [Option.not_isSome_iff_eq_none.1 hsome] at hconflict
      cases reconcileConflict_none repo hconflict
      obtain ⟨reclaimed, w, hupdate, h⟩ := Tx.run_bind_ok h
      cases reclaimed with
      | none =>
        cases h
        cases updateJob_none hupdate
        exact .refl
      | some reclaimed =>
        obtain ⟨j, hget, _, rfl, rfl⟩ := updateJob_some hupdate
        rw [hrow.row] at hget
        cases hget
        obtain ⟨_, w₁, hcancel, h⟩ := Tx.run_bind_ok h
        obtain ⟨_, w₂, hlanes, h⟩ := Tx.run_bind_ok h
        refine .single (.expired hrow hactive hexpired (hattached hrow fun _ => hexpired) hcancel
          hlanes ?_)
        split at h
        · rename_i hout
          rw [if_pos (show attemptsExhausted observed = true from hout)]
          exact h
        · rename_i hout
          rw [if_neg (show ¬ attemptsExhausted observed = true from hout)]
          cases h
          rfl

/-- The jobs that expired are distinct, so a recovery keeps those that follow. -/
theorem reclaimAll_acts {now : Time} {jobs : List Job} {s t : Db} {r : Unit}
    (hjobs : ∀ j ∈ jobs, SyncRow s j ∧ j.isActiveWork = true ∧ leaseExpired j now = true)
    (hdistinct : (jobs.map Job.id).Nodup)
    (h : Tx.forEach (reclaimOne repo now) jobs s = (.ok r, t)) : Acts repo s t := by
  induction jobs generalizing s with
  | nil =>
    cases h
    exact .refl
  | cons job rest ih =>
    obtain ⟨_, u, hjob, h⟩ := Tx.run_bind_ok h
    obtain ⟨hrow, hactive, hexpired⟩ := hjobs job List.mem_cons_self
    rw [List.map_cons, List.nodup_cons] at hdistinct
    refine (reclaimOne_acts hrow hactive hexpired hjob).trans (ih (fun j hj => ?_) hdistinct.2 h)
    obtain ⟨hrow', hrest⟩ := hjobs j (List.mem_cons_of_mem job hj)
    have hne : j.id ≠ job.id := fun heq => hdistinct.1 (heq ▸ List.mem_map_of_mem hj)
    exact ⟨(othersKept_reclaimOne repo now job).ends hjob j hne hrow', hrest⟩

theorem rows_nodup (db : Db) {p : Job → Bool} {before : Job → Job → Bool} {n : Nat} :
    ((((db.jobs.rows.filter p).mergeSort before).take n).map Job.id).Nodup := by
  have hrows : (db.jobs.rows.map Job.id).Nodup := db.jobs.unique
  have hfilter : ((db.jobs.rows.filter p).map Job.id).Nodup :=
    hrows.sublist (List.filter_sublist.map _)
  have hsorted : (((db.jobs.rows.filter p).mergeSort before).map Job.id).Nodup :=
    ((List.mergeSort_perm _ _).map _).nodup_iff.2 hfilter
  exact hsorted.sublist ((List.take_sublist _ _).map _)

theorem mem_expiredJobs {db : Db} {now : Time} {jobId : Option String} {j : Job}
    (h : j ∈ expiredJobs db now jobId) :
    SyncRow db j ∧ j.isActiveWork = true ∧ leaseExpired j now = true := by
  have hmem := List.mem_of_mem_take h
  rw [List.mem_mergeSort, List.mem_filter] at hmem
  simp only [Bool.and_eq_true] at hmem
  exact ⟨⟨Table.get?_of_mem hmem.1, hmem.2.1.1.1⟩, hmem.2.1.1.2, hmem.2.1.2⟩

theorem acts_reclaimExpired {now : Time} {jobId : Option String} {s t : Db} {r : Unit}
    (h : reclaimExpiredSync repo now jobId s = (.ok r, t)) : Acts repo s t := by
  unfold reclaimExpiredSync at h
  rw [Tx.run_read_bind] at h
  exact reclaimAll_acts (fun j hj => mem_expiredJobs hj) (rows_nodup s) h

/-- The conflicts are recovered one by one, and the due retries are queued at once. -/
theorem acts_requeueDue {now : Time} {jobId : Option String} :
    Tx.Within (Acts repo) (requeueDueSync repo now jobId) := by
  have hR := Acts.chains repo
  refine Tx.Within.bind hR (Tx.Within.read hR _) (fun conflicts => ?_)
  refine Tx.Within.bind hR ?_ (fun _ => ?_)
  · refine Tx.Within.forEach hR conflicts (fun j _ => ?_)
    exact Tx.Within.bind hR (acts_reconcileConflict _ _ _ _ _ _) (fun _ => Tx.Within.pure hR _)
  · refine Tx.Within.modify (fun db => .single (.requeued _ (fun j hj => ?_)))
    simp only [Bool.and_eq_true] at hj
    exact ⟨hj.1.1.1.1.1, hj.1.1.1.1.2⟩

end Expiry

/-! ## Claims -/

section Claims

variable {repo : SchedulerRepository}

theorem acts_terminalizeInvalid (job : Job) (now : Time) :
    Tx.Within (Acts repo) (terminalizeInvalidCandidate repo job now) := by
  intro s
  unfold terminalizeInvalidCandidate
  rw [Tx.run_bind]
  generalize hupdate : updateJob job.id _ _ s = updated
  obtain ⟨terminal, u⟩ := updated
  cases terminal with
  | error e =>
    unfold updateJob at hupdate
    cases hupdate
  | ok terminal =>
    cases terminal with
    | none =>
      cases updateJob_none hupdate
      exact .refl
    | some terminal =>
      obtain ⟨j, hget, hc, rfl, rfl⟩ := updateJob_some hupdate
      simp only [Bool.and_eq_true, decide_eq_true_eq] at hc
      obtain ⟨hkey, hrow⟩ := SyncRow.of_get? hget hc.1
      rw [← hkey]
      exact .single (.invalid hrow hc.2 rfl)

theorem acts_candidateLanes (candidate : Job) (now : Time) :
    Tx.Within (Acts repo) (candidateLanes repo candidate now) := by
  have hR := Acts.chains repo
  refine Tx.Within.catching hR ?_ (fun _ => ?_)
  · refine Tx.Within.bind hR (Tx.Within.ofExcept hR _) (fun _ => ?_)
    refine Tx.Within.bind hR (acts_lanes _ _) (fun lanes => ?_)
    refine Tx.Within.bind hR (acts_reconcileConflict _ _ _ _ _ _) (fun _ => ?_)
    exact Tx.Within.pure hR _
  · exact Tx.Within.bind hR (acts_terminalizeInvalid _ _) (fun _ => Tx.Within.pure hR _)

/-- A candidate that passed has found its two lanes, and nothing else has happened. -/
theorem candidateLanes_some {candidate : Job} {now : Time} {s t : Db} {lanes : List String}
    (h : candidateLanes repo candidate now s = (.ok (some lanes), t)) :
    jobLanes repo.uuid candidate now s = (.ok lanes, t) := by
  unfold candidateLanes Tx.catching at h
  split at h
  · rename_i r u hrun
    cases h
    obtain ⟨_, _, hrun⟩ := Tx.run_bind_ofExcept hrun
    obtain ⟨found, v, hlanes, hrun⟩ := Tx.run_bind_ok hrun
    obtain ⟨reconciled, w, hconflict, hrun⟩ := Tx.run_bind_ok hrun
    cases reconciled with
    | some reconciled => cases hrun
    | none =>
      cases reconcileConflict_none repo hconflict
      cases hrun
      exact hlanes
  · split at h
    · obtain ⟨_, u, _, h⟩ := Tx.run_bind_ok h
      cases h
    · cases h

theorem readOnly_candidateActive (subscriptionId : String) :
    Tx.ReadOnly (candidateActive subscriptionId) := by
  have hR := Tx.ReadOnly.chains (σ := Db)
  refine Tx.Within.catching hR ?_ (fun _ => Tx.Within.pure hR _)
  exact Tx.Within.bind hR (within_requireActive hR _) (fun _ => Tx.Within.pure hR _)

/-- The last writes of a claim: the row it leases and the lanes it reserves. -/
structure Grant (repo : SchedulerRepository) (owner : String) (lease : Nat) (now : Time)
    (s t : Db) (claim : SchedulerClaim) : Prop where
  written : ∃ j lanes u k v, SyncRow s j ∧ jobLanes repo.uuid j now s = (.ok lanes, u) ∧
    lanesAllow u lanes j.id now = true ∧
    claimRow repo j.id owner lease now u = (.ok (some k), v) ∧
    Tx.forEach (fun laneId => reserveLane laneId k.id now) lanes v = (.ok (), t) ∧
    claimOf k = .ok claim

/-- How the scan of the queue ends. -/
def ScanActs (repo : SchedulerRepository) (owner : String) (lease : Nat) (now : Time) (s : Db)
    (t : Db) : Option SchedulerClaim → Prop
  | none => Acts repo s t
  | some claim => ∃ m, Acts repo s m ∧ Grant repo owner lease now m t claim

theorem ScanActs.after {owner : String} {lease : Nat} {now : Time} {s m t : Db}
    {r : Option SchedulerClaim} (h : Acts repo s m) (k : ScanActs repo owner lease now m t r) :
    ScanActs repo owner lease now s t r := by
  cases r with
  | none => exact h.trans k
  | some claim =>
    obtain ⟨n, hn, hgrant⟩ := k
    exact ⟨n, h.trans hn, hgrant⟩

theorem claimCandidates_acts {owner : String} {lease : Nat} {now : Time} {jobs : List Job}
    {s t : Db} {r : Option SchedulerClaim} (hjobs : ∀ j ∈ jobs, SyncRow s j)
    (hdistinct : (jobs.map Job.id).Nodup)
    (h : claimCandidates repo owner lease now jobs s = (.ok r, t)) :
    ScanActs repo owner lease now s t r := by
  induction jobs generalizing s with
  | nil =>
    cases h
    exact .refl
  | cons candidate rest ih =>
    rw [List.map_cons, List.nodup_cons] at hdistinct
    have hrest {u : Db} (hu : OthersKept candidate.id s u) : ∀ j ∈ rest, SyncRow u j := by
      intro j hj
      have hne : j.id ≠ candidate.id := fun heq => hdistinct.1 (heq ▸ List.mem_map_of_mem hj)
      exact hu j hne (hjobs j (List.mem_cons_of_mem candidate hj))
    unfold claimCandidates at h
    cases hsub : candidate.subscriptionId with
    | none =>
      rw [hsub] at h
      obtain ⟨_, u, hinvalid, h⟩ := Tx.run_bind_ok h
      refine ScanActs.after ((acts_terminalizeInvalid _ _).ends hinvalid) ?_
      exact ih (hrest ((othersKept_terminalizeInvalid repo _ _).ends hinvalid)) hdistinct.2 h
    | some subscriptionId =>
      rw [hsub] at h
      dsimp only at h
      obtain ⟨active, _, h⟩ := Tx.run_bind_read (readOnly_candidateActive _) h
      split at h
      · exact ih (hrest ((OthersKept.chains _).refl s)) hdistinct.2 h
      · obtain ⟨lanes, u, hlanes, h⟩ := Tx.run_bind_ok h
        have hothers := (othersKept_candidateLanes repo _ _).ends hlanes
        have hacts := (acts_candidateLanes _ _).ends hlanes
        cases lanes with
        | none => exact ScanActs.after hacts (ih (hrest hothers) hdistinct.2 h)
        | some lanes =>
          dsimp only at h
          rw [Tx.run_read_bind] at h
          split at h
          · exact ScanActs.after hacts (ih (hrest hothers) hdistinct.2 h)
          · rename_i hallow
            obtain ⟨claimed, v, hclaim, h⟩ := Tx.run_bind_ok h
            cases claimed with
            | none =>
              have hv : v = { u with drawn := u.drawn + 1 } := by
                obtain ⟨token, w, htoken, hclaim⟩ := Tx.run_bind_ok hclaim
                cases htoken
                obtain ⟨expiresAt, _, hclaim⟩ := Tx.run_bind_ofExcept hclaim
                exact updateJob_none hclaim
              subst hv
              refine ScanActs.after (hacts.tail .drew) (ih (hrest ?_) hdistinct.2 h)
              exact (OthersKept.chains _).trans _ _ _ hothers (.of_jobs_eq rfl)
            | some claimed =>
              dsimp only at h
              obtain ⟨_, w, hreserve, h⟩ := Tx.run_bind_ok h
              obtain ⟨claim, x, hx, h⟩ := Tx.run_bind_ok h
              cases h
              obtain ⟨hclaimOf, rfl⟩ := Tx.run_ofExcept_ok hx
              exact ⟨s, .refl, candidate, lanes, u, claimed, v,
                hjobs candidate List.mem_cons_self, candidateLanes_some hlanes,
                by simpa using hallow, hclaim, hreserve, hclaimOf⟩

theorem readOnly_checkExact (target : Option (String × String)) :
    Tx.ReadOnly (checkExact target) := by
  have hR := Tx.ReadOnly.chains (σ := Db)
  cases target with
  | none => exact Tx.Within.pure hR _
  | some e =>
    obtain ⟨jobId, subscriptionId⟩ := e
    refine Tx.Within.bind hR (within_getSyncJob hR _) (fun observed => ?_)
    refine Tx.Within.bind hR (Tx.Within.require hR _ _) (fun _ => ?_)
    refine Tx.Within.bind hR (within_requireActive hR _) (fun subscription => ?_)
    refine Tx.Within.bind hR (Tx.Within.require hR _ _) (fun _ => ?_)
    refine Tx.Within.bind hR (Tx.Within.read hR _) (fun account => ?_)
    split
    · exact Tx.Within.require hR _ _
    · exact Tx.Within.throw hR _

/-- The sync jobs under a lease. -/
def activeWork (db : Db) : Nat := db.jobs.rows.countP (fun j => j.isSync && j.isActiveWork)

/-- How a claim ends: a chain of acts, of which a successful one has room for the grant
after its recovery part. -/
def ClaimActs (repo : SchedulerRepository) (args : ClaimArguments) (s t : Db) :
    Option SchedulerClaim → Prop
  | none => Acts repo s t
  | some claim => ∃ owner capacity lease m n,
      requiredText args.workerId "worker_id" 255 = .ok owner ∧
      boundedInt args.globalCapacity "global_capacity" 1 maxBatch = .ok capacity ∧
      Acts repo s m ∧ activeWork m < capacity ∧ Acts repo m n ∧
      Grant repo owner lease args.now n t claim

theorem ClaimActs.after {args : ClaimArguments} {s m t : Db} {r : Option SchedulerClaim}
    (h : Acts repo s m) (k : ClaimActs repo args m t r) : ClaimActs repo args s t r := by
  cases r with
  | none => exact h.trans k
  | some claim =>
    obtain ⟨owner, capacity, lease, n, o, howner, hcapacity, hn, hroom, hno, hgrant⟩ := k
    exact ⟨owner, capacity, lease, n, o, howner, hcapacity, h.trans hn, hroom, hno, hgrant⟩

/-- A claim first settles the expired leases. -/
theorem claimEligible_reclaims {args : ClaimArguments} {exact : Option (String × String)} {s t : Db}
    {r : Option SchedulerClaim} (h : claimEligible repo args exact s = (.ok r, t)) :
    ∃ u, reclaimExpiredSync repo args.now (exact.map Prod.fst) s = (.ok (), u) ∧
      ClaimActs repo args u t r := by
  obtain ⟨owner, howner, h⟩ := Tx.run_bind_ofExcept h
  obtain ⟨capacity, hcapacity, h⟩ := Tx.run_bind_ofExcept h
  obtain ⟨lease, _, h⟩ := Tx.run_bind_ofExcept h
  obtain ⟨candidateLimit, _, h⟩ := Tx.run_bind_ofExcept h
  obtain ⟨adapters, _, h⟩ := Tx.run_bind_ofExcept h
  obtain ⟨_, _, h⟩ := Tx.run_bind_read (readOnly_checkExact _) h
  obtain ⟨_, u, hreclaim, h⟩ := Tx.run_bind_ok h
  refine ⟨u, hreclaim, ?_⟩
  obtain ⟨_, m, hrequeue, h⟩ := Tx.run_bind_ok h
  have hm : Acts repo u m := acts_requeueDue.ends hrequeue
  rw [Tx.run_read_bind] at h
  split at h
  · cases h
    exact hm
  · rename_i hroom
    split at h
    · cases h
      exact hm
    · rw [Tx.run_read_bind] at h
      have hscan := claimCandidates_acts (fun j hj => ?_) (rows_nodup m) h
      · cases r with
        | none => exact hm.trans hscan
        | some claim =>
          obtain ⟨n, hn, hgrant⟩ := hscan
          exact ⟨owner, capacity, lease, m, n, howner, hcapacity, hm, Nat.lt_of_not_le hroom, hn,
            hgrant⟩
      · have hmem := List.mem_of_mem_take hj
        rw [List.mem_mergeSort, List.mem_filter] at hmem
        simp only [Bool.and_eq_true] at hmem
        exact ⟨Table.get?_of_mem hmem.1, hmem.2.1.1.1.1.1⟩

theorem claimEligible_acts {args : ClaimArguments} {exact : Option (String × String)} {s t : Db}
    {r : Option SchedulerClaim} (h : claimEligible repo args exact s = (.ok r, t)) :
    ClaimActs repo args s t r := by
  obtain ⟨u, hreclaim, hacts⟩ := claimEligible_reclaims h
  exact .after (acts_reclaimExpired hreclaim) hacts

theorem claimExact_acts {jobId subscriptionId : String} {args : ClaimArguments} {s t : Db}
    {r : Option SchedulerClaim} (h : claimExact repo jobId subscriptionId args s = (.ok r, t)) :
    ClaimActs repo args s t r := by
  obtain ⟨_, _, h⟩ := Tx.run_bind_ofExcept h
  obtain ⟨_, _, h⟩ := Tx.run_bind_ofExcept h
  have hacts := claimEligible_acts h
  exact hacts

end Claims

/-! ## Operations behind a lease -/

section Owned

variable {repo : SchedulerRepository} {jobId workerId leaseToken : String} {now : Time}
  {s t : Db}

/-- The row that an owned update found. -/
theorem ownedUpdate_row {allowed : JobStatus → Bool} {values : Job → Job} {job : Job}
    (h : ownedUpdate jobId workerId leaseToken allowed values now s = (.ok job, t)) :
    ∃ j, SyncRow s j ∧ j.id = jobId ∧ allowed j.status = true ∧
      job = { values j with id := j.id } ∧ t = s.setJob j.id values := by
  obtain ⟨updated, u, hupdate, h⟩ := Tx.run_bind_ok h
  cases updated with
  | none => exact (throwLeaseFailure_not_ok h).elim
  | some job' =>
    cases h
    obtain ⟨j, hget, hc, rfl, rfl⟩ := updateJob_some hupdate
    simp only [ownsLease, Bool.and_eq_true] at hc
    obtain ⟨rfl, hrow⟩ := SyncRow.of_get? hget hc.1
    exact ⟨j, hrow, rfl, hc.2.1.1.2, rfl, rfl⟩

theorem start_acts {claim : SchedulerClaim}
    (h : start jobId workerId leaseToken now s = (.ok claim, t)) : Acts repo s t := by
  obtain ⟨p, _, h⟩ := Tx.run_bind_ofExcept h
  obtain ⟨_, _, h⟩ := Tx.run_bind_read (within_getSyncJob Tx.ReadOnly.chains _) h
  obtain ⟨_, u, hupdate, h⟩ := Tx.run_bind_ok h
  obtain ⟨j, hrow, _, hstatus, _, rfl⟩ := ownedUpdate_row hupdate
  rw [(Tx.run_ofExcept_ok h).2]
  exact .single (.started hrow (of_decide_eq_true hstatus))

theorem heartbeat_acts {leaseSeconds : Int} {claim : SchedulerClaim}
    (h : heartbeat jobId workerId leaseToken leaseSeconds now s = (.ok claim, t)) :
    Acts repo s t := by
  obtain ⟨p, _, h⟩ := Tx.run_bind_ofExcept h
  obtain ⟨lease, _, h⟩ := Tx.run_bind_ofExcept h
  obtain ⟨_, _, h⟩ := Tx.run_bind_read (within_getSyncJob Tx.ReadOnly.chains _) h
  obtain ⟨expiresAt, _, h⟩ := Tx.run_bind_ofExcept h
  obtain ⟨_, u, hupdate, h⟩ := Tx.run_bind_ok h
  obtain ⟨j, hrow, _, hstatus, _, rfl⟩ := ownedUpdate_row hupdate
  rw [(Tx.run_ofExcept_ok h).2]
  exact .single (.renewed hrow (of_decide_eq_true hstatus))

theorem assertOwned_row {claim : SchedulerClaim}
    (h : assertOwned jobId workerId leaseToken now s = (.ok claim, t)) :
    ∃ p j, presented jobId workerId leaseToken = .ok p ∧ SyncRow s j ∧ j.id = p.jobId ∧
      j.status = .running ∧ t = s.setJob j.id id := by
  obtain ⟨p, hp, h⟩ := Tx.run_bind_ofExcept h
  obtain ⟨_, u, hupdate, h⟩ := Tx.run_bind_ok h
  obtain ⟨j, hrow, hkey, hstatus, _, rfl⟩ := ownedUpdate_row hupdate
  rw [(Tx.run_ofExcept_ok h).2]
  exact ⟨p, j, hp, hrow, hkey, of_decide_eq_true hstatus, rfl⟩

theorem assertOwned_acts {claim : SchedulerClaim}
    (h : assertOwned jobId workerId leaseToken now s = (.ok claim, t)) : Acts repo s t := by
  obtain ⟨_, j, _, hrow, _, _, rfl⟩ := assertOwned_row h
  exact .single (.guarded hrow)

theorem presented_again {jobId workerId leaseToken : String} {p : Presented}
    (h : presented jobId workerId leaseToken = .ok p) :
    presented p.jobId p.workerId p.leaseToken = .ok p := by
  unfold presented at h
  obtain ⟨j, hj, h⟩ := except_bind_ok h
  obtain ⟨w, hw, h⟩ := except_bind_ok h
  obtain ⟨t, ht, h⟩ := except_bind_ok h
  cases h
  unfold presented
  rw [requiredText_again hj, requiredText_again hw, requiredText_again ht]
  rfl

/-- The row behind a job that was just read. -/
theorem getSyncJob_row {j : Job} (h : getSyncJob jobId s = (.ok j, t)) :
    t = s ∧ j.id = jobId ∧ SyncRow s j := by
  obtain ⟨rfl, hget, hsync⟩ := getSyncJob_ok h
  exact ⟨rfl, SyncRow.of_get? hget hsync⟩

theorem SyncRow.unique {j k : Job} (hj : SyncRow s j) (hk : SyncRow s k) (h : j.id = k.id) :
    j = k := by
  have hrow := hj.row
  rw [h, hk.row] at hrow
  exact (Option.some.inj hrow).symm

theorem SyncRow.guarded {j : Job} (h : SyncRow s j) (k : String) : SyncRow (s.setJob k id) j where
  row := by
    rw [Db.get?_setJob, h.row]
    split <;> rfl
  isSync := h.isSync

theorem attachRun_acts {runId : String} {expected : Option String} {claim : SchedulerClaim}
    (h : attachRun jobId workerId leaseToken runId expected now s = (.ok claim, t)) :
    Acts repo s t := by
  obtain ⟨p, hp, h⟩ := Tx.run_bind_ofExcept h
  obtain ⟨runId, _, h⟩ := Tx.run_bind_ofExcept h
  obtain ⟨_, _, h⟩ := Tx.run_bind_ofExcept h
  obtain ⟨_, u, hassert, h⟩ := Tx.run_bind_ok h
  obtain ⟨q, j, hq, hrow, hkey, hrunning, rfl⟩ := assertOwned_row hassert
  rw [presented_again hp] at hq
  cases hq
  obtain ⟨job, hjob, h⟩ := Tx.run_bind_read (within_getSyncJob Tx.ReadOnly.chains _) h
  obtain ⟨_, hjobkey, hjobrow⟩ := getSyncJob_row hjob
  have hguarded := hrow.guarded j.id
  obtain rfl := hjobrow.unique hguarded (hjobkey.trans hkey.symm)
  obtain ⟨_, h⟩ := Tx.run_bind_require h
  unfold getRun at h
  rw [Tx.run_read_bind] at h
  obtain ⟨hscope, h⟩ := Tx.run_bind_require h
  rw [Tx.run_read_bind] at h
  obtain ⟨hprevious, h⟩ := Tx.run_bind_require h
  rw [Tx.run_read_bind] at h
  obtain ⟨_, h⟩ := Tx.run_bind_require h
  obtain ⟨_, v, hset, h⟩ := Tx.run_bind_ok h
  cases hset
  obtain ⟨_, _, h⟩ := Tx.run_bind_read (within_getSyncJob Tx.ReadOnly.chains _) h
  rw [(Tx.run_ofExcept_ok h).2, ← hkey]
  exact (ReflTransGen.single (.guarded hrow)).tail
    (.attached hguarded hrunning hscope hprevious)

theorem succeed_acts {runId : Option String} {r : SchedulerJobSummary}
    (h : succeed repo jobId workerId leaseToken runId now s = (.ok r, t)) : Acts repo s t := by
  obtain ⟨p, _, h⟩ := Tx.run_bind_ofExcept h
  obtain ⟨_, _, h⟩ := Tx.run_bind_ofExcept h
  obtain ⟨observed, _, h⟩ := Tx.run_bind_read (within_getSyncJob Tx.ReadOnly.chains _) h
  obtain ⟨runId, _, h⟩ := Tx.run_bind_read (readOnly_validatedResultRunId _ _ _) h
  obtain ⟨reconciled, u, hconflict, h⟩ := Tx.run_bind_ok h
  cases reconciled with
  | some reconciled =>
    rw [(Tx.run_ofExcept_ok h).2]
    exact (acts_reconcileConflict _ _ _ _ _ _).ends hconflict
  | none =>
    cases reconcileConflict_none repo hconflict
    obtain ⟨completed, v, hupdate, h⟩ := Tx.run_bind_ok h
    obtain ⟨j, hrow, _, hstatus, rfl, rfl⟩ := ownedUpdate_row hupdate
    obtain ⟨_, v₁, hlanes, h⟩ := Tx.run_bind_ok h
    obtain ⟨_, v₂, hfinal, h⟩ := Tx.run_bind_ok h
    obtain ⟨_, v₃, hpipeline, h⟩ := Tx.run_bind_ok h
    rw [(Tx.run_ofExcept_ok h).2]
    exact .single (.completed hrow (of_decide_eq_true hstatus) hlanes hfinal hpipeline)

/-- A failure is refused for a job whose attached run succeeded. -/
theorem not_succeeded_of_reject {job : Job} {runId result : Option String} {explicit : Bool}
    {u v : Db} {a : Unit} (hresult : validatedResultRunId job runId explicit s = (.ok result, u))
    (hreject : rejectFailureForSucceededRun job result s = (.ok a, v)) :
    attachedSucceeded s job = false := by
  have hkept : (result <|> job.runId) = job.runId ∨ job.runId = none := by
    cases runId with
    | none =>
      cases hresult
      exact .inl rfl
    | some x =>
      obtain ⟨hsame, hread⟩ := Tx.run_bind_require hresult
      unfold getRun at hread
      rw [Tx.run_read_bind] at hread
      cases hrow : s.runs.get? x with
      | none =>
        rw [hrow] at hread
        cases hread
      | some run =>
        rw [hrow] at hread
        obtain ⟨_, hread⟩ := Tx.run_bind_require hread
        obtain ⟨_, hread⟩ := Tx.run_bind_require hread
        cases hread
        cases hid : job.runId with
        | none => exact .inr rfl
        | some y =>
          rw [hid] at hsame
          exact .inl (congrArg some (by simpa using hsame : y = x).symm)
  rcases hkept with hkept | hnone
  · unfold rejectFailureForSucceededRun at hreject
    rw [hkept, Tx.run_read_bind] at hreject
    have hnot := (Tx.run_require_ok hreject).1
    unfold attachedSucceeded
    cases hrun : job.runId.bind s.runs.get? with
    | none => rfl
    | some run =>
      rw [hrun] at hnot
      simp only [Option.any_some, Bool.not_eq_true', decide_eq_false_iff_not] at hnot
      simp [hnot]
  · exact attachedSucceeded_of_none hnone

theorem fail_acts {errorCode : String} {retryAt : Option Time} {affectsCircuit : Option Bool}
    {runId : Option String} {r : SchedulerJobSummary}
    (h : fail repo jobId workerId leaseToken errorCode retryAt affectsCircuit runId now s =
      (.ok r, t)) : Acts repo s t := by
  obtain ⟨p, _, h⟩ := Tx.run_bind_ofExcept h
  obtain ⟨c, _, h⟩ := Tx.run_bind_ofExcept h
  obtain ⟨_, _, h⟩ := Tx.run_bind_ofExcept h
  obtain ⟨observed, hobserved, h⟩ := Tx.run_bind_read (within_getSyncJob Tx.ReadOnly.chains _) h
  obtain ⟨_, hkey, hobservedRow⟩ := getSyncJob_row hobserved
  obtain ⟨runId, hresult, h⟩ := Tx.run_bind_read (readOnly_validatedResultRunId _ _ _) h
  obtain ⟨reconciled, u, hconflict, h⟩ := Tx.run_bind_ok h
  cases reconciled with
  | some reconciled =>
    rw [(Tx.run_ofExcept_ok h).2]
    exact (acts_reconcileConflict _ _ _ _ _ _).ends hconflict
  | none =>
    cases reconcileConflict_none repo hconflict
    obtain ⟨_, hreject, h⟩ := Tx.run_bind_read (readOnly_rejectFailure _ _) h
    have hattached := not_succeeded_of_reject hresult hreject
    obtain ⟨failed, v, hupdate, h⟩ := Tx.run_bind_ok h
    obtain ⟨j, hrow, hid, hstatus, rfl, rfl⟩ := ownedUpdate_row hupdate
    obtain rfl := hobservedRow.unique hrow (hkey.trans hid.symm)
    obtain ⟨_, v₁, hlanes, h⟩ := Tx.run_bind_ok h
    obtain ⟨_, v₂, hfinal, h⟩ := Tx.run_bind_ok h
    rw [(Tx.run_ofExcept_ok h).2]
    exact .single (.failed hrow hstatus hattached hlanes hfinal)

theorem wait_acts {status : WaitingStatus} {errorCode : String} {affectsCircuit : Option Bool}
    {runId : Option String} {r : SchedulerJobSummary}
    (h : wait repo jobId workerId leaseToken status errorCode affectsCircuit runId now s =
      (.ok r, t)) : Acts repo s t := by
  obtain ⟨p, _, h⟩ := Tx.run_bind_ofExcept h
  obtain ⟨c, _, h⟩ := Tx.run_bind_ofExcept h
  obtain ⟨_, _, h⟩ := Tx.run_bind_ofExcept h
  obtain ⟨observed, hobserved, h⟩ := Tx.run_bind_read (within_getSyncJob Tx.ReadOnly.chains _) h
  obtain ⟨_, hkey, hobservedRow⟩ := getSyncJob_row hobserved
  obtain ⟨runId, hresult, h⟩ := Tx.run_bind_read (readOnly_validatedResultRunId _ _ _) h
  obtain ⟨reconciled, u, hconflict, h⟩ := Tx.run_bind_ok h
  cases reconciled with
  | some reconciled =>
    rw [(Tx.run_ofExcept_ok h).2]
    exact (acts_reconcileConflict _ _ _ _ _ _).ends hconflict
  | none =>
    cases reconcileConflict_none repo hconflict
    obtain ⟨_, hreject, h⟩ := Tx.run_bind_read (readOnly_rejectFailure _ _) h
    have hattached := not_succeeded_of_reject hresult hreject
    obtain ⟨waiting, v, hupdate, h⟩ := Tx.run_bind_ok h
    obtain ⟨j, hrow, hid, hstatus, rfl, rfl⟩ := ownedUpdate_row hupdate
    obtain rfl := hobservedRow.unique hrow (hkey.trans hid.symm)
    obtain ⟨_, v₁, hlanes, h⟩ := Tx.run_bind_ok h
    rw [(Tx.run_ofExcept_ok h).2]
    exact .single (.waiting hrow hstatus hattached hlanes)

end Owned

/-! ## Control operations -/

section Control

variable {repo : SchedulerRepository} {now : Time} {s t : Db}

theorem readOnly_requireActiveScope (subscriptionId : Option String) :
    Tx.ReadOnly (requireActiveScope subscriptionId) := by
  have hR := Tx.ReadOnly.chains (σ := Db)
  cases subscriptionId with
  | none => exact Tx.Within.pure hR _
  | some subscriptionId =>
    exact Tx.Within.bind hR (within_requireActive hR _) (fun _ => Tx.Within.pure hR _)

theorem acts_reconcileWaiting (observed : Job) :
    Tx.Within (Acts repo) (reconcileWaiting repo observed now) := by
  unfold reconcileWaiting
  split
  · exact acts_reconcileConflict _ _ _ _ _ _
  · exact Tx.Within.pure (Acts.chains repo) _

theorem resume_acts {jobId : String} {r : SchedulerJobSummary}
    (h : resume repo jobId now s = (.ok r, t)) : Acts repo s t := by
  obtain ⟨id, _, h⟩ := Tx.run_bind_ofExcept h
  obtain ⟨observed, _, h⟩ := Tx.run_bind_read (within_getSyncJob Tx.ReadOnly.chains _) h
  obtain ⟨_, _, h⟩ := Tx.run_bind_read (readOnly_requireActiveScope _) h
  obtain ⟨reconciled, u, hconflict, h⟩ := Tx.run_bind_ok h
  have hacts := (acts_reconcileWaiting observed).ends hconflict
  cases reconciled with
  | some reconciled =>
    rw [(Tx.run_ofExcept_ok h).2]
    exact hacts
  | none =>
    obtain ⟨resumed, v, hupdate, h⟩ := Tx.run_bind_ok h
    cases resumed with
    | none => cases h
    | some resumed =>
      obtain ⟨j, hget, hc, rfl, rfl⟩ := updateJob_some hupdate
      simp only [Bool.and_eq_true] at hc
      obtain ⟨rfl, hrow⟩ := SyncRow.of_get? hget hc.1
      obtain ⟨_, w, hlanes, h⟩ := Tx.run_bind_ok h
      rw [(Tx.run_ofExcept_ok h).2]
      exact hacts.tail (.resumed hrow hc.2 hlanes)

theorem resumeAll_acts {ids : List String} {n m : Nat}
    (h : resumeAll repo now ids n s = (.ok m, t)) : Acts repo s t := by
  induction ids generalizing s n with
  | nil =>
    cases h
    exact .refl
  | cons id rest ih =>
    obtain ⟨_, u, hresume, h⟩ := Tx.run_bind_ok h
    exact (resume_acts hresume).trans (ih h)

theorem resumeWaitingAuth_acts {accountId : String} {n : Nat}
    (h : resumeWaitingAuthForAccount repo accountId now s = (.ok n, t)) : Acts repo s t := by
  obtain ⟨_, h⟩ := Tx.run_bind_require h
  rw [Tx.run_read_bind] at h
  exact resumeAll_acts h

theorem cancelUnstarted_acts {jobId : String} {lockedLanes : List String}
    {r : SchedulerJobSummary}
    (h : cancelUnstartedForRemoval repo jobId now lockedLanes s = (.ok r, t)) :
    Acts repo s t := by
  obtain ⟨observed, hobserved, h⟩ := Tx.run_bind_read (within_getSyncJob Tx.ReadOnly.chains _) h
  obtain ⟨_, rfl, hrow⟩ := getSyncJob_row hobserved
  rw [Tx.run_read_bind] at h
  obtain ⟨_, h⟩ := Tx.run_bind_require h
  obtain ⟨hcancellable, h⟩ := Tx.run_bind_require h
  obtain ⟨succeeded, u, hsucceeded, h⟩ := Tx.run_bind_ok h
  obtain ⟨hacts, hnone⟩ := reconcileSucceeded_run (isCancellable_active hcancellable) hsucceeded
  cases succeeded with
  | some succeeded =>
    rw [(Tx.run_ofExcept_ok h).2]
    exact hacts
  | none =>
    obtain ⟨hu, hattached⟩ := hnone rfl
    rw [hu] at h
    obtain ⟨conflict, v, hconflict, h⟩ := Tx.run_bind_ok h
    cases conflict with
    | some conflict =>
      rw [(Tx.run_ofExcept_ok h).2]
      exact (acts_reconcileConflict _ _ _ _ _ _).ends hconflict
    | none =>
      cases reconcileConflict_none repo hconflict
      obtain ⟨_, w, hset, h⟩ := Tx.run_bind_ok h
      cases hset
      obtain ⟨cancelled, hcancelled, h⟩ :=
        Tx.run_bind_read (within_getSyncJob Tx.ReadOnly.chains _) h
      have hget := (getSyncJob_ok hcancelled).2.1
      rw [Db.get?_setJob, if_pos rfl, hrow.row] at hget
      cases hget
      obtain ⟨_, x, hlanes, h⟩ := Tx.run_bind_ok h
      rw [(Tx.run_ofExcept_ok h).2]
      exact .single (.withdrawn hrow hcancellable (hattached hrow nofun) hlanes)

theorem cancel_acts {jobId : String} {r : SchedulerJobSummary}
    (h : cancel repo jobId now s = (.ok r, t)) : Acts repo s t := by
  obtain ⟨id, _, h⟩ := Tx.run_bind_ofExcept h
  obtain ⟨observed, hobserved, h⟩ := Tx.run_bind_read (within_getSyncJob Tx.ReadOnly.chains _) h
  obtain ⟨_, rfl, hrow⟩ := getSyncJob_row hobserved
  split at h
  · rw [(Tx.run_ofExcept_ok h).2]
  · rename_i hactive
    obtain ⟨succeeded, u, hsucceeded, h⟩ := Tx.run_bind_ok h
    obtain ⟨hacts, hnone⟩ := reconcileSucceeded_run (by simpa using hactive) hsucceeded
    cases succeeded with
    | some succeeded =>
      rw [(Tx.run_ofExcept_ok h).2]
      exact hacts
    | none =>
      obtain ⟨hu, hattached⟩ := hnone rfl
      rw [hu] at h
      obtain ⟨conflict, v, hconflict, h⟩ := Tx.run_bind_ok h
      cases conflict with
      | some conflict =>
        rw [(Tx.run_ofExcept_ok h).2]
        exact (acts_reconcileConflict _ _ _ _ _ _).ends hconflict
      | none =>
        cases reconcileConflict_none repo hconflict
        obtain ⟨cancelled, w, hupdate, h⟩ := Tx.run_bind_ok h
        cases cancelled with
        | none =>
          cases updateJob_none hupdate
          obtain ⟨_, _, h⟩ := Tx.run_bind_read (within_getSyncJob Tx.ReadOnly.chains _) h
          rw [(Tx.run_ofExcept_ok h).2]
        | some cancelled =>
          obtain ⟨j, hget, _, rfl, rfl⟩ := updateJob_some hupdate
          rw [hrow.row] at hget
          cases hget
          obtain ⟨_, x₁, hrun, h⟩ := Tx.run_bind_ok h
          obtain ⟨_, x₂, hlanes, h⟩ := Tx.run_bind_ok h
          obtain ⟨_, x₃, hfinal, h⟩ := Tx.run_bind_ok h
          rw [(Tx.run_ofExcept_ok h).2]
          exact .single (.cancelled hrow (by simpa using hactive) (hattached hrow nofun) hrun
            hlanes hfinal)

theorem setSubscriptionSchedule_ok {subscriptionId : String}
    {values : Subscription → Subscription} {r : Subscription}
    (h : setSubscriptionSchedule subscriptionId values now s = (.ok r, t)) :
    ∃ id, t = s.setSubscription id (fun x => { values x with updatedAt := now }) := by
  obtain ⟨id, _, h⟩ := Tx.run_bind_ofExcept h
  obtain ⟨_, _, h⟩ := Tx.run_bind_read (within_requireActive Tx.ReadOnly.chains _) h
  obtain ⟨updated, u, hupdate, h⟩ := Tx.run_bind_ok h
  rcases updateSubscription_ok hupdate with ⟨rfl, _⟩ | ⟨x, _, _, rfl, rfl⟩
  · cases h
  · cases h
    exact ⟨id, rfl⟩

theorem readOnly_lockedSubscription (subscriptionId : String) :
    Tx.ReadOnly (lockedSubscription subscriptionId) := by
  have hR := Tx.ReadOnly.chains (σ := Db)
  refine Tx.Within.bind hR (Tx.Within.require hR _ _) (fun _ => ?_)
  refine Tx.Within.bind hR (Tx.Within.read hR _) (fun subscription => ?_)
  cases subscription with
  | none => exact Tx.Within.throw hR _
  | some s => exact Tx.Within.pure hR _

theorem readOnly_rejectBusy (subscription : Subscription) :
    Tx.ReadOnly (rejectBusy repo subscription) := by
  have hR := Tx.ReadOnly.chains (σ := Db)
  refine Tx.Within.bind hR (Tx.Within.read hR _) (fun jobs => ?_)
  refine Tx.Within.bind hR (Tx.Within.require hR _ _) (fun _ => ?_)
  refine Tx.Within.bind hR (Tx.Within.read hR _) (fun busy => ?_)
  exact Tx.Within.bind hR (Tx.Within.require hR _ _) (fun _ => Tx.Within.pure hR _)

theorem cancelForRemoval_acts {jobs : List Job} {n m : Nat}
    (h : cancelForRemoval repo now jobs n s = (.ok m, t)) : Acts repo s t := by
  induction jobs generalizing s n with
  | nil =>
    cases h
    exact .refl
  | cons job rest ih =>
    unfold cancelForRemoval at h
    split at h
    · exact ih h
    · rw [Tx.run_read_bind] at h
      obtain ⟨_, u, hcancel, h⟩ := Tx.run_bind_ok h
      exact (cancelUnstarted_acts hcancel).trans (ih h)

theorem remove_acts {subscriptionId : String} {n : Nat}
    (h : remove repo subscriptionId now s = (.ok n, t)) : Acts repo s t := by
  obtain ⟨subscription, _, h⟩ := Tx.run_bind_read (readOnly_lockedSubscription _) h
  split at h
  · cases h
    exact .refl
  · obtain ⟨jobs, _, h⟩ := Tx.run_bind_read (readOnly_rejectBusy _) h
    obtain ⟨cancelled, u, hcancel, h⟩ := Tx.run_bind_ok h
    rw [Tx.run_read_bind] at h
    obtain ⟨_, v, hcoordinators, h⟩ := Tx.run_bind_ok h
    cases hcoordinators
    obtain ⟨_, w, hsubscription, h⟩ := Tx.run_bind_ok h
    cases hsubscription
    cases h
    exact ((cancelForRemoval_acts hcancel).tail (.coordinators _)).tail
      (.subscription fun _ => ⟨rfl, rfl, rfl, rfl, rfl⟩)

theorem restore_acts {subscriptionId : String} {r : Unit}
    (h : restore repo subscriptionId now s = (.ok r, t)) : Acts repo s t := by
  obtain ⟨subscription, _, h⟩ := Tx.run_bind_read (readOnly_lockedSubscription _) h
  split at h
  · rw [(Tx.run_require_ok h).2]
  · obtain ⟨jobs, _, h⟩ := Tx.run_bind_read (readOnly_rejectBusy _) h
    cases h
    exact .single (.subscription fun _ => ⟨rfl, rfl, rfl, rfl, rfl⟩)

end Control

/-- The operations that create cycles. -/
def Op.isMaterialization : Op → Bool
  | materializeDue .. | materializeOne .. => true
  | _ => false

/-- The arguments of a claim. -/
def Op.claimArguments? : Op → Option ClaimArguments
  | claimNext args => some args
  | claimExact _ _ args => some args
  | _ => none

/-- The immediate run request, which alone writes a schedule outside of a cycle's end. -/
def Op.isRunNow : Op → Bool
  | runNow .. => true
  | _ => false

theorem perform_acts {repo : SchedulerRepository} {op : Op} {s t : Db} {reply : Reply}
    (hclaim : op.claimArguments? = none) (hcycle : op.isMaterialization = false)
    (hrunNow : op.isRunNow = false) (h : op.perform repo s = (.ok reply, t)) :
    Acts repo s t := by
  have hthen {α : Type} {m : Session α} {f : α → Reply}
      (hm : ∀ {a u}, m s = (.ok a, u) → Acts repo s u)
      (h : (m >>= fun a => pure (f a)) s = (.ok reply, t)) : Acts repo s t := by
    obtain ⟨a, u, hrun, hpure⟩ := Tx.run_bind_ok h
    cases hpure
    exact hm hrun
  cases op with
  | materializeDue => cases hcycle
  | materializeOne => cases hcycle
  | claimNext => cases hclaim
  | claimExact => cases hclaim
  | start => exact hthen start_acts h
  | heartbeat => exact hthen heartbeat_acts h
  | assertOwned => exact hthen assertOwned_acts h
  | attachRun => exact hthen attachRun_acts h
  | succeed => exact hthen succeed_acts h
  | fail => exact hthen fail_acts h
  | wait => exact hthen wait_acts h
  | resume => exact hthen resume_acts h
  | resumeWaitingAuthForAccount => exact hthen resumeWaitingAuth_acts h
  | cancel => exact hthen cancel_acts h
  | remove => exact hthen remove_acts h
  | restore => exact hthen restore_acts h
  | updateLane => exact hthen (fun hrun => .single (.lanePolicy hrun)) h
  | resetLane => exact hthen (fun hrun => .single (.laneReset hrun)) h
  | pauseSubscription =>
    refine hthen (fun hrun => ?_) h
    obtain ⟨id, rfl⟩ := setSubscriptionSchedule_ok hrun
    exact .single (.subscription fun _ => ⟨rfl, rfl, rfl, rfl, rfl⟩)
  | resumeSubscription =>
    refine hthen (fun hrun => ?_) h
    obtain ⟨id, rfl⟩ := setSubscriptionSchedule_ok hrun
    exact .single (.subscription fun _ => ⟨rfl, rfl, rfl, rfl, rfl⟩)
  | runNow => cases hrunNow

theorem perform_claim_acts {repo : SchedulerRepository} {op : Op} {args : ClaimArguments}
    {s t : Db} {reply : Reply} (hop : op.claimArguments? = some args)
    (h : op.perform repo s = (.ok reply, t)) :
    ∃ r, reply = .claimed r ∧ ClaimActs repo args s t r := by
  cases op with
  | claimNext args =>
    cases hop
    obtain ⟨r, u, h, hpure⟩ := Tx.run_bind_ok h
    cases hpure
    exact ⟨r, rfl, claimEligible_acts h⟩
  | claimExact jobId subscriptionId args =>
    cases hop
    obtain ⟨r, u, h, hpure⟩ := Tx.run_bind_ok h
    cases hpure
    exact ⟨r, rfl, claimExact_acts h⟩
  | _ => cases hop

end MediaSync.Scheduler
