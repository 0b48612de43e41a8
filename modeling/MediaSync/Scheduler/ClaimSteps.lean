import MediaSync.Scheduler.JobSteps

/-!
# What a claim does to the job rows

A claim that hands nothing out does to a job row what the other operations do.
A claim that hands a job out ends with the compare-and-swap on that row; before
it the same steps have happened, after it only lanes change.
-/

namespace MediaSync.Scheduler

open Python Transaction SchedulerError SchedulerRepository

/-- The last write of a successful claim, from the state `m` it was made in. -/
structure Granted (owner : String) (m t : Db) (claim : SchedulerClaim) : Prop where
  row : ∃ j expiresAt now, m.jobs.get? claim.jobId = some j ∧ j.isSync = true ∧
    j.status = .queued ∧
    t.jobs = (m.setJob claim.jobId (claimedValues owner claim.leaseToken expiresAt now)).jobs
  drawn : m.drawn ≤ t.drawn

/-- The row that a successful claim leaves behind. -/
theorem Granted.get? {owner : String} {m t : Db} {claim : SchedulerClaim}
    (h : Granted owner m t claim) :
    ∃ j, t.jobs.get? claim.jobId = some j ∧ j.isSync = true ∧ j.status = .claimed ∧
      j.leaseOwner = some owner ∧ j.leaseToken = some claim.leaseToken := by
  obtain ⟨j, expiresAt, now, hget, hsync, _, hjobs⟩ := h.row
  refine ⟨{ claimedValues owner claim.leaseToken expiresAt now j with id := j.id }, ?_, hsync,
    rfl, rfl, rfl⟩
  rw [hjobs, Db.get?_setJob, if_pos rfl, hget]
  rfl

theorem Granted.get?_ne {owner : String} {m t : Db} {claim : SchedulerClaim}
    (h : Granted owner m t claim) {id : String}
    (hid : id ≠ claim.jobId) : t.jobs.get? id = m.jobs.get? id := by
  obtain ⟨j, expiresAt, now, _, _, _, hjobs⟩ := h.row
  rw [hjobs, Db.get?_setJob, if_neg hid]

theorem Job.get?_id {db : Db} {id : String} {j : Job} (h : db.jobs.get? id = some j) :
    j.id = id :=
  Table.get?_key h

theorem claimOf_ok {job : Job} {claim : SchedulerClaim} (h : claimOf job = .ok claim) :
    claim.jobId = job.id ∧ job.leaseToken = some claim.leaseToken := by
  unfold claimOf at h
  cases hp : parsePayload job with
  | error e =>
    rw [hp] at h
    cases h
  | ok payload =>
    rw [hp] at h
    dsimp only [bind, Except.bind] at h
    split at h
    · rename_i htoken _
      cases h
      exact ⟨rfl, htoken⟩
    · cases h

section

variable (repo : SchedulerRepository)

theorem claimRow_some {jobId owner : String} {lease : Nat} {now : Time} {s t : Db} {j' : Job}
    (h : claimRow repo jobId owner lease now s = (.ok (some j'), t)) :
    ∃ j expiresAt, s.jobs.get? jobId = some j ∧ j.isSync = true ∧ j.status = .queued ∧
      j' = { claimedValues owner (repo.uuid s.drawn) expiresAt now j with id := j.id } ∧
      t = { s with drawn := s.drawn + 1 }.setJob jobId
        (claimedValues owner (repo.uuid s.drawn) expiresAt now) := by
  unfold claimRow newUuid at h
  obtain ⟨token, s', htoken, h⟩ := Tx.run_bind_ok h
  cases htoken
  obtain ⟨expiresAt, _, h⟩ := Tx.run_bind_ofExcept h
  obtain ⟨j, hget, hc, rfl, rfl⟩ := updateJob_some h
  simp only [Bool.and_eq_true, decide_eq_true_eq] at hc
  exact ⟨j, expiresAt, hget, hc.1.1.1.1, hc.1.1.1.2, rfl, rfl⟩

theorem claimRow_none {jobId owner : String} {lease : Nat} {now : Time} {s t : Db}
    (h : claimRow repo jobId owner lease now s = (.ok none, t)) :
    t = { s with drawn := s.drawn + 1 } := by
  unfold claimRow newUuid at h
  obtain ⟨token, s', htoken, h⟩ := Tx.run_bind_ok h
  cases htoken
  obtain ⟨expiresAt, _, h⟩ := Tx.run_bind_ofExcept h
  exact updateJob_none h

variable {P : Job → Job → Prop} {New : Job → Prop} (hP : Accepts P New)

include hP

/-- What a claim has done when it returns. -/
def ClaimEnds (P : Job → Job → Prop) (New : Job → Prop) (owner : String) (s : Db)
    (r : Option SchedulerClaim) (t : Db) : Prop :=
  match r with
  | none => JobSteps P New s t
  | some claim => ∃ m, JobSteps P New s m ∧ Granted owner m t claim ∧
      ∃ n, claim.leaseToken = repo.uuid n ∧ s.drawn ≤ n ∧ n < m.drawn

omit hP in
theorem ClaimEnds.after (hP : Accepts P New) {owner : String} {s m t : Db}
    {r : Option SchedulerClaim} (h : JobSteps P New s m) (k : ClaimEnds repo P New owner m r t) :
    ClaimEnds repo P New owner s r t := by
  have hR := JobSteps.chains hP
  cases r with
  | none => exact hR.trans _ _ _ h k
  | some claim =>
    obtain ⟨u, hu, hgrant, n, hn, hle, hlt⟩ := k
    exact ⟨u, hR.trans _ _ _ h hu, hgrant, n, hn, Nat.le_trans h.drawn hle, hlt⟩

theorem claimCandidates_ok {owner : String} {lease : Nat} {now : Time} {jobs : List Job}
    {s t : Db} {r : Option SchedulerClaim}
    (h : claimCandidates repo owner lease now jobs s = (.ok r, t)) :
    ClaimEnds repo P New owner s r t := by
  have hR := JobSteps.chains hP
  induction jobs generalizing s with
  | nil =>
    cases h
    exact hR.refl _
  | cons candidate rest ih =>
    unfold claimCandidates at h
    cases hsub : candidate.subscriptionId with
    | none =>
      rw [hsub] at h
      obtain ⟨_, m, hm, h⟩ := Tx.run_bind_ok h
      exact ClaimEnds.after repo hP ((steps_terminalizeInvalidCandidate hP repo _ _).ends hm) (ih h)
    | some subscriptionId =>
      rw [hsub] at h
      dsimp only at h
      obtain ⟨active, m, hm, h⟩ := Tx.run_bind_ok h
      refine ClaimEnds.after repo hP ((steps_candidateActive hP _).ends hm) ?_
      split at h
      · exact ih h
      · obtain ⟨lanes, u, hu, h⟩ := Tx.run_bind_ok h
        refine ClaimEnds.after repo hP ((steps_candidateLanes hP repo _ _).ends hu) ?_
        cases lanes with
        | none => exact ih h
        | some lanes =>
          dsimp only at h
          rw [Tx.run_read_bind] at h
          split at h
          · exact ih h
          · obtain ⟨claimed, v, hv, h⟩ := Tx.run_bind_ok h
            cases claimed with
            | none =>
              refine ClaimEnds.after repo hP ?_ (ih h)
              rw [claimRow_none repo hv]
              exact JobSteps.of_jobs_eq hP rfl (Nat.le_succ _)
            | some claimed =>
              dsimp only at h
              obtain ⟨_, w, hw, h⟩ := Tx.run_bind_ok h
              obtain ⟨claim, x, hx, h⟩ := Tx.run_bind_ok h
              cases h
              obtain ⟨hclaim, rfl⟩ := Tx.run_ofExcept_ok hx
              obtain ⟨hid, htoken⟩ := claimOf_ok hclaim
              obtain ⟨j, expiresAt, hget, hsync, hqueued, rfl, rfl⟩ := claimRow_some repo hv
              have hlanes := (Tx.Within.forEach LaneWork.chains lanes
                (fun laneId _ => laneWork_reserveLane laneId _ now)).ends hw
              have hrow := Job.get?_id hget
              have hkey : claim.jobId = candidate.id := hid.trans hrow
              have htoken : claim.leaseToken = repo.uuid u.drawn := (Option.some.inj htoken).symm
              refine ⟨{ u with drawn := u.drawn + 1 },
                JobSteps.of_jobs_eq hP rfl (Nat.le_succ _), ⟨?_, hlanes.drawn⟩, u.drawn, htoken,
                Nat.le_refl _, Nat.lt_succ_self _⟩
              refine ⟨j, expiresAt, now, hkey ▸ hget, hsync, hqueued, ?_⟩
              rw [hlanes.jobs, hkey, htoken]

theorem claimEligible_ok {args : ClaimArguments} {exact : Option (String × String)}
    {s t : Db} {r : Option SchedulerClaim} (h : claimEligible repo args exact s = (.ok r, t)) :
    ∃ owner, requiredText args.workerId "worker_id" 255 = .ok owner ∧
      ClaimEnds repo P New owner s r t := by
  have hR := JobSteps.chains hP
  obtain ⟨owner, howner, h⟩ := Tx.run_bind_ofExcept h
  obtain ⟨capacity, _, h⟩ := Tx.run_bind_ofExcept h
  obtain ⟨lease, _, h⟩ := Tx.run_bind_ofExcept h
  obtain ⟨candidateLimit, _, h⟩ := Tx.run_bind_ofExcept h
  obtain ⟨adapters, _, h⟩ := Tx.run_bind_ofExcept h
  refine ⟨owner, howner, ?_⟩
  obtain ⟨_, s₂, h₂, h⟩ := Tx.run_bind_ok h
  refine ClaimEnds.after repo hP ((steps_checkExact hP _).ends h₂) ?_
  obtain ⟨_, s₃, h₃, h⟩ := Tx.run_bind_ok h
  refine ClaimEnds.after repo hP ((steps_reclaimExpiredSync hP repo _ _).ends h₃) ?_
  obtain ⟨_, s₄, h₄, h⟩ := Tx.run_bind_ok h
  refine ClaimEnds.after repo hP ((steps_requeueDueSync hP repo _ _).ends h₄) ?_
  rw [Tx.run_read_bind] at h
  split at h
  · cases h
    exact hR.refl _
  · split at h
    · cases h
      exact hR.refl _
    · rw [Tx.run_read_bind] at h
      exact claimCandidates_ok repo hP h

theorem claimExact_ok {jobId subscriptionId : String} {args : ClaimArguments} {s t : Db}
    {r : Option SchedulerClaim} (h : claimExact repo jobId subscriptionId args s = (.ok r, t)) :
    ∃ owner, requiredText args.workerId "worker_id" 255 = .ok owner ∧
      ClaimEnds repo P New owner s r t := by
  obtain ⟨id, _, h⟩ := Tx.run_bind_ofExcept h
  obtain ⟨subscriptionId, _, h⟩ := Tx.run_bind_ofExcept h
  have hends := claimEligible_ok repo hP h
  exact hends

/-- Every transaction but a claim. -/
theorem steps_perform {op : Op} (hop : op.claimer? = none) :
    Tx.Within (JobSteps P New) (op.perform repo) := by
  have hR := JobSteps.chains hP
  have hthen {α β : Type} {m : Session α} (hm : Tx.Within (JobSteps P New) m) (f : α → β) :
      Tx.Within (JobSteps P New) (m >>= fun a => pure (f a)) :=
    Tx.Within.bind hR hm (fun _ => Tx.Within.pure hR _)
  cases op with
  | materializeDue => exact hthen ((JobSteps.cycleClosed hP).materializeDue repo _ _ _) _
  | materializeOne => exact hthen ((JobSteps.cycleClosed hP).materializeOne repo _ _ _ _) _
  | claimNext => cases hop
  | claimExact => cases hop
  | start => exact hthen (steps_start hP _ _ _ _) _
  | heartbeat => exact hthen (steps_heartbeat hP _ _ _ _ _) _
  | assertOwned => exact hthen (steps_assertOwned hP _ _ _ _) _
  | attachRun => exact hthen (steps_attachRun hP _ _ _ _ _ _) _
  | succeed => exact hthen (steps_succeed hP repo _ _ _ _ _) _
  | fail => exact hthen (steps_fail hP repo _ _ _ _ _ _ _ _) _
  | wait => exact hthen (steps_wait hP repo _ _ _ _ _ _ _ _) _
  | resume => exact hthen (steps_resume hP repo _ _) _
  | resumeWaitingAuthForAccount => exact hthen (steps_resumeWaitingAuth hP repo _ _) _
  | cancel => exact hthen (steps_cancel hP repo _ _) _
  | remove => exact hthen (steps_remove hP repo _ _) _
  | restore => exact hthen (steps_restore hP repo _ _) _
  | updateLane => exact hthen (steps_laneWork hP (LaneWork.closed.updateLane _ _ _ _)) _
  | resetLane => exact hthen (steps_laneWork hP (LaneWork.closed.resetLane _ _ _)) _
  | pauseSubscription => exact hthen (steps_setSubscriptionSchedule hP _ _ _) _
  | resumeSubscription => exact hthen (steps_setSubscriptionSchedule hP _ _ _) _
  | runNow => exact hthen (steps_setSubscriptionSchedule hP _ _ _) _

theorem perform_claim_ok {op : Op} {workerId : String} (hop : op.claimer? = some workerId)
    {s t : Db} {reply : Reply} (h : op.perform repo s = (.ok reply, t)) :
    ∃ owner r, requiredText workerId "worker_id" 255 = .ok owner ∧ reply = .claimed r ∧
      ClaimEnds repo P New owner s r t := by
  cases op with
  | claimNext args =>
    cases hop
    obtain ⟨r, u, h, hpure⟩ := Tx.run_bind_ok h
    cases hpure
    obtain ⟨owner, howner, hends⟩ := claimEligible_ok repo hP h
    exact ⟨owner, r, howner, rfl, hends⟩
  | claimExact jobId subscriptionId args =>
    cases hop
    obtain ⟨r, u, h, hpure⟩ := Tx.run_bind_ok h
    cases hpure
    obtain ⟨owner, howner, hends⟩ := claimExact_ok repo hP h
    exact ⟨owner, r, howner, rfl, hends⟩
  | _ => cases hop

/-- Every transaction, where the relation accepts the claim's write as well. -/
theorem steps_call (hclaimed : ∀ j owner leaseToken expiresAt now, j.isSync = true →
      j.status = .queued → P j (claimedValues owner leaseToken expiresAt now j))
    {op : Op} {s t : Db} {reply : Except SchedulerError Reply}
    (h : Tx.commit (op.perform repo) s = (reply, t)) : JobSteps P New s t := by
  have hR := JobSteps.chains hP
  cases hop : op.claimer? with
  | none => exact (Tx.Within.commit hR (steps_perform repo hP hop)).ends h
  | some workerId =>
    cases reply with
    | error err =>
      rw [Tx.commit_error h]
      exact hR.refl s
    | ok reply =>
      obtain ⟨owner, r, _, rfl, hends⟩ := perform_claim_ok repo hP hop (Tx.commit_ok h)
      cases r with
      | none => exact hends
      | some claim =>
        obtain ⟨m, hm, hgrant, -⟩ := hends
        obtain ⟨j, expiresAt, now, hget, hsync, hqueued, hjobs⟩ := hgrant.row
        have hwrite : JobSteps P New m
            (m.setJob claim.jobId (claimedValues owner claim.leaseToken expiresAt now)) := by
          refine JobSteps.of_setJob hP m _ _ ?_
          intro j' hj'
          rw [hget] at hj'
          cases hj'
          exact hclaimed j owner claim.leaseToken expiresAt now hsync hqueued
        exact hR.trans _ _ _ (hR.trans _ _ _ hm hwrite)
          (JobSteps.of_jobs_eq hP hjobs hgrant.drawn)

end

end MediaSync.Scheduler
