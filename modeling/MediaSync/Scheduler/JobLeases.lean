import MediaSync.Scheduler.History
import MediaSync.Scheduler.JobRepository

/-!
# Who holds a job

A job is under a lease exactly while it is claimed or running. One call moves
the token of a row at most once: it frees a lease that has run out, gives the
caller's own lease back, or writes a token that was never handed out before.
Since tokens do not repeat, a token that left a row never comes back to it, and
of the callers that hold tokens of one job at most one is accepted.
-/

namespace MediaSync.Scheduler

open Python Transaction Transition JobError

/-- The three lease columns are written together, with the status. -/
structure Job.LeaseShape (j : Job) : Prop where
  active : j.status.isActiveWork = true →
    j.leaseOwner.isSome = true ∧ j.leaseToken.isSome = true ∧ j.leaseExpiresAt.isSome = true
  idle : j.status.isActiveWork = false →
    j.leaseOwner = none ∧ j.leaseToken = none ∧ j.leaseExpiresAt = none

theorem Job.LeaseShape.of_held {j : Job} (h : j.status.isActiveWork = true)
    (howner : j.leaseOwner.isSome = true) (htoken : j.leaseToken.isSome = true)
    (hexpires : j.leaseExpiresAt.isSome = true) : j.LeaseShape where
  active _ := ⟨howner, htoken, hexpires⟩
  idle hi := by
    rw [h] at hi
    cases hi

theorem Job.LeaseShape.of_free {j : Job} (h : j.status.isActiveWork = false)
    (howner : j.leaseOwner = none) (htoken : j.leaseToken = none)
    (hexpires : j.leaseExpiresAt = none) : j.LeaseShape where
  active ha := by
    rw [h] at ha
    cases ha
  idle _ := ⟨howner, htoken, hexpires⟩

namespace JobRepository

variable {s t u : Db} {α : Type}

theorem get?_updateRows (s : Db) (p : Job → Bool) (values : Job → Job) (id : String) :
    (s.jobs.update p (keyed values) (by intro j; rfl)).get? id =
      (s.jobs.get? id).map (fun j => if p j then keyed values j else j) :=
  Table.get?_update s.jobs p (keyed values) (by intro j; rfl) id

/-- One row was written, and no other. -/
structure Wrote (s : Db) (id : String) (conditions : Job → Bool) (values : Job → Job) (job : Job)
    (t : Db) : Prop where
  row : ∃ j, s.jobs.get? id = some j ∧ conditions j = true ∧ job = keyed values j
  rows : ∀ k, t.jobs.get? k = if k = id then some job else s.jobs.get? k
  drawn : t.drawn = s.drawn

theorem updateReturning_some {id : String} {conditions : Job → Bool} {values : Job → Job}
    {job : Job} (h : updateReturning id conditions values s = (.ok (some job), t)) :
    Wrote s id conditions values job t := by
  unfold updateReturning at h
  rw [Tx.run_modifyGet, Prod.mk.injEq, Except.ok.injEq] at h
  obtain ⟨hjob, rfl⟩ := h
  obtain ⟨j, hj, rfl⟩ := Option.map_eq_some_iff.1 hjob
  obtain ⟨hget, hc⟩ := Option.filter_eq_some_iff.1 hj
  refine ⟨⟨j, hget, hc, rfl⟩, fun k => ?_, rfl⟩
  refine (get?_updateRows s (fun j => j.id = id && conditions j) values k).trans ?_
  by_cases hk : k = id
  · rw [if_pos hk, hk, hget]
    simp [Table.get?_key hget, hc]
  · rw [if_neg hk]
    cases hg : s.jobs.get? k with
    | none => rfl
    | some r => simp [Table.get?_key hg, hk]

theorem updateReturning_none {id : String} {conditions : Job → Bool} {values : Job → Job}
    (h : updateReturning id conditions values s = (.ok none, t)) :
    (∀ k, t.jobs.get? k = s.jobs.get? k) ∧ t.drawn = s.drawn := by
  unfold updateReturning at h
  rw [Tx.run_modifyGet, Prod.mk.injEq, Except.ok.injEq] at h
  obtain ⟨hnone, rfl⟩ := h
  refine ⟨fun k => ?_, rfl⟩
  refine (get?_updateRows s (fun j => j.id = id && conditions j) values k).trans ?_
  cases hg : s.jobs.get? k with
  | none => rfl
  | some r =>
    by_cases hk : k = id
    · subst hk
      have hc : conditions r = false := by
        rw [hg, Option.map_eq_none_iff, Option.filter_eq_none_iff] at hnone
        simpa using hnone r rfl
      simp [hc]
    · simp [Table.get?_key hg, hk]

theorem readOnly_get (id : String) : Tx.ReadOnly (JobRepository.get id) := fun _ => rfl

theorem orLost_ok {jobId message : String} {updated : Option Job} {job : Job}
    (h : orLost jobId message updated s = (.ok job, t)) : updated = some job ∧ t = s := by
  cases updated with
  | some j =>
    cases h
    exact ⟨rfl, rfl⟩
  | none =>
    obtain ⟨_, _, h⟩ := Tx.run_bind_read (readOnly_get _) h
    obtain ⟨_, h⟩ := Tx.run_bind_require h
    cases h

/-- A statement whose failure to match is an error. -/
theorem updateOrLost_ok {id jobId message : String} {conditions : Job → Bool}
    {values : Job → Job} {job : Job}
    (h : (updateReturning id conditions values >>= orLost jobId message) s = (.ok job, t)) :
    Wrote s id conditions values job t := by
  obtain ⟨updated, u, hupdate, h⟩ := Tx.run_bind_ok h
  obtain ⟨rfl, rfl⟩ := orLost_ok h
  exact updateReturning_some hupdate

theorem readOnly_leaseUntil (leaseSeconds : Int) (now : Time) :
    Tx.ReadOnly (leaseUntil leaseSeconds now) := by
  refine Tx.Within.bind Tx.ReadOnly.chains (Tx.Within.require Tx.ReadOnly.chains _ _) fun _ => ?_
  split
  · exact Tx.Within.pure Tx.ReadOnly.chains _
  · exact Tx.Within.throw Tx.ReadOnly.chains _

theorem readOnly_normalizeJobTypes (jobTypes : Option (List String)) :
    Tx.ReadOnly (normalizeJobTypes jobTypes) := by
  cases jobTypes with
  | none => exact Tx.Within.pure Tx.ReadOnly.chains _
  | some requested =>
    refine Tx.Within.bind Tx.ReadOnly.chains (Tx.Within.require Tx.ReadOnly.chains _ _) fun _ => ?_
    refine Tx.Within.bind Tx.ReadOnly.chains (Tx.Within.require Tx.ReadOnly.chains _ _) fun _ => ?_
    exact Tx.Within.pure Tx.ReadOnly.chains _

theorem readOnly_requireActive (subscriptionId : String) :
    Tx.ReadOnly (JobRepository.requireActive subscriptionId) := by
  refine Tx.Within.bind Tx.ReadOnly.chains (Tx.Within.read Tx.ReadOnly.chains _) fun found => ?_
  cases found with
  | none => exact Tx.Within.throw Tx.ReadOnly.chains _
  | some subscription => exact Tx.Within.require Tx.ReadOnly.chains _ _

theorem readOnly_scopeActive (job : Option Job) : Tx.ReadOnly (scopeActive job) := by
  unfold scopeActive
  split
  · exact Tx.Within.pure Tx.ReadOnly.chains _
  · refine Tx.Within.catching Tx.ReadOnly.chains ?_ fun _ => Tx.Within.pure Tx.ReadOnly.chains _
    refine Tx.Within.bind Tx.ReadOnly.chains (readOnly_requireActive _) fun _ => ?_
    exact Tx.Within.pure Tx.ReadOnly.chains _

/-- The lease of the row has run out. -/
def Lapsed (now : Time) (j : Job) : Prop := ∃ x, j.leaseExpiresAt = some x ∧ x ≤ now

theorem lapsed_of_any {now : Time} {j : Job} (h : j.leaseExpiresAt.any (· ≤ now) = true) :
    Lapsed now j := by
  obtain ⟨x, hx, hle⟩ := Option.any_eq_true _ _ |>.1 h
  exact ⟨x, hx, of_decide_eq_true hle⟩

/-- The token of the row may go: there is none, its lease has run out, its holder gives it back,
or the job is cancelled. -/
inductive Displaceable (c : JobCall) (j : Job) : Prop
  | free : j.leaseToken = none → Displaceable c j
  | lapsed : Lapsed c.now j → Displaceable c j
  | given {token : String} : j.leaseToken = some token → c.presents? = some (j.id, token) →
      c.finishes = true → Displaceable c j
  | cancelled : c.cancels? = some j.id → Displaceable c j

/-- The token is one that was drawn between the two counts. -/
def Drawn (repo : JobRepository) (d e : Nat) (token : Option String) : Prop :=
  ∃ n, d ≤ n ∧ n < e ∧ token = some (repo.uuid n)

/-- How a call moves the lease of one row. -/
structure Moved (repo : JobRepository) (c : JobCall) (d e : Nat) (j j' : Job) : Prop where
  shape : j'.LeaseShape
  token : j'.leaseToken = j.leaseToken ∨
    (Displaceable c j ∧ (j'.leaseToken = none ∨ Drawn repo d e j'.leaseToken))

theorem Moved.stays {repo : JobRepository} {c : JobCall} {d e : Nat} {j : Job}
    (h : j.LeaseShape) : Moved repo c d e j j :=
  ⟨h, .inl rfl⟩

/-- What a call does to a table of well-shaped rows. -/
structure CallRows (repo : JobRepository) (c : JobCall) (s t : Db) : Prop where
  kept : ∀ id j, s.jobs.get? id = some j → j.LeaseShape →
    ∃ j', t.jobs.get? id = some j' ∧ Moved repo c s.drawn t.drawn j j'
  added : ∀ id j', s.jobs.get? id = none → t.jobs.get? id = some j' →
    j'.leaseToken = none ∧ j'.LeaseShape
  drawn : s.drawn ≤ t.drawn

theorem CallRows.same {repo : JobRepository} {c : JobCall}
    (h : ∀ k, t.jobs.get? k = s.jobs.get? k) (hd : s.drawn ≤ t.drawn) : CallRows repo c s t where
  kept id j hj hshape := ⟨j, by rw [h, hj], .stays hshape⟩
  added id j' hs ht := by
    rw [h, hs] at ht
    cases ht
  drawn := hd

theorem Wrote.callRows {repo : JobRepository} {c : JobCall} {id : String}
    {conditions : Job → Bool} {values : Job → Job} {job : Job}
    (h : Wrote u id conditions values job t) (hu : ∀ k, u.jobs.get? k = s.jobs.get? k)
    (hd : s.drawn ≤ u.drawn)
    (hmoved : ∀ j, j.id = id → conditions j = true → j.LeaseShape →
      Moved repo c s.drawn t.drawn j (keyed values j)) : CallRows repo c s t where
  kept k j hj hshape := by
    rw [h.rows]
    by_cases hk : k = id
    · subst hk
      obtain ⟨j₀, hj₀, hc, rfl⟩ := h.row
      rw [hu, hj] at hj₀
      cases hj₀
      exact ⟨_, if_pos rfl, hmoved j (Table.get?_key hj) hc hshape⟩
    · exact ⟨j, by rw [if_neg hk, hu, hj], .stays hshape⟩
  added k j' hs ht := by
    rw [h.rows] at ht
    by_cases hk : k = id
    · subst hk
      obtain ⟨j₀, hj₀, _⟩ := h.row
      rw [hu, hs] at hj₀
      cases hj₀
    · rw [if_neg hk, hu, hs] at ht
      cases ht
  drawn := h.drawn ▸ hd

/-- The holder of a row keeps its token. -/
theorem Moved.of_same {repo : JobRepository} {c : JobCall} {d e : Nat} {j j' : Job}
    (hactive : j'.status.isActiveWork = true) (howner : j'.leaseOwner.isSome = true)
    (hexpires : j'.leaseExpiresAt.isSome = true) (hj : j.leaseToken.isSome = true)
    (htoken : j'.leaseToken = j.leaseToken) : Moved repo c d e j j' :=
  ⟨.of_held hactive howner (htoken ▸ hj) hexpires, .inl htoken⟩

/-- A displaceable row loses its lease. -/
theorem Moved.of_free {repo : JobRepository} {c : JobCall} {d e : Nat} {j j' : Job}
    (hdisplaceable : Displaceable c j) (hidle : j'.status.isActiveWork = false)
    (howner : j'.leaseOwner = none) (htoken : j'.leaseToken = none)
    (hexpires : j'.leaseExpiresAt = none) : Moved repo c d e j j' :=
  ⟨.of_free hidle howner htoken hexpires, .inr ⟨hdisplaceable, .inl htoken⟩⟩

/-- A displaceable row gets a new token. -/
theorem Moved.of_drawn {repo : JobRepository} {c : JobCall} {d e : Nat} {j j' : Job}
    (hdisplaceable : Displaceable c j) (hactive : j'.status.isActiveWork = true)
    (howner : j'.leaseOwner.isSome = true) (hexpires : j'.leaseExpiresAt.isSome = true)
    (htoken : Drawn repo d e j'.leaseToken) : Moved repo c d e j j' := by
  refine ⟨.of_held hactive howner ?_ hexpires, .inr ⟨hdisplaceable, .inr htoken⟩⟩
  obtain ⟨n, _, _, hn⟩ := htoken
  rw [hn]
  rfl

section Owned

variable {repo : JobRepository} {jobId workerId leaseToken : String} {now : Time}

theorem ownedUpdate_ok {allowed : List JobStatus} {values : Job → Job} {job : Job}
    (h : ownedUpdate jobId workerId leaseToken allowed values now s = (.ok job, t)) :
    Wrote s jobId (fun j => holds workerId leaseToken j && j.status ∈ allowed &&
      j.leaseExpiresAt.any (now < ·)) values job t :=
  updateOrLost_ok h

theorem holds_iff {j : Job} :
    holds workerId leaseToken j = true ↔
      j.leaseOwner = some workerId ∧ j.leaseToken = some leaseToken := by
  simp [holds]

/-- The presented token is the stored one. -/
def Stores (s : Db) (jobId token : String) : Prop :=
  ∃ j, s.jobs.get? jobId = some j ∧ j.leaseToken = some token

theorem Wrote.stores {conditions : Job → Bool} {values : Job → Job} {job : Job}
    (h : Wrote s jobId conditions values job t)
    (hc : ∀ j, conditions j = true → j.leaseToken = some leaseToken) :
    Stores s jobId leaseToken := by
  obtain ⟨j, hj, hcond, _⟩ := h.row
  exact ⟨j, hj, hc j hcond⟩

theorem start_rows {job : Job} (h : start jobId workerId leaseToken now s = (.ok job, t)) :
    CallRows repo (.start jobId workerId leaseToken now) s t ∧ Stores s jobId leaseToken := by
  have hw := ownedUpdate_ok h
  refine ⟨hw.callRows (fun _ => rfl) (Nat.le_refl _) fun j _ hc hshape => ?_, hw.stores fun j hc => ?_⟩
  all_goals
    simp only [Bool.and_eq_true, holds_iff] at hc
    obtain ⟨⟨⟨howner, htoken⟩, hstatus⟩, hexpires⟩ := hc
  · refine Moved.of_same rfl (howner ▸ rfl) ?_ (htoken ▸ rfl) rfl
    exact (Option.any_eq_true _ _ |>.1 hexpires).elim fun x hx => hx.1 ▸ rfl
  · exact htoken

theorem renewLease_rows {leaseSeconds : Int} {payload : Option Json} {job : Job}
    (h : renewLease repo jobId workerId leaseToken leaseSeconds payload now s = (.ok job, t)) :
    CallRows repo (.renewLease jobId workerId leaseToken leaseSeconds payload now) s t ∧
      Stores s jobId leaseToken := by
  obtain ⟨expiresAt, _, h⟩ := Tx.run_bind_read (readOnly_leaseUntil _ _) h
  have hw := ownedUpdate_ok h
  refine ⟨hw.callRows (fun _ => rfl) (Nat.le_refl _) fun j _ hc hshape => ?_, hw.stores fun j hc => ?_⟩
  all_goals
    simp only [Bool.and_eq_true, holds_iff, decide_eq_true_eq, List.mem_singleton] at hc
    obtain ⟨⟨⟨howner, htoken⟩, hstatus⟩, _⟩ := hc
  · exact Moved.of_same (congrArg JobStatus.isActiveWork hstatus) (howner ▸ rfl) rfl (htoken ▸ rfl) rfl
  · exact htoken

theorem complete_rows {payload : Option Json} {job : Job}
    (h : complete repo jobId workerId leaseToken payload now s = (.ok job, t)) :
    CallRows repo (.complete jobId workerId leaseToken payload now) s t ∧
      Stores s jobId leaseToken := by
  have hw := ownedUpdate_ok h
  refine ⟨hw.callRows (fun _ => rfl) (Nat.le_refl _) fun j hid hc hshape => ?_,
    hw.stores fun j hc => ?_⟩
  all_goals
    simp only [Bool.and_eq_true, holds_iff] at hc
    obtain ⟨⟨⟨_, htoken⟩, _⟩, _⟩ := hc
  · exact Moved.of_free (.given htoken (by rw [hid]; rfl) rfl) rfl rfl rfl rfl
  · exact htoken

theorem failedStatus_idle (retryable : Bool) (retryAt : Option Time) (now : Time) (j : Job) :
    (failedStatus retryable retryAt now j).isActiveWork = false := by
  unfold failedStatus
  split
  · split <;> rfl
  · rfl

theorem fail_rows {retryable : Bool} {errorCode errorMessage : String} {retryAt : Option Time}
    {job : Job}
    (h : fail repo jobId workerId leaseToken retryable errorCode errorMessage retryAt now s =
      (.ok job, t)) :
    CallRows repo (.fail jobId workerId leaseToken retryable errorCode errorMessage retryAt now)
        s t ∧ Stores s jobId leaseToken := by
  have hw := ownedUpdate_ok h
  refine ⟨hw.callRows (fun _ => rfl) (Nat.le_refl _) fun j hid hc hshape => ?_,
    hw.stores fun j hc => ?_⟩
  all_goals
    simp only [Bool.and_eq_true, holds_iff] at hc
    obtain ⟨⟨⟨_, htoken⟩, _⟩, _⟩ := hc
  · exact Moved.of_free (.given htoken (by rw [hid]; rfl) rfl) (failedStatus_idle _ _ _ _)
      rfl rfl rfl
  · exact htoken

theorem renewUnreclaimedLease_rows {leaseSeconds : Int} {job : Job}
    (h : renewUnreclaimedLease jobId workerId leaseToken leaseSeconds now s = (.ok job, t)) :
    CallRows repo (.renewUnreclaimedLease jobId workerId leaseToken leaseSeconds now) s t ∧
      Stores s jobId leaseToken := by
  obtain ⟨expiresAt, _, h⟩ := Tx.run_bind_read (readOnly_leaseUntil _ _) h
  have hw := updateOrLost_ok h
  refine ⟨hw.callRows (fun _ => rfl) (Nat.le_refl _) fun j _ hc hshape => ?_, hw.stores fun j hc => ?_⟩
  all_goals
    simp only [Bool.and_eq_true, holds_iff, decide_eq_true_eq] at hc
    obtain ⟨⟨hstatus, howner, htoken⟩, _⟩ := hc
  · exact Moved.of_same (congrArg JobStatus.isActiveWork hstatus) (howner ▸ rfl) rfl (htoken ▸ rfl) rfl
  · exact htoken

/-- A new token with the row that it was written to. -/
structure Issued (repo : JobRepository) (s t : Db) (job : Job) : Prop where
  token : Drawn repo s.drawn t.drawn job.leaseToken
  row : t.jobs.get? job.id = some job

theorem newToken_ok {token : String} (h : newToken repo s = (.ok token, u)) :
    token = repo.uuid s.drawn ∧ (∀ k, u.jobs.get? k = s.jobs.get? k) ∧ u.drawn = s.drawn + 1 := by
  cases h
  exact ⟨rfl, fun _ => rfl, rfl⟩

theorem Wrote.issued {conditions : Job → Bool} {values : Job → Job} {job : Job}
    (h : Wrote u jobId conditions values job t) (htoken : Drawn repo s.drawn t.drawn job.leaseToken) :
    Issued repo s t job := by
  refine ⟨htoken, ?_⟩
  obtain ⟨j, hj, _, rfl⟩ := h.row
  rw [h.rows]
  exact if_pos (Table.get?_key hj)

theorem takeoverExpiredRunningLease_rows {newWorkerId : String} {leaseSeconds : Int} {job : Job}
    (h : takeoverExpiredRunningLease repo jobId workerId leaseToken newWorkerId leaseSeconds now s =
      (.ok job, t)) :
    (CallRows repo (.takeoverExpiredRunningLease jobId workerId leaseToken newWorkerId leaseSeconds
      now) s t ∧ Stores s jobId leaseToken) ∧ Issued repo s t job := by
  obtain ⟨expiresAt, _, h⟩ := Tx.run_bind_read (readOnly_leaseUntil _ _) h
  obtain ⟨token, u, htoken, h⟩ := Tx.run_bind_ok h
  obtain ⟨rfl, hu, hud⟩ := newToken_ok htoken
  have hw := updateOrLost_ok h
  have hdrawn : Drawn repo s.drawn t.drawn (some (repo.uuid s.drawn)) :=
    ⟨s.drawn, Nat.le_refl _, by rw [hw.drawn, hud]; exact Nat.lt_succ_self _, rfl⟩
  refine ⟨⟨hw.callRows hu (by rw [hud]; exact Nat.le_succ _) fun j _ hc hshape => ?_, ?_⟩, ?_⟩
  · simp only [Bool.and_eq_true, holds_iff, decide_eq_true_eq] at hc
    obtain ⟨⟨hstatus, _⟩, hlapsed⟩ := hc
    exact Moved.of_drawn (.lapsed (lapsed_of_any hlapsed))
      (congrArg JobStatus.isActiveWork hstatus) rfl rfl hdrawn
  · obtain ⟨j, hj, hc, _⟩ := hw.row
    simp only [Bool.and_eq_true, holds_iff, decide_eq_true_eq] at hc
    rw [hu] at hj
    exact ⟨j, hj, hc.1.2.2⟩
  · refine hw.issued ?_
    obtain ⟨j, _, _, rfl⟩ := hw.row
    exact hdrawn

theorem resumeReclaimedPreparedResult_rows {expectedStatus : JobStatus} {leaseSeconds : Int}
    {job : Job}
    (h : resumeReclaimedPreparedResult repo jobId expectedStatus workerId leaseSeconds now s =
      (.ok job, t)) :
    CallRows repo (.resumeReclaimedPreparedResult jobId expectedStatus workerId leaseSeconds now)
        s t ∧ Issued repo s t job := by
  obtain ⟨expiresAt, _, h⟩ := Tx.run_bind_read (readOnly_leaseUntil _ _) h
  obtain ⟨_, h⟩ := Tx.run_bind_require h
  obtain ⟨token, u, htoken, h⟩ := Tx.run_bind_ok h
  obtain ⟨rfl, hu, hud⟩ := newToken_ok htoken
  have hw := updateOrLost_ok h
  have hdrawn : Drawn repo s.drawn t.drawn (some (repo.uuid s.drawn)) :=
    ⟨s.drawn, Nat.le_refl _, by rw [hw.drawn, hud]; exact Nat.lt_succ_self _, rfl⟩
  refine ⟨hw.callRows hu (by rw [hud]; exact Nat.le_succ _) fun j _ hc hshape => ?_, ?_⟩
  · simp only [isReclaimed, Bool.and_eq_true, Option.isNone_iff_eq_none] at hc
    exact Moved.of_drawn (.free hc.1.1.2) rfl rfl rfl hdrawn
  · refine hw.issued ?_
    obtain ⟨j, _, _, rfl⟩ := hw.row
    exact hdrawn

theorem completeRecoveredPublication_rows {expectedStatus : JobStatus} {attempts : Int}
    {token : Option String} {payload : Json} {job : Job}
    (h : completeRecoveredPublication repo jobId expectedStatus attempts token payload now s =
      (.ok job, t)) :
    CallRows repo (.completeRecoveredPublication jobId expectedStatus attempts token payload now)
        s t ∧ ∀ presented, token = some presented → Stores s jobId presented := by
  obtain ⟨_, h⟩ := Tx.run_bind_require h
  obtain ⟨_, h⟩ := Tx.run_bind_require h
  have hw := updateOrLost_ok h
  refine ⟨hw.callRows (fun _ => rfl) (Nat.le_refl _) fun j _ hc hshape => ?_,
    fun presented hp => hw.stores fun j hc => ?_⟩
  all_goals
    simp only [isRecoverable, Bool.and_eq_true, Bool.or_eq_true, decide_eq_true_eq] at hc
    obtain ⟨⟨_, htoken⟩, hstate⟩ := hc
  · refine Moved.of_free ?_ rfl rfl rfl rfl
    rcases hstate with hexpired | hidle
    · simp only [hasExpired, Bool.and_eq_true] at hexpired
      exact .lapsed (lapsed_of_any hexpired.2)
    · refine .free (hshape.idle ?_).2.1
      simp only [List.mem_cons, List.not_mem_nil, or_false] at hidle
      rcases hidle with h | h | h | h <;> rw [h] <;> rfl
  · exact htoken.trans hp

theorem cancel_rows {job : Job} (h : cancel jobId now s = (.ok job, t)) :
    CallRows repo (.cancel jobId now) s t := by
  obtain ⟨updated, u, hupdate, h⟩ := Tx.run_bind_ok h
  cases updated with
  | some updated =>
    cases h
    refine (updateReturning_some hupdate).callRows (fun _ => rfl) (Nat.le_refl _)
      fun j hid _ _ => ?_
    exact Moved.of_free (.cancelled (by rw [hid]; rfl)) rfl rfl rfl rfl
  | none =>
    obtain ⟨hrows, hdrawn⟩ := updateReturning_none hupdate
    obtain ⟨existing, _, h⟩ := Tx.run_bind_read (readOnly_get _) h
    cases existing with
    | some existing =>
      cases h
      exact .same hrows (Nat.le_of_eq hdrawn.symm)
    | none => cases h

end Owned

/-! ## Claims -/

/-- The row keeps its lease, or loses one that has run out. -/
structure Freed (now : Time) (j j' : Job) : Prop where
  id : j'.id = j.id
  shape : j.LeaseShape → j'.LeaseShape
  lease : (j'.leaseToken = j.leaseToken ∧ j'.leaseExpiresAt = j.leaseExpiresAt) ∨
    (Lapsed now j ∧ j'.leaseToken = none ∧ j'.leaseExpiresAt = none)

theorem Freed.refl (now : Time) (j : Job) : Freed now j j :=
  ⟨rfl, fun h => h, .inl ⟨rfl, rfl⟩⟩

theorem Freed.trans {now : Time} {i j k : Job} (hij : Freed now i j) (hjk : Freed now j k) :
    Freed now i k := by
  refine ⟨hjk.id.trans hij.id, fun h => hjk.shape (hij.shape h), ?_⟩
  rcases hij.lease with ⟨htoken, hexpires⟩ | ⟨hlapsed, htoken, hexpires⟩
  · rcases hjk.lease with ⟨htoken', hexpires'⟩ | ⟨⟨x, hx, hle⟩, hnone⟩
    · exact .inl ⟨htoken'.trans htoken, hexpires'.trans hexpires⟩
    · exact .inr ⟨⟨x, hexpires ▸ hx, hle⟩, hnone⟩
  · rcases hjk.lease with ⟨htoken', hexpires'⟩ | ⟨⟨x, hx, _⟩, _⟩
    · exact .inr ⟨hlapsed, htoken'.trans htoken, hexpires'.trans hexpires⟩
    · rw [hexpires] at hx
      cases hx

/-- Between the two tables every row is freed or kept. -/
structure FreedRows (now : Time) (s t : Db) : Prop where
  rows : ∀ id, Option.Rel (Freed now) (s.jobs.get? id) (t.jobs.get? id)
  drawn : t.drawn = s.drawn

theorem FreedRows.trans {now : Time} (h : FreedRows now s t) (k : FreedRows now t u) :
    FreedRows now s u :=
  ⟨fun id => rel_trans (R := Freed now) (S := Freed now) (fun _ _ _ => Freed.trans) (h.rows id)
    (k.rows id), k.drawn.trans h.drawn⟩

theorem FreedRows.of_updateRows {now : Time} {p : Job → Bool} {values : Job → Job} {a : Unit}
    (hfreed : ∀ j, p j = true → Freed now j (keyed values j))
    (h : updateRows p values s = (.ok a, t)) : FreedRows now s t := by
  cases h
  refine ⟨fun id => ?_, rfl⟩
  show Option.Rel _ _ ((s.jobs.update p (keyed values) (by intro j; rfl)).get? id)
  rw [get?_updateRows]
  cases s.jobs.get? id with
  | none => exact .none
  | some j =>
    refine .some ?_
    dsimp only
    by_cases hp : p j = true
    · rw [if_pos hp]
      exact hfreed j hp
    · rw [if_neg hp]
      exact Freed.refl now j

theorem freed_reclaimedValues {status : JobStatus} {message : String} {now : Time} {j : Job}
    (hstatus : status.isActiveWork = false) (h : hasExpired now j = true) :
    Freed now j (keyed (reclaimedValues status message now) j) := by
  simp only [hasExpired, Bool.and_eq_true] at h
  exact ⟨rfl, fun _ => .of_free hstatus rfl rfl rfl, .inr ⟨lapsed_of_any h.2, rfl, rfl⟩⟩

theorem freedRows_reclaimScope {now : Time} {scope : Job → Bool} {a : Unit}
    (h : reclaimScope now scope s = (.ok a, t)) : FreedRows now s t := by
  obtain ⟨_, u, hterminal, hretryable⟩ := Tx.run_bind_ok h
  refine (FreedRows.of_updateRows (fun j hj => ?_) hterminal).trans
    (FreedRows.of_updateRows (fun j hj => ?_) hretryable)
  all_goals
    simp only [Bool.and_eq_true] at hj
    exact freed_reclaimedValues rfl hj.1.1

theorem freedRows_requeue {now : Time} {scope : Job → Bool} {a : Unit}
    (h : requeue now scope s = (.ok a, t)) : FreedRows now s t := by
  refine FreedRows.of_updateRows (fun j hj => ?_) h
  refine ⟨rfl, fun hshape => ?_, .inl ⟨rfl, rfl⟩⟩
  simp only [Bool.and_eq_true, Bool.or_eq_true, decide_eq_true_eq] at hj
  have hidle : j.status.isActiveWork = false := by
    rcases hj.1.2 with hs | hs
    · rw [hs]
      rfl
    · rw [hs]
      rfl
  obtain ⟨howner, htoken, hexpires⟩ := hshape.idle hidle
  exact .of_free rfl howner htoken hexpires

theorem Freed.moved {repo : JobRepository} {c : JobCall} {d e : Nat} {now : Time} {j j' : Job}
    (h : Freed now j j') (hnow : c.now = now) (hshape : j.LeaseShape) : Moved repo c d e j j' := by
  subst hnow
  refine ⟨h.shape hshape, ?_⟩
  rcases h.lease with ⟨htoken, _⟩ | ⟨hlapsed, htoken, _⟩
  · exact .inl htoken
  · exact .inr ⟨.lapsed hlapsed, .inl htoken⟩

theorem FreedRows.callRows {repo : JobRepository} {c : JobCall} {now : Time}
    (h : FreedRows now s u) (hnow : c.now = now)
    (ht : ∀ k, t.jobs.get? k = u.jobs.get? k) (hd : u.drawn ≤ t.drawn) : CallRows repo c s t where
  kept id j hj hshape := by
    have hrel := h.rows id
    rw [hj] at hrel
    obtain ⟨j', hj', hfreed⟩ := rel_some_left hrel
    exact ⟨j', by rw [ht, hj'], hfreed.moved hnow hshape⟩
  added id j' hs hj' := by
    rw [ht] at hj'
    have hrel := h.rows id
    rw [hs, hj'] at hrel
    cases hrel
  drawn := h.drawn ▸ hd

/-- A queued row that a claim writes to, after the rows were freed. -/
theorem FreedRows.claimed {repo : JobRepository} {c : JobCall} {id workerId : String}
    {conditions : Job → Bool} {expiresAt now : Time} {job : Job} (h : FreedRows now s u)
    (hnow : c.now = now) (hw : Wrote { u with drawn := u.drawn + 1 } id conditions
      (claimedValues workerId (repo.uuid u.drawn) expiresAt now) job t)
    (hqueued : ∀ j, conditions j = true → j.status = .queued) :
    CallRows repo c s t ∧ Issued repo s t job := by
  have hdrawn : Drawn repo s.drawn t.drawn (some (repo.uuid u.drawn)) :=
    ⟨u.drawn, Nat.le_of_eq h.drawn.symm, by rw [hw.drawn]; exact Nat.lt_succ_self _, rfl⟩
  obtain ⟨i, hi, hc, hjob⟩ := hw.row
  refine ⟨⟨fun k j hj hshape => ?_, fun k j' hs ht => ?_, ?_⟩, ?_⟩
  · have hrel := h.rows k
    rw [hj] at hrel
    obtain ⟨j', hj', hfreed⟩ := rel_some_left hrel
    rw [hw.rows]
    by_cases hk : k = id
    · subst hk
      have hji : i = j' := Option.some.inj (hi.symm.trans hj')
      subst hji
      refine ⟨job, if_pos rfl, ?_⟩
      rw [hjob]
      refine Moved.of_drawn ?_ rfl rfl rfl hdrawn
      have hnone := ((hfreed.shape hshape).idle (by rw [hqueued i hc]; rfl)).2.1
      rcases hfreed.lease with ⟨htoken, _⟩ | ⟨hlapsed, _⟩
      · exact .free (htoken ▸ hnone)
      · exact .lapsed (hnow ▸ hlapsed)
    · rw [if_neg hk]
      exact ⟨j', hj', hfreed.moved hnow hshape⟩
  · have hrel := h.rows k
    rw [hs] at hrel
    rw [hw.rows] at ht
    by_cases hk : k = id
    · subst hk
      have hi' : u.jobs.get? k = some i := hi
      rw [hi'] at hrel
      cases hrel
    · rw [if_neg hk] at ht
      have ht' : u.jobs.get? k = some j' := ht
      rw [ht'] at hrel
      cases hrel
  · rw [hw.drawn, ← h.drawn]
    exact Nat.le_succ _
  · refine hw.issued ?_
    rw [hjob]
    exact hdrawn

theorem isEligible_queued {now : Time} {j : Job} (h : isEligible now j = true) :
    j.status = .queued := by
  simp only [isEligible, Bool.and_eq_true, decide_eq_true_eq] at h
  exact h.1

section Claims

variable {repo : JobRepository} {jobId workerId : String} {leaseSeconds : Int} {now : Time}

theorem reclaimExpired_rows {types : Option (List String)} {scope : Option String} {a : Unit}
    (h : JobRepository.reclaimExpired now scope types s = (.ok a, t)) :
    CallRows repo (.reclaimExpired scope types now) s t := by
  obtain ⟨normalized, _, h⟩ := Tx.run_bind_read (readOnly_normalizeJobTypes _) h
  exact (freedRows_reclaimScope h).callRows rfl (fun _ => rfl) (Nat.le_refl _)

theorem claim_rows {r : Option Job}
    (h : claim repo jobId workerId leaseSeconds now s = (.ok r, t)) :
    CallRows repo (.claim jobId workerId leaseSeconds now) s t ∧
      ∀ job, r = some job → Issued repo s t job := by
  obtain ⟨expiresAt, _, h⟩ := Tx.run_bind_read (readOnly_leaseUntil _ _) h
  obtain ⟨observed, _, h⟩ := Tx.run_bind_read (readOnly_get _) h
  obtain ⟨active, _, h⟩ := Tx.run_bind_read (readOnly_scopeActive _) h
  cases active with
  | false =>
    cases h
    exact ⟨.same (fun _ => rfl) (Nat.le_refl _), fun _ hr => by cases hr⟩
  | true =>
    obtain ⟨_, v, hreclaim, h⟩ := Tx.run_bind_ok h
    obtain ⟨_, u, hrequeue, h⟩ := Tx.run_bind_ok h
    have hfreed := (freedRows_reclaimScope hreclaim).trans (freedRows_requeue hrequeue)
    obtain ⟨token, u', htoken, h⟩ := Tx.run_bind_ok h
    cases htoken
    obtain ⟨claimed, w, hclaim, h⟩ := Tx.run_bind_ok h
    cases claimed with
    | some job =>
      cases h
      have hc : CallRows repo (.claim jobId workerId leaseSeconds now) s t ∧ Issued repo s t job :=
        hfreed.claimed rfl (updateReturning_some hclaim) fun j => isEligible_queued
      refine ⟨hc.1, fun job' hr => ?_⟩
      cases hr
      exact hc.2
    | none =>
      obtain ⟨hrows, hdrawn⟩ := updateReturning_none hclaim
      obtain ⟨existing, _, h⟩ := Tx.run_bind_read (readOnly_get _) h
      obtain ⟨_, h⟩ := Tx.run_bind_require h
      cases h
      refine ⟨hfreed.callRows rfl hrows ?_, fun _ hr => by cases hr⟩
      rw [hdrawn]
      exact Nat.le_succ _

theorem claimNext_rows {types : Option (List String)} {r : Option Job}
    (h : claimNext repo workerId leaseSeconds types now s = (.ok r, t)) :
    CallRows repo (.claimNext workerId leaseSeconds types now) s t ∧
      ∀ job, r = some job → Issued repo s t job := by
  obtain ⟨expiresAt, _, h⟩ := Tx.run_bind_read (readOnly_leaseUntil _ _) h
  obtain ⟨normalized, _, h⟩ := Tx.run_bind_read (readOnly_normalizeJobTypes _) h
  obtain ⟨_, v, hreclaim, h⟩ := Tx.run_bind_ok h
  obtain ⟨_, u, hrequeue, h⟩ := Tx.run_bind_ok h
  have hfreed := (freedRows_reclaimScope hreclaim).trans (freedRows_requeue hrequeue)
  obtain ⟨chosen, _, h⟩ := Tx.run_bind_read (Tx.Within.read Tx.ReadOnly.chains _) h
  cases chosen with
  | none =>
    cases h
    exact ⟨hfreed.callRows rfl (fun _ => rfl) (Nat.le_refl _), fun _ hr => by cases hr⟩
  | some chosen =>
    obtain ⟨active, _, h⟩ := Tx.run_bind_read (readOnly_scopeActive _) h
    cases active with
    | false =>
      cases h
      exact ⟨hfreed.callRows rfl (fun _ => rfl) (Nat.le_refl _), fun _ hr => by cases hr⟩
    | true =>
      obtain ⟨token, u', htoken, h⟩ := Tx.run_bind_ok h
      cases htoken
      cases r with
      | some job =>
        have hc : CallRows repo (.claimNext workerId leaseSeconds types now) s t ∧
            Issued repo s t job :=
          hfreed.claimed rfl (updateReturning_some h) fun j hj =>
            isEligible_queued (Bool.and_eq_true _ _ ▸ hj).1
        refine ⟨hc.1, fun job' hr => ?_⟩
        cases hr
        exact hc.2
      | none =>
        obtain ⟨hrows, hdrawn⟩ := updateReturning_none h
        refine ⟨hfreed.callRows rfl hrows ?_, fun _ hr => by cases hr⟩
        rw [hdrawn]
        exact Nat.le_succ _

/-- `enqueue` after its look at the subscription. -/
def enqueueRow (repo : JobRepository) (args : EnqueueArguments) (now : Time) : JobSession Job := do
  let id ← newToken repo
  let existing ← Tx.read (fun db : Db => db.jobs.rows.find?
    (fun j => j.jobType = args.jobType && j.naturalKey = args.naturalKey))
  match existing with
  | some job => pure job
  | none => insertRow (newJob repo id args now)

theorem enqueue_rows {args : EnqueueArguments} {job : Job}
    (h : enqueue repo args now s = (.ok job, t)) : CallRows repo (.enqueue args now) s t := by
  have hrest : enqueueRow repo args now s = (.ok job, t) := by
    unfold enqueue at h
    cases hsub : args.subscriptionId with
    | none =>
      rw [hsub] at h
      exact h
    | some subscriptionId =>
      rw [hsub] at h
      obtain ⟨_, _, h⟩ := Tx.run_bind_read (readOnly_requireActive _) h
      exact h
  clear h
  obtain ⟨id, u', hid, h⟩ := Tx.run_bind_ok hrest
  cases hid
  obtain ⟨existing, _, h⟩ := Tx.run_bind_read (Tx.Within.read Tx.ReadOnly.chains _) h
  cases existing with
  | some existing =>
    cases h
    exact .same (fun _ => rfl) (Nat.le_succ _)
  | none =>
    simp only [insertRow] at h
    split at h
    · rename_i jobs hins
      cases h
      have hnew : (newJob repo (repo.uuid s.drawn) args now).LeaseShape :=
        .of_free rfl rfl rfl rfl
      refine ⟨fun k j hj hshape => ⟨j, ?_, .stays hshape⟩, fun k j' hs ht => ?_, Nat.le_succ _⟩
      · show jobs.get? k = some j
        rw [Table.get?_insert? hins]
        split
        · rename_i hk
          have hfree := Table.insert?_fresh hins
          rw [hk] at hfree
          exact absurd (hfree.symm.trans hj) (by simp)
        · exact hj
      · have ht' : jobs.get? k = some j' := ht
        rw [Table.get?_insert? hins] at ht'
        split at ht'
        · cases ht'
          exact ⟨rfl, hnew⟩
        · exact absurd (hs.symm.trans ht') (by simp)
    · cases h

end Claims

end JobRepository

namespace JobCall

open JobRepository

variable {repo : JobRepository} {c : JobCall} {s t : Db} {r : Option Job}

theorem run_rows (h : c.run repo s = (.ok r, t)) : CallRows repo c s t := by
  cases c with
  | claim => exact (claim_rows h).1
  | claimNext => exact (claimNext_rows h).1
  | reclaimExpired =>
    obtain ⟨_, _, hrun, h⟩ := Tx.run_bind_ok h
    cases h
    exact reclaimExpired_rows hrun
  | enqueue =>
    obtain ⟨_, _, hrun, h⟩ := Tx.run_bind_ok h
    cases h
    exact enqueue_rows hrun
  | start =>
    obtain ⟨_, _, hrun, h⟩ := Tx.run_bind_ok h
    cases h
    exact (start_rows hrun).1
  | renewLease =>
    obtain ⟨_, _, hrun, h⟩ := Tx.run_bind_ok h
    cases h
    exact (renewLease_rows hrun).1
  | complete =>
    obtain ⟨_, _, hrun, h⟩ := Tx.run_bind_ok h
    cases h
    exact (complete_rows hrun).1
  | fail =>
    obtain ⟨_, _, hrun, h⟩ := Tx.run_bind_ok h
    cases h
    exact (fail_rows hrun).1
  | renewUnreclaimedLease =>
    obtain ⟨_, _, hrun, h⟩ := Tx.run_bind_ok h
    cases h
    exact (renewUnreclaimedLease_rows hrun).1
  | takeoverExpiredRunningLease =>
    obtain ⟨_, _, hrun, h⟩ := Tx.run_bind_ok h
    cases h
    exact (takeoverExpiredRunningLease_rows hrun).1.1
  | resumeReclaimedPreparedResult =>
    obtain ⟨_, _, hrun, h⟩ := Tx.run_bind_ok h
    cases h
    exact (resumeReclaimedPreparedResult_rows hrun).1
  | completeRecoveredPublication =>
    obtain ⟨_, _, hrun, h⟩ := Tx.run_bind_ok h
    cases h
    exact (completeRecoveredPublication_rows hrun).1
  | cancel =>
    obtain ⟨_, _, hrun, h⟩ := Tx.run_bind_ok h
    cases h
    exact cancel_rows hrun

/-- A call that presents a token is accepted only where the row stores that token. -/
theorem run_stores {jobId token : String} (hp : c.presents? = some (jobId, token))
    (h : c.run repo s = (.ok r, t)) : Stores s jobId token := by
  cases c with
  | start =>
    obtain ⟨_, _, hrun, _⟩ := Tx.run_bind_ok h
    cases hp
    have hrows : CallRows repo _ _ _ ∧ _ := start_rows hrun
    exact hrows.2
  | renewLease =>
    obtain ⟨_, _, hrun, _⟩ := Tx.run_bind_ok h
    cases hp
    exact (renewLease_rows hrun).2
  | complete =>
    obtain ⟨_, _, hrun, _⟩ := Tx.run_bind_ok h
    cases hp
    exact (complete_rows hrun).2
  | fail =>
    obtain ⟨_, _, hrun, _⟩ := Tx.run_bind_ok h
    cases hp
    exact (fail_rows hrun).2
  | renewUnreclaimedLease =>
    obtain ⟨_, _, hrun, _⟩ := Tx.run_bind_ok h
    cases hp
    have hrows : CallRows repo _ _ _ ∧ _ := renewUnreclaimedLease_rows hrun
    exact hrows.2
  | takeoverExpiredRunningLease =>
    obtain ⟨_, _, hrun, _⟩ := Tx.run_bind_ok h
    cases hp
    exact (takeoverExpiredRunningLease_rows hrun).1.2
  | completeRecoveredPublication _ _ _ expectedToken =>
    obtain ⟨_, _, hrun, _⟩ := Tx.run_bind_ok h
    cases expectedToken with
    | none => cases hp
    | some expected =>
      cases hp
      exact (completeRecoveredPublication_rows hrun).2 _ rfl
  | enqueue => cases hp
  | reclaimExpired => cases hp
  | claim => cases hp
  | claimNext => cases hp
  | resumeReclaimedPreparedResult => cases hp
  | cancel => cases hp

theorem run_issued {job : Job} (hi : c.issues = true) (h : c.run repo s = (.ok (some job), t)) :
    Issued repo s t job := by
  cases c with
  | claim => exact (claim_rows h).2 job rfl
  | claimNext => exact (claimNext_rows h).2 job rfl
  | takeoverExpiredRunningLease =>
    obtain ⟨_, _, hrun, h⟩ := Tx.run_bind_ok h
    cases h
    exact (takeoverExpiredRunningLease_rows hrun).2
  | resumeReclaimedPreparedResult =>
    obtain ⟨_, _, hrun, h⟩ := Tx.run_bind_ok h
    cases h
    exact (resumeReclaimedPreparedResult_rows hrun).2
  | enqueue => cases hi
  | reclaimExpired => cases hi
  | start => cases hi
  | renewLease => cases hi
  | complete => cases hi
  | fail => cases hi
  | renewUnreclaimedLease => cases hi
  | completeRecoveredPublication => cases hi
  | cancel => cases hi

end JobCall

/-! ## Runs -/

/-- A token in the hands of the caller that it was issued to. -/
structure Holding where
  caller : Nat
  jobId : String
  token : String
  deriving DecidableEq

structure LeaseWorld where
  db : Db
  hands : List Holding

/-- What a caller walks away with. -/
def handed (caller : Nat) (c : JobCall) (reply : Except JobError (Option Job)) : List Holding :=
  match reply with
  | .ok (some job) =>
    if c.issues then (job.leaseToken.map (fun token => ⟨caller, job.id, token⟩)).toList else []
  | _ => []

/-- Other code adds rows without a lease and leaves the leases of the others alone. -/
structure LeasesKept (s t : Db) : Prop where
  kept : ∀ id j, s.jobs.get? id = some j → ∃ j', t.jobs.get? id = some j' ∧
    j'.status.isActiveWork = j.status.isActiveWork ∧ j'.leaseOwner = j.leaseOwner ∧
    j'.leaseToken = j.leaseToken ∧ j'.leaseExpiresAt = j.leaseExpiresAt
  added : ∀ id j', s.jobs.get? id = none → t.jobs.get? id = some j' →
    j'.leaseToken = none ∧ j'.LeaseShape
  drawn : s.drawn ≤ t.drawn

inductive LeaseEvent where
  | call (caller : Nat) (c : JobCall)
  | elsewhere

/-- One committed or rolled back transaction of any caller. -/
inductive LeaseStep (repo : JobRepository) : LeaseWorld → LeaseEvent → LeaseWorld → Prop
  | call {w : LeaseWorld} {caller : Nat} {c : JobCall} {reply : Except JobError (Option Job)}
      {t : Db} : Tx.commit (c.run repo) w.db = (reply, t) →
      LeaseStep repo w (.call caller c) ⟨t, handed caller c reply ++ w.hands⟩
  | elsewhere {w : LeaseWorld} {t : Db} : LeasesKept w.db t →
      LeaseStep repo w .elsewhere ⟨t, w.hands⟩

/-- Nobody holds anything and no job is under a lease. -/
structure LeaseWorld.Idle (w : LeaseWorld) : Prop where
  hands : w.hands = []
  rows : ∀ id j, w.db.jobs.get? id = some j → j.status.isActiveWork = false ∧
    j.leaseOwner = none ∧ j.leaseToken = none ∧ j.leaseExpiresAt = none

/-- The call would be accepted. -/
def JobCall.Accepted (repo : JobRepository) (s : Db) (c : JobCall) : Prop :=
  ∃ r t, c.run repo s = (.ok r, t)

/-- What holds in every reachable world. -/
structure LeaseWorld.Sound (repo : JobRepository) (w : LeaseWorld) : Prop where
  shapes : ∀ id j, w.db.jobs.get? id = some j → j.LeaseShape
  drawn : ∀ h ∈ w.hands, ∃ n, n < w.db.drawn ∧ h.token = repo.uuid n
  distinct : (w.hands.map Holding.token).Nodup

section Runs

variable {repo : JobRepository} {w w' : LeaseWorld} {e : LeaseEvent}

/-- The rows of the two ends of a step, with the call where there is one. -/
theorem LeaseStep.rows (h : LeaseStep repo w e w') :
    (∃ caller c, e = .call caller c ∧ JobRepository.CallRows repo c w.db w'.db) ∨
      (LeasesKept w.db w'.db) := by
  cases h with
  | elsewhere hkept => exact .inr hkept
  | @call caller c reply t hrun =>
    cases reply with
    | ok r => exact .inl ⟨caller, c, rfl, JobCall.run_rows (Tx.commit_ok hrun)⟩
    | error err =>
      rw [Tx.commit_error hrun]
      exact .inl ⟨caller, c, rfl, .same (fun _ => rfl) (Nat.le_refl _)⟩

theorem LeaseStep.drawn (h : LeaseStep repo w e w') : w.db.drawn ≤ w'.db.drawn := by
  rcases h.rows with ⟨_, _, _, hrows⟩ | hkept
  · exact hrows.drawn
  · exact hkept.drawn

theorem LeaseStep.shapes (h : LeaseStep repo w e w')
    (hw : ∀ id j, w.db.jobs.get? id = some j → j.LeaseShape) :
    ∀ id j, w'.db.jobs.get? id = some j → j.LeaseShape := by
  intro id j' hj'
  rcases h.rows with ⟨_, _, _, hrows⟩ | hkept
  · cases hs : w.db.jobs.get? id with
    | none => exact (hrows.added id j' hs hj').2
    | some j =>
      obtain ⟨k, hk, hmoved⟩ := hrows.kept id j hs (hw id j hs)
      cases hk.symm.trans hj'
      exact hmoved.shape
  · cases hs : w.db.jobs.get? id with
    | none => exact (hkept.added id j' hs hj').2
    | some j =>
      obtain ⟨k, hk, hactive, howner, htoken, hexpires⟩ := hkept.kept id j hs
      cases hk.symm.trans hj'
      have hshape := hw id j hs
      constructor
      · rw [hactive, howner, htoken, hexpires]
        exact hshape.active
      · rw [hactive, howner, htoken, hexpires]
        exact hshape.idle

/-- A caller walks away with at most one token, and nobody held it before. -/
theorem handed_drawn {caller : Nat} {c : JobCall} {reply : Except JobError (Option Job)} {s t : Db}
    (hrun : Tx.commit (c.run repo) s = (reply, t)) :
    handed caller c reply = [] ∨ ∃ jobId n, s.drawn ≤ n ∧ n < t.drawn ∧
      handed caller c reply = [⟨caller, jobId, repo.uuid n⟩] := by
  unfold handed
  split
  · rename_i job
    by_cases hi : c.issues = true
    · rw [if_pos hi]
      obtain ⟨⟨n, hle, hlt, htoken⟩, _⟩ := JobCall.run_issued hi (Tx.commit_ok hrun)
      exact .inr ⟨job.id, n, hle, hlt, by rw [htoken]; rfl⟩
    · exact .inl (if_neg hi)
  · exact .inl rfl

theorem LeaseStep.sound (hfresh : Function.Injective repo.uuid) (hw : w.Sound repo)
    (h : LeaseStep repo w e w') : w'.Sound repo := by
  refine ⟨h.shapes hw.shapes, ?_, ?_⟩
  · have hle := h.drawn
    have hold : ∀ x ∈ w.hands, ∃ n, n < w'.db.drawn ∧ x.token = repo.uuid n := by
      intro x hx
      obtain ⟨n, hn, htoken⟩ := hw.drawn x hx
      exact ⟨n, Nat.lt_of_lt_of_le hn hle, htoken⟩
    cases h with
    | elsewhere => exact hold
    | call hrun =>
      intro x hx
      rcases List.mem_append.1 hx with hnew | hx
      · rcases handed_drawn hrun with hnil | ⟨jobId, n, _, hlt, hone⟩
        · rw [hnil] at hnew
          cases hnew
        · rw [hone, List.mem_singleton] at hnew
          exact ⟨n, hlt, by rw [hnew]⟩
      · exact hold x hx
  · cases h with
    | elsewhere => exact hw.distinct
    | call hrun =>
      rcases handed_drawn hrun with hnil | ⟨jobId, n, hle, _, hone⟩
      · rw [hnil]
        exact hw.distinct
      · rw [hone]
        refine List.nodup_cons.2 ⟨fun hmem => ?_, hw.distinct⟩
        obtain ⟨x, hx, htoken⟩ := List.mem_map.1 hmem
        obtain ⟨m, hm, hxm⟩ := hw.drawn x hx
        have hmn : m = n := hfresh (hxm.symm.trans htoken)
        omega

/-- A token that was handed out and is not stored stays out of the row. -/
theorem LeaseStep.stays_out (hfresh : Function.Injective repo.uuid) (hw : w.Sound repo)
    (h : LeaseStep repo w e w') {jobId : String} {n : Nat} (hn : n < w.db.drawn)
    (hout : ¬ JobRepository.Stores w.db jobId (repo.uuid n)) :
    ¬ JobRepository.Stores w'.db jobId (repo.uuid n) := by
  rintro ⟨j', hj', htoken'⟩
  rcases h.rows with ⟨_, c, _, hrows⟩ | hkept
  · cases hs : w.db.jobs.get? jobId with
    | none =>
      rw [(hrows.added jobId j' hs hj').1] at htoken'
      cases htoken'
    | some j =>
      obtain ⟨k, hk, hmoved⟩ := hrows.kept jobId j hs (hw.shapes jobId j hs)
      cases hk.symm.trans hj'
      rcases hmoved.token with hsame | ⟨_, hnone | ⟨m, hm, _, hdrawn⟩⟩
      · exact hout ⟨j, hs, hsame ▸ htoken'⟩
      · rw [hnone] at htoken'
        cases htoken'
      · have hmn : m = n := hfresh (Option.some.inj (hdrawn.symm.trans htoken'))
        omega
  · cases hs : w.db.jobs.get? jobId with
    | none =>
      rw [(hkept.added jobId j' hs hj').1] at htoken'
      cases htoken'
    | some j =>
      obtain ⟨k, hk, _, _, htoken, _⟩ := hkept.kept jobId j hs
      cases hk.symm.trans hj'
      exact hout ⟨j, hs, htoken ▸ htoken'⟩

/-- A call displaces only what it may displace. -/
theorem LeaseStep.displaces {caller : Nat} {c : JobCall} (hw : w.Sound repo)
    (h : LeaseStep repo w (.call caller c) w') {jobId : String} {j : Job}
    (hj : w.db.jobs.get? jobId = some j) :
    (∃ j', w'.db.jobs.get? jobId = some j' ∧ j'.leaseToken = j.leaseToken) ∨
      JobRepository.Displaceable c j := by
  rcases h.rows with ⟨_, c', hcall, hrows⟩ | hkept
  · cases hcall
    obtain ⟨j', hj', hmoved⟩ := hrows.kept jobId j hj (hw.shapes jobId j hj)
    rcases hmoved.token with hsame | ⟨hdisplaceable, _⟩
    · exact .inl ⟨j', hj', hsame⟩
    · exact .inr hdisplaceable
  · obtain ⟨j', hj', _, _, htoken, _⟩ := hkept.kept jobId j hj
    exact .inl ⟨j', hj', htoken⟩

theorem sound_of_leaseTrace (hfresh : Function.Injective repo.uuid) {es : List LeaseEvent}
    (hidle : w.Idle) (ht : Trace (LeaseStep repo) w es w') : w'.Sound repo := by
  refine ht.invariant (fun _ _ _ hw h => h.sound hfresh hw) ⟨fun id j hj => ?_, ?_, ?_⟩
  · obtain ⟨hactive, howner, htoken, hexpires⟩ := hidle.rows id j hj
    exact .of_free hactive howner htoken hexpires
  · rw [hidle.hands]
    exact fun _ hx => by cases hx
  · rw [hidle.hands]
    exact List.nodup_nil

theorem stays_out_of_leaseTrace (hfresh : Function.Injective repo.uuid) {es : List LeaseEvent}
    (hw : w.Sound repo) (ht : Trace (LeaseStep repo) w es w') {jobId : String} {n : Nat}
    (hn : n < w.db.drawn) (hout : ¬ JobRepository.Stores w.db jobId (repo.uuid n)) :
    ¬ JobRepository.Stores w'.db jobId (repo.uuid n) := by
  have hinv := ht.invariant
    (I := fun v => v.Sound repo ∧ n < v.db.drawn ∧ ¬ JobRepository.Stores v.db jobId (repo.uuid n))
    (fun v e v' hv h => ⟨h.sound hfresh hv.1, Nat.lt_of_lt_of_le hv.2.1 h.drawn,
      h.stays_out hfresh hv.1 hv.2.1 hv.2.2⟩) ⟨hw, hn, hout⟩
  exact hinv.2.2

end Runs

/-- Exclusivity of the leases of the job repository over whole runs: of the holders of one job at
most one is accepted, a live lease is displaced by nobody but its holder and a cancellation, and a
token that left its job is never accepted again. -/
theorem job_leases_exclusive {repo : JobRepository} (hfresh : Function.Injective repo.uuid)
    {v w : LeaseWorld} {es : List LeaseEvent} (hidle : v.Idle)
    (ht : Trace (LeaseStep repo) v es w) :
    (∀ a ∈ w.hands, ∀ b ∈ w.hands, a.jobId = b.jobId → ∀ c d : JobCall,
      c.presents? = some (a.jobId, a.token) → d.presents? = some (b.jobId, b.token) →
      c.Accepted repo w.db → d.Accepted repo w.db → a = b) ∧
    (∀ caller c w', LeaseStep repo w (.call caller c) w' → ∀ a ∈ w.hands, ∀ j x,
      w.db.jobs.get? a.jobId = some j → j.leaseToken = some a.token →
      j.leaseExpiresAt = some x → c.now < x → c.cancels? ≠ some a.jobId →
      ¬ (c.presents? = some (a.jobId, a.token) ∧ c.finishes = true) →
      JobRepository.Stores w'.db a.jobId a.token) ∧
    (∀ a ∈ w.hands, ¬ JobRepository.Stores w.db a.jobId a.token → ∀ ds w',
      Trace (LeaseStep repo) w ds w' → ∀ c : JobCall, c.presents? = some (a.jobId, a.token) →
      ¬ c.Accepted repo w'.db) := by
  have hw := sound_of_leaseTrace hfresh hidle ht
  refine ⟨?_, ?_, ?_⟩
  · rintro a ha b hb hjob c d hc hd ⟨r, t, hrun⟩ ⟨r', t', hrun'⟩
    obtain ⟨j, hj, htoken⟩ := JobCall.run_stores hc hrun
    obtain ⟨j', hj', htoken'⟩ := JobCall.run_stores hd hrun'
    rw [← hjob, hj] at hj'
    cases hj'
    exact List.inj_on_of_nodup_map hw.distinct ha hb
      (Option.some.inj (htoken.symm.trans htoken'))
  · intro caller c w' hstep a ha j x hj htoken hexpires hlive hcancel hown
    rcases hstep.displaces hw hj with ⟨j', hj', hsame⟩ | hdisplaceable
    · exact ⟨j', hj', hsame.trans htoken⟩
    · exfalso
      have hid := Table.get?_key hj
      cases hdisplaceable with
      | free hnone =>
        rw [hnone] at htoken
        cases htoken
      | lapsed hlapsed =>
        obtain ⟨y, hy, hle⟩ := hlapsed
        rw [hexpires] at hy
        cases hy
        exact Nat.not_lt.2 hle hlive
      | given hstored hpresents hfinishes =>
        rw [htoken] at hstored
        cases hstored
        exact hown ⟨hid ▸ hpresents, hfinishes⟩
      | cancelled hc => exact hcancel (hid ▸ hc)
  · rintro a ha hout ds w' hd c hc ⟨r, t, hrun⟩
    obtain ⟨n, hn, htoken⟩ := hw.drawn a ha
    have hstores := JobCall.run_stores hc hrun
    rw [htoken] at hout hstores
    exact stays_out_of_leaseTrace hfresh hw hd hn hout hstores

/-- The calls of the callers one after the other. -/
def leaseRun (repo : JobRepository) : List (Nat × JobCall) → LeaseWorld → LeaseWorld
  | [], w => w
  | (caller, c) :: rest, w =>
    let r := Tx.commit (c.run repo) w.db
    leaseRun repo rest ⟨r.2, handed caller c r.1 ++ w.hands⟩

theorem leaseRun_trace (repo : JobRepository) (calls : List (Nat × JobCall)) (w : LeaseWorld) :
    Trace (LeaseStep repo) w (calls.map (fun p => .call p.1 p.2)) (leaseRun repo calls w) := by
  induction calls generalizing w with
  | nil => exact .nil
  | cons p rest ih => exact Trace.cons (.call rfl) (ih _)

def sampleJobRepository : JobRepository where
  uuid := sampleRepository.uuid
  redactMapping := id
  redactText := id

/-- A download job is claimed and started, its lease runs out, and the recovery takes it over. -/
def sampleTakeover : List (Nat × JobCall) :=
  [(0, .enqueue ⟨"asset_download", "asset-1", .obj [], none, none, none, none, 0, 3, 0, none⟩ 0),
    (1, .claim "a" "worker-1" 60 0), (1, .start "a" "worker-1" "aa" 1),
    (2, .takeoverExpiredRunningLease "a" "worker-1" "aa" "worker-2" 60 60000000)]

def sampleLeases : LeaseWorld :=
  leaseRun sampleJobRepository sampleTakeover ⟨sampleDb, []⟩

/-- After the takeover the first holder is never accepted again, whatever it calls. -/
theorem job_leases_exclusive_sample :
    sampleLeases.hands = [⟨2, "a", "aaa"⟩, ⟨1, "a", "aa"⟩] ∧
      ∀ ds w', Trace (LeaseStep sampleJobRepository) sampleLeases ds w' → ∀ c : JobCall,
        c.presents? = some ("a", "aa") → ¬ c.Accepted sampleJobRepository w'.db := by
  have hhands : sampleLeases.hands = [⟨2, "a", "aaa"⟩, ⟨1, "a", "aa"⟩] := by decide +kernel
  have hstored : (sampleLeases.db.jobs.get? "a").map (·.leaseToken) = some (some "aaa") := by
    decide +kernel
  have hfresh : Function.Injective sampleJobRepository.uuid := sampleRepository_fresh
  refine ⟨hhands, fun ds w' hd c hc => ?_⟩
  refine (job_leases_exclusive hfresh ⟨rfl, fun id j hj => by cases hj⟩
    (leaseRun_trace _ sampleTakeover _)).2.2 ⟨1, "a", "aa"⟩ ?_ ?_ ds w' hd c hc
  · exact hhands ▸ List.mem_cons_of_mem _ (List.mem_singleton_self _)
  · rintro ⟨j, hj, htoken⟩
    have hj' : sampleLeases.db.jobs.get? "a" = some j := hj
    rw [hj', Option.map_some, htoken] at hstored
    exact absurd hstored (by decide)

end MediaSync.Scheduler
