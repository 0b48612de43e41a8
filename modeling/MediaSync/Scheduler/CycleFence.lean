import MediaSync.Scheduler.CycleEnds
import MediaSync.Scheduler.JobShape
import MediaSync.Scheduler.PolicyUpdate

/-!
# Active cycles and their revisions

A schedule revision is the number of the next cycle. Every cycle was issued
under a smaller revision and the active one under the last, so a finalizer can
only meet the revision it expects: what moves a revision without issuing a
cycle requires that no cycle is active. The invariant carries this, without the
unique indexes of the job table.
-/

namespace MediaSync.Scheduler

open Python Transaction Transition SchedulerError SchedulerRepository Relation

theorem split_at_last {α : Type} {a : α} {x y d e : List α} (hd : a ∉ d) (he : a ∉ e)
    (h : x ++ a :: d = y ++ a :: e) : x = y ∧ d = e := by
  rcases List.append_eq_append_iff.1 h with ⟨z, rfl, hz⟩ | ⟨z, rfl, hz⟩
  · cases z with
    | nil =>
      simp only [List.nil_append, List.cons.injEq, true_and] at hz
      exact ⟨by simp, hz⟩
    | cons b z =>
      simp only [List.cons_append, List.cons.injEq] at hz
      exact (hd (by rw [hz.2]; simp)).elim
  · cases z with
    | nil =>
      simp only [List.nil_append, List.cons.injEq, true_and] at hz
      exact ⟨by simp, hz.symm⟩
    | cons b z =>
      simp only [List.cons_append, List.cons.injEq] at hz
      exact (he (by rw [hz.2]; simp)).elim

theorem colon_notMem_repr (n : Nat) : ':' ∉ (toString n).toList := by
  intro h
  have hdigit := Nat.isDigit_of_mem_toDigits (b := 10) (n := n) (by decide) (by decide)
    (by rw [← Nat.toList_repr]; exact h)
  simp at hdigit

/-- A natural key names its subscription and its revision. -/
theorem scheduleNaturalKey_injective {i j : String} {m n : Nat}
    (h : scheduleNaturalKey i m = scheduleNaturalKey j n) : i = j ∧ m = n := by
  have hlist := congrArg String.toList h
  simp only [scheduleNaturalKey, String.toList_append] at hlist
  have hcolon : ":schedule:".toList = ":schedule".toList ++ [':'] := by decide
  rw [hcolon] at hlist
  simp only [List.append_assoc, List.singleton_append] at hlist
  rw [← List.append_assoc, ← List.append_assoc, ← List.append_assoc, ← List.append_assoc] at hlist
  obtain ⟨hids, hdigits⟩ := split_at_last (colon_notMem_repr m) (colon_notMem_repr n) hlist
  constructor
  · exact String.toList_inj.1 (List.append_cancel_left (List.append_cancel_right hids))
  · have hm := Nat.ofDigitChars_toDigits (b := 10) (n := m) (by decide) (by decide)
    have hn := Nat.ofDigitChars_toDigits (b := 10) (n := n) (by decide) (by decide)
    rw [← Nat.toList_repr] at hm hn
    rw [← hm, ← hn]
    exact congrArg (fun d => Nat.ofDigitChars 10 d 0) hdigits

theorem parsePayload_naturalKey {job : Job} {p : Payload} (h : parsePayload job = .ok p) :
    job.naturalKey = scheduleNaturalKey p.subscriptionId p.scheduleRevision := by
  unfold parsePayload at h
  split at h
  · split at h
    · cases h
    · split at h
      · cases h
      · split at h
        · cases h
        · split at h
          · cases h
          · split at h
            · split at h
              · split at h
                · cases h
                · split at h
                  · cases h
                  · rename_i hkey
                    cases h
                    exact not_not.1 (fun hne => hkey (.inl hne))
              · cases h
            · cases h
  · cases h

/-- A job was issued below its subscription's revision, an active one just below it. -/
structure Issued (s : Db) (j : Job) (p : Payload) (x : Subscription) : Prop where
  parsed : parsePayload j = .ok p
  subscription : s.subscriptions.get? p.subscriptionId = some x
  below : p.scheduleRevision < x.scheduleRevision
  last : j.status.isTerminal = false → x.scheduleRevision = p.scheduleRevision + 1

structure CyclesFenced (s : Db) : Prop where
  issued : ∀ j, SyncRow s j → ∃ p x, Issued s j p x
  distinct : ∀ j k p q, SyncRow s j → SyncRow s k → parsePayload j = .ok p →
    parsePayload k = .ok q → p.subscriptionId = q.subscriptionId →
    p.scheduleRevision = q.scheduleRevision → j = k

theorem CyclesFenced.of_none {s : Db} (h : ∀ j, ¬ SyncRow s j) : CyclesFenced s where
  issued j hj := (h j hj).elim
  distinct j _ _ _ hj := (h j hj).elim

namespace CyclesFenced

variable {s t : Db}

/-- At most one cycle of a subscription is active. -/
theorem active_unique (h : CyclesFenced s) {j k : Job} (hj : SyncRow s j) (hk : SyncRow s k)
    (hactive : j.status.isTerminal = false) (hactive' : k.status.isTerminal = false)
    (hsub : j.subscriptionId = k.subscriptionId) : j = k := by
  obtain ⟨p, x, hp⟩ := h.issued j hj
  obtain ⟨q, y, hq⟩ := h.issued k hk
  have hids : p.subscriptionId = q.subscriptionId := by
    rw [parsePayload_subscription hp.parsed, parsePayload_subscription hq.parsed] at hsub
    simpa using hsub
  have hxy : x = y := by
    have hx := hp.subscription
    rw [hids, hq.subscription] at hx
    cases hx
    rfl
  have hrevision := hp.last hactive
  rw [hxy, hq.last hactive'] at hrevision
  exact h.distinct j k p q hj hk hp.parsed hq.parsed hids (by omega)

/-- No two sync jobs share a natural key. -/
theorem naturalKey_unique (h : CyclesFenced s) {j k : Job} (hj : SyncRow s j) (hk : SyncRow s k)
    (hkey : j.naturalKey = k.naturalKey) : j = k := by
  obtain ⟨p, x, hp⟩ := h.issued j hj
  obtain ⟨q, y, hq⟩ := h.issued k hk
  rw [parsePayload_naturalKey hp.parsed, parsePayload_naturalKey hq.parsed] at hkey
  obtain ⟨hids, hrevisions⟩ := scheduleNaturalKey_injective hkey
  exact h.distinct j k p q hj hk hp.parsed hq.parsed hids hrevisions

/-- The key of the next cycle is free. -/
theorem next_free (h : CyclesFenced s) {j : Job} {x : Subscription} (hj : SyncRow s j)
    (hx : s.subscriptions.get? x.id = some x) :
    j.naturalKey ≠ scheduleNaturalKey x.id x.scheduleRevision := by
  intro hkey
  obtain ⟨p, y, hp⟩ := h.issued j hj
  rw [parsePayload_naturalKey hp.parsed] at hkey
  obtain ⟨hid, hrevision⟩ := scheduleNaturalKey_injective hkey
  have hy := hp.subscription
  rw [hid, hx] at hy
  cases hy
  have := hp.below
  omega

/-- What keeps the cycles and the revisions keeps the invariant. -/
theorem kept (h : CyclesFenced s) (hcycles : SameCycles s t)
    (hrevisions : ∀ id x, s.subscriptions.get? id = some x →
      ∃ y, t.subscriptions.get? id = some y ∧ y.scheduleRevision = x.scheduleRevision) :
    CyclesFenced t where
  issued k hk := by
    obtain ⟨j, hj, hkept⟩ := hcycles.known k hk
    obtain ⟨p, x, hp⟩ := h.issued j hj
    obtain ⟨y, hy, hyx⟩ := hrevisions _ x hp.subscription
    exact ⟨p, y, hkept.parse.trans hp.parsed, hy, by rw [hyx]; exact hp.below,
      fun hactive => by rw [hyx]; exact hp.last (hkept.active hactive)⟩
  distinct k l p q hk hl hp hq hids hrevs := by
    obtain ⟨i, hi, hik⟩ := hcycles.known k hk
    obtain ⟨j, hj, hjl⟩ := hcycles.known l hl
    obtain rfl := h.distinct i j p q hi hj (hik.parse ▸ hp) (hjl.parse ▸ hq) hids hrevs
    exact hk.eq_of_id hl (hik.id.trans hjl.id.symm)

theorem settles (h : CyclesFenced s) (hst : Settles s t) : CyclesFenced t := by
  refine h.kept hst.cycles (fun id x hx => ?_)
  have hrel := hst.subscriptions id
  rw [hx] at hrel
  obtain ⟨y, hy, hxy⟩ := rel_some_left hrel
  exact ⟨y, hy, hxy.1⟩

end CyclesFenced

/-- The subscription's next revision is taken while no cycle of it is active. -/
structure Bumped (s t : Db) (subscriptionId : String) : Prop where
  idle : ∀ k, SyncRow s k → k.subscriptionId = some subscriptionId → k.status.isTerminal = true
  jobs : t.jobs = s.jobs
  subscriptions : ∀ id, Option.Rel
    (fun x y => SameSchedule x y ∧
      y.scheduleRevision = if id = subscriptionId then x.scheduleRevision + 1
        else x.scheduleRevision)
    (s.subscriptions.get? id) (t.subscriptions.get? id)

theorem bumped_setSubscription {s : Db} {id : String} {values : Subscription → Subscription}
    (hidle : ∀ k, SyncRow s k → k.subscriptionId = some id → k.status.isTerminal = true)
    (h : ∀ x, SameSchedule x (values x) ∧ (values x).scheduleRevision = x.scheduleRevision + 1) :
    Bumped s (s.setSubscription id values) id where
  idle := hidle
  jobs := rfl
  subscriptions k := by
    rw [Db.get?_setSubscription]
    split
    · cases s.subscriptions.get? k with
      | none => exact .none
      | some x =>
        obtain ⟨⟨h₁, h₂, h₃, h₄⟩, h₅⟩ := h x
        exact .some ⟨⟨h₁, h₂, h₃, h₄⟩, h₅⟩
    · exact rel_refl (fun x => ⟨.refl x, rfl⟩) _

theorem CyclesFenced.bumped {s t : Db} {id : String} (h : CyclesFenced s) (hst : Bumped s t id) :
    CyclesFenced t where
  issued k hk := by
    have hk' : SyncRow s k := hk.transport hst.jobs.symm
    obtain ⟨p, x, hp⟩ := h.issued k hk'
    have hrel := hst.subscriptions p.subscriptionId
    rw [hp.subscription] at hrel
    obtain ⟨y, hy, _, hyx⟩ := rel_some_left hrel
    have hbelow := hp.below
    by_cases hid : p.subscriptionId = id
    · have hended := hst.idle k hk' (by rw [parsePayload_subscription hp.parsed, hid])
      refine ⟨p, y, hp.parsed, hy, ?_, fun hactive => ?_⟩
      · rw [hyx, if_pos hid]
        omega
      · rw [hended] at hactive
        cases hactive
    · rw [if_neg hid] at hyx
      exact ⟨p, y, hp.parsed, hy, by rw [hyx]; exact hbelow,
        fun hactive => by rw [hyx]; exact hp.last hactive⟩
  distinct j k p q hj hk :=
    h.distinct j k p q (hj.transport hst.jobs.symm) (hk.transport hst.jobs.symm)

/-! ## Materialization -/

/-- A cycle that was not there, numbered by a revision that its subscription has left behind. -/
def IssuedSince (s t : Db) (k : Job) : Prop :=
  (∀ j, SyncRow s j → j.id ≠ k.id) ∧
    ∃ p x y, parsePayload k = .ok p ∧ s.subscriptions.get? p.subscriptionId = some x ∧
      t.subscriptions.get? p.subscriptionId = some y ∧ x.scheduleRevision ≤ p.scheduleRevision ∧
      p.scheduleRevision < y.scheduleRevision

/-- The work of a materialization: schedules stay, and revisions number what is added. -/
structure Issues (s t : Db) : Prop where
  fenced : CyclesFenced s → CyclesFenced t
  subscriptions : ∀ id, Option.Rel
    (fun x y => SameSchedule x y ∧ x.scheduleRevision ≤ y.scheduleRevision)
    (s.subscriptions.get? id) (t.subscriptions.get? id)
  kept : ∀ j, SyncRow s j → SyncRow t j
  added : ∀ k, SyncRow t k → SyncRow s k ∨ IssuedSince s t k

theorem Issues.chains : Tx.Chains Issues where
  refl s :=
    { fenced := fun h => h
      subscriptions := fun _ => rel_refl (fun x => ⟨.refl x, Nat.le_refl _⟩) _
      kept := fun _ hj => hj
      added := fun _ hk => .inl hk }
  trans s t u h h' :=
    { fenced := fun hs => h'.fenced (h.fenced hs)
      subscriptions := fun id => rel_trans
        (fun _ _ _ hxy hyz => ⟨hxy.1.trans hyz.1, Nat.le_trans hxy.2 hyz.2⟩)
        (h.subscriptions id) (h'.subscriptions id)
      kept := fun j hj => h'.kept j (h.kept j hj)
      added := fun k hk => by
        rcases h'.added k hk with hk | ⟨hnew, p, x, y, hp, hx, hy, hlower, hupper⟩
        · refine (h.added k hk).imp_right (fun ⟨hnew, p, x, y, hp, hx, hy, hlower, hupper⟩ => ?_)
          have hrel := h'.subscriptions p.subscriptionId
          rw [hy] at hrel
          obtain ⟨z, hz, hyz⟩ := rel_some_left hrel
          exact ⟨hnew, p, x, z, hp, hx, hz, hlower, Nat.lt_of_lt_of_le hupper hyz.2⟩
        · have hrel := h.subscriptions p.subscriptionId
          rw [hx] at hrel
          obtain ⟨w, hw, hwx⟩ := rel_some_right hrel
          exact .inr ⟨fun j hj => hnew j (h.kept j hj), p, w, y, hp, hw, hy,
            Nat.le_trans hwx.2 hlower, hupper⟩ }

theorem Quiet.issues {s t : Db} (h : Quiet s t) : Issues s t where
  fenced hs := hs.settles h.settles
  subscriptions id := rel_mono (fun _ _ hxy => ⟨hxy.2, hxy.1.ge⟩) (h.subscriptions id)
  kept j hj := (h.jobs j).2 hj
  added k hk := .inl ((h.jobs k).1 hk)

/-- The row of the next cycle, inserted after its revision was taken. -/
theorem issues_cycle {s m t : Db} {id : String} {x : Subscription} {j : Job} {p : Payload}
    (hx : s.subscriptions.get? id = some x) (hbump : Bumped s m id)
    (hparse : parsePayload j = .ok p) (hid : p.subscriptionId = id)
    (hrevision : p.scheduleRevision = x.scheduleRevision) (hsync : j.isSync = true)
    (hfresh : m.jobs.get? j.id = none)
    (hjobs : ∀ k, t.jobs.get? k = if j.id = k then some j else m.jobs.get? k)
    (hsubscriptions : t.subscriptions = m.subscriptions) : Issues s t := by
  have hrows : ∀ k, SyncRow t k ↔ k = j ∨ SyncRow s k := by
    intro k
    have hk := hjobs k.id
    constructor
    · intro hrow
      rw [hrow.row] at hk
      split at hk
      · cases hk
        exact .inl rfl
      · exact .inr ⟨by rw [← hbump.jobs]; exact hk.symm, hrow.isSync⟩
    · rintro (rfl | hrow)
      · exact ⟨by rw [hk, if_pos rfl], hsync⟩
      · refine ⟨?_, hrow.isSync⟩
        have hold := (hrow.transport hbump.jobs).row
        rw [hk, if_neg, hold]
        intro heq
        rw [← heq, hfresh] at hold
        cases hold
  have hnew : ∀ k, SyncRow s k → k.id ≠ j.id := by
    intro k hk heq
    have hold := (hk.transport hbump.jobs).row
    rw [heq, hfresh] at hold
    cases hold
  have hrel := hbump.subscriptions id
  rw [hx] at hrel
  obtain ⟨y, hy, _, hyx⟩ := rel_some_left hrel
  rw [if_pos rfl] at hyx
  refine ⟨fun hs => ?_, fun k => ?_, fun k hk => (hrows k).2 (.inr hk), fun k hk => ?_⟩
  · -- Every older cycle of the subscription has a smaller revision.
    have hbelow : ∀ k q, SyncRow s k → parsePayload k = .ok q →
        q.subscriptionId = p.subscriptionId → q.scheduleRevision < p.scheduleRevision := by
      intro k q hk hq hsub
      obtain ⟨q', z, hissued⟩ := hs.issued k hk
      have hqq := hissued.parsed
      rw [hq] at hqq
      cases hqq
      have hz := hissued.subscription
      rw [hsub, hid, hx] at hz
      cases hz
      rw [hrevision]
      exact hissued.below
    have hm := hs.bumped hbump
    constructor
    · intro k hk
      rcases (hrows k).1 hk with rfl | hold
      · exact ⟨p, y, hparse, by rw [hsubscriptions, hid]; exact hy, by omega, fun _ => by omega⟩
      · obtain ⟨q, z, hissued⟩ := hm.issued k (hold.transport hbump.jobs)
        exact ⟨q, z, hissued.parsed, by rw [hsubscriptions]; exact hissued.subscription,
          hissued.below, hissued.last⟩
    · intro k l q r hk hl hq hr hsubs hrevs
      rcases (hrows k).1 hk with rfl | hk
      · rcases (hrows l).1 hl with rfl | hl
        · rfl
        · rw [hparse] at hq
          cases hq
          have := hbelow l r hl hr hsubs.symm
          omega
      · rcases (hrows l).1 hl with rfl | hl
        · rw [hparse] at hr
          cases hr
          have := hbelow k q hk hq hsubs
          omega
        · exact hs.distinct k l q r hk hl hq hr hsubs hrevs
  · rw [hsubscriptions]
    refine rel_mono (fun a b hab => ⟨hab.1, ?_⟩) (hbump.subscriptions k)
    rw [hab.2]
    split <;> omega
  · rcases (hrows k).1 hk with rfl | hold
    · refine .inr ⟨hnew, p, x, y, hparse, by rw [hid]; exact hx,
        by rw [hsubscriptions, hid]; exact hy, by omega, by omega⟩
    · exact .inl hold

theorem not_activeCycle {s : Db} {id : String} (h : activeCycle s id = false) (k : Job)
    (hk : SyncRow s k) (hsub : k.subscriptionId = some id) : k.status.isTerminal = true := by
  have hnone := List.any_eq_false.1 h k (Table.get?_mem hk.row)
  simpa [hk.isSync, hsub, JobStatus.isActive] using hnone

variable {repo : SchedulerRepository}

theorem insertJob_ok {job r : Job} {s t : Db} (h : insertJob job s = (.ok r, t)) :
    r = job ∧ ∃ jobs, s.jobs.insert? job = some jobs ∧ t = { s with jobs := jobs } := by
  unfold insertJob at h
  split at h
  · cases h
  · split at h
    · rename_i jobs hinsert
      cases h
      exact ⟨rfl, jobs, hinsert, rfl⟩
    · cases h

theorem materializeCycle_issues {subscriptionId accountId : String} {platform : Platform}
    {scheduleRevision : Nat} {scheduledFor now : Time} {retry : RetryPolicy}
    {dueOnly resumeBlocked : Bool} {s t : Db} {r : Option MaterializedCycle}
    (hrun : materializeCycle repo subscriptionId accountId platform scheduleRevision scheduledFor
      now retry dueOnly resumeBlocked s = (.ok r, t)) : Issues s t := by
  have hR := Issues.chains
  unfold materializeCycle getSubscription at hrun
  rw [Tx.run_read_bind] at hrun
  cases hget : s.subscriptions.get? subscriptionId with
  | none =>
    rw [hget] at hrun
    cases hrun
    exact hR.refl _
  | some x =>
    rw [hget] at hrun
    dsimp only at hrun
    split at hrun
    · cases hrun
      exact hR.refl _
    · obtain ⟨bili, s₁, hbili, hrun⟩ := Tx.run_bind_ok hrun
      obtain ⟨xhs, s₂, hxhs, hrun⟩ := Tx.run_bind_ok hrun
      obtain ⟨douyin, s₃, hdouyin, hrun⟩ := Tx.run_bind_ok hrun
      have hquiet : Quiet s s₃ := Quiet.chains.trans _ _ _
        ((quiet_ensureForMaterialization _ _ _ _ _ _ _ _).ends hbili)
        (Quiet.chains.trans _ _ _ ((quiet_ensureForMaterialization _ _ _ _ _ _ _ _).ends hxhs)
          ((quiet_ensureForMaterialization _ _ _ _ _ _ _ _).ends hdouyin))
      obtain ⟨_, hrun⟩ := Tx.run_bind_require hrun
      split at hrun
      · cases hrun
        exact hquiet.issues
      · obtain ⟨claimed, s₄, hbump, hrun⟩ := Tx.run_bind_ok hrun
        rcases updateSubscription_ok hbump with ⟨hnone, hu⟩ | ⟨z, hz, hc, hsome, hu⟩
        · rw [hnone] at hrun
          cases hrun
          rw [hu]
          exact hquiet.issues
        · rw [hsome, hu] at hrun
          simp only [Bool.and_eq_true, decide_eq_true_eq, Bool.not_eq_true'] at hc
          obtain ⟨id, s₅, hid, hrun⟩ := Tx.run_bind_ok hrun
          cases hid
          obtain ⟨job, s₆, hinsert, hrun⟩ := Tx.run_bind_ok hrun
          cases hrun
          obtain ⟨rfl, jobs, hjobs, rfl⟩ := insertJob_ok hinsert
          have hbumped : Bumped s₃ (s₃.setSubscription subscriptionId fun s =>
              { s with scheduleRevision := s.scheduleRevision + 1, updatedAt := now })
              subscriptionId :=
            bumped_setSubscription (not_activeCycle hc.1.2)
              (fun _ => ⟨⟨rfl, rfl, rfl, rfl⟩, rfl⟩)
          refine hR.trans _ _ _ hquiet.issues (issues_cycle hz hbumped
            (parsePayload_schedulePayload rfl rfl rfl rfl) rfl hc.1.1.1.2.symm rfl
            (Table.insert?_fresh hjobs) (Table.get?_insert? hjobs) rfl)

theorem materializeCandidates_issues {batchLimit : Nat} {now : Time} {retry : RetryPolicy}
    {candidates : List (Subscription × Account)} {done r : List MaterializedCycle} {s t : Db}
    (h : materializeCandidates repo batchLimit now retry candidates done s = (.ok r, t)) :
    Issues s t := by
  induction candidates generalizing s done with
  | nil =>
    cases h
    exact Issues.chains.refl _
  | cons c rest ih =>
    unfold materializeCandidates at h
    split at h
    · cases h
      exact Issues.chains.refl _
    · obtain ⟨cycle, u, hcycle, h⟩ := Tx.run_bind_ok h
      exact Issues.chains.trans _ _ _ (materializeCycle_issues hcycle) (ih h)

theorem materializeDue_issues {limit : Int} {now : Time} {retry : RetryPolicy}
    {r : List MaterializedCycle} {s t : Db}
    (h : materializeDue repo limit now retry s = (.ok r, t)) : Issues s t := by
  obtain ⟨_, _, h⟩ := Tx.run_bind_ofExcept h
  rw [Tx.run_read_bind] at h
  exact materializeCandidates_issues h

theorem materializeOne_issues {subscriptionId : String} {revision : Int} {now : Time}
    {retry : RetryPolicy} {r : MaterializedCycle} {s t : Db}
    (h : materializeOne repo subscriptionId revision now retry s = (.ok r, t)) : Issues s t := by
  have hR := Issues.chains
  obtain ⟨id, _, h⟩ := Tx.run_bind_ofExcept h
  obtain ⟨_, _, h⟩ := Tx.run_bind_ofExcept h
  obtain ⟨subscription, _, h⟩ := Tx.run_bind_read (within_requireActive Tx.ReadOnly.chains _) h
  obtain ⟨_, h⟩ := Tx.run_bind_require h
  obtain ⟨_, h⟩ := Tx.run_bind_require h
  rw [Tx.run_read_bind] at h
  obtain ⟨_, h⟩ := Tx.run_bind_require h
  unfold getAccount at h
  rw [Tx.run_read_bind] at h
  cases haccount : s.accounts.get? subscription.accountId with
  | none =>
    rw [haccount] at h
    cases h
  | some account =>
    rw [haccount] at h
    dsimp only at h
    rw [Tx.run_read_bind] at h
    generalize s.jobs.rows.filter _ = active at h
    match active with
    | [] =>
      obtain ⟨cycle, u, hcycle, h⟩ := Tx.run_bind_ok h
      cases cycle with
      | none => cases h
      | some cycle =>
        cases h
        exact materializeCycle_issues hcycle
    | [job] =>
      dsimp only at h
      cases hpayload : parsePayload job with
      | error e =>
        rw [hpayload] at h
        cases h
      | ok payload =>
        cases hscheduled : job.scheduledFor with
        | none =>
          rw [hpayload, hscheduled] at h
          cases h
        | some scheduledFor =>
          rw [hpayload, hscheduled] at h
          obtain ⟨_, h⟩ := Tx.run_bind_require h
          cases h
          exact hR.refl _
    | _ :: _ :: _ => cases h

section Edits

variable {service : PolicyService}

theorem readOnly_policySubscription (subscriptionId : String) (missing removed : PolicyEditError) :
    Tx.ReadOnly (policySubscription subscriptionId missing removed) := by
  have hR := Tx.ReadOnly.chains (σ := Db)
  refine Tx.Within.bind hR (Tx.Within.read hR _) (fun subscription => ?_)
  cases subscription with
  | none => exact Tx.Within.throw hR _
  | some s =>
    refine Tx.Within.bind hR (Tx.Within.require hR _ _) (fun _ => ?_)
    refine Tx.Within.bind hR (Tx.Within.read hR _) (fun account => ?_)
    cases account with
    | none => exact Tx.Within.throw hR _
    | some account => exact Tx.Within.pure hR _

/-- An idle subscription has no active cycle. -/
theorem requireIdle_ok {subscriptionId : String} {s t : Db} {r : Unit}
    (h : requireIdle service subscriptionId s = (.ok r, t)) :
    t = s ∧ ∀ k, SyncRow s k → k.subscriptionId = some subscriptionId →
      k.status.isTerminal = true := by
  unfold requireIdle at h
  rw [Tx.run_read_bind, Tx.run_read_bind, Tx.run_read_bind] at h
  obtain ⟨hidle, rfl⟩ := Tx.run_require_ok h
  simp only [Bool.and_eq_true, Bool.not_eq_true'] at hidle
  refine ⟨rfl, fun k hk hsub => ?_⟩
  have hnone := List.any_eq_false.1 hidle.1.1 k (Table.get?_mem hk.row)
  simpa [policyJobScope, hsub] using hnone

theorem updateSubscriptionPolicy_bumped {subscriptionId : String}
    {update : SubscriptionPolicyUpdate} {r : SubscriptionPolicyUpdateResult} {s t : Db}
    (h : updateSubscriptionPolicy service subscriptionId update s = (.ok r, t)) :
    t = s ∨ Bumped s t subscriptionId := by
  obtain ⟨_, _, h⟩ := Tx.run_bind_ofExcept h
  obtain ⟨⟨x, account⟩, _, h⟩ := Tx.run_bind_read (readOnly_policySubscription _ _ _) h
  obtain ⟨_, h⟩ := Tx.run_bind_require h
  obtain ⟨_, h⟩ := Tx.run_bind_require h
  obtain ⟨_, h⟩ := Tx.run_bind_require h
  obtain ⟨_, u, hidle, h⟩ := Tx.run_bind_ok h
  obtain ⟨hu, hidle⟩ := requireIdle_ok hidle
  rw [hu] at h
  obtain ⟨_, _, h⟩ := Tx.run_bind_ofExcept h
  obtain ⟨_, _, h⟩ := Tx.run_bind_ofExcept h
  dsimp only at h
  split at h
  · obtain ⟨_, h⟩ := Tx.run_bind_require h
    obtain ⟨_, v, hset, h⟩ := Tx.run_bind_ok h
    cases hset
    cases h
    exact .inr (bumped_setSubscription hidle (fun _ => ⟨⟨rfl, rfl, rfl, rfl⟩, rfl⟩))
  · cases h
    exact .inl rfl

theorem changeBilibiliScope_bumped {subscriptionId scope : String}
    {maxItems expected : Int} {r : Nat × Bool} {s t : Db}
    (h : changeBilibiliScope service subscriptionId scope maxItems expected s = (.ok r, t)) :
    t = s ∨ Bumped s t subscriptionId := by
  obtain ⟨_, h⟩ := Tx.run_bind_require h
  obtain ⟨⟨x, account⟩, _, h⟩ := Tx.run_bind_read (readOnly_policySubscription _ _ _) h
  obtain ⟨_, h⟩ := Tx.run_bind_require h
  obtain ⟨_, h⟩ := Tx.run_bind_require h
  rw [Tx.run_read_bind] at h
  obtain ⟨hbusy, h⟩ := Tx.run_bind_require h
  have hidle : ∀ k, SyncRow s k → k.subscriptionId = some subscriptionId →
      k.status.isTerminal = true := by
    intro k hk hsub
    simp only [Bool.not_eq_true', Bool.or_eq_false_iff] at hbusy
    have hnone := List.any_eq_false.1 hbusy.1 k (Table.get?_mem hk.row)
    simpa [hsub, JobStatus.isActive] using hnone
  obtain ⟨_, _, h⟩ := Tx.run_bind_ofExcept h
  obtain ⟨_, _, h⟩ := Tx.run_bind_ofExcept h
  obtain ⟨_, _, h⟩ := Tx.run_bind_ofExcept h
  split at h
  · obtain ⟨_, v, hset, h⟩ := Tx.run_bind_ok h
    cases hset
    cases h
    exact .inr (bumped_setSubscription hidle (fun _ => ⟨⟨rfl, rfl, rfl, rfl⟩, rfl⟩))
  · cases h
    exact .inl rfl

end Edits

/-! ## Runs -/

/-- Every subscription is still there, under its revision. -/
def RevisionsLeft (s t : Db) : Prop :=
  ∀ id x, s.subscriptions.get? id = some x →
    ∃ y, t.subscriptions.get? id = some y ∧ y.scheduleRevision = x.scheduleRevision

/-- What happens between two repository transactions: a policy edit, or other code, which
leaves the sync jobs and the schedule revisions alone. -/
inductive BetweenCycles (service : PolicyService) : Db → Db → Prop
  | policy {s t : Db} {subscriptionId : String} {update : SubscriptionPolicyUpdate}
      {r : Except PolicyEditError SubscriptionPolicyUpdateResult} :
      Tx.commit (updateSubscriptionPolicy service subscriptionId update) s = (r, t) →
      BetweenCycles service s t
  | scope {s t : Db} {subscriptionId scope : String} {maxItems expected : Int}
      {r : Except PolicyEditError (Nat × Bool)} :
      Tx.commit (changeBilibiliScope service subscriptionId scope maxItems expected) s = (r, t) →
      BetweenCycles service s t
  | other {s t : Db} : SyncJobsLeft s t → RevisionsLeft s t → BetweenCycles service s t

/-- The cycles stay, a new one is numbered by its subscription, and no revision falls. -/
structure CyclesAdvance (s t : Db) : Prop where
  fenced : CyclesFenced s → CyclesFenced t
  kept : ∀ j, SyncRow s j → ∃ k, SyncRow t k ∧ CycleKept j k
  added : ∀ k, SyncRow t k → (∃ j, SyncRow s j ∧ j.id = k.id) ∨ IssuedSince s t k
  revisions : ∀ id x, s.subscriptions.get? id = some x →
    ∃ y, t.subscriptions.get? id = some y ∧ x.scheduleRevision ≤ y.scheduleRevision

/-- A schedule moves only with the end of an active cycle that carries the revision before. -/
def ScheduleFenced (s t : Db) : Prop :=
  ∀ id x y, s.subscriptions.get? id = some x → t.subscriptions.get? id = some y →
    ¬ SameSchedule x y →
    ∃ j k p, SyncRow s j ∧ SyncRow t k ∧ k.id = j.id ∧ parsePayload j = .ok p ∧
      p.subscriptionId = id ∧ j.status.isTerminal = false ∧ k.status.isTerminal = true ∧
      x.scheduleRevision = p.scheduleRevision + 1 ∧ y.scheduleRevision = x.scheduleRevision

theorem ScheduleFenced.of_same {s t : Db}
    (h : ∀ id x y, s.subscriptions.get? id = some x → t.subscriptions.get? id = some y →
      SameSchedule x y) : ScheduleFenced s t :=
  fun id x y hx hy hmoved => (hmoved (h id x y hx hy)).elim

theorem ScheduleFenced.refl (s : Db) : ScheduleFenced s s :=
  .of_same fun _ x y hx hy => by
    rw [hx] at hy
    cases hy
    exact .refl x

theorem CyclesAdvance.of_kept {s t : Db} (hcycles : SameCycles s t) (h : RevisionsLeft s t) :
    CyclesAdvance s t where
  fenced hs := hs.kept hcycles h
  kept := hcycles.kept
  added k hk := by
    obtain ⟨j, hj, hjk⟩ := hcycles.known k hk
    exact .inl ⟨j, hj, hjk.id.symm⟩
  revisions id x hx := by
    obtain ⟨y, hy, hyx⟩ := h id x hx
    exact ⟨y, hy, hyx.ge⟩

theorem CyclesAdvance.refl (s : Db) : CyclesAdvance s s :=
  .of_kept (SameCycles.chains.refl s) (fun _ x hx => ⟨x, hx, rfl⟩)

theorem Settles.revisions {s t : Db} (h : Settles s t) : RevisionsLeft s t := by
  intro id x hx
  have hrel := h.subscriptions id
  rw [hx] at hrel
  obtain ⟨y, hy, hxy⟩ := rel_some_left hrel
  exact ⟨y, hy, hxy.1⟩

theorem Settles.advance {s t : Db} (h : Settles s t) : CyclesAdvance s t :=
  .of_kept h.cycles h.revisions

theorem Settles.schedule {s t : Db} (hs : CyclesFenced s) (h : Settles s t) :
    ScheduleFenced s t := by
  intro id x y hx hy hmoved
  have hrel := h.subscriptions id
  rw [hx, hy] at hrel
  cases hrel with
  | some hxy =>
    rcases hxy.2 with hsame | ⟨j, k, hj, hk, hid, hsub, hactive, hended⟩
    · exact (hmoved hsame).elim
    · obtain ⟨p, z, hissued⟩ := hs.issued j hj
      have hp : p.subscriptionId = id := by
        rw [parsePayload_subscription hissued.parsed] at hsub
        simpa using hsub
      have hz := hissued.subscription
      rw [hp, hx] at hz
      cases hz
      exact ⟨j, k, p, hj, hk, hid, hissued.parsed, hp, hactive, hended, hissued.last hactive,
        hxy.1⟩

theorem Issues.advance {s t : Db} (h : Issues s t) : CyclesAdvance s t where
  fenced := h.fenced
  kept j hj := ⟨j, h.kept j hj, .refl j⟩
  added k hk := (h.added k hk).imp_left (fun hk => ⟨k, hk, rfl⟩)
  revisions id x hx := by
    have hrel := h.subscriptions id
    rw [hx] at hrel
    obtain ⟨y, hy, hxy⟩ := rel_some_left hrel
    exact ⟨y, hy, hxy.2⟩

theorem Issues.schedule {s t : Db} (h : Issues s t) : ScheduleFenced s t :=
  .of_same fun id x y hx hy => by
    have hrel := h.subscriptions id
    rw [hx, hy] at hrel
    cases hrel with
    | some hxy => exact hxy.1

theorem Bumped.advance {s t : Db} {id : String} (h : Bumped s t id) : CyclesAdvance s t where
  fenced hs := hs.bumped h
  kept j hj := ⟨j, hj.transport h.jobs, .refl j⟩
  added k hk := .inl ⟨k, hk.transport h.jobs.symm, rfl⟩
  revisions k x hx := by
    have hrel := h.subscriptions k
    rw [hx] at hrel
    obtain ⟨y, hy, _, hyx⟩ := rel_some_left hrel
    refine ⟨y, hy, ?_⟩
    rw [hyx]
    split <;> omega

theorem between_advance {service : PolicyService} {s t : Db} (h : BetweenCycles service s t) :
    CyclesAdvance s t := by
  cases h with
  | @policy _ _ r hrun =>
    cases r with
    | error e =>
      cases Tx.commit_error hrun
      exact .refl _
    | ok r =>
      rcases updateSubscriptionPolicy_bumped (Tx.commit_ok hrun) with rfl | hbump
      · exact .refl _
      · exact hbump.advance
  | @scope _ _ _ _ r hrun =>
    cases r with
    | error e =>
      cases Tx.commit_error hrun
      exact .refl _
    | ok r =>
      rcases changeBilibiliScope_bumped (Tx.commit_ok hrun) with rfl | hbump
      · exact .refl _
      · exact hbump.advance
  | other hjobs hrevisions =>
    refine .of_kept ⟨fun j hj => ?_, fun k hk => ?_⟩ hrevisions
    · exact ⟨j, ⟨hjobs.get? hj.row hj.isSync, hj.isSync⟩, .refl j⟩
    · exact ⟨k, ⟨hjobs.symm.get? hk.row hk.isSync, hk.isSync⟩, .refl k⟩

theorem runNow_advance {subscriptionId : String} {now : Time} {s t : Db} {r : Subscription}
    (h : runNow subscriptionId now s = (.ok r, t)) : CyclesAdvance s t := by
  obtain ⟨id, rfl⟩ := setSubscriptionSchedule_ok h
  refine .of_kept ⟨fun j hj => ⟨j, ⟨hj.row, hj.isSync⟩, .refl j⟩,
    fun k hk => ⟨k, ⟨hk.row, hk.isSync⟩, .refl k⟩⟩ (fun k x hx => ?_)
  rw [Db.get?_setSubscription, hx]
  split
  · exact ⟨_, rfl, rfl⟩
  · exact ⟨x, rfl, rfl⟩

theorem call_advance {s t : Db} {op : Op} {reply : Except SchedulerError Reply}
    (h : Tx.commit (op.perform repo) s = (reply, t)) :
    CyclesAdvance s t ∧ (op.isRunNow = false → CyclesFenced s → ScheduleFenced s t) := by
  cases reply with
  | error e =>
    cases Tx.commit_error h
    exact ⟨.refl _, fun _ _ => .refl _⟩
  | ok reply =>
    have hrun := Tx.commit_ok h
    cases hclaim : op.claimArguments? with
    | some args =>
      obtain ⟨r, rfl, hacts⟩ := perform_claim_acts hclaim hrun
      exact ⟨hacts.settles.advance, fun _ hs => hacts.settles.schedule hs⟩
    | none =>
      cases hcycle : op.isMaterialization with
      | true =>
        cases op with
        | materializeDue limit now retry =>
          obtain ⟨r, u, hrun, hpure⟩ := Tx.run_bind_ok hrun
          cases hpure
          have hissues := materializeDue_issues hrun
          exact ⟨hissues.advance, fun _ _ => hissues.schedule⟩
        | materializeOne id revision now retry =>
          obtain ⟨r, u, hrun, hpure⟩ := Tx.run_bind_ok hrun
          cases hpure
          have hissues := materializeOne_issues hrun
          exact ⟨hissues.advance, fun _ _ => hissues.schedule⟩
        | _ => cases hcycle
      | false =>
        cases hrunNow : op.isRunNow with
        | true =>
          cases op with
          | runNow id now =>
            obtain ⟨r, u, hrun, hpure⟩ := Tx.run_bind_ok hrun
            cases hpure
            exact ⟨runNow_advance hrun, nofun⟩
          | _ => cases hrunNow
        | false =>
          have hsettles := (perform_acts hclaim hcycle hrunNow hrun).settles
          exact ⟨hsettles.advance, fun _ hs => hsettles.schedule hs⟩

theorem step_advance {service : PolicyService} {s t : Db} {e : Event}
    (h : Step repo (BetweenCycles service) s e t) : CyclesAdvance s t := by
  cases h with
  | call op hrun => exact (call_advance hrun).1
  | elsewhere henv => exact between_advance henv

/-- From a database without sync jobs on, under any interleaving: a subscription has at most
one active cycle; no two cycles share a natural key, and the next one is free; an active
cycle carries the revision before its subscription's; cycles stay, revisions do not fall and
number what is added; and a call other than an immediate run request moves a schedule only
with the end of the cycle that carries the revision before. -/
theorem one_active_cycle {service : PolicyService} {s t : Db} {events : List Event}
    (hs : ∀ j ∈ s.jobs.rows, j.isSync = false)
    (ht : History repo (BetweenCycles service) s events t) :
    (∀ j k, SyncRow t j → SyncRow t k → j.status.isActive = true → k.status.isActive = true →
        j.subscriptionId = k.subscriptionId → j = k) ∧
      (∀ j k, SyncRow t j → SyncRow t k → j.naturalKey = k.naturalKey → j = k) ∧
      (∀ j x, SyncRow t j → t.subscriptions.get? x.id = some x →
        j.naturalKey ≠ scheduleNaturalKey x.id x.scheduleRevision) ∧
      (∀ j, SyncRow t j → j.status.isActive = true → ∃ p x, parsePayload j = .ok p ∧
        t.subscriptions.get? p.subscriptionId = some x ∧
        x.scheduleRevision = p.scheduleRevision + 1) ∧
      ∀ e ∈ events,
        (∀ j, SyncRow e.before j → ∃ k, SyncRow e.after k ∧ CycleKept j k) ∧
        (∀ k, SyncRow e.after k →
          (∃ j, SyncRow e.before j ∧ j.id = k.id) ∨ IssuedSince e.before e.after k) ∧
        (∀ id x, e.before.subscriptions.get? id = some x →
          ∃ y, e.after.subscriptions.get? id = some y ∧
            x.scheduleRevision ≤ y.scheduleRevision) ∧
        ∀ op reply, e = .call e.before op reply e.after → op.isRunNow = false →
          ScheduleFenced e.before e.after := by
  have hinit : CyclesFenced s := .of_none fun j hj => by
    have := hs j (Table.get?_mem hj.row)
    rw [hj.isSync] at this
    cases this
  have hinv {events : List Event} {t : Db}
      (ht : History repo (BetweenCycles service) s events t) : CyclesFenced t :=
    ht.invariant (fun _ _ _ hI hstep => (step_advance hstep).fenced hI) hinit
  have hfenced := hinv ht
  refine ⟨fun j k hj hk hactive hactive' hsub => ?_, fun j k hj hk => hfenced.naturalKey_unique hj hk,
    fun j x hj hx => hfenced.next_free hj hx, fun j hj hactive => ?_, fun e he => ?_⟩
  · exact hfenced.active_unique hj hk (by simpa [JobStatus.isActive] using hactive)
      (by simpa [JobStatus.isActive] using hactive') hsub
  · obtain ⟨p, x, hissued⟩ := hfenced.issued j hj
    exact ⟨p, x, hissued.parsed, hissued.subscription,
      hissued.last (by simpa [JobStatus.isActive] using hactive)⟩
  · obtain ⟨pre, post, rfl⟩ := List.append_of_mem he
    obtain ⟨a, b, ha, hstep, _⟩ := ht.at_label
    obtain ⟨rfl, rfl⟩ := hstep.ends
    have hadvance := step_advance hstep
    refine ⟨hadvance.kept, hadvance.added, hadvance.revisions, fun op reply hcall hop => ?_⟩
    rw [hcall] at hstep
    cases hstep with
    | call _ hrun => exact (call_advance hrun).2 hop (hinv ha)

/-- Two cycles of one subscription, the first failing for good and the second succeeding. -/
def sampleCycles : List Op :=
  [.materializeDue 10 500 .standard,
    .claimNext ⟨"worker", 10, 60, 10, none, 1000⟩,
    .fail "a" "worker" "aaaa" "schema_invalid" none none none 2000,
    .runNow "subscription" 3000,
    .materializeDue 10 4000 .standard,
    .cancel "aaaaaaa" 5000]

/-- A service over policies without secrets, where no operation is about a subscription. -/
def samplePolicyService : PolicyService where
  codec := { float := some, secretReference := some }
  operationSubject _ _ _ := false

theorem one_active_cycle_sample :
    (∀ j k, SyncRow (replay sampleRepository sampleDb sampleCycles).2 j →
        SyncRow (replay sampleRepository sampleDb sampleCycles).2 k →
        j.naturalKey = k.naturalKey → j = k) ∧
      (replay sampleRepository sampleDb sampleCycles).2.jobs.rows.map
        (fun j => (j.naturalKey, j.status)) =
        [("subscription:subscription:schedule:0", .failedTerminal),
          ("subscription:subscription:schedule:1", .cancelled)] :=
  ⟨(one_active_cycle (s := sampleDb) (by simp [sampleDb])
    (replay_history sampleRepository (BetweenCycles samplePolicyService) sampleDb
      sampleCycles)).2.1, by decide +kernel⟩

end MediaSync.Scheduler
