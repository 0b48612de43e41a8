import MediaSync.Scheduler.ProbeInvariant

/-!
# Lanes of one job

Finding the lanes of a job and settling them. A job with a well-formed row
whose lanes exist finds both without an error, and the two are all the lanes
that count it; a settling pass over them leaves none held by an ended job.
-/

namespace MediaSync.Scheduler

open Python Transaction SchedulerError SchedulerRepository

/-! ## Finding the lanes -/

/-- Lanes are added, unheld, and nothing else changes. -/
structure Grown (s t : Db) : Prop where
  jobs : t.jobs = s.jobs
  accounts : t.accounts = s.accounts
  runs : t.runs = s.runs
  kept : ∀ l ∈ s.lanes.rows, l ∈ t.lanes.rows
  fresh : ∀ l ∈ t.lanes.rows, l ∈ s.lanes.rows ∨ l.halfOpenJobId = none

theorem Grown.refl (s : Db) : Grown s s := ⟨rfl, rfl, rfl, fun _ h => h, fun _ h => .inl h⟩

theorem Grown.trans {s t u : Db} (h : Grown s t) (k : Grown t u) : Grown s u where
  jobs := k.jobs.trans h.jobs
  accounts := k.accounts.trans h.accounts
  runs := k.runs.trans h.runs
  kept l hl := k.kept l (h.kept l hl)
  fresh l hl := by
    rcases k.fresh l hl with hm | hn
    · exact h.fresh l hm
    · exact .inr hn

theorem Grown.get? {s t : Db} (h : Grown s t) {id : String} {l : SchedulerLane}
    (hl : s.lanes.get? id = some l) : t.lanes.get? id = some l :=
  Table.get?_eq_some.mpr ⟨h.kept l (Table.get?_mem hl), Table.get?_key hl⟩

theorem Grown.hasLane {s t : Db} (h : Grown s t) {policy : LanePolicy} (k : HasLane s policy) :
    HasLane t policy := by
  obtain ⟨l, hl, hscope⟩ := k
  exact ⟨l, h.kept l hl, hscope⟩

theorem Grown.sameSlots {s t : Db} (h : Grown s t) :
    ∀ l ∈ s.lanes.rows, ∃ m ∈ t.lanes.rows, l.SameSlotColumns m :=
  fun l hl => ⟨l, h.kept l hl, ⟨rfl, rfl, rfl, rfl⟩⟩

/-- The account of the policy is there, on the policy's platform. -/
def AccountFits (db : Db) (policy : LanePolicy) : Prop :=
  ∀ a, policy.accountId = some a →
    ∃ account, db.accounts.get? a = some account ∧ account.platform = policy.platform

theorem checkLaneAccount_ends {policy : LanePolicy} {s t : Db} {r : Except SchedulerError Unit}
    (h : checkLaneAccount policy s = (r, t)) :
    t = s ∧ (r = .ok () ↔ AccountFits s policy) := by
  unfold checkLaneAccount at h
  cases ha : policy.accountId with
  | none =>
    rw [ha] at h
    cases h
    refine ⟨rfl, fun _ a ha' => ?_, fun _ => rfl⟩
    rw [ha] at ha'
    cases ha'
  | some a =>
    rw [ha] at h
    dsimp only at h
    unfold getAccount at h
    rw [Tx.run_read_bind] at h
    cases hacc : s.accounts.get? a with
    | none =>
      rw [hacc] at h
      cases h
      refine ⟨rfl, nofun, fun hfits => ?_⟩
      obtain ⟨account, hget, _⟩ := hfits a ha
      rw [hacc] at hget
      cases hget
    | some account =>
      rw [hacc] at h
      dsimp only at h
      rw [Tx.run_require] at h
      split at h
      · rename_i hp
        cases h
        refine ⟨rfl, fun _ b hb => ?_, fun _ => rfl⟩
        rw [ha] at hb
        cases hb
        exact ⟨account, hacc, of_decide_eq_true hp⟩
      · rename_i hp
        cases h
        refine ⟨rfl, nofun, fun hfits => ?_⟩
        obtain ⟨account', hget, hplat⟩ := hfits a ha
        rw [hacc] at hget
        cases hget
        exact (hp (decide_eq_true hplat)).elim

theorem newLane_row {db : Db} {policy : LanePolicy} (hfits : AccountFits db policy) (id : String)
    (now : Time) : LaneRow db (newLane policy id now) where
  shape := ⟨rfl, rfl⟩
  platformLane ht := by
    have hshape := policy.scope_shape
    cases ha : policy.accountId with
    | none => exact ha
    | some a =>
      have ht' : policy.scopeType = .platform := ht
      simp [ha, ht'] at hshape
  accountLane ht := by
    have hshape := policy.scope_shape
    have ht' : policy.scopeType = .account := ht
    cases ha : policy.accountId with
    | none => simp [ha, ht'] at hshape
    | some a =>
      obtain ⟨account, hget, hplat⟩ := hfits a ha
      exact ⟨a, account, ha, hget, hplat⟩
  cooldown := policy.cooldown_range.1

/-- A lane enters the table unless its slot or its key is taken. -/
theorem insertLane_grown (s : Db) (lane : SchedulerLane) (hheld : lane.halfOpenJobId = none) :
    Grown s (insertLaneIfAbsent lane s).2 := by
  unfold insertLaneIfAbsent
  simp only [Tx.run_modify]
  split
  · exact Grown.refl s
  · split
    · rename_i lanes hins
      refine ⟨rfl, rfl, rfl, fun l hl => (Table.mem_insert? hins).mpr (.inl hl), fun l hl => ?_⟩
      rcases (Table.mem_insert? hins).mp hl with hm | rfl
      · exact .inl hm
      · exact .inr hheld
    · exact Grown.refl s

theorem ProbeState.grown {watch : Option Watch} {free : Option String} {s t : Db}
    (h : ProbeState watch free s) (k : Grown s t)
    (hrows : ∀ l ∈ t.lanes.rows, LaneRow t l)
    (hslots : ∀ l ∈ t.lanes.rows, ∀ m ∈ t.lanes.rows, l.sameSlot m = true → l = m) :
    ProbeState watch free t where
  lanes := hrows
  slots := hslots
  jobs id j hj hsync := (h.jobs id j (k.jobs ▸ hj) hsync).congr k.accounts k.runs
  holders l hl jobId hhold := by
    rcases k.fresh l hl with hm | hn
    · obtain ⟨j, hj, hsync, hlive, hcounts, hready⟩ := h.holders l hm jobId hhold
      exact ⟨j, k.jobs ▸ hj, hsync, hlive, hcounts, hready.kept k.sameSlots⟩
    · rw [hn] at hhold
      cases hhold
  watched w hw := by
    rcases h.watched w hw with ⟨j, hj, hend⟩ | ⟨l, hl, hsame, hguard⟩
    · exact .inl ⟨j, k.jobs ▸ hj, hend⟩
    · exact .inr ⟨l, k.get? hl, hsame, hguard⟩

theorem sameSlot_comm (l m : SchedulerLane) : l.sameSlot m = m.sameSlot l := by
  simp only [SchedulerLane.sameSlot, Bool.and_comm (decide (l.scopeType = _)), Bool.and_assoc,
    eq_comm (a := l.platform), eq_comm (a := l.accountId)]

theorem ProbeState.insertLane {watch : Option Watch} {free : Option String} {s : Db}
    (h : ProbeState watch free s) {lane : SchedulerLane} (hrow : LaneRow s lane)
    (hheld : lane.halfOpenJobId = none) :
    ProbeState watch free (insertLaneIfAbsent lane s).2 := by
  have hgrown := insertLane_grown s lane hheld
  revert hgrown
  unfold insertLaneIfAbsent
  simp only [Tx.run_modify]
  split
  · exact fun _ => h
  · rename_i hslot
    split
    · rename_i lanes hins
      intro hgrown
      simp only [List.any_eq_true, not_exists, not_and, Bool.not_eq_true] at hslot
      refine h.grown hgrown (fun l hl => ?_) (fun l hl m hm hsame => ?_)
      · rcases (Table.mem_insert? hins).mp hl with hm | rfl
        · exact (h.lanes l hm).congr rfl
        · exact hrow.congr rfl
      · rcases (Table.mem_insert? hins).mp hl with hl | rfl
        · rcases (Table.mem_insert? hins).mp hm with hm | rfl
          · exact h.slots l hl m hm hsame
          · rw [hslot l hl] at hsame
            cases hsame
        · rcases (Table.mem_insert? hins).mp hm with hm | rfl
          · rw [sameSlot_comm, hslot m hm] at hsame
            cases hsame
          · rfl
    · exact fun _ => h

theorem findLane_some {db : Db} {policy : LanePolicy} {l : SchedulerLane}
    (h : findLane db policy = some l) : l ∈ db.lanes.rows ∧
      l.inScope policy.scopeType policy.platform policy.accountId = true :=
  ⟨List.mem_of_find?_eq_some h, by simpa using List.find?_some h⟩

theorem findLane_none {db : Db} {policy : LanePolicy} (h : findLane db policy = none) :
    ¬ HasLane db policy := by
  rintro ⟨l, hl, hscope⟩
  have := List.find?_eq_none.mp h l hl
  exact this hscope

/-- What finding one lane gives; it fails only for a lane that was not there. -/
def LaneFound (policy : LanePolicy) (s t : Db) : Except SchedulerError String → Prop
  | .ok id => ∃ l, t.lanes.get? id = some l ∧
      l.inScope policy.scopeType policy.platform policy.accountId = true
  | .error _ => AccountFits s policy → ¬ HasLane s policy

theorem ensureLane_ends {uuid : Nat → String} {policy : LanePolicy} {now : Time}
    {watch : Option Watch} {free : Option String} {s t : Db} {r : Except SchedulerError String}
    (h : ProbeState watch free s) (hrun : ensureLane uuid policy now s = (r, t)) :
    ProbeState watch free t ∧ Grown s t ∧ LaneFound policy s t r := by
  rcases Tx.run_bind_ends hrun with ⟨e, hcheck, rfl⟩ | ⟨_, u, hcheck, hrun₁⟩
  · obtain ⟨rfl, hfits⟩ := checkLaneAccount_ends hcheck
    exact ⟨h, Grown.refl _, fun k => nomatch hfits.mpr k⟩
  · obtain ⟨rfl, hfits⟩ := checkLaneAccount_ends hcheck
    have hrow := newLane_row (hfits.mp rfl) (uuid u.drawn) now
    rcases Tx.run_bind_ends hrun₁ with ⟨_, hid, _⟩ | ⟨id, v, hid, hrun₂⟩
    · cases hid
    · cases hid
      have hdrawn : ProbeState watch free { u with drawn := u.drawn + 1 } :=
        h.aside ⟨rfl, rfl, RunsKept.refl u, fun _ _ hj _ => hj, fun _ _ hj _ => hj⟩
      have hgrown : Grown u { u with drawn := u.drawn + 1 } :=
        ⟨rfl, rfl, rfl, fun _ hl => hl, fun _ hl => .inl hl⟩
      have hstate := hdrawn.insertLane (hrow.congr rfl) rfl
      have hmore := hgrown.trans
        (insertLane_grown { u with drawn := u.drawn + 1 } (newLane policy (uuid u.drawn) now) rfl)
      rcases Tx.run_bind_ends hrun₂ with ⟨_, hins, _⟩ | ⟨_, v, hins, hrun₃⟩
      · cases hins
      · have hv := congrArg Prod.snd hins
        dsimp only at hv
        rw [hv] at hstate hmore
        rw [Tx.run_read_bind] at hrun₃
        cases hfind : findLane v policy with
        | none =>
          rw [hfind] at hrun₃
          cases hrun₃
          exact ⟨hstate, hmore, fun _ hhas => findLane_none hfind (hmore.hasLane hhas)⟩
        | some lane =>
          rw [hfind] at hrun₃
          cases hrun₃
          obtain ⟨hmem, hscope⟩ := findLane_some hfind
          exact ⟨hstate, hmore, lane, Table.get?_of_mem hmem, hscope⟩

theorem inScope_iff {l : SchedulerLane} {scopeType : ScopeType} {platform : Platform}
    {accountId : Option String} : l.inScope scopeType platform accountId = true ↔
      l.scopeType = scopeType ∧ l.platform = platform ∧
        (if scopeType = .platform then l.accountId = none else l.accountId = accountId) := by
  cases scopeType <;> simp [SchedulerLane.inScope, and_assoc]

/-- The ids name lanes of the job, and all of them. -/
structure JobLanes (db : Db) (j : Job) (ids : List String) : Prop where
  all : ∀ l ∈ db.lanes.rows, l.counts j = true → l.id ∈ ids
  only : ∀ id ∈ ids, ∃ l, db.lanes.get? id = some l ∧ l.counts j = true
  ready : LanesReady db j

/-- What finding a job's lanes gives. -/
def LanesFound (j : Job) (s t : Db) : Except SchedulerError (List String) → Prop
  | .ok ids => JobLanes t j ids
  | .error _ => ¬ LanesReady s j

theorem jobLanes_ends {uuid : Nat → String} {job : Job} {now : Time} {watch : Option Watch}
    {free : Option String} {s t : Db} {r : Except SchedulerError (List String)}
    (h : ProbeState watch free s) (hjob : JobRow s job)
    (hrun : jobLanes uuid job now s = (r, t)) :
    ProbeState watch free t ∧ Grown s t ∧ LanesFound job s t r := by
  obtain ⟨accountId, platform, account, hacc, hplat, hget, hfit⟩ := hjob.scope
  unfold jobLanes at hrun
  rw [hplat, hacc] at hrun
  dsimp only at hrun
  have hnot : ∀ {P : Prop}, (LanesReady s job → P) → ¬ P → ¬ LanesReady s job :=
    fun hP hn hr => hn (hP hr)
  rcases Tx.run_bind_ends hrun with ⟨e, hpl, rfl⟩ | ⟨pl, u, hpl, hrun₁⟩
  · obtain ⟨hstate, hgrown, hfound⟩ := ensureLane_ends h hpl
    refine ⟨hstate, hgrown, hnot (fun hr => (hr platform accountId hplat hacc).1) ?_⟩
    exact hfound (fun a ha => by cases ha)
  · obtain ⟨hstate, hgrown, lp, hlp, hlpscope⟩ := ensureLane_ends h hpl
    cases hpolicy : LanePolicy.ofAccount platform accountId with
    | error e =>
      rw [hpolicy] at hrun₁
      cases hrun₁
      refine ⟨hstate, hgrown, fun hr => ?_⟩
      obtain ⟨_, policy, hok, _⟩ := hr platform accountId hplat hacc
      rw [hpolicy] at hok
      cases hok
    | ok policy =>
      obtain ⟨hscope, hpp, hpa⟩ := LanePolicy.ofAccount_ok hpolicy
      rw [hpolicy] at hrun₁
      change (ensureLane uuid policy now >>= fun al => pure [pl, al]) u = (r, t) at hrun₁
      have hfits : AccountFits u policy := by
        intro a ha
        rw [hpa] at ha
        cases ha
        exact ⟨account, hgrown.accounts ▸ hget, hfit.trans hpp.symm⟩
      rcases Tx.run_bind_ends hrun₁ with ⟨e, hal, rfl⟩ | ⟨al, v, hal, hrun₂⟩
      · obtain ⟨hstate', hgrown', hfound⟩ := ensureLane_ends hstate hal
        refine ⟨hstate', hgrown.trans hgrown', fun hr => ?_⟩
        obtain ⟨_, policy', hok, hhas⟩ := hr platform accountId hplat hacc
        rw [hpolicy] at hok
        cases hok
        exact hfound hfits (hgrown.hasLane hhas)
      · obtain ⟨hstate', hgrown', la, hla, hlascope⟩ := ensureLane_ends hstate hal
        cases hrun₂
        have hlp' := hgrown'.get? hlp
        rw [inScope_iff] at hlpscope hlascope
        rw [hscope, hpp, hpa] at hlascope
        obtain ⟨hps, hpp', _⟩ := hlpscope
        obtain ⟨has, hap', haa⟩ := hlascope
        have hps' : lp.scopeType = .platform := hps
        have hpp'' : lp.platform = platform := hpp'
        have haa' : la.accountId = some accountId := haa
        refine ⟨hstate', hgrown.trans hgrown', ⟨?_, ?_, ?_⟩⟩
        · intro l hl hcounts
          rw [List.mem_cons, List.mem_singleton]
          cases hls : l.scopeType with
          | platform =>
            left
            have hlplat : platform = l.platform := by
              simpa [SchedulerLane.counts, hls, hplat] using hcounts
            have hslot : l.sameSlot lp = true := by
              simp [SchedulerLane.sameSlot, hls, hps', hpp'', hlplat]
            rw [hstate'.slots l hl lp (Table.get?_mem hlp') hslot]
            exact Table.get?_key hlp'
          | account =>
            right
            have hlacc : some accountId = l.accountId := by
              simpa [SchedulerLane.counts, hls, hacc] using (Bool.and_eq_true _ _ ▸ (by
                simpa only [SchedulerLane.counts, hls] using hcounts) :
                  l.accountId.isSome = true ∧ decide (job.accountId = l.accountId) = true).2
            have hslot : l.sameSlot la = true := by
              simp [SchedulerLane.sameSlot, hls, has, haa', ← hlacc]
            rw [hstate'.slots l hl la (Table.get?_mem hla) hslot]
            exact Table.get?_key hla
        · intro id hid
          rw [List.mem_cons, List.mem_singleton] at hid
          rcases hid with rfl | rfl
          · exact ⟨lp, hlp', by simp [SchedulerLane.counts, hps', hplat, hpp'']⟩
          · exact ⟨la, hla, by simp [SchedulerLane.counts, has, hacc, haa']⟩
        · intro platform' accountId' hp ha
          rw [hplat] at hp
          rw [hacc] at ha
          cases hp
          cases ha
          refine ⟨⟨lp, Table.get?_mem hlp', ?_⟩, policy, hpolicy, la, Table.get?_mem hla, ?_⟩
          · rw [inScope_iff]
            exact ⟨hps, hpp', by assumption⟩
          · rw [inScope_iff, hscope, hpp, hpa]
            exact ⟨has, hap', haa⟩

/-! ## Settling the lanes -/

/-- The ids are present lanes and include every lane the job holds. -/
structure Covers (db : Db) (ids : List String) (jobId : String) : Prop where
  held : ∀ l ∈ db.lanes.rows, l.halfOpenJobId = some jobId → l.id ∈ ids
  present : ∀ id ∈ ids, ∃ l, db.lanes.get? id = some l

theorem JobLanes.covers {watch : Option Watch} {free : Option String} {db : Db} {j : Job}
    {ids : List String} (h : JobLanes db j ids) (hstate : ProbeState watch free db)
    {row : Job} (hrow : db.jobs.get? j.id = some row) (hp : row.platform = j.platform)
    (ha : row.accountId = j.accountId) : Covers db ids j.id where
  held l hl hhold := by
    obtain ⟨row', hrow', _, _, hcounts, _⟩ := hstate.holders l hl j.id hhold
    rw [hrow] at hrow'
    cases hrow'
    apply h.all l hl
    rw [← SchedulerLane.counts_congr hp ha]
    exact hcounts
  present id hid := by
    obtain ⟨l, hl, _⟩ := h.only id hid
    exact ⟨l, hl⟩

/-- A lane row under new circuit columns. -/
def circuitRow (values : CircuitValues) (now : Time) (l : SchedulerLane) : SchedulerLane :=
  { l with
    consecutiveFailures := values.consecutiveFailures
    circuitState := values.circuitState
    circuitOpenUntil := values.circuitOpenUntil
    halfOpenJobId := values.halfOpenJobId
    revision := l.revision + 1
    updatedAt := now }

theorem heldLane_run {s : Db} {id : String} {l : SchedulerLane} (h : s.lanes.get? id = some l) :
    heldLane id s = (.ok l, s) := by
  unfold heldLane getLane
  rw [Tx.run_read_bind, h]
  rfl

/-- The lane was read in this transaction, so its revision is current. -/
theorem updateLaneValues_run {s : Db} {id : String} {l : SchedulerLane}
    (h : s.lanes.get? id = some l) (values : CircuitValues) (now : Time) :
    updateLaneValues l values now s = (.ok (), s.setLane id (circuitRow values now)) := by
  have hid : l.id = id := Table.get?_key h
  subst hid
  unfold updateLaneValues updateLaneRow
  rw [Tx.run_bind]
  simp only [Tx.run_modifyGet, h, decide_true, if_true]
  rw [Db.get?_setLane, if_pos rfl, h]
  rfl

/-- The circuit columns that a settling lane ends with. -/
structure Settling (values : CircuitValues) : Prop where
  unheld : values.halfOpenJobId = none
  shape : (values.circuitState = .closed ∧ values.circuitOpenUntil = none) ∨
    (values.circuitState = .opened ∧ values.circuitOpenUntil.isSome = true)

theorem closedCircuit_settling (failures : Nat) : Settling (closedCircuit failures) :=
  ⟨rfl, .inl ⟨rfl, rfl⟩⟩

theorem failedCircuit_settling {lane : SchedulerLane} {now : Time} {values : CircuitValues}
    (h : failedCircuit lane now = .ok values) : Settling values := by
  unfold failedCircuit at h
  dsimp only at h
  split at h
  · split at h
    · cases h
    · cases h
      exact ⟨rfl, .inr ⟨rfl, rfl⟩⟩
  · cases h
    exact closedCircuit_settling _

theorem ProbeState.settle {watch : Option Watch} {free : Option String} {s : Db} {id : String}
    {l : SchedulerLane} {values : CircuitValues} {now : Time} (h : ProbeState watch free s)
    (hl : s.lanes.get? id = some l) (hv : Settling values)
    (hwatch : ∀ w ∈ watch, l.Guarded w →
      (circuitRow values now l).Guarded w ∨ JobEnded s w.jobId) :
    ProbeState watch free (s.setLane id (circuitRow values now)) := by
  refine h.setLane hl (fun _ => ⟨rfl, rfl, rfl, rfl⟩) ?_ ?_ ?_ (fun w hw _ => hwatch w hw)
  · have hunheld := hv.unheld
    rcases hv.shape with ⟨hc, hu⟩ | ⟨hc, hu⟩
    · simp only [SchedulerLane.WellShaped, circuitRow, hc]
      exact ⟨hu, hunheld⟩
    · simp only [SchedulerLane.WellShaped, circuitRow, hc]
      exact ⟨hu, hunheld⟩
  · exact (h.lanes l (Table.get?_mem hl)).cooldown
  · intro jobId hhold
    have hunheld := hv.unheld
    simp only [circuitRow] at hhold
    rw [hunheld] at hhold
    cases hhold

/-- What a job's update of one lane comes to: the lane stays, the update fails
before it writes, or the lane settles. -/
inductive LaneOutcome (watch : Option Watch) (jobId : String) (must may : Prop) (s : Db)
    (id : String) (l : SchedulerLane) : Except SchedulerError Unit → Db → Prop
  | stays : (must → l.halfOpenJobId ≠ some jobId) → LaneOutcome watch jobId must may s id l (.ok ()) s
  | fails {e : SchedulerError} : may → LaneOutcome watch jobId must may s id l (.error e) s
  | settles {values : CircuitValues} {now : Time} : Settling values →
      (∀ w ∈ watch, l.Guarded w → (circuitRow values now l).Guarded w ∨ JobEnded s w.jobId) →
      LaneOutcome watch jobId must may s id l (.ok ()) (s.setLane id (circuitRow values now))

/-- A job's update of a lane: when it `must`, it leaves the lane unheld by the
job; only when it `may`, it fails. -/
def LaneAction (watch : Option Watch) (job : Job) (must may : Prop)
    (f : String → Session Unit) : Prop :=
  ∀ s id l r t, LaneRow s l → (job.status.isTerminal = true → JobEnded s job.id) →
    s.lanes.get? id = some l → f id s = (r, t) → LaneOutcome watch job.id must may s id l r t

theorem SchedulerLane.WellShaped.halfOpen {l : SchedulerLane} {jobId : String} (h : l.WellShaped)
    (hhold : l.halfOpenJobId = some jobId) : l.circuitState = .halfOpen := by
  unfold SchedulerLane.WellShaped at h
  split at h
  · rw [h.2] at hhold
    cases hhold
  · rw [h.2] at hhold
    cases hhold
  · assumption

theorem laneSuccess_action (watch : Option Watch) (job : Job) (now : Time)
    (hend : job.status.isTerminal = true) :
    LaneAction watch job True False (laneSuccess job now) := by
  intro s id l r t hrow hended hl hrun
  unfold laneSuccess at hrun
  rw [Tx.run_bind, heldLane_run hl] at hrun
  dsimp only at hrun
  split at hrun
  · rename_i hclosed
    rw [updateLaneValues_run hl] at hrun
    cases hrun
    refine .settles (closedCircuit_settling 0) ?_
    rintro w _ (⟨hh, _⟩ | ⟨ho, _⟩)
    · rw [hclosed] at hh
      cases hh
    · rw [hclosed] at ho
      cases ho
  · split at hrun
    · rename_i hheld
      rw [updateLaneValues_run hl] at hrun
      cases hrun
      refine .settles (closedCircuit_settling 0) ?_
      rintro w _ (⟨_, hw⟩ | ⟨ho, _⟩)
      · rw [hheld.2] at hw
        exact .inr (Option.some.inj hw ▸ hended hend)
      · rw [hheld.1] at ho
        cases ho
    · rename_i hheld
      cases hrun
      refine .stays (fun _ hhold => hheld ⟨hrow.shape.halfOpen hhold, hhold⟩)

theorem failedCircuit_guards {l : SchedulerLane} {now : Time} {values : CircuitValues}
    (hcool : 1 ≤ l.cooldownSeconds) (h : failedCircuit l now = .ok values) {w : Watch}
    (hnow : w.now = now) (hguard : l.Guarded w) : (circuitRow values now l).Guarded w := by
  have hstate : l.circuitState = .opened ∨ l.circuitState = .halfOpen := by
    rcases hguard with ⟨hh, _⟩ | ⟨ho, _⟩
    · exact .inr hh
    · exact .inl ho
  unfold failedCircuit at h
  dsimp only at h
  rw [if_pos (by tauto)] at h
  split at h
  · cases h
  · rename_i openUntil hadd
    have hlater : w.now < openUntil := by
      rw [hnow, safeAdd_ok hadd]
      exact Nat.lt_add_of_pos_right (by omega)
    cases h
    refine .inr ⟨rfl, _, rfl, ?_⟩
    split
    · rename_i current _ _
      exact Nat.lt_of_lt_of_le hlater (Nat.le_max_left _ _)
    · exact hlater

theorem laneFailure_action {watch : Option Watch} {now : Time} (hnow : ∀ w ∈ watch, w.now = now)
    (job : Job) (affectsCircuit : Bool) :
    LaneAction watch job (job.status.isTerminal = true ∨ affectsCircuit = true)
      (affectsCircuit = true) (laneFailure job now affectsCircuit) := by
  intro s id l r t hrow hended hl hrun
  unfold laneFailure at hrun
  rw [Tx.run_bind, heldLane_run hl] at hrun
  dsimp only at hrun
  split at hrun
  · rename_i hneutral
    split at hrun
    · rename_i hheld
      rw [updateLaneValues_run hl] at hrun
      cases hrun
      refine .settles (closedCircuit_settling _) ?_
      rintro w _ (⟨_, hw⟩ | ⟨ho, _⟩)
      · rw [hheld.2.2] at hw
        exact .inr (Option.some.inj hw ▸ hended hheld.1)
      · rw [hheld.2.1] at ho
        cases ho
    · rename_i hheld
      cases hrun
      refine .stays (fun hmust hhold => ?_)
      rcases hmust with hend | hcircuit
      · exact hheld ⟨hend, hrow.shape.halfOpen hhold, hhold⟩
      · rw [hneutral] at hcircuit
        cases hcircuit
  · rename_i hcircuit
    have hcircuit' : affectsCircuit = true := by simpa using hcircuit
    split at hrun
    · rename_i hother
      cases hrun
      exact .stays (fun _ hhold => hother.2.2 hhold)
    · cases hvalues : failedCircuit l now with
      | error e =>
        rw [hvalues] at hrun
        cases hrun
        exact .fails hcircuit'
      | ok values =>
        rw [hvalues] at hrun
        change updateLaneValues l values now s = (r, t) at hrun
        rw [updateLaneValues_run hl] at hrun
        cases hrun
        exact .settles (failedCircuit_settling hvalues)
          (fun w hw hguard => .inl (failedCircuit_guards hrow.cooldown hvalues (hnow w hw) hguard))

theorem laneRelease_action (job : Job) (now : Time) (resetAll : Bool) :
    LaneAction none job True False (laneRelease job now resetAll) := by
  intro s id l r t hrow _ hl hrun
  unfold laneRelease at hrun
  rw [Tx.run_bind, heldLane_run hl] at hrun
  dsimp only at hrun
  split at hrun
  · rw [updateLaneValues_run hl] at hrun
    cases hrun
    exact .settles (closedCircuit_settling _) (fun w hw => by cases hw)
  · rename_i hheld
    cases hrun
    exact .stays (fun _ hhold => hheld (.inr ⟨hrow.shape.halfOpen hhold, hhold⟩))

/-- Lanes are rewritten in place; nothing else changes. -/
structure LaneEdits (s t : Db) : Prop where
  jobs : t.jobs = s.jobs
  accounts : t.accounts = s.accounts
  runs : t.runs = s.runs
  present : ∀ id l, s.lanes.get? id = some l → ∃ m, t.lanes.get? id = some m

theorem LaneEdits.refl (s : Db) : LaneEdits s s := ⟨rfl, rfl, rfl, fun _ l h => ⟨l, h⟩⟩

theorem LaneEdits.trans {s t u : Db} (h : LaneEdits s t) (k : LaneEdits t u) : LaneEdits s u where
  jobs := k.jobs.trans h.jobs
  accounts := k.accounts.trans h.accounts
  runs := k.runs.trans h.runs
  present id l hl := by
    obtain ⟨m, hm⟩ := h.present id l hl
    exact k.present id m hm

theorem LaneEdits.setLane (s : Db) (id : String) (values : SchedulerLane → SchedulerLane) :
    LaneEdits s (s.setLane id values) := by
  refine ⟨rfl, rfl, rfl, fun k l hl => ?_⟩
  rw [Db.get?_setLane, hl]
  split
  · exact ⟨_, rfl⟩
  · exact ⟨l, rfl⟩

/-- Settling the lanes one by one: the state stays sound, and when it `must`
every settled lane ends unheld by the job. -/
theorem settleLanes {watch : Option Watch} {free : Option String} {job : Job} {must may : Prop}
    {f : String → Session Unit} (hf : LaneAction watch job must may f) (ids : List String)
    {s t : Db} {r : Except SchedulerError Unit} (h : ProbeState watch free s)
    (hended : job.status.isTerminal = true → JobEnded s job.id)
    (hpresent : ∀ id ∈ ids, ∃ l, s.lanes.get? id = some l)
    (hrun : Tx.forEach f ids s = (r, t)) :
    ProbeState watch free t ∧ LaneEdits s t ∧ (∀ e, r = .error e → may) ∧
      (∀ l ∈ t.lanes.rows, l.halfOpenJobId = some job.id →
        (∃ m ∈ s.lanes.rows, m.id = l.id ∧ m.halfOpenJobId = some job.id) ∧
          (r = .ok () → must → l.id ∉ ids)) := by
  induction ids generalizing s with
  | nil =>
    cases hrun
    exact ⟨h, LaneEdits.refl _, nofun, fun l hl hhold => ⟨⟨l, hl, rfl, hhold⟩, fun _ _ => nofun⟩⟩
  | cons id rest ih =>
    obtain ⟨l, hl⟩ := hpresent id List.mem_cons_self
    have hrow := h.lanes l (Table.get?_mem hl)
    -- the state after this lane, with what the remaining lanes need
    have hone : ∀ {r' u}, f id s = (r', u) → ProbeState watch free u ∧ LaneEdits s u ∧
        (∀ e, r' = .error e → may) ∧ ∀ m ∈ u.lanes.rows, m.halfOpenJobId = some job.id →
          m ∈ s.lanes.rows ∧ (r' = .ok () → must → m.id ≠ id) := by
      intro r' u hu
      cases hf s id l r' u hrow hended hl hu with
      | stays hstays =>
        refine ⟨h, LaneEdits.refl _, nofun, fun m hm hhold => ⟨hm, fun _ hmust hid => ?_⟩⟩
        have hml := Table.row_ext hm (Table.get?_mem hl) (hid.trans (Table.get?_key hl).symm)
        exact hstays hmust (hml ▸ hhold)
      | fails hmay =>
        exact ⟨h, LaneEdits.refl _, fun _ _ => hmay, fun m hm _ => ⟨hm, nofun⟩⟩
      | settles hsettling hwatch =>
        refine ⟨h.settle hl hsettling hwatch, LaneEdits.setLane _ _ _, nofun, fun m hm hhold => ?_⟩
        obtain ⟨n, hn, rfl⟩ := Db.mem_setLane.mp hm
        split at hhold
        · have hunheld := hsettling.unheld
          simp only [circuitRow] at hhold
          rw [hunheld] at hhold
          cases hhold
        · rename_i hid
          rw [if_neg hid]
          exact ⟨hn, fun _ _ => hid⟩
    rcases Tx.run_bind_ends hrun with ⟨e, hu, rfl⟩ | ⟨_, u, hu, hrest⟩
    · obtain ⟨hstate, hedits, hmay, hheld⟩ := hone hu
      exact ⟨hstate, hedits, fun _ _ => hmay e rfl,
        fun m hm hhold => ⟨⟨m, (hheld m hm hhold).1, rfl, hhold⟩, nofun⟩⟩
    · obtain ⟨hstate, hedits, _, hheld⟩ := hone hu
      have hended' : job.status.isTerminal = true → JobEnded u job.id := by
        unfold JobEnded
        rw [hedits.jobs]
        exact hended
      have hpresent' : ∀ k ∈ rest, ∃ l, u.lanes.get? k = some l := by
        intro k hk
        obtain ⟨m, hm⟩ := hpresent k (List.mem_cons_of_mem id hk)
        exact hedits.present k m hm
      obtain ⟨hstate', hedits', hmay', hheld'⟩ := ih hstate hended' hpresent' hrest
      refine ⟨hstate', hedits.trans hedits', hmay', fun m hm hhold => ?_⟩
      obtain ⟨⟨n, hn, hid, hnhold⟩, hnot⟩ := hheld' m hm hhold
      obtain ⟨hns, hne⟩ := hheld n hn hnhold
      refine ⟨⟨n, hns, hid, hnhold⟩, fun hok hmust => ?_⟩
      rw [List.mem_cons, not_or]
      exact ⟨hid ▸ hne rfl hmust, hnot hok hmust⟩

/-- A pass over lanes that cover the job leaves none held by it. -/
theorem ProbeState.freed {watch : Option Watch} {jobId : String} {s : Db}
    (h : ProbeState watch (some jobId) s) (hnot : Unheld s jobId) : ProbeState watch none s where
  lanes := h.lanes
  slots := h.slots
  jobs := h.jobs
  holders l hl k hhold := by
    obtain ⟨j, hj, hsync, hlive, hcounts, hready⟩ := h.holders l hl k hhold
    refine ⟨j, hj, hsync, fun _ => hlive (fun heq => ?_), hcounts, hready⟩
    cases heq
    exact hnot l hl hhold
  watched := h.watched

end MediaSync.Scheduler
