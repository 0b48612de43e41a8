import MediaSync.Scheduler.LaneStarts

/-!
# Lane and capacity limits

A claim starts its job where both of the job's lanes and the capacity have room,
and moves the start times of these two lanes past its own clock. So the counts
stay within their limits while policies and capacity do, and two claims in one
lane are apart by its interval whatever clocks they were issued with.
-/

namespace MediaSync.Scheduler

open Python Transaction Transition SchedulerError SchedulerRepository Relation

/-! ## The start of a job -/

/-- The two lanes of a job exist. -/
def BothLanes (db : Db) (j : Job) : Prop :=
  (∃ l ∈ db.lanes.rows, l.scopeType = .platform ∧ l.counts j = true) ∧
    ∃ l ∈ db.lanes.rows, l.scopeType = .account ∧ l.counts j = true

theorem BothLanes.kept {s t : Db} {j k : Job} (h : BothLanes s j) (hjk : SameWork j k)
    (hlanes : ∀ id l, s.lanes.get? id = some l →
      ∃ m, t.lanes.get? id = some m ∧ l.SameSlotColumns m) : BothLanes t k := by
  obtain ⟨⟨l, hl, hscope, hcounts⟩, l', hl', hscope', hcounts'⟩ := h
  obtain ⟨m, hm, hlm⟩ := hlanes _ l (Table.get?_of_mem hl)
  obtain ⟨m', hm', hlm'⟩ := hlanes _ l' (Table.get?_of_mem hl')
  exact ⟨⟨m, Table.get?_mem hm, hlm.scopeType.trans hscope, by
      rw [hlm.counts, hjk.counts]; exact hcounts⟩,
    m', Table.get?_mem hm', hlm'.scopeType.trans hscope', by
      rw [hlm'.counts, hjk.counts]; exact hcounts'⟩

/-- A lane that counts the job has the slot of one of the job's two lanes. -/
theorem sameSlot_of_counts {lp la l : SchedulerLane} {j : Job} (hps : lp.scopeType = .platform)
    (has : la.scopeType = .account) (hlpc : lp.counts j = true) (hlac : la.counts j = true)
    (hcounts : l.counts j = true) : lp.sameSlot l = true ∨ la.sameSlot l = true := by
  cases hl : l.scopeType with
  | platform =>
    left
    simp only [SchedulerLane.counts, hps, hl, decide_eq_true_eq] at hlpc hcounts
    rw [hcounts] at hlpc
    simp [SchedulerLane.sameSlot, hps, hl, Option.some.inj hlpc]
  | account =>
    right
    simp only [SchedulerLane.counts, has, hl, Bool.and_eq_true, decide_eq_true_eq] at hlac hcounts
    simp [SchedulerLane.sameSlot, has, hl, ← hlac.2, hcounts.2]

/-- What a start leaves of a lane: room was found and the start time moved in the lanes of
the job, and nothing moved in the others. -/
structure LaneStart (now : Time) (j : Job) (u : Db) (l m : SchedulerLane) : Prop where
  slot : l.SameSlotColumns m
  maxConcurrency : m.maxConcurrency = l.maxConcurrency
  minStartIntervalSeconds : m.minStartIntervalSeconds = l.minStartIntervalSeconds
  free : l.counts j = true → ∀ at' ∈ l.nextStartAt, at' ≤ now
  room : l.counts j = true → laneActiveCount u l < l.maxConcurrency
  moved : l.counts j = true →
    m.nextStartAt = some (now + l.minStartIntervalSeconds * 1000000)
  others : l.counts j = false → m.nextStartAt = l.nextStartAt

structure Started (now : Time) (j : Job) (u t : Db) : Prop where
  active : ∀ k, SyncRow t k → k.isActiveWork = true →
    SameWork j k ∨ ∃ i, SyncRow u i ∧ i.isActiveWork = true ∧ SameWork i k
  lanes : ∀ id, Option.Rel (LaneStart now j u) (u.lanes.get? id) (t.lanes.get? id)
  both : BothLanes t j

theorem ensureLane_ok {uuid : Nat → String} {policy : LanePolicy} {now : Time} {s t : Db}
    {id : String} (h : ensureLane uuid policy now s = (.ok id, t)) :
    ∃ l, t.lanes.get? id = some l ∧
      l.inScope policy.scopeType policy.platform policy.accountId = true := by
  obtain ⟨_, s₁, _, h⟩ := Tx.run_bind_ok h
  obtain ⟨_, s₂, _, h⟩ := Tx.run_bind_ok h
  obtain ⟨_, s₃, _, h⟩ := Tx.run_bind_ok h
  rw [Tx.run_read_bind] at h
  cases hfind : findLane s₃ policy with
  | none =>
    rw [hfind] at h
    cases h
  | some l =>
    rw [hfind] at h
    cases h
    obtain ⟨hmem, hscope⟩ := findLane_some hfind
    exact ⟨l, Table.get?_of_mem hmem, hscope⟩

theorem laneActiveCount_congr {db : Db} {l m : SchedulerLane} (h : l.SameSlotColumns m) :
    laneActiveCount db m = laneActiveCount db l := by
  unfold laneActiveCount
  simp only [h.counts]

/-- The lanes that a claim finds are the two of its job. -/
theorem jobLanes_ok {uuid : Nat → String} {job : Job} {now : Time} {s t : Db}
    {ids : List String} (h : jobLanes uuid job now s = (.ok ids, t)) :
    ∃ lp la, ids = [lp.id, la.id] ∧ t.lanes.get? lp.id = some lp ∧
      t.lanes.get? la.id = some la ∧ lp.scopeType = .platform ∧ la.scopeType = .account ∧
      lp.counts job = true ∧ la.counts job = true := by
  unfold jobLanes at h
  cases hplatform : job.platform with
  | none =>
    rw [hplatform] at h
    cases h
  | some platform =>
    cases haccount : job.accountId with
    | none =>
      rw [hplatform, haccount] at h
      cases h
    | some accountId =>
      rw [hplatform, haccount] at h
      obtain ⟨pl, s₁, hpl, h⟩ := Tx.run_bind_ok h
      obtain ⟨policy, hpolicy, h⟩ := Tx.run_bind_ofExcept h
      obtain ⟨al, s₂, hal, h⟩ := Tx.run_bind_ok h
      cases h
      obtain ⟨hscope, hpp, hpa⟩ := LanePolicy.ofAccount_ok hpolicy
      obtain ⟨lp, hlp, hlpscope⟩ := ensureLane_ok hpl
      obtain ⟨la, hla, hlascope⟩ := ensureLane_ok hal
      -- The account lane's part keeps the platform lane, though not yet its row.
      obtain ⟨lp', hlp', hsame⟩ :=
        ((NoStart.closed.ensureLane _ _ _).ends hal).lanes.kept _ _ hlp
      rw [← hsame.slot.inScope, inScope_iff] at hlpscope
      rw [inScope_iff, hscope, hpp, hpa] at hlascope
      obtain ⟨hps, hpp', _⟩ := hlpscope
      obtain ⟨has, hap, haa⟩ := hlascope
      have hps' : lp'.scopeType = .platform := hps
      have hpp'' : lp'.platform = platform := hpp'
      have haa' : la.accountId = some accountId := haa
      have hlpid : lp'.id = pl := Table.get?_key hlp'
      have hlaid : la.id = al := Table.get?_key hla
      refine ⟨lp', la, by rw [hlpid, hlaid], by rw [hlpid]; exact hlp', by rw [hlaid]; exact hla,
        hps', has, ?_, ?_⟩
      · simp [SchedulerLane.counts, hps', hplatform, hpp'']
      · simp [SchedulerLane.counts, has, haccount, haa']

theorem laneAllows_room {db : Db} {l : SchedulerLane} {jobId : String} {now : Time}
    (h : laneAllows db l jobId now = true) :
    (∀ at' ∈ l.nextStartAt, at' ≤ now) ∧ laneActiveCount db l < l.maxConcurrency := by
  unfold laneAllows at h
  split at h
  · cases h
  · rename_i hfree
    split at h
    · cases h
    · rename_i hroom
      refine ⟨fun at' hat => ?_, Nat.lt_of_not_le hroom⟩
      simp only [Option.any_eq_true, decide_eq_true_eq, not_exists, not_and] at hfree
      exact Nat.le_of_not_lt (hfree at' hat)

variable {repo : SchedulerRepository}

theorem claimOf_scope {j : Job} {claim : SchedulerClaim} (h : claimOf j = .ok claim) :
    j.platform = some claim.platform ∧ j.accountId = some claim.accountId := by
  unfold claimOf at h
  obtain ⟨p, _, h⟩ := except_bind_ok h
  split at h
  · rename_i haccount hplatform _ _
    cases h
    exact ⟨hplatform, haccount⟩
  · cases h

/-- The row that a claim leases, and no other. -/
theorem claimRow_ok {id owner : String} {lease : Nat} {now : Time} {u v : Db} {k : Job}
    (h : claimRow repo id owner lease now u = (.ok (some k), v)) :
    ∃ i, SyncRow u i ∧ i.id = id ∧ SameWork i k ∧ v.lanes = u.lanes ∧
      ∀ r, SyncRow v r → r = k ∨ SyncRow u r := by
  obtain ⟨token, w, htoken, h⟩ := Tx.run_bind_ok h
  cases htoken
  obtain ⟨expiresAt, _, h⟩ := Tx.run_bind_ofExcept h
  obtain ⟨i, hget, hc, rfl, rfl⟩ := updateJob_some h
  simp only [Bool.and_eq_true] at hc
  have hget' : u.jobs.get? id = some i := hget
  obtain ⟨hid, hrow⟩ := SyncRow.of_get? hget' hc.1.1.1.1
  refine ⟨i, hrow, hid, ⟨rfl, rfl, rfl⟩, rfl, fun r hr => ?_⟩
  have hrow' := hr.row
  rw [Db.get?_setJob] at hrow'
  split at hrow'
  · rename_i heq
    rw [heq, hget] at hrow'
    exact .inl (Option.some.inj hrow').symm
  · exact .inr ⟨hrow', hr.isSync⟩

theorem get?_setReserved (db : Db) (id jobId : String) (state : CircuitState)
    (nextStartAt now : Time) (k : String) :
    (db.setLane id (reservedLane state jobId nextStartAt now)).lanes.get? k =
      if k = id then (db.lanes.get? k).map (reservedLane state jobId nextStartAt now)
      else db.lanes.get? k := by
  rw [Db.get?_setLane]
  rfl

/-- The reservation of two lanes. -/
theorem reserve_two {jobId : String} {now : Time} {v t : Db} {lp la : SchedulerLane}
    (hlp : v.lanes.get? lp.id = some lp) (hla : v.lanes.get? la.id = some la)
    (hne : la.id ≠ lp.id)
    (h : Tx.forEach (fun laneId => reserveLane laneId jobId now) [lp.id, la.id] v =
      (.ok (), t)) :
    t.jobs = v.jobs ∧ ∀ id, t.lanes.get? id =
      if id = lp.id ∨ id = la.id then (v.lanes.get? id).map (fun l =>
        reservedLane l.circuitState jobId (now + l.minStartIntervalSeconds * 1000000) now l)
      else v.lanes.get? id := by
  obtain ⟨_, x, hfirst, h⟩ := Tx.run_bind_ok h
  obtain ⟨_, y, hsecond, h⟩ := Tx.run_bind_ok h
  cases h
  have hx := reserveLane_ok hlp hfirst
  have hla' : x.lanes.get? la.id = some la := by
    rw [hx, Db.get?_setLane, if_neg hne]
    exact hla
  have hy := reserveLane_ok hla' hsecond
  refine ⟨by rw [hy, hx]; rfl, fun id => ?_⟩
  rw [hy, get?_setReserved, hx, get?_setReserved]
  by_cases hp : id = lp.id
  · have hidne : id ≠ la.id := fun heq => hne (heq.symm.trans hp)
    rw [if_neg hidne, if_pos hp, if_pos (.inl hp), hp, hlp, Option.map_some, Option.map_some]
  · by_cases ha : id = la.id
    · rw [if_pos ha, if_neg hp, if_pos (.inr ha), ha, hla, Option.map_some, Option.map_some]
    · rw [if_neg ha, if_neg hp, if_neg (by tauto)]

/-- A granted claim starts one job. -/
theorem Grant.started {owner : String} {lease : Nat} {now : Time} {s t : Db}
    {claim : SchedulerClaim} (hslots : SlotsUnique s)
    (h : Grant repo owner lease now s t claim) :
    ∃ j u, NoStart s u ∧ Started now j u t ∧ j.platform = some claim.platform ∧
      j.accountId = some claim.accountId := by
  obtain ⟨j, ids, u, k, v, hrow, hlanes, hallow, hclaim, hreserve, hclaimOf⟩ := h.written
  have hno : NoStart s u := (NoStart.closed.jobLanes _ _ _).ends hlanes
  have hslots := hno.lanes.slots hslots
  have hjobs : u.jobs = s.jobs := ((LaneWork.closed.jobLanes _ _ _).ends hlanes).jobs
  obtain ⟨lp, la, rfl, hlp, hla, hps, has, hlpc, hlac⟩ := jobLanes_ok hlanes
  simp only [lanesAllow, List.all_cons, List.all_nil, Bool.and_true, hlp, hla, Option.any_some,
    Bool.and_eq_true] at hallow
  obtain ⟨i, hi, hid, hik, hvlanes, hrows⟩ := claimRow_ok hclaim
  obtain rfl : i = j := hi.eq_of_id (hrow.transport hjobs) hid
  have hne : la.id ≠ lp.id := by
    intro heq
    rw [heq, hlp] at hla
    cases hla
    rw [hps] at has
    cases has
  rw [← hvlanes] at hlp hla
  obtain ⟨htjobs, htlanes⟩ := reserve_two hlp hla hne hreserve
  rw [hvlanes] at hlp hla
  have hstart : ∀ id, Option.Rel (LaneStart now i u) (u.lanes.get? id) (t.lanes.get? id) := by
    intro id
    rw [htlanes, hvlanes]
    cases hl : u.lanes.get? id with
    | none =>
      rw [Option.map_none, ite_self]
      exact .none
    | some l =>
      split
      · rename_i hids
        have hroom : (∀ at' ∈ l.nextStartAt, at' ≤ now) ∧
            laneActiveCount u l < l.maxConcurrency := by
          rcases hids with rfl | rfl
          · rw [hlp] at hl
            cases hl
            exact laneAllows_room hallow.1
          · rw [hla] at hl
            cases hl
            exact laneAllows_room hallow.2
        have hcounts : l.counts i = true := by
          rcases hids with rfl | rfl
          · rw [hlp] at hl
            cases hl
            exact hlpc
          · rw [hla] at hl
            cases hl
            exact hlac
        exact .some ⟨⟨rfl, rfl, rfl, rfl⟩, rfl, rfl, fun _ => hroom.1, fun _ => hroom.2,
          fun _ => rfl, fun hnot => by
            rw [hcounts] at hnot
            cases hnot⟩
      · rename_i hids
        have hnot : l.counts i ≠ true := by
          intro hcounts
          rcases sameSlot_of_counts hps has hlpc hlac hcounts with hsame | hsame
          · obtain rfl := hslots lp (Table.get?_mem hlp) l (Table.get?_mem hl) hsame
            exact hids (.inl (Table.get?_key hl).symm)
          · obtain rfl := hslots la (Table.get?_mem hla) l (Table.get?_mem hl) hsame
            exact hids (.inr (Table.get?_key hl).symm)
        exact .some ⟨⟨rfl, rfl, rfl, rfl⟩, rfl, rfl, fun hcounts => (hnot hcounts).elim,
          fun hcounts => (hnot hcounts).elim, fun hcounts => (hnot hcounts).elim, fun _ => rfl⟩
  refine ⟨i, u, hno, ⟨fun r hr hactive => ?_, hstart, ?_⟩, ?_⟩
  · rcases hrows r (hr.transport htjobs.symm) with rfl | hold
    · exact .inl hik
    · exact .inr ⟨r, hold, hactive, .refl r⟩
  · have hlanes : ∀ id l, u.lanes.get? id = some l →
        ∃ m, t.lanes.get? id = some m ∧ l.SameSlotColumns m := by
      intro id l hl
      have hrel := hstart id
      rw [hl] at hrel
      obtain ⟨m, hm, hlm⟩ := rel_some_left hrel
      exact ⟨m, hm, hlm.slot⟩
    exact BothLanes.kept ⟨⟨lp, Table.get?_mem hlp, hps, hlpc⟩, la, Table.get?_mem hla, has, hlac⟩
      (.refl i) hlanes
  · obtain ⟨hplatform, haccount⟩ := claimOf_scope hclaimOf
    exact ⟨hik.platform ▸ hplatform, hik.accountId ▸ haccount⟩

theorem NoStart.laneActiveCount_le {s t : Db} (h : NoStart s t) (l : SchedulerLane) :
    laneActiveCount t l ≤ laneActiveCount s l := by
  refine Table.countP_le (fun k hk hp => ?_)
  simp only [Bool.and_eq_true] at hp
  obtain ⟨j, hj, hactive, hjk⟩ := h.active k ⟨Table.get?_of_mem hk, hp.1.1⟩ hp.1.2
  refine ⟨j, Table.get?_mem hj.row, hjk.id.symm, ?_⟩
  rw [hj.isSync, hactive, ← hjk.counts, hp.2]
  rfl

theorem NoStart.activeWork_le {s t : Db} (h : NoStart s t) : activeWork t ≤ activeWork s := by
  refine Table.countP_le (fun k hk hp => ?_)
  simp only [Bool.and_eq_true] at hp
  obtain ⟨j, hj, hactive, hjk⟩ := h.active k ⟨Table.get?_of_mem hk, hp.1⟩ hp.2
  refine ⟨j, Table.get?_mem hj.row, hjk.id.symm, ?_⟩
  rw [hj.isSync, hactive]
  rfl

theorem Started.laneActiveCount_le {now : Time} {j : Job} {u t : Db} (h : Started now j u t)
    (l : SchedulerLane) : laneActiveCount t l ≤ laneActiveCount u l + 1 := by
  refine Table.countP_le_succ j.id (fun k hk hp => ?_)
  simp only [Bool.and_eq_true] at hp
  rcases h.active k ⟨Table.get?_of_mem hk, hp.1.1⟩ hp.1.2 with hjk | ⟨i, hi, hactive, hik⟩
  · exact .inl hjk.id
  · refine .inr ⟨i, Table.get?_mem hi.row, hik.id.symm, ?_⟩
    rw [hi.isSync, hactive, ← hik.counts, hp.2]
    rfl

theorem Started.activeWork_le {now : Time} {j : Job} {u t : Db} (h : Started now j u t) :
    activeWork t ≤ activeWork u + 1 := by
  refine Table.countP_le_succ j.id (fun k hk hp => ?_)
  simp only [Bool.and_eq_true] at hp
  rcases h.active k ⟨Table.get?_of_mem hk, hp.1⟩ hp.2 with hjk | ⟨i, hi, hactive, hik⟩
  · exact .inl hjk.id
  · refine .inr ⟨i, Table.get?_mem hi.row, hik.id.symm, ?_⟩
    rw [hi.isSync, hactive]
    rfl

/-- In a lane that does not count the started job the count does not grow. -/
theorem Started.laneActiveCount_others {now : Time} {j : Job} {u t : Db} (h : Started now j u t)
    {l : SchedulerLane} (hnot : l.counts j = false) :
    laneActiveCount t l ≤ laneActiveCount u l := by
  refine Table.countP_le (fun k hk hp => ?_)
  simp only [Bool.and_eq_true] at hp
  rcases h.active k ⟨Table.get?_of_mem hk, hp.1.1⟩ hp.1.2 with hjk | ⟨i, hi, hactive, hik⟩
  · rw [hjk.counts, hnot] at hp
    cases hp.2
  · refine ⟨i, Table.get?_mem hi.row, hik.id.symm, ?_⟩
    rw [hi.isSync, hactive, ← hik.counts, hp.2]
    rfl

theorem Started.slots {now : Time} {j : Job} {u t : Db} (h : Started now j u t)
    (hu : SlotsUnique u) : SlotsUnique t := by
  intro l hl m hm hsame
  have hrel := h.lanes l.id
  rw [Table.get?_of_mem hl] at hrel
  obtain ⟨l', hl', hll⟩ := rel_some_right hrel
  have hrel := h.lanes m.id
  rw [Table.get?_of_mem hm] at hrel
  obtain ⟨m', hm', hmm⟩ := rel_some_right hrel
  rw [hll.slot.sameSlot hmm.slot] at hsame
  have hlm := hu l' (Table.get?_mem hl') m' (Table.get?_mem hm') hsame
  refine Table.row_ext hl hm ?_
  rw [hll.slot.id, hmm.slot.id, hlm]

structure WithinLimits (capacity : Nat) (s : Db) : Prop where
  slots : SlotsUnique s
  ready : ∀ j, SyncRow s j → j.isActiveWork = true → BothLanes s j
  lanes : ∀ l ∈ s.lanes.rows, laneActiveCount s l ≤ l.maxConcurrency
  total : activeWork s ≤ capacity

/-- The policies of the lanes that are there stay. -/
def PoliciesKept (s t : Db) : Prop :=
  ∀ id l m, s.lanes.get? id = some l → t.lanes.get? id = some m →
    m.maxConcurrency = l.maxConcurrency ∧
      m.minStartIntervalSeconds = l.minStartIntervalSeconds

namespace WithinLimits

variable {capacity : Nat} {s t u : Db}

/-- A lane that was not there counts no job. -/
theorem count_new (hs : WithinLimits capacity s) (h : NoStart s u) {l : SchedulerLane}
    (hl : u.lanes.get? l.id = some l) (hnew : s.lanes.get? l.id = none) :
    laneActiveCount s l = 0 := by
  refine List.countP_eq_zero.2 (fun j hj hp => ?_)
  simp only [Bool.and_eq_true] at hp
  obtain ⟨⟨m, hm, hmscope, hmcounts⟩, m', hm', hmscope', hmcounts'⟩ :=
    hs.ready j ⟨Table.get?_of_mem hj, hp.1.1⟩ hp.1.2
  have hfound : ∀ n ∈ s.lanes.rows, n.sameSlot l = true → False := by
    intro n hn hsame
    obtain ⟨n', hn', hnn⟩ := h.lanes.kept _ n (Table.get?_of_mem hn)
    have hsame' : n'.sameSlot l = true :=
      (hnn.slot.sameSlot (⟨rfl, rfl, rfl, rfl⟩ : l.SameSlotColumns l)).trans hsame
    have heq := h.lanes.slots hs.slots n' (Table.get?_mem hn') l (Table.get?_mem hl) hsame'
    rw [← heq, hnn.slot.id, Table.get?_of_mem hn] at hnew
    cases hnew
  rcases sameSlot_of_counts hmscope hmscope' hmcounts hmcounts' hp.2 with hsame | hsame
  · exact hfound m hm hsame
  · exact hfound m' hm' hsame

/-- Until a start, a lane counts no more than its policy before allowed. -/
theorem count_le (hs : WithinLimits capacity s) (h : NoStart s u) {l : SchedulerLane}
    (hl : u.lanes.get? l.id = some l) {n : Nat}
    (hpolicy : ∀ l', s.lanes.get? l.id = some l' → n = l'.maxConcurrency) :
    laneActiveCount u l ≤ n := by
  refine Nat.le_trans (h.laneActiveCount_le l) ?_
  cases hold : s.lanes.get? l.id with
  | none =>
    rw [hs.count_new h hl hold]
    exact Nat.zero_le _
  | some l' =>
    obtain ⟨m, hm, hlm⟩ := h.lanes.kept _ l' hold
    rw [hl] at hm
    cases hm
    rw [laneActiveCount_congr hlm.slot, hpolicy l' hold]
    exact hs.lanes l' (Table.get?_mem hold)

theorem noStart (hs : WithinLimits capacity s) (h : NoStart s t) (hpolicies : PoliciesKept s t) :
    WithinLimits capacity t where
  slots := h.lanes.slots hs.slots
  ready k hk hactive := by
    obtain ⟨j, hj, hjactive, hjk⟩ := h.active k hk hactive
    refine (hs.ready j hj hjactive).kept hjk (fun id l hl => ?_)
    obtain ⟨m, hm, hlm⟩ := h.lanes.kept id l hl
    exact ⟨m, hm, hlm.slot⟩
  lanes l hl := hs.count_le h (Table.get?_of_mem hl)
    (fun l' hl' => (hpolicies _ l' l hl' (Table.get?_of_mem hl)).1)
  total := Nat.le_trans h.activeWork_le hs.total

theorem started {now : Time} {j : Job} (hs : WithinLimits capacity s) (h : NoStart s u)
    (hstart : Started now j u t) (hroom : activeWork u < capacity)
    (hpolicies : PoliciesKept s t) : WithinLimits capacity t where
  slots := hstart.slots (h.lanes.slots hs.slots)
  ready k hk hactive := by
    rcases hstart.active k hk hactive with hjk | ⟨i, hi, hiactive, hik⟩
    · exact hstart.both.kept hjk (fun id l hl => ⟨l, hl, rfl, rfl, rfl, rfl⟩)
    · obtain ⟨j', hj', hjactive, hji⟩ := h.active i hi hiactive
      refine (hs.ready j' hj' hjactive).kept (hji.trans hik) (fun id l hl => ?_)
      obtain ⟨m, hm, hlm⟩ := h.lanes.kept id l hl
      have hrel := hstart.lanes id
      rw [hm] at hrel
      obtain ⟨n, hn, hmn⟩ := rel_some_left hrel
      exact ⟨n, hn, hlm.slot.trans hmn.slot⟩
  lanes m hm := by
    have hrel := hstart.lanes m.id
    rw [Table.get?_of_mem hm] at hrel
    obtain ⟨l, hl, hlm⟩ := rel_some_right hrel
    have hid : l.id = m.id := Table.get?_key hl
    rw [laneActiveCount_congr hlm.slot, hlm.maxConcurrency]
    cases hcounts : l.counts j with
    | true =>
      have hroom := hlm.room hcounts
      have hcount := hstart.laneActiveCount_le l
      omega
    | false =>
      refine Nat.le_trans (hstart.laneActiveCount_others hcounts) ?_
      refine hs.count_le h (by rw [hid]; exact hl) (fun l' hl' => ?_)
      rw [hid] at hl'
      exact hlm.maxConcurrency ▸ (hpolicies _ l' m hl' (Table.get?_of_mem hm)).1
  total := Nat.le_trans hstart.activeWork_le hroom

end WithinLimits

/-- The lane is there and starts nothing before the given time. -/
def StartsAfter (id : String) (time : Time) (s : Db) : Prop :=
  ∃ m at', s.lanes.get? id = some m ∧ m.nextStartAt = some at' ∧ time ≤ at'

theorem StartsAfter.noStart {id : String} {time : Time} {s t : Db} (h : StartsAfter id time s)
    (hst : NoStart s t) : StartsAfter id time t := by
  obtain ⟨m, at', hm, hat, hle⟩ := h
  obtain ⟨n, hn, hmn⟩ := hst.lanes.kept id m hm
  exact ⟨n, at', hn, hmn.nextStartAt.trans hat, hle⟩

/-- A start time moves forward, and a start in the lane is not before it. -/
theorem StartsAfter.started {id : String} {time now : Time} {j : Job} {u t : Db}
    (h : StartsAfter id time u) (hstart : Started now j u t) :
    StartsAfter id time t ∧
      ∀ m, t.lanes.get? id = some m → m.counts j = true → time ≤ now := by
  obtain ⟨l, at', hl, hat, hle⟩ := h
  have hrel := hstart.lanes id
  rw [hl] at hrel
  obtain ⟨m, hm, hlm⟩ := rel_some_left hrel
  constructor
  · cases hcounts : l.counts j with
    | true =>
      have hfree := hlm.free hcounts at' (by rw [hat]; rfl)
      exact ⟨m, _, hm, hlm.moved hcounts,
        Nat.le_trans (Nat.le_trans hle hfree) (Nat.le_add_right _ _)⟩
    | false => exact ⟨m, at', hm, (hlm.others hcounts).trans hat, hle⟩
  · intro m' hm' hcounts
    rw [hm] at hm'
    cases hm'
    rw [hlm.slot.counts] at hcounts
    exact Nat.le_trans hle (hlm.free hcounts at' (by rw [hat]; rfl))

/-! ## Runs -/

/-- Other code leaves the lanes and the sync jobs alone. -/
structure LanesLeft (s t : Db) : Prop where
  lanes : t.lanes = s.lanes
  jobs : SyncJobsLeft s t

theorem LanesLeft.noStart {s t : Db} (h : LanesLeft s t) : NoStart s t :=
  ⟨.of_eq h.lanes, fun k hk hactive =>
    ⟨k, ⟨h.jobs.symm.get? hk.row hk.isSync, hk.isSync⟩, hactive, .refl k⟩⟩

/-- No job is under a lease. -/
structure Unstarted (s : Db) : Prop where
  slots : SlotsUnique s
  jobs : ∀ j ∈ s.jobs.rows, j.isSync = true → j.isActiveWork = false

/-- The arguments and the result of a claim that was granted. -/
def Event.granted? : Event → Option (ClaimArguments × SchedulerClaim)
  | .call _ op (.ok (.claimed (some claim))) _ =>
    op.claimArguments?.map (fun args => (args, claim))
  | _ => none

/-- Lane policies and the capacity are held. -/
def Event.HoldsLimits (capacity : Nat) (e : Event) : Prop :=
  PoliciesKept e.before e.after ∧
    ∀ args claim, e.granted? = some (args, claim) → args.globalCapacity = capacity

/-- The lane counts the claimed job. -/
def SchedulerLane.records (l : SchedulerLane) (claim : SchedulerClaim) : Bool :=
  match l.scopeType with
  | .platform => l.platform = claim.platform
  | .account => l.accountId = some claim.accountId

theorem records_eq_counts {l : SchedulerLane} {j : Job} {claim : SchedulerClaim}
    (hplatform : j.platform = some claim.platform)
    (haccount : j.accountId = some claim.accountId) : l.records claim = l.counts j := by
  unfold SchedulerLane.records SchedulerLane.counts
  rw [hplatform, haccount]
  cases l.scopeType with
  | platform => simp [eq_comm]
  | account =>
    dsimp only
    cases l.accountId with
    | none => rfl
    | some a => simp [eq_comm]

/-- A granted claim is a start with room for it. -/
structure StartEvent (capacity : Nat) (args : ClaimArguments) (claim : SchedulerClaim)
    (s t : Db) : Prop where
  start : SlotsUnique s → ∃ j u, NoStart s u ∧ Started args.now j u t ∧
    (args.globalCapacity = capacity → activeWork u < capacity) ∧
    j.platform = some claim.platform ∧ j.accountId = some claim.accountId

theorem step_starts {s t : Db} {e : Event} (h : Step repo LanesLeft s e t) :
    match e.granted? with
    | some (args, claim) => ∀ capacity, StartEvent capacity args claim s t
    | none => NoStart s t := by
  cases h with
  | elsewhere henv => exact henv.noStart
  | @call t op reply hrun =>
    cases reply with
    | error e =>
      cases Tx.commit_error hrun
      exact NoStart.chains.refl _
    | ok reply =>
      have hperform := Tx.commit_ok hrun
      cases hop : op.claimArguments? with
      | none =>
        have hno := perform_noStart hop hperform
        have hgranted : Event.granted? (.call s op (.ok reply) t) = none := by
          cases reply with
          | claimed claim =>
            cases claim with
            | none => rfl
            | some claim => simp [Event.granted?, hop]
          | _ => rfl
        rw [hgranted]
        exact hno
      | some args =>
        obtain ⟨r, rfl, hacts⟩ := perform_claim_acts hop hperform
        cases r with
        | none => exact Acts.noStart hacts
        | some claim =>
          have hgranted : Event.granted? (.call s op (.ok (.claimed (some claim))) t) =
              some (args, claim) := by simp [Event.granted?, hop]
          rw [hgranted]
          refine fun capacity => ⟨fun hslots => ?_⟩
          obtain ⟨owner, limit, lease, m, n, _, hlimit, hm, hroom, hn, hgrant⟩ := hacts
          have hno : NoStart s n := Acts.noStart (hm.trans hn)
          obtain ⟨j, u, hu, hstart, hplatform, haccount⟩ :=
            hgrant.started (hno.lanes.slots hslots)
          refine ⟨j, u, NoStart.chains.trans _ _ _ hno hu, hstart, fun hcapacity => ?_,
            hplatform, haccount⟩
          have hless := Nat.le_trans hu.activeWork_le (Acts.noStart hn).activeWork_le
          have hlimit' : limit = capacity := by
            unfold boundedInt at hlimit
            rw [hcapacity] at hlimit
            split at hlimit
            · cases hlimit
              rfl
            · cases hlimit
          omega

theorem step_withinLimits {capacity : Nat} {s t : Db} {e : Event} (hs : WithinLimits capacity s)
    (h : Step repo LanesLeft s e t) (hfixed : e.HoldsLimits capacity) :
    WithinLimits capacity t := by
  obtain ⟨rfl, rfl⟩ := h.ends
  have hstep := step_starts h
  cases hgranted : e.granted? with
  | none =>
    rw [hgranted] at hstep
    exact hs.noStart hstep hfixed.1
  | some granted =>
    obtain ⟨args, claim⟩ := granted
    rw [hgranted] at hstep
    obtain ⟨j, u, hu, hstart, hroom, _⟩ := (hstep capacity).start hs.slots
    exact hs.started hu hstart (hroom (hfixed.2 args claim hgranted)) hfixed.1

/-- A lane row that stands for the same lane under the same interval. -/
structure SameInterval (l m : SchedulerLane) : Prop where
  slot : l.SameSlotColumns m
  minStartIntervalSeconds : m.minStartIntervalSeconds = l.minStartIntervalSeconds

theorem SameInterval.refl (l : SchedulerLane) : SameInterval l l := ⟨⟨rfl, rfl, rfl, rfl⟩, rfl⟩

theorem SameInterval.trans {l m n : SchedulerLane} (h : SameInterval l m)
    (k : SameInterval m n) : SameInterval l n :=
  ⟨h.slot.trans k.slot, k.minStartIntervalSeconds.trans h.minStartIntervalSeconds⟩

/-- The lanes keep their slots apart, and the ones that were there stay. -/
structure LanesStay (s t : Db) : Prop where
  slots : SlotsUnique s → SlotsUnique t
  kept : SlotsUnique s → ∀ id l, s.lanes.get? id = some l →
    ∃ m, t.lanes.get? id = some m ∧ SameInterval l m

theorem LanesStay.refl (s : Db) : LanesStay s s := ⟨fun h => h, fun _ _ l hl => ⟨l, hl, .refl l⟩⟩

theorem LanesStay.trans {s t u : Db} (h : LanesStay s t) (k : LanesStay t u) : LanesStay s u where
  slots hs := k.slots (h.slots hs)
  kept hs id l hl := by
    obtain ⟨m, hm, hlm⟩ := h.kept hs id l hl
    obtain ⟨n, hn, hmn⟩ := k.kept (h.slots hs) id m hm
    exact ⟨n, hn, hlm.trans hmn⟩

theorem step_lanesStay {capacity : Nat} {s t : Db} {e : Event} (h : Step repo LanesLeft s e t)
    (hfixed : e.HoldsLimits capacity) : LanesStay s t := by
  obtain ⟨rfl, rfl⟩ := h.ends
  have hstep := step_starts h
  have hslot : SlotsUnique e.before → SlotsUnique e.after ∧
      ∀ id l, e.before.lanes.get? id = some l →
        ∃ m, e.after.lanes.get? id = some m ∧ l.SameSlotColumns m := by
    intro hs
    cases hgranted : e.granted? with
    | none =>
      rw [hgranted] at hstep
      refine ⟨hstep.lanes.slots hs, fun id l hl => ?_⟩
      obtain ⟨m, hm, hlm⟩ := hstep.lanes.kept id l hl
      exact ⟨m, hm, hlm.slot⟩
    | some granted =>
      rw [hgranted] at hstep
      obtain ⟨j, u, hu, hstart, _⟩ := (hstep capacity).start hs
      refine ⟨hstart.slots (hu.lanes.slots hs), fun id l hl => ?_⟩
      obtain ⟨m, hm, hlm⟩ := hu.lanes.kept id l hl
      have hrel := hstart.lanes id
      rw [hm] at hrel
      obtain ⟨n, hn, hmn⟩ := rel_some_left hrel
      exact ⟨n, hn, hlm.slot.trans hmn.slot⟩
  refine ⟨fun hs => (hslot hs).1, fun hs id l hl => ?_⟩
  obtain ⟨m, hm, hlm⟩ := (hslot hs).2 id l hl
  exact ⟨m, hm, hlm, (hfixed.1 id l m hl hm).2⟩

/-- Over any step a lane's start time does not move back, and a claim granted in the lane is
not before it. -/
theorem step_startsAfter {id : String} {time : Time} {s t : Db} {e : Event}
    (hslots : SlotsUnique s) (hs : StartsAfter id time s) (h : Step repo LanesLeft s e t) :
    StartsAfter id time t ∧ ∀ args claim, e.granted? = some (args, claim) →
      ∀ m, t.lanes.get? id = some m → m.records claim = true → time ≤ args.now := by
  have hstep := step_starts h
  cases hgranted : e.granted? with
  | none =>
    rw [hgranted] at hstep
    exact ⟨hs.noStart hstep, nofun⟩
  | some granted =>
    obtain ⟨args, claim⟩ := granted
    rw [hgranted] at hstep
    obtain ⟨j, u, hu, hstart, _, hplatform, haccount⟩ := (hstep 0).start hslots
    obtain ⟨hafter, hspaced⟩ := (hs.noStart hu).started hstart
    refine ⟨hafter, fun args' claim' heq m hm hrecords => ?_⟩
    cases heq
    rw [records_eq_counts hplatform haccount] at hrecords
    exact hspaced m hm hrecords

/-- A granted claim moves the start times of the lanes that record it past its clock. -/
theorem step_moves {args : ClaimArguments} {claim : SchedulerClaim} {s t : Db} {e : Event}
    (hslots : SlotsUnique s) (h : Step repo LanesLeft s e t)
    (hgranted : e.granted? = some (args, claim)) :
    (∃ l ∈ t.lanes.rows, l.scopeType = .platform ∧ l.records claim = true) ∧
      (∃ l ∈ t.lanes.rows, l.scopeType = .account ∧ l.records claim = true) ∧
      ∀ l ∈ t.lanes.rows, l.records claim = true →
        StartsAfter l.id (args.now + l.minStartIntervalSeconds * 1000000) t := by
  have hstep := step_starts h
  rw [hgranted] at hstep
  obtain ⟨j, u, hu, hstart, _, hplatform, haccount⟩ := (hstep 0).start hslots
  have hrecords : ∀ l : SchedulerLane, l.records claim = l.counts j :=
    fun l => records_eq_counts hplatform haccount
  simp only [hrecords]
  refine ⟨hstart.both.1, hstart.both.2, fun m hm hcounts => ?_⟩
  have hrel := hstart.lanes m.id
  rw [Table.get?_of_mem hm] at hrel
  obtain ⟨l, hl, hlm⟩ := rel_some_right hrel
  rw [hlm.slot.counts] at hcounts
  exact ⟨m, _, Table.get?_of_mem hm, hlm.moved hcounts, by rw [hlm.minStartIntervalSeconds]⟩

/-- A lane that records a claim later on was there when the claim was granted. -/
theorem recorded_then {claim : SchedulerClaim} {s t : Db} {l : SchedulerLane}
    (hs : SlotsUnique s) (hst : LanesStay s t)
    (hplatform : ∃ m ∈ s.lanes.rows, m.scopeType = .platform ∧ m.records claim = true)
    (haccount : ∃ m ∈ s.lanes.rows, m.scopeType = .account ∧ m.records claim = true)
    (hl : l ∈ t.lanes.rows) (hrecords : l.records claim = true) :
    ∃ m ∈ s.lanes.rows, m.records claim = true ∧ m.id = l.id ∧ SameInterval m l := by
  have hfound : ∀ m ∈ s.lanes.rows, m.records claim = true → m.sameSlot l = true →
      ∃ m ∈ s.lanes.rows, m.records claim = true ∧ m.id = l.id ∧ SameInterval m l := by
    intro m hm hrecorded hsame
    obtain ⟨n, hn, hmn⟩ := hst.kept hs _ m (Table.get?_of_mem hm)
    have hsame' : n.sameSlot l = true :=
      (hmn.slot.sameSlot (⟨rfl, rfl, rfl, rfl⟩ : l.SameSlotColumns l)).trans hsame
    obtain rfl := hst.slots hs n (Table.get?_mem hn) l hl hsame'
    exact ⟨m, hm, hrecorded, hmn.slot.id.symm, hmn⟩
  cases hscope : l.scopeType with
  | platform =>
    obtain ⟨m, hm, hmscope, hmrecords⟩ := hplatform
    refine hfound m hm hmrecords ?_
    simp only [SchedulerLane.records, hscope, hmscope, decide_eq_true_eq] at hrecords hmrecords
    simp [SchedulerLane.sameSlot, hscope, hmscope, hrecords, hmrecords]
  | account =>
    obtain ⟨m, hm, hmscope, hmrecords⟩ := haccount
    refine hfound m hm hmrecords ?_
    simp only [SchedulerLane.records, hscope, hmscope, decide_eq_true_eq] at hrecords hmrecords
    simp [SchedulerLane.sameSlot, hscope, hmscope, hrecords, hmrecords]

/-- While lane policies and the capacity are held, and whatever clocks the operations are
issued with: every lane and the capacity bound the jobs under a lease, every such job has its
two lanes, and of two claims granted in one lane the later one is not before the earlier one's
clock plus the lane's interval. -/
theorem lane_limits {capacity : Nat} {s t : Db} {events : List Event} (hs : Unstarted s)
    (ht : History repo LanesLeft s events t) (hfixed : ∀ e ∈ events, e.HoldsLimits capacity) :
    (∀ l ∈ t.lanes.rows, laneActiveCount t l ≤ l.maxConcurrency) ∧
      activeWork t ≤ capacity ∧
      (∀ j, SyncRow t j → j.isActiveWork = true → BothLanes t j) ∧
      ∀ (i k : Nat) (e f : Event) (args args' : ClaimArguments) (claim claim' : SchedulerClaim),
        i < k → events[i]? = some e → events[k]? = some f →
        e.granted? = some (args, claim) → f.granted? = some (args', claim') →
        ∀ l ∈ t.lanes.rows, l.records claim = true → l.records claim' = true →
          args.now + l.minStartIntervalSeconds * 1000000 ≤ args'.now := by
  have hnone : ∀ j, SyncRow s j → j.isActiveWork = true → False := fun j hj hactive => by
    rw [hs.jobs j (Table.get?_mem hj.row) hj.isSync] at hactive
    cases hactive
  have hinit : WithinLimits capacity s :=
    { slots := hs.slots
      ready := fun j hj hactive => (hnone j hj hactive).elim
      lanes := fun l hl => by
        refine Nat.le_trans (Nat.le_of_eq (List.countP_eq_zero.2 (fun j hj hp => ?_)))
          (Nat.zero_le _)
        simp only [Bool.and_eq_true] at hp
        exact hnone j ⟨Table.get?_of_mem hj, hp.1.1⟩ hp.1.2
      total := by
        refine Nat.le_trans (Nat.le_of_eq (List.countP_eq_zero.2 (fun j hj hp => ?_)))
          (Nat.zero_le _)
        simp only [Bool.and_eq_true] at hp
        exact hnone j ⟨Table.get?_of_mem hj, hp.1⟩ hp.2 }
  have htrace := ht.restrict hfixed
  have hlimits := htrace.invariant (I := WithinLimits capacity)
    (fun _ _ _ hI hstep => step_withinLimits hI hstep.1 hstep.2) hinit
  refine ⟨hlimits.lanes, hlimits.total, hlimits.ready, ?_⟩
  intro i k e f args args' claim claim' hik hi hk hgranted hgranted' l hl hrecords hrecords'
  obtain ⟨a, b, ha, hab, hrest⟩ := htrace.at_index hi
  have hk' : (events.drop (i + 1))[k - (i + 1)]? = some f := by
    rw [List.getElem?_drop, show i + 1 + (k - (i + 1)) = k by omega]
    exact hk
  obtain ⟨c, d, hbc, hcd, hdt⟩ := hrest.at_index hk'
  have hslots := (ha.invariant (I := WithinLimits capacity)
    (fun _ _ _ hI hstep => step_withinLimits hI hstep.1 hstep.2) hinit).slots
  have hstay {x y : Db} {es : List Event}
      (h : Trace (fun s e t => Step repo LanesLeft s e t ∧ e.HoldsLimits capacity) x es y) :
      LanesStay x y :=
    h.relates LanesStay.refl (fun _ _ _ => LanesStay.trans)
      (fun _ _ _ hstep => step_lanesStay hstep.1 hstep.2)
  have hslotsB := (step_lanesStay hab.1 hab.2).slots hslots
  obtain ⟨hplatform, haccount, hmoves⟩ := step_moves hslots hab.1 hgranted
  obtain ⟨m, hm, hmrecords, hid, hml⟩ := recorded_then hslotsB (hstay hrest) hplatform haccount
    hl hrecords
  have hbefore := (hbc.invariant
    (I := fun x => SlotsUnique x ∧
      StartsAfter m.id (args.now + m.minStartIntervalSeconds * 1000000) x)
    (fun _ _ _ hI hstep => ⟨(step_lanesStay hstep.1 hstep.2).slots hI.1,
      (step_startsAfter hI.1 hI.2 hstep.1).1⟩) ⟨hslotsB, hmoves m hm hmrecords⟩)
  obtain ⟨n, hn, hmn⟩ := ((hstay hbc).trans (step_lanesStay hcd.1 hcd.2)).kept hslotsB _ m
    (Table.get?_of_mem hm)
  have hnrecords : n.records claim' = true := by
    have hnl : l.scopeType = n.scopeType ∧ l.platform = n.platform ∧ l.accountId = n.accountId :=
      ⟨hml.slot.scopeType.trans hmn.slot.scopeType.symm,
        hml.slot.platform.trans hmn.slot.platform.symm,
        hml.slot.accountId.trans hmn.slot.accountId.symm⟩
    unfold SchedulerLane.records at hrecords' ⊢
    rw [← hnl.1, ← hnl.2.1, ← hnl.2.2]
    exact hrecords'
  have hspaced := (step_startsAfter hbefore.1 hbefore.2 hcd.1).2 args' claim' hgranted' n hn
    hnrecords
  rw [hml.minStartIntervalSeconds]
  exact hspaced

/-- The decidable form of `Event.HoldsLimits`. -/
def Event.checkLimits (capacity : Nat) (e : Event) : Bool :=
  e.before.lanes.rows.all (fun l => e.after.lanes.rows.all (fun m =>
      l.id ≠ m.id || (m.maxConcurrency = l.maxConcurrency &&
        m.minStartIntervalSeconds = l.minStartIntervalSeconds))) &&
    e.granted?.all (fun granted => granted.1.globalCapacity = (capacity : Int))

theorem Event.HoldsLimits.of_check {capacity : Nat} {e : Event}
    (h : e.checkLimits capacity = true) : e.HoldsLimits capacity := by
  simp only [Event.checkLimits, Bool.and_eq_true, List.all_eq_true] at h
  constructor
  · intro id l m hl hm
    have hlm := h.1 l (Table.get?_mem hl) m (Table.get?_mem hm)
    simpa [Table.get?_key hl, Table.get?_key hm] using hlm
  · intro args claim hgranted
    simpa [hgranted] using h.2

/-- Two attempts of one job, the second as early as its lanes allow. -/
def sampleStarts : List Op :=
  [.materializeDue 10 500 .standard,
    .claimNext ⟨"worker", 10, 60, 10, none, 1000⟩,
    .fail "a" "worker" "aaaa" "upstream_timeout" none none none 2000,
    .claimNext ⟨"worker", 10, 60, 10, none, 2500⟩,
    .claimNext ⟨"worker", 10, 60, 10, none, 5001000⟩]

theorem lane_limits_sample :
    activeWork (replay sampleRepository sampleDb sampleStarts).2 ≤ 10 ∧
      (replay sampleRepository sampleDb sampleStarts).1.map
        (fun e => e.granted?.map (fun granted => granted.1.now)) =
        [none, some 1000, none, none, some 5001000] :=
  ⟨(lane_limits (s := sampleDb)
      ⟨by simp [SlotsUnique, sampleDb, Table.empty], by simp [sampleDb]⟩
      (replay_history sampleRepository LanesLeft sampleDb sampleStarts)
      (fun e he => .of_check (List.all_eq_true.1
        (by decide +kernel : (replay sampleRepository sampleDb sampleStarts).1.all
          (Event.checkLimits 10) = true) e he))).2.1, by decide +kernel⟩

end MediaSync.Scheduler
