import MediaSync.Scheduler.ClaimSteps

/-!
# The probe invariant

A half-open lane names its probe. `ProbeState` says what the tables must look
like for that probe to be able to end: lanes have the shape of their circuit
state and are alone in their slot, jobs are as their cycle wrote them, and the
holder of a lane is a live job that finds both of its lanes again.

Between a job's last update and the updates of its lanes the holder is already
terminal; `free` names that job. A `Watch` follows one probe through a claim:
it stays in the lane, or the lane stays open beyond the claim's clock, or the
probe has ended.
-/

namespace MediaSync.Scheduler

open Python Transaction SchedulerError SchedulerRepository

namespace SchedulerLane

/-- The columns that each circuit state may carry. -/
def WellShaped (l : SchedulerLane) : Prop :=
  match l.circuitState with
  | .closed => l.circuitOpenUntil = none ∧ l.halfOpenJobId = none
  | .opened => l.circuitOpenUntil.isSome = true ∧ l.halfOpenJobId = none
  | .halfOpen => l.circuitOpenUntil = none ∧ l.halfOpenJobId.isSome = true

end SchedulerLane

/-- A lane row as every operation leaves it. -/
structure LaneRow (db : Db) (l : SchedulerLane) : Prop where
  shape : l.WellShaped
  platformLane : l.scopeType = .platform → l.accountId = none
  accountLane : l.scopeType = .account → ∃ a account, l.accountId = some a ∧
    db.accounts.get? a = some account ∧ account.platform = l.platform
  cooldown : 1 ≤ l.cooldownSeconds

/-- The run attached to a job is there and belongs to its subscription. -/
def RunAttached (db : Db) (j : Job) : Prop :=
  ∀ runId, j.runId = some runId →
    ∃ r, db.runs.get? runId = some r ∧ some r.subscriptionId = j.subscriptionId

/-- A cycle's job as every operation leaves it. -/
structure JobRow (db : Db) (j : Job) : Prop where
  payload : ∃ p, parsePayload j = .ok p
  scope : ∃ accountId platform account, j.accountId = some accountId ∧
    j.platform = some platform ∧ db.accounts.get? accountId = some account ∧
    account.platform = platform
  run : RunAttached db j

/-- Every account stays, on its platform. -/
def AccountsKept (s t : Db) : Prop :=
  ∀ id a, s.accounts.get? id = some a →
    ∃ b, t.accounts.get? id = some b ∧ b.platform = a.platform

theorem AccountsKept.of_eq {s t : Db} (h : t.accounts = s.accounts) : AccountsKept s t :=
  fun _ a ha => ⟨a, h ▸ ha, rfl⟩

theorem LaneRow.kept {s t : Db} {l : SchedulerLane} (h : LaneRow s l) (ha : AccountsKept s t) :
    LaneRow t l where
  shape := h.shape
  platformLane := h.platformLane
  accountLane hscope := by
    obtain ⟨a, account, hid, hget, hplat⟩ := h.accountLane hscope
    obtain ⟨account', hget', hplat'⟩ := ha a account hget
    exact ⟨a, account', hid, hget', hplat'.trans hplat⟩
  cooldown := h.cooldown

theorem LaneRow.congr {s t : Db} {l : SchedulerLane} (h : LaneRow s l)
    (ha : t.accounts = s.accounts) : LaneRow t l :=
  h.kept (AccountsKept.of_eq ha)

theorem JobRow.congr {s t : Db} {j : Job} (h : JobRow s j) (ha : t.accounts = s.accounts)
    (hr : t.runs = s.runs) : JobRow t j :=
  ⟨h.payload, by rw [ha]; exact h.scope, by unfold RunAttached; rw [hr]; exact h.run⟩

def HasLane (db : Db) (policy : LanePolicy) : Prop :=
  ∃ l ∈ db.lanes.rows, l.inScope policy.scopeType policy.platform policy.accountId = true

/-- Both lanes of the job exist already. -/
def LanesReady (db : Db) (j : Job) : Prop :=
  ∀ platform accountId, j.platform = some platform → j.accountId = some accountId →
    HasLane db (LanePolicy.ofPlatform platform) ∧
    ∃ policy, LanePolicy.ofAccount platform accountId = .ok policy ∧ HasLane db policy

/-- The holder of a lane; only the free job may have ended. -/
def Holder (db : Db) (free : Option String) (jobId : String) (l : SchedulerLane) : Prop :=
  ∃ j, db.jobs.get? jobId = some j ∧ j.isSync = true ∧
    (free ≠ some jobId → j.status.isTerminal = false) ∧ l.counts j = true ∧ LanesReady db j

structure Watch where
  now : Time
  jobId : String
  lane : SchedulerLane

def JobEnded (db : Db) (jobId : String) : Prop :=
  ∃ j, db.jobs.get? jobId = some j ∧ j.isSync = true ∧ j.status.isTerminal = true

/-- The lane keeps every other job out: it is held, or open beyond the clock. -/
def SchedulerLane.Guarded (l : SchedulerLane) (w : Watch) : Prop :=
  (l.circuitState = .halfOpen ∧ l.halfOpenJobId = some w.jobId) ∨
    (l.circuitState = .opened ∧ ∃ u, l.circuitOpenUntil = some u ∧ w.now < u)

def Watched (db : Db) (w : Watch) : Prop :=
  JobEnded db w.jobId ∨
    ∃ l, db.lanes.get? w.lane.id = some l ∧ w.lane.SameSlotColumns l ∧ l.Guarded w

structure ProbeState (watch : Option Watch) (free : Option String) (db : Db) : Prop where
  lanes : ∀ l ∈ db.lanes.rows, LaneRow db l
  slots : ∀ l ∈ db.lanes.rows, ∀ m ∈ db.lanes.rows, l.sameSlot m = true → l = m
  jobs : ∀ id j, db.jobs.get? id = some j → j.isSync = true → JobRow db j
  holders : ∀ l ∈ db.lanes.rows, ∀ jobId, l.halfOpenJobId = some jobId → Holder db free jobId l
  watched : ∀ w ∈ watch, Watched db w

/-- No lane is held by the job. -/
def Unheld (db : Db) (jobId : String) : Prop :=
  ∀ l ∈ db.lanes.rows, l.halfOpenJobId ≠ some jobId

/-! ## Changes of job rows -/

/-- The columns of a cycle's job that no operation rewrites. -/
structure SameScope (j j' : Job) : Prop where
  jobType : j'.jobType = j.jobType
  subscriptionId : j'.subscriptionId = j.subscriptionId
  accountId : j'.accountId = j.accountId
  platform : j'.platform = j.platform
  payload : j'.payload = j.payload
  naturalKey : j'.naturalKey = j.naturalKey
  maxAttempts : j'.maxAttempts = j.maxAttempts

theorem SameScope.refl (j : Job) : SameScope j j := ⟨rfl, rfl, rfl, rfl, rfl, rfl, rfl⟩

theorem SameScope.isSync {j j' : Job} (h : SameScope j j') : j'.isSync = j.isSync := by
  simp only [Job.isSync, h.jobType]

theorem SameScope.jobRow {s t : Db} {j j' : Job} (h : SameScope j j') (hj : JobRow s j)
    (ha : AccountsKept s t) (hr : RunAttached t j') : JobRow t j' where
  payload := by
    obtain ⟨p, hp⟩ := hj.payload
    exact ⟨p, by
      rw [parsePayload_congr h.payload h.subscriptionId h.naturalKey h.maxAttempts]; exact hp⟩
  scope := by
    obtain ⟨accountId, platform, account, hacc, hplat, hget, hp⟩ := hj.scope
    obtain ⟨account', hget', hp'⟩ := ha accountId account hget
    exact ⟨accountId, platform, account', h.accountId.trans hacc, h.platform.trans hplat,
      hget', hp'.trans hp⟩
  run := hr

theorem LanesReady.congr {s t : Db} {j j' : Job} (h : LanesReady s j) (hl : t.lanes = s.lanes)
    (hp : j'.platform = j.platform) (ha : j'.accountId = j.accountId) : LanesReady t j' := by
  intro platform accountId hplat hacc
  simpa only [HasLane, hl] using h platform accountId (hp ▸ hplat) (ha ▸ hacc)

theorem RunAttached.kept {s t : Db} {j j' : Job} (h : RunAttached s j) (hr : RunsKept s t)
    (hrun : j'.runId = j.runId) (hs : j'.subscriptionId = j.subscriptionId) :
    RunAttached t j' := by
  intro runId hid
  obtain ⟨r, hget, hsub⟩ := h runId (hrun ▸ hid)
  obtain ⟨r', hget', hsub'⟩ := hr runId r hget
  exact ⟨r', hget', by rw [hsub', hsub, hs]⟩

/-- What may happen to a sync job's row while lanes and accounts stay. -/
structure Moved (t : Db) (free : Option String) (lanes : List SchedulerLane) (j j' : Job) :
    Prop where
  scope : SameScope j j'
  run : j'.runId = j.runId ∨ RunAttached t j'
  stays : j.status.isTerminal = true → j'.status.isTerminal = true
  ends : j'.status.isTerminal = true → j.status.isTerminal = true ∨ free = some j.id ∨
    ∀ l ∈ lanes, l.halfOpenJobId ≠ some j.id

theorem Moved.refl (t : Db) (free : Option String) (lanes : List SchedulerLane) (j : Job) :
    Moved t free lanes j j :=
  ⟨SameScope.refl j, .inl rfl, id, .inl⟩

theorem ProbeState.change {watch : Option Watch} {free free' : Option String} {s t : Db}
    (h : ProbeState watch free s) (hl : t.lanes = s.lanes) (ha : AccountsKept s t)
    (hr : RunsKept s t) (hfree : ∀ id, free = some id → free' = some id)
    (kept : ∀ id j, s.jobs.get? id = some j → j.isSync = true →
      ∃ j', t.jobs.get? id = some j' ∧ Moved t free' s.lanes.rows j j')
    (fresh : ∀ id j', t.jobs.get? id = some j' → j'.isSync = true →
      (∃ j, s.jobs.get? id = some j ∧ j.isSync = true) ∨ JobRow t j') :
    ProbeState watch free' t where
  lanes l hmem := by
    exact (h.lanes l (hl ▸ hmem)).kept ha
  slots := by
    rw [hl]
    exact h.slots
  jobs id j' hj' hsync := by
    rcases fresh id j' hj' hsync with ⟨j, hj, hjsync⟩ | hrow
    · obtain ⟨k, hk, hmoved⟩ := kept id j hj hjsync
      rw [hj'] at hk
      cases hk
      have hrow := h.jobs id j hj hjsync
      rcases hmoved.run with hrun | hrun
      · exact hmoved.scope.jobRow hrow ha
          (hrow.run.kept hr hrun hmoved.scope.subscriptionId)
      · exact hmoved.scope.jobRow hrow ha hrun
    · exact hrow
  holders l hmem jobId hhold := by
    rw [hl] at hmem
    obtain ⟨j, hj, hsync, hlive, hcounts, hready⟩ := h.holders l hmem jobId hhold
    obtain ⟨j', hj', hmoved⟩ := kept jobId j hj hsync
    have hid := Job.get?_id hj
    refine ⟨j', hj', hmoved.scope.isSync.trans hsync, fun hne => ?_, ?_, ?_⟩
    · cases hend : j'.status.isTerminal with
      | false => rfl
      | true =>
        have hne' : free ≠ some jobId := fun hf => hne (hfree jobId hf)
        rcases hmoved.ends hend with hj0 | hf | hnot
        · rw [hlive hne'] at hj0
          cases hj0
        · exact (hne (hid ▸ hf)).elim
        · exact (hnot l hmem (hid ▸ hhold)).elim
    · rw [SchedulerLane.counts_congr hmoved.scope.platform hmoved.scope.accountId]
      exact hcounts
    · exact hready.congr hl hmoved.scope.platform hmoved.scope.accountId
  watched w hw := by
    rcases h.watched w hw with ⟨j, hj, hsync, hend⟩ | ⟨l, hget, hsame, hguard⟩
    · obtain ⟨j', hj', hmoved⟩ := kept w.jobId j hj hsync
      exact .inl ⟨j', hj', hmoved.scope.isSync.trans hsync, hmoved.stays hend⟩
    · exact .inr ⟨l, hl ▸ hget, hsame, hguard⟩

/-- An update of one live job. -/
theorem ProbeState.setJob {watch : Option Watch} {free : Option String} {s : Db} {id : String}
    {j : Job} {values : Job → Job} (h : ProbeState watch none s)
    (hj : s.jobs.get? id = some j) (hsync : j.isSync = true)
    (hlive : j.status.isTerminal = false) (hscope : SameScope j (values j))
    (hrun : (values j).runId = j.runId ∨ RunAttached s { values j with id := j.id })
    (hends : (values j).status.isTerminal = true → free = some id ∨ Unheld s id) :
    ProbeState watch free (s.setJob id values) := by
  refine h.change rfl (AccountsKept.of_eq rfl) (RunsKept.refl s) (fun _ hf => by cases hf) ?_ ?_
  · intro k i hi hisync
    rw [Db.get?_setJob]
    by_cases hk : k = id
    · subst hk
      rw [hj] at hi
      cases hi
      refine ⟨{ values j with id := j.id }, by rw [if_pos rfl, hj]; rfl, ?_⟩
      obtain ⟨h₁, h₂, h₃, h₄, h₅, h₆, h₇⟩ := hscope
      refine ⟨⟨h₁, h₂, h₃, h₄, h₅, h₆, h₇⟩, hrun, fun hend => ?_, fun hend => .inr ?_⟩
      · rw [hlive] at hend
        cases hend
      · rw [Job.get?_id hj]
        exact hends hend
    · rw [if_neg hk]
      exact ⟨i, hi, Moved.refl _ _ _ i⟩
  · intro k j' hj' hjsync
    rw [Db.get?_setJob] at hj'
    split at hj'
    · rename_i hk
      rw [hk, hj] at hj'
      exact .inl ⟨j, hk ▸ hj, hsync⟩
    · exact .inl ⟨j', hj', hjsync⟩

/-- A bulk update that keeps live jobs live. -/
theorem ProbeState.update {watch : Option Watch} {free : Option String} {s : Db} {p : Job → Bool}
    {f : Job → Job} {keeps : ∀ j, (f j).id = j.id} (h : ProbeState watch free s)
    (hf : ∀ j, p j = true → SameScope j (f j) ∧ (f j).runId = j.runId ∧
      j.status.isTerminal = false ∧ (f j).status.isTerminal = false) :
    ProbeState watch free { s with jobs := s.jobs.update p f keeps } := by
  have hget : ∀ id, (s.jobs.update p f keeps).get? id =
      (s.jobs.get? id).map (fun j => if p j then f j else j) := fun id => Table.get?_update _ _ _ _ id
  refine h.change rfl (AccountsKept.of_eq rfl) (RunsKept.refl s) (fun _ hf => hf) ?_ ?_
  · intro id j hj hsync
    refine ⟨if p j then f j else j, by rw [hget, hj]; rfl, ?_⟩
    split
    · rename_i hp
      obtain ⟨hscope, hrun, hlive, hlive'⟩ := hf j hp
      refine ⟨hscope, .inl hrun, fun hend => ?_, fun hend => ?_⟩
      · rw [hlive] at hend
        cases hend
      · rw [hlive'] at hend
        cases hend
    · exact Moved.refl _ _ _ j
  · intro id j' hj' hsync
    rw [hget] at hj'
    cases hj : s.jobs.get? id with
    | none =>
      rw [hj] at hj'
      cases hj'
    | some j =>
      rw [hj] at hj'
      cases hj'
      refine .inl ⟨j, rfl, ?_⟩
      dsimp only at hsync
      split at hsync
      · rename_i hp
        rw [← (hf j hp).1.isSync]
        exact hsync
      · exact hsync

/-- Work that leaves lanes, accounts and sync jobs alone. -/
structure Aside (s t : Db) : Prop where
  lanes : t.lanes = s.lanes
  accounts : t.accounts = s.accounts
  runs : RunsKept s t
  kept : ∀ id j, s.jobs.get? id = some j → j.isSync = true → t.jobs.get? id = some j
  fresh : ∀ id j, t.jobs.get? id = some j → j.isSync = true → s.jobs.get? id = some j

theorem Aside.chains : Tx.Chains Aside where
  refl s := ⟨rfl, rfl, RunsKept.refl s, fun _ _ h _ => h, fun _ _ h _ => h⟩
  trans _ _ _ h k := ⟨k.lanes.trans h.lanes, k.accounts.trans h.accounts, h.runs.trans k.runs,
    fun id j hj hsync => k.kept id j (h.kept id j hj hsync) hsync,
    fun id j hj hsync => h.fresh id j (k.fresh id j hj hsync) hsync⟩

theorem Aside.of_outside {s t : Db} (h : Outside s t) : Aside s t :=
  ⟨h.lanes, h.accounts, h.runs, fun _ _ hj _ => h.jobs ▸ hj, fun _ _ hj _ => h.jobs ▸ hj⟩

theorem ProbeState.aside {watch : Option Watch} {free : Option String} {s t : Db}
    (h : ProbeState watch free s) (k : Aside s t) : ProbeState watch free t := by
  refine h.change k.lanes (AccountsKept.of_eq k.accounts) k.runs (fun _ hf => hf) ?_ ?_
  · intro id j hj hsync
    exact ⟨j, k.kept id j hj hsync, Moved.refl _ _ _ j⟩
  · intro id j hj hsync
    exact .inl ⟨j, k.fresh id j hj hsync, hsync⟩

theorem HasLane.kept {s t : Db} {policy : LanePolicy} (h : HasLane s policy)
    (hl : ∀ l ∈ s.lanes.rows, ∃ m ∈ t.lanes.rows, l.SameSlotColumns m) : HasLane t policy := by
  obtain ⟨l, hmem, hscope⟩ := h
  obtain ⟨m, hm, hsame⟩ := hl l hmem
  exact ⟨m, hm, by rw [hsame.inScope]; exact hscope⟩

theorem LanesReady.kept {s t : Db} {j : Job} (h : LanesReady s j)
    (hl : ∀ l ∈ s.lanes.rows, ∃ m ∈ t.lanes.rows, l.SameSlotColumns m) : LanesReady t j := by
  intro platform accountId hp ha
  obtain ⟨hplat, policy, hpolicy, hacc⟩ := h platform accountId hp ha
  exact ⟨hplat.kept hl, policy, hpolicy, hacc.kept hl⟩

theorem Db.mem_setLane {db : Db} {id : String} {values : SchedulerLane → SchedulerLane}
    {m : SchedulerLane} : m ∈ (db.setLane id values).lanes.rows ↔
      ∃ l ∈ db.lanes.rows, (if l.id = id then { values l with id := l.id } else l) = m := by
  simp only [Db.setLane, Table.mem_update, decide_eq_true_eq]

/-- An update of one lane that keeps its slot. -/
theorem ProbeState.setLane {watch : Option Watch} {free : Option String} {s : Db} {id : String}
    {l : SchedulerLane} {values : SchedulerLane → SchedulerLane} (h : ProbeState watch free s)
    (hl : s.lanes.get? id = some l) (hsame : ∀ l : SchedulerLane, l.SameSlotColumns { values l with id := l.id })
    (hshape : (values l).WellShaped) (hcool : 1 ≤ (values l).cooldownSeconds)
    (hholder : ∀ jobId, (values l).halfOpenJobId = some jobId → Holder s free jobId l)
    (hwatch : ∀ w ∈ watch, w.lane.id = id → l.Guarded w →
      (values l).Guarded w ∨ JobEnded s w.jobId) :
    ProbeState watch free (s.setLane id values) := by
  have hmemkept : ∀ l ∈ s.lanes.rows,
      ∃ m ∈ (s.setLane id values).lanes.rows, l.SameSlotColumns m := by
    intro m hm
    refine ⟨_, Db.mem_setLane.mpr ⟨m, hm, rfl⟩, ?_⟩
    split
    · exact hsame m
    · exact ⟨rfl, rfl, rfl, rfl⟩
  have hone : ∀ m ∈ s.lanes.rows, m.id = id → m = l := by
    intro m hm hid
    exact Table.row_ext hm (Table.get?_mem hl) (hid.trans (Table.get?_key hl).symm)
  refine ⟨?_, ?_, fun k j hj hsync => (h.jobs k j hj hsync).congr rfl rfl, ?_, ?_⟩
  · intro m' hm'
    obtain ⟨m, hm, rfl⟩ := Db.mem_setLane.mp hm'
    split
    · rename_i hid
      have hml := hone m hm hid
      subst hml
      obtain ⟨_, hplat, hacc, _⟩ := h.lanes m hm
      have hs := hsame m
      refine ⟨hshape, ?_, ?_, hcool⟩
      · intro ht
        rw [hs.accountId]
        exact hplat (hs.scopeType ▸ ht)
      · intro ht
        rw [hs.accountId, hs.platform]
        exact hacc (hs.scopeType ▸ ht)
    · exact (h.lanes m hm).congr rfl
  · intro a ha b hb hslot
    obtain ⟨m, hm, rfl⟩ := Db.mem_setLane.mp ha
    obtain ⟨n, hn, rfl⟩ := Db.mem_setLane.mp hb
    have hm' : m.SameSlotColumns (if m.id = id then { values m with id := m.id } else m) := by
      split
      · exact hsame m
      · exact ⟨rfl, rfl, rfl, rfl⟩
    have hn' : n.SameSlotColumns (if n.id = id then { values n with id := n.id } else n) := by
      split
      · exact hsame n
      · exact ⟨rfl, rfl, rfl, rfl⟩
    rw [SchedulerLane.SameSlotColumns.sameSlot hm' hn'] at hslot
    rw [h.slots m hm n hn hslot]
  · intro m' hm' jobId hhold
    obtain ⟨m, hm, rfl⟩ := Db.mem_setLane.mp hm'
    have hold : Holder s free jobId m := by
      split at hhold
      · rename_i hid
        have hml := hone m hm hid
        subst hml
        exact hholder jobId hhold
      · exact h.holders m hm jobId hhold
    obtain ⟨j, hj, hsync, hlive, hcounts, hready⟩ := hold
    refine ⟨j, hj, hsync, hlive, ?_, hready.kept hmemkept⟩
    split
    · rw [(hsame m).counts]
      exact hcounts
    · exact hcounts
  · intro w hw
    rcases h.watched w hw with hend | ⟨m, hm, hslot, hguard⟩
    · exact .inl hend
    · by_cases hid : w.lane.id = id
      · rw [hid, hl] at hm
        cases hm
        rcases hwatch w hw hid hguard with hg | hend
        · refine .inr ⟨{ values l with id := l.id }, ?_, hslot.trans (hsame l), hg⟩
          rw [Db.get?_setLane, if_pos hid, hid, hl]
          rfl
        · exact .inl hend
      · refine .inr ⟨m, ?_, hslot, hguard⟩
        rw [Db.get?_setLane, if_neg hid]
        exact hm

end MediaSync.Scheduler
