import MediaSync.Scheduler.ProbeLanes
import MediaSync.Scheduler.RunAuthority

/-!
# Exact claims

An exact claim runs the recovery and eligibility code of the global one, each
query narrowed to its job. `OnlyItsJob` is what it may do to the tables whatever
else waits in them: it writes the job's row, its subscription and its two lanes,
and it emits the job's coordinator, or requeues one that was rejected before.
-/

namespace MediaSync.Scheduler

open Python Transaction SchedulerError SchedulerRepository

/-- The coordinator of a sync job, by its natural key. -/
def isCoordinatorOf (id : String) (x : Job) : Bool :=
  x.jobType = pipelineSubscriptionJobType && x.naturalKey = pipelineNaturalKey id

def coordinatorIds (db : Db) (id : String) : List String :=
  (db.jobs.rows.filter (isCoordinatorOf id)).map Job.id

/-- The platform lane or the account lane of a job. -/
def isLaneOf (j : Job) (l : SchedulerLane) : Bool :=
  match j.platform, j.accountId with
  | some platform, some accountId =>
    l.inScope .platform platform none || l.inScope .account platform (some accountId)
  | _, _ => false

/-- The columns by which a job, its lanes and its subscription are found. -/
structure SameTarget (j k : Job) : Prop where
  id : k.id = j.id
  jobType : k.jobType = j.jobType
  naturalKey : k.naturalKey = j.naturalKey
  subscriptionId : k.subscriptionId = j.subscriptionId
  accountId : k.accountId = j.accountId
  platform : k.platform = j.platform

theorem SameTarget.trans {j k l : Job} (h : SameTarget j k) (h' : SameTarget k l) :
    SameTarget j l :=
  ⟨h'.id.trans h.id, h'.jobType.trans h.jobType, h'.naturalKey.trans h.naturalKey,
    h'.subscriptionId.trans h.subscriptionId, h'.accountId.trans h.accountId,
    h'.platform.trans h.platform⟩

theorem SameTarget.isCoordinatorOf {j k : Job} (h : SameTarget j k) (id : String) :
    isCoordinatorOf id k = isCoordinatorOf id j := by
  rw [MediaSync.Scheduler.isCoordinatorOf, MediaSync.Scheduler.isCoordinatorOf, h.jobType,
    h.naturalKey]

/-- From `s` to `t` nothing of another job has changed: its row, its subscription and its lanes
are as they were, save the coordinator of `j` itself. -/
structure OnlyItsJob (j : Job) (s t : Db) : Prop where
  /-- the job keeps its scope -/
  target : ∃ k, t.jobs.get? j.id = some k ∧ SameTarget j k
  others : ∀ x, s.jobs.get? x.id = some x → x.id ≠ j.id → t.jobs.get? x.id = some x ∨
    (isCoordinatorOf j.id x = true ∧ isRejectedCoordinator x = true ∧
      ∃ y, t.jobs.get? x.id = some y ∧ isCoordinatorOf j.id y = true)
  inserted : ∀ x, t.jobs.get? x.id = some x → s.jobs.get? x.id = none →
    isCoordinatorOf j.id x = true
  /-- at most one coordinator is new, and none where there was one -/
  coordinators : coordinatorIds t j.id = coordinatorIds s j.id ∨
    (coordinatorIds s j.id = [] ∧ ∃ id, coordinatorIds t j.id = [id])
  subscriptions : ∀ id, some id ≠ j.subscriptionId →
    t.subscriptions.get? id = s.subscriptions.get? id
  lanes : ∀ l, s.lanes.get? l.id = some l → isLaneOf j l = false → t.lanes.get? l.id = some l
  newLanes : ∀ l, t.lanes.get? l.id = some l →
    (∃ l₀, s.lanes.get? l.id = some l₀ ∧ l₀.SameSlotColumns l) ∨ isLaneOf j l = true

section Steps

variable {j : Job} {s t : Db}

theorem OnlyItsJob.refl (h : s.jobs.get? j.id = some j) : OnlyItsJob j s s where
  target := ⟨j, h, rfl, rfl, rfl, rfl, rfl, rfl⟩
  others _ hx _ := .inl hx
  inserted x hx hnone := by
    rw [hx] at hnone
    cases hnone
  coordinators := .inl rfl
  subscriptions _ _ := rfl
  lanes _ hl _ := hl
  newLanes l hl := .inl ⟨l, hl, rfl, rfl, rfl, rfl⟩

theorem OnlyItsJob.of_eq {u : Db} (h : OnlyItsJob j s t) (hjobs : u.jobs = t.jobs)
    (hsubscriptions : u.subscriptions = t.subscriptions) (hlanes : u.lanes = t.lanes) :
    OnlyItsJob j s u where
  target := by rw [hjobs]; exact h.target
  others := by rw [hjobs]; exact h.others
  inserted := by rw [hjobs]; exact h.inserted
  coordinators := by
    unfold coordinatorIds
    rw [hjobs]
    exact h.coordinators
  subscriptions := by rw [hsubscriptions]; exact h.subscriptions
  lanes := by rw [hlanes]; exact h.lanes
  newLanes := by rw [hlanes]; exact h.newLanes

theorem isLaneOf_congr {l m : SchedulerLane} (h : l.SameSlotColumns m) :
    isLaneOf j m = isLaneOf j l := by
  unfold isLaneOf
  split
  · rw [h.inScope, h.inScope]
  · rfl

/-- Rewriting rows in place leaves every coordinator where it is. -/
theorem coordinatorIds_update {p : Job → Bool} {f : Job → Job} {keeps : ∀ k, (f k).id = k.id}
    (hf : ∀ k ∈ t.jobs.rows, p k = true → isCoordinatorOf j.id (f k) = isCoordinatorOf j.id k) :
    coordinatorIds { t with jobs := t.jobs.update p f keeps } j.id = coordinatorIds t j.id := by
  unfold coordinatorIds
  change ((t.jobs.rows.map (fun k => if p k then f k else k)).filter _).map _ = _
  generalize t.jobs.rows = rows at hf
  induction rows with
  | nil => rfl
  | cons k rest ih =>
    have hrest := ih (fun k' hk' => hf k' (List.mem_cons_of_mem k hk'))
    have hhead : isCoordinatorOf j.id (if p k then f k else k) = isCoordinatorOf j.id k ∧
        (if p k then f k else k).id = k.id := by
      by_cases hp : p k = true
      · rw [if_pos hp]
        exact ⟨hf k List.mem_cons_self hp, keeps k⟩
      · rw [if_neg hp]
        exact ⟨rfl, rfl⟩
    rw [List.map_cons, List.filter_cons, List.filter_cons, hhead.1]
    by_cases hk : isCoordinatorOf j.id k = true
    · rw [if_pos hk, if_pos hk, List.map_cons, List.map_cons, hrest, hhead.2]
    · rw [if_neg hk, if_neg hk, hrest]

/-- An update that reaches the job's own row or its rejected coordinator. -/
theorem OnlyItsJob.update {p : Job → Bool} {f : Job → Job} {keeps : ∀ k, (f k).id = k.id}
    (h : OnlyItsJob j s t)
    (hkind : ∀ k, t.jobs.get? k.id = some k → p k = true →
      (k.id = j.id ∧ SameTarget k (f k)) ∨
      (k.id ≠ j.id ∧ isCoordinatorOf j.id k = true ∧ isRejectedCoordinator k = true ∧
        isCoordinatorOf j.id (f k) = true)) :
    OnlyItsJob j s { t with jobs := t.jobs.update p f keeps } := by
  have hget : ∀ k, ({ t with jobs := t.jobs.update p f keeps } : Db).jobs.get? k =
      (t.jobs.get? k).map (fun r => if p r then f r else r) :=
    fun k => Table.get?_update t.jobs p f keeps k
  have hkey : ∀ {x y}, (if p x then f x else x) = y → y.id = x.id := by
    rintro x y rfl
    split
    · exact keeps x
    · rfl
  refine ⟨?_, fun x hx hne => ?_, fun x hx hnone => ?_, ?_, h.subscriptions, h.lanes, h.newLanes⟩
  · obtain ⟨k, hk, hsame⟩ := h.target
    have hown := Table.get?_key hk
    refine ⟨if p k then f k else k, by rw [hget, hk]; rfl, ?_⟩
    by_cases hp : p k = true
    · rw [if_pos hp]
      rcases hkind k (by rw [hown]; exact hk) hp with ⟨_, hf⟩ | ⟨hne, _⟩
      · exact hsame.trans hf
      · exact absurd hown hne
    · rw [if_neg hp]
      exact hsame
  · rcases h.others x hx hne with hkept | ⟨hcoord, hrejected, y, hy, hycoord⟩
    · by_cases hp : p x = true
      · rcases hkind x hkept hp with ⟨hid, _⟩ | ⟨_, hcoord, hrejected, hf⟩
        · exact absurd hid hne
        · refine .inr ⟨hcoord, hrejected, f x, ?_, hf⟩
          rw [hget, hkept, Option.map_some, if_pos hp]
      · refine .inl ?_
        rw [hget, hkept, Option.map_some, if_neg hp]
    · refine .inr ⟨hcoord, hrejected, if p y then f y else y, by rw [hget, hy]; rfl, ?_⟩
      by_cases hp : p y = true
      · rw [if_pos hp]
        have hyid := Table.get?_key hy
        rcases hkind y (by rw [hyid]; exact hy) hp with ⟨hid, _⟩ | ⟨_, _, _, hf⟩
        · exact absurd (hyid.symm.trans hid) hne
        · exact hf
      · rw [if_neg hp]
        exact hycoord
  · rw [hget] at hx
    obtain ⟨y, hy, hyx⟩ := Option.map_eq_some_iff.1 hx
    have hid := hkey hyx
    rw [hid] at hy hnone
    have hcoord := h.inserted y hy hnone
    by_cases hp : p y = true
    · rw [if_pos hp] at hyx
      rw [← hyx]
      rcases hkind y hy hp with ⟨_, hf⟩ | ⟨_, _, _, hf⟩
      · rw [hf.isCoordinatorOf]
        exact hcoord
      · exact hf
    · rw [if_neg hp] at hyx
      rw [← hyx]
      exact hcoord
  · rw [coordinatorIds_update]
    · exact h.coordinators
    · intro k hk hp
      rcases hkind k (Table.get?_of_mem hk) hp with ⟨_, hf⟩ | ⟨_, hcoord, _, hf⟩
      · exact hf.isCoordinatorOf j.id
      · rw [hcoord, hf]

theorem OnlyItsJob.setJob {values : Job → Job} (h : OnlyItsJob j s t)
    (hvalues : ∀ k, SameTarget k { values k with id := k.id }) :
    OnlyItsJob j s (t.setJob j.id values) :=
  h.update (fun k _ hp => .inl ⟨of_decide_eq_true hp, hvalues k⟩)

theorem coordinatorIds_nil {db : Db} {id : String} (h : ∀ x ∈ db.jobs.rows,
    isCoordinatorOf id x = false) : coordinatorIds db id = [] := by
  unfold coordinatorIds
  rw [List.map_eq_nil_iff, List.filter_eq_nil_iff]
  intro x hx
  rw [h x hx]
  exact Bool.false_ne_true

/-- Inserting the coordinator where there is none. -/
theorem OnlyItsJob.insert {x : Job} {jobs : Table Job.id} (h : OnlyItsJob j s t)
    (hcoord : isCoordinatorOf j.id x = true)
    (hfree : ∀ y ∈ t.jobs.rows, isCoordinatorOf j.id y = false)
    (hins : t.jobs.insert? x = some jobs) : OnlyItsJob j s { t with jobs := jobs } := by
  have hfresh := Table.insert?_fresh hins
  have hget : ∀ {k y}, t.jobs.get? k = some y → jobs.get? k = some y := by
    intro k y hy
    rw [Table.get?_insert? hins, if_neg]
    · exact hy
    · rintro rfl
      rw [hfresh] at hy
      cases hy
  refine ⟨?_, fun y hy hne => ?_, fun y hy hnone => ?_, ?_, h.subscriptions, h.lanes, h.newLanes⟩
  · obtain ⟨k, hk, hsame⟩ := h.target
    exact ⟨k, hget hk, hsame⟩
  · rcases h.others y hy hne with hkept | ⟨hyc, hrejected, z, hz, hzc⟩
    · exact .inl (hget hkept)
    · exact .inr ⟨hyc, hrejected, z, hget hz, hzc⟩
  · rw [Table.get?_insert? hins] at hy
    split at hy
    · cases hy
      exact hcoord
    · exact h.inserted y hy hnone
  · have ht := coordinatorIds_nil hfree
    have hs : coordinatorIds s j.id = [] := by
      rcases h.coordinators with heq | ⟨hnil, _⟩
      · rw [← heq]
        exact ht
      · exact hnil
    refine .inr ⟨hs, x.id, ?_⟩
    have hrows : jobs.rows = t.jobs.rows ++ [x] := by
      unfold Table.insert? at hins
      split at hins
      · cases hins
      · cases hins
        rfl
    unfold coordinatorIds at ht ⊢
    change (jobs.rows.filter _).map _ = _
    rw [hrows, List.filter_append, List.map_append, ht, List.filter_cons, if_pos hcoord]
    rfl

theorem OnlyItsJob.setSubscription {id : String} {values : Subscription → Subscription}
    (h : OnlyItsJob j s t) (hid : j.subscriptionId = some id) :
    OnlyItsJob j s (t.setSubscription id values) := by
  refine ⟨h.target, h.others, h.inserted, h.coordinators, fun k hk => ?_, h.lanes, h.newLanes⟩
  rw [Db.get?_setSubscription, if_neg]
  · exact h.subscriptions k hk
  · rintro rfl
    exact hk hid.symm

/-- The key names a lane of the job, or none yet. -/
def OwnLane (j : Job) (s : Db) (id : String) : Prop :=
  ∀ l, s.lanes.get? id = some l → isLaneOf j l = true

theorem OnlyItsJob.isLaneOf {id : String} {l : SchedulerLane} (h : OnlyItsJob j s t)
    (hown : OwnLane j s id) (hl : t.lanes.get? id = some l) :
    MediaSync.Scheduler.isLaneOf j l = true := by
  obtain rfl := Table.get?_key hl
  rcases h.newLanes l hl with ⟨l₀, hl₀, hsame⟩ | hlane
  · rw [isLaneOf_congr hsame]
    exact hown l₀ hl₀
  · exact hlane

theorem OnlyItsJob.ownLane {id : String} {l : SchedulerLane} (h : OnlyItsJob j s t)
    (hl : t.lanes.get? id = some l) (hlane : MediaSync.Scheduler.isLaneOf j l = true) :
    OwnLane j s id := by
  intro l₀ hl₀
  cases hown : MediaSync.Scheduler.isLaneOf j l₀ with
  | true => rfl
  | false =>
    obtain rfl := Table.get?_key hl₀
    rw [h.lanes l₀ hl₀ hown] at hl
    cases hl
    rw [hown] at hlane
    cases hlane

theorem OnlyItsJob.setLane {id : String} {values : SchedulerLane → SchedulerLane}
    (h : OnlyItsJob j s t) (hown : OwnLane j s id) (hvalues : ∀ l,
      SchedulerLane.SameSlotColumns l { values l with id := l.id }) :
    OnlyItsJob j s (t.setLane id values) := by
  refine ⟨h.target, h.others, h.inserted, h.coordinators, h.subscriptions,
    fun l hl hlane => ?_, fun l hl => ?_⟩
  · have hkept := h.lanes l hl hlane
    rw [Db.get?_setLane, if_neg]
    · exact hkept
    · rintro rfl
      rw [h.isLaneOf hown hkept] at hlane
      cases hlane
  · rw [Db.get?_setLane] at hl
    split at hl
    · rename_i hid
      obtain ⟨m, hm, rfl⟩ := Option.map_eq_some_iff.1 hl
      refine .inr ?_
      rw [isLaneOf_congr (hvalues m)]
      exact h.isLaneOf hown (hid ▸ hm)
    · exact h.newLanes l hl

theorem OnlyItsJob.insertLane {lane : SchedulerLane} {lanes : Table SchedulerLane.id}
    (h : OnlyItsJob j s t) (hlane : MediaSync.Scheduler.isLaneOf j lane = true)
    (hins : t.lanes.insert? lane = some lanes) : OnlyItsJob j s { t with lanes := lanes } := by
  refine ⟨h.target, h.others, h.inserted, h.coordinators, h.subscriptions,
    fun l hl hother => ?_, fun l hl => ?_⟩
  · have hkept := h.lanes l hl hother
    change lanes.get? l.id = some l
    rw [Table.get?_insert? hins, if_neg]
    · exact hkept
    · intro heq
      rw [← heq, Table.insert?_fresh hins] at hkept
      cases hkept
  · change lanes.get? l.id = some l at hl
    rw [Table.get?_insert? hins] at hl
    split at hl
    · cases hl
      exact .inr hlane
    · exact h.newLanes l hl

end Steps

/-! ## Parts of a claim -/

/-- The program spares everything that is not the job's, and returns a value with `φ`. -/
abbrev Spares (j : Job) (s : Db) {α : Type} (m : Session α) (φ : α → Prop) : Prop :=
  Tx.Maintains (OnlyItsJob j s) m φ

section Lanes

variable {j job : Job} {s : Db} {now : Time} {uuid : Nat → String}

theorem spares_read {α : Type} (f : Db → α) : Spares j s (Tx.read f) (fun _ => True) :=
  Tx.Maintains.read (fun _ _ => trivial)

theorem spares_newUuid : Spares j s (newUuid uuid) (fun _ => True) :=
  Tx.Maintains.modifyGet (fun _ h => ⟨h.of_eq rfl rfl rfl, trivial⟩)

theorem spares_updateLaneRow {id : String} {conditions : SchedulerLane → Bool}
    {values : SchedulerLane → SchedulerLane} (hown : OwnLane j s id)
    (hvalues : ∀ l, SchedulerLane.SameSlotColumns l { values l with id := l.id }) :
    Spares j s (updateLaneRow id conditions values) (fun _ => True) := by
  refine Tx.Maintains.modifyGet (fun t h => ⟨?_, trivial⟩)
  cases t.lanes.get? id with
  | none => exact h
  | some l =>
    dsimp only
    split
    · exact h.setLane hown hvalues
    · exact h

theorem spares_ensureLane {policy : LanePolicy}
    (hscope : ∀ l : SchedulerLane,
      l.inScope policy.scopeType policy.platform policy.accountId = true → isLaneOf j l = true)
    (hnew : ∀ id, isLaneOf j (newLane policy id now) = true) :
    Spares j s (ensureLane uuid policy now) (OwnLane j s) := by
  refine Tx.Maintains.bind (Tx.Maintains.readOnly (within_checkLaneAccount Tx.ReadOnly.chains _))
    (fun _ _ => ?_)
  refine Tx.Maintains.bind spares_newUuid (fun id _ => ?_)
  refine Tx.Maintains.bind (Tx.Maintains.modify (fun t h => ?_)) (fun _ _ => ?_)
  · split
    · exact h
    · split
      · rename_i lanes hins
        exact h.insertLane (hnew id) hins
      · exact h
  · refine Tx.Maintains.bind (φ := fun lane => ∀ l ∈ lane, OwnLane j s l.id)
      (Tx.Maintains.read (fun t h l hl => ?_)) (fun lane hlane => ?_)
    · obtain ⟨hmem, hin⟩ := findLane_some hl
      exact h.ownLane (Table.get?_of_mem hmem) (hscope l hin)
    · cases lane with
      | none => exact Tx.Maintains.throw _
      | some l => exact Tx.Maintains.pure (hlane l rfl)

theorem spares_jobLanes (hjob : SameTarget j job) :
    Spares j s (jobLanes uuid job now) (fun ids => ∀ id ∈ ids, OwnLane j s id) := by
  unfold jobLanes
  rw [hjob.platform, hjob.accountId]
  cases hplatform : j.platform with
  | none => exact Tx.Maintains.throw _
  | some platform =>
    cases haccount : j.accountId with
    | none => exact Tx.Maintains.throw _
    | some accountId =>
      have hlane : ∀ l, isLaneOf j l = (l.inScope .platform platform none ||
          l.inScope .account platform (some accountId)) := by
        intro l
        rw [isLaneOf, hplatform, haccount]
      refine Tx.Maintains.bind (spares_ensureLane ?_ ?_) (fun platformLane hp => ?_)
      · intro l hl
        rw [hlane, Bool.or_eq_true]
        exact .inl hl
      · intro id
        rw [hlane, Bool.or_eq_true]
        exact .inl (by simp [SchedulerLane.inScope, newLane, LanePolicy.ofPlatform])
      · refine Tx.Maintains.bind (Tx.Maintains.ofExcept _) (fun policy hpolicy => ?_)
        obtain ⟨hscope, hpp, hpa⟩ := LanePolicy.ofAccount_ok hpolicy
        refine Tx.Maintains.bind (spares_ensureLane ?_ ?_) (fun accountLane ha => ?_)
        · intro l hl
          rw [hscope, hpp, hpa] at hl
          rw [hlane, Bool.or_eq_true]
          exact .inr hl
        · intro id
          rw [hlane, Bool.or_eq_true]
          exact .inr (by simp [SchedulerLane.inScope, newLane, hscope, hpp, hpa])
        · refine Tx.Maintains.pure (fun id hid => ?_)
          rcases List.mem_cons.1 hid with rfl | hid
          · exact hp
          · rw [List.mem_singleton.1 hid]
            exact ha

theorem spares_settledLanes (hjob : SameTarget j job) {lockedLanes : Option (List String)}
    (hlocked : ∀ ids ∈ lockedLanes, ∀ id ∈ ids, OwnLane j s id) :
    Spares j s (settledLanes uuid job now lockedLanes)
      (fun ids => ∀ id ∈ ids, OwnLane j s id) := by
  cases lockedLanes with
  | none => exact spares_jobLanes hjob
  | some ids => exact Tx.Maintains.pure (hlocked ids rfl)

theorem spares_heldLane {id : String} : Spares j s (heldLane id) (fun lane => lane.id = id) := by
  refine Tx.Maintains.bind (φ := fun lane => ∀ l ∈ lane, l.id = id)
    (Tx.Maintains.read (fun t _ l hl => Table.get?_key (t := t.lanes) hl)) (fun lane hlane => ?_)
  cases lane with
  | none => exact Tx.Maintains.throw _
  | some l => exact Tx.Maintains.pure (hlane l rfl)

theorem spares_updateLaneValues {lane : SchedulerLane} {values : CircuitValues}
    (hown : OwnLane j s lane.id) :
    Spares j s (updateLaneValues lane values now) (fun _ => True) :=
  Tx.Maintains.bind (spares_updateLaneRow hown (fun _ => ⟨rfl, rfl, rfl, rfl⟩))
    (fun _ _ => (Tx.Maintains.require _ _).mono (fun _ _ => trivial))

theorem spares_laneSuccess {id : String} (hown : OwnLane j s id) :
    Spares j s (laneSuccess job now id) (fun _ => True) := by
  refine Tx.Maintains.bind spares_heldLane (fun lane hid => ?_)
  rw [← hid] at hown
  split
  · exact spares_updateLaneValues hown
  · split
    · exact spares_updateLaneValues hown
    · exact Tx.Maintains.pure trivial

theorem spares_laneFailure {affectsCircuit : Bool} {id : String} (hown : OwnLane j s id) :
    Spares j s (laneFailure job now affectsCircuit id) (fun _ => True) := by
  refine Tx.Maintains.bind spares_heldLane (fun lane hid => ?_)
  rw [← hid] at hown
  split
  · split
    · exact spares_updateLaneValues hown
    · exact Tx.Maintains.pure trivial
  · split
    · exact Tx.Maintains.pure trivial
    · exact Tx.Maintains.bind (Tx.Maintains.ofExcept _) (fun _ _ => spares_updateLaneValues hown)

theorem spares_reserveLane {id jobId : String} (hown : OwnLane j s id) :
    Spares j s (reserveLane id jobId now) (fun _ => True) := by
  refine Tx.Maintains.bind spares_heldLane (fun lane hid => ?_)
  rw [← hid] at hown
  refine Tx.Maintains.bind (Tx.Maintains.ofExcept _) (fun _ _ => ?_)
  refine Tx.Maintains.bind (spares_updateLaneRow hown (fun _ => ⟨rfl, rfl, rfl, rfl⟩))
    (fun _ _ => ?_)
  exact (Tx.Maintains.require _ _).mono (fun _ _ => trivial)

theorem spares_applyLaneSuccess (hjob : SameTarget j job) {lockedLanes : Option (List String)}
    (hlocked : ∀ ids ∈ lockedLanes, ∀ id ∈ ids, OwnLane j s id) :
    Spares j s (applyLaneSuccess uuid job now lockedLanes) (fun _ => True) :=
  Tx.Maintains.bind (spares_settledLanes hjob hlocked)
    (fun ids hids => Tx.Maintains.forEach ids (fun id hid => spares_laneSuccess (hids id hid)))

theorem spares_applyLaneFailure (hjob : SameTarget j job) {affectsCircuit : Bool}
    {lockedLanes : Option (List String)}
    (hlocked : ∀ ids ∈ lockedLanes, ∀ id ∈ ids, OwnLane j s id) :
    Spares j s (applyLaneFailure uuid job now affectsCircuit lockedLanes) (fun _ => True) :=
  Tx.Maintains.bind (spares_settledLanes hjob hlocked)
    (fun ids hids => Tx.Maintains.forEach ids (fun id hid => spares_laneFailure (hids id hid)))

end Lanes

section Rows

variable {j job : Job} {s : Db} {now : Time} (repo : SchedulerRepository)

theorem spares_updateJob {conditions : Db → Job → Bool} {values : Job → Job}
    (hjob : SameTarget j job) (hvalues : ∀ k, SameTarget k { values k with id := k.id }) :
    Spares j s (updateJob job.id conditions values) (fun r => ∀ k ∈ r, SameTarget j k) := by
  rw [hjob.id]
  refine Tx.Maintains.modifyGet (fun t h => ?_)
  obtain ⟨k, hk, hsame⟩ := h.target
  rw [hk]
  dsimp only
  split
  · refine ⟨h.setJob hvalues, fun k' hk' => ?_⟩
    dsimp only at hk'
    rw [Db.get?_setJob, if_pos rfl, hk] at hk'
    cases hk'
    exact hsame.trans (hvalues k)
  · exact ⟨h, fun _ hk' => by cases hk'⟩

theorem spares_setRunStatus {runId : String} {status expected : RunStatus}
    {errorCode : Option String} :
    Spares j s (setRunStatus runId status expected errorCode now) (fun _ => True) := by
  refine Tx.Maintains.bind (Tx.Maintains.require _ _) (fun _ _ => ?_)
  refine Tx.Maintains.bind (spares_read _) (fun _ _ => ?_)
  refine Tx.Maintains.bind (Tx.Maintains.require _ _) (fun _ _ => ?_)
  exact Tx.Maintains.modify (fun _ h => h.of_eq rfl rfl rfl)

theorem spares_cancelAttachedRun {errorCode : String} :
    Spares j s (cancelAttachedRun job now errorCode) (fun _ => True) := by
  unfold cancelAttachedRun
  split
  · exact Tx.Maintains.pure trivial
  · refine Tx.Maintains.bind (spares_read _) (fun run _ => ?_)
    cases run with
    | none => exact Tx.Maintains.throw _
    | some run =>
      refine Tx.Maintains.bind (Tx.Maintains.require _ _) (fun _ _ => ?_)
      split
      · exact Tx.Maintains.pure trivial
      · exact spares_setRunStatus

theorem spares_updateSubscription {id : String} {conditions : Db → Subscription → Bool}
    {values : Subscription → Subscription} (hid : j.subscriptionId = some id) :
    Spares j s (updateSubscription id conditions values) (fun _ => True) := by
  refine Tx.Maintains.modifyGet (fun t h => ⟨?_, trivial⟩)
  cases t.subscriptions.get? id with
  | none => exact h
  | some x =>
    dsimp only
    split
    · exact h.setSubscription hid
    · exact h

/-- The subscription that closing a cycle writes is the job's. -/
theorem spares_finalizeSubscription {outcome : Outcome} {requirePayload : Bool}
    (hjob : SameTarget j job) :
    Spares j s (finalizeSubscription repo job now outcome requirePayload) (fun _ => True) := by
  refine Tx.Maintains.bind (φ := fun payload => ∀ p ∈ payload, j.subscriptionId = some p.subscriptionId)
    ?_ (fun payload hpayload => ?_)
  · unfold cyclePayload
    split
    · rename_i payload hparse
      refine Tx.Maintains.pure (fun p hp => ?_)
      cases hp
      rw [← hjob.subscriptionId]
      exact parsePayload_subscription hparse
    · split
      · exact Tx.Maintains.throw _
      · exact Tx.Maintains.pure (fun p hp => by cases hp)
  · split
    · exact Tx.Maintains.pure trivial
    · rename_i subscriptionId hsubscription
      have hid : j.subscriptionId = some subscriptionId := by
        cases payload with
        | none => exact hjob.subscriptionId.symm.trans hsubscription
        | some p =>
          cases hsubscription
          exact hpayload p rfl
      refine Tx.Maintains.bind (spares_read _) (fun subscription _ => ?_)
      cases subscription with
      | none => exact Tx.Maintains.pure trivial
      | some x =>
        refine Tx.Maintains.bind
          (Tx.Maintains.readOnly (within_nextRunAt repo Tx.ReadOnly.chains _ _ _ _ _))
          (fun next _ => ?_)
        cases next with
        | none =>
          dsimp only
          split
          · exact Tx.Maintains.throw _
          · exact Tx.Maintains.modify (fun _ h => h.setSubscription hid)
        | some next =>
          exact Tx.Maintains.bind (spares_updateSubscription hid)
            (fun _ _ => Tx.Maintains.pure trivial)

theorem spares_finalizeConflict (hjob : SameTarget j job) :
    Spares j s (finalizeConflict repo job now) (fun _ => True) := by
  unfold finalizeConflict
  split
  · exact spares_finalizeSubscription repo hjob
  · exact Tx.Maintains.pure trivial

/-- The coordinator is no sync job, so it is not the job. -/
theorem OnlyItsJob.ne_coordinator {t : Db} {x : Job} (h : OnlyItsJob j s t)
    (hsync : j.isSync = true) (hrow : t.jobs.get? x.id = some x)
    (hcoord : isCoordinatorOf j.id x = true) : x.id ≠ j.id := by
  intro heq
  obtain ⟨k, hk, hsame⟩ := h.target
  rw [heq, hk] at hrow
  cases hrow
  have hpipeline : x.isSync = false :=
    not_isSync_of_pipeline (of_decide_eq_true (Bool.and_eq_true_iff.1 hcoord).1)
  unfold Job.isSync at hpipeline hsync
  rw [hsame.jobType, hsync] at hpipeline
  cases hpipeline

theorem spares_insertJob {x : Job} (hcoord : isCoordinatorOf j.id x = true) :
    Spares j s (insertJob x) (fun k => k = x) := by
  intro t h
  unfold insertJob
  split
  · exact Tx.Maintains.throw _ t h
  · rename_i hfree
    split
    · rename_i jobs hins
      refine ⟨fun _ _ hrun => ?_, fun _ _ hrun => nomatch hrun⟩
      cases hrun
      refine ⟨h.insert hcoord (fun y hy => ?_) hins, rfl⟩
      rw [Bool.eq_false_iff]
      intro hyc
      have hany := List.any_eq_false.1 (Bool.not_eq_true _ ▸ hfree) y hy
      obtain ⟨hxt, hxk⟩ := Bool.and_eq_true_iff.1 hcoord
      obtain ⟨hyt, hyk⟩ := Bool.and_eq_true_iff.1 hyc
      apply hany
      rw [Bool.and_eq_true, decide_eq_true_eq, decide_eq_true_eq, of_decide_eq_true hxt,
        of_decide_eq_true hxk]
      exact ⟨of_decide_eq_true hyt, of_decide_eq_true hyk⟩
    · exact Tx.Maintains.throw _ t h

theorem spares_repair {id accountId runId subscriptionId sourceId : String} {platform : Platform}
    (hsync : j.isSync = true) :
    Spares j s (updateJob id (fun _ k => k.jobType = pipelineSubscriptionJobType &&
        k.naturalKey = pipelineNaturalKey j.id && isRejectedCoordinator k)
      (repairedValues sourceId subscriptionId accountId runId platform now)) (fun _ => True) := by
  refine Tx.Maintains.modifyGet (fun t h => ⟨?_, trivial⟩)
  cases hget : t.jobs.get? id with
  | none => exact h
  | some x =>
    dsimp only
    split
    · rename_i hconditions
      obtain ⟨hcoord, hrejected⟩ := Bool.and_eq_true_iff.1 hconditions
      refine h.update (fun k hk hid => .inr ?_)
      obtain rfl : k = x := by
        rw [of_decide_eq_true hid, hget] at hk
        cases hk
        rfl
      exact ⟨h.ne_coordinator hsync hk hcoord, hcoord, hrejected, hcoord⟩
    · exact h

theorem spares_enqueueSucceededSync {uuid : Nat → String} {utcNow : Nat → Time} {runId : String}
    (hsync : j.isSync = true) :
    Spares j s (enqueueSucceededSync uuid utcNow j.id runId now) (fun _ => True) := by
  refine Tx.Maintains.bind (Tx.Maintains.require _ _) (fun _ _ => ?_)
  refine Tx.Maintains.bind (Tx.Maintains.require _ _) (fun _ _ => ?_)
  refine Tx.Maintains.bind (φ := fun r => r.1.id = j.id) ?_ (fun scope hsource => ?_)
  · intro t h
    have hread : Tx.ReadOnly (sourceScope j.id runId) := within_sourceScope Tx.ReadOnly.chains _ _
    refine ⟨fun scope u hrun => ?_, fun _ u hrun => ?_⟩
    · obtain ⟨source, subscriptionId, accountId, platform⟩ := scope
      refine ⟨?_, sourceScope_source hrun⟩
      rw [hread.state hrun]
      exact h
    · rw [hread.state hrun]
      exact h
  · obtain ⟨source, subscriptionId, accountId, platform⟩ := scope
    dsimp only at hsource ⊢
    rw [hsource]
    refine Tx.Maintains.bind (spares_read _) (fun _ _ => ?_)
    refine Tx.Maintains.bind (Tx.Maintains.require _ _) (fun _ _ => ?_)
    refine Tx.Maintains.bind (spares_read _) (fun _ _ => ?_)
    refine Tx.Maintains.bind spares_newUuid (fun _ _ => ?_)
    refine Tx.Maintains.bind (spares_read _) (fun existing _ => ?_)
    refine Tx.Maintains.bind (φ := fun _ => True) ?_ (fun job _ => ?_)
    · cases existing with
      | some job => exact Tx.Maintains.pure trivial
      | none =>
        refine (spares_insertJob ?_).mono (fun _ _ => trivial)
        simp [isCoordinatorOf, newCoordinator]
    · split
      · exact Tx.Maintains.pure trivial
      · refine Tx.Maintains.bind (Tx.Maintains.require _ _) (fun _ _ => ?_)
        refine Tx.Maintains.bind (spares_repair hsync) (fun _ _ => ?_)
        exact (Tx.Maintains.require _ _).mono (fun _ _ => trivial)

theorem spares_enqueuePipeline (hjob : SameTarget j job) (hsync : j.isSync = true) :
    Spares j s (enqueuePipelineForSucceededRun repo job now) (fun _ => True) := by
  unfold enqueuePipelineForSucceededRun
  split
  · exact Tx.Maintains.pure trivial
  · refine Tx.Maintains.bind (spares_read _) (fun run _ => ?_)
    cases run with
    | none => exact Tx.Maintains.pure trivial
    | some run =>
      dsimp only
      split
      · exact Tx.Maintains.pure trivial
      · rw [hjob.id]
        exact spares_enqueueSucceededSync hsync

theorem spares_reconcileSucceeded {expiredOnly : Bool} {lockedLanes : Option (List String)}
    (hjob : SameTarget j job) (hsync : j.isSync = true)
    (hlocked : ∀ ids ∈ lockedLanes, ∀ id ∈ ids, OwnLane j s id) :
    Spares j s (reconcileSucceededAttachment repo job now expiredOnly lockedLanes)
      (fun _ => True) := by
  unfold reconcileSucceededAttachment
  split
  · exact Tx.Maintains.pure trivial
  · refine Tx.Maintains.bind (spares_read _) (fun run _ => ?_)
    cases run with
    | none => exact Tx.Maintains.throw _
    | some run =>
      refine Tx.Maintains.bind (Tx.Maintains.require _ _) (fun _ _ => ?_)
      split
      · exact Tx.Maintains.pure trivial
      · refine Tx.Maintains.bind
          (spares_updateJob hjob (fun _ => ⟨rfl, rfl, rfl, rfl, rfl, rfl⟩)) (fun r hr => ?_)
        cases r with
        | none => exact Tx.Maintains.pure trivial
        | some reconciled =>
          have hreconciled := hr reconciled rfl
          refine Tx.Maintains.bind (spares_applyLaneSuccess hreconciled hlocked) (fun _ _ => ?_)
          refine Tx.Maintains.bind (spares_finalizeSubscription repo hreconciled) (fun _ _ => ?_)
          exact Tx.Maintains.bind (spares_enqueuePipeline repo hreconciled hsync)
            (fun _ _ => Tx.Maintains.pure trivial)

theorem spares_reconcileConflict {expiredOnly : Bool} {allowed : JobStatus → Bool}
    {lockedLanes : Option (List String)} (hjob : SameTarget j job)
    (hlocked : ∀ ids ∈ lockedLanes, ∀ id ∈ ids, OwnLane j s id) :
    Spares j s (reconcileOwnershipConflictAttachment repo job now expiredOnly none allowed
      lockedLanes) (fun _ => True) := by
  unfold reconcileOwnershipConflictAttachment
  split
  · exact Tx.Maintains.pure trivial
  · split
    · exact Tx.Maintains.pure trivial
    · refine Tx.Maintains.bind (spares_read _) (fun run _ => ?_)
      cases run with
      | none => exact Tx.Maintains.throw _
      | some run =>
        refine Tx.Maintains.bind (Tx.Maintains.require _ _) (fun _ _ => ?_)
        split
        · exact Tx.Maintains.pure trivial
        · refine Tx.Maintains.bind
            (spares_updateJob hjob (fun _ => ⟨rfl, rfl, rfl, rfl, rfl, rfl⟩)) (fun r hr => ?_)
          cases r with
          | none => exact Tx.Maintains.throw _
          | some reconciled =>
            have hreconciled := hr reconciled rfl
            refine Tx.Maintains.bind (spares_applyLaneFailure hreconciled hlocked) (fun _ _ => ?_)
            exact Tx.Maintains.bind (spares_finalizeConflict repo hreconciled)
              (fun _ _ => Tx.Maintains.pure trivial)

theorem spares_reclaimOne (hjob : SameTarget j job) (hsync : j.isSync = true) :
    Spares j s (reclaimOne repo now job) (fun _ => True) := by
  have hnone : ∀ ids ∈ (none : Option (List String)), ∀ id ∈ ids, OwnLane j s id := nofun
  refine Tx.Maintains.bind (spares_reconcileSucceeded repo hjob hsync hnone) (fun succeeded _ => ?_)
  split
  · exact Tx.Maintains.pure trivial
  · refine Tx.Maintains.bind (spares_reconcileConflict repo hjob hnone) (fun conflict _ => ?_)
    split
    · exact Tx.Maintains.pure trivial
    · refine Tx.Maintains.bind (spares_updateJob hjob (fun _ => ⟨rfl, rfl, rfl, rfl, rfl, rfl⟩))
        (fun r hr => ?_)
      cases r with
      | none => exact Tx.Maintains.pure trivial
      | some reclaimed =>
        have hreclaimed := hr reclaimed rfl
        refine Tx.Maintains.bind spares_cancelAttachedRun (fun _ _ => ?_)
        refine Tx.Maintains.bind (spares_applyLaneFailure hreclaimed hnone) (fun _ _ => ?_)
        split
        · exact spares_finalizeSubscription repo hreclaimed
        · exact Tx.Maintains.pure trivial

/-- A row under the job's key in a reached state is the job. -/
theorem OnlyItsJob.sameTarget {t : Db} {k : Job} (h : OnlyItsJob j s t)
    (hk : t.jobs.get? k.id = some k) (hid : k.id = j.id) : SameTarget j k := by
  obtain ⟨k', hk', hsame⟩ := h.target
  rw [hid, hk'] at hk
  cases hk
  exact hsame

/-- The expired rows that a narrowed recovery reads are the job's own. -/
theorem spares_reclaimExpired (hsync : j.isSync = true) :
    Spares j s (reclaimExpiredSync repo now (some j.id)) (fun _ => True) := by
  refine Tx.Maintains.bind (Tx.Maintains.read (φ := fun jobs => ∀ k ∈ jobs, SameTarget j k)
    (fun t h k hk => ?_)) (fun jobs hjobs => ?_)
  · have hmem := List.mem_of_mem_take hk
    rw [List.mem_mergeSort, List.mem_filter] at hmem
    simp only [Bool.and_eq_true] at hmem
    exact h.sameTarget (Table.get?_of_mem hmem.1) (of_decide_eq_true hmem.2.2)
  · exact Tx.Maintains.forEach jobs (fun k hk => spares_reclaimOne repo (hjobs k hk) hsync)

theorem spares_requeueDue : Spares j s (requeueDueSync repo now (some j.id)) (fun _ => True) := by
  refine Tx.Maintains.bind (Tx.Maintains.read (φ := fun jobs => ∀ k ∈ jobs, SameTarget j k)
    (fun t h k hk => ?_)) (fun jobs hjobs => ?_)
  · have hmem := List.mem_of_mem_take hk
    rw [List.mem_mergeSort, List.mem_filter] at hmem
    simp only [Bool.and_eq_true] at hmem
    exact h.sameTarget (Table.get?_of_mem hmem.1) (of_decide_eq_true hmem.2.2)
  · refine Tx.Maintains.bind (Tx.Maintains.forEach jobs (fun k hk => ?_)) (fun _ _ => ?_)
    · exact Tx.Maintains.bind (spares_reconcileConflict repo (hjobs k hk) nofun)
        (fun _ _ => Tx.Maintains.pure trivial)
    · refine Tx.Maintains.modify (fun t h => h.update (fun k _ hk => .inl ?_))
      simp only [Bool.and_eq_true] at hk
      exact ⟨of_decide_eq_true hk.2, rfl, rfl, rfl, rfl, rfl, rfl⟩

/-! ## Claiming -/

theorem spares_terminalizeInvalid (hjob : SameTarget j job) :
    Spares j s (terminalizeInvalidCandidate repo job now) (fun _ => True) := by
  refine Tx.Maintains.bind (spares_updateJob hjob (fun _ => ⟨rfl, rfl, rfl, rfl, rfl, rfl⟩))
    (fun r hr => ?_)
  cases r with
  | none => exact Tx.Maintains.pure trivial
  | some terminal => exact spares_finalizeSubscription repo (hr terminal rfl)

theorem spares_candidateLanes (hjob : SameTarget j job) :
    Spares j s (candidateLanes repo job now)
      (fun lanes => ∀ ids ∈ lanes, ∀ id ∈ ids, OwnLane j s id) := by
  refine Tx.Maintains.catching ?_ (fun _ => ?_)
  · refine Tx.Maintains.bind (Tx.Maintains.ofExcept _) (fun _ _ => ?_)
    refine Tx.Maintains.bind (spares_jobLanes hjob) (fun ids hids => ?_)
    refine Tx.Maintains.bind (spares_reconcileConflict repo hjob ?_) (fun reconciled _ => ?_)
    · rintro _ ⟨⟩
      exact hids
    · refine Tx.Maintains.pure (fun lanes hlanes => ?_)
      split at hlanes
      · cases hlanes
      · cases hlanes
        exact hids
  · exact Tx.Maintains.bind (spares_terminalizeInvalid repo hjob)
      (fun _ _ => Tx.Maintains.pure nofun)

theorem spares_claimRow {owner : String} {lease : Nat} (hjob : SameTarget j job) :
    Spares j s (claimRow repo job.id owner lease now) (fun r => ∀ k ∈ r, SameTarget j k) := by
  refine Tx.Maintains.bind spares_newUuid (fun _ _ => ?_)
  refine Tx.Maintains.bind (Tx.Maintains.ofExcept _) (fun _ _ => ?_)
  exact spares_updateJob hjob (fun _ => ⟨rfl, rfl, rfl, rfl, rfl, rfl⟩)

theorem spares_claimCandidates {owner : String} {lease : Nat} {candidates : List Job}
    (hcandidates : ∀ k ∈ candidates, SameTarget j k) :
    Spares j s (claimCandidates repo owner lease now candidates) (fun _ => True) := by
  induction candidates with
  | nil => exact Tx.Maintains.pure trivial
  | cons candidate rest ih =>
    have hcandidate := hcandidates candidate List.mem_cons_self
    have hrest := ih (fun k hk => hcandidates k (List.mem_cons_of_mem candidate hk))
    unfold claimCandidates
    split
    · exact Tx.Maintains.bind (spares_terminalizeInvalid repo hcandidate) (fun _ _ => hrest)
    · refine Tx.Maintains.bind (φ := fun _ => True) ?_ (fun active _ => ?_)
      · refine Tx.Maintains.catching ?_ (fun _ => Tx.Maintains.pure trivial)
        exact Tx.Maintains.bind (Tx.Maintains.readOnly (within_requireActive Tx.ReadOnly.chains _))
          (fun _ _ => Tx.Maintains.pure trivial)
      · split
        · exact hrest
        · refine Tx.Maintains.bind (spares_candidateLanes repo hcandidate) (fun lanes hlanes => ?_)
          cases lanes with
          | none => exact hrest
          | some ids =>
            refine Tx.Maintains.bind (spares_read _) (fun allowed _ => ?_)
            split
            · exact hrest
            · refine Tx.Maintains.bind (spares_claimRow repo hcandidate) (fun r _ => ?_)
              cases r with
              | none => exact hrest
              | some claimed =>
                refine Tx.Maintains.bind (Tx.Maintains.forEach ids
                  (fun id hid => spares_reserveLane (hlanes ids rfl id hid))) (fun _ _ => ?_)
                exact Tx.Maintains.bind (Tx.Maintains.ofExcept _)
                  (fun _ _ => Tx.Maintains.pure trivial)

theorem within_checkExact {R : Db → Db → Prop} (hR : Tx.Chains R)
    (target : Option (String × String)) : Tx.Within R (checkExact target) := by
  cases target with
  | none => exact Tx.Within.pure hR _
  | some e =>
    obtain ⟨jobId, subscriptionId⟩ := e
    refine Tx.Within.bind hR (within_getSyncJob hR _) (fun observed => ?_)
    refine Tx.Within.bind hR (Tx.Within.require hR _ _) (fun _ => ?_)
    refine Tx.Within.bind hR (within_requireActive hR _) (fun subscription => ?_)
    refine Tx.Within.bind hR (Tx.Within.require hR _ _) (fun _ => ?_)
    refine Tx.Within.bind hR (Tx.Within.read hR _) (fun account => ?_)
    split
    · exact Tx.Within.require hR _ _
    · exact Tx.Within.throw hR _

theorem spares_claimEligible {args : ClaimArguments} {subscriptionId : String}
    (hsync : j.isSync = true) :
    Spares j s (claimEligible repo args (some (j.id, subscriptionId))) (fun _ => True) := by
  refine Tx.Maintains.bind (Tx.Maintains.ofExcept _) (fun owner _ => ?_)
  refine Tx.Maintains.bind (Tx.Maintains.ofExcept _) (fun capacity _ => ?_)
  refine Tx.Maintains.bind (Tx.Maintains.ofExcept _) (fun lease _ => ?_)
  refine Tx.Maintains.bind (Tx.Maintains.ofExcept _) (fun candidateLimit _ => ?_)
  refine Tx.Maintains.bind (Tx.Maintains.ofExcept _) (fun adapters _ => ?_)
  refine Tx.Maintains.bind (Tx.Maintains.readOnly (within_checkExact Tx.ReadOnly.chains _))
    (fun _ _ => ?_)
  refine Tx.Maintains.bind (spares_reclaimExpired repo hsync) (fun _ _ => ?_)
  refine Tx.Maintains.bind (spares_requeueDue repo) (fun _ _ => ?_)
  refine Tx.Maintains.bind (spares_read _) (fun activeCount _ => ?_)
  split
  · exact Tx.Maintains.pure trivial
  · split
    · exact Tx.Maintains.pure trivial
    · refine Tx.Maintains.bind (Tx.Maintains.read (φ := fun jobs => ∀ k ∈ jobs, SameTarget j k)
        (fun t h k hk => ?_)) (fun candidates hcandidates => ?_)
      · have hmem := List.mem_of_mem_take hk
        rw [List.mem_mergeSort, List.mem_filter] at hmem
        simp only [Bool.and_eq_true, Option.all_some, decide_eq_true_eq] at hmem
        exact h.sameTarget (Table.get?_of_mem hmem.1) hmem.2.1.2.1
      · exact spares_claimCandidates repo hcandidates

end Rows

/-- What an exact claim may leave behind. -/
def ExactlyTouches (jobId : String) (s t : Db) : Prop :=
  match s.jobs.get? jobId with
  | some j => OnlyItsJob j s t
  | none => t = s

theorem exactlyTouches_refl (jobId : String) (s : Db) : ExactlyTouches jobId s s := by
  unfold ExactlyTouches
  split
  · rename_i j hj
    obtain rfl := Table.get?_key hj
    exact OnlyItsJob.refl hj
  · rfl

/-- A claim of a job that is no sync job is refused before it writes. -/
theorem claimExact_refused {repo : SchedulerRepository} {jobId subscriptionId : String}
    {args : ClaimArguments} {s : Db}
    (h : ∀ j, s.jobs.get? jobId = some j → j.isSync = false) :
    (claimEligible repo args (some (jobId, subscriptionId)) s).2 = s := by
  have hR := Tx.ReadOnly.chains (σ := Db)
  refine Tx.Within.bind_at hR (Tx.Within.ofExcept hR _) (fun owner t₁ h₁ => ?_)
  obtain rfl := (Tx.run_ofExcept_ok h₁).2
  refine Tx.Within.bind_at hR (Tx.Within.ofExcept hR _) (fun capacity t₂ h₂ => ?_)
  obtain rfl := (Tx.run_ofExcept_ok h₂).2
  refine Tx.Within.bind_at hR (Tx.Within.ofExcept hR _) (fun lease t₃ h₃ => ?_)
  obtain rfl := (Tx.run_ofExcept_ok h₃).2
  refine Tx.Within.bind_at hR (Tx.Within.ofExcept hR _) (fun candidateLimit t₄ h₄ => ?_)
  obtain rfl := (Tx.run_ofExcept_ok h₄).2
  refine Tx.Within.bind_at hR (Tx.Within.ofExcept hR _) (fun adapters t₅ h₅ => ?_)
  obtain rfl := (Tx.run_ofExcept_ok h₅).2
  refine Tx.Within.bind_at hR (within_checkExact hR _) (fun _ t₆ h₆ => ?_)
  obtain ⟨observed, t₇, h₇, _⟩ := Tx.run_bind_ok h₆
  obtain ⟨_, hget, hsync⟩ := getSyncJob_ok h₇
  rw [h observed hget] at hsync
  cases hsync

/-- However an exact claim ends, from any state, it has touched only its job. -/
theorem exact_claim_touches_only_its_job (repo : SchedulerRepository)
    (jobId expectedSubscriptionId : String) (args : ClaimArguments) (s : Db) :
    ExactlyTouches (strip jobId) s (claimExact repo jobId expectedSubscriptionId args s).2 := by
  have hR := Tx.ReadOnly.chains (σ := Db)
  unfold claimExact
  rw [Tx.run_bind]
  cases hid : requiredText jobId "job_id" 36 with
  | error e => exact exactlyTouches_refl _ _
  | ok id =>
    change ExactlyTouches _ s ((Tx.ofExcept _ >>= _) s).2
    rw [Tx.run_bind]
    cases hsub : requiredText expectedSubscriptionId "expected_subscription_id" 36 with
    | error e => exact exactlyTouches_refl _ _
    | ok subscriptionId =>
      have hstrip : id = strip jobId := by
        unfold requiredText at hid
        dsimp only at hid
        split at hid
        · cases hid
        · cases hid
          rfl
      rw [hstrip]
      change ExactlyTouches _ s (claimEligible repo _ (some (strip jobId, subscriptionId)) s).2
      by_cases hsync : ∃ j, s.jobs.get? (strip jobId) = some j ∧ j.isSync = true
      · obtain ⟨j, hj, hsync⟩ := hsync
        have hkey := Table.get?_key hj
        unfold ExactlyTouches
        rw [hj]
        rw [← hkey] at hj ⊢
        exact (spares_claimEligible repo hsync).run (OnlyItsJob.refl hj)
      · rw [claimExact_refused]
        · exact exactlyTouches_refl _ _
        · intro j hj
          rw [Bool.eq_false_iff]
          exact fun h => hsync ⟨j, hj, h⟩

def recoveredId : String := "00000000-0000-4000-8000-000000000000"

/-- The coordinator of the job, rejected with a payload that is no longer read. -/
def rejectedCoordinator : Job :=
  { newCoordinator "rejected" recoveredId authoritySubscription authorityAccount authorityRunId
      .bili 0 0 with
    payload := .obj []
    status := .failedTerminal
    lastErrorCode := some pipelineCoordinatorInvalid }

/-- A job whose lease has run out under a succeeded run, and its rejected coordinator. -/
def rejectedDb : Db :=
  { authorityDb with
    subscriptions := authorityDb.subscriptions.update (fun _ => true)
      (fun s => { s with scheduleRevision := 1 })
    jobs := ⟨[{ cycleJob recoveredId authoritySubscription authorityAccount .bili 0 500 500
      .standard with
      runId := some authorityRunId
      status := .running
      attempts := 1
      leaseOwner := some "worker"
      leaseToken := some "token"
      leaseExpiresAt := some 2000 }, rejectedCoordinator], by decide⟩ }

def recoveringClaim : Session (Option SchedulerClaim) :=
  claimExact authorityRepository recoveredId authoritySubscription ⟨"worker", 10, 60, 10, none, 3000⟩

theorem exact_claim_requeues_coordinator :
    (¬ ∀ x, rejectedDb.jobs.get? x.id = some x → x.id ≠ recoveredId →
      (recoveringClaim rejectedDb).2.jobs.get? x.id = some x) ∧
    (recoveringClaim rejectedDb).1.toOption.map Option.isSome = some false ∧
    (recoveringClaim rejectedDb).2.jobs.rows.map (fun x => (x.id, x.status)) =
      [(recoveredId, .succeeded), ("rejected", .queued)] := by
  have hrun : ((recoveringClaim rejectedDb).1.toOption.map Option.isSome,
      (recoveringClaim rejectedDb).2.jobs.rows.map (fun x => (x.id, x.status))) =
      (some false, [(recoveredId, .succeeded), ("rejected", .queued)]) := by decide +kernel
  obtain ⟨hresult, hrows⟩ := Prod.mk.inj hrun
  refine ⟨fun h => ?_, hresult, hrows⟩
  have hkept := h rejectedCoordinator (Table.get?_of_mem (by simp [rejectedDb])) (by decide)
  have hmem : (rejectedCoordinator.id, rejectedCoordinator.status) ∈
      (recoveringClaim rejectedDb).2.jobs.rows.map (fun x => (x.id, x.status)) :=
    List.mem_map_of_mem (f := fun x : Job => (x.id, x.status)) (Table.get?_mem hkept)
  rw [hrows] at hmem
  revert hmem
  decide

end MediaSync.Scheduler
