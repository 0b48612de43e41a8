import MediaSync.Scheduler.LeaseOperations

/-!
# What each helper leaves alone

`Outside` relates two states when the second differs only outside the job and
lane tables; `LaneWork` when it differs only in the lane table; `PipelineWork`
when it differs only in the rows of jobs that are no sync jobs. Every helper
of the repository that is not itself a job update satisfies one of them, so a
proof about an operation only ever opens its job updates.
-/

namespace MediaSync.Scheduler

open Python Transaction SchedulerError

/-- A run keeps its identity and its subscription. -/
def RunsKept (s t : Db) : Prop :=
  ∀ id r, s.runs.get? id = some r →
    ∃ r', t.runs.get? id = some r' ∧ r'.subscriptionId = r.subscriptionId

theorem RunsKept.refl (s : Db) : RunsKept s s := fun _ r h => ⟨r, h, rfl⟩

theorem RunsKept.trans {s t u : Db} (hst : RunsKept s t) (htu : RunsKept t u) : RunsKept s u := by
  intro id r h
  obtain ⟨r', h', hr'⟩ := hst id r h
  obtain ⟨r'', h'', hr''⟩ := htu id r' h'
  exact ⟨r'', h'', hr''.trans hr'⟩

/-- The job, lane and account tables are the same, and every run keeps its subscription. -/
structure Outside (s t : Db) : Prop where
  jobs : t.jobs = s.jobs
  lanes : t.lanes = s.lanes
  accounts : t.accounts = s.accounts
  runs : RunsKept s t
  drawn : s.drawn ≤ t.drawn

/-- The job, account, run and subscription tables are the same. -/
structure LaneWork (s t : Db) : Prop where
  jobs : t.jobs = s.jobs
  accounts : t.accounts = s.accounts
  runs : t.runs = s.runs
  subscriptions : t.subscriptions = s.subscriptions
  drawn : s.drawn ≤ t.drawn

theorem Outside.chains : Tx.Chains Outside where
  refl s := ⟨rfl, rfl, rfl, RunsKept.refl s, Nat.le_refl _⟩
  trans _ _ _ h k := ⟨k.jobs.trans h.jobs, k.lanes.trans h.lanes, k.accounts.trans h.accounts,
    h.runs.trans k.runs, Nat.le_trans h.drawn k.drawn⟩

theorem LaneWork.chains : Tx.Chains LaneWork where
  refl _ := ⟨rfl, rfl, rfl, rfl, Nat.le_refl _⟩
  trans _ _ _ h k := ⟨k.jobs.trans h.jobs, k.accounts.trans h.accounts, k.runs.trans h.runs,
    k.subscriptions.trans h.subscriptions, Nat.le_trans h.drawn k.drawn⟩

theorem Outside.of_eq {s t : Db} (hj : t.jobs = s.jobs) (hl : t.lanes = s.lanes)
    (ha : t.accounts = s.accounts) (hr : t.runs = s.runs) (hd : s.drawn ≤ t.drawn) :
    Outside s t :=
  ⟨hj, hl, ha, fun _ r h => ⟨r, hr ▸ h, rfl⟩, hd⟩

section Reads

variable {R : Db → Db → Prop} (hR : Tx.Chains R)

include hR

theorem within_require? {α : Type} (x : Option α) (message : String) :
    Tx.Within R (require? x message : Session α) := by
  cases x with
  | none => exact Tx.Within.throw hR _
  | some a => exact Tx.Within.pure hR a

/-- The reads change nothing, so every relation that chains holds over them. -/
theorem within_requireActive (subscriptionId : String) :
    Tx.Within R (requireActive subscriptionId) := by
  refine Tx.Within.bind hR (Tx.Within.read hR _) (fun subscription => ?_)
  cases subscription with
  | none => exact Tx.Within.throw hR _
  | some s => exact Tx.Within.bind hR (Tx.Within.require hR _ _) (fun _ => Tx.Within.pure hR s)

theorem within_getSyncJob (jobId : String) :
    Tx.Within R (SchedulerRepository.getSyncJob jobId) := by
  refine Tx.Within.bind hR (Tx.Within.read hR _) (fun job => ?_)
  cases job with
  | none => exact Tx.Within.throw hR _
  | some j => exact Tx.Within.bind hR (Tx.Within.require hR _ _) (fun _ => Tx.Within.pure hR j)

theorem within_bindingForSubscription (codec : DeliveryCodec) (contract : Contract)
    (upstreamSha : Option String) (s : Subscription) :
    Tx.Within R (bindingForSubscription codec contract upstreamSha s) := by
  refine Tx.Within.bind hR (Tx.Within.read hR _) (fun account => ?_)
  refine Tx.Within.bind hR (within_require? hR _ _) (fun account => ?_)
  refine Tx.Within.bind hR (Tx.Within.read hR _) (fun author => ?_)
  refine Tx.Within.bind hR (within_require? hR _ _) (fun author => ?_)
  exact Tx.Within.pure hR _

theorem within_checkLaneAccount (policy : LanePolicy) :
    Tx.Within R (checkLaneAccount policy) := by
  unfold checkLaneAccount
  cases policy.accountId with
  | none => exact Tx.Within.pure hR _
  | some accountId =>
    refine Tx.Within.bind hR (Tx.Within.read hR _) (fun account => ?_)
    cases account with
    | none => exact Tx.Within.throw hR _
    | some account => exact Tx.Within.require hR _ _

/-- A source is looked up without a write. -/
theorem within_sourceScope (syncJobId runId : String) :
    Tx.Within R (sourceScope syncJobId runId) := by
  refine Tx.Within.bind hR (Tx.Within.read hR _) (fun source => ?_)
  cases source with
  | none => exact Tx.Within.throw hR _
  | some source =>
    refine Tx.Within.bind hR (Tx.Within.require hR _ _) (fun _ => ?_)
    refine Tx.Within.bind hR (Tx.Within.require hR _ _) (fun _ => ?_)
    refine Tx.Within.bind hR (Tx.Within.require hR _ _) (fun _ => ?_)
    split
    · refine Tx.Within.bind hR (Tx.Within.read hR _) (fun run => ?_)
      refine Tx.Within.bind hR (Tx.Within.require hR _ _) (fun _ => ?_)
      refine Tx.Within.bind hR ?_ (fun subscription => ?_)
      · exact Tx.Within.catching hR (within_requireActive hR _) (fun _ => Tx.Within.throw hR _)
      · refine Tx.Within.bind hR (Tx.Within.require hR _ _) (fun _ => ?_)
        refine Tx.Within.bind hR (Tx.Within.read hR _) (fun account => ?_)
        refine Tx.Within.bind hR (Tx.Within.require hR _ _) (fun _ => ?_)
        exact Tx.Within.pure hR _
    · exact Tx.Within.throw hR _

end Reads

/-! ## Helpers outside the job and lane tables -/

theorem outside_newUuid (uuid : Nat → String) : Tx.Within Outside (newUuid uuid) :=
  Tx.Within.modifyGet (fun _ => Outside.of_eq rfl rfl rfl rfl (Nat.le_succ _))

theorem Outside.setSubscription {s : Db} {id : String} {values : Subscription → Subscription} :
    Outside s (s.setSubscription id values) :=
  .of_eq rfl rfl rfl rfl (Nat.le_refl _)

theorem outside_setSubscription (id : String) (values : Subscription → Subscription) :
    Tx.Within Outside (Tx.modify (fun db => db.setSubscription id values) : Session Unit) :=
  Tx.Within.modify (fun _ => .setSubscription)

/-- What every write to a subscription is within, a guarded one is within. -/
theorem within_updateSubscription {R : Db → Db → Prop} (hR : Tx.Chains R)
    (hset : ∀ s id values, R s (Db.setSubscription s id values)) (id : String)
    (conditions : Db → Subscription → Bool) (values : Subscription → Subscription) :
    Tx.Within R (updateSubscription id conditions values) := by
  apply Tx.Within.modifyGet
  intro db
  cases db.subscriptions.get? id with
  | none => exact hR.refl db
  | some s =>
    by_cases h : conditions db s = true
    · simp only [h, if_true]
      exact hset db id values
    · simp only [h]
      exact hR.refl db

theorem outside_updateSubscription (id : String) (conditions : Db → Subscription → Bool)
    (values : Subscription → Subscription) :
    Tx.Within Outside (updateSubscription id conditions values) :=
  within_updateSubscription Outside.chains (fun _ _ _ => .setSubscription) _ _ _

lemma runsKept_setRun (db : Db) (id : String) (values : SyncRun → SyncRun)
    (h : ∀ r, (values r).subscriptionId = r.subscriptionId) : RunsKept db (db.setRun id values) := by
  intro k r hr
  rw [Db.get?_setRun, hr]
  split
  · exact ⟨_, rfl, h r⟩
  · exact ⟨r, rfl, rfl⟩

theorem outside_setRunStatus (runId : String) (status expected : RunStatus)
    (errorCode : Option String) (now : Time) :
    Tx.Within Outside (setRunStatus runId status expected errorCode now) := by
  refine Tx.Within.bind Outside.chains (Tx.Within.require Outside.chains _ _) (fun _ => ?_)
  refine Tx.Within.bind Outside.chains (Tx.Within.read Outside.chains _) (fun _ => ?_)
  refine Tx.Within.bind Outside.chains (Tx.Within.require Outside.chains _ _) (fun _ => ?_)
  exact Tx.Within.modify (fun db =>
    ⟨rfl, rfl, rfl, runsKept_setRun db runId _ (fun _ => rfl), Nat.le_refl _⟩)

/-- A binding is written to its own table. -/
theorem outside_ensureForMaterialization (codec : DeliveryCodec) (uuid : Nat → String)
    (contract : Contract) (subscriptionId : String) (upstreamSha : Option String)
    (scheduleRevision : Nat) (now : Time) (resumeBlocked : Bool) :
    Tx.Within Outside (ensureForMaterialization codec uuid contract subscriptionId upstreamSha
      scheduleRevision now resumeBlocked) := by
  have hR := Outside.chains
  refine Tx.Within.bind hR (Tx.Within.read hR _) (fun s => ?_)
  refine Tx.Within.bind hR (within_require? hR _ _) (fun s => ?_)
  refine Tx.Within.bind hR (within_bindingForSubscription hR _ _ _ _) (fun binding => ?_)
  cases binding with
  | none => exact Tx.Within.pure hR _
  | some binding =>
    refine Tx.Within.bind hR (Tx.Within.read hR _) (fun row => ?_)
    cases row with
    | none =>
      refine Tx.Within.bind hR (outside_newUuid uuid) (fun generationId => ?_)
      intro db
      dsimp only
      split
      · exact Outside.of_eq rfl rfl rfl rfl (Nat.le_refl _)
      · exact hR.refl db
    | some row =>
      dsimp only
      split
      · split
        · refine Tx.Within.bind hR (Tx.Within.modify (fun db => ?_)) (fun _ => ?_)
          · exact Outside.of_eq rfl rfl rfl rfl (Nat.le_refl _)
          · exact Tx.Within.read hR _
        · exact Tx.Within.pure hR _
      · refine Tx.Within.bind hR (outside_newUuid uuid) (fun generationId => ?_)
        refine Tx.Within.bind hR (outside_setSubscription _ _) (fun _ => ?_)
        refine Tx.Within.bind hR (Tx.Within.modify (fun db => ?_)) (fun _ => ?_)
        · exact Outside.of_eq rfl rfl rfl rfl (Nat.le_refl _)
        · exact Tx.Within.read hR _

section Repository

variable (repo : SchedulerRepository)

open SchedulerRepository

/-- A run that is cancelled keeps its subscription. -/
theorem outside_cancelAttachedRun (job : Job) (now : Time) (errorCode : String) :
    Tx.Within Outside (cancelAttachedRun job now errorCode) := by
  have hR := Outside.chains
  unfold cancelAttachedRun
  cases job.runId with
  | none => exact Tx.Within.pure hR _
  | some runId =>
    refine Tx.Within.bind hR (Tx.Within.read hR _) (fun run => ?_)
    cases run with
    | none => exact Tx.Within.throw hR _
    | some run =>
      refine Tx.Within.bind hR (Tx.Within.require hR _ _) (fun _ => ?_)
      split
      · exact Tx.Within.pure hR _
      · exact outside_setRunStatus _ _ _ _ _

theorem within_nextRunAt {R : Db → Db → Prop} (hR : Tx.Chains R) (job : Job)
    (payload : Option Payload) (s : Subscription) (outcome : Outcome) (now : Time) :
    Tx.Within R (nextRunAt repo job payload s outcome now) := by
  unfold nextRunAt
  split
  · exact Tx.Within.pure hR _
  · split
    · refine Tx.Within.bind hR (within_bindingForSubscription hR _ _ _ _) (fun binding => ?_)
      split
      · exact Tx.Within.pure hR _
      · exact Tx.Within.bind hR (Tx.Within.read hR _) (fun _ => Tx.Within.pure hR _)
    · exact Tx.Within.pure hR _

theorem within_cyclePayload {R : Db → Db → Prop} (hR : Tx.Chains R) (job : Job)
    (requirePayload : Bool) : Tx.Within R (cyclePayload job requirePayload) := by
  unfold cyclePayload
  split
  · exact Tx.Within.pure hR _
  · split
    · exact Tx.Within.throw hR _
    · exact Tx.Within.pure hR _

/-- What every write to a subscription is within, closing a cycle is within. -/
theorem within_finalizeSubscription {R : Db → Db → Prop} (hR : Tx.Chains R)
    (hset : ∀ s id values, R s (Db.setSubscription s id values)) (job : Job) (now : Time)
    (outcome : Outcome) (requirePayload : Bool) :
    Tx.Within R (finalizeSubscription repo job now outcome requirePayload) := by
  unfold finalizeSubscription
  refine Tx.Within.bind hR (within_cyclePayload hR _ _) (fun payload => ?_)
  split
  · exact Tx.Within.pure hR _
  · refine Tx.Within.bind hR (Tx.Within.read hR _) (fun subscription => ?_)
    cases subscription with
    | none => exact Tx.Within.pure hR _
    | some subscription =>
      refine Tx.Within.bind hR (within_nextRunAt repo hR _ _ _ _ _) (fun next => ?_)
      cases next with
      | none =>
        dsimp only
        split
        · exact Tx.Within.throw hR _
        · exact Tx.Within.modify (fun db => hset db _ _)
      | some next =>
        exact Tx.Within.bind hR (within_updateSubscription hR hset _ _ _)
          (fun _ => Tx.Within.pure hR _)

theorem within_finalizeConflict {R : Db → Db → Prop} (hR : Tx.Chains R)
    (hset : ∀ s id values, R s (Db.setSubscription s id values)) (job : Job) (now : Time) :
    Tx.Within R (finalizeConflict repo job now) := by
  unfold finalizeConflict
  split
  · exact within_finalizeSubscription repo hR hset _ _ _ _
  · exact Tx.Within.pure hR _

theorem within_finalizeFailed {R : Db → Db → Prop} (hR : Tx.Chains R)
    (hset : ∀ s id values, R s (Db.setSubscription s id values)) (job : Job) (now : Time) :
    Tx.Within R (finalizeFailed repo job now) := by
  unfold finalizeFailed
  split
  · exact within_finalizeSubscription repo hR hset _ _ _ _
  · exact Tx.Within.pure hR _

theorem outside_finalizeSubscription (job : Job) (now : Time) (outcome : Outcome)
    (requirePayload : Bool) :
    Tx.Within Outside (finalizeSubscription repo job now outcome requirePayload) :=
  within_finalizeSubscription repo Outside.chains (fun _ _ _ => .setSubscription) _ _ _ _

theorem outside_finalizeConflict (job : Job) (now : Time) :
    Tx.Within Outside (finalizeConflict repo job now) :=
  within_finalizeConflict repo Outside.chains (fun _ _ _ => .setSubscription) _ _

theorem outside_finalizeFailed (job : Job) (now : Time) :
    Tx.Within Outside (finalizeFailed repo job now) :=
  within_finalizeFailed repo Outside.chains (fun _ _ _ => .setSubscription) _ _

end Repository

/-! ## Lane helpers -/

namespace SchedulerLane

/-- The columns that no operation rewrites. -/
structure SameSlotColumns (l m : SchedulerLane) : Prop where
  id : m.id = l.id
  scopeType : m.scopeType = l.scopeType
  platform : m.platform = l.platform
  accountId : m.accountId = l.accountId

theorem SameSlotColumns.trans {l m n : SchedulerLane} (h : SameSlotColumns l m)
    (k : SameSlotColumns m n) : SameSlotColumns l n :=
  ⟨k.id.trans h.id, k.scopeType.trans h.scopeType, k.platform.trans h.platform,
    k.accountId.trans h.accountId⟩

theorem SameSlotColumns.sameSlot {l m l' m' : SchedulerLane} (hl : SameSlotColumns l l')
    (hm : SameSlotColumns m m') : l'.sameSlot m' = l.sameSlot m := by
  simp only [SchedulerLane.sameSlot, hl.scopeType, hl.platform, hl.accountId, hm.scopeType,
    hm.platform, hm.accountId]

theorem SameSlotColumns.counts {l m : SchedulerLane} (h : SameSlotColumns l m) (j : Job) :
    m.counts j = l.counts j := by
  simp only [SchedulerLane.counts, h.scopeType, h.platform, h.accountId]

theorem SameSlotColumns.inScope {l m : SchedulerLane} (h : SameSlotColumns l m)
    (scopeType : ScopeType) (platform : Platform) (accountId : Option String) :
    m.inScope scopeType platform accountId = l.inScope scopeType platform accountId := by
  simp only [SchedulerLane.inScope, h.scopeType, h.platform, h.accountId]

theorem counts_congr {l : SchedulerLane} {j j' : Job} (hp : j'.platform = j.platform)
    (ha : j'.accountId = j.accountId) : l.counts j' = l.counts j := by
  simp only [SchedulerLane.counts, hp, ha]

end SchedulerLane

/-- A lane keeps its slot and its start time. -/
structure SameStart (l m : SchedulerLane) : Prop where
  slot : l.SameSlotColumns m
  nextStartAt : m.nextStartAt = l.nextStartAt

theorem SameStart.refl (l : SchedulerLane) : SameStart l l := ⟨⟨rfl, rfl, rfl, rfl⟩, rfl⟩

theorem SameStart.trans {l m n : SchedulerLane} (h : SameStart l m) (k : SameStart m n) :
    SameStart l n :=
  ⟨h.slot.trans k.slot, k.nextStartAt.trans h.nextStartAt⟩

/-- A relation that all work on lanes is within, the reservation of a start apart. -/
structure LaneClosed (R : Db → Db → Prop) : Prop where
  chains : Tx.Chains R
  drew : ∀ uuid, Tx.Within R (newUuid uuid)
  insert : ∀ policy id now, Tx.Within R (insertLaneIfAbsent (newLane policy id now))
  update : ∀ id conditions values, (∀ l, SameStart l (values l)) →
    Tx.Within R (updateLaneRow id conditions values)

namespace LaneClosed

variable {R : Db → Db → Prop} (h : LaneClosed R)

include h

/-- A lane is inserted at most. -/
theorem ensureLane (uuid : Nat → String) (policy : LanePolicy) (now : Time) :
    Tx.Within R (ensureLane uuid policy now) := by
  have hR := h.chains
  refine Tx.Within.bind hR (within_checkLaneAccount hR policy) (fun _ => ?_)
  refine Tx.Within.bind hR (h.drew uuid) (fun id => ?_)
  refine Tx.Within.bind hR (h.insert _ _ _) (fun _ => ?_)
  refine Tx.Within.bind hR (Tx.Within.read hR _) (fun lane => ?_)
  cases lane with
  | none => exact Tx.Within.throw hR _
  | some lane => exact Tx.Within.pure hR _

theorem jobLanes (uuid : Nat → String) (job : Job) (now : Time) :
    Tx.Within R (jobLanes uuid job now) := by
  have hR := h.chains
  unfold MediaSync.Scheduler.jobLanes
  split
  · refine Tx.Within.bind hR (h.ensureLane _ _ _) (fun _ => ?_)
    refine Tx.Within.bind hR (Tx.Within.ofExcept hR _) (fun _ => ?_)
    refine Tx.Within.bind hR (h.ensureLane _ _ _) (fun _ => ?_)
    exact Tx.Within.pure hR _
  · exact Tx.Within.throw hR _

theorem settledLanes (uuid : Nat → String) (job : Job) (now : Time)
    (lockedLanes : Option (List String)) :
    Tx.Within R (settledLanes uuid job now lockedLanes) := by
  cases lockedLanes with
  | none => exact h.jobLanes uuid job now
  | some lanes => exact Tx.Within.pure h.chains _

theorem heldLane (laneId : String) : Tx.Within R (heldLane laneId) :=
  Tx.Within.bind h.chains (Tx.Within.read h.chains _) (fun _ => within_require? h.chains _ _)

theorem updateLaneValues (lane : SchedulerLane) (values : CircuitValues) (now : Time) :
    Tx.Within R (updateLaneValues lane values now) :=
  Tx.Within.bind h.chains (h.update _ _ _ (fun _ => ⟨⟨rfl, rfl, rfl, rfl⟩, rfl⟩))
    (fun _ => Tx.Within.require h.chains _ _)

theorem laneSuccess (job : Job) (now : Time) (laneId : String) :
    Tx.Within R (laneSuccess job now laneId) := by
  refine Tx.Within.bind h.chains (h.heldLane laneId) (fun lane => ?_)
  split
  · exact h.updateLaneValues _ _ _
  · split
    · exact h.updateLaneValues _ _ _
    · exact Tx.Within.pure h.chains _

theorem laneFailure (job : Job) (now : Time) (affectsCircuit : Bool) (laneId : String) :
    Tx.Within R (laneFailure job now affectsCircuit laneId) := by
  have hR := h.chains
  refine Tx.Within.bind hR (h.heldLane laneId) (fun lane => ?_)
  split
  · split
    · exact h.updateLaneValues _ _ _
    · exact Tx.Within.pure hR _
  · split
    · exact Tx.Within.pure hR _
    · exact Tx.Within.bind hR (Tx.Within.ofExcept hR _) (fun _ => h.updateLaneValues _ _ _)

theorem laneRelease (job : Job) (now : Time) (resetAll : Bool) (laneId : String) :
    Tx.Within R (laneRelease job now resetAll laneId) := by
  refine Tx.Within.bind h.chains (h.heldLane laneId) (fun lane => ?_)
  split
  · exact h.updateLaneValues _ _ _
  · exact Tx.Within.pure h.chains _

theorem applyLaneSuccess (uuid : Nat → String) (job : Job) (now : Time)
    (lockedLanes : Option (List String)) :
    Tx.Within R (applyLaneSuccess uuid job now lockedLanes) :=
  Tx.Within.bind h.chains (h.settledLanes uuid job now lockedLanes)
    (fun lanes => Tx.Within.forEach h.chains lanes (fun laneId _ => h.laneSuccess job now laneId))

theorem applyLaneFailure (uuid : Nat → String) (job : Job) (now : Time)
    (affectsCircuit : Bool) (lockedLanes : Option (List String)) :
    Tx.Within R (applyLaneFailure uuid job now affectsCircuit lockedLanes) :=
  Tx.Within.bind h.chains (h.settledLanes uuid job now lockedLanes)
    (fun lanes => Tx.Within.forEach h.chains lanes
      (fun laneId _ => h.laneFailure job now affectsCircuit laneId))

theorem releaseLaneProbe (uuid : Nat → String) (job : Job) (now : Time)
    (resetAll : Bool) (lockedLanes : Option (List String)) :
    Tx.Within R (releaseLaneProbe uuid job now resetAll lockedLanes) :=
  Tx.Within.bind h.chains (h.settledLanes uuid job now lockedLanes)
    (fun lanes => Tx.Within.forEach h.chains lanes
      (fun laneId _ => h.laneRelease job now resetAll laneId))

/-- The limits of a lane change, its slot and its start do not. -/
theorem updateLane (uuid : Nat → String) (policy : LanePolicy)
    (expectedRevision : Option Int) (now : Time) :
    Tx.Within R (updateLane uuid policy expectedRevision now) := by
  have hR := h.chains
  refine Tx.Within.bind hR (Tx.Within.ofExcept hR _) (fun expected => ?_)
  refine Tx.Within.bind hR (h.ensureLane _ _ _) (fun laneId => ?_)
  refine Tx.Within.bind hR (h.heldLane laneId) (fun lane => ?_)
  refine Tx.Within.bind hR (h.update _ _ _ (fun _ => ⟨⟨rfl, rfl, rfl, rfl⟩, rfl⟩))
    (fun updated => ?_)
  cases updated with
  | none => exact Tx.Within.throw hR _
  | some lane => exact Tx.Within.pure hR _

theorem resetLane (policy : LanePolicy) (expectedRevision : Option Int) (now : Time) :
    Tx.Within R (resetLane policy expectedRevision now) := by
  have hR := h.chains
  refine Tx.Within.bind hR (Tx.Within.ofExcept hR _) (fun expected => ?_)
  refine Tx.Within.bind hR (Tx.Within.read hR _) (fun lane => ?_)
  cases lane with
  | none => exact Tx.Within.throw hR _
  | some lane =>
    refine Tx.Within.bind hR (h.update _ _ _ (fun _ => ⟨⟨rfl, rfl, rfl, rfl⟩, rfl⟩))
      (fun reset => ?_)
    cases reset with
    | none => exact Tx.Within.throw hR _
    | some lane => exact Tx.Within.pure hR _

end LaneClosed

theorem laneWork_updateLaneRow (id : String) (conditions : SchedulerLane → Bool)
    (values : SchedulerLane → SchedulerLane) :
    Tx.Within LaneWork (updateLaneRow id conditions values) := by
  apply Tx.Within.modifyGet
  intro db
  cases db.lanes.get? id with
  | none => exact LaneWork.chains.refl db
  | some l =>
    by_cases h : conditions l = true
    · simp only [h, if_true]
      exact ⟨rfl, rfl, rfl, rfl, Nat.le_refl _⟩
    · simp only [h]
      exact LaneWork.chains.refl db

/-- All work on lanes is within `LaneWork`, the reservation of a start as well. -/
theorem LaneWork.closed : LaneClosed LaneWork where
  chains := LaneWork.chains
  drew _ := Tx.Within.modifyGet (fun _ => ⟨rfl, rfl, rfl, rfl, Nat.le_succ _⟩)
  insert policy id now := by
    apply Tx.Within.modify
    intro db
    split
    · exact LaneWork.chains.refl db
    · split
      · exact ⟨rfl, rfl, rfl, rfl, Nat.le_refl _⟩
      · exact LaneWork.chains.refl db
  update id conditions values _ := laneWork_updateLaneRow id conditions values

theorem laneWork_reserveLane (laneId jobId : String) (now : Time) :
    Tx.Within LaneWork (reserveLane laneId jobId now) := by
  have hR := LaneWork.chains
  refine Tx.Within.bind hR (LaneWork.closed.heldLane laneId) (fun lane => ?_)
  refine Tx.Within.bind hR (Tx.Within.ofExcept hR _) (fun nextStartAt => ?_)
  refine Tx.Within.bind hR (laneWork_updateLaneRow _ _ _) (fun reserved => ?_)
  exact Tx.Within.require hR _ _

/-- Only rows that are no sync jobs may differ. -/
structure PipelineWork (s t : Db) : Prop where
  lanes : t.lanes = s.lanes
  accounts : t.accounts = s.accounts
  runs : t.runs = s.runs
  subscriptions : t.subscriptions = s.subscriptions
  syncJobs : ∀ id j, j.isSync = true → (t.jobs.get? id = some j ↔ s.jobs.get? id = some j)
  drawn : s.drawn ≤ t.drawn

theorem PipelineWork.chains : Tx.Chains PipelineWork where
  refl _ := ⟨rfl, rfl, rfl, rfl, fun _ _ _ => Iff.rfl, Nat.le_refl _⟩
  trans _ _ _ h k := ⟨k.lanes.trans h.lanes, k.accounts.trans h.accounts, k.runs.trans h.runs,
    k.subscriptions.trans h.subscriptions,
    fun id j hj => (k.syncJobs id j hj).trans (h.syncJobs id j hj), Nat.le_trans h.drawn k.drawn⟩

theorem pipelineWork_newUuid (uuid : Nat → String) : Tx.Within PipelineWork (newUuid uuid) :=
  Tx.Within.modifyGet (fun _ => ⟨rfl, rfl, rfl, rfl, fun _ _ _ => Iff.rfl, Nat.le_succ _⟩)

theorem pipelineWork_insertJob {job : Job} (h : job.isSync = false) :
    Tx.Within PipelineWork (insertJob job) := by
  intro db
  unfold insertJob
  split
  · exact PipelineWork.chains.refl db
  · split
    · rename_i jobs hins
      refine ⟨rfl, rfl, rfl, rfl, fun id j hj => ?_, Nat.le_refl _⟩
      show jobs.get? id = some j ↔ db.jobs.get? id = some j
      rw [Table.get?_insert? hins]
      by_cases hid : job.id = id
      · have hfresh := Table.insert?_fresh hins
        rw [if_pos hid, ← hid, hfresh]
        constructor
        · rintro ⟨⟩
          rw [h] at hj
          cases hj
        · nofun
      · rw [if_neg hid]
    · exact PipelineWork.chains.refl db

/-- An update of rows that are no sync jobs and stay none. -/
theorem PipelineWork.update {db : Db} {p : Job → Bool} {f : Job → Job}
    (keeps : ∀ j, (f j).id = j.id)
    (hp : ∀ j, db.jobs.get? j.id = some j → p j = true →
      j.isSync = false ∧ (f j).isSync = false) :
    PipelineWork db { db with jobs := db.jobs.update p f keeps } := by
  refine ⟨rfl, rfl, rfl, rfl, fun id k hsync => ?_, Nat.le_refl _⟩
  show (db.jobs.update p f keeps).get? id = some k ↔ _
  rw [Table.get?_update]
  cases hj : db.jobs.get? id with
  | none => simp
  | some j =>
    rw [Option.map_some]
    split
    · rename_i h
      have hkind := hp j (by rw [Table.get?_key hj]; exact hj) h
      constructor
      · rintro ⟨⟩
        rw [hkind.2] at hsync
        cases hsync
      · rintro ⟨⟩
        rw [hkind.1] at hsync
        cases hsync
    · rfl

theorem not_isSync_of_pipeline {j : Job} (h : j.jobType = pipelineSubscriptionJobType) :
    j.isSync = false := by
  simp [Job.isSync, h, pipelineSubscriptionJobType, syncSubscriptionJobType]

/-- A coordinator is inserted, or a rejected one is repaired. -/
theorem pipelineWork_enqueueSucceededSync (uuid : Nat → String) (utcNow : Nat → Time)
    (syncJobId runId : String) (now : Time) :
    Tx.Within PipelineWork (enqueueSucceededSync uuid utcNow syncJobId runId now) := by
  have hR := PipelineWork.chains
  refine Tx.Within.bind hR (Tx.Within.require hR _ _) (fun _ => ?_)
  refine Tx.Within.bind hR (Tx.Within.require hR _ _) (fun _ => ?_)
  refine Tx.Within.bind hR (within_sourceScope hR _ _) (fun scope => ?_)
  obtain ⟨source, subscriptionId, accountId, platform⟩ := scope
  refine Tx.Within.bind hR (Tx.Within.read hR _) (fun superseding => ?_)
  refine Tx.Within.bind hR (Tx.Within.require hR _ _) (fun _ => ?_)
  refine Tx.Within.bind hR (Tx.Within.read hR _) (fun utc => ?_)
  refine Tx.Within.bind hR (pipelineWork_newUuid uuid) (fun id => ?_)
  refine Tx.Within.bind hR (Tx.Within.read hR _) (fun existing => ?_)
  refine Tx.Within.bind hR ?_ (fun job => ?_)
  · cases existing with
    | some job => exact Tx.Within.pure hR _
    | none => exact pipelineWork_insertJob (not_isSync_of_pipeline rfl)
  · split
    · exact Tx.Within.pure hR _
    · refine Tx.Within.bind hR (Tx.Within.require hR _ _) (fun _ => ?_)
      refine Tx.Within.bind hR (Tx.Within.modifyGet ?_) (fun _ => Tx.Within.require hR _ _)
      intro db
      cases hget : db.jobs.get? job.id with
      | none => exact hR.refl db
      | some j =>
        dsimp only
        split
        · rename_i hc
          simp only [Bool.and_eq_true, decide_eq_true_eq] at hc
          apply PipelineWork.update
          intro k hk hid
          rw [of_decide_eq_true hid, hget] at hk
          cases hk
          exact ⟨not_isSync_of_pipeline hc.1.1, not_isSync_of_pipeline hc.1.1⟩
        · exact hR.refl db

theorem pipelineWork_enqueuePipeline (repo : SchedulerRepository) (job : Job) (now : Time) :
    Tx.Within PipelineWork (repo.enqueuePipelineForSucceededRun job now) := by
  have hR := PipelineWork.chains
  unfold SchedulerRepository.enqueuePipelineForSucceededRun
  split
  · exact Tx.Within.pure hR _
  · refine Tx.Within.bind hR (Tx.Within.read hR _) (fun run => ?_)
    cases run with
    | none => exact Tx.Within.pure hR _
    | some run =>
      dsimp only
      split
      · exact Tx.Within.pure hR _
      · exact pipelineWork_enqueueSucceededSync _ _ _ _ _

/-- A relation that the parts of a materialization are within. -/
structure CycleClosed (R : Db → Db → Prop) : Prop where
  chains : Tx.Chains R
  outside : ∀ {s t : Db}, Outside s t → R s t
  insert : ∀ id subscriptionId accountId platform scheduleRevision scheduledFor now retry,
    Tx.Within R (insertJob (SchedulerRepository.cycleJob id subscriptionId accountId platform
      scheduleRevision scheduledFor now retry))

namespace CycleClosed

variable {R : Db → Db → Prop} (hR : CycleClosed R) (repo : SchedulerRepository)

include hR

open SchedulerRepository

theorem within_outside {α : Type} {m : Session α} (h : Tx.Within Outside m) : Tx.Within R m :=
  Tx.Within.mono (fun _ _ => hR.outside) h

/-- The binding, the subscription and the new job row, in this order. -/
theorem materializeCycle (subscriptionId accountId : String) (platform : Platform)
    (scheduleRevision : Nat) (scheduledFor now : Time) (retry : RetryPolicy)
    (dueOnly resumeBlocked : Bool) :
    Tx.Within R (repo.materializeCycle subscriptionId accountId platform scheduleRevision
      scheduledFor now retry dueOnly resumeBlocked) := by
  have hc := hR.chains
  refine Tx.Within.bind hc (Tx.Within.read hc _) (fun subscription => ?_)
  cases subscription with
  | none => exact Tx.Within.pure hc _
  | some x =>
    dsimp only
    split
    · exact Tx.Within.pure hc _
    · refine Tx.Within.bind hc
        (hR.within_outside (outside_ensureForMaterialization _ _ _ _ _ _ _ _)) (fun bili => ?_)
      refine Tx.Within.bind hc
        (hR.within_outside (outside_ensureForMaterialization _ _ _ _ _ _ _ _)) (fun xhs => ?_)
      refine Tx.Within.bind hc
        (hR.within_outside (outside_ensureForMaterialization _ _ _ _ _ _ _ _)) (fun douyin => ?_)
      refine Tx.Within.bind hc (Tx.Within.require hc _ _) (fun _ => ?_)
      split
      · exact Tx.Within.pure hc _
      · refine Tx.Within.bind hc (hR.within_outside (outside_updateSubscription _ _ _))
          (fun claimed => ?_)
        cases claimed with
        | none => exact Tx.Within.pure hc _
        | some claimed =>
          refine Tx.Within.bind hc (hR.within_outside (outside_newUuid _)) (fun id => ?_)
          exact Tx.Within.bind hc (hR.insert _ _ _ _ _ _ _ _) (fun _ => Tx.Within.pure hc _)

theorem materializeCandidates (batchLimit : Nat) (now : Time) (retry : RetryPolicy)
    (candidates : List (Subscription × Account)) (done : List MaterializedCycle) :
    Tx.Within R (repo.materializeCandidates batchLimit now retry candidates done) := by
  induction candidates generalizing done with
  | nil => exact Tx.Within.pure hR.chains _
  | cons c rest ih =>
    unfold SchedulerRepository.materializeCandidates
    split
    · exact Tx.Within.pure hR.chains _
    · exact Tx.Within.bind hR.chains (hR.materializeCycle repo _ _ _ _ _ _ _ _ _)
        (fun _ => ih _)

theorem materializeDue (limit : Int) (now : Time) (retry : RetryPolicy) :
    Tx.Within R (repo.materializeDue limit now retry) := by
  refine Tx.Within.bind hR.chains (Tx.Within.ofExcept hR.chains _) (fun batchLimit => ?_)
  exact Tx.Within.bind hR.chains (Tx.Within.read hR.chains _)
    (fun candidates => hR.materializeCandidates repo _ _ _ _ _)

theorem materializeOne (subscriptionId : String) (revision : Int) (now : Time)
    (retry : RetryPolicy) :
    Tx.Within R (repo.materializeOne subscriptionId revision now retry) := by
  have hc := hR.chains
  refine Tx.Within.bind hc (Tx.Within.ofExcept hc _) (fun id => ?_)
  refine Tx.Within.bind hc (Tx.Within.ofExcept hc _) (fun revision => ?_)
  refine Tx.Within.bind hc (within_requireActive hc _) (fun subscription => ?_)
  refine Tx.Within.bind hc (Tx.Within.require hc _ _) (fun _ => ?_)
  refine Tx.Within.bind hc (Tx.Within.require hc _ _) (fun _ => ?_)
  refine Tx.Within.bind hc (Tx.Within.read hc _) (fun busy => ?_)
  refine Tx.Within.bind hc (Tx.Within.require hc _ _) (fun _ => ?_)
  refine Tx.Within.bind hc (Tx.Within.read hc _) (fun account => ?_)
  cases account with
  | none => exact Tx.Within.throw hc _
  | some account =>
    refine Tx.Within.bind hc (Tx.Within.read hc _) (fun active => ?_)
    match active with
    | [] =>
      refine Tx.Within.bind hc (hR.materializeCycle repo _ _ _ _ _ _ _ _ _) (fun cycle => ?_)
      cases cycle with
      | none => exact Tx.Within.throw hc _
      | some cycle => exact Tx.Within.pure hc _
    | [job] =>
      dsimp only
      split
      · exact Tx.Within.bind hc (Tx.Within.require hc _ _) (fun _ => Tx.Within.pure hc _)
      · exact Tx.Within.throw hc _
    | _ :: _ :: _ => exact Tx.Within.throw hc _

end CycleClosed

end MediaSync.Scheduler
