import MediaSync.Scheduler.ActRuns

/-!
# Cycles and their ends

A sync job keeps the cycle it was written for. An act moves the schedule of a
subscription only while it ends an active cycle of that subscription, and no act
moves a schedule revision.
-/

namespace MediaSync.Scheduler

open Python Transaction SchedulerError SchedulerRepository Relation

/-- A later row of the same cycle. -/
structure CycleKept (j k : Job) : Prop where
  id : k.id = j.id
  kind : k.isSync = j.isSync
  subscriptionId : k.subscriptionId = j.subscriptionId
  naturalKey : k.naturalKey = j.naturalKey
  payload : k.payload = j.payload
  maxAttempts : k.maxAttempts = j.maxAttempts
  final : j.status.isTerminal = true → k.status.isTerminal = true

theorem CycleKept.refl (j : Job) : CycleKept j j := ⟨rfl, rfl, rfl, rfl, rfl, rfl, fun h => h⟩

theorem CycleKept.trans {i j k : Job} (h : CycleKept i j) (h' : CycleKept j k) : CycleKept i k :=
  ⟨h'.id.trans h.id, h'.kind.trans h.kind, h'.subscriptionId.trans h.subscriptionId,
    h'.naturalKey.trans h.naturalKey, h'.payload.trans h.payload,
    h'.maxAttempts.trans h.maxAttempts, fun hi => h'.final (h.final hi)⟩

theorem CycleKept.parse {j k : Job} (h : CycleKept j k) : parsePayload k = parsePayload j :=
  parsePayload_congr h.payload h.subscriptionId h.naturalKey h.maxAttempts

theorem CycleKept.active {j k : Job} (h : CycleKept j k) (hk : k.status.isTerminal = false) :
    j.status.isTerminal = false := by
  cases hj : j.status.isTerminal with
  | false => rfl
  | true =>
    rw [h.final hj] at hk
    cases hk

theorem SyncRow.eq_of_id {s : Db} {j k : Job} (hj : SyncRow s j) (hk : SyncRow s k)
    (h : j.id = k.id) : j = k := by
  have hrow := hj.row
  rw [h, hk.row] at hrow
  cases hrow
  rfl

/-- The sync jobs of two states are the same cycles. -/
structure SameCycles (s t : Db) : Prop where
  kept : ∀ j, SyncRow s j → ∃ k, SyncRow t k ∧ CycleKept j k
  known : ∀ k, SyncRow t k → ∃ j, SyncRow s j ∧ CycleKept j k

theorem SameCycles.chains : Tx.Chains SameCycles where
  refl _ := ⟨fun j hj => ⟨j, hj, .refl j⟩, fun k hk => ⟨k, hk, .refl k⟩⟩
  trans _ _ _ h h' :=
    { kept := fun i hi => by
        obtain ⟨j, hj, hij⟩ := h.kept i hi
        obtain ⟨k, hk, hjk⟩ := h'.kept j hj
        exact ⟨k, hk, hij.trans hjk⟩
      known := fun k hk => by
        obtain ⟨j, hj, hjk⟩ := h'.known k hk
        obtain ⟨i, hi, hij⟩ := h.known j hj
        exact ⟨i, hi, hij.trans hjk⟩ }

/-- A cycle of the subscription was active and has ended. -/
def CycleEnded (s t : Db) (subscriptionId : String) : Prop :=
  ∃ j k, SyncRow s j ∧ SyncRow t k ∧ k.id = j.id ∧ j.subscriptionId = some subscriptionId ∧
    j.status.isTerminal = false ∧ k.status.isTerminal = true

theorem CycleEnded.before {s t u : Db} {id : String} (h : SameCycles s t)
    (he : CycleEnded t u id) : CycleEnded s u id := by
  obtain ⟨j, k, hj, hk, hid, hsub, hactive, hended⟩ := he
  obtain ⟨i, hi, hij⟩ := h.known j hj
  exact ⟨i, k, hi, hk, hid.trans hij.id, hij.subscriptionId ▸ hsub, hij.active hactive, hended⟩

theorem CycleEnded.after {s t u : Db} {id : String} (he : CycleEnded s t id)
    (h : SameCycles t u) : CycleEnded s u id := by
  obtain ⟨j, k, hj, hk, hid, hsub, hactive, hended⟩ := he
  obtain ⟨l, hl, hkl⟩ := h.kept k hk
  exact ⟨j, l, hj, hl, hkl.id.trans hid, hsub, hactive, hkl.final hended⟩

theorem SameSchedule.refl (a : Subscription) : SameSchedule a a := ⟨rfl, rfl, rfl, rfl⟩

theorem SameSchedule.trans {a b c : Subscription} (h : SameSchedule a b) (k : SameSchedule b c) :
    SameSchedule a c :=
  ⟨k.nextRunAt.trans h.nextRunAt, k.lastRunAt.trans h.lastRunAt,
    k.lastSuccessAt.trans h.lastSuccessAt, k.consecutiveFailures.trans h.consecutiveFailures⟩

/-- The schedule revision and the schedule stay. -/
def SameCadence (a b : Subscription) : Prop :=
  b.scheduleRevision = a.scheduleRevision ∧ SameSchedule a b

theorem SameCadence.refl (a : Subscription) : SameCadence a a := ⟨rfl, .refl a⟩

theorem SameCadence.trans {a b c : Subscription} (h : SameCadence a b) (k : SameCadence b c) :
    SameCadence a c :=
  ⟨k.1.trans h.1, h.2.trans k.2⟩

/-- Neither a sync job nor a schedule is written. -/
structure Quiet (s t : Db) : Prop where
  jobs : ∀ j, SyncRow t j ↔ SyncRow s j
  subscriptions : ∀ id, Option.Rel SameCadence (s.subscriptions.get? id) (t.subscriptions.get? id)

theorem Quiet.chains : Tx.Chains Quiet where
  refl _ := ⟨fun _ => Iff.rfl, fun _ => rel_refl .refl _⟩
  trans _ _ _ h k := ⟨fun j => (k.jobs j).trans (h.jobs j),
    fun id => rel_trans (fun _ _ _ hxy hyz => hxy.trans hyz) (h.subscriptions id)
      (k.subscriptions id)⟩

/-- A part between whose ends the schedule of one subscription may have moved. -/
structure Closes (subscriptionId : Option String) (s t : Db) : Prop where
  jobs : t.jobs = s.jobs
  subscriptions : ∀ id, Option.Rel
    (fun x y => y.scheduleRevision = x.scheduleRevision ∧
      (SameSchedule x y ∨ subscriptionId = some id))
    (s.subscriptions.get? id) (t.subscriptions.get? id)

theorem Closes.chains (subscriptionId : Option String) : Tx.Chains (Closes subscriptionId) where
  refl _ := ⟨rfl, fun _ => rel_refl (fun x => ⟨rfl, .inl (.refl x)⟩) _⟩
  trans _ _ _ h k := ⟨k.jobs.trans h.jobs, fun id => by
    refine rel_trans (fun x y z hxy hyz => ⟨hyz.1.trans hxy.1, ?_⟩) (h.subscriptions id)
      (k.subscriptions id)
    rcases hxy.2 with hxy' | hid
    · exact hyz.2.imp_left (fun hyz' => hxy'.trans hyz')
    · exact .inr hid⟩

/-- The cycles stay, and a schedule moves only with the end of one. -/
structure Settles (s t : Db) : Prop where
  cycles : SameCycles s t
  subscriptions : ∀ id, Option.Rel
    (fun x y => y.scheduleRevision = x.scheduleRevision ∧
      (SameSchedule x y ∨ CycleEnded s t id))
    (s.subscriptions.get? id) (t.subscriptions.get? id)

theorem Settles.chains : Tx.Chains Settles where
  refl s := ⟨SameCycles.chains.refl s, fun _ => rel_refl (fun x => ⟨rfl, .inl (.refl x)⟩) _⟩
  trans s t u h k := ⟨SameCycles.chains.trans _ _ _ h.cycles k.cycles, fun id => by
    refine rel_trans (fun x y z hxy hyz => ⟨hyz.1.trans hxy.1, ?_⟩) (h.subscriptions id)
      (k.subscriptions id)
    rcases hxy.2, hyz.2 with ⟨hxy' | hended, hyz' | hended'⟩
    · exact .inl (hxy'.trans hyz')
    · exact .inr (hended'.before h.cycles)
    · exact .inr (hended.after k.cycles)
    · exact .inr (hended.after k.cycles)⟩

theorem Quiet.settles {s t : Db} (h : Quiet s t) : Settles s t where
  cycles :=
    { kept := fun j hj => ⟨j, (h.jobs j).2 hj, .refl j⟩
      known := fun k hk => ⟨k, (h.jobs k).1 hk, .refl k⟩ }
  subscriptions id := rel_mono (fun _ _ hxy => ⟨hxy.1, .inl hxy.2⟩) (h.subscriptions id)

/-- After the end of a cycle its subscription's schedule may move. -/
theorem Settles.closes {s t u : Db} {subscriptionId : Option String} (h : Settles s t)
    (hended : ∀ id, subscriptionId = some id → CycleEnded s t id)
    (k : Closes subscriptionId t u) : Settles s u := by
  have hsame : SameCycles t u :=
    { kept := fun j hj => ⟨j, ⟨by rw [k.jobs]; exact hj.row, hj.isSync⟩, .refl j⟩
      known := fun j hj => ⟨j, ⟨by rw [← k.jobs]; exact hj.row, hj.isSync⟩, .refl j⟩ }
  refine ⟨SameCycles.chains.trans _ _ _ h.cycles hsame, fun id => ?_⟩
  refine rel_trans (fun x y z hxy hyz => ⟨hyz.1.trans hxy.1, ?_⟩) (h.subscriptions id)
    (k.subscriptions id)
  rcases hxy.2, hyz.2 with ⟨hxy' | hended', hyz' | hid⟩
  · exact .inl (hxy'.trans hyz')
  · exact .inr ((hended id hid).after hsame)
  · exact .inr (hended'.after hsame)
  · exact .inr (hended'.after hsame)

/-! ## The parts of an act -/

theorem LaneWork.quiet {s t : Db} (h : LaneWork s t) : Quiet s t where
  jobs j := by
    constructor
    · intro hj
      exact ⟨by rw [← h.jobs]; exact hj.row, hj.isSync⟩
    · intro hj
      exact ⟨by rw [h.jobs]; exact hj.row, hj.isSync⟩
  subscriptions id := by
    rw [h.subscriptions]
    exact rel_refl .refl _

theorem PipelineWork.quiet {s t : Db} (h : PipelineWork s t) : Quiet s t where
  jobs j := by
    constructor
    · intro hj
      exact ⟨(h.syncJobs _ _ hj.isSync).1 hj.row, hj.isSync⟩
    · intro hj
      exact ⟨(h.syncJobs _ _ hj.isSync).2 hj.row, hj.isSync⟩
  subscriptions id := by
    rw [h.subscriptions]
    exact rel_refl .refl _

theorem quiet_setSubscription {s : Db} {id : String} {values : Subscription → Subscription}
    (h : ∀ x, SameCadence x (values x)) : Quiet s (s.setSubscription id values) where
  jobs _ := ⟨fun h => ⟨h.row, h.isSync⟩, fun h => ⟨h.row, h.isSync⟩⟩
  subscriptions k := by
    rw [Db.get?_setSubscription]
    split
    · cases s.subscriptions.get? k with
      | none => exact .none
      | some x =>
        obtain ⟨h₁, h₂, h₃, h₄, h₅⟩ := h x
        exact .some ⟨h₁, h₂, h₃, h₄, h₅⟩
    · exact rel_refl .refl _

theorem quiet_of_eq {s t : Db} (hj : t.jobs = s.jobs) (hs : t.subscriptions = s.subscriptions) :
    Quiet s t where
  jobs j := by
    constructor
    · intro h
      exact ⟨by rw [← hj]; exact h.row, h.isSync⟩
    · intro h
      exact ⟨by rw [hj]; exact h.row, h.isSync⟩
  subscriptions id := by
    rw [hs]
    exact rel_refl .refl _

theorem quiet_newUuid (uuid : Nat → String) : Tx.Within Quiet (newUuid uuid) :=
  Tx.Within.modifyGet (fun _ => quiet_of_eq rfl rfl)

section Repository

variable (repo : SchedulerRepository)

theorem quiet_cancelAttachedRun (job : Job) (now : Time) (errorCode : String) :
    Tx.Within Quiet (cancelAttachedRun job now errorCode) := by
  have hR := Quiet.chains
  unfold cancelAttachedRun
  cases job.runId with
  | none => exact Tx.Within.pure hR _
  | some runId =>
    refine Tx.Within.bind hR (Tx.Within.read hR _) (fun run => ?_)
    cases run with
    | none => exact Tx.Within.throw hR _
    | some run =>
      refine Tx.Within.bind hR (Tx.Within.require hR _ _) (fun _ => ?_)
      split
      · exact Tx.Within.pure hR _
      · refine Tx.Within.bind hR (Tx.Within.require hR _ _) (fun _ => ?_)
        refine Tx.Within.bind hR (Tx.Within.read hR _) (fun _ => ?_)
        refine Tx.Within.bind hR (Tx.Within.require hR _ _) (fun _ => ?_)
        exact Tx.Within.modify (fun db => quiet_of_eq rfl rfl)

theorem quiet_ensureForMaterialization (codec : DeliveryCodec) (uuid : Nat → String)
    (contract : Contract) (subscriptionId : String) (upstreamSha : Option String)
    (scheduleRevision : Nat) (now : Time) (resumeBlocked : Bool) :
    Tx.Within Quiet (ensureForMaterialization codec uuid contract subscriptionId upstreamSha
      scheduleRevision now resumeBlocked) := by
  have hR := Quiet.chains
  refine Tx.Within.bind hR (Tx.Within.read hR _) (fun s => ?_)
  refine Tx.Within.bind hR (within_require? hR _ _) (fun s => ?_)
  refine Tx.Within.bind hR (within_bindingForSubscription hR _ _ _ _) (fun binding => ?_)
  cases binding with
  | none => exact Tx.Within.pure hR _
  | some binding =>
    refine Tx.Within.bind hR (Tx.Within.read hR _) (fun row => ?_)
    cases row with
    | none =>
      refine Tx.Within.bind hR (quiet_newUuid uuid) (fun generationId => ?_)
      intro db
      dsimp only
      split
      · exact quiet_of_eq rfl rfl
      · exact hR.refl db
    | some row =>
      dsimp only
      split
      · split
        · refine Tx.Within.bind hR (Tx.Within.modify (fun db => ?_)) (fun _ => ?_)
          · exact quiet_of_eq rfl rfl
          · exact Tx.Within.read hR _
        · exact Tx.Within.pure hR _
      · refine Tx.Within.bind hR (quiet_newUuid uuid) (fun generationId => ?_)
        refine Tx.Within.bind hR (Tx.Within.modify (fun db => ?_)) (fun _ => ?_)
        · exact quiet_setSubscription (fun _ => ⟨rfl, rfl, rfl, rfl, rfl⟩)
        · refine Tx.Within.bind hR (Tx.Within.modify (fun db => ?_)) (fun _ => ?_)
          · exact quiet_of_eq rfl rfl
          · exact Tx.Within.read hR _

theorem closes_setSubscription {s : Db} {id : String} {values : Subscription → Subscription}
    (h : ∀ x, (values x).scheduleRevision = x.scheduleRevision) :
    Closes (some id) s (s.setSubscription id values) where
  jobs := rfl
  subscriptions k := by
    rw [Db.get?_setSubscription]
    split
    · rename_i hk
      cases s.subscriptions.get? k with
      | none => exact .none
      | some x => exact .some ⟨h x, .inr (by rw [hk])⟩
    · exact rel_refl (fun x => ⟨rfl, .inl (.refl x)⟩) _

theorem cyclePayload_scope {job : Job} {requirePayload : Bool} {s t : Db}
    {payload : Option Payload} (h : cyclePayload job requirePayload s = (.ok payload, t)) :
    ((payload.map Payload.subscriptionId) <|> job.subscriptionId) = job.subscriptionId := by
  unfold cyclePayload at h
  cases hp : parsePayload job with
  | ok p =>
    rw [hp] at h
    cases h
    rw [parsePayload_subscription hp]
    rfl
  | error e =>
    rw [hp] at h
    cases requirePayload with
    | true => cases h
    | false =>
      cases h
      rfl

/-- The end of a cycle moves the schedule of the job's own subscription only. -/
theorem closes_finalizeSubscription (job : Job) (now : Time) (outcome : Outcome)
    (requirePayload : Bool) :
    Tx.Within (Closes job.subscriptionId)
      (finalizeSubscription repo job now outcome requirePayload) := by
  have hR := Closes.chains job.subscriptionId
  intro s
  unfold finalizeSubscription
  refine Tx.Within.bind_at hR (within_cyclePayload hR _ _) (fun payload t hpayload => ?_)
  rw [cyclePayload_scope hpayload]
  cases hscope : job.subscriptionId with
  | none => exact (Closes.chains none).refl t
  | some subscriptionId =>
    have hR := Closes.chains (some subscriptionId)
    refine Tx.Within.bind hR (Tx.Within.read hR _) (fun subscription => ?_) t
    cases subscription with
    | none => exact Tx.Within.pure hR _
    | some subscription =>
      refine Tx.Within.bind hR (within_nextRunAt repo hR _ _ _ _ _) (fun next => ?_)
      cases next with
      | none =>
        dsimp only
        split
        · exact Tx.Within.throw hR _
        · exact Tx.Within.modify (fun db => closes_setSubscription (fun _ => rfl))
      | some next =>
        refine Tx.Within.bind hR ?_ (fun _ => Tx.Within.pure hR _)
        intro db
        rcases hrun : updateSubscription subscriptionId _ _ db with ⟨r, u⟩
        cases r with
        | error e =>
          unfold updateSubscription at hrun
          cases hrun
        | ok r =>
          rcases updateSubscription_ok hrun with ⟨_, rfl⟩ | ⟨x, _, _, _, rfl⟩
          · exact hR.refl u
          · exact closes_setSubscription (fun _ => rfl)

theorem closes_finalizeConflict (job : Job) (now : Time) :
    Tx.Within (Closes job.subscriptionId) (finalizeConflict repo job now) := by
  unfold finalizeConflict
  split
  · exact closes_finalizeSubscription repo _ _ _ _
  · exact Tx.Within.pure (Closes.chains _) _

end Repository

/-! ## Acts -/

section Acts

theorem SyncRow.transport {s t : Db} (h : t.jobs = s.jobs) {j : Job} (hj : SyncRow s j) :
    SyncRow t j :=
  ⟨by rw [h]; exact hj.row, hj.isSync⟩

/-- A bulk update that keeps every sync job's cycle. -/
theorem settles_update {s : Db} {p : Job → Bool} {f : Job → Job}
    (keeps : ∀ j, (f j).id = j.id)
    (h : ∀ j, s.jobs.get? j.id = some j → p j = true →
      (f j).isSync = j.isSync ∧ (j.isSync = true → CycleKept j (f j))) :
    Settles s { s with jobs := s.jobs.update p f keeps } where
  cycles :=
    { kept := fun j hj => by
        refine ⟨if p j then f j else j, ⟨?_, ?_⟩, ?_⟩
        · have hid : (if p j then f j else j).id = j.id := by split <;> simp [keeps]
          show (s.jobs.update p f keeps).get? _ = _
          rw [Table.get?_update, hid, hj.row, Option.map_some]
        · split
          · rename_i hp
            rw [(h j hj.row hp).1]
            exact hj.isSync
          · exact hj.isSync
        · split
          · rename_i hp
            exact (h j hj.row hp).2 hj.isSync
          · exact .refl j
      known := fun k hk => by
        have hrow : (s.jobs.update p f keeps).get? k.id = some k := hk.row
        rw [Table.get?_update] at hrow
        obtain ⟨j, hj, rfl⟩ := Option.map_eq_some_iff.1 hrow
        have hsync := hk.isSync
        have hid : j.id = (if p j then f j else j).id := by split <;> simp [keeps]
        rw [← hid] at hj
        refine ⟨j, ⟨hj, ?_⟩, ?_⟩
        · split at hsync
          · rename_i hp
            rw [← (h j hj hp).1]
            exact hsync
          · exact hsync
        · split at hsync
          · rename_i hp
            rw [if_pos hp]
            exact (h j hj hp).2 ((h j hj hp).1 ▸ hsync)
          · rename_i hp
            rw [if_neg hp]
            exact .refl j }
  subscriptions _ := rel_refl (fun x => ⟨rfl, .inl (.refl x)⟩) _

theorem SyncRow.updated {s : Db} {j : Job} {values : Job → Job} (hrow : SyncRow s j)
    (hid : (values j).id = j.id) (hsync : (values j).isSync = j.isSync) :
    SyncRow (s.setJob j.id values) (values j) where
  row := by
    have hj : { values j with id := j.id } = values j := by rw [← hid]
    rw [Db.get?_setJob, if_pos hid, hid, hrow.row, Option.map_some, hj]
  isSync := hsync.trans hrow.isSync

/-- The update of one row. -/
theorem settles_setJob {s : Db} {j : Job} {values : Job → Job} (hrow : SyncRow s j)
    (h : CycleKept j (values j)) : Settles s (s.setJob j.id values) := by
  refine settles_update _ (fun i hi hp => ?_)
  obtain rfl : i = j := by
    have hget := hrow.row
    rw [← of_decide_eq_true hp, hi] at hget
    cases hget
    rfl
  have hj : { values i with id := i.id } = values i := by rw [← h.id]
  rw [hj]
  exact ⟨h.kind, fun _ => h⟩

/-- The update of one row and the quiet work that follows it. -/
theorem settles_row {s t : Db} {j : Job} {values : Job → Job} (hrow : SyncRow s j)
    (h : CycleKept j (values j)) (ht : Quiet (s.setJob j.id values) t) : Settles s t :=
  Settles.chains.trans _ _ _ (settles_setJob hrow h) ht.settles

/-- The end of a cycle: its row, quiet work, and what it closes. -/
theorem settles_end {s t u : Db} {j : Job} {values : Job → Job} (hrow : SyncRow s j)
    (hactive : j.status.isTerminal = false) (h : CycleKept j (values j))
    (hended : (values j).status.isTerminal = true) (ht : Quiet (s.setJob j.id values) t)
    (hu : Closes (values j).subscriptionId t u) : Settles s u := by
  refine (settles_row hrow h ht).closes (fun id hid => ?_) hu
  exact ⟨j, values j, hrow, (ht.jobs _).2 (hrow.updated h.id h.kind), h.id,
    h.subscriptionId.symm.trans hid, hactive, hended⟩

theorem cycleKept_of_active {j k : Job} (hactive : j.status.isTerminal = false) (hid : k.id = j.id)
    (hkind : k.isSync = j.isSync) (hsub : k.subscriptionId = j.subscriptionId)
    (hkey : k.naturalKey = j.naturalKey) (hpayload : k.payload = j.payload)
    (hmax : k.maxAttempts = j.maxAttempts) : CycleKept j k :=
  ⟨hid, hkind, hsub, hkey, hpayload, hmax, fun h => by
    rw [hactive] at h
    cases h⟩

theorem Act.settles {repo : SchedulerRepository} {s t : Db} (h : Act repo s t) :
    Settles s t := by
  have hR := Quiet.chains
  cases h with
  | lanes hrun => exact ((LaneWork.closed.jobLanes _ _ _).ends hrun).quiet.settles
  | drew => exact Quiet.settles (quiet_of_eq rfl rfl)
  | settled hrow hactive _ _ _ hlanes hfinal hpipeline =>
    refine Settles.chains.trans _ _ _ ?_
      ((pipelineWork_enqueuePipeline _ _ _).ends hpipeline).quiet.settles
    exact settles_end hrow hactive
      (cycleKept_of_active hactive rfl rfl rfl rfl rfl rfl) rfl
      ((LaneWork.closed.applyLaneSuccess _ _ _ _).ends hlanes).quiet
      ((closes_finalizeSubscription repo _ _ _ _).ends hfinal)
  | @conflict u t j finishedAt now _ _ hrow hactive _ hlanes hends =>
    have hkept : CycleKept j (conflictValues finishedAt now j) :=
      cycleKept_of_active hactive rfl rfl rfl rfl rfl rfl
    have hquiet := ((LaneWork.closed.applyLaneFailure _ _ _ _ _).ends hlanes).quiet
    rcases hends with rfl | ⟨r, hfinal⟩
    · exact settles_row hrow hkept hquiet
    · exact settles_end hrow hactive hkept rfl hquiet
        ((closes_finalizeConflict repo _ _).ends hfinal)
  | @expired u v t j now hrow hactive _ _ hrun hlanes hfinal =>
    have hactive := JobStatus.not_isTerminal_of_isActiveWork hactive
    have hkept : CycleKept j (expiredValues now j) :=
      cycleKept_of_active hactive rfl rfl rfl rfl rfl rfl
    have hquiet := hR.trans _ _ _ ((quiet_cancelAttachedRun _ _ _).ends hrun)
      ((LaneWork.closed.applyLaneFailure _ _ _ _ _).ends hlanes).quiet
    split at hfinal
    · rename_i hout
      exact settles_end hrow hactive hkept
        (by simp [expiredValues, hout, JobStatus.isTerminal]) hquiet
        ((closes_finalizeSubscription repo _ _ _ _).ends hfinal)
    · rw [hfinal]
      exact settles_row hrow hkept hquiet
  | requeued keeps hp =>
    refine settles_update keeps (fun j _ hj => ⟨rfl, fun _ => ?_⟩)
    refine cycleKept_of_active ?_ rfl rfl rfl rfl rfl rfl
    have hrequeue := (hp j hj).2
    cases hstatus : j.status <;> rw [hstatus] at hrequeue <;> first | rfl | cases hrequeue
  | invalid hrow hqueued hfinal =>
    have hactive := congrArg JobStatus.isTerminal hqueued
    exact settles_end hrow hactive (cycleKept_of_active hactive rfl rfl rfl rfl rfl rfl) rfl
      (hR.refl _) ((closes_finalizeSubscription repo _ _ _ _).ends hfinal)
  | started hrow hclaimed =>
    exact settles_setJob hrow (cycleKept_of_active (congrArg JobStatus.isTerminal hclaimed)
      rfl rfl rfl rfl rfl rfl)
  | renewed hrow hrunning =>
    exact settles_setJob hrow (cycleKept_of_active (congrArg JobStatus.isTerminal hrunning)
      rfl rfl rfl rfl rfl rfl)
  | guarded hrow => exact settles_setJob hrow (.refl _)
  | attached hrow hrunning =>
    exact settles_setJob hrow (cycleKept_of_active (congrArg JobStatus.isTerminal hrunning)
      rfl rfl rfl rfl rfl rfl)
  | completed hrow hrunning hlanes hfinal hpipeline =>
    have hactive := congrArg JobStatus.isTerminal hrunning
    refine Settles.chains.trans _ _ _ ?_
      ((pipelineWork_enqueuePipeline _ _ _).ends hpipeline).quiet.settles
    exact settles_end hrow hactive (cycleKept_of_active hactive rfl rfl rfl rfl rfl rfl) rfl
      ((LaneWork.closed.applyLaneSuccess _ _ _ _).ends hlanes).quiet
      ((closes_finalizeSubscription repo _ _ _ _).ends hfinal)
  | @failed u t j retry affectsCircuit retryAt code runId now hrow hactive _ hlanes hfinal =>
    have hactive := JobStatus.not_isTerminal_of_isActiveWork hactive
    have hkept : CycleKept j (failedValues retry retryAt code runId now j) :=
      cycleKept_of_active hactive rfl rfl rfl rfl rfl rfl
    have hquiet := ((LaneWork.closed.applyLaneFailure _ _ _ _ _).ends hlanes).quiet
    unfold finalizeFailed at hfinal
    split at hfinal
    · rename_i hstatus
      exact settles_end hrow hactive hkept (congrArg JobStatus.isTerminal hstatus) hquiet
        ((closes_finalizeSubscription repo _ _ _ _).ends hfinal)
    · cases hfinal
      exact settles_row hrow hkept hquiet
  | waiting hrow hactive _ hlanes =>
    have hactive := JobStatus.not_isTerminal_of_isActiveWork hactive
    exact settles_row hrow (cycleKept_of_active hactive rfl rfl rfl rfl rfl rfl)
      ((LaneWork.closed.applyLaneFailure _ _ _ _ _).ends hlanes).quiet
  | @resumed t j now hrow hwaiting hlanes =>
    have hactive : j.status.isTerminal = false := by
      cases hstatus : j.status <;> rw [hstatus] at hwaiting <;> first | rfl | cases hwaiting
    exact settles_row hrow (cycleKept_of_active hactive rfl rfl rfl rfl rfl rfl)
      ((LaneWork.closed.releaseLaneProbe _ _ _ _ _).ends hlanes).quiet
  | cancelled hrow hactive _ hrun hlanes hfinal =>
    exact settles_end hrow hactive (cycleKept_of_active hactive rfl rfl rfl rfl rfl rfl) rfl
      (hR.trans _ _ _ ((quiet_cancelAttachedRun _ _ _).ends hrun)
        ((LaneWork.closed.releaseLaneProbe _ _ _ _ _).ends hlanes).quiet)
      ((closes_finalizeSubscription repo _ _ _ _).ends hfinal)
  | withdrawn hrow hcancellable _ hlanes =>
    exact settles_row hrow (cycleKept_of_active (isCancellable_active hcancellable)
      rfl rfl rfl rfl rfl rfl) ((LaneWork.closed.releaseLaneProbe _ _ _ _ _).ends hlanes).quiet
  | coordinators keeps =>
    refine settles_update keeps (fun j _ hj => ⟨rfl, fun hsync => ?_⟩)
    simp only [isPendingCoordinator, Bool.and_eq_true, decide_eq_true_eq] at hj
    rw [not_isSync_of_pipeline hj.1.2] at hsync
    cases hsync
  | subscription hvalues => exact (quiet_setSubscription hvalues).settles
  | lanePolicy hrun => exact ((LaneWork.closed.updateLane _ _ _ _).ends hrun).quiet.settles
  | laneReset hrun => exact ((LaneWork.closed.resetLane _ _ _).ends hrun).quiet.settles

theorem Acts.settles {repo : SchedulerRepository} {s t : Db} (h : Acts repo s t) :
    Settles s t :=
  h.within Settles.chains (fun _ _ => Act.settles)

theorem Grant.settles {repo : SchedulerRepository} {owner : String} {lease : Nat} {now : Time}
    {s t : Db} {claim : SchedulerClaim} (h : Grant repo owner lease now s t claim) :
    Settles s t := by
  obtain ⟨j, lanes, u, k, v, hrow, hlanes, _, hclaim, hreserve, _⟩ := h.written
  have hR := Settles.chains
  have hfound := ((LaneWork.closed.jobLanes _ _ _).ends hlanes).quiet
  have hreserved : LaneWork v t := (Tx.Within.forEach LaneWork.chains lanes
    (fun laneId _ => laneWork_reserveLane laneId k.id now)).ends hreserve
  refine hR.trans _ _ _ hfound.settles (hR.trans _ _ _ ?_ hreserved.quiet.settles)
  obtain ⟨token, w, htoken, hclaim⟩ := Tx.run_bind_ok hclaim
  obtain ⟨expiresAt, _, hclaim⟩ := Tx.run_bind_ofExcept hclaim
  obtain ⟨i, hget, hc, _, rfl⟩ := updateJob_some hclaim
  simp only [Bool.and_eq_true, decide_eq_true_eq] at hc
  have hdrew := (quiet_newUuid _).ends htoken
  obtain ⟨hid, hrow'⟩ := SyncRow.of_get? hget hc.1.1.1.1
  rw [← hid]
  refine hR.trans _ _ _ hdrew.settles (settles_setJob hrow' ?_)
  exact cycleKept_of_active (congrArg JobStatus.isTerminal hc.1.1.1.2) rfl rfl rfl rfl rfl rfl

theorem ClaimActs.settles {repo : SchedulerRepository} {args : ClaimArguments} {s t : Db}
    {r : Option SchedulerClaim} (h : ClaimActs repo args s t r) : Settles s t := by
  cases r with
  | none => exact Acts.settles h
  | some claim =>
    obtain ⟨_, _, _, m, n, _, _, hm, _, hn, hgrant⟩ := h
    exact Settles.chains.trans _ _ _ (Acts.settles (hm.trans hn)) hgrant.settles

end Acts

end MediaSync.Scheduler
