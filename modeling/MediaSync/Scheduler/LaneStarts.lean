import MediaSync.Scheduler.CycleFence
import MediaSync.Scheduler.ProbeClaim

/-!
# What starts no job

Only the last writes of a claim bring a job under a lease. Everything else
leaves every lane where it is, with its start time, and starts nothing.
-/

namespace MediaSync.Scheduler

open Python Transaction Transition SchedulerError SchedulerRepository Relation

/-- No two lanes have the same scope. -/
def SlotsUnique (db : Db) : Prop :=
  ∀ l ∈ db.lanes.rows, ∀ m ∈ db.lanes.rows, l.sameSlot m = true → l = m

/-- Every lane is still there, with its slot and its start time. -/
structure LanesKept (s t : Db) : Prop where
  kept : ∀ id l, s.lanes.get? id = some l → ∃ m, t.lanes.get? id = some m ∧ SameStart l m
  slots : SlotsUnique s → SlotsUnique t

/-- A row of the same job, in the same lanes. -/
structure SameWork (j k : Job) : Prop where
  id : k.id = j.id
  platform : k.platform = j.platform
  accountId : k.accountId = j.accountId

theorem SameWork.refl (j : Job) : SameWork j j := ⟨rfl, rfl, rfl⟩

theorem SameWork.trans {i j k : Job} (h : SameWork i j) (h' : SameWork j k) : SameWork i k :=
  ⟨h'.id.trans h.id, h'.platform.trans h.platform, h'.accountId.trans h.accountId⟩

theorem SameWork.counts {j k : Job} (h : SameWork j k) (l : SchedulerLane) :
    l.counts k = l.counts j :=
  SchedulerLane.counts_congr h.platform h.accountId

/-- No job comes under a lease. -/
structure NoStart (s t : Db) : Prop where
  lanes : LanesKept s t
  active : ∀ k, SyncRow t k → k.isActiveWork = true →
    ∃ j, SyncRow s j ∧ j.isActiveWork = true ∧ SameWork j k

theorem LanesKept.chains : Tx.Chains LanesKept where
  refl _ := ⟨fun _ l hl => ⟨l, hl, .refl l⟩, fun h => h⟩
  trans _ _ _ h h' :=
    { kept := fun id l hl => by
        obtain ⟨m, hm, hlm⟩ := h.kept id l hl
        obtain ⟨n, hn, hmn⟩ := h'.kept id m hm
        exact ⟨n, hn, hlm.trans hmn⟩
      slots := fun hs => h'.slots (h.slots hs) }

theorem LanesKept.of_eq {s t : Db} (h : t.lanes = s.lanes) : LanesKept s t where
  kept _ l hl := ⟨l, by rw [h]; exact hl, .refl l⟩
  slots hs := by
    unfold SlotsUnique
    rw [h]
    exact hs

theorem NoStart.chains : Tx.Chains NoStart where
  refl s := ⟨LanesKept.chains.refl s, fun k hk hactive => ⟨k, hk, hactive, .refl k⟩⟩
  trans _ _ _ h h' := ⟨LanesKept.chains.trans _ _ _ h.lanes h'.lanes, fun k hk hactive => by
    obtain ⟨j, hj, hjactive, hjk⟩ := h'.active k hk hactive
    obtain ⟨i, hi, hiactive, hij⟩ := h.active j hj hjactive
    exact ⟨i, hi, hiactive, hij.trans hjk⟩⟩

theorem NoStart.of_jobs_eq {s t : Db} (hlanes : LanesKept s t) (hjobs : t.jobs = s.jobs) :
    NoStart s t :=
  ⟨hlanes, fun k hk hactive => ⟨k, hk.transport hjobs.symm, hactive, .refl k⟩⟩

theorem Outside.noStart {s t : Db} (h : Outside s t) : NoStart s t :=
  .of_jobs_eq (.of_eq h.lanes) h.jobs

theorem PipelineWork.noStart {s t : Db} (h : PipelineWork s t) : NoStart s t :=
  ⟨.of_eq h.lanes, fun k hk hactive =>
    ⟨k, ⟨(h.syncJobs _ _ hk.isSync).1 hk.row, hk.isSync⟩, hactive, .refl k⟩⟩

theorem slotsUnique_setLane {s : Db} {id : String} {values : SchedulerLane → SchedulerLane}
    (hvalues : ∀ l : SchedulerLane, l.SameSlotColumns (values l)) (hs : SlotsUnique s) :
    SlotsUnique (s.setLane id values) := by
  intro l hl m hm hsame
  obtain ⟨l', hl', rfl⟩ := Db.mem_setLane.mp hl
  obtain ⟨m', hm', rfl⟩ := Db.mem_setLane.mp hm
  have hcolumns : ∀ n : SchedulerLane,
      n.SameSlotColumns (if n.id = id then { values n with id := n.id } else n) := by
    intro n
    split
    · exact ⟨rfl, (hvalues n).scopeType, (hvalues n).platform, (hvalues n).accountId⟩
    · exact ⟨rfl, rfl, rfl, rfl⟩
  rw [(hcolumns l').sameSlot (hcolumns m')] at hsame
  rw [hs l' hl' m' hm' hsame]

theorem lanesKept_insertLane (s : Db) (lane : SchedulerLane) :
    LanesKept s (insertLaneIfAbsent lane s).2 := by
  unfold insertLaneIfAbsent
  simp only [Tx.run_modify]
  split
  · exact LanesKept.chains.refl s
  · rename_i hslot
    split
    · rename_i lanes hins
      simp only [List.any_eq_true, not_exists, not_and, Bool.not_eq_true] at hslot
      constructor
      · intro id l hl
        refine ⟨l, ?_, .refl l⟩
        show lanes.get? id = some l
        rw [Table.get?_insert? hins, if_neg, hl]
        rintro rfl
        rw [Table.insert?_fresh hins] at hl
        cases hl
      · intro hs l hl m hm hsame
        rcases (Table.mem_insert? hins).mp hl with hl | rfl
        · rcases (Table.mem_insert? hins).mp hm with hm | rfl
          · exact hs l hl m hm hsame
          · rw [hslot l hl] at hsame
            cases hsame
        · rcases (Table.mem_insert? hins).mp hm with hm | rfl
          · rw [sameSlot_comm, hslot m hm] at hsame
            cases hsame
          · rfl
    · exact LanesKept.chains.refl s

theorem lanesKept_updateLaneRow {id : String} {conditions : SchedulerLane → Bool}
    {values : SchedulerLane → SchedulerLane} (h : ∀ l, SameStart l (values l)) :
    Tx.Within LanesKept (updateLaneRow id conditions values) := by
  intro s
  rcases hrun : updateLaneRow id conditions values s with ⟨r, t⟩
  cases r with
  | error e =>
    unfold updateLaneRow at hrun
    cases hrun
  | ok r =>
    rcases updateLaneRow_some hrun with ⟨_, rfl⟩ | ⟨_, _, _, _, rfl⟩
    · exact LanesKept.chains.refl t
    · refine ⟨fun k l hl => ?_, slotsUnique_setLane (fun l => (h l).slot)⟩
      rw [Db.get?_setLane, hl]
      split
      · exact ⟨_, rfl, ⟨rfl, (h l).slot.scopeType, (h l).slot.platform, (h l).slot.accountId⟩,
          (h l).nextStartAt⟩
      · exact ⟨l, rfl, .refl l⟩

theorem NoStart.of_within {α : Type} {m : Session α} (hlanes : Tx.Within LanesKept m)
    (hwork : Tx.Within LaneWork m) : Tx.Within NoStart m :=
  fun s => .of_jobs_eq (hlanes s) (hwork s).jobs

/-- The work on lanes starts nothing, as long as it reserves no start. -/
theorem NoStart.closed : LaneClosed NoStart where
  chains := NoStart.chains
  drew uuid := .of_within (Tx.Within.modifyGet (fun _ => .of_eq rfl)) (LaneWork.closed.drew uuid)
  insert policy id now :=
    .of_within (fun s => lanesKept_insertLane s _) (LaneWork.closed.insert policy id now)
  update id conditions values h :=
    .of_within (lanesKept_updateLaneRow h) (LaneWork.closed.update id conditions values h)

theorem noStart_update {s : Db} {p : Job → Bool} {f : Job → Job} (keeps : ∀ j, (f j).id = j.id)
    (h : ∀ j, SyncRow s j → p j = true → (f j).isActiveWork = true →
      j.isActiveWork = true ∧ SameWork j (f j))
    (hsync : ∀ j, s.jobs.get? j.id = some j → p j = true → (f j).isSync = true →
      j.isSync = true) :
    NoStart s { s with jobs := s.jobs.update p f keeps } := by
  refine ⟨.of_eq rfl, fun k hk hactive => ?_⟩
  have hrow : (s.jobs.update p f keeps).get? k.id = some k := hk.row
  rw [Table.get?_update] at hrow
  obtain ⟨j, hj, rfl⟩ := Option.map_eq_some_iff.1 hrow
  have hid : j.id = (if p j then f j else j).id := by split <;> simp [keeps]
  rw [← hid] at hj
  split at hactive
  · rename_i hp
    have hkind := hk.isSync
    rw [if_pos hp] at hkind ⊢
    have hjrow : SyncRow s j := ⟨hj, hsync j hj hp hkind⟩
    obtain ⟨hjactive, hsame⟩ := h j hjrow hp hactive
    exact ⟨j, hjrow, hjactive, hsame⟩
  · rename_i hp
    have hkind := hk.isSync
    rw [if_neg hp] at hkind ⊢
    exact ⟨j, ⟨hj, hkind⟩, hactive, .refl j⟩

theorem noStart_setJob {s : Db} {j : Job} {values : Job → Job} (hrow : SyncRow s j)
    (h : (values j).isActiveWork = true → j.isActiveWork = true ∧ SameWork j (values j)) :
    NoStart s (s.setJob j.id values) := by
  have huniq : ∀ i, s.jobs.get? i.id = some i → decide (i.id = j.id) = true → i = j := by
    intro i hi hp
    have hget := hrow.row
    rw [← of_decide_eq_true hp, hi] at hget
    cases hget
    rfl
  refine noStart_update _ (fun i hi hp hactive => ?_) (fun i hi hp _ => ?_)
  · obtain rfl := huniq i hi.row hp
    obtain ⟨hjactive, hsame⟩ := h hactive
    exact ⟨hjactive, rfl, hsame.platform, hsame.accountId⟩
  · exact huniq i hi hp ▸ hrow.isSync

/-- The update of a row that is not under a lease afterwards. -/
theorem noStart_row {s t : Db} {j : Job} {values : Job → Job} (hrow : SyncRow s j)
    (h : (values j).isActiveWork = false) (ht : NoStart (s.setJob j.id values) t) :
    NoStart s t := by
  refine NoStart.chains.trans _ _ _ (noStart_setJob hrow (fun hactive => ?_)) ht
  rw [h] at hactive
  cases hactive

/-- No act starts anything. -/
theorem Act.noStart {repo : SchedulerRepository} {s t : Db} (h : Act repo s t) :
    NoStart s t := by
  have hR := NoStart.chains
  cases h with
  | lanes hrun => exact (NoStart.closed.jobLanes _ _ _).ends hrun
  | drew => exact .of_jobs_eq (.of_eq rfl) rfl
  | settled hrow _ _ _ _ hlanes hfinal hpipeline =>
    refine noStart_row hrow rfl (hR.trans _ _ _ ((NoStart.closed.applyLaneSuccess _ _ _ _).ends
      hlanes) (hR.trans _ _ _ ?_ ((pipelineWork_enqueuePipeline _ _ _).ends hpipeline).noStart))
    exact ((outside_finalizeSubscription repo _ _ _ _).ends hfinal).noStart
  | conflict hrow _ _ hlanes hends =>
    have hwork := (NoStart.closed.applyLaneFailure _ _ _ _ _).ends hlanes
    rcases hends with rfl | ⟨r, hfinal⟩
    · exact noStart_row hrow rfl hwork
    · exact noStart_row hrow rfl
        (hR.trans _ _ _ hwork ((outside_finalizeConflict repo _ _).ends hfinal).noStart)
  | @expired u v t j now hrow _ _ _ hrun hlanes hfinal =>
    refine noStart_row hrow ?_ (hR.trans _ _ _ ((outside_cancelAttachedRun _ _ _).ends hrun).noStart
      (hR.trans _ _ _ ((NoStart.closed.applyLaneFailure _ _ _ _ _).ends hlanes) ?_))
    · simp only [Job.isActiveWork, expiredValues]
      split <;> rfl
    · split at hfinal
      · exact ((outside_finalizeSubscription repo _ _ _ _).ends hfinal).noStart
      · rw [hfinal]
        exact hR.refl _
  | requeued keeps hp =>
    refine noStart_update keeps (fun j _ hj hactive => ?_) (fun j _ hj _ => (hp j hj).1)
    cases hactive
  | invalid hrow _ hfinal =>
    exact noStart_row hrow rfl
      ((outside_finalizeSubscription repo _ _ _ _).ends hfinal).noStart
  | started hrow hclaimed =>
    refine noStart_setJob hrow (fun _ => ⟨?_, rfl, rfl, rfl⟩)
    rw [Job.isActiveWork, hclaimed]
    rfl
  | renewed hrow _ => exact noStart_setJob hrow (fun hactive => ⟨hactive, rfl, rfl, rfl⟩)
  | guarded hrow => exact noStart_setJob hrow (fun hactive => ⟨hactive, rfl, rfl, rfl⟩)
  | attached hrow _ => exact noStart_setJob hrow (fun hactive => ⟨hactive, rfl, rfl, rfl⟩)
  | completed hrow _ hlanes hfinal hpipeline =>
    refine noStart_row hrow rfl (hR.trans _ _ _ ((NoStart.closed.applyLaneSuccess _ _ _ _).ends
      hlanes) (hR.trans _ _ _ ?_ ((pipelineWork_enqueuePipeline _ _ _).ends hpipeline).noStart))
    exact ((outside_finalizeSubscription repo _ _ _ _).ends hfinal).noStart
  | failed hrow _ _ hlanes hfinal =>
    refine noStart_row hrow ?_ (hR.trans _ _ _ ((NoStart.closed.applyLaneFailure _ _ _ _ _).ends
      hlanes) ((outside_finalizeFailed repo _ _).ends hfinal).noStart)
    simp only [Job.isActiveWork, failedValues, failedStatus]
    split_ifs <;> rfl
  | @waiting t j status _ _ _ _ hrow _ _ hlanes =>
    refine noStart_row hrow ?_ ((NoStart.closed.applyLaneFailure _ _ _ _ _).ends hlanes)
    cases status <;> rfl
  | resumed hrow _ hlanes =>
    exact noStart_row hrow rfl ((NoStart.closed.releaseLaneProbe _ _ _ _ _).ends hlanes)
  | cancelled hrow _ _ hrun hlanes hfinal =>
    refine noStart_row hrow rfl (hR.trans _ _ _ ((outside_cancelAttachedRun _ _ _).ends hrun).noStart
      (hR.trans _ _ _ ((NoStart.closed.releaseLaneProbe _ _ _ _ _).ends hlanes) ?_))
    exact ((outside_finalizeSubscription repo _ _ _ _).ends hfinal).noStart
  | withdrawn hrow _ _ hlanes =>
    exact noStart_row hrow rfl ((NoStart.closed.releaseLaneProbe _ _ _ _ _).ends hlanes)
  | coordinators keeps =>
    refine noStart_update keeps (fun j _ hj hactive => ?_) (fun j _ _ hsync => hsync)
    cases hactive
  | subscription _ => exact .of_jobs_eq (.of_eq rfl) rfl
  | lanePolicy hrun => exact (NoStart.closed.updateLane _ _ _ _).ends hrun
  | laneReset hrun => exact (NoStart.closed.resetLane _ _ _).ends hrun

theorem Acts.noStart {repo : SchedulerRepository} {s t : Db} (h : Acts repo s t) :
    NoStart s t :=
  h.within NoStart.chains (fun _ _ => Act.noStart)

section Materialization

variable {repo : SchedulerRepository}

theorem noStart_insertJob {job : Job} (h : job.isActiveWork = false) :
    Tx.Within NoStart (insertJob job) := by
  intro s
  rcases hrun : insertJob job s with ⟨r, t⟩
  cases r with
  | error e =>
    unfold insertJob at hrun
    split at hrun
    · cases hrun
      exact NoStart.chains.refl _
    · split at hrun
      · cases hrun
      · cases hrun
        exact NoStart.chains.refl _
  | ok r =>
    obtain ⟨rfl, jobs, hinsert, rfl⟩ := insertJob_ok hrun
    refine ⟨.of_eq rfl, fun k hk hactive => ?_⟩
    have hrow : jobs.get? k.id = some k := hk.row
    rw [Table.get?_insert? hinsert] at hrow
    split at hrow
    · cases hrow
      rw [h] at hactive
      cases hactive
    · exact ⟨k, ⟨hrow, hk.isSync⟩, hactive, .refl k⟩

theorem NoStart.cycleClosed : CycleClosed NoStart where
  chains := NoStart.chains
  outside h := h.noStart
  insert _ _ _ _ _ _ _ _ := noStart_insertJob rfl

/-- Every committed operation but a claim starts nothing. -/
theorem perform_noStart {op : Op} {s t : Db} {reply : Reply} (hop : op.claimArguments? = none)
    (h : op.perform repo s = (.ok reply, t)) : NoStart s t := by
  have hR := NoStart.chains
  cases hcycle : op.isMaterialization with
  | true =>
    cases op with
    | materializeDue limit now retry =>
      exact Tx.Within.ends (Tx.Within.bind hR (NoStart.cycleClosed.materializeDue repo _ _ _)
        (fun _ => Tx.Within.pure hR _)) h
    | materializeOne id revision now retry =>
      exact Tx.Within.ends (Tx.Within.bind hR (NoStart.cycleClosed.materializeOne repo _ _ _ _)
        (fun _ => Tx.Within.pure hR _)) h
    | _ => cases hcycle
  | false =>
    cases hrunNow : op.isRunNow with
    | true =>
      cases op with
      | runNow id now =>
        obtain ⟨r, u, hrun, hpure⟩ := Tx.run_bind_ok h
        cases hpure
        obtain ⟨id, rfl⟩ := setSubscriptionSchedule_ok hrun
        exact .of_jobs_eq (.of_eq rfl) rfl
      | _ => cases hrunNow
    | false => exact (perform_acts hop hcycle hrunNow h).noStart

end Materialization

end MediaSync.Scheduler
