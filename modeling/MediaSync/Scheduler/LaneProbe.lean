import MediaSync.Scheduler.ProbeClaim

/-!
# Lane probes

No lane is ever blocked by a probe that cannot report. In every reachable state
the lanes have one of three shapes, and the job a half-open lane waits for is
live; while it waits, the transaction that claims another job in that lane has
first ended the probe.
-/

namespace MediaSync.Scheduler

open Python Transaction Transition SchedulerError SchedulerRepository

/-- What other code leaves alone between two transactions: lanes, the rows of
cycle jobs, the accounts' platforms and the runs' subscriptions. -/
structure ScopeLeft (s t : Db) : Prop where
  lanes : t.lanes = s.lanes
  accounts : AccountsKept s t
  runs : RunsKept s t
  kept : ∀ id j, s.jobs.get? id = some j → j.isSync = true → t.jobs.get? id = some j
  fresh : ∀ id j, t.jobs.get? id = some j → j.isSync = true → s.jobs.get? id = some j

theorem ProbeState.elsewhere {watch : Option Watch} {free : Option String} {s t : Db}
    (h : ProbeState watch free s) (k : ScopeLeft s t) : ProbeState watch free t := by
  refine h.change k.lanes k.accounts k.runs (fun _ hf => hf) ?_ ?_
  · intro id j hj hsync
    exact ⟨j, k.kept id j hj hsync, Moved.refl _ _ _ j⟩
  · intro id j hj hsync
    exact .inl ⟨j, k.fresh id j hj hsync, hsync⟩

/-- Tables before the first cycle: no lane and no cycle job. -/
def Unscheduled (db : Db) : Prop :=
  db.lanes.rows = [] ∧ ∀ id j, db.jobs.get? id = some j → j.isSync = false

theorem Unscheduled.probeState {db : Db} (h : Unscheduled db) : ProbeState none none db where
  lanes l hl := by simp [h.1] at hl
  slots l hl := by simp [h.1] at hl
  jobs id j hj hsync := by
    rw [h.2 id j hj] at hsync
    cases hsync
  holders l hl := by simp [h.1] at hl
  watched w hw := by cases hw

section Steps

variable (repo : SchedulerRepository)

theorem sound_then {watch : Option Watch} {α : Type} {m : Session α} (hm : Sound watch m)
    (f : α → Reply) : Sound watch (m >>= fun a => pure (f a)) :=
  Sound.bind hm (fun _ => Sound.aside (Tx.Within.pure Aside.chains _))

/-- Every transaction but a claim. -/
theorem sound_perform {op : Op} (hop : op.claimer? = none) : Sound none (op.perform repo) := by
  have hnow : ∀ {now : Time}, ∀ w ∈ (none : Option Watch), w.now = now := by simp
  cases op with
  | materializeDue => exact sound_then (sound_materializeDue repo _ _ _) _
  | materializeOne => exact sound_then (sound_materializeOne repo _ _ _ _) _
  | claimNext => cases hop
  | claimExact => cases hop
  | start => exact sound_then sound_start _
  | heartbeat => exact sound_then (sound_heartbeat _) _
  | assertOwned => exact sound_then sound_assertOwned _
  | attachRun => exact sound_then (sound_attachRun _ _) _
  | succeed => exact sound_then (sound_succeed repo _) _
  | fail => exact sound_then (sound_fail repo _ _ _ _) _
  | wait => exact sound_then (sound_wait repo _ _ _ _) _
  | resume => exact sound_then (sound_resume repo _ _) _
  | resumeWaitingAuthForAccount => exact sound_then (sound_resumeWaitingAuth repo _ _) _
  | cancel => exact sound_then (sound_cancel repo _ _) _
  | remove => exact sound_then (sound_remove repo _ _) _
  | restore => exact sound_then (Sound.aside (aside_restore repo _ _)) _
  | updateLane => exact sound_then (sound_updateLane _ _ _ _) _
  | resetLane => exact sound_then (sound_resetLane _ _ _) _
  | pauseSubscription => exact sound_then (Sound.aside (aside_setSubscriptionSchedule _ _ _)) _
  | resumeSubscription => exact sound_then (Sound.aside (aside_setSubscriptionSchedule _ _ _)) _
  | runNow => exact sound_then (Sound.aside (aside_setSubscriptionSchedule _ _ _)) _

/-- The clock of a claim. -/
def Op.claimNow? : Op → Option Time
  | .claimNext args => some args.now
  | .claimExact _ _ args => some args.now
  | _ => none

theorem Op.claimNow?_eq_none {op : Op} : op.claimNow? = none ↔ op.claimer? = none := by
  cases op <;> simp [Op.claimNow?, Op.claimer?]

theorem perform_claim_sound {op : Op} {now : Time} (hop : op.claimNow? = some now)
    {watch : Option Watch} (hnow : ∀ w ∈ watch, w.now = now) {s t : Db} {reply : Reply}
    (hs : ProbeState watch none s) (hrun : op.perform repo s = (.ok reply, t)) :
    ∃ r, reply = .claimed r ∧ ScanEnds watch t r := by
  cases op with
  | claimNext args =>
    cases hop
    obtain ⟨r, u, hclaim, hpure⟩ := Tx.run_bind_ok hrun
    cases hpure
    exact ⟨r, rfl, claimEligible_sound repo hnow hs hclaim⟩
  | claimExact jobId subscriptionId args =>
    cases hop
    obtain ⟨r, u, hclaim, hpure⟩ := Tx.run_bind_ok hrun
    cases hpure
    exact ⟨r, rfl, claimExact_sound repo hnow hs hclaim⟩
  | _ => cases hop

theorem step_probeState {s t : Db} {e : Event} (hs : ProbeState none none s)
    (h : Step repo ScopeLeft s e t) : ProbeState none none t := by
  cases h with
  | elsewhere henv => exact hs.elsewhere henv
  | call op hrun =>
    rename_i reply
    cases reply with
    | error e =>
      rw [Tx.commit_error hrun]
      exact hs
    | ok reply =>
      have hrun' := Tx.commit_ok hrun
      cases hop : op.claimNow? with
      | none => exact (sound_perform repo (Op.claimNow?_eq_none.mp hop)).ok hs hrun'
      | some now =>
        obtain ⟨r, rfl, hends⟩ := perform_claim_sound repo hop (by simp) hs hrun'
        cases r with
        | none => exact hends
        | some claim => exact hends.1

/-- A claim that stands was there before. -/
def ClaimKept (j j' : Job) : Prop :=
  j'.isSync = true → j'.status = .claimed →
    j.isSync = true ∧ j.status = .claimed ∧ j'.leaseToken = j.leaseToken

def Unclaimed (j : Job) : Prop := j.isSync = true → j.status ≠ .claimed

theorem ClaimKept.of_status {j j' : Job} (h : j'.status ≠ .claimed) : ClaimKept j j' :=
  fun _ hc => (h hc).elim

theorem claimKept_accepts : Accepts ClaimKept Unclaimed where
  refl j hsync hc := ⟨hsync, hc, rfl⟩
  trans i j k hij hjk hsync hc := by
    obtain ⟨hjsync, hjc, hjt⟩ := hjk hsync hc
    obtain ⟨hisync, hic, hit⟩ := hij hjsync hjc
    exact ⟨hisync, hic, hjt.trans hit⟩
  added j k hj hjk hsync hc := by
    obtain ⟨hjsync, hjc, _⟩ := hjk hsync hc
    exact hj hjsync hjc
  cycle _ _ _ _ _ _ _ _ := by
    intro _ hc
    cases hc
  coordinator _ _ _ _ _ _ _ _ := by
    intro _ hc
    cases hc
  repaired _ _ _ _ _ _ _ _ := ClaimKept.of_status fun h => by cases h
  settled _ _ _ _ _ := ClaimKept.of_status fun h => by cases h
  conflict _ _ _ _ _ := ClaimKept.of_status fun h => by cases h
  expired j now _ _ := by
    apply ClaimKept.of_status
    simp only [expiredValues]
    split <;> (intro h; cases h)
  requeued _ _ _ _ := ClaimKept.of_status fun h => by cases h
  invalid _ _ _ _ := ClaimKept.of_status fun h => by cases h
  started _ _ _ _ := ClaimKept.of_status fun h => by cases h
  renewed _ _ _ hsync _ _ hc := ⟨hsync, hc, rfl⟩
  attached _ _ _ hsync _ hc := ⟨hsync, hc, rfl⟩
  completed _ _ _ _ _ := ClaimKept.of_status fun h => by cases h
  failed j retry retryAt code runId now _ _ := by
    apply ClaimKept.of_status
    simp only [failedValues, failedStatus]
    split
    · split <;> (intro h; cases h)
    · intro h
      cases h
  waiting _ status _ _ _ _ _ := by
    apply ClaimKept.of_status
    cases status <;> (intro h; cases h)
  resumed _ _ _ _ := ClaimKept.of_status fun h => by cases h
  cancelled _ _ _ := ClaimKept.of_status fun h => by cases h

/-- The job is claimed in the second state under a lease it did not have in the
first. -/
def MovesToClaimed (s t : Db) (id : String) : Prop :=
  ∃ j', t.jobs.get? id = some j' ∧ j'.isSync = true ∧ j'.status = .claimed ∧
    ∀ j, s.jobs.get? id = some j →
      ¬ (j.isSync = true ∧ j.status = .claimed ∧ j'.leaseToken = j.leaseToken)

theorem JobSteps.not_moves {s t : Db} (h : JobSteps ClaimKept Unclaimed s t) (id : String) :
    ¬ MovesToClaimed s t id := by
  rintro ⟨j', hj', hsync, hc, hnot⟩
  cases hj : s.jobs.get? id with
  | none => exact h.added id j' hj hj' hsync hc
  | some j =>
    obtain ⟨k, hk, hkept⟩ := h.kept id j hj
    rw [hj'] at hk
    cases hk
    exact hnot j hj (hkept hsync hc)

/-- Only the job that a claim returns moves to claimed. -/
theorem ClaimEnds.moves {owner : String} {s t : Db} {r : Option SchedulerClaim} {id : String}
    (h : ClaimEnds repo ClaimKept Unclaimed owner s r t) (hmoves : MovesToClaimed s t id) :
    ∃ claim, r = some claim ∧ claim.jobId = id := by
  cases r with
  | none => exact (JobSteps.not_moves h id hmoves).elim
  | some claim =>
    obtain ⟨m, hm, hgrant, _⟩ := h
    refine ⟨claim, rfl, ?_⟩
    by_contra hne
    obtain ⟨j', hj', hrest⟩ := hmoves
    rw [hgrant.get?_ne (Ne.symm hne)] at hj'
    exact JobSteps.not_moves hm id ⟨j', hj', hrest⟩

theorem ScopeLeft.not_moves {s t : Db} (h : ScopeLeft s t) (id : String) :
    ¬ MovesToClaimed s t id := by
  rintro ⟨j', hj', hsync, hc, hnot⟩
  exact hnot j' (h.fresh id j' hj' hsync) ⟨hsync, hc, rfl⟩

/-- The job holds a half-open lane. -/
structure Probes (db : Db) (l : SchedulerLane) (jobId : String) : Prop where
  lane : l ∈ db.lanes.rows
  state : l.circuitState = .halfOpen
  holder : l.halfOpenJobId = some jobId

/-- A job that moves to claimed is alone: afterwards no other job probes its
lanes, and whoever probed one of them before has ended. -/
structure ProbeExclusive (s t : Db) : Prop where
  after : ∀ id j', t.jobs.get? id = some j' → MovesToClaimed s t id →
    ∀ l jobId, Probes t l jobId → l.counts j' = true → jobId = id
  before : ∀ id j', t.jobs.get? id = some j' → MovesToClaimed s t id →
    ∀ l jobId, Probes s l jobId → l.counts j' = true → jobId ≠ id → JobEnded t jobId

/-- No probe is stuck: the lanes are well shaped and their probes are live. -/
structure NoStuckProbe (db : Db) : Prop where
  shape : ∀ l ∈ db.lanes.rows, l.WellShaped
  live : ∀ l jobId, Probes db l jobId →
    ∃ j, db.jobs.get? jobId = some j ∧ j.isSync = true ∧ j.status.isTerminal = false

theorem ProbeState.noStuckProbe {db : Db} (h : ProbeState none none db) : NoStuckProbe db where
  shape l hl := (h.lanes l hl).shape
  live l jobId hprobe := by
    obtain ⟨j, hj, hsync, hlive, _⟩ := h.holders l hprobe.lane jobId hprobe.holder
    exact ⟨j, hj, hsync, hlive nofun⟩

/-- A probe can be watched from the state in which it holds its lane. -/
theorem ProbeState.watch {s : Db} {l : SchedulerLane} {jobId : String}
    (h : ProbeState none none s) (hprobe : Probes s l jobId) (now : Time) :
    ProbeState (some ⟨now, jobId, l⟩) none s where
  lanes := h.lanes
  slots := h.slots
  jobs := h.jobs
  holders := h.holders
  watched w hw := by
    cases hw
    exact .inr ⟨l, Table.get?_of_mem hprobe.lane, ⟨rfl, rfl, rfl, rfl⟩,
      .inl ⟨hprobe.state, hprobe.holder⟩⟩

theorem step_exclusive {s t : Db} {e : Event} (hs : ProbeState none none s)
    (h : Step repo ScopeLeft s e t) : ProbeExclusive s t := by
  -- the step is a claim of the job that moved, whatever probe is watched meanwhile
  have hclaim : ∀ id, MovesToClaimed s t id → ∃ now, ∀ watch : Option Watch,
      (∀ w ∈ watch, w.now = now) → ProbeState watch none s → ClaimedAlone watch t id := by
    intro id hmoves
    cases h with
    | elsewhere henv => exact (henv.not_moves id hmoves).elim
    | call op hrun =>
      rename_i reply
      cases reply with
      | error e =>
        rw [Tx.commit_error hrun] at hmoves
        exact (((JobSteps.chains claimKept_accepts).refl s).not_moves id hmoves).elim
      | ok reply =>
        have hrun' := Tx.commit_ok hrun
        cases hop : op.claimer? with
        | none =>
          have hsteps := (steps_perform repo claimKept_accepts hop).ends hrun'
          exact (hsteps.not_moves id hmoves).elim
        | some workerId =>
          obtain ⟨owner, r, _, rfl, hends⟩ := perform_claim_ok repo claimKept_accepts hop hrun'
          obtain ⟨claim, rfl, hid⟩ := hends.moves repo hmoves
          cases hnow : op.claimNow? with
          | none =>
            rw [Op.claimNow?_eq_none.mp hnow] at hop
            cases hop
          | some now =>
            refine ⟨now, fun watch hw hwatch => ?_⟩
            obtain ⟨r, hr, hscan⟩ := perform_claim_sound repo hnow hw hwatch hrun'
            cases hr
            exact hid ▸ hscan.2
  constructor
  · intro id j' hj' hmoves l jobId hprobe hcounts
    obtain ⟨now, halone⟩ := hclaim id hmoves
    obtain ⟨row, hrow, hown, _⟩ := halone none (by simp) hs
    rw [hj'] at hrow
    cases hrow
    rw [hown l hprobe.lane hcounts jobId hprobe.holder]
    exact Job.get?_id hj'
  · intro id j' hj' hmoves l jobId hprobe hcounts hne
    obtain ⟨now, halone⟩ := hclaim id hmoves
    obtain ⟨row, hrow, _, hended⟩ := halone (some ⟨now, jobId, l⟩)
      (by intro w hw; cases hw; rfl) (hs.watch hprobe now)
    rw [hj'] at hrow
    cases hrow
    exact hended ⟨now, jobId, l⟩ rfl hcounts hne

theorem reachable_probeState {t : Db} (ht : Reachable (Step repo ScopeLeft) Unscheduled t) :
    ProbeState none none t :=
  ht.invariant (fun _ hs => hs.probeState) (fun _ _ _ hs h => step_probeState repo hs h)

/-- No stuck probe: whatever transactions led to a state, its half-open lanes
wait for live jobs, and the next transaction claims no other job in them. -/
theorem no_stuck_probe {t : Db} (ht : Reachable (Step repo ScopeLeft) Unscheduled t) :
    NoStuckProbe t ∧ ∀ e u, Step repo ScopeLeft t e u → ProbeExclusive t u := by
  have hstate := reachable_probeState repo ht
  exact ⟨hstate.noStuckProbe, fun _ _ h => step_exclusive repo hstate h⟩

end Steps

/-- A platform lane that opens at the first failure. -/
def sampleLanePolicy : LanePolicy :=
  { LanePolicy.ofPlatform .bili with
    minStartIntervalSeconds := 0
    failureThreshold := 1
    cooldownSeconds := 1
    interval_range := by decide
    threshold_range := by decide
    cooldown_range := by decide }

/-- A failure opens the platform lane; after its cooldown the retry is the probe. -/
def sampleProbe : List Op :=
  [.updateLane sampleLanePolicy none 400,
    .materializeDue 10 500 .standard,
    .claimNext ⟨"worker", 10, 60, 10, none, 1000⟩,
    .start "aa" "worker" "aaaaa" 2000,
    .fail "aa" "worker" "aaaaa" "upstream_timeout" (some 6000000) none none 3000,
    .claimNext ⟨"worker", 10, 60, 10, none, 7000000⟩]

theorem sampleDb_unscheduled : Unscheduled sampleDb := ⟨rfl, fun _ _ hj => by cases hj⟩

theorem no_stuck_probe_sample :
    NoStuckProbe (replay sampleRepository sampleDb sampleProbe).2 ∧
      (replay sampleRepository sampleDb sampleProbe).2.lanes.rows.map
        SchedulerLane.halfOpenJobId = [some "aa", none] :=
  ⟨(no_stuck_probe sampleRepository ⟨sampleDb, _, sampleDb_unscheduled,
      replay_history sampleRepository ScopeLeft sampleDb sampleProbe⟩).1, by decide +kernel⟩

end MediaSync.Scheduler
