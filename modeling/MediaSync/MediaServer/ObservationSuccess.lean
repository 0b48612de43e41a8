import MediaSync.MediaServer.ObservationCalls

/-!
# What a success was told

An observation that succeeds is read backwards: the lookups before the dispatch
found nothing, the hook let the server in once, the accepted payload was saved,
and two lookups in a row found the same item.
-/

namespace MediaSync.MediaServer

open Program Observation ObservationService

variable {σ : Type} {answers : Answers ObservationCall ObservationCall.Reply σ} {s t : σ}
  {h : List ObservationEvent} {service : ObservationService} {target : PublicationTarget}
  {provider : Provider} {budget budget' : LookupBudget} {deadline : Float}
  {result : ItemLookupResult}

theorem lookupOnce_ok
    (he : Executes answers (service.lookupOnce target provider budget deadline) s h
      (.ok (budget', result)) t) : h = [lookupEvent target deadline result] := by
  obtain ⟨started, _, _, _, rfl, hstart, he₁⟩ := executes_bind_ok.1 he
  obtain ⟨reply, _, _, _, rfl, hlookup, he₂⟩ := executes_bind_ok.1 he₁
  obtain ⟨found, _, _, _, rfl, hfound, he₃⟩ := executes_bind_ok.1 he₂
  obtain ⟨spent, _, _, _, rfl, hspent, hpure⟩ := executes_bind_ok.1 he₃
  obtain ⟨rfl, -⟩ := orRaise_ok hstart
  obtain ⟨rfl, rfl⟩ := orRaise_ok hfound
  obtain ⟨rfl, -⟩ := orRaise_ok hspent
  obtain ⟨rfl, hresult, -⟩ := executes_pure.1 hpure
  cases hresult
  rw [make_ok ((executes_catching_ok fun e _ _ _ => codeOthers_not_ok e).1 hlookup)]
  rfl

theorem preDispatchLookup_ok
    (he : Executes answers (service.preDispatchLookup target provider budget deadline) s h
      (.ok (budget', result)) t) :
    ∃ before after, h = [timeEvent before, lookupEvent target deadline result, timeEvent after] := by
  obtain ⟨_, _, _, _, rfl, hearly, he₁⟩ := executes_bind_ok.1 he
  obtain ⟨found, _, _, _, rfl, hlookup, he₂⟩ := executes_bind_ok.1 he₁
  obtain ⟨_, _, _, _, rfl, hlate, hpure⟩ := executes_bind_ok.1 he₂
  obtain ⟨before, -, rfl⟩ := returnIfLate_ok hearly
  obtain ⟨after, -, rfl⟩ := returnIfLate_ok hlate
  obtain ⟨rfl, hresult, -⟩ := executes_pure.1 hpure
  cases hresult
  rw [lookupOnce_ok ((executes_catching_ok fun e _ _ _ => onMediaError_not_ok e).1 hlookup)]
  exact ⟨before, after, rfl⟩

/-- Before the dispatch: one lookup that found nothing, or two of them that agree. -/
inductive BaselineAbsent (target : PublicationTarget) (deadline : Float) :
    Provider → List ObservationEvent → Prop
  | emby {h k : List ObservationEvent} {first : ItemLookupResult} :
      Quiet h → Quiet k → first.lookupState = .notFound →
      BaselineAbsent target deadline .emby (h ++ lookupEvent target deadline first :: k)
  | jellyfin {h k l : List ObservationEvent} {first second : ItemLookupResult} :
      Quiet h → Quiet k → Quiet l →
      first.lookupState = .notFound → second.lookupState = .notFound →
      second.itemIdSetFingerprint = first.itemIdSetFingerprint →
      second.inspectedItemCount = first.inspectedItemCount →
      BaselineAbsent target deadline .jellyfin (h ++ lookupEvent target deadline first ::
        (k ++ lookupEvent target deadline second :: l))

theorem BaselineAbsent.after {h₀ : List ObservationEvent} (hquiet : Quiet h₀)
    (habsent : BaselineAbsent target deadline provider h) :
    BaselineAbsent target deadline provider (h₀ ++ h) := by
  cases habsent with
  | emby h₁ h₂ hfirst =>
    rw [← List.append_assoc]
    exact .emby (hquiet.append h₁) h₂ hfirst
  | jellyfin h₁ h₂ h₃ hfirst hsecond hset hcount =>
    rw [← List.append_assoc]
    exact .jellyfin (hquiet.append h₁) h₂ h₃ hfirst hsecond hset hcount

theorem state_of_not_matched {r : ItemLookupResult} (h : decide (r.lookupState = .matched) = false) :
    r.lookupState = .notFound := by
  cases hstate : r.lookupState with
  | notFound => rfl
  | matched =>
    rw [hstate] at h
    cases h

theorem baseline_ok (he : Executes answers (service.baseline target provider deadline) s h
    (.ok budget) t) : BaselineAbsent target deadline provider h := by
  obtain ⟨⟨spent, first⟩, _, _, _, rfl, hfirst, he₁⟩ := executes_bind_ok.1 he
  obtain ⟨_, _, _, _, rfl, habsent, he₂⟩ := executes_bind_ok.1 he₁
  obtain ⟨n₁, n₂, rfl⟩ := preDispatchLookup_ok hfirst
  obtain ⟨rfl, hstate⟩ := returnIf_ok habsent
  cases provider with
  | emby =>
    obtain ⟨rfl, -, -⟩ := executes_pure.1 he₂
    exact .emby (h := [timeEvent n₁]) (k := [timeEvent n₂]) (.cons (quiet_time n₁) quiet_nil)
      (.cons (quiet_time n₂) quiet_nil) (state_of_not_matched hstate)
  | jellyfin =>
    obtain ⟨_, _, _, _, rfl, hclear, he₃⟩ := executes_bind_ok.1 he₂
    obtain ⟨_, _, _, _, rfl, hlate, he₄⟩ := executes_bind_ok.1 he₃
    obtain ⟨⟨spent', second⟩, _, _, _, rfl, hsecond, he₅⟩ := executes_bind_ok.1 he₄
    obtain ⟨_, _, _, _, rfl, habsent', he₆⟩ := executes_bind_ok.1 he₅
    obtain ⟨_, _, _, _, rfl, hagree, hpure⟩ := executes_bind_ok.1 he₆
    obtain ⟨-, rfl⟩ := returnIfCancelled_ok hclear
    obtain ⟨n₃, -, rfl⟩ := returnIfLate_ok hlate
    obtain ⟨n₄, n₅, rfl⟩ := preDispatchLookup_ok hsecond
    obtain ⟨rfl, hstate'⟩ := returnIf_ok habsent'
    obtain ⟨rfl, hsame⟩ := returnIf_ok hagree
    obtain ⟨rfl, -, -⟩ := executes_pure.1 hpure
    rw [Bool.or_eq_false_iff, decide_eq_false_iff_not, decide_eq_false_iff_not, not_not,
      not_not] at hsame
    exact .jellyfin (h := [timeEvent n₁])
      (k := timeEvent n₂ :: (flagsClear ++ [timeEvent n₃, timeEvent n₄])) (l := [timeEvent n₅])
      (.cons (quiet_time n₁) quiet_nil)
      (.cons (quiet_time n₂) (quiet_flagsClear.append
        (.cons (quiet_time n₃) (.cons (quiet_time n₄) quiet_nil))))
      (.cons (quiet_time n₅) quiet_nil) (state_of_not_matched hstate)
      (state_of_not_matched hstate') hsame.1 hsame.2

/-! ## The dispatch -/

/-- What the hook saw where it let the server in. -/
structure LetIn (target : PublicationTarget) (deadline : Float) (h : List ObservationEvent) : Prop where
  quiet : Quiet h
  resolved : resolvedEvent target deadline ∈ h

variable {fence fence' : TransportFence} {approved : Bool}

/-- What the hook may call: nothing of a lookup, a scan or a checkpoint. -/
def ObservationCall.Harmless (c : ObservationCall) : Prop :=
  c.isLookup = false ∧ c.isScan = false ∧ c.isCheckpoint = false

/-- The hook refused: the fence is none the more open, and nothing is raised. -/
def Refused (fence : TransportFence) : Except Halt (TransportFence × Bool) → Prop
  | .ok (fence', approved) =>
    approved = false ∧ fence'.calls = fence.calls ∧ fence'.approved = fence.approved
  | .error _ => False

/-- The hook counted the entry, and opened the fence if it let the server in. -/
def Answered (fence : TransportFence) : Except Halt (TransportFence × Bool) → Prop
  | .ok (fence', approved) =>
    fence'.calls = fence.calls ∧ (approved = false → fence'.approved = fence.approved)
  | .error _ => False

theorem Refused.answered {x : Except Halt (TransportFence × Bool)} (hx : Refused fence x) :
    Answered fence x := by
  cases x with
  | error e => exact hx
  | ok found => exact ⟨hx.2.1, fun _ => hx.2.2⟩

/-- What has the property, or an exception. -/
def OrRaised {α : Type} (P : Except Halt α → Prop) : Except Halt α → Prop
  | .ok a => P (.ok a)
  | .error e => ∃ r, e = .raised r

/-- A handler of every exception leaves what has the property. -/
theorem yields_handled {α : Type} {allowed : ObservationCall → Prop} {P : Except Halt α → Prop}
    {m : ObservationProg α} {handler : Halt → ObservationProg α} (hm : Yields allowed (OrRaised P) m)
    (hhandler : ∀ r, Yields allowed P (handler (.raised r))) :
    Yields allowed P (m.catching handler) :=
  hm.catching (fun _ hok => hok) fun _ he => by
    obtain ⟨r, rfl⟩ := he
    exact hhandler r

theorem reject_refused {code : ErrorCode} {retryable : Bool} :
    Yields ObservationCall.Harmless (Refused fence)
      (rejectBeforeTransportEntry fence code retryable) := by
  refine yields_handled ?_ fun r => ⟨rfl, rfl, rfl⟩
  refine Yields.bind (P := OrRaised fun _ => True) (yields_make ⟨rfl, rfl, rfl⟩
    (fun _ => trivial) fun r => ⟨r, rfl⟩) (fun snapshot _ => ?_) fun _ he => he
  refine Yields.bind (P := OrRaised fun _ => True) (yields_cancelledAfter ⟨rfl, rfl, rfl⟩
    ⟨rfl, rfl, rfl⟩ (fun _ => trivial) fun r => ⟨r, rfl⟩) (fun cancelled _ => ?_)
    fun _ he => he
  cases cancelled with
  | true => exact ⟨rfl, rfl, rfl⟩
  | false => exact ⟨rfl, rfl, rfl⟩

theorem entryFailed_refused (r : Raised) :
    Yields ObservationCall.Harmless (Refused fence) (entryFailed fence (.raised r)) := by
  cases r with
  | media e => exact reject_refused
  | other =>
    refine yields_handled ?_ fun r => ⟨rfl, rfl, rfl⟩
    exact Yields.bind (P := OrRaised fun _ => True) (yields_make ⟨rfl, rfl, rfl⟩
      (fun _ => trivial) fun r => ⟨r, rfl⟩) (fun _ _ => ⟨rfl, rfl, rfl⟩) fun _ he => he

theorem entryChecks_answered :
    Yields ObservationCall.Harmless (OrRaised (Answered fence))
      (entryChecks target deadline fence) := by
  have hreject : ∀ code retryable, Yields ObservationCall.Harmless (OrRaised (Answered fence))
      (rejectBeforeTransportEntry fence code retryable) := by
    intro code retryable
    refine reject_refused.mono (fun _ hc => hc) fun x hx => ?_
    cases x with
    | ok found => exact hx.answered
    | error e => exact hx.elim
  have hclear : ∀ snapshot, Yields ObservationCall.Harmless (OrRaised fun _ => True)
      (cancelledAfter snapshot) := fun _ => yields_cancelledAfter ⟨rfl, rfl, rfl⟩
    ⟨rfl, rfl, rfl⟩ (fun _ => trivial) fun r => ⟨r, rfl⟩
  have htime : Yields ObservationCall.Harmless (OrRaised fun _ => True) time :=
    yields_time ⟨rfl, rfl, rfl⟩ (fun _ => trivial) fun r => ⟨r, rfl⟩
  refine Yields.bind (P := OrRaised fun _ => True) (yields_make ⟨rfl, rfl, rfl⟩
    (fun _ => trivial) fun r => ⟨r, rfl⟩) (fun snapshot _ => ?_) fun _ he => he
  refine Yields.bind (hclear snapshot) (fun cancelled _ => ?_) fun _ he => he
  split
  · exact ⟨rfl, fun _ => rfl⟩
  · refine Yields.bind htime (fun now _ => ?_) fun _ he => he
    split
    · exact hreject _ _
    · refine Yields.bind (P := OrRaised fun _ => True) (yields_resolveTarget ⟨rfl, rfl, rfl⟩
        (fun _ => trivial) fun r => ⟨r, rfl⟩) (fun resolved _ => ?_) fun _ he => he
      split
      · exact hreject _ _
      · refine Yields.bind (hclear false) (fun cancelled _ => ?_) fun _ he => he
        split
        · exact ⟨rfl, fun _ => rfl⟩
        · refine Yields.bind htime (fun now _ => ?_) fun _ he => he
          split
          · exact hreject _ _
          · exact ⟨rfl, fun hb => by cases hb⟩

theorem beforeTransportEntry_answered :
    Yields ObservationCall.Harmless (Answered { fence with calls := fence.calls + 1 })
      (beforeTransportEntry target deadline fence) := by
  unfold beforeTransportEntry
  dsimp only
  split
  · exact ⟨rfl, fun _ => rfl⟩
  · exact yields_handled entryChecks_answered fun r =>
      (entryFailed_refused r).mono (fun _ hc => hc) fun _ hx => hx.answered

/-- Where the checks let the server in, nothing was cancelled and the target was still the one. -/
theorem entryChecks_letIn
    (he : Executes answers (entryChecks target deadline fence) s h (.ok (fence', true)) t) :
    LetIn target deadline h := by
  have hreject : ∀ {code retryable s h t}, ¬ Executes answers
      (rejectBeforeTransportEntry fence code retryable) s h (.ok (fence', true)) t :=
    fun hr => absurd (hr.yields reject_refused).1.1 (by simp)
  obtain ⟨snapshot, _, _, _, rfl, hphase, he₁⟩ := executes_bind_ok.1 he
  obtain ⟨cancelled, _, _, _, rfl, hclear, he₂⟩ := executes_bind_ok.1 he₁
  split at he₂
  · have hvalue := (executes_pure.1 he₂).2.1
    cases hvalue
  · rename_i hnot
    obtain ⟨now, _, _, _, rfl, htime, he₃⟩ := executes_bind_ok.1 he₂
    split at he₃
    · exact absurd he₃ hreject
    · obtain ⟨resolved, _, _, _, rfl, hresolve, he₄⟩ := executes_bind_ok.1 he₃
      split at he₄
      · exact absurd he₄ hreject
      · rename_i hsame
        obtain ⟨cancelled', _, _, _, rfl, hclear', he₅⟩ := executes_bind_ok.1 he₄
        split at he₅
        · have hvalue := (executes_pure.1 he₅).2.1
          cases hvalue
        · rename_i hnot'
          obtain ⟨now', _, _, _, rfl, htime', he₆⟩ := executes_bind_ok.1 he₅
          split at he₆
          · exact absurd he₆ hreject
          · obtain ⟨rfl, -, -⟩ := executes_pure.1 he₆
            rw [Bool.not_eq_true] at hnot hnot'
            subst hnot hnot'
            obtain ⟨rfl, rfl⟩ := cancelledAfter_false hclear
            obtain ⟨-, rfl⟩ := cancelledAfter_false hclear'
            have heq : resolved = target := not_not.1 hsame
            subst heq
            rw [make_ok hphase, time_ok htime, time_ok htime', resolveTarget_ok hresolve]
            refine ⟨?_, by simp [resolvedEvent]⟩
            exact .cons (quiet_phase _) (quiet_flagsClear.append (.cons (quiet_time _)
              (.cons (quiet_resolved _ _) (quiet_flagsClear.append (.cons (quiet_time _)
                quiet_nil)))))

theorem beforeTransportEntry_letIn
    (he : Executes answers (beforeTransportEntry target deadline fence) s h
      (.ok (fence', true)) t) : LetIn target deadline h := by
  unfold beforeTransportEntry at he
  dsimp only at he
  split at he
  · have hvalue := (executes_pure.1 he).2.1
    cases hvalue
  · rcases executes_catching.1 he with ⟨_, hok, hchecks⟩ | ⟨e, _, _, _, rfl, hraised, hfailed⟩
    · cases hok
      exact entryChecks_letIn hchecks
    · obtain ⟨r, rfl⟩ := (hraised.yields entryChecks_answered).1
      exact absurd (hfailed.yields (entryFailed_refused r)).1.1 (by simp)

/-- The server's own reading of the flags. -/
def ObservationCall.IsPoll (c : ObservationCall) : Prop :=
  c = .cancelRequested .server ∨ c = .isSet .server

/-- No lookup and no checkpoint, nobody is let in, and no cancellation is read but by the server. -/
structure ObservationEvent.Outside (e : ObservationEvent) : Prop where
  lookup : e.call.isLookup = false
  checkpoint : e.call.isCheckpoint = false
  entered : e.call.isEntered = false
  cancel : ¬ e.call.IsPoll → cancelReading e ≠ some true

/-- The server at work: the hook let it in once, and after that it was not asked again. -/
inductive EnteredOnce (target : PublicationTarget) (deadline : Float) : List ObservationEvent → Prop
  | intro {h entry k : List ObservationEvent} {turn : Except Raised ScanTurn} :
      (∀ e ∈ h, ObservationEvent.Outside e) → LetIn target deadline entry →
      (∀ e ∈ k, ObservationEvent.Outside e) →
      EnteredOnce target deadline (h ++ (entry ++ ⟨.scan (.entered true), turn⟩ :: k))

theorem EnteredOnce.after {h₀ : List ObservationEvent}
    (hout : ∀ e ∈ h₀, ObservationEvent.Outside e) (hentered : EnteredOnce target deadline h) :
    EnteredOnce target deadline (h₀ ++ h) := by
  cases hentered with
  | intro h₁ hlet h₂ =>
    rw [← List.append_assoc]
    exact .intro (fun e he => (List.mem_append.1 he).elim (hout e) (h₁ e)) hlet h₂

theorem outside_poll {e : ObservationEvent} (he : e.call.IsPoll) : ObservationEvent.Outside e := by
  obtain ⟨c, reply⟩ := e
  have hpoll := he
  rcases he with rfl | rfl
  · exact ⟨rfl, rfl, rfl, fun hnot => absurd hpoll hnot⟩
  · exact ⟨rfl, rfl, rfl, fun hnot => absurd hpoll hnot⟩

theorem outside_scan {given : ScanGiven} {turn : Except Raised ScanTurn}
    (hgiven : (ObservationCall.scan given).isEntered = false) :
    ObservationEvent.Outside ⟨.scan given, turn⟩ :=
  ⟨rfl, rfl, hgiven, fun _ => by simp [cancelReading]⟩

/-- The server is told what a poll said, which lets nobody in. -/
def IsPolled : Except Halt ScanGiven → Prop
  | .ok given => (ObservationCall.scan given).isEntered = false
  | .error _ => False

theorem pollCancel_polled : Yields ObservationCall.IsPoll IsPolled pollCancel :=
  yields_handled (Yields.bind (P := OrRaised fun _ => True)
    (yields_cancelRequested (.inl rfl) (.inr rfl) (fun _ => trivial) fun r => ⟨r, rfl⟩)
    (fun _ _ => rfl) fun _ he => he) fun _ => rfl

variable {turns : Nat} {given : ScanGiven} {ended : Except Raised (Option ScanResult)}

/-- The rest of a scan after a turn of the server. -/
inductive Turned (target : PublicationTarget) (deadline : Float) (answers : Answers ObservationCall
    ObservationCall.Reply σ) (turns : Nat) (fence : TransportFence) (t : σ)
    (fence' : TransportFence) (ended : Except Raised (Option ScanResult)) :
    List ObservationEvent → Prop
  | ends : fence' = fence → Turned target deadline answers turns fence t fence' ended []
  | polled {u : σ} {given : ScanGiven} {h₁ h₂ : List ObservationEvent} :
      (∀ e ∈ h₁, e.call.IsPoll) → (ObservationCall.scan given).isEntered = false →
      Executes answers (scanTurns target deadline turns given fence) u h₂ (.ok (fence', ended)) t →
      Turned target deadline answers turns fence t fence' ended (h₁ ++ h₂)
  | entered {s u : σ} {approved : Bool} {fence₁ : TransportFence} {h₁ h₂ : List ObservationEvent} :
      Executes answers (beforeTransportEntry target deadline fence) s h₁ (.ok (fence₁, approved)) u →
      Executes answers (scanTurns target deadline turns (.entered approved) fence₁) u h₂
        (.ok (fence', ended)) t →
      Turned target deadline answers turns fence t fence' ended (h₁ ++ h₂)

theorem scanTurns_turned
    (he : Executes answers (scanTurns target deadline turns given fence) s h
      (.ok (fence', ended)) t) :
    ∃ rest turn more, turns = rest + 1 ∧ h = ⟨.scan given, turn⟩ :: more ∧
      Turned target deadline answers rest fence t fence' ended more := by
  cases turns with
  | zero => exact absurd he throw_not_ok
  | succ turns =>
    obtain ⟨turn, u, h₁, more, rfl, hmake, hrest⟩ := executes_bind_ok.1 he
    refine ⟨turns, .ok turn, more, rfl, by rw [make_ok hmake]; rfl, ?_⟩
    cases turn with
    | polls =>
      obtain ⟨given', v, h₂, h₃, rfl, hpoll, hturns⟩ := executes_bind_ok.1 hrest
      obtain ⟨hgiven, hcalls⟩ := hpoll.yields pollCancel_polled
      exact .polled hcalls hgiven hturns
    | enters =>
      obtain ⟨⟨fence₁, approved⟩, v, h₂, h₃, rfl, hhook, hturns⟩ := executes_bind_ok.1 hrest
      exact .entered hhook hturns
    | ends result =>
      obtain ⟨rfl, hresult, -⟩ := executes_pure.1 hrest
      cases hresult
      exact .ends rfl

theorem hook_calls {fence₁ : TransportFence}
    (he : Executes answers (beforeTransportEntry target deadline fence) s h
      (.ok (fence₁, approved)) t) : fence₁.calls = fence.calls + 1 :=
  (he.yields beforeTransportEntry_answered).1.1

theorem scanTurns_calls
    (he : Executes answers (scanTurns target deadline turns given fence) s h
      (.ok (fence', ended)) t) : fence.calls ≤ fence'.calls := by
  induction turns generalizing given fence s h with
  | zero => exact absurd he throw_not_ok
  | succ turns ih =>
    obtain ⟨rest, turn, more, hrest, -, hturned⟩ := scanTurns_turned he
    cases hrest
    cases hturned with
    | ends heq => rw [heq]
    | polled _ _ hturns => exact ih hturns
    | entered hhook hturns =>
      have hcalls := hook_calls hhook
      have hle := ih hturns
      omega

/-- Where no hook was called, the fence is as it was. -/
theorem scanTurns_idle
    (he : Executes answers (scanTurns target deadline turns given fence) s h
      (.ok (fence', ended)) t) (hcalls : fence'.calls = fence.calls) :
    fence' = fence ∧ ∃ turn more, h = ⟨.scan given, turn⟩ :: more ∧
      ∀ e ∈ more, ObservationEvent.Outside e := by
  induction turns generalizing given fence s h with
  | zero => exact absurd he throw_not_ok
  | succ turns ih =>
    obtain ⟨rest, turn, more, hrest, rfl, hturned⟩ := scanTurns_turned he
    cases hrest
    cases hturned with
    | ends heq => exact ⟨heq, turn, [], rfl, by simp⟩
    | polled hpolls hgiven hturns =>
      obtain ⟨heq, turn', more', rfl, hout⟩ := ih hturns hcalls
      refine ⟨heq, turn, _, rfl, fun e he => ?_⟩
      rcases List.mem_append.1 he with he | he
      · exact outside_poll (hpolls e he)
      · rcases List.mem_cons.1 he with rfl | he
        · exact outside_scan hgiven
        · exact hout e he
    | entered hhook hturns =>
      have hnext := hook_calls hhook
      have hle := scanTurns_calls hturns
      omega

/-- Where the hook was called once and let the server in, it was in that call. -/
theorem scanTurns_entered
    (he : Executes answers (scanTurns target deadline turns given fence) s h
      (.ok (fence', ended)) t)
    (hfence : fence.calls = 0 ∧ fence.approved = false)
    (hfence' : fence'.calls = 1 ∧ fence'.approved = true)
    (hgiven : (ObservationCall.scan given).isEntered = false) :
    EnteredOnce target deadline h := by
  induction turns generalizing given s h with
  | zero => exact absurd he throw_not_ok
  | succ turns ih =>
    obtain ⟨rest, turn, more, hrest, rfl, hturned⟩ := scanTurns_turned he
    cases hrest
    have hfirst : ∀ e ∈ [(⟨.scan given, turn⟩ : ObservationEvent)], ObservationEvent.Outside e :=
      fun e he => List.mem_singleton.1 he ▸ outside_scan hgiven
    cases hturned with
    | ends heq =>
      rw [heq, hfence.1] at hfence'
      exact absurd hfence'.1 (by simp)
    | polled hpolls hgiven' hturns =>
      exact EnteredOnce.after hfirst
        (EnteredOnce.after (fun e he => outside_poll (hpolls e he)) (ih hturns hgiven'))
    | @entered _ _ approved fence₁ _ _ hhook hturns =>
      have hcalls := hook_calls hhook
      obtain ⟨heq, turn', more', rfl, hout⟩ := scanTurns_idle hturns (by omega)
      have happroved : approved = true := by
        cases approved with
        | true => rfl
        | false =>
          have hclosed := (hhook.yields beforeTransportEntry_answered).1.2 rfl
          rw [← heq, hfence'.2, hfence.2] at hclosed
          cases hclosed
      subst happroved
      exact EnteredOnce.after hfirst (.intro (h := []) (by simp)
        (beforeTransportEntry_letIn hhook) hout)

variable {profile : ProfileIdentity} {scan : ScanResult}

theorem scanFailed_not_ok {α : Type} {e : MediaServerError} {a : α} :
    ¬ Executes answers (scanFailed fence e : ObservationProg α) s h (.ok a) t := by
  unfold scanFailed
  split
  · exact throw_not_ok
  · split
    · exact throw_not_ok
    · exact returnFailed_not_ok
  · split
    · exact throw_not_ok
    · exact returnFailed_not_ok

theorem dispatch_ok
    (he : Executes answers (dispatch target profile deadline turns) s h (.ok scan) t) :
    EnteredOnce target deadline h ∧ scan.provider = profile.provider ∧
      scan.libraryIdDigest = profile.libraryIdDigest := by
  obtain ⟨⟨fence, result⟩, u, h₁, h₂, rfl, hturns, hrest⟩ := executes_bind_ok.1 he
  cases result with
  | error e =>
    cases e with
    | media e => exact absurd hrest scanFailed_not_ok
    | other => exact absurd hrest throw_not_ok
  | ok found =>
    obtain ⟨rfl, haccepted⟩ := orRaise_ok hrest
    obtain ⟨-, haccepted⟩ := Option.filter_eq_some_iff.1 haccepted
    simp only [Bool.and_eq_true, decide_eq_true_eq] at haccepted
    obtain ⟨⟨⟨hcalls, happroved⟩, hprovider⟩, hlibrary⟩ := haccepted
    rw [List.append_nil]
    exact ⟨scanTurns_entered hturns ⟨rfl, rfl⟩ ⟨hcalls, happroved⟩ rfl, hprovider, hlibrary⟩

end MediaSync.MediaServer
