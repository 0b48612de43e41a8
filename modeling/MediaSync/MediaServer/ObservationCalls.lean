import MediaSync.MediaServer.Observation

/-!
# The calls of an observation

What the parts of an observation asked and were told where they succeed. Nothing
is assumed of the answers: a run is any sequence of them, and the service goes
on only after answers that let it.
-/

namespace MediaSync.MediaServer

open Program

/-- A call of an observation with what it was told. -/
abbrev ObservationEvent := Exchange ObservationCall ObservationCall.Reply

namespace ObservationCall

def isLookup : ObservationCall → Bool
  | lookupItem _ _ => true
  | _ => false

def isScan : ObservationCall → Bool
  | scan _ => true
  | _ => false

def isCheckpoint : ObservationCall → Bool
  | checkpoint _ _ => true
  | _ => false

/-- The server is told what the hook answered. -/
def isEntered : ObservationCall → Bool
  | scan (.entered _) => true
  | _ => false

end ObservationCall

/-- What is read of a cancellation: a snapshot before the last checkpoint, one of the flags, or
the end of a wait. -/
def cancelReading : ObservationEvent → Option Bool
  | ⟨.phase _, .ok snapshot⟩ => some snapshot
  | ⟨.checkpoint .accepted _, .ok snapshot⟩ => some snapshot
  | ⟨.progress _, .ok snapshot⟩ => some snapshot
  | ⟨.cancelRequested _, .ok requested⟩ => some requested
  | ⟨.isSet _, .ok requested⟩ => some requested
  | ⟨.wait _, .ok signalled⟩ => some signalled
  | _ => none

/-- A lookup that was complete. -/
def lookupEvent (target : PublicationTarget) (deadline : Float) (result : ItemLookupResult) :
    ObservationEvent :=
  ⟨.lookupItem target deadline, .ok (some result)⟩

/-- The resolver still gives the target. -/
def resolvedEvent (target : PublicationTarget) (deadline : Float) : ObservationEvent :=
  ⟨.resolve target.authorId deadline, .ok (some target)⟩

/-- The monotonic clock shows a time. -/
def timeEvent (now : Float) : ObservationEvent := ⟨.monotonic, .ok (some now)⟩

/-- Neither a lookup nor a turn of a scan nor a checkpoint, and no cancellation is read. -/
structure ObservationEvent.Quiet (e : ObservationEvent) : Prop where
  lookup : e.call.isLookup = false
  scan : e.call.isScan = false
  checkpoint : e.call.isCheckpoint = false
  cancel : cancelReading e ≠ some true

/-- Nothing of what is counted happens in the history. -/
def Quiet (h : List ObservationEvent) : Prop := ∀ e ∈ h, ObservationEvent.Quiet e

theorem Quiet.append {h k : List ObservationEvent} (hh : Quiet h) (hk : Quiet k) :
    Quiet (h ++ k) :=
  fun e he => (List.mem_append.1 he).elim (hh e) (hk e)

theorem quiet_nil : Quiet [] := fun _ he => by cases he

theorem Quiet.cons {e : ObservationEvent} {h : List ObservationEvent}
    (he : ObservationEvent.Quiet e) (hh : Quiet h) : Quiet (e :: h) :=
  fun _ hmem => (List.mem_cons.1 hmem).elim (fun heq => heq ▸ he) (hh _)

theorem quiet_time (now : Float) : ObservationEvent.Quiet (timeEvent now) :=
  ⟨rfl, rfl, rfl, by simp [cancelReading, timeEvent]⟩

theorem quiet_resolved (target : PublicationTarget) (deadline : Float) :
    ObservationEvent.Quiet (resolvedEvent target deadline) :=
  ⟨rfl, rfl, rfl, by simp [cancelReading, resolvedEvent]⟩

theorem quiet_progress (current : Nat) :
    ObservationEvent.Quiet ⟨.progress current, .ok false⟩ :=
  ⟨rfl, rfl, rfl, by simp [cancelReading]⟩

theorem quiet_phase (phase : ObservationPhase) :
    ObservationEvent.Quiet ⟨.phase phase, .ok false⟩ :=
  ⟨rfl, rfl, rfl, by simp [cancelReading]⟩

theorem quiet_clock (value : Option Int) : ObservationEvent.Quiet ⟨.clock, .ok value⟩ :=
  ⟨rfl, rfl, rfl, by simp [cancelReading]⟩

namespace Observation

variable {σ : Type} {answers : Answers ObservationCall ObservationCall.Reply σ} {s t : σ}
  {h : List ObservationEvent}

/-- A call that is answered leaves itself in the history. -/
theorem make_ok {c : ObservationCall} {v : c.Value} (he : Executes answers (make c) s h (.ok v) t) :
    h = [⟨c, .ok v⟩] := by
  obtain ⟨r, u, h', rfl, hans, hdone⟩ := executes_call.1 he
  obtain ⟨rfl, hr, rfl⟩ := executes_done.1 hdone
  cases r with
  | error e => cases hr
  | ok w =>
    cases hr
    rfl

theorem orRaise_ok {α : Type} {value : Option α} {failure : Halt} {a : α}
    (he : Executes answers (orRaise value failure) s h (.ok a) t) : h = [] ∧ value = some a := by
  obtain ⟨rfl, hvalue, -⟩ := executes_done.1 he
  cases value with
  | none => cases hvalue
  | some b =>
    cases hvalue
    exact ⟨rfl, rfl⟩

/-- Where the observation goes on, the condition did not hold. -/
theorem returnIf_ok {stop : Bool} {outcome : Outcome} {v : Unit}
    (he : Executes answers (returnIf stop outcome) s h (.ok v) t) : h = [] ∧ stop = false := by
  obtain ⟨rfl, hstop, -⟩ := executes_require_ok.1 he
  exact ⟨rfl, by simpa using hstop⟩

theorem throw_not_ok {α : Type} {failure : Halt} {a : α} :
    ¬ Executes answers (Prog.throw failure : ObservationProg α) s h (.ok a) t := by
  intro he
  have herror := (executes_throw.1 he).2.1
  cases herror

theorem codeOthers_not_ok {α : Type} {code : ErrorCode} (failure : Halt) {a : α} :
    ¬ Executes answers (codeOthers code failure : ObservationProg α) s h (.ok a) t := by
  unfold codeOthers
  split <;> exact throw_not_ok

theorem returnFailed_not_ok {α : Type} {code : ErrorCode} {retryable : Bool} {a : α} :
    ¬ Executes answers (returnFailed code retryable : ObservationProg α) s h (.ok a) t := by
  unfold returnFailed
  split <;> exact throw_not_ok

theorem onMediaError_not_ok {α : Type} (failure : Halt) {a : α} :
    ¬ Executes answers (onMediaError (fun e => returnFailed e.code e.retryable) failure :
      ObservationProg α) s h (.ok a) t := by
  unfold onMediaError
  split
  · exact returnFailed_not_ok
  · exact throw_not_ok

theorem onException_not_ok {α : Type} {handler : Raised → Halt} (failure : Halt) {a : α} :
    ¬ Executes answers (onException (fun e => Prog.throw (handler e)) failure :
      ObservationProg α) s h (.ok a) t := by
  unfold onException
  split <;> exact throw_not_ok

theorem time_ok {now : Float} (he : Executes answers time s h (.ok now) t) :
    h = [timeEvent now] := by
  obtain ⟨value, u, h₁, h₂, rfl, hmake, hvalue⟩ := executes_bind_ok.1 he
  obtain ⟨rfl, hfinite⟩ := orRaise_ok hvalue
  rw [make_ok hmake, (Option.filter_eq_some_iff.1 hfinite).1]
  rfl

theorem timestamp_ok {now : Int} (he : Executes answers timestamp s h (.ok now) t) :
    h = [⟨.clock, .ok (some now)⟩] := by
  obtain ⟨value, u, h₁, h₂, rfl, hmake, hvalue⟩ := executes_bind_ok.1 he
  obtain ⟨rfl, rfl⟩ := orRaise_ok hvalue
  rw [make_ok hmake, List.append_nil]

/-- Both flags, read as not set. -/
def flagsClear : List ObservationEvent :=
  [⟨.cancelRequested .service, .ok false⟩, ⟨.isSet .service, .ok false⟩]

theorem cancelledAfter_false {snapshot : Bool}
    (he : Executes answers (cancelledAfter snapshot) s h (.ok false) t) :
    snapshot = false ∧ h = flagsClear := by
  cases snapshot with
  | true =>
    have hvalue := (executes_pure.1 he).2.1
    cases hvalue
  | false =>
    refine ⟨rfl, ?_⟩
    obtain ⟨requested, u, h₁, h₂, rfl, hflag, hrest⟩ := executes_bind_ok.1 he
    rw [make_ok hflag]
    cases requested with
    | true =>
      have hvalue := (executes_pure.1 hrest).2.1
      cases hvalue
    | false =>
      rw [make_ok hrest]
      rfl

theorem returnIfCancelled_ok {snapshot : Bool} {outcome : Outcome} {v : Unit}
    (he : Executes answers (returnIfCancelled snapshot outcome) s h (.ok v) t) :
    snapshot = false ∧ h = flagsClear := by
  obtain ⟨cancelled, u, h₁, h₂, rfl, hcancelled, hreturn⟩ := executes_bind_ok.1 he
  obtain ⟨rfl, rfl⟩ := returnIf_ok hreturn
  rw [List.append_nil]
  exact cancelledAfter_false hcancelled

theorem returnIfLate_ok {deadline : Float} {outcome : Outcome} {v : Unit}
    (he : Executes answers (returnIfLate deadline outcome) s h (.ok v) t) :
    ∃ now, ¬ deadline ≤ now ∧ h = [timeEvent now] := by
  obtain ⟨now, u, h₁, h₂, rfl, htime, hreturn⟩ := executes_bind_ok.1 he
  obtain ⟨rfl, hlate⟩ := returnIf_ok hreturn
  refine ⟨now, by simpa using hlate, ?_⟩
  rw [time_ok htime, List.append_nil]

theorem resolveTarget_ok {authorId : String} {deadline : Float} {target : PublicationTarget}
    (he : Executes answers (resolveTarget authorId deadline) s h (.ok target) t) :
    h = [⟨.resolve authorId deadline, .ok (some target)⟩] := by
  obtain ⟨value, u, h₁, h₂, rfl, hmake, hvalue⟩ := executes_bind_ok.1 he
  obtain ⟨rfl, rfl⟩ := orRaise_ok hvalue
  rw [make_ok ((executes_catching_ok fun e _ _ _ => codeOthers_not_ok e).1 hmake),
    List.append_nil]

/-- The target is still the same and the deadline is not over. -/
theorem requireSameTarget_ok {target : PublicationTarget} {deadline : Float} {v : Unit}
    (he : Executes answers (requireSameTarget target deadline) s h (.ok v) t) :
    ∃ now, ¬ deadline ≤ now ∧ h = [resolvedEvent target deadline, timeEvent now] := by
  obtain ⟨resolved, u, h₁, h₂, rfl, hresolve, hrest⟩ := executes_bind_ok.1 he
  obtain ⟨_, w, k₁, k₂, rfl, hsame, hlate⟩ := executes_bind_ok.1 hrest
  obtain ⟨rfl, hkept⟩ := returnIf_ok hsame
  obtain ⟨now, hnow, rfl⟩ := returnIfLate_ok hlate
  rw [resolveTarget_ok
    ((executes_catching_ok fun e _ _ _ => onMediaError_not_ok e).1 hresolve)]
  have heq : resolved = target := by simpa using hkept
  rw [heq]
  exact ⟨now, hnow, rfl⟩

theorem profileIdentity_ok {identity : ProfileIdentity}
    (he : Executes answers profileIdentity s h (.ok identity) t) :
    ∃ fingerprint summary, checkProfile fingerprint summary = .ok identity ∧
      h = [⟨.profileFingerprint, .ok fingerprint⟩, ⟨.safeSummary, .ok summary⟩] := by
  obtain ⟨fingerprint, u, h₁, h₂, rfl, hfingerprint, hrest⟩ := executes_bind_ok.1 he
  obtain ⟨summary, w, k₁, k₂, rfl, hsummary, hcheck⟩ := executes_bind_ok.1 hrest
  obtain ⟨rfl, hok, -⟩ := executes_done.1 hcheck
  refine ⟨fingerprint, summary, hok.symm, ?_⟩
  rw [make_ok hfingerprint, make_ok hsummary]
  rfl

theorem quiet_flagsClear : Quiet flagsClear :=
  .cons ⟨rfl, rfl, rfl, by simp [cancelReading]⟩
    (.cons ⟨rfl, rfl, rfl, by simp [cancelReading]⟩ quiet_nil)

variable {allowed : ObservationCall → Prop}

theorem yields_make {c : ObservationCall} {post : Except Halt c.Value → Prop} (hc : allowed c)
    (hok : ∀ v, post (.ok v)) (hraised : ∀ e, post (.error (.raised e))) :
    Yields allowed post (make c) := by
  refine ⟨hc, fun reply => ?_⟩
  cases reply with
  | ok v => exact hok v
  | error e => exact hraised e

theorem yields_cancelRequested {reader : Reader} {post : Except Halt Bool → Prop}
    (hrequested : allowed (.cancelRequested reader)) (hset : allowed (.isSet reader))
    (hok : ∀ v, post (.ok v)) (hraised : ∀ e, post (.error (.raised e))) :
    Yields allowed post (cancelRequested reader) := by
  refine Yields.bind (P := fun x => ∀ e, x = .error e → post (.error e))
    (yields_make hrequested (fun _ e he => by cases he) fun e _ he => by cases he; exact hraised e)
    (fun requested _ => ?_) fun e he => he e rfl
  cases requested with
  | true => exact hok _
  | false => exact yields_make hset hok hraised

theorem yields_cancelledAfter {post : Except Halt Bool → Prop} {snapshot : Bool}
    (hrequested : allowed (.cancelRequested .service)) (hset : allowed (.isSet .service))
    (hok : ∀ v, post (.ok v)) (hraised : ∀ e, post (.error (.raised e))) :
    Yields allowed post (cancelledAfter snapshot) := by
  cases snapshot with
  | true => exact hok _
  | false => exact yields_cancelRequested hrequested hset hok hraised

theorem yields_orRaise {α : Type} {value : Option α} {failure : Halt}
    {post : Except Halt α → Prop} (hok : ∀ a, value = some a → post (.ok a))
    (hfail : post (.error failure)) : Yields allowed post (orRaise value failure) := by
  cases value with
  | none => exact hfail
  | some a => exact hok a rfl

theorem yields_time {post : Except Halt Float → Prop} (hc : allowed .monotonic)
    (hok : ∀ v, post (.ok v)) (hraised : ∀ e, post (.error (.raised e))) :
    Yields allowed post time :=
  Yields.bind (P := fun x => ∀ e, x = .error e → post (.error e))
    (yields_make hc (fun _ e he => by cases he) fun e _ he => by cases he; exact hraised e)
    (fun _ _ => yields_orRaise (fun a _ => hok a) (hraised _)) fun e he => he e rfl

theorem yields_timestamp {post : Except Halt Int → Prop} (hc : allowed .clock)
    (hok : ∀ v, post (.ok v)) (hraised : ∀ e, post (.error (.raised e))) :
    Yields allowed post timestamp :=
  Yields.bind (P := fun x => ∀ e, x = .error e → post (.error e))
    (yields_make hc (fun _ e he => by cases he) fun e _ he => by cases he; exact hraised e)
    (fun _ _ => yields_orRaise (fun a _ => hok a) (hraised _)) fun e he => he e rfl

theorem yields_codeOthers {α : Type} {code : ErrorCode} {post : Except Halt α → Prop} (e : Halt)
    (hraised : ∀ e, post (.error (.raised e))) (he : post (.error e)) :
    Yields allowed post (codeOthers code e : ObservationProg α) := by
  unfold codeOthers
  split
  · exact hraised _
  · exact he

theorem yields_resolveTarget {authorId : String} {deadline : Float}
    {post : Except Halt PublicationTarget → Prop} (hc : allowed (.resolve authorId deadline))
    (hok : ∀ v, post (.ok v)) (hraised : ∀ e, post (.error (.raised e))) :
    Yields allowed post (resolveTarget authorId deadline) := by
  refine Yields.bind (P := fun x => ∀ e, x = .error e → post (.error e))
    (Yields.catching (P := fun x => ∀ e, x = .error e → post (.error e))
      (yields_make hc (fun _ e he => by cases he) fun e _ he => by cases he; exact hraised e)
      (fun _ hx => hx) fun e he => ?_)
    (fun _ _ => yields_orRaise (fun a _ => hok a) (hraised _)) fun e he => he e rfl
  exact yields_codeOthers e (fun e' _ heq => by cases heq; exact hraised e')
    (fun e' heq => by cases heq; exact he e rfl)

end Observation

end MediaSync.MediaServer
