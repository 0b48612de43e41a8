import MediaSync.MediaServer.ObservationPolls

/-!
# How an observation ends

Whatever it is told, an observation returns no success before the accepted
payload is saved, and afterwards nothing but a success or an unknown completion
with that payload. It looks the author up no more often than its budget has
room for, so the loop of the polls comes to an end; a wait does where the clock
goes on while it waits.
-/

namespace MediaSync.MediaServer

open Program Observation ObservationService

variable {σ : Type} {answers : Answers ObservationCall ObservationCall.Reply σ} {s t : σ}
  {h : List ObservationEvent} {service : ObservationService} {target : PublicationTarget}
  {provider : Provider} {budget : LookupBudget} {deadline : Float}
  {accepted : ObservationPayload} {rounds passes turns : Nat} {profile : ProfileIdentity}

/-- Early returns are of the kind, no loop of the service is cut short, and a wait only where it
may be. -/
def Leaves {α : Type} (returned : Outcome → Prop) (waits : Prop) : Except Halt α → Prop
  | .ok _ => True
  | .error (.returns outcome) => returned outcome
  | .error (.raised _) => True
  | .error .scanning => True
  | .error .waiting => waits
  | .error .polling => False

/-- An accepted payload that is saved is of the kind, and a lookup is made only where it may be. -/
structure Saves (saved : ObservationPayload → Prop) (looks : Prop) (c : ObservationCall) : Prop where
  accepted : ∀ payload, c = .checkpoint .accepted payload → saved payload
  lookup : c.isLookup = true → looks

variable {returned : Outcome → Prop} {waits looks : Prop} {saved : ObservationPayload → Prop}

theorem saves_other {c : ObservationCall} (hcheckpoint : c.isCheckpoint = false)
    (hlookup : c.isLookup = false) : Saves saved looks c := by
  constructor
  · rintro payload rfl
    cases hcheckpoint
  · intro hlook
    rw [hlookup] at hlook
    cases hlook

theorem saves_lookup : Saves saved True (.lookupItem target deadline) :=
  ⟨fun _ he => (by cases he), fun _ => trivial⟩

theorem saves_observed {payload : ObservationPayload} :
    Saves saved looks (.checkpoint .observed payload) :=
  ⟨fun _ he => (by cases he), fun he => (by cases he)⟩

theorem Leaves.error {α β : Type} {e : Halt}
    (he : Leaves returned waits (.error e : Except Halt α)) :
    Leaves returned waits (.error e : Except Halt β) := by
  cases e <;> exact he

theorem leaves_make {c : ObservationCall} (hc : Saves saved looks c) :
    Yields (Saves saved looks) (Leaves returned waits) (make c) :=
  yields_make hc (fun _ => trivial) fun _ => trivial

theorem leaves_returnIf {stop : Bool} {outcome : Outcome} (houtcome : returned outcome) :
    Yields (Saves saved looks) (Leaves returned waits) (returnIf stop outcome) := by
  cases stop with
  | true => exact houtcome
  | false => exact trivial

theorem leaves_cancelledAfter (snapshot : Bool) :
    Yields (Saves saved looks) (Leaves returned waits) (cancelledAfter snapshot) :=
  yields_cancelledAfter (saves_other rfl rfl)
    (saves_other rfl rfl) (fun _ => trivial) fun _ => trivial

theorem leaves_time : Yields (Saves saved looks) (Leaves returned waits) time :=
  yields_time (saves_other rfl rfl) (fun _ => trivial) fun _ => trivial

theorem leaves_timestamp : Yields (Saves saved looks) (Leaves returned waits) timestamp :=
  yields_timestamp (saves_other rfl rfl) (fun _ => trivial) fun _ => trivial

theorem leaves_resolveTarget {authorId : String} :
    Yields (Saves saved looks) (Leaves returned waits) (resolveTarget authorId deadline) :=
  yields_resolveTarget (saves_other rfl rfl) (fun _ => trivial)
    fun _ => trivial

theorem leaves_returnIfCancelled {snapshot : Bool} {outcome : Outcome}
    (houtcome : returned outcome) :
    Yields (Saves saved looks) (Leaves returned waits) (returnIfCancelled snapshot outcome) :=
  (leaves_cancelledAfter snapshot).bind (fun _ _ => leaves_returnIf houtcome)
    fun _ he => he.error

theorem leaves_returnIfLate {outcome : Outcome} (houtcome : returned outcome) :
    Yields (Saves saved looks) (Leaves returned waits) (returnIfLate deadline outcome) :=
  leaves_time.bind (fun _ _ => leaves_returnIf houtcome) fun _ he => he.error

theorem yields_returnFailed {α : Type} {allowed : ObservationCall → Prop}
    {post : Except Halt α → Prop} {code : ErrorCode} {retryable : Bool}
    (hfailed : post (.error (.returns (.failed (.media code) retryable none))))
    (hraised : post (.error (.raised .other))) :
    Yields allowed post (returnFailed code retryable : ObservationProg α) := by
  unfold returnFailed
  split
  · exact hfailed
  · exact hraised

/-- The handler of errors with a code, which returns a failure or raises. -/
theorem leaves_failed {α : Type} {e : Halt}
    (hfailed : ∀ code retryable, returned (.failed code retryable none))
    (he : Leaves returned waits (.error e : Except Halt α)) :
    Yields (Saves saved looks) (Leaves returned waits)
      (onMediaError (fun e => returnFailed e.code e.retryable) e : ObservationProg α) := by
  unfold onMediaError
  split
  · exact yields_returnFailed (hfailed _ _) trivial
  · exact he

/-- The budget after a lookup has one pass less. -/
def Counts (service : ObservationService) (provider : Provider) (budget : LookupBudget) :
    Except Halt (LookupBudget × ItemLookupResult) → Prop
  | .ok (budget', _) => budget'.passesStarted = budget.passesStarted + 1 ∧
    budget.passesStarted < service.limits.maximumPasses provider
  | .error _ => True

theorem start_some {limits : ObservationLimits} {budget' : LookupBudget}
    (hstart : budget.start limits provider = some budget') :
    budget'.passesStarted = budget.passesStarted + 1 ∧
      budget.passesStarted < limits.maximumPasses provider := by
  unfold LookupBudget.start at hstart
  split at hstart
  · cases hstart
  · cases hstart
    exact ⟨rfl, by omega⟩

theorem finish_some {limits : ObservationLimits} {budget' : LookupBudget}
    {result : ItemLookupResult} (hfinish : budget.finish limits provider result = some budget') :
    budget'.passesStarted = budget.passesStarted := by
  unfold LookupBudget.finish at hfinish
  dsimp only at hfinish
  split at hfinish
  · cases hfinish
  · split at hfinish
    · cases hfinish
    · cases hfinish
      rfl

theorem lookupOnce_counts :
    Yields (Saves saved True) (fun x => Leaves returned waits x ∧ Counts service provider budget x)
      (service.lookupOnce target provider budget deadline) := by
  have herror : ∀ {α : Type} (e : Halt), Leaves returned waits (.error e : Except Halt α) →
      Leaves returned waits (.error e : Except Halt (LookupBudget × ItemLookupResult)) ∧
        Counts service provider budget (.error e) := fun e he => ⟨he.error, trivial⟩
  refine Yields.bind (P := fun x => Leaves returned waits x ∧
    ∀ started, x = .ok started → budget.start service.limits provider = some started)
    (yields_orRaise (fun _ hstart => ⟨trivial, fun _ he => by cases he; exact hstart⟩)
      ⟨trivial, fun _ he => by cases he⟩) (fun started hstarted => ?_) fun e he => herror e he.1
  obtain ⟨hpasses, hroom⟩ := start_some (hstarted.2 started rfl)
  refine Yields.bind (P := Leaves returned waits) (Yields.catching (leaves_make saves_lookup)
    (fun _ hok => hok) fun e he => yields_codeOthers e (fun _ => trivial) he)
    (fun reply _ => ?_) herror
  refine Yields.bind (P := Leaves returned waits) (yields_orRaise (fun _ _ => trivial) trivial)
    (fun result _ => ?_) herror
  refine Yields.bind (P := fun x => Leaves returned waits x ∧
    ∀ spent, x = .ok spent → started.finish service.limits provider result = some spent)
    (yields_orRaise (fun _ hfinish => ⟨trivial, fun _ he => by cases he; exact hfinish⟩)
      ⟨trivial, fun _ he => by cases he⟩) (fun spent hspent => ?_) fun e he => herror e he.1
  exact ⟨trivial, (finish_some (hspent.2 spent rfl)).trans hpasses, hroom⟩

/-- Everything but a success. -/
def NoSuccess (outcome : Outcome) : Prop := ∀ payload, outcome ≠ .success payload

theorem noSuccess_failed {code : OutcomeCode} {retryable : Bool}
    {payload : Option ObservationPayload} : NoSuccess (.failed code retryable payload) :=
  fun _ he => by cases he

theorem noSuccess_cancelled : NoSuccess .cancelled := fun _ he => by cases he

theorem leaves_requireSameTarget :
    Yields (Saves saved looks) (Leaves NoSuccess waits) (requireSameTarget target deadline) :=
  (leaves_resolveTarget.catching (fun _ hok => hok) fun _ he =>
      leaves_failed (fun _ _ => noSuccess_failed) he).bind
    (fun _ _ => (leaves_returnIf noSuccess_failed).bind
      (fun _ _ => leaves_returnIfLate noSuccess_failed) fun _ he => he)
    fun _ he => he.error

theorem preDispatchLookup_counts :
    Yields (Saves saved True) (fun x => Leaves NoSuccess waits x ∧ Counts service provider budget x)
      (service.preDispatchLookup target provider budget deadline) := by
  have herror : ∀ {α : Type} (e : Halt), Leaves NoSuccess waits (.error e : Except Halt α) →
      Leaves NoSuccess waits (.error e : Except Halt (LookupBudget × ItemLookupResult)) ∧
        Counts service provider budget (.error e) := fun e he => ⟨he.error, trivial⟩
  refine (leaves_returnIfLate noSuccess_failed).bind (fun _ _ => ?_) herror
  refine Yields.bind (P := fun x => Leaves NoSuccess waits x ∧ Counts service provider budget x)
    (lookupOnce_counts.catching (fun _ hok => hok) fun e he => ?_) (fun found hfound => ?_)
    fun _ he => he
  · unfold onMediaError
    split
    · exact yields_returnFailed ⟨noSuccess_failed, trivial⟩ ⟨trivial, trivial⟩
    · exact ⟨he.1, trivial⟩
  · exact (leaves_returnIfLate noSuccess_failed).bind (fun _ _ => hfound) herror

/-- The budget has been used within its bounds. -/
def Room (service : ObservationService) (provider : Provider) : Except Halt LookupBudget → Prop
  | .ok budget => budget.passesStarted ≤ service.limits.maximumPasses provider
  | .error _ => True

theorem baseline_room :
    Yields (Saves saved True) (fun x => Leaves NoSuccess waits x ∧ Room service provider x)
      (service.baseline target provider deadline) := by
  have herror : ∀ {α : Type} (e : Halt), Leaves NoSuccess waits (.error e : Except Halt α) →
      Leaves NoSuccess waits (.error e : Except Halt LookupBudget) ∧
        Room service provider (.error e) := fun e he => ⟨he.error, trivial⟩
  refine preDispatchLookup_counts.bind (fun found hfound => ?_) fun e he => herror e he.1
  obtain ⟨budget, first⟩ := found
  obtain ⟨hspent, hroom⟩ := hfound.2
  refine (leaves_returnIf noSuccess_failed).bind (fun _ _ => ?_) herror
  cases provider with
  | emby => exact ⟨trivial, by show budget.passesStarted ≤ _; omega⟩
  | jellyfin =>
    refine (leaves_returnIfCancelled noSuccess_cancelled).bind (fun _ _ => ?_) herror
    refine (leaves_returnIfLate noSuccess_failed).bind (fun _ _ => ?_) herror
    refine preDispatchLookup_counts.bind (fun found hfound => ?_) fun e he => herror e he.1
    obtain ⟨budget', second⟩ := found
    obtain ⟨hspent', hroom'⟩ := hfound.2
    refine (leaves_returnIf noSuccess_failed).bind (fun _ _ => ?_) herror
    refine (leaves_returnIf noSuccess_failed).bind (fun _ _ => ?_) herror
    exact ⟨trivial, by show budget'.passesStarted ≤ _; omega⟩

theorem leaves_scanTurns {given : ScanGiven} {fence : TransportFence} :
    Yields (Saves saved looks) (Leaves returned waits)
      (scanTurns target deadline turns given fence) := by
  induction turns generalizing given fence with
  | zero => exact trivial
  | succ turns ih =>
    refine (leaves_make (saves_other rfl rfl)).bind (fun turn _ => ?_)
      fun _ he => he.error
    cases turn with
    | polls =>
      refine Yields.bind (P := IsPolled) (pollCancel_polled.mono (fun c hc => ?_) fun _ hx => hx)
        (fun _ _ => ih) fun _ he => he.elim
      rcases hc with rfl | rfl
      · exact saves_other rfl rfl
      · exact saves_other rfl rfl
    | enters =>
      exact Yields.bind (beforeTransportEntry_answered.mono (fun _ hc => saves_other hc.2.2 hc.1)
        fun _ hx => hx) (fun _ _ => ih) fun _ he => he.elim
    | ends result => exact trivial

theorem leaves_dispatch :
    Yields (Saves saved looks) (Leaves NoSuccess waits) (dispatch target profile deadline turns) := by
  refine leaves_scanTurns.bind (fun found _ => ?_) fun _ he => he.error
  obtain ⟨fence, result⟩ := found
  cases result with
  | error e =>
    cases e with
    | other => exact trivial
    | media e =>
      show Yields _ _ (scanFailed fence e)
      unfold scanFailed
      split
      · exact trivial
      · split
        · exact noSuccess_cancelled
        · exact yields_returnFailed noSuccess_failed trivial
      · split
        · exact noSuccess_cancelled
        · exact yields_returnFailed noSuccess_failed trivial
  | ok scan => exact yields_orRaise (fun _ _ => trivial) noSuccess_failed

/-- What an observation comes to once the accepted payload is saved. -/
def Settles (accepted : ObservationPayload) (outcome : Outcome) : Prop :=
  (∃ payload, outcome = .success payload) ∨ outcome = completionUnknown accepted

def IsUnknown (accepted : ObservationPayload) (outcome : Outcome) : Prop :=
  outcome = completionUnknown accepted

theorem isUnknown : IsUnknown accepted (completionUnknown accepted) := rfl

/-- The result, or what is returned early, is one of these. -/
def Concludes (accepted : ObservationPayload) (waits : Prop) : Except Halt Outcome → Prop
  | .ok outcome => Settles accepted outcome
  | .error e => Leaves (IsUnknown accepted) waits (.error e : Except Halt Outcome)

theorem Leaves.concludes {α : Type} {e : Halt}
    (he : Leaves (IsUnknown accepted) waits (.error e : Except Halt α)) :
    Concludes accepted waits (.error e) :=
  he.error

theorem leaves_waitUntil {notBefore : Float} :
    Yields (Saves saved looks) (Leaves returned True) (waitUntil notBefore deadline rounds) := by
  induction rounds with
  | zero => exact trivial
  | succ rounds ih =>
    refine (leaves_cancelledAfter false).bind (fun cancelled _ => ?_) fun _ he => he.error
    split
    · exact trivial
    · refine leaves_time.bind (fun now _ => ?_) fun _ he => he.error
      split
      · exact trivial
      · split
        · exact trivial
        · refine (leaves_make (saves_other rfl rfl)).bind (fun signalled _ => ?_)
            fun _ he => he.error
          cases signalled with
          | true => exact trivial
          | false => exact ih

theorem concludes_confirm {itemId : String} :
    Yields (Saves (· = accepted) looks) (Concludes accepted waits)
      (service.confirmObservation target accepted deadline itemId) := by
  refine (leaves_returnIfCancelled isUnknown).bind (fun _ _ => ?_) fun _ he => he.concludes
  refine leaves_resolveTarget.bind (fun resolved _ => ?_) fun _ he => he.concludes
  refine (leaves_returnIf isUnknown).bind (fun _ _ => ?_) fun _ he => he.concludes
  refine (leaves_returnIfCancelled isUnknown).bind (fun _ _ => ?_) fun _ he => he.concludes
  refine (leaves_returnIfLate isUnknown).bind (fun _ _ => ?_) fun _ he => he.concludes
  refine Yields.bind (P := Leaves (IsUnknown accepted) waits)
    (yields_orRaise (fun _ _ => trivial) trivial) (fun fingerprint _ => ?_)
    fun _ he => he.concludes
  refine leaves_timestamp.bind (fun observedAt _ => ?_) fun _ he => he.concludes
  refine (leaves_returnIf isUnknown).bind (fun _ _ => ?_) fun _ he => he.concludes
  refine (leaves_make (saves_other rfl rfl)).bind (fun snapshot _ => ?_)
    fun _ he => he.concludes
  refine (leaves_returnIfCancelled isUnknown).bind (fun _ _ => ?_) fun _ he => he.concludes
  refine Yields.bind (P := Leaves (IsUnknown accepted) waits)
    (Yields.catching (leaves_make saves_observed) (fun _ hok => hok)
      fun e he => ?_) (fun _ _ => .inl ⟨_, rfl⟩) fun _ he => he.concludes
  unfold onException
  split
  · exact rfl
  · exact he

/-- The loop of the polls has more passes than the budget has room for. -/
theorem concludes_pollPasses {firstItemId : Option String} {nextPollAt : Float}
    (hpasses : service.limits.maximumPasses provider < passes + budget.passesStarted)
    (hroom : budget.passesStarted ≤ service.limits.maximumPasses provider) :
    Yields (Saves (· = accepted) True) (Concludes accepted True)
      (service.pollPasses target provider accepted deadline rounds passes firstItemId nextPollAt
        budget) := by
  induction passes generalizing firstItemId nextPollAt budget with
  | zero => exact absurd hroom (by omega)
  | succ passes ih =>
    refine leaves_waitUntil.bind (fun ready _ => ?_) fun _ he => he.concludes
    refine (leaves_returnIf isUnknown).bind (fun _ _ => ?_) fun _ he => he.concludes
    refine lookupOnce_counts.bind (fun found hfound => ?_) fun _ he => he.1.concludes
    obtain ⟨budget', result⟩ := found
    obtain ⟨hspent, hleft⟩ := hfound.2
    refine leaves_time.bind (fun completedAt _ => ?_) fun _ he => he.concludes
    refine (leaves_returnIf isUnknown).bind (fun _ _ => ?_) fun _ he => he.concludes
    have hnext : ∀ firstItemId nextPollAt, Yields (Saves (· = accepted) True)
        (Concludes accepted True) (service.pollPasses target provider accepted deadline rounds
          passes firstItemId nextPollAt budget') := fun _ _ => ih (by omega) (by omega)
    split
    · exact (leaves_returnIf isUnknown).bind (fun _ _ => hnext _ _) fun _ he => he.concludes
    · refine Yields.bind (P := Leaves (IsUnknown accepted) True)
        (yields_orRaise (fun _ _ => trivial) trivial) (fun itemId _ => ?_)
        fun _ he => he.concludes
      split
      · refine (leaves_make (saves_other rfl rfl)).bind (fun snapshot _ => ?_)
          fun _ he => he.concludes
        exact (leaves_returnIfCancelled isUnknown).bind (fun _ _ => hnext _ _)
          fun _ he => he.concludes
      · exact (leaves_returnIf isUnknown).bind (fun _ _ => concludes_confirm)
          fun _ he => he.concludes

theorem concludes_pollObservation
    (hroom : budget.passesStarted ≤ service.limits.maximumPasses provider) :
    Yields (Saves (· = accepted) True) (Concludes accepted True)
      (service.pollObservation target provider accepted deadline rounds budget) := by
  refine Yields.catching (P := Concludes accepted True) ?_ (fun _ hok => hok) fun e he => ?_
  · refine (leaves_make (saves_other rfl rfl)).bind (fun snapshot _ => ?_)
      fun _ he => he.concludes
    refine (leaves_returnIfCancelled isUnknown).bind (fun _ _ => ?_) fun _ he => he.concludes
    refine leaves_time.bind (fun now _ => ?_) fun _ he => he.concludes
    exact concludes_pollPasses (by omega) hroom
  · unfold onException
    split
    · exact .inr rfl
    · exact he

theorem concludes_saveAccepted
    (hroom : budget.passesStarted ≤ service.limits.maximumPasses provider) :
    Yields (Saves (· = accepted) True) (Concludes accepted True)
      (service.saveAccepted target provider deadline rounds budget accepted) := by
  refine Yields.bind (P := Leaves (IsUnknown accepted) True) (Yields.catching
    (leaves_make ⟨fun _ he => (by cases he; rfl), fun he => (by cases he)⟩)
    (fun _ hok => hok) fun e he => ?_) (fun snapshot _ => ?_) fun _ he => he.concludes
  · unfold onException
    split
    · exact isUnknown
    · exact he
  · refine (leaves_returnIfCancelled isUnknown).bind (fun _ _ => ?_) fun _ he => he.concludes
    refine (leaves_returnIfLate isUnknown).bind (fun _ _ => ?_) fun _ he => he.concludes
    exact concludes_pollObservation hroom

end MediaSync.MediaServer
