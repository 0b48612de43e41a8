import MediaSync.MediaServer.ObservationOutcomes

/-!
# Observations as a whole

A run of an observation is any sequence of answers to its calls. Its lookups fit
the budget, it comes to an end with the clock, it returns nothing but an unknown
completion once the refresh may have been accepted, and a success has all the
evidence behind it.
-/

namespace MediaSync.MediaServer

open Program Observation ObservationService

variable {σ : Type} {answers : Answers ObservationCall ObservationCall.Reply σ} {s t : σ}
  {h : List ObservationEvent} {service : ObservationService} {target : PublicationTarget}
  {provider : Provider} {budget : LookupBudget} {deadline : Float}
  {accepted : ObservationPayload} {rounds passes turns : Nat} {profile : ProfileIdentity}

/-- The passes that a budget has left. -/
def LookupBudget.left (service : ObservationService) (provider : Provider) (budget : LookupBudget) :
    Nat :=
  service.limits.maximumPasses provider - budget.passesStarted

/-- A program that makes no lookup keeps what is left. -/
theorem spends_none {α : Type} {m : ObservationProg α} {P : Except Halt α → Prop} (n : Nat)
    (hm : Yields (Saves (fun _ => True) False) P m) :
    Spends ObservationCall.isLookup (fun _ => n) n m :=
  Spends.of_yields (hm.mono (fun c hc => by
    cases hlook : c.isLookup with
    | false => rfl
    | true => exact (hc.lookup hlook).elim) fun _ hx => hx) fun _ _ => Nat.le_refl n

theorem spends_orRaise {α β : Type} {value : Option α} {failure : Halt} {left : β → Nat} {n : Nat}
    {f : α → ObservationProg β}
    (hf : ∀ a, value = some a → Spends ObservationCall.isLookup left n (f a)) :
    Spends ObservationCall.isLookup left n (orRaise value failure >>= f) := by
  cases value with
  | none => exact trivial
  | some a => exact hf a rfl

/-- So does one that leaves in any way. -/
theorem spends_part {α : Type} {m : ObservationProg α} (n : Nat)
    (hm : Yields (Saves (fun _ => True) False) (Leaves (fun _ => True) True) m) :
    Spends ObservationCall.isLookup (fun _ => n) n m :=
  spends_none n hm

theorem spends_lookupOnce :
    Spends ObservationCall.isLookup (fun found => found.1.left service provider)
      (budget.left service provider) (service.lookupOnce target provider budget deadline) := by
  refine spends_orRaise fun started hstart => ?_
  obtain ⟨hpasses, hroom⟩ := start_some hstart
  have hasked : Spends ObservationCall.isLookup (fun _ => started.left service provider)
      (budget.left service provider)
      ((make (.lookupItem target deadline)).catching (codeOthers .itemLookupIncomplete)) := by
    refine Spends.catching ⟨started.left service provider, ?_, fun reply => ?_⟩ fun e => ?_
    · unfold LookupBudget.left
      omega
    · cases reply with
      | ok value => exact Nat.le_refl _
      | error e => exact trivial
    · unfold codeOthers
      split <;> exact trivial
  refine hasked.bind fun reply => spends_orRaise fun result _ => spends_orRaise fun spent hspent => ?_
  show spent.left service provider ≤ started.left service provider
  unfold LookupBudget.left
  rw [finish_some hspent]

theorem spends_returnFailed {α : Type} {code : ErrorCode} {retryable : Bool} {left : α → Nat}
    {n : Nat} :
    Spends ObservationCall.isLookup left n (returnFailed code retryable : ObservationProg α) := by
  unfold returnFailed
  split <;> exact trivial

theorem spends_preDispatchLookup :
    Spends ObservationCall.isLookup (fun found => found.1.left service provider)
      (budget.left service provider)
      (service.preDispatchLookup target provider budget deadline) := by
  refine (spends_part _ (leaves_returnIfLate trivial)).bind fun _ => ?_
  refine (spends_lookupOnce.catching fun e => ?_).bind fun found =>
    (spends_part _ (leaves_returnIfLate trivial)).bind fun _ => Nat.le_refl _
  unfold onMediaError
  split
  · exact spends_returnFailed
  · exact trivial

theorem spends_baseline :
    Spends ObservationCall.isLookup (fun budget => budget.left service provider)
      (service.limits.maximumPasses provider) (service.baseline target provider deadline) := by
  show Spends _ _ (LookupBudget.new.left service provider) _
  refine spends_preDispatchLookup.bind fun found => ?_
  refine (spends_part _ (leaves_returnIf trivial)).bind fun _ => ?_
  cases provider with
  | emby => exact Nat.le_refl _
  | jellyfin =>
    refine (spends_part _ (leaves_returnIfCancelled trivial)).bind fun _ => ?_
    refine (spends_part _ (leaves_returnIfLate trivial)).bind fun _ => ?_
    refine spends_preDispatchLookup.bind fun second => ?_
    refine (spends_part _ (leaves_returnIf trivial)).bind fun _ => ?_
    exact (spends_part _ (leaves_returnIf trivial)).bind fun _ => Nat.le_refl _

theorem spends_confirm {itemId : String} :
    Spends ObservationCall.isLookup (fun _ => 0) 0
      (service.confirmObservation target accepted deadline itemId) := by
  have hconfirm : Yields (Saves (· = accepted) False) (Concludes accepted True)
      (service.confirmObservation target accepted deadline itemId) := concludes_confirm
  exact spends_none 0 (hconfirm.mono (fun _ hc => ⟨fun _ _ => trivial, hc.lookup⟩) fun _ hx => hx)

theorem spends_pollPasses {firstItemId : Option String} {nextPollAt : Float} :
    Spends ObservationCall.isLookup (fun _ => 0) (budget.left service provider)
      (service.pollPasses target provider accepted deadline rounds passes firstItemId nextPollAt
        budget) := by
  induction passes generalizing firstItemId nextPollAt budget with
  | zero => exact trivial
  | succ passes ih =>
    refine (spends_part _ leaves_waitUntil).bind fun ready => ?_
    refine (spends_part _ (leaves_returnIf trivial)).bind fun _ => ?_
    refine spends_lookupOnce.bind fun found => ?_
    refine (spends_part _ leaves_time).bind fun completedAt => ?_
    refine (spends_part _ (leaves_returnIf trivial)).bind fun _ => ?_
    split
    · exact (spends_part _ (leaves_returnIf trivial)).bind fun _ => ih
    · refine spends_orRaise fun itemId _ => ?_
      split
      · refine (spends_part _ (leaves_make (saves_other rfl rfl))).bind fun snapshot => ?_
        exact (spends_part _ (leaves_returnIfCancelled trivial)).bind fun _ => ih
      · refine (spends_part _ (leaves_returnIf trivial)).bind fun _ => ?_
        exact spends_confirm.more (Nat.zero_le _)

theorem spends_saveAccepted :
    Spends ObservationCall.isLookup (fun _ => 0) (budget.left service provider)
      (service.saveAccepted target provider deadline rounds budget accepted) := by
  refine Spends.bind (spends_part _ (Yields.catching (leaves_make ⟨fun _ _ => trivial,
    fun he => (by cases he)⟩) (fun _ hok => hok) fun e he => ?_)) fun snapshot => ?_
  · unfold onException
    split
    · exact trivial
    · exact he
  · refine (spends_part _ (leaves_returnIfCancelled trivial)).bind fun _ => ?_
    refine (spends_part _ (leaves_returnIfLate trivial)).bind fun _ => ?_
    refine Spends.catching ?_ fun e => ?_
    · refine (spends_part _ (leaves_make (saves_other rfl rfl))).bind fun snapshot => ?_
      refine (spends_part _ (leaves_returnIfCancelled trivial)).bind fun _ => ?_
      exact (spends_part _ leaves_time).bind fun now => spends_pollPasses
    · unfold onException
      split
      · exact Nat.le_refl 0
      · exact trivial

/-- Under one profile there are no more lookups than its provider has passes for. -/
theorem spends_observeProfile :
    Spends ObservationCall.isLookup (fun _ => 0) (service.limits.maximumPasses profile.provider)
      (service.observeProfile target turns rounds deadline profile) := by
  refine (spends_part _ (leaves_make (saves_other rfl rfl))).bind fun snapshot => ?_
  refine (spends_part _ (leaves_returnIfCancelled trivial)).bind fun _ => ?_
  have hsame : Yields (Saves (fun _ => True) False) (Leaves NoSuccess True)
      (requireSameTarget target deadline) := leaves_requireSameTarget
  refine (spends_none _ hsame).bind fun _ => ?_
  refine (spends_part _ (leaves_returnIfCancelled trivial)).bind fun _ => ?_
  refine spends_baseline.bind fun budget => ?_
  have hdispatch : Yields (Saves (fun _ => True) False) (Leaves NoSuccess True)
      (dispatch target profile deadline turns) := leaves_dispatch
  refine (spends_none _ hdispatch).bind fun scan => ?_
  exact (spends_part _ leaves_timestamp).bind fun acceptedAt => spends_saveAccepted

/-! ## The clock -/

/-- A machine on which time goes on in ticks. From some tick on every reading has reached the
deadline, and a wait for a moment to come takes a tick where it was not signalled. -/
structure Clocked (answers : Answers ObservationCall ObservationCall.Reply σ) (clock : σ → Nat)
    (deadline : Float) (horizon : Nat) : Prop where
  forward : ∀ c s reply t, answers c s reply t → clock s ≤ clock t
  late : ∀ s t now, answers .monotonic s (.ok (some now)) t → horizon ≤ clock s → deadline ≤ now
  waited : ∀ aim now s t, ¬ aim ≤ now → answers (.wait (aim - now)) s (.ok false) t →
    clock s < clock t

variable {clock : σ → Nat} {horizon : Nat}

theorem Clocked.le {α : Type} {m : ObservationProg α} {x : Except Halt α}
    (hclock : Clocked answers clock deadline horizon) (he : Executes answers m s h x t) :
    clock s ≤ clock t := by
  induction he with
  | done => exact Nat.le_refl _
  | call hans _ ih => exact Nat.le_trans (hclock.forward _ _ _ _ hans) ih

theorem time_answers {now : Float} (he : Executes answers time s h (.ok now) t) :
    answers .monotonic s (.ok (some now)) t := by
  obtain ⟨value, u, h₁, h₂, rfl, hmake, hvalue⟩ := executes_bind_ok.1 he
  obtain ⟨-, hfinite⟩ := orRaise_ok hvalue
  have heq := (executes_done.1 hvalue).2.2
  obtain ⟨reply, v, h', hh, hans, hdone⟩ := executes_call.1 hmake
  obtain ⟨rfl, hreply, rfl⟩ := executes_done.1 hdone
  cases reply with
  | error e => cases hreply
  | ok w =>
    cases hreply
    rw [heq, ← (Option.filter_eq_some_iff.1 hfinite).1]
    exact hans

/-- There are fewer ticks left than rounds. -/
def InTime (clock : σ → Nat) (horizon rounds : Nat) (s : σ) : Prop := horizon - clock s < rounds

theorem InTime.later (hs : InTime clock horizon rounds s) (hle : clock s ≤ clock t) :
    InTime clock horizon rounds t := by
  unfold InTime at *
  omega

/-- The parts of an observation that do not wait. -/
theorem avoids_part {α : Type} {m : ObservationProg α}
    (hm : Yields (Saves (fun _ => True) True) (Leaves (fun _ => True) False) m) :
    Avoids answers .waiting m s :=
  .of_yields hm id

theorem earlier_not_le {notBefore now : Float} (hsoon : ¬ notBefore ≤ now)
    (hearly : ¬ deadline ≤ now) : ¬ earlier notBefore deadline ≤ now := by
  unfold earlier
  split
  · exact hearly
  · exact hsoon

theorem avoids_waitUntil (hclock : Clocked answers clock deadline horizon) {notBefore : Float}
    (hs : InTime clock horizon rounds s) :
    Avoids answers .waiting (waitUntil notBefore deadline rounds) s := by
  induction rounds generalizing s with
  | zero => exact absurd hs (Nat.not_lt_zero _)
  | succ rounds ih =>
    refine (avoids_part (leaves_cancelledAfter false)).bind ?_
    intro cancelled h₁ t hclear
    have hle := hclock.le hclear
    split
    · exact avoids_part trivial
    · refine (avoids_part leaves_time).bind ?_
      intro now h₂ u htime
      split
      · exact avoids_part trivial
      · rename_i hearly
        -- a reading before the deadline leaves a tick
        have hleft : clock t < horizon := Nat.lt_of_not_le fun hlate =>
          hearly (hclock.late _ _ _ (time_answers htime) hlate)
        have hafter := hclock.le htime
        split
        · exact avoids_part trivial
        · rename_i hsoon
          refine (avoids_part (leaves_make (saves_other rfl rfl))).bind ?_
          intro signalled h₃ v hwait
          cases signalled with
          | true => exact avoids_part trivial
          | false =>
            obtain ⟨reply, w, h', hh, hans, hdone⟩ := executes_call.1 hwait
            obtain ⟨-, hreply, rfl⟩ := executes_done.1 hdone
            cases reply with
            | error e => cases hreply
            | ok value =>
              cases hreply
              have hlater := hclock.waited _ _ _ _ (earlier_not_le hsoon hearly) hans
              refine ih ?_
              unfold InTime at *
              omega

theorem avoids_confirm {itemId : String} :
    Avoids answers .waiting (service.confirmObservation target accepted deadline itemId) s := by
  have hconfirm : Yields (Saves (· = accepted) False) (Concludes accepted False)
      (service.confirmObservation target accepted deadline itemId) := concludes_confirm
  exact .of_yields hconfirm id

theorem avoids_pollPasses (hclock : Clocked answers clock deadline horizon) {firstItemId : Option String}
    {nextPollAt : Float} (hs : InTime clock horizon rounds s) :
    Avoids answers .waiting (service.pollPasses target provider accepted deadline rounds passes
      firstItemId nextPollAt budget) s := by
  induction passes generalizing firstItemId nextPollAt budget s with
  | zero =>
    intro h t he
    have herror := (executes_throw.1 he).2.1
    cases herror
  | succ passes ih =>
    refine (avoids_waitUntil hclock hs).bind fun ready h₁ s₁ hready => ?_
    refine (avoids_part (leaves_returnIf trivial)).bind fun _ h₂ s₂ hreturn => ?_
    have hlooks : Yields (Saves (fun _ => True) True) (fun x => Leaves (fun _ => True) False x ∧
        Counts service provider budget x)
        (service.lookupOnce target provider budget deadline) := lookupOnce_counts
    refine (Avoids.of_yields hlooks And.left).bind fun found h₃ s₃ hlookup => ?_
    refine (avoids_part leaves_time).bind fun completedAt h₄ s₄ htime => ?_
    have hle : clock s ≤ clock s₄ := (hclock.le hready).trans ((hclock.le hreturn).trans
      ((hclock.le hlookup).trans (hclock.le htime)))
    refine (avoids_part (leaves_returnIf trivial)).bind fun _ h₅ s₅ hlate => ?_
    have hle' := hle.trans (hclock.le hlate)
    split
    · exact (avoids_part (leaves_returnIf trivial)).bind fun _ _ _ hreturn' =>
        ih (hs.later (hle'.trans (hclock.le hreturn')))
    · refine Avoids.bind (avoids_part (yields_orRaise (fun _ _ => trivial) trivial))
        fun itemId _ s₆ hitem => ?_
      have hle'' := hle'.trans (hclock.le hitem)
      split
      · refine (avoids_part (leaves_make (saves_other rfl rfl))).bind
          fun snapshot _ s₇ hprogress => ?_
        exact (avoids_part (leaves_returnIfCancelled trivial)).bind fun _ _ _ hclear =>
          ih (hs.later (hle''.trans ((hclock.le hprogress).trans (hclock.le hclear))))
      · refine (avoids_part (leaves_returnIf trivial)).bind fun _ _ _ _ => ?_
        exact avoids_confirm

theorem avoids_saveAccepted (hclock : Clocked answers clock deadline horizon)
    (hs : InTime clock horizon rounds s) :
    Avoids answers .waiting (service.saveAccepted target provider deadline rounds budget
      accepted) s := by
  refine Avoids.bind (avoids_part (Yields.catching (leaves_make ⟨fun _ _ => trivial,
    fun he => (by cases he)⟩) (fun _ hok => hok) fun e he => ?_)) fun snapshot _ s₁ hsaved => ?_
  · unfold onException
    split
    · exact trivial
    · exact he
  refine (avoids_part (leaves_returnIfCancelled trivial)).bind fun _ _ s₂ hclear => ?_
  refine (avoids_part (leaves_returnIfLate trivial)).bind fun _ _ s₃ hlate => ?_
  have hle : clock s ≤ clock s₃ :=
    (hclock.le hsaved).trans ((hclock.le hclear).trans (hclock.le hlate))
  refine Avoids.catching fun e _ u hbody => ?_
  unfold onException
  split
  · exact avoids_part trivial
  · rintro _ _ hthrow
    have herror := (executes_throw.1 hthrow).2.1
    cases herror
    refine Avoids.bind (avoids_part (leaves_make (saves_other rfl rfl)))
      (fun snapshot _ s₄ hprogress => ?_) _ _ hbody
    refine (avoids_part (leaves_returnIfCancelled trivial)).bind fun _ _ s₅ hclear' => ?_
    refine (avoids_part leaves_time).bind fun now _ s₆ htime => ?_
    exact avoids_pollPasses hclock (hs.later (hle.trans ((hclock.le hprogress).trans
      ((hclock.le hclear').trans (hclock.le htime)))))

/-- Where there are more rounds than ticks before the deadline, no wait is cut short. -/
theorem avoids_observeProfile (hclock : Clocked answers clock deadline horizon)
    (hs : InTime clock horizon rounds s) :
    Avoids answers .waiting (service.observeProfile target turns rounds deadline profile) s := by
  have hsame : Yields (Saves (fun _ => True) True) (Leaves NoSuccess False)
      (requireSameTarget target deadline) := leaves_requireSameTarget
  have hbaseline : Yields (Saves (fun _ => True) True) (fun x => Leaves NoSuccess False x ∧
      Room service profile.provider x) (service.baseline target profile.provider deadline) :=
    baseline_room
  have hdispatch : Yields (Saves (fun _ => True) True) (Leaves NoSuccess False)
      (dispatch target profile deadline turns) := leaves_dispatch
  refine (avoids_part (leaves_make (saves_other rfl rfl))).bind fun snapshot _ s₁ hphase => ?_
  refine (avoids_part (leaves_returnIfCancelled trivial)).bind fun _ _ s₂ hclear => ?_
  refine (Avoids.of_yields hsame id).bind fun _ _ s₃ hresolved => ?_
  refine (avoids_part (leaves_returnIfCancelled trivial)).bind fun _ _ s₄ hclear' => ?_
  refine (Avoids.of_yields hbaseline And.left).bind fun budget _ s₅ habsent => ?_
  refine (Avoids.of_yields hdispatch id).bind fun scan _ s₆ hscan => ?_
  refine (avoids_part leaves_timestamp).bind fun acceptedAt _ s₇ hstamp => ?_
  exact avoids_saveAccepted hclock (hs.later ((hclock.le hphase).trans ((hclock.le hclear).trans
    ((hclock.le hresolved).trans ((hclock.le hclear').trans ((hclock.le habsent).trans
      ((hclock.le hscan).trans (hclock.le hstamp))))))))

/-- The accepted scan was saved in time, and the polls saw the item twice. -/
inductive AcceptedThenSeen (service : ObservationService) (target : PublicationTarget)
    (accepted : ObservationPayload) (deadline : Float) (payload : ObservationPayload) :
    List ObservationEvent → Prop
  | intro {h : List ObservationEvent} {now : Float} :
      ¬ deadline ≤ now → SeenTwice service target accepted deadline payload h →
      AcceptedThenSeen service target accepted deadline payload
        (⟨.checkpoint .accepted accepted, .ok false⟩ :: (flagsClear ++ timeEvent now :: h))

/-- The evidence behind a success. The deadline is the timeout after the first reading of the
clock; a scan of the profile's library was let in once, after a baseline without the item and
before the polls that saw it. -/
inductive Observed (service : ObservationService) (target : PublicationTarget)
    (payload : ObservationPayload) : List ObservationEvent → Prop
  | intro {started deadline : Float} {acceptedAt : Int} {fingerprint : Option String}
      {summary : Option SafeSummary} {profile : ProfileIdentity} {scan : ScanResult}
      {before during after : List ObservationEvent} :
      deadline = started + service.limits.timeout →
      checkProfile fingerprint summary = .ok profile →
      BaselineAbsent target deadline profile.provider before →
      EnteredOnce target deadline during →
      scan.provider = profile.provider → scan.libraryIdDigest = profile.libraryIdDigest →
      AcceptedThenSeen service target (acceptedPayload target scan profile.fingerprint acceptedAt)
        deadline payload after →
      Observed service target payload (timeEvent started ::
        ⟨.profileFingerprint, .ok fingerprint⟩ :: ⟨.safeSummary, .ok summary⟩ ::
          (before ++ (during ++ ⟨.clock, .ok (some acceptedAt)⟩ :: after)))

theorem saveAccepted_ok {payload : ObservationPayload}
    (he : Executes answers (service.saveAccepted target provider deadline rounds budget accepted)
      s h (.ok (.success payload)) t) :
    AcceptedThenSeen service target accepted deadline payload h := by
  obtain ⟨snapshot, _, _, _, rfl, hsaved, he₁⟩ := executes_bind_ok.1 he
  obtain ⟨_, _, _, _, rfl, hclear, he₂⟩ := executes_bind_ok.1 he₁
  obtain ⟨_, _, _, _, rfl, hlate, hpolls⟩ := executes_bind_ok.1 he₂
  obtain ⟨rfl, rfl⟩ := returnIfCancelled_ok hclear
  obtain ⟨now, hnow, rfl⟩ := returnIfLate_ok hlate
  rw [make_ok ((executes_catching_ok fun e _ _ _ => onException_not_ok e).1 hsaved)]
  exact .intro hnow (pollObservation_ok hpolls)

theorem observeProfile_ok {payload : ObservationPayload} {started : Float}
    {fingerprint : Option String} {summary : Option SafeSummary}
    (hprofile : checkProfile fingerprint summary = .ok profile)
    (he : Executes answers (service.observeProfile target turns rounds
      (started + service.limits.timeout) profile) s h (.ok (.success payload)) t) :
    Observed service target payload (timeEvent started ::
      ⟨.profileFingerprint, .ok fingerprint⟩ :: ⟨.safeSummary, .ok summary⟩ :: h) := by
  obtain ⟨snapshot, _, _, _, rfl, hphase, he₁⟩ := executes_bind_ok.1 he
  obtain ⟨_, _, _, _, rfl, hclear, he₂⟩ := executes_bind_ok.1 he₁
  obtain ⟨_, _, _, _, rfl, hsame, he₃⟩ := executes_bind_ok.1 he₂
  obtain ⟨_, _, _, _, rfl, hclear', he₄⟩ := executes_bind_ok.1 he₃
  obtain ⟨budget, _, _, _, rfl, hbaseline, he₅⟩ := executes_bind_ok.1 he₄
  obtain ⟨scan, _, during, _, rfl, hdispatch, he₆⟩ := executes_bind_ok.1 he₅
  obtain ⟨acceptedAt, _, _, after, rfl, hstamp, hsaved⟩ := executes_bind_ok.1 he₆
  obtain ⟨rfl, rfl⟩ := returnIfCancelled_ok hclear
  obtain ⟨now, -, rfl⟩ := requireSameTarget_ok hsame
  obtain ⟨-, rfl⟩ := returnIfCancelled_ok hclear'
  rw [make_ok hphase, timestamp_ok hstamp]
  obtain ⟨hentered, hprovider, hlibrary⟩ := dispatch_ok hdispatch
  have hquiet : Quiet (⟨.phase .baselining, .ok false⟩ :: (flagsClear ++
      (resolvedEvent target (started + service.limits.timeout) :: timeEvent now :: flagsClear))) :=
    .cons (quiet_phase _) (quiet_flagsClear.append
      (.cons (quiet_resolved _ _) (.cons (quiet_time _) quiet_flagsClear)))
  have hall : Observed service target payload (timeEvent started ::
      ⟨.profileFingerprint, .ok fingerprint⟩ :: ⟨.safeSummary, .ok summary⟩ ::
        (_ ++ (during ++ ⟨.clock, .ok (some acceptedAt)⟩ :: after))) :=
    .intro rfl hprofile ((baseline_ok hbaseline).after hquiet) hentered hprovider hlibrary
      (saveAccepted_ok hsaved)
  simpa using hall

/-- No cancellation was read. -/
def Uncancelled (h : List ObservationEvent) : Prop := ∀ e ∈ h, cancelReading e ≠ some true

theorem Uncancelled.append {h k : List ObservationEvent} (hh : Uncancelled h)
    (hk : Uncancelled k) : Uncancelled (h ++ k) :=
  fun e he => (List.mem_append.1 he).elim (hh e) (hk e)

theorem Uncancelled.cons {e : ObservationEvent} (he : cancelReading e ≠ some true)
    (hh : Uncancelled h) : Uncancelled (e :: h) :=
  fun _ hmem => (List.mem_cons.1 hmem).elim (fun heq => heq ▸ he) (hh _)

theorem Quiet.uncancelled (hh : Quiet h) : Uncancelled h := fun e he => (hh e he).cancel

theorem cancelReading_lookup {deadline : Float} {result : ItemLookupResult} :
    cancelReading (lookupEvent target deadline result) ≠ some true := by
  simp [cancelReading, lookupEvent]

theorem BaselineAbsent.uncancelled {deadline : Float}
    (habsent : BaselineAbsent target deadline provider h) : Uncancelled h := by
  cases habsent with
  | emby h₁ h₂ => exact h₁.uncancelled.append (.cons cancelReading_lookup h₂.uncancelled)
  | jellyfin h₁ h₂ h₃ =>
    exact h₁.uncancelled.append (.cons cancelReading_lookup
      (h₂.uncancelled.append (.cons cancelReading_lookup h₃.uncancelled)))

theorem Confirmed.uncancelled {payload : ObservationPayload}
    (hconfirmed : Confirmed target deadline payload h) : Uncancelled h := by
  cases hconfirmed with
  | intro h₁ h₂ h₃ =>
    exact h₁.uncancelled.append (.cons (quiet_resolved _ _).cancel
      (h₂.uncancelled.append (.cons (quiet_time _).cancel
        (h₃.uncancelled.append (.cons (by simp [cancelReading]) (by simp [Uncancelled]))))))

theorem SeenTwice.uncancelled {payload : ObservationPayload}
    (hseen : SeenTwice service target accepted deadline payload h) : Uncancelled h := by
  cases hseen with
  | intro hover hfirst hagain =>
    cases hagain with
    | intro h₁ hlast hsecond hobserves hconfirmed =>
      refine Uncancelled.append (fun e he => ?_) (.cons cancelReading_lookup
        (.cons (quiet_time _).cancel (h₁.uncancelled.append (.cons (quiet_time _).cancel
          (.cons cancelReading_lookup hconfirmed.uncancelled)))))
      rcases hover e he with hquiet | ⟨result, _, rfl⟩
      · exact hquiet.cancel
      · exact cancelReading_lookup

theorem AcceptedThenSeen.uncancelled {payload : ObservationPayload}
    (haccepted : AcceptedThenSeen service target accepted deadline payload h) : Uncancelled h := by
  cases haccepted with
  | intro _ hseen =>
    exact .cons (by simp [cancelReading]) (quiet_flagsClear.uncancelled.append
      (.cons (quiet_time _).cancel hseen.uncancelled))

theorem EnteredOnce.uncancelled (hentered : EnteredOnce target deadline h) :
    ∀ e ∈ h, ¬ e.call.IsPoll → cancelReading e ≠ some true := by
  cases hentered with
  | intro h₁ hlet h₂ =>
    intro e he hpoll
    rcases List.mem_append.1 he with he | he
    · exact (h₁ e he).cancel hpoll
    · rcases List.mem_append.1 he with he | he
      · exact (hlet.quiet e he).cancel
      · rcases List.mem_cons.1 he with rfl | he
        · simp [cancelReading]
        · exact (h₂ e he).cancel hpoll

/-- No cancellation was read but by the server while it worked. -/
theorem Observed.uncancelled {payload : ObservationPayload}
    (hobserved : Observed service target payload h) :
    ∀ e ∈ h, ¬ e.call.IsPoll → cancelReading e ≠ some true := by
  cases hobserved with
  | intro _ _ hbefore hduring _ _ hafter =>
    intro e he hpoll
    simp only [List.mem_cons, List.mem_append] at he
    rcases he with rfl | rfl | rfl | he | he | rfl | he
    · exact (quiet_time _).cancel
    · simp [cancelReading]
    · simp [cancelReading]
    · exact hbefore.uncancelled e he
    · exact hduring.uncancelled e he hpoll
    · simp [cancelReading]
    · exact hafter.uncancelled e he

/-- Two readings of one flag. -/
def SameFlag (c d : ObservationCall) : Prop :=
  (∃ r q, c = .cancelRequested r ∧ d = .cancelRequested q) ∨
    ∃ r q, c = .isSet r ∧ d = .isSet q

/-- A flag that was set once stays set. -/
def Sticky (h : List ObservationEvent) : Prop :=
  h.Pairwise fun e f => SameFlag e.call f.call → cancelReading e = some true →
    cancelReading f ≠ some false

/-- With flags that stay set, the server read no cancellation either. -/
theorem Observed.unpolled {payload : ObservationPayload}
    (hobserved : Observed service target payload h) (hsticky : Sticky h) : Uncancelled h := by
  intro e he hcancel
  by_cases hpoll : e.call.IsPoll
  swap
  · exact hobserved.uncancelled e he hpoll hcancel
  cases hobserved with
  | @intro _ _ acceptedAt _ _ _ _ before during after _ _ hbefore hduring _ _ hafter =>
    have hmem : e ∈ during := by
      simp only [List.mem_cons, List.mem_append] at he
      rcases he with rfl | rfl | rfl | he | he | rfl | he
      · exact absurd hcancel (quiet_time _).cancel
      · exact absurd hcancel (by simp [cancelReading])
      · exact absurd hcancel (by simp [cancelReading])
      · exact absurd hcancel (hbefore.uncancelled e he)
      · exact he
      · exact absurd hcancel (by simp [cancelReading])
      · exact absurd hcancel (hafter.uncancelled e he)
    have hlater : ∀ f ∈ after, SameFlag e.call f.call → cancelReading f ≠ some false := by
      intro f hf hsame
      have htail := ((List.pairwise_cons.1 (List.pairwise_cons.1 (List.pairwise_cons.1
        hsticky).2).2).2)
      have hpair := (List.pairwise_append.1 (List.pairwise_append.1 htail).2.1).2.2
      exact hpair e hmem f (List.mem_cons_of_mem _ hf) hsame hcancel
    cases hafter with
    | intro _ _ =>
      rcases hpoll with hcall | hcall
      · exact hlater ⟨.cancelRequested .service, .ok false⟩ (by simp [flagsClear])
          (.inl ⟨_, _, hcall, rfl⟩) (by simp [cancelReading])
      · exact hlater ⟨.isSet .service, .ok false⟩ (by simp [flagsClear])
          (.inr ⟨_, _, hcall, rfl⟩) (by simp [cancelReading])

/-! ## Every end -/

/-- What may be said of an end: an unknown completion or a success once the accepted payload may
have been saved, and no success but as the result. -/
structure Final (h : List ObservationEvent) (x : Except Halt Outcome) : Prop where
  concludes : ∀ accepted reply, ⟨.checkpoint .accepted accepted, reply⟩ ∈ h →
    Concludes accepted True x
  leaves : Leaves NoSuccess True x

/-- Every run of the program has such an end. -/
def Finishes (answers : Answers ObservationCall ObservationCall.Reply σ)
    (m : ObservationProg Outcome) : Prop :=
  ∀ s h x t, Executes answers m s h x t → Final h x

/-- A part that does not save an accepted payload comes before. -/
theorem Finishes.bind {α : Type} {m : ObservationProg α} {f : α → ObservationProg Outcome}
    {P : Except Halt α → Prop}
    (hm : Yields (Saves (fun _ => False) True) (fun x => Leaves NoSuccess True x ∧ P x) m)
    (hf : ∀ a, P (.ok a) → Finishes answers (f a)) : Finishes answers (m >>= f) := by
  intro s h x t he
  rcases executes_bind.1 he with ⟨a, u, h₁, h₂, rfl, hfirst, hrest⟩ | ⟨e, rfl, hfirst⟩
  · obtain ⟨hpost, hcalls⟩ := hfirst.yields hm
    have hfinal := hf a hpost.2 u h₂ x t hrest
    refine ⟨fun accepted reply hmem => ?_, hfinal.leaves⟩
    rcases List.mem_append.1 hmem with hmem | hmem
    · exact ((hcalls _ hmem).accepted accepted rfl).elim
    · exact hfinal.concludes accepted reply hmem
  · obtain ⟨hpost, hcalls⟩ := hfirst.yields hm
    exact ⟨fun accepted reply hmem => ((hcalls _ hmem).accepted accepted rfl).elim,
      hpost.1.error⟩

theorem Finishes.part {α : Type} {m : ObservationProg α} {f : α → ObservationProg Outcome}
    (hm : Yields (Saves (fun _ => False) True) (Leaves NoSuccess True) m)
    (hf : ∀ a, Finishes answers (f a)) : Finishes answers (m >>= f) :=
  Finishes.bind (P := fun _ => True) (hm.mono (fun _ hc => hc) fun _ hx => ⟨hx, trivial⟩)
    fun a _ => hf a

theorem finishes_saveAccepted
    (hroom : budget.passesStarted ≤ service.limits.maximumPasses provider) :
    Finishes answers (service.saveAccepted target provider deadline rounds budget accepted) := by
  intro s h x t he
  obtain ⟨hend, hcalls⟩ := he.yields (concludes_saveAccepted hroom)
  refine ⟨fun accepted' reply hmem => ?_, ?_⟩
  · rw [(hcalls _ hmem).accepted accepted' rfl]
    exact hend
  · cases x with
    | ok outcome => exact trivial
    | error e =>
      cases e with
      | returns outcome =>
        have hunknown : outcome = completionUnknown accepted := hend
        rw [hunknown]
        exact noSuccess_failed
      | raised | scanning | waiting => exact trivial
      | polling => exact hend

theorem finishes_observeProfile :
    Finishes answers (service.observeProfile target turns rounds deadline profile) := by
  refine Finishes.part (leaves_make (saves_other rfl rfl)) fun snapshot => ?_
  refine Finishes.part (leaves_returnIfCancelled noSuccess_cancelled) fun _ => ?_
  refine Finishes.part leaves_requireSameTarget fun _ => ?_
  refine Finishes.part (leaves_returnIfCancelled noSuccess_cancelled) fun _ => ?_
  refine Finishes.bind baseline_room fun budget hroom => ?_
  refine Finishes.part leaves_dispatch fun scan => ?_
  exact Finishes.part leaves_timestamp fun acceptedAt => finishes_saveAccepted hroom

theorem leaves_checkProfile {fingerprint : Option String} {summary : Option SafeSummary}
    {returned : Outcome → Prop} {waits : Prop} :
    Leaves returned waits (checkProfile fingerprint summary) := by
  cases fingerprint with
  | none => exact trivial
  | some fingerprint =>
    cases summary with
    | none => exact trivial
    | some summary =>
      rw [checkProfile]
      split
      · cases summary.provider with
        | none => exact trivial
        | some provider =>
          cases summary.libraryIdDigest with
          | none => exact trivial
          | some libraryIdDigest =>
            dsimp only
            split <;> exact trivial
      · exact trivial

theorem leaves_profileIdentity {saved : ObservationPayload → Prop} {looks waits : Prop}
    {returned : Outcome → Prop} :
    Yields (Saves saved looks) (Leaves returned waits) profileIdentity := by
  refine (leaves_make (saves_other rfl rfl)).bind (fun fingerprint _ => ?_) fun _ he => he.error
  refine (leaves_make (saves_other rfl rfl)).bind (fun summary _ => ?_) fun _ he => he.error
  exact leaves_checkProfile

theorem finishes_observeSteps : Finishes answers (service.observeSteps target turns rounds) :=
  Finishes.part leaves_time fun _ =>
    Finishes.part leaves_profileIdentity fun _ => finishes_observeProfile

theorem observeSteps_ok {payload : ObservationPayload}
    (he : Executes answers (service.observeSteps target turns rounds) s h
      (.ok (.success payload)) t) : Observed service target payload h := by
  obtain ⟨started, _, _, _, rfl, htime, he₁⟩ := executes_bind_ok.1 he
  obtain ⟨profile, _, _, _, rfl, hprofile, he₂⟩ := executes_bind_ok.1 he₁
  obtain ⟨fingerprint, summary, hcheck, rfl⟩ := profileIdentity_ok hprofile
  rw [time_ok htime]
  exact observeProfile_ok hcheck he₂

/-- A result is one of the steps, or what they returned early. -/
theorem observeAuthor_cases {x : Except Halt Outcome}
    (he : Executes answers (service.observeAuthor target turns rounds) s h x t) :
    Executes answers (service.observeSteps target turns rounds) s h x t ∨
      ∃ outcome, x = .ok outcome ∧ Executes answers (service.observeSteps target turns rounds) s h
        (.error (.returns outcome)) t := by
  rcases executes_catching.1 he with ⟨outcome, rfl, hsteps⟩ | ⟨e, u, h₁, h₂, rfl, hsteps, hsettle⟩
  · exact .inl hsteps
  · cases e with
    | returns outcome =>
      obtain ⟨rfl, rfl, rfl⟩ := executes_pure.1 hsettle
      rw [List.append_nil]
      exact .inr ⟨outcome, rfl, hsteps⟩
    | raised | scanning | waiting | polling =>
      obtain ⟨rfl, rfl, rfl⟩ := executes_throw.1 hsettle
      rw [List.append_nil]
      exact .inl hsteps

/-- The steps make no lookup, or no more than there is room for under the profile they read. -/
theorem observeSteps_lookups {x : Except Halt Outcome}
    (he : Executes answers (service.observeSteps target turns rounds) s h x t) :
    h.countP (fun e => e.call.isLookup) = 0 ∨
      ∃ fingerprint summary profile, checkProfile fingerprint summary = .ok profile ∧
        ⟨.safeSummary, .ok summary⟩ ∈ h ∧
        h.countP (fun e => e.call.isLookup) ≤ service.limits.maximumPasses profile.provider := by
  have hnone : ∀ {α : Type} {m : ObservationProg α} {s : σ} {h : List ObservationEvent}
      {y : Except Halt α} {t : σ},
      Yields (Saves (fun _ => True) False) (Leaves (fun _ => True) True) m →
      Executes answers m s h y t → h.countP (fun e => e.call.isLookup) = 0 := by
    intro α m s h y t hm hrun
    have hle := Nat.le_trans (Nat.le_add_right _ _) (hrun.spends (spends_part 0 hm))
    exact Nat.le_zero.1 hle
  rcases executes_bind.1 he with ⟨started, _, h₁, _, rfl, htime, he₁⟩ | ⟨e, rfl, htime⟩
  · have h₁none := hnone leaves_time htime
    rcases executes_bind.1 he₁ with ⟨profile, _, h₂, h₃, rfl, hread, he₂⟩ | ⟨e, rfl, hread⟩
    · right
      obtain ⟨fingerprint, summary, hcheck, rfl⟩ := profileIdentity_ok hread
      refine ⟨fingerprint, summary, profile, hcheck, by simp, ?_⟩
      have h₂none := hnone leaves_profileIdentity hread
      rw [List.countP_append, List.countP_append, h₁none, h₂none, Nat.zero_add, Nat.zero_add]
      exact Nat.le_trans (Nat.le_add_right _ _) (he₂.spends spends_observeProfile)
    · left
      rw [List.countP_append, h₁none, hnone leaves_profileIdentity hread]
  · exact .inl (hnone leaves_time htime)

/-- Where there are more rounds than ticks before the deadline that the first reading sets, no
wait is cut short. -/
theorem avoids_observeAuthor
    (hclock : ∀ started u, answers .monotonic s (.ok (some started)) u →
      Clocked answers clock (started + service.limits.timeout) horizon)
    (hrounds : horizon - clock s < rounds) :
    Avoids answers .waiting (service.observeAuthor target turns rounds) s := by
  have hsteps : Avoids answers .waiting (service.observeSteps target turns rounds) s := by
    refine (avoids_part leaves_time).bind fun started _ s₁ htime => ?_
    have hclock' := hclock started s₁ (time_answers htime)
    refine (avoids_part leaves_profileIdentity).bind fun profile _ s₂ hprofile => ?_
    have hs : InTime clock horizon rounds s := hrounds
    exact avoids_observeProfile hclock' (hs.later ((hclock'.le htime).trans (hclock'.le hprofile)))
  refine Avoids.catching fun e _ u hrun => ?_
  cases e with
  | returns outcome => exact avoids_part trivial
  | raised | scanning => exact avoids_part trivial
  | polling =>
    intro _ _ hthrow
    have herror := (executes_throw.1 hthrow).2.1
    cases herror
  | waiting => exact (hsteps _ _ hrun).elim

end MediaSync.MediaServer
