import MediaSync.MediaServer.ObservationSuccess

/-!
# Polling until the item is there twice

A wait that ends well ends with a reading of the clock that has reached its aim.
The loop goes on over lookups that found nothing until one finds the item; the
next lookup finds the same item, or the loop is over.
-/

namespace MediaSync.MediaServer

open Program Observation ObservationService

variable {σ : Type} {answers : Answers ObservationCall ObservationCall.Reply σ} {s t : σ}
  {h : List ObservationEvent} {service : ObservationService} {target : PublicationTarget}
  {provider : Provider} {budget : LookupBudget} {deadline : Float}
  {accepted payload : ObservationPayload}

theorem quiet_wait (timeout : Float) : ObservationEvent.Quiet ⟨.wait timeout, .ok false⟩ :=
  ⟨rfl, rfl, rfl, by simp [cancelReading]⟩

theorem waitUntil_ready {notBefore : Float} {rounds : Nat}
    (he : Executes answers (waitUntil notBefore deadline rounds) s h (.ok true) t) :
    ∃ h' now, h = h' ++ [timeEvent now] ∧ Quiet h' ∧ notBefore ≤ now ∧ ¬ deadline ≤ now := by
  induction rounds generalizing s h with
  | zero => exact absurd he throw_not_ok
  | succ rounds ih =>
    obtain ⟨cancelled, _, _, _, rfl, hclear, he₁⟩ := executes_bind_ok.1 he
    split at he₁
    · have hvalue := (executes_pure.1 he₁).2.1
      cases hvalue
    · rename_i hnot
      rw [Bool.not_eq_true] at hnot
      subst hnot
      obtain ⟨-, rfl⟩ := cancelledAfter_false hclear
      obtain ⟨now, _, _, _, rfl, htime, he₂⟩ := executes_bind_ok.1 he₁
      rw [time_ok htime]
      split at he₂
      · have hvalue := (executes_pure.1 he₂).2.1
        cases hvalue
      · rename_i hearly
        split at he₂
        · rename_i hready
          obtain ⟨rfl, -, -⟩ := executes_pure.1 he₂
          exact ⟨flagsClear, now, by simp, quiet_flagsClear, hready, hearly⟩
        · obtain ⟨signalled, _, _, _, rfl, hwait, he₃⟩ := executes_bind_ok.1 he₂
          rw [make_ok hwait]
          cases signalled with
          | true =>
            have hvalue := (executes_pure.1 he₃).2.1
            cases hvalue
          | false =>
            obtain ⟨h', last, rfl, hquiet, hready, hlast⟩ := ih he₃
            exact ⟨flagsClear ++ (timeEvent now ::
                ⟨.wait (earlier notBefore deadline - now), .ok false⟩ :: h'), last, by simp,
              quiet_flagsClear.append (.cons (quiet_time now) (.cons (quiet_wait _) hquiet)),
              hready, hlast⟩

/-- What follows the second lookup: the target is still the one, the clock shows a time before
the deadline, and the observed payload is saved. -/
inductive Confirmed (target : PublicationTarget) (deadline : Float) (payload : ObservationPayload) :
    List ObservationEvent → Prop
  | intro {h k l : List ObservationEvent} {n : Float} {b : Bool} :
      Quiet h → Quiet k → Quiet l → ¬ deadline ≤ n → (∀ e ∈ l, e.call ≠ .monotonic) →
      Confirmed target deadline payload (h ++ resolvedEvent target deadline ::
        (k ++ timeEvent n :: (l ++ [⟨.checkpoint .observed payload, .ok b⟩])))

/-- The observed payload of the item, some time after the accepted one. -/
structure Observes (service : ObservationService) (target : PublicationTarget)
    (accepted : ObservationPayload) (itemId : String) (payload : ObservationPayload) : Prop where
  observed : ∃ fingerprint observedAt, payload = observedPayload accepted fingerprint observedAt ∧
    service.itemFingerprint accepted.profileFingerprint target.publicationFingerprint
      target.selectorFingerprint itemId = some fingerprint ∧
    minPollMicroseconds ≤ observedAt - accepted.acceptedAt

theorem confirmObservation_ok {itemId : String} {outcome : Outcome}
    (he : Executes answers (service.confirmObservation target accepted deadline itemId) s h
      (.ok outcome) t) :
    ∃ payload, outcome = .success payload ∧ Observes service target accepted itemId payload ∧
      Confirmed target deadline payload h := by
  obtain ⟨_, _, _, _, rfl, hclear, he₁⟩ := executes_bind_ok.1 he
  obtain ⟨resolved, _, _, _, rfl, hresolve, he₂⟩ := executes_bind_ok.1 he₁
  obtain ⟨_, _, _, _, rfl, hsame, he₃⟩ := executes_bind_ok.1 he₂
  obtain ⟨_, _, _, _, rfl, hclear', he₄⟩ := executes_bind_ok.1 he₃
  obtain ⟨_, _, _, _, rfl, hlate, he₅⟩ := executes_bind_ok.1 he₄
  obtain ⟨fingerprint, _, _, _, rfl, hfingerprint, he₆⟩ := executes_bind_ok.1 he₅
  obtain ⟨observedAt, _, _, _, rfl, hclock, he₇⟩ := executes_bind_ok.1 he₆
  obtain ⟨_, _, _, _, rfl, hapart, he₈⟩ := executes_bind_ok.1 he₇
  obtain ⟨snapshot, _, _, _, rfl, hprogress, he₉⟩ := executes_bind_ok.1 he₈
  obtain ⟨_, _, _, _, rfl, hclear'', he₁₀⟩ := executes_bind_ok.1 he₉
  obtain ⟨saved, _, _, _, rfl, hcheckpoint, hpure⟩ := executes_bind_ok.1 he₁₀
  obtain ⟨-, rfl⟩ := returnIfCancelled_ok hclear
  obtain ⟨rfl, hkept⟩ := returnIf_ok hsame
  obtain ⟨-, rfl⟩ := returnIfCancelled_ok hclear'
  obtain ⟨now, hnow, rfl⟩ := returnIfLate_ok hlate
  obtain ⟨rfl, hfound⟩ := orRaise_ok hfingerprint
  obtain ⟨rfl, hlater⟩ := returnIf_ok hapart
  obtain ⟨rfl, rfl⟩ := returnIfCancelled_ok hclear''
  obtain ⟨rfl, hresult, -⟩ := executes_pure.1 hpure
  cases hresult
  have heq : resolved = target := by simpa using hkept
  subst heq
  rw [decide_eq_false_iff_not, Int.not_lt] at hlater
  rw [resolveTarget_ok hresolve, timestamp_ok hclock, make_ok hprogress,
    make_ok ((executes_catching_ok fun e _ _ _ => onException_not_ok e).1 hcheckpoint)]
  refine ⟨_, rfl, ⟨fingerprint, observedAt, rfl, hfound, hlater⟩, ?_⟩
  exact Confirmed.intro (h := flagsClear) (k := flagsClear) (n := now) (b := saved)
    (l := ⟨.clock, .ok (some observedAt)⟩ :: ⟨.progress 2, .ok false⟩ :: flagsClear)
    quiet_flagsClear quiet_flagsClear
    (.cons (quiet_clock _) (.cons (quiet_progress 2) quiet_flagsClear)) hnow
    (by simp [flagsClear])

/-- An event of the passes before the item was found. -/
def PassedOver (target : PublicationTarget) (deadline : Float) (e : ObservationEvent) : Prop :=
  ObservationEvent.Quiet e ∨
    ∃ result, result.lookupState = .notFound ∧ e = lookupEvent target deadline result

/-- A lookup that found the item. -/
def Found (itemId : String) (result : ItemLookupResult) : Prop :=
  result.lookupState = .matched ∧ result.itemId = some itemId

/-- The rest of the loop once the item has been found, when it is looked for no sooner. -/
inductive SeenAgain (service : ObservationService) (target : PublicationTarget)
    (accepted : ObservationPayload) (deadline notBefore : Float) (itemId : String)
    (payload : ObservationPayload) : List ObservationEvent → Prop
  | intro {h₁ h₂ : List ObservationEvent} {last : Float} {second : ItemLookupResult} :
      Quiet h₁ → notBefore ≤ last → Found itemId second →
      Observes service target accepted itemId payload → Confirmed target deadline payload h₂ →
      SeenAgain service target accepted deadline notBefore itemId payload
        (h₁ ++ timeEvent last :: lookupEvent target deadline second :: h₂)

/-- Polling: lookups that found nothing, then one that found the item, read `first` right after
it, and after a reading of no less than the interval more another one. -/
inductive SeenTwice (service : ObservationService) (target : PublicationTarget)
    (accepted : ObservationPayload) (deadline : Float) (payload : ObservationPayload) :
    List ObservationEvent → Prop
  | intro {h₁ h₂ : List ObservationEvent} {itemId : String} {found : Float}
      {first : ItemLookupResult} :
      (∀ e ∈ h₁, PassedOver target deadline e) → Found itemId first →
      SeenAgain service target accepted deadline (found + service.limits.pollInterval) itemId
        payload h₂ →
      SeenTwice service target accepted deadline payload
        (h₁ ++ lookupEvent target deadline first :: timeEvent found :: h₂)

theorem Confirmed.after {h₀ : List ObservationEvent} (hquiet : Quiet h₀)
    (hconfirmed : Confirmed target deadline payload h) :
    Confirmed target deadline payload (h₀ ++ h) := by
  cases hconfirmed with
  | intro h₁ h₂ h₃ hnow hlast =>
    rw [← List.append_assoc]
    exact .intro (hquiet.append h₁) h₂ h₃ hnow hlast

theorem SeenAgain.after {h₀ : List ObservationEvent} {notBefore : Float} {itemId : String}
    (hquiet : Quiet h₀)
    (hseen : SeenAgain service target accepted deadline notBefore itemId payload h) :
    SeenAgain service target accepted deadline notBefore itemId payload (h₀ ++ h) := by
  cases hseen with
  | intro h₁ hlast hsecond hobserves hconfirmed =>
    rw [← List.append_assoc]
    exact .intro (hquiet.append h₁) hlast hsecond hobserves hconfirmed

theorem SeenTwice.after {h₀ : List ObservationEvent}
    (hover : ∀ e ∈ h₀, PassedOver target deadline e)
    (hseen : SeenTwice service target accepted deadline payload h) :
    SeenTwice service target accepted deadline payload (h₀ ++ h) := by
  cases hseen with
  | intro h₁ hfirst hagain =>
    rw [← List.append_assoc]
    exact .intro (fun e he => (List.mem_append.1 he).elim (hover e) (h₁ e)) hfirst hagain

/-- One pass of the loop: a wait that ended well, a lookup, and a time before the deadline. -/
theorem pollPass_ok {rounds passes : Nat} {firstItemId : Option String} {nextPollAt : Float}
    {outcome : Outcome}
    (he : Executes answers (service.pollPasses target provider accepted deadline rounds
      (passes + 1) firstItemId nextPollAt budget) s h (.ok outcome) t) :
    ∃ h₁ last result now h₂ budget' u, Quiet h₁ ∧ nextPollAt ≤ last ∧
      h = h₁ ++ timeEvent last :: lookupEvent target deadline result :: timeEvent now :: h₂ ∧
      ((result.lookupState = .notFound ∧ firstItemId = none ∧
        Executes answers (service.pollPasses target provider accepted deadline rounds passes none
          (now + service.limits.pollInterval) budget') u h₂ (.ok outcome) t) ∨
      ∃ itemId, Found itemId result ∧
        ((firstItemId = none ∧ ∃ h₃, h₂ = ⟨.progress 1, .ok false⟩ :: (flagsClear ++ h₃) ∧
          Executes answers (service.pollPasses target provider accepted deadline rounds passes
            (some itemId) (now + service.limits.pollInterval) budget') u h₃ (.ok outcome) t) ∨
        (firstItemId = some itemId ∧
          Executes answers (service.confirmObservation target accepted deadline itemId) u h₂
            (.ok outcome) t))) := by
  obtain ⟨ready, _, _, _, rfl, hwait, he₁⟩ := executes_bind_ok.1 he
  obtain ⟨_, _, _, _, rfl, hready, he₂⟩ := executes_bind_ok.1 he₁
  obtain ⟨⟨budget', result⟩, _, _, _, rfl, hlookup, he₃⟩ := executes_bind_ok.1 he₂
  obtain ⟨now, _, _, _, rfl, htime, he₄⟩ := executes_bind_ok.1 he₃
  obtain ⟨_, u, _, h₂, rfl, hlate, he₅⟩ := executes_bind_ok.1 he₄
  obtain ⟨rfl, hwaited⟩ := returnIf_ok hready
  obtain ⟨rfl, -⟩ := returnIf_ok hlate
  have hready' : ready = true := by simpa using hwaited
  subst hready'
  obtain ⟨h₁, last, rfl, hquiet, hlast, -⟩ := waitUntil_ready hwait
  rw [lookupOnce_ok hlookup, time_ok htime]
  cases hstate : result.lookupState with
  | notFound =>
    rw [hstate] at he₅
    obtain ⟨_, u', _, h₃, rfl, hnone, he₆⟩ := executes_bind_ok.1 he₅
    obtain ⟨rfl, hfirst⟩ := returnIf_ok hnone
    refine ⟨h₁, last, result, now, h₃, budget', u', hquiet, hlast, by simp, .inl ⟨hstate, ?_, he₆⟩⟩
    simpa using hfirst
  | matched =>
    rw [hstate] at he₅
    obtain ⟨itemId, v, _, h₃, rfl, hid, he₆⟩ := executes_bind_ok.1 he₅
    obtain ⟨rfl, hitem⟩ := orRaise_ok hid
    cases firstItemId with
    | none =>
      obtain ⟨snapshot, _, _, _, rfl, hprogress, he₇⟩ := executes_bind_ok.1 he₆
      obtain ⟨_, u', _, h₄, rfl, hclear, he₈⟩ := executes_bind_ok.1 he₇
      obtain ⟨rfl, rfl⟩ := returnIfCancelled_ok hclear
      rw [make_ok hprogress]
      exact ⟨h₁, last, result, now, _, budget', u', hquiet, hlast, by simp,
        .inr ⟨itemId, ⟨hstate, hitem⟩, .inl ⟨rfl, h₄, rfl, he₈⟩⟩⟩
    | some first =>
      obtain ⟨_, u', _, h₄, rfl, hsame, he₇⟩ := executes_bind_ok.1 he₆
      obtain ⟨rfl, hkept⟩ := returnIf_ok hsame
      have heq : itemId = first := by simpa using hkept
      subst heq
      exact ⟨h₁, last, result, now, h₄, budget', u', hquiet, hlast, by simp,
        .inr ⟨itemId, ⟨hstate, hitem⟩, .inr ⟨rfl, he₇⟩⟩⟩

variable {rounds passes : Nat} {nextPollAt : Float} {outcome : Outcome}

/-- Once the item has been found, the next lookup decides. -/
theorem pollPasses_again {itemId : String}
    (he : Executes answers (service.pollPasses target provider accepted deadline rounds passes
      (some itemId) nextPollAt budget) s h (.ok outcome) t) :
    ∃ payload, outcome = .success payload ∧
      SeenAgain service target accepted deadline nextPollAt itemId payload h := by
  cases passes with
  | zero => exact absurd he throw_not_ok
  | succ passes =>
    obtain ⟨h₁, last, result, now, h₂, budget', u, hquiet, hlast, rfl, hrest⟩ := pollPass_ok he
    rcases hrest with ⟨_, hnone, _⟩ | ⟨item, hfound, ⟨hnone, _⟩ | ⟨hitem, hconfirm⟩⟩
    · cases hnone
    · cases hnone
    · cases hitem
      obtain ⟨payload, rfl, hobserves, hconfirmed⟩ := confirmObservation_ok hconfirm
      exact ⟨payload, rfl, .intro hquiet hlast hfound hobserves
        (hconfirmed.after (.cons (quiet_time now) quiet_nil))⟩

theorem pollPasses_ok
    (he : Executes answers (service.pollPasses target provider accepted deadline rounds passes
      none nextPollAt budget) s h (.ok outcome) t) :
    ∃ payload, outcome = .success payload ∧
      SeenTwice service target accepted deadline payload h := by
  induction passes generalizing s h nextPollAt budget with
  | zero => exact absurd he throw_not_ok
  | succ passes ih =>
    obtain ⟨h₁, last, result, now, h₂, budget', u, hquiet, hlast, rfl, hrest⟩ := pollPass_ok he
    have hover : ∀ e ∈ h₁ ++ [timeEvent last], PassedOver target deadline e :=
      fun e he => .inl ((hquiet.append (.cons (quiet_time last) quiet_nil)) e he)
    rcases hrest with ⟨hstate, _, hnext⟩ | ⟨item, hfound, ⟨_, h₃, rfl, hnext⟩ | ⟨hnone, _⟩⟩
    · obtain ⟨payload, rfl, hseen⟩ := ih hnext
      refine ⟨payload, rfl, ?_⟩
      have hpassed : ∀ e ∈ [lookupEvent target deadline result, timeEvent now],
          PassedOver target deadline e := by
        intro e he
        rcases List.mem_cons.1 he with rfl | he
        · exact .inr ⟨result, hstate, rfl⟩
        · exact .inl (List.mem_singleton.1 he ▸ quiet_time now)
      have hall := SeenTwice.after hover (hseen.after hpassed)
      simpa using hall
    · obtain ⟨payload, rfl, hagain⟩ := pollPasses_again hnext
      refine ⟨payload, rfl, ?_⟩
      have hquiet' : Quiet (⟨.progress 1, .ok false⟩ :: flagsClear) :=
        .cons (quiet_progress 1) quiet_flagsClear
      have hall : SeenTwice service target accepted deadline payload _ :=
        .intro hover hfound (hagain.after hquiet')
      simpa using hall
    · cases hnone

theorem pollObservation_ok
    (he : Executes answers (service.pollObservation target provider accepted deadline rounds
      budget) s h (.ok (.success payload)) t) :
    SeenTwice service target accepted deadline payload h := by
  rcases executes_catching.1 he with ⟨_, hok, hbody⟩ | ⟨e, _, h₁, h₂, rfl, _, hhandler⟩
  · cases hok
    obtain ⟨snapshot, _, _, _, rfl, hprogress, he₁⟩ := executes_bind_ok.1 hbody
    obtain ⟨_, _, _, _, rfl, hclear, he₂⟩ := executes_bind_ok.1 he₁
    obtain ⟨now, _, _, _, rfl, htime, he₃⟩ := executes_bind_ok.1 he₂
    obtain ⟨rfl, rfl⟩ := returnIfCancelled_ok hclear
    obtain ⟨payload', hpayload, hseen⟩ := pollPasses_ok he₃
    cases hpayload
    rw [make_ok hprogress, time_ok htime]
    have hquiet : Quiet (⟨.progress 0, .ok false⟩ :: (flagsClear ++ [timeEvent now])) :=
      .cons (quiet_progress 0) (quiet_flagsClear.append (.cons (quiet_time now) quiet_nil))
    have hall := hseen.after fun e he => Or.inl (hquiet e he)
    simpa using hall
  · cases e with
    | raised e =>
      have hvalue := (executes_pure.1 hhandler).2.1
      cases hvalue
    | returns | scanning | waiting | polling => exact absurd hhandler throw_not_ok

end MediaSync.MediaServer
