import MediaSync.Security.OperatorCalls

/-!
# The session of a history

A session belongs to the last login that succeeded. A later one, an accepted
logout or a rotation ends it, and otherwise it lasts as long as its time. The
runtime forgets an expired session at the next call, so its state follows the
history with a delay that no answer shows.
-/

namespace MediaSync.Security

open Transaction Transition OperatorAuthRuntime

namespace AuthEvent

/-- The session that a successful login issues. -/
def issued? (e : AuthEvent) : Option IssuedSession :=
  match e.result with
  | .ok (.issued session) => some session
  | _ => none

/-- A successful login, an accepted logout or a rotation. -/
def ends (e : AuthEvent) : Bool :=
  match e.call, e.result with
  | _, .ok (.issued _) => true
  | _, .ok .rotated => true
  | .logout _, .ok (.verdict removed) => removed
  | _, _ => false

end AuthEvent

/-- The clock does not go back. -/
def Timely (h : List AuthEvent) : Prop := h.Pairwise (fun a b => a.now ≤ b.now)

/-- The login `e` issued the session, and nothing has ended it since. -/
def Current (h : List AuthEvent) (e : AuthEvent) (session : IssuedSession) : Prop :=
  ∃ pre post, h = pre ++ e :: post ∧ e.issued? = some session ∧ ∀ f ∈ post, f.ends = false

theorem Timely.init {h k : List AuthEvent} (ht : Timely (h ++ k)) : Timely h :=
  (List.pairwise_append.1 ht).1

variable {h : List AuthEvent} {e f : AuthEvent} {i : IssuedSession}

theorem Current.mem (hc : Current h e i) : e ∈ h := by
  obtain ⟨pre, post, rfl, _, _⟩ := hc
  simp

theorem current_snoc : Current (h ++ [f]) e i ↔
    (e = f ∧ f.issued? = some i) ∨ (Current h e i ∧ f.ends = false) := by
  constructor
  · rintro ⟨pre, post, hh, hi, hquiet⟩
    rcases List.eq_nil_or_concat post with rfl | ⟨post, g, rfl⟩
    · obtain ⟨_, he⟩ := List.append_inj' hh rfl
      cases he
      exact .inl ⟨rfl, hi⟩
    · rw [List.concat_eq_append, ← List.cons_append, ← List.append_assoc] at hh
      obtain ⟨rfl, hg⟩ := List.append_inj' hh rfl
      cases hg
      rw [List.concat_eq_append] at hquiet
      refine .inr ⟨⟨pre, post, rfl, hi, fun k hk => ?_⟩, ?_⟩
      · exact hquiet k (List.mem_append_left _ hk)
      · exact hquiet f (by simp)
  · rintro (⟨rfl, hi⟩ | ⟨⟨pre, post, rfl, hi, hquiet⟩, hf⟩)
    · exact ⟨h, [], by simp, hi, by simp⟩
    · refine ⟨pre, post ++ [f], by simp, hi, fun k hk => ?_⟩
      rcases List.mem_append.1 hk with hk | hk
      · exact hquiet k hk
      · rw [List.mem_singleton.1 hk]
        exact hf

theorem issued_ends (hi : e.issued? = some i) : e.ends = true := by
  obtain ⟨call, now, r⟩ := e
  cases r with
  | error e => cases hi
  | ok a =>
    cases a with
    | issued x => cases call <;> rfl
    | view => cases hi
    | verdict => cases hi
    | rotated => cases hi

section

variable {δ : Type} {host : AuthHost δ} {settings : AuthSettings} {s t : AuthState δ}

/-- The session after a call: issued by it, ended by it, or the one before it unless its time
has come. -/
inductive SessionMove (host : AuthHost δ) (settings : AuthSettings) (e : AuthEvent)
    (s t : AuthState δ) : Prop
  | opens {i : IssuedSession} : e.issued? = some i → isOpaque i.cookieValue = true →
      isOpaque i.csrfToken = true →
      t.session = some (openSession host settings e.now i.cookieValue i.csrfToken) →
      SessionMove host settings e s t
  | closes : e.ends = true → e.issued? = none → t.session = none → SessionMove host settings e s t
  | stays : e.ends = false → e.issued? = none →
      (t.session = s.session ∨
        ∃ x, s.session = some x ∧ x.expiresAt ≤ e.now ∧ t.session = none) →
      SessionMove host settings e s t

/-- The session of the state is the current one of the history, until its time has come. -/
structure SessionKept (host : AuthHost δ) (settings : AuthSettings) (h : List AuthEvent)
    (s : AuthState δ) : Prop where
  owned : ∀ x, s.session = some x → ∃ e i, Current h e i ∧
    x = openSession host settings e.now i.cookieValue i.csrfToken
  kept : ∀ e i, Current h e i →
    s.session = some (openSession host settings e.now i.cookieValue i.csrfToken) ∨
      ∃ f ∈ h, e.now + settings.sessionTtlSeconds ≤ f.now
  tokens : ∀ e i, Current h e i → isOpaque i.cookieValue = true ∧ isOpaque i.csrfToken = true

theorem SessionKept.step (hmove : SessionMove host settings e s t)
    (hinv : SessionKept host settings h s) : SessionKept host settings (h ++ [e]) t := by
  cases hmove with
  | @opens i hi hcookie hcsrf ht =>
    have hends := issued_ends hi
    have honly : ∀ f j, Current (h ++ [e]) f j → f = e ∧ j = i := by
      intro f j hc
      rcases current_snoc.1 hc with ⟨rfl, hj⟩ | ⟨_, hquiet⟩
      · exact ⟨rfl, Option.some.inj (hj.symm.trans hi)⟩
      · rw [hends] at hquiet
        cases hquiet
    constructor
    · intro x hx
      rw [ht] at hx
      cases hx
      exact ⟨e, i, current_snoc.2 (.inl ⟨rfl, hi⟩), rfl⟩
    · intro f j hc
      obtain ⟨rfl, rfl⟩ := honly f j hc
      exact .inl ht
    · intro f j hc
      obtain ⟨rfl, rfl⟩ := honly f j hc
      exact ⟨hcookie, hcsrf⟩
  | closes hends hi ht =>
    have hnone : ∀ f j, ¬ Current (h ++ [e]) f j := by
      intro f j hc
      rcases current_snoc.1 hc with ⟨_, hj⟩ | ⟨_, hquiet⟩
      · rw [hi] at hj
        cases hj
      · rw [hends] at hquiet
        cases hquiet
    constructor
    · intro x hx
      rw [ht] at hx
      cases hx
    · exact fun f j hc => absurd hc (hnone f j)
    · exact fun f j hc => absurd hc (hnone f j)
  | stays hends hi ht =>
    have hback : ∀ f j, Current (h ++ [e]) f j → Current h f j := by
      intro f j hc
      rcases current_snoc.1 hc with ⟨_, hj⟩ | ⟨hc, _⟩
      · rw [hi] at hj
        cases hj
      · exact hc
    constructor
    · intro x hx
      have hxs : s.session = some x := by
        rcases ht with ht | ⟨y, _, _, ht⟩
        · rw [← ht]
          exact hx
        · rw [ht] at hx
          cases hx
      obtain ⟨f, j, hc, hopen⟩ := hinv.owned x hxs
      exact ⟨f, j, current_snoc.2 (.inr ⟨hc, hends⟩), hopen⟩
    · intro f j hc
      rcases hinv.kept f j (hback f j hc) with hs | ⟨g, hg, hlate⟩
      · rcases ht with ht | ⟨y, hy, hlate, _⟩
        · exact .inl (ht.trans hs)
        · rw [hs] at hy
          cases hy
          exact .inr ⟨e, by simp, hlate⟩
      · exact .inr ⟨g, List.mem_append_left _ hg, hlate⟩
    · exact fun f j hc => hinv.tokens f j (hback f j hc)

variable [DecidableEq δ]

end

end MediaSync.Security
