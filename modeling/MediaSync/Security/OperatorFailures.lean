import Mathlib.Tactic.Linarith
import MediaSync.Security.OperatorSessions

/-!
# Failed logins and credentials of a history

The limiter keeps the failures that are younger than its window and were not
forgotten by a success or a rotation. A login is tried only when they are fewer
than the limit, so that a window never holds more, and the right credential is
refused for no other reason.
-/

namespace MediaSync.Security

open Transaction Transition OperatorAuthRuntime FailureLimiter

namespace AuthEvent

/-- A login that was answered as failed. -/
def failed (e : AuthEvent) : Bool :=
  match e.result with
  | .error .loginFailed => true
  | _ => false

/-- A successful login or a rotation. -/
def clears (e : AuthEvent) : Bool :=
  match e.result with
  | .ok (.issued _) => true
  | .ok .rotated => true
  | _ => false

end AuthEvent

/-- One more event for the moments of the failures since the last success or rotation. -/
def noteFailure (moments : List ℚ) (e : AuthEvent) : List ℚ :=
  if e.clears then [] else if e.failed then moments ++ [e.now] else moments

def recentFailures (h : List AuthEvent) : List ℚ := h.foldl noteFailure []

@[simp] theorem recentFailures_snoc (h : List AuthEvent) (e : AuthEvent) :
    recentFailures (h ++ [e]) = noteFailure (recentFailures h) e := by
  simp [recentFailures]

section

variable {settings : AuthSettings} {h : List AuthEvent}

theorem dropWhile_le_eq_filter {l : List ℚ} (hl : l.Pairwise (· ≤ ·)) (c : ℚ) :
    l.dropWhile (· ≤ c) = l.filter (c < ·) := by
  induction l with
  | nil => rfl
  | cons x l ih =>
    obtain ⟨hx, hl⟩ := List.pairwise_cons.1 hl
    by_cases hc : x ≤ c
    · rw [List.dropWhile_cons, if_pos (decide_eq_true hc), ih hl,
        List.filter_cons_of_neg (by simpa using hc)]
    · have hall : ∀ y ∈ x :: l, decide (c < y) = true := by
        intro y hy
        rcases List.mem_cons.1 hy with rfl | hy
        · exact decide_eq_true (not_le.1 hc)
        · exact decide_eq_true (lt_of_lt_of_le (not_le.1 hc) (hx y hy))
      rw [List.dropWhile_cons, if_neg (by simpa using hc), List.filter_eq_self.2 hall]

theorem prune_eq_filter {l : List ℚ} (hl : l.Pairwise (· ≤ ·)) (now : ℚ) :
    prune settings now l = l.filter (now - settings.failureWindowSeconds < ·) :=
  dropWhile_le_eq_filter hl _

/-- What a later window keeps, an earlier one has kept. -/
theorem filter_later (l : List ℚ) {a b : ℚ} (hab : a ≤ b) :
    (l.filter (a < ·)).filter (b < ·) = l.filter (b < ·) := by
  rw [List.filter_filter]
  refine List.filter_congr fun x _ => ?_
  by_cases hx : b < x
  · simp [hx, lt_of_le_of_lt hab hx]
  · simp [hx]

end

section

variable {δ : Type} {host : AuthHost δ} {settings : AuthSettings} {s t : AuthState δ}
  {h : List AuthEvent} {e : AuthEvent}

inductive FailureMove (settings : AuthSettings) (e : AuthEvent) (s t : AuthState δ) : Prop
  | clears : e.clears = true → t.failures = [] → FailureMove settings e s t
  | fails : e.clears = false → e.failed = true →
      (prune settings e.now s.failures).length < settings.failureLimit →
      t.failures = prune settings e.now s.failures ++ [e.now] → FailureMove settings e s t
  | quiet : e.clears = false → e.failed = false →
      (t.failures = s.failures ∨ t.failures = prune settings e.now s.failures) →
      FailureMove settings e s t

/-- Seen through any window that is still open, the limiter and the history have the same
failures. -/
structure Limited (settings : AuthSettings) (h : List AuthEvent) (s : AuthState δ) : Prop where
  sorted : s.failures.Pairwise (· ≤ ·)
  past : ∀ x ∈ s.failures, ∃ f ∈ h, x = f.now
  same : ∀ now, (∀ f ∈ h, f.now ≤ now) →
    s.failures.filter (now - settings.failureWindowSeconds < ·) =
      (recentFailures h).filter (now - settings.failureWindowSeconds < ·)

theorem Limited.step (hmove : FailureMove settings e s t) (hnow : ∀ f ∈ h, f.now ≤ e.now)
    (hinv : Limited settings h s) : Limited settings (h ++ [e]) t := by
  have hprune : prune settings e.now s.failures =
      s.failures.filter (e.now - settings.failureWindowSeconds < ·) :=
    prune_eq_filter hinv.sorted e.now
  have hpast : ∀ x ∈ prune settings e.now s.failures, x ∈ s.failures := by
    intro x hx
    rw [hprune] at hx
    exact (List.mem_filter.1 hx).1
  have hold : ∀ x ∈ s.failures, ∃ f ∈ h ++ [e], x = f.now := by
    intro x hx
    obtain ⟨f, hf, heq⟩ := hinv.past x hx
    exact ⟨f, List.mem_append_left _ hf, heq⟩
  have hsorted : (prune settings e.now s.failures).Pairwise (· ≤ ·) := by
    rw [hprune]
    exact hinv.sorted.filter _
  have hsame : ∀ now, (∀ f ∈ h ++ [e], f.now ≤ now) →
      (prune settings e.now s.failures).filter (now - settings.failureWindowSeconds < ·) =
        (recentFailures h).filter (now - settings.failureWindowSeconds < ·) := by
    intro now hle
    have hlast := hle e (by simp)
    rw [hprune, filter_later _ (by linarith)]
    exact hinv.same now fun f hf => hle f (List.mem_append_left _ hf)
  cases hmove with
  | clears hc ht =>
    have hrecent : recentFailures (h ++ [e]) = [] := by
      rw [recentFailures_snoc, noteFailure, if_pos hc]
    constructor
    · rw [ht]
      exact List.Pairwise.nil
    · intro x hx
      rw [ht] at hx
      cases hx
    · intro now _
      rw [ht, hrecent]
  | fails hc hf _ ht =>
    constructor
    · rw [ht, List.pairwise_append]
      refine ⟨hsorted, List.pairwise_singleton _ _, fun x hx y hy => ?_⟩
      obtain ⟨f, hf, rfl⟩ := hinv.past x (hpast x hx)
      rw [List.mem_singleton.1 hy]
      exact hnow f hf
    · intro x hx
      rw [ht, List.mem_append, List.mem_singleton] at hx
      rcases hx with hx | rfl
      · exact hold x (hpast x hx)
      · exact ⟨e, by simp, rfl⟩
    · intro now hle
      rw [recentFailures_snoc, noteFailure, if_neg (by simp [hc]), if_pos hf, ht,
        List.filter_append, List.filter_append, hsame now hle]
  | quiet hc hf ht =>
    have hrecent : recentFailures (h ++ [e]) = recentFailures h := by
      rw [recentFailures_snoc, noteFailure, if_neg (by simp [hc]), if_neg (by simp [hf])]
    rcases ht with ht | ht
    · constructor
      · rw [ht]
        exact hinv.sorted
      · rw [ht]
        exact hold
      · rw [ht, hrecent]
        exact fun now hle => hinv.same now fun f hf => hle f (List.mem_append_left _ hf)
    · constructor
      · rw [ht]
        exact hsorted
      · rw [ht]
        exact fun x hx => hold x (hpast x hx)
      · rw [ht, hrecent]
        exact hsame

variable {W : ℚ → Prop} [DecidablePred W]

end

section

variable {δ : Type} {host : AuthHost δ} {settings : AuthSettings} {s t : AuthState δ}
  {h : List AuthEvent} {e : AuthEvent}

theorem expire_digests (now : ℚ) (s : AuthState δ) :
    (expire now s).browserDigest = s.browserDigest ∧
      (expire now s).bearerDigest = s.bearerDigest := by
  unfold expire
  split
  · exact ⟨rfl, rfl⟩
  · split <;> exact ⟨rfl, rfl⟩

variable [DecidableEq δ]

/-- One more event for the credentials in force. -/
def noteRotation (c : String × Option String) (e : AuthEvent) : String × Option String :=
  match e.call, e.result with
  | .rotate browser bearer, .ok .rotated => (browser, bearer)
  | _, _ => c

/-- The credentials in force after a history. -/
def credentials (c : String × Option String) (h : List AuthEvent) : String × Option String :=
  h.foldl noteRotation c

/-- The runtime holds the digests of accepted credentials. -/
structure Holds (host : AuthHost δ) (c : String × Option String) (s : AuthState δ) : Prop where
  valid : validOperatorSecrets host c.1 c.2 = true
  browser : s.browserDigest = host.digest .browserCredential (encode c.1)
  bearer : s.bearerDigest = c.2.map (fun b => host.digest .bearerCredential (encode b))

theorem Holds.step {c : String × Option String} (hstep : authStep host settings s e t)
    (hinv : Holds host c s) : Holds host (noteRotation c e) t := by
  have hmove := authStep_moves hstep
  have hsame : ∀ u : AuthState δ, u.browserDigest = s.browserDigest →
      u.bearerDigest = s.bearerDigest → Holds host c u := by
    intro u hbrowser hbearer
    exact ⟨hinv.valid, hbrowser.trans hinv.browser, hbearer.trans hinv.bearer⟩
  obtain ⟨hbrowser, hbearer⟩ := expire_digests e.now s
  obtain ⟨call, now, r⟩ := e
  cases hmove with
  | limited _ ht => exact hsame t (by rw [ht]) (by rw [ht])
  | failed _ _ ht => exact hsame t (by rw [ht]) (by rw [ht])
  | opened _ _ _ ht => exact hsame t (by rw [ht]) (by rw [ht])
  | viewed ht _ => exact hsame t (by rw [ht, hbrowser]) (by rw [ht, hbearer])
  | compared ht _ => exact hsame t (by rw [ht]) (by rw [ht])
  | verified ht _ => exact hsame t (by rw [ht, hbrowser]) (by rw [ht, hbearer])
  | kept ht _ => exact hsame t (by rw [ht, hbrowser]) (by rw [ht, hbearer])
  | removed _ _ ht => exact hsame t (by rw [ht]; exact hbrowser) (by rw [ht]; exact hbearer)
  | refused _ ht => exact hsame t (by rw [ht]) (by rw [ht])
  | rotated hvalid ht =>
    rw [ht]
    exact ⟨hvalid, rfl, rfl⟩

end

end MediaSync.Security
