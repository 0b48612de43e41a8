import Mathlib.Tactic.Common

/-!
# Loops

The body of a loop makes one iteration: it goes on with a state or ends with a
result. `Ends` is the run of the loop, however long it takes; `run` makes a
bounded number of iterations. A loop whose body lowers a measure ends, and a
property of the results needs an invariant that the body keeps.
-/

namespace MediaSync.Loop

variable {σ ρ : Type}

/-- How an iteration ends. -/
inductive Step (σ ρ : Type) where
  | next (s : σ)
  | done (r : ρ)
  deriving DecidableEq, Repr

inductive Ends (body : σ → Step σ ρ) : σ → ρ → Prop
  | done {s : σ} {r : ρ} : body s = .done r → Ends body s r
  | next {s t : σ} {r : ρ} : body s = .next t → Ends body t r → Ends body s r

def run (body : σ → Step σ ρ) : Nat → σ → Option ρ
  | 0, _ => none
  | n + 1, s =>
    match body s with
    | .done r => some r
    | .next t => run body n t

variable {body : σ → Step σ ρ} {s t : σ} {r : ρ} {n : Nat}

theorem run_done (h : body s = .done r) : run body (n + 1) s = some r := by
  rw [run, h]

theorem run_next (h : body s = .next t) : run body (n + 1) s = run body n t := by
  rw [run, h]

/-- A bounded run that ends is the run of the loop. -/
theorem ends_of_run (h : run body n s = some r) : Ends body s r := by
  induction n generalizing s with
  | zero => cases h
  | succ n ih =>
    cases hbody : body s with
    | done r' =>
      rw [run_done hbody] at h
      cases h
      exact .done hbody
    | next t =>
      rw [run_next hbody] at h
      exact .next hbody (ih h)

theorem Ends.unique {r' : ρ} (h : Ends body s r) (h' : Ends body s r') : r = r' := by
  induction h with
  | done hbody =>
    cases h' with
    | done hbody' =>
      rw [hbody] at hbody'
      exact Step.done.inj hbody'
    | next hbody' _ =>
      rw [hbody] at hbody'
      cases hbody'
  | next hbody _ ih =>
    cases h' with
    | done hbody' =>
      rw [hbody] at hbody'
      cases hbody'
    | next hbody' hrest =>
      rw [hbody] at hbody'
      cases hbody'
      exact ih hrest

/-- What the body keeps holds where the loop ends. -/
theorem Ends.of_invariant (Inv : σ → Prop) (Post : ρ → Prop)
    (hnext : ∀ s t, Inv s → body s = .next t → Inv t)
    (hdone : ∀ s r, Inv s → body s = .done r → Post r) (h : Ends body s r) (hs : Inv s) :
    Post r := by
  induction h with
  | done hbody => exact hdone _ _ hs hbody
  | next hbody _ ih => exact ih (hnext _ _ hs hbody)

/-- A body that lowers a measure makes at most as many iterations as the measure says. -/
theorem run_isSome (measure : σ → Nat) (hlower : ∀ s t, body s = .next t → measure t < measure s)
    (hn : measure s < n) : (run body n s).isSome := by
  induction n generalizing s with
  | zero => omega
  | succ n ih =>
    cases hbody : body s with
    | done r =>
      rw [run_done hbody]
      rfl
    | next t =>
      rw [run_next hbody]
      apply ih
      have hless := hlower s t hbody
      omega

end MediaSync.Loop
