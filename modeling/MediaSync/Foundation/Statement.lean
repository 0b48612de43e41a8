import MediaSync.Foundation.Table

/-!
# Conditional statements

A statement names one key, compares the columns of its row and writes it, and
returns the row as it is afterwards where the comparison held. Where it did not
hold, the table is the one before.
-/

namespace MediaSync.Table

variable {ρ κ : Type} {key : ρ → κ} [DecidableEq κ]

/-- `update(T).where(T.key == k, ...).values(...).returning(T)`. -/
def updateReturning (t : Table key) (k : κ) (conditions : ρ → Bool) (values : ρ → ρ)
    (keeps : ∀ r, key (values r) = key r := by intro r; rfl) : Option ρ × Table key :=
  (((t.get? k).filter conditions).map values,
    t.update (fun r => decide (key r = k) && conditions r) values keeps)

variable {t t' : Table key} {k : κ} {conditions : ρ → Bool} {values : ρ → ρ}
  {r' : ρ}

/-- One row was compared and written, and no other. -/
structure Wrote (t : Table key) (k : κ) (conditions : ρ → Bool) (values : ρ → ρ) (r r' : ρ)
    (t' : Table key) : Prop where
  row : t.get? k = some r
  compared : conditions r = true
  written : r' = values r
  rows : ∀ k', t'.get? k' = if k' = k then some r' else t.get? k'

theorem Wrote.row_after {r : ρ} (h : Wrote t k conditions values r r' t') :
    t'.get? k = some r' := by
  rw [h.rows, if_pos rfl]

theorem Wrote.row_other {r : ρ} (h : Wrote t k conditions values r r' t') {k' : κ}
    (hk : k' ≠ k) : t'.get? k' = t.get? k' := by
  rw [h.rows, if_neg hk]

theorem updateReturning_some (keeps : ∀ r, key (values r) = key r)
    (h : (t.updateReturning k conditions values keeps).1 = some r') :
    ∃ r, Wrote t k conditions values r r' (t.updateReturning k conditions values keeps).2 := by
  obtain ⟨r, hr, rfl⟩ := Option.map_eq_some_iff.1 h
  obtain ⟨hget, hc⟩ := Option.filter_eq_some_iff.1 hr
  refine ⟨r, hget, hc, rfl, fun k' => ?_⟩
  refine (get?_update t _ values keeps k').trans ?_
  by_cases hk : k' = k
  · rw [if_pos hk, hk, hget]
    simp [get?_key hget, hc]
  · rw [if_neg hk]
    cases hg : t.get? k' with
    | none => rfl
    | some r₀ => simp [get?_key hg, hk]

/-- Replace the row whose key the given row has. -/
def replace (t : Table key) (r : ρ) (keyed : ρ → ρ → ρ)
    (keeps : ∀ old, key (keyed r old) = key old := by intro old; rfl) : Table key :=
  t.update (fun old => decide (key old = key r)) (keyed r) keeps

/-- The row is in the table under its key, and the other keys are as before. -/
def Put (t : Table key) (r : ρ) (t' : Table key) : Prop :=
  ∀ k, t'.get? k = if k = key r then some r else t.get? k

theorem Put.row {r : ρ} (h : Put t r t') : t'.get? (key r) = some r := by
  rw [h, if_pos rfl]

theorem Put.other {r : ρ} (h : Put t r t') {k : κ} (hk : k ≠ key r) : t'.get? k = t.get? k := by
  rw [h, if_neg hk]

theorem put_insert? {r : ρ} (h : t.insert? r = some t') : Put t r t' := by
  intro k
  rw [get?_insert? h]
  by_cases hk : k = key r
  · rw [if_pos hk, if_pos hk.symm]
  · rw [if_neg hk, if_neg (Ne.symm hk)]

theorem put_replace {r r₀ : ρ} {keyed : ρ → ρ → ρ} (keeps : ∀ old, key (keyed r old) = key old)
    (hrow : t.get? (key r) = some r₀) (hkeyed : keyed r r₀ = r) :
    Put t r (t.replace r keyed keeps) := by
  intro k
  refine (get?_updateKey t (key r) (keyed r) keeps k).trans ?_
  by_cases hk : k = key r
  · rw [if_pos hk, if_pos hk, hk, hrow, Option.map_some, hkeyed]
  · rw [if_neg hk, if_neg hk]

end MediaSync.Table
