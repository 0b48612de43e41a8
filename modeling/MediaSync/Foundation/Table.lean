import Mathlib.Tactic.Common
import Mathlib.Data.List.Basic
import Mathlib.Data.List.Nodup
import Mathlib.Data.List.Perm.Subperm

/-!
# Keyed tables

A table is a list of rows whose keys are pairwise different; the list order is
the insertion order. `update` is the conditional bulk update of a relational
store and never moves a key, so it cannot build a table with two rows of one
key; `insert` refuses a key that is taken.
-/

namespace MediaSync

section Rows

variable {α : Type} {R S T : α → α → Prop} {x y z : Option α}

theorem rel_refl (hR : ∀ a, R a a) (x : Option α) : Option.Rel R x x := by
  cases x with
  | none => exact .none
  | some a => exact .some (hR a)

theorem rel_trans (h : ∀ a b c, R a b → S b c → T a c) (hxy : Option.Rel R x y)
    (hyz : Option.Rel S y z) : Option.Rel T x z := by
  cases hxy with
  | none =>
    cases hyz
    exact .none
  | some hab =>
    cases hyz with
    | some hbc => exact .some (h _ _ _ hab hbc)

theorem rel_mono (h : ∀ a b, R a b → S a b) (hxy : Option.Rel R x y) : Option.Rel S x y := by
  cases hxy with
  | none => exact .none
  | some hab => exact .some (h _ _ hab)

/-- A row found on one side of related tables is found on the other. -/
theorem rel_some_left {a : α} (h : Option.Rel R (some a) x) : ∃ b, x = some b ∧ R a b := by
  cases h with
  | some hab => exact ⟨_, rfl, hab⟩

theorem rel_some_right {b : α} (h : Option.Rel R x (some b)) : ∃ a, x = some a ∧ R a b := by
  cases h with
  | some hab => exact ⟨_, rfl, hab⟩

end Rows

variable {ρ κ : Type}

structure Table (key : ρ → κ) where
  rows : List ρ
  unique : (rows.map key).Nodup

namespace Table

variable {key : ρ → κ}

def empty : Table key := ⟨[], List.nodup_nil⟩

instance : Inhabited (Table key) := ⟨empty⟩

/-- The row with the given key. -/
def get? [DecidableEq κ] (t : Table key) (k : κ) : Option ρ :=
  t.rows.find? (fun r => key r = k)

/-- Rewrite every row that satisfies the condition. -/
def update (t : Table key) (p : ρ → Bool) (f : ρ → ρ)
    (keeps : ∀ r, key (f r) = key r := by intro r; rfl) : Table key where
  rows := t.rows.map (fun r => if p r then f r else r)
  unique := by
    have h : (t.rows.map (fun r => if p r then f r else r)).map key = t.rows.map key := by
      rw [List.map_map]
      apply List.map_congr_left
      intro r _
      by_cases hp : p r = true
      · simp [hp, keeps]
      · simp [hp]
    rw [h]
    exact t.unique

/-- Append a row, unless its key is taken. -/
def insert? [DecidableEq κ] (t : Table key) (r : ρ) : Option (Table key) :=
  if h : key r ∈ t.rows.map key then none
  else some ⟨t.rows ++ [r], by
    rw [List.map_append, List.map_cons, List.map_nil]
    exact List.nodup_append.mpr ⟨t.unique, List.nodup_singleton _, by
      intro a ha b hb hab
      rw [List.mem_singleton.mp hb] at hab
      exact h (hab ▸ ha)⟩⟩

theorem row_ext {t : Table key} {r r' : ρ} (hr : r ∈ t.rows) (hr' : r' ∈ t.rows)
    (h : key r = key r') : r = r' :=
  List.inj_on_of_nodup_map t.unique hr hr' h

theorem get?_eq_some [DecidableEq κ] {t : Table key} {k : κ} {r : ρ} :
    t.get? k = some r ↔ r ∈ t.rows ∧ key r = k := by
  unfold get?
  constructor
  · intro h
    exact ⟨List.mem_of_find?_eq_some h, by simpa using List.find?_some h⟩
  · rintro ⟨hr, hk⟩
    cases hf : t.rows.find? (fun r => key r = k) with
    | none =>
      have := List.find?_eq_none.mp hf r hr
      simp [hk] at this
    | some r' =>
      have hr' := List.mem_of_find?_eq_some hf
      have hk' : key r' = k := by simpa using List.find?_some hf
      rw [row_ext hr' hr (hk'.trans hk.symm)]

theorem get?_mem [DecidableEq κ] {t : Table key} {k : κ} {r : ρ} (h : t.get? k = some r) :
    r ∈ t.rows :=
  (get?_eq_some.mp h).1

theorem get?_key [DecidableEq κ] {t : Table key} {k : κ} {r : ρ} (h : t.get? k = some r) :
    key r = k :=
  (get?_eq_some.mp h).2

theorem get?_of_mem [DecidableEq κ] {t : Table key} {r : ρ} (h : r ∈ t.rows) :
    t.get? (key r) = some r :=
  get?_eq_some.mpr ⟨h, rfl⟩

@[simp] theorem get?_empty [DecidableEq κ] (k : κ) : (empty : Table key).get? k = none := rfl

@[simp] theorem rows_empty : (empty : Table key).rows = [] := rfl

theorem mem_update {t : Table key} {p : ρ → Bool} {f : ρ → ρ}
    {keeps : ∀ r, key (f r) = key r} {r' : ρ} :
    r' ∈ (t.update p f keeps).rows ↔ ∃ r ∈ t.rows, (if p r then f r else r) = r' := by
  simp [update]

/-- An update is seen at each key by updating the row found there. -/
theorem get?_update [DecidableEq κ] (t : Table key) (p : ρ → Bool) (f : ρ → ρ)
    (keeps : ∀ r, key (f r) = key r) (k : κ) :
    (t.update p f keeps).get? k = (t.get? k).map (fun r => if p r then f r else r) := by
  cases h : t.get? k with
  | none =>
    cases h' : (t.update p f keeps).get? k with
    | none => rfl
    | some r' =>
      obtain ⟨hm, hk⟩ := get?_eq_some.mp h'
      obtain ⟨r, hr, rfl⟩ := mem_update.mp hm
      have hkey : key r = k := by
        by_cases hp : p r = true
        · simpa [hp, keeps] using hk
        · simpa [hp] using hk
      rw [get?_eq_some.mpr ⟨hr, hkey⟩] at h
      cases h
  | some r =>
    obtain ⟨hr, hk⟩ := get?_eq_some.mp h
    apply get?_eq_some.mpr
    refine ⟨mem_update.mpr ⟨r, hr, rfl⟩, ?_⟩
    by_cases hp : p r = true
    · simp [hp, keeps, hk]
    · simp [hp, hk]

/-- An update of one key changes the row of that key only. -/
theorem get?_updateKey [DecidableEq κ] (t : Table key) (k : κ) (f : ρ → ρ)
    (keeps : ∀ r, key (f r) = key r) (k' : κ) :
    (t.update (fun r => key r = k) f keeps).get? k' =
      if k' = k then (t.get? k').map f else t.get? k' := by
  rw [get?_update]
  cases h : t.get? k' with
  | none => simp
  | some r =>
    have hk := get?_key h
    simp only [Option.map_some, decide_eq_true_eq, hk]
    split <;> rfl

theorem mem_insert? [DecidableEq κ] {t t' : Table key} {r : ρ} (h : t.insert? r = some t')
    {r' : ρ} : r' ∈ t'.rows ↔ r' ∈ t.rows ∨ r' = r := by
  unfold insert? at h
  split at h
  · cases h
  · cases h
    simp

theorem insert?_fresh [DecidableEq κ] {t t' : Table key} {r : ρ} (h : t.insert? r = some t') :
    t.get? (key r) = none := by
  unfold insert? at h
  split at h
  · cases h
  · rename_i hfree
    cases hg : t.get? (key r) with
    | none => rfl
    | some r' =>
      exact False.elim (hfree (get?_key hg ▸ List.mem_map_of_mem (get?_mem hg)))

/-- A row under a free key is taken in. -/
theorem insert?_of_free [DecidableEq κ] {t : Table key} {r : ρ} (h : t.get? (key r) = none) :
    ∃ t', t.insert? r = some t' := by
  unfold insert?
  split
  · rename_i htaken
    obtain ⟨r', hr', hkey⟩ := List.mem_map.1 htaken
    rw [get?_eq_some.2 ⟨hr', hkey⟩] at h
    cases h
  · exact ⟨_, rfl⟩

theorem get?_insert? [DecidableEq κ] {t t' : Table key} {r : ρ} (h : t.insert? r = some t')
    (k : κ) : t'.get? k = if key r = k then some r else t.get? k := by
  split
  · rename_i hk
    exact get?_eq_some.mpr ⟨(mem_insert? h).mpr (Or.inr rfl), hk⟩
  · rename_i hk
    cases hg : t.get? k with
    | some r' =>
      obtain ⟨hm, hk'⟩ := get?_eq_some.mp hg
      exact get?_eq_some.mpr ⟨(mem_insert? h).mpr (Or.inl hm), hk'⟩
    | none =>
      cases hg' : t'.get? k with
      | none => rfl
      | some r' =>
        obtain ⟨hm, hk'⟩ := get?_eq_some.mp hg'
        rcases (mem_insert? h).mp hm with hm | rfl
        · rw [get?_eq_some.mpr ⟨hm, hk'⟩] at hg
          cases hg
        · exact False.elim (hk hk')

section Counting

variable {s t : Table key} {p q : ρ → Bool}

theorem keys_nodup (t : Table key) (p : ρ → Bool) : ((t.rows.filter p).map key).Nodup :=
  t.unique.sublist (List.filter_sublist.map key)

/-- Rows that satisfied a condition before, under the same keys, are no more than before. -/
theorem countP_le (h : ∀ r ∈ t.rows, p r = true → ∃ r' ∈ s.rows, key r' = key r ∧ q r' = true) :
    t.rows.countP p ≤ s.rows.countP q := by
  have hsub : (t.rows.filter p).map key ⊆ (s.rows.filter q).map key := by
    intro k hk
    obtain ⟨r, hr, rfl⟩ := List.mem_map.1 hk
    obtain ⟨hmem, hp⟩ := List.mem_filter.1 hr
    obtain ⟨r', hmem', hkey, hq⟩ := h r hmem hp
    exact List.mem_map.2 ⟨r', List.mem_filter.2 ⟨hmem', hq⟩, hkey⟩
  simpa [List.countP_eq_length_filter] using
    (List.subperm_of_subset (t.keys_nodup p) hsub).length_le

/-- One key may be new among them. -/
theorem countP_le_succ (k : κ) (h : ∀ r ∈ t.rows, p r = true →
      key r = k ∨ ∃ r' ∈ s.rows, key r' = key r ∧ q r' = true) :
    t.rows.countP p ≤ s.rows.countP q + 1 := by
  have hsub : (t.rows.filter p).map key ⊆ k :: (s.rows.filter q).map key := by
    intro k' hk'
    obtain ⟨r, hr, rfl⟩ := List.mem_map.1 hk'
    obtain ⟨hmem, hp⟩ := List.mem_filter.1 hr
    rcases h r hmem hp with hnew | ⟨r', hmem', hkey, hq⟩
    · exact hnew ▸ List.mem_cons_self
    · exact List.mem_cons_of_mem k (List.mem_map.2 ⟨r', List.mem_filter.2 ⟨hmem', hq⟩, hkey⟩)
  simpa [List.countP_eq_length_filter] using
    (List.subperm_of_subset (t.keys_nodup p) hsub).length_le

end Counting

end Table

end MediaSync
