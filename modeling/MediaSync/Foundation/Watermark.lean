import Mathlib.Data.Finset.Empty
import Mathlib.Data.Finset.Lattice.Basic
import Mathlib.Order.WithBot
import Mathlib.Order.Lattice

/-!
# Watermarks

A watermark is an instant, if there is one yet, with the identities seen at it.
Joining two keeps the later instant, and the identities of both where the
instants agree. The join is a semilattice, so folding a list of watermarks into
one does not depend on their order: what comes out is the latest instant with
everything that was seen there.
-/

namespace MediaSync

/-- An instant and what was seen at it. -/
@[ext] structure Watermark (α β : Type) where
  instant : WithBot α
  ids : Finset β

namespace Watermark

variable {α β : Type} [LinearOrder α] [DecidableEq β]

/-- The later one, and both sets where the instants agree. -/
def join (v w : Watermark α β) : Watermark α β :=
  if v.instant < w.instant then w
  else if w.instant < v.instant then v
  else ⟨v.instant, v.ids ∪ w.ids⟩

instance : Max (Watermark α β) := ⟨join⟩

variable {u v w : Watermark α β}

theorem sup_of_lt (h : v.instant < w.instant) : v ⊔ w = w := if_pos h

theorem sup_of_gt (h : w.instant < v.instant) : v ⊔ w = v :=
  (if_neg (not_lt_of_gt h)).trans (if_pos h)

theorem sup_of_eq (h : v.instant = w.instant) : v ⊔ w = ⟨v.instant, v.ids ∪ w.ids⟩ :=
  (if_neg (not_lt_of_ge h.ge)).trans (if_neg (not_lt_of_ge h.le))

theorem instant_sup (v w : Watermark α β) : (v ⊔ w).instant = v.instant ⊔ w.instant := by
  rcases lt_trichotomy v.instant w.instant with h | h | h
  · rw [sup_of_lt h, sup_of_le_right h.le]
  · rw [sup_of_eq h, h, sup_idem]
  · rw [sup_of_gt h, sup_of_le_left h.le]

/-- An identity of the join was seen by one of the two at the later instant. -/
theorem mem_ids_sup {b : β} : b ∈ (v ⊔ w).ids ↔
    (b ∈ v.ids ∧ w.instant ≤ v.instant) ∨ (b ∈ w.ids ∧ v.instant ≤ w.instant) := by
  rcases lt_trichotomy v.instant w.instant with h | h | h
  · rw [sup_of_lt h]
    simp [not_le_of_gt h, h.le]
  · rw [sup_of_eq h]
    simp [h]
  · rw [sup_of_gt h]
    simp [not_le_of_gt h, h.le]

omit [LinearOrder α] [DecidableEq β] in
theorem ext_mem (h : v.instant = w.instant) (hids : ∀ b, b ∈ v.ids ↔ b ∈ w.ids) : v = w :=
  Watermark.ext h (Finset.ext hids)

instance : SemilatticeSup (Watermark α β) :=
  SemilatticeSup.mk'
    (fun v w => by
      apply ext_mem
      · rw [instant_sup, instant_sup, sup_comm]
      · intro b
        rw [mem_ids_sup, mem_ids_sup, or_comm])
    (fun u v w => by
      apply ext_mem
      · rw [instant_sup, instant_sup, instant_sup, instant_sup, sup_assoc]
      · intro b
        simp only [mem_ids_sup, instant_sup, le_sup_iff, sup_le_iff]
        grind)
    (fun v => by
      apply ext_mem
      · rw [instant_sup, sup_idem]
      · intro b
        rw [mem_ids_sup, or_self, and_iff_left le_rfl])

/-- One watermark is below another if it is earlier, or saw no more at the same instant. -/
theorem le_iff : v ≤ w ↔ v.instant < w.instant ∨ (v.instant = w.instant ∧ v.ids ⊆ w.ids) := by
  rw [← sup_eq_right]
  rcases lt_trichotomy v.instant w.instant with h | h | h
  · simp [sup_of_lt h, h]
  · rw [sup_of_eq h]
    simp [h, Watermark.ext_iff]
  · rw [sup_of_gt h]
    constructor
    · intro heq
      rw [heq] at h
      exact absurd h (lt_irrefl _)
    · rintro (hlt | ⟨heq, _⟩)
      · exact absurd hlt (not_lt_of_gt h)
      · exact absurd heq h.ne'

theorem instant_mono (h : v ≤ w) : v.instant ≤ w.instant := by
  rcases le_iff.1 h with hlt | ⟨heq, _⟩
  · exact hlt.le
  · exact heq.le

/-- At an instant that stays, no identity is dropped. -/
theorem ids_mono (h : v ≤ w) (hsame : v.instant = w.instant) : v.ids ⊆ w.ids := by
  rcases le_iff.1 h with hlt | ⟨_, hids⟩
  · exact absurd hsame hlt.ne
  · exact hids

/-- Nothing seen yet. -/
instance : OrderBot (Watermark α β) where
  bot := ⟨⊥, ∅⟩
  bot_le w := le_iff.2 (by
    rcases eq_or_lt_of_le (bot_le (a := w.instant)) with h | h
    · exact .inr ⟨h, Finset.empty_subset _⟩
    · exact .inl h)

/-- The join of a first watermark and a list of further ones. -/
def joinAll (w : Watermark α β) (ws : List (Watermark α β)) : Watermark α β := ws.foldl (· ⊔ ·) w

variable {ws ws' : List (Watermark α β)}

theorem joinAll_concat : joinAll w (ws ++ [v]) = joinAll w ws ⊔ v := by
  simp [joinAll]

/-- The order of the list does not matter. -/
theorem joinAll_perm (h : ws.Perm ws') : joinAll w ws = joinAll w ws' :=
  h.foldl_eq' (fun _ _ _ _ _ => sup_right_comm _ _ _) w

/-- The instant of the join is one of theirs, and none of theirs is later. -/
theorem joinAll_instant (w : Watermark α β) (ws : List (Watermark α β)) :
    (∃ v ∈ w :: ws, v.instant = (joinAll w ws).instant) ∧
      ∀ v ∈ w :: ws, v.instant ≤ (joinAll w ws).instant := by
  induction ws using List.reverseRecOn with
  | nil => exact ⟨⟨w, List.mem_singleton_self w, rfl⟩, by simp [joinAll]⟩
  | append_singleton ws v ih =>
    obtain ⟨⟨u, hu, hinstant⟩, hbound⟩ := ih
    rw [joinAll_concat, instant_sup, ← List.cons_append]
    constructor
    · rcases le_total (joinAll w ws).instant v.instant with h | h
      · exact ⟨v, List.mem_append_right _ (List.mem_singleton_self v), (sup_of_le_right h).symm⟩
      · exact ⟨u, List.mem_append_left _ hu, hinstant.trans (sup_of_le_left h).symm⟩
    · intro x hx
      rcases List.mem_append.1 hx with hx | hx
      · exact le_sup_of_le_left (hbound x hx)
      · obtain rfl := List.mem_singleton.1 hx
        exact le_sup_right

/-- The identities of the join are exactly those seen at its instant. -/
theorem mem_ids_joinAll {b : β} : b ∈ (joinAll w ws).ids ↔
    ∃ v ∈ w :: ws, v.instant = (joinAll w ws).instant ∧ b ∈ v.ids := by
  induction ws using List.reverseRecOn with
  | nil => simp [joinAll]
  | append_singleton ws v ih =>
    have hbound := (joinAll_instant w ws).2
    rw [joinAll_concat, mem_ids_sup, ih, instant_sup, ← List.cons_append]
    constructor
    · rintro (⟨⟨u, hu, hinstant, hb⟩, hle⟩ | ⟨hb, hle⟩)
      · exact ⟨u, List.mem_append_left _ hu, by rw [hinstant, sup_of_le_left hle], hb⟩
      · exact ⟨v, List.mem_append_right _ (List.mem_singleton_self v),
          (sup_of_le_right hle).symm, hb⟩
    · rintro ⟨u, hu, hinstant, hb⟩
      rcases List.mem_append.1 hu with hu | hu
      · have hle : v.instant ≤ (joinAll w ws).instant :=
          le_sup_right.trans (hinstant.symm.le.trans (hbound u hu))
        exact .inl ⟨⟨u, hu, by rw [hinstant, sup_of_le_left hle], hb⟩, hle⟩
      · obtain rfl := List.mem_singleton.1 hu
        exact .inr ⟨hb, le_sup_left.trans hinstant.symm.le⟩

end Watermark

end MediaSync
