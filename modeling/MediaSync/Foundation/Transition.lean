import Mathlib.Tactic.Common
import Mathlib.Data.List.Induction

/-!
# Labelled transition systems

A trace is the list of labels of a run, in order, together with its two ends.
An invariant needs a step lemma and holds at the end of every trace; a trace
splits wherever its labels split, which is how a property of the last step
becomes a property of every step.
-/

namespace MediaSync.Transition

variable {σ ε : Type}

inductive Trace (step : σ → ε → σ → Prop) (s : σ) : List ε → σ → Prop
  | nil : Trace step s [] s
  | snoc {h : List ε} {t u : σ} {e : ε} :
      Trace step s h t → step t e u → Trace step s (h ++ [e]) u

namespace Trace

variable {step : σ → ε → σ → Prop} {s t u : σ} {h k : List ε} {e : ε}

theorem snoc_inv (ht : Trace step s (h ++ [e]) u) : ∃ t, Trace step s h t ∧ step t e u := by
  generalize hl : h ++ [e] = l at ht
  cases ht with
  | nil => simp at hl
  | snoc hh hs =>
    obtain ⟨rfl, he⟩ := List.append_inj' hl rfl
    cases he
    exact ⟨_, hh, hs⟩

theorem nil_inv (ht : Trace step s [] t) : t = s := by
  generalize hl : ([] : List ε) = l at ht
  cases ht with
  | nil => rfl
  | snoc hh hs => simp at hl

theorem append (hst : Trace step s h t) (htu : Trace step t k u) : Trace step s (h ++ k) u := by
  induction htu with
  | nil => simpa using hst
  | snoc _ hs ih =>
    rw [← List.append_assoc]
    exact ih.snoc hs

theorem cons (hs : step s e t) (htu : Trace step t k u) : Trace step s (e :: k) u :=
  append (h := [e]) (Trace.snoc .nil hs) htu

theorem append_inv (ht : Trace step s (h ++ k) u) :
    ∃ t, Trace step s h t ∧ Trace step t k u := by
  induction k using List.reverseRecOn generalizing u with
  | nil => exact ⟨u, by simpa using ht, .nil⟩
  | append_singleton k e ih =>
    rw [← List.append_assoc] at ht
    obtain ⟨v, hv, hs⟩ := ht.snoc_inv
    obtain ⟨t, hst, htv⟩ := ih hv
    exact ⟨t, hst, htv.snoc hs⟩

/-- The step that a label inside a trace stands for, with the run up to it and
the run after it. -/
theorem at_label {pre post : List ε} (ht : Trace step s (pre ++ e :: post) u) :
    ∃ a b, Trace step s pre a ∧ step a e b ∧ Trace step b post u := by
  obtain ⟨a, ha, hrest⟩ := append_inv (k := e :: post) ht
  obtain ⟨b, hab, hb⟩ := append_inv (h := [e]) (k := post) hrest
  obtain ⟨a', ha', hs⟩ := snoc_inv (h := []) hab
  rw [nil_inv ha'] at hs
  exact ⟨a, b, ha, hs, hb⟩

/-- The step at a position of a trace, with the run up to it and the run after it. -/
theorem at_index {i : Nat} (ht : Trace step s h u) (hi : h[i]? = some e) :
    ∃ a b, Trace step s (h.take i) a ∧ step a e b ∧ Trace step b (h.drop (i + 1)) u := by
  obtain ⟨hlt, he⟩ := List.getElem?_eq_some_iff.mp hi
  apply at_label
  rw [← he, ← List.drop_eq_getElem_cons hlt, List.take_append_drop]
  exact ht

/-- Two positions of a trace in order. -/
theorem at_indices {i k : Nat} {f : ε} (ht : Trace step s h u) (hik : i < k) (hi : h[i]? = some e)
    (hk : h[k]? = some f) :
    ∃ a b c d, step a e b ∧ (∃ l, Trace step b l c) ∧ step c f d := by
  obtain ⟨a, b, _, hab, hb⟩ := ht.at_index hi
  have hk' : (h.drop (i + 1))[k - (i + 1)]? = some f := by
    rw [List.getElem?_drop]
    rw [show i + 1 + (k - (i + 1)) = k by omega]
    exact hk
  obtain ⟨c, d, hbc, hcd, _⟩ := hb.at_index hk'
  exact ⟨a, b, c, d, hab, ⟨_, hbc⟩, hcd⟩

/-- What holds at the start and is kept by every step holds at the end. -/
theorem invariant {I : σ → Prop} (hstep : ∀ t e u, I t → step t e u → I u)
    (ht : Trace step s h t) (hs : I s) : I t := by
  induction ht with
  | nil => exact hs
  | snoc _ hstep' ih => exact hstep _ _ _ ih hstep'

/-- A trace whose labels have a property is one of the steps that have it. -/
theorem restrict {P : ε → Prop} (ht : Trace step s h t) (hP : ∀ e ∈ h, P e) :
    Trace (fun s e t => step s e t ∧ P e) s h t := by
  induction ht with
  | nil => exact .nil
  | snoc _ hs ih =>
    refine (ih fun e he => hP e (List.mem_append_left _ he)).snoc ⟨hs, hP _ ?_⟩
    simp

/-- A reflexive and transitive relation that holds over every step holds over the run. -/
theorem relates {R : σ → σ → Prop} (hrefl : ∀ s, R s s) (htrans : ∀ s t u, R s t → R t u → R s u)
    (hstep : ∀ t e u, step t e u → R t u) (ht : Trace step s h t) : R s t := by
  induction ht with
  | nil => exact hrefl s
  | snoc _ hs ih => exact htrans _ _ _ ih (hstep _ _ _ hs)

end Trace

/-- The states that some trace reaches. -/
def Reachable (step : σ → ε → σ → Prop) (init : σ → Prop) (t : σ) : Prop :=
  ∃ s h, init s ∧ Trace step s h t

theorem Reachable.invariant {step : σ → ε → σ → Prop} {init I : σ → Prop} {t : σ}
    (hinit : ∀ s, init s → I s) (hstep : ∀ t e u, I t → step t e u → I u)
    (ht : Reachable step init t) : I t := by
  obtain ⟨s, h, hs, htr⟩ := ht
  exact htr.invariant hstep (hinit s hs)

end MediaSync.Transition
