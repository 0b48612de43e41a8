import Mathlib.Algebra.Ring.Nat
import MediaSync.Foundation.ProgramRuns

/-!
# Traces of programs

A machine may answer a call in several ways, and its state may change between
two calls of a program. `Executes` is one run of a program on such a machine:
the calls it made with their replies, its result, and the state it left. A
property of every run follows the program: `executes_bind` splits a run where
the program splits, and a program that fails leaves the trace of what it did.

What holds of every run, however its calls are answered, can be read off the
program: `Yields` says which calls it makes and what it comes to, `Spends` how
many calls of a kind it makes from a budget.
-/

namespace MediaSync.Program

open Prog

variable {C : Type} {R : C → Type} {ε α β σ : Type}

/-- A call with the reply it got. -/
structure Exchange (C : Type) (R : C → Type) where
  call : C
  reply : R call

/-- How a machine answers a call, with its state before and after. -/
abbrev Answers (C : Type) (R : C → Type) (σ : Type) := (c : C) → σ → R c → σ → Prop

inductive Executes (answers : Answers C R σ) :
    Prog C R ε α → σ → List (Exchange C R) → Except ε α → σ → Prop
  | done {r : Except ε α} {s : σ} : Executes answers (Prog.done r) s [] r s
  | call {c : C} {k : R c → Prog C R ε α} {s t u : σ} {r : R c} {h : List (Exchange C R)}
      {x : Except ε α} : answers c s r t → Executes answers (k r) t h x u →
      Executes answers (Prog.call c k) s (⟨c, r⟩ :: h) x u

variable {answers : Answers C R σ} {m : Prog C R ε α} {s t u : σ} {h : List (Exchange C R)}

theorem executes_done {r x : Except ε α} :
    Executes answers (Prog.done r) s h x t ↔ h = [] ∧ x = r ∧ t = s := by
  constructor
  · intro he
    cases he
    exact ⟨rfl, rfl, rfl⟩
  · rintro ⟨rfl, rfl, rfl⟩
    exact .done

theorem executes_call {c : C} {k : R c → Prog C R ε α} {x : Except ε α} :
    Executes answers (Prog.call c k) s h x u ↔
      ∃ r t h', h = ⟨c, r⟩ :: h' ∧ answers c s r t ∧ Executes answers (k r) t h' x u := by
  constructor
  · intro he
    cases he with
    | call hans hrest => exact ⟨_, _, _, rfl, hans, hrest⟩
  · rintro ⟨r, t, h', rfl, hans, hrest⟩
    exact .call hans hrest

theorem executes_pure {a : α} {x : Except ε α} :
    Executes answers (pure a : Prog C R ε α) s h x t ↔ h = [] ∧ x = .ok a ∧ t = s :=
  executes_done

theorem executes_throw {e : ε} {x : Except ε α} :
    Executes answers (Prog.throw e : Prog C R ε α) s h x t ↔ h = [] ∧ x = .error e ∧ t = s :=
  executes_done

theorem executes_ask {c : C} {x : Except ε (R c)} :
    Executes answers (ask c : Prog C R ε (R c)) s h x t ↔
      ∃ r, h = [⟨c, r⟩] ∧ x = .ok r ∧ answers c s r t := by
  simp only [ask, executes_call, executes_done]
  constructor
  · rintro ⟨r, t', h', rfl, hans, rfl, rfl, rfl⟩
    exact ⟨r, rfl, rfl, hans⟩
  · rintro ⟨r, rfl, rfl, hans⟩
    exact ⟨r, t, [], rfl, hans, rfl, rfl, rfl⟩

theorem executes_require {b : Bool} {e : ε} {x : Except ε Unit} :
    Executes answers (Prog.require b e : Prog C R ε Unit) s h x t ↔
      h = [] ∧ x = (if b then .ok () else .error e) ∧ t = s := by
  cases b with
  | true => exact executes_done
  | false => exact executes_done

/-- A run of two programs in a row is a run of the first, then one of the second. -/
theorem executes_bind {f : α → Prog C R ε β} {x : Except ε β} :
    Executes answers (m >>= f) s h x u ↔
      (∃ a t h₁ h₂, h = h₁ ++ h₂ ∧ Executes answers m s h₁ (.ok a) t ∧
        Executes answers (f a) t h₂ x u) ∨
      ∃ e, x = .error e ∧ Executes answers m s h (.error e) u := by
  induction m generalizing s h with
  | done r =>
    cases r with
    | ok a =>
      constructor
      · intro he
        exact .inl ⟨a, s, [], h, rfl, .done, he⟩
      · rintro (⟨a', t, h₁, h₂, rfl, hm, hf⟩ | ⟨e, rfl, hm⟩)
        · obtain ⟨rfl, ha, rfl⟩ := executes_done.1 hm
          cases ha
          exact hf
        · exact absurd (executes_done.1 hm).2.1 (by simp)
    | error e =>
      rw [done_bind_error]
      constructor
      · intro he
        obtain ⟨rfl, rfl, rfl⟩ := executes_done.1 he
        exact .inr ⟨e, rfl, .done⟩
      · rintro (⟨a, t, h₁, h₂, rfl, hm, hf⟩ | ⟨e', rfl, hm⟩)
        · exact absurd (executes_done.1 hm).2.1 (by simp)
        · obtain ⟨rfl, he, rfl⟩ := executes_done.1 hm
          cases he
          exact .done
  | call c k ih =>
    rw [call_bind, executes_call]
    constructor
    · rintro ⟨r, t, h', rfl, hans, hrest⟩
      rcases (ih r).1 hrest with ⟨a, v, h₁, h₂, rfl, hm, hf⟩ | ⟨e, rfl, hm⟩
      · exact .inl ⟨a, v, ⟨c, r⟩ :: h₁, h₂, rfl, .call hans hm, hf⟩
      · exact .inr ⟨e, rfl, .call hans hm⟩
    · rintro (⟨a, v, h₁, h₂, rfl, hm, hf⟩ | ⟨e, rfl, hm⟩)
      · obtain ⟨r, t, h', rfl, hans, hrest⟩ := executes_call.1 hm
        exact ⟨r, t, h' ++ h₂, rfl, hans, (ih r).2 (.inl ⟨a, v, h', h₂, rfl, hrest, hf⟩)⟩
      · obtain ⟨r, t, h', rfl, hans, hrest⟩ := executes_call.1 hm
        exact ⟨r, t, h', rfl, hans, (ih r).2 (.inr ⟨e, rfl, hrest⟩)⟩

/-- A run under a handler succeeds of itself, or the handler runs after the failure. -/
theorem executes_catching {f : ε → Prog C R ε α} {x : Except ε α} :
    Executes answers (m.catching f) s h x u ↔
      (∃ a, x = .ok a ∧ Executes answers m s h (.ok a) u) ∨
      ∃ e t h₁ h₂, h = h₁ ++ h₂ ∧ Executes answers m s h₁ (.error e) t ∧
        Executes answers (f e) t h₂ x u := by
  induction m generalizing s h with
  | done r =>
    cases r with
    | ok a =>
      constructor
      · intro he
        obtain ⟨rfl, rfl, rfl⟩ := executes_done.1 he
        exact .inl ⟨a, rfl, .done⟩
      · rintro (⟨a', rfl, hm⟩ | ⟨e, t, h₁, h₂, rfl, hm, hf⟩)
        · exact hm
        · exact absurd (executes_done.1 hm).2.1 (by simp)
    | error e =>
      constructor
      · intro he
        exact .inr ⟨e, s, [], h, rfl, .done, he⟩
      · rintro (⟨a, rfl, hm⟩ | ⟨e', t, h₁, h₂, rfl, hm, hf⟩)
        · exact absurd (executes_done.1 hm).2.1 (by simp)
        · obtain ⟨rfl, he, rfl⟩ := executes_done.1 hm
          cases he
          exact hf
  | call c k ih =>
    constructor
    · intro he
      obtain ⟨r, t, h', rfl, hans, hrest⟩ := executes_call.1 he
      rcases (ih r).1 hrest with ⟨a, rfl, hm⟩ | ⟨e, v, h₁, h₂, rfl, hm, hf⟩
      · exact .inl ⟨a, rfl, .call hans hm⟩
      · exact .inr ⟨e, v, ⟨c, r⟩ :: h₁, h₂, rfl, .call hans hm, hf⟩
    · rintro (⟨a, rfl, hm⟩ | ⟨e, v, h₁, h₂, rfl, hm, hf⟩)
      · obtain ⟨r, t, h', rfl, hans, hrest⟩ := executes_call.1 hm
        exact executes_call.2 ⟨r, t, h', rfl, hans, (ih r).2 (.inl ⟨a, rfl, hrest⟩)⟩
      · obtain ⟨r, t, h', rfl, hans, hrest⟩ := executes_call.1 hm
        exact executes_call.2 ⟨r, t, h' ++ h₂, rfl, hans,
          (ih r).2 (.inr ⟨e, v, h', h₂, rfl, hrest, hf⟩)⟩

theorem executes_bind_ok {f : α → Prog C R ε β} {b : β} :
    Executes answers (m >>= f) s h (.ok b) u ↔
      ∃ a t h₁ h₂, h = h₁ ++ h₂ ∧ Executes answers m s h₁ (.ok a) t ∧
        Executes answers (f a) t h₂ (.ok b) u := by
  rw [executes_bind]
  constructor
  · rintro (he | ⟨e, he, _⟩)
    · exact he
    · cases he
  · exact .inl

/-- Under a handler that does not succeed, a run succeeds of itself. -/
theorem executes_catching_ok {f : ε → Prog C R ε α} {a : α}
    (hf : ∀ e s h t, ¬ Executes answers (f e) s h (.ok a) t) :
    Executes answers (m.catching f) s h (.ok a) u ↔ Executes answers m s h (.ok a) u := by
  rw [executes_catching]
  constructor
  · rintro (⟨b, hb, hm⟩ | ⟨e, t, h₁, h₂, _, _, hend⟩)
    · cases hb
      exact hm
    · exact absurd hend (hf e t h₂ u)
  · exact fun hm => .inl ⟨a, rfl, hm⟩

theorem executes_require_ok {b : Bool} {e : ε} {v : Unit} :
    Executes answers (Prog.require b e : Prog C R ε Unit) s h (.ok v) t ↔
      h = [] ∧ b = true ∧ t = s := by
  rw [executes_require]
  cases b with
  | true => simp
  | false => simp

/-- What every call that a program may make keeps, every run of it keeps. -/
theorem Executes.of_only {allowed : C → Prop} {raises : ε → Prop} {S : σ → σ → Prop}
    {x : Except ε α} (hm : Only allowed raises m) (hrefl : ∀ s, S s s)
    (htrans : ∀ s t u, S s t → S t u → S s u)
    (hcall : ∀ c s r t, allowed c → answers c s r t → S s t)
    (he : Executes answers m s h x t) : S s t ∧ ∀ e, x = .error e → raises e := by
  induction he with
  | @done r s =>
    refine ⟨hrefl s, fun e he => ?_⟩
    subst he
    exact hm
  | call hans _ ih =>
    obtain ⟨hrest, hraise⟩ := ih (hm.2 _)
    exact ⟨htrans _ _ _ (hcall _ _ _ _ hm.1 hans) hrest, hraise⟩

theorem Executes.calls {allowed : C → Prop} {raises : ε → Prop} {x : Except ε α}
    (he : Executes answers m s h x t) (hm : Only allowed raises m) : ∀ e ∈ h, allowed e.call := by
  induction he with
  | done => exact fun e he => absurd he List.not_mem_nil
  | call _ _ ih =>
    exact fun e he => (List.mem_cons.1 he).elim (fun heq => heq ▸ hm.1) (ih (hm.2 _) e)

/-! ## Whatever the answers -/

/-- The calls of the program are allowed and its result has the property. -/
def Yields (allowed : C → Prop) (post : Except ε α → Prop) : Prog C R ε α → Prop
  | done r => post r
  | call c k => allowed c ∧ ∀ r, Yields allowed post (k r)

namespace Yields

variable {allowed : C → Prop} {P : Except ε α → Prop} {Q : Except ε β → Prop}

theorem ask {c : C} {P : Except ε (R c) → Prop} (h : allowed c) (hpost : ∀ r, P (.ok r)) :
    Yields allowed P (Prog.ask c : Prog C R ε (R c)) :=
  ⟨h, hpost⟩

theorem bind {f : α → Prog C R ε β} (hm : Yields allowed P m)
    (hok : ∀ a, P (.ok a) → Yields allowed Q (f a))
    (herror : ∀ e, P (.error e) → Q (.error e)) : Yields allowed Q (m >>= f) := by
  induction m with
  | done r =>
    cases r with
    | ok a => exact hok a hm
    | error e => exact herror e hm
  | call c k ih => exact ⟨hm.1, fun r => ih r (hm.2 r)⟩

theorem catching {Q : Except ε α → Prop} {f : ε → Prog C R ε α} (hm : Yields allowed P m)
    (hok : ∀ a, P (.ok a) → Q (.ok a)) (herror : ∀ e, P (.error e) → Yields allowed Q (f e)) :
    Yields allowed Q (m.catching f) := by
  induction m with
  | done r =>
    cases r with
    | ok a => exact hok a hm
    | error e => exact herror e hm
  | call c k ih => exact ⟨hm.1, fun r => ih r (hm.2 r)⟩

theorem mono {allowed' : C → Prop} {Q : Except ε α → Prop} (hm : Yields allowed P m)
    (hcall : ∀ c, allowed c → allowed' c) (hpost : ∀ r, P r → Q r) : Yields allowed' Q m := by
  induction m with
  | done r => exact hpost r hm
  | call c k ih => exact ⟨hcall c hm.1, fun r => ih r (hm.2 r)⟩

end Yields

theorem Executes.yields {allowed : C → Prop} {post : Except ε α → Prop} {x : Except ε α}
    (he : Executes answers m s h x t) (hm : Yields allowed post m) :
    post x ∧ ∀ e ∈ h, allowed e.call := by
  induction he with
  | done => exact ⟨hm, by simp⟩
  | call _ _ ih =>
    obtain ⟨hpost, hcalls⟩ := ih (hm.2 _)
    exact ⟨hpost, fun e he => (List.mem_cons.1 he).elim (fun heq => heq ▸ hm.1) (hcalls e)⟩

/-- From this state the program does not end with the exception. -/
def Avoids (answers : Answers C R σ) (e : ε) (m : Prog C R ε α) (s : σ) : Prop :=
  ∀ h t, ¬ Executes answers m s h (.error e) t

namespace Avoids

variable {e : ε}

theorem of_yields {allowed : C → Prop} {P : Except ε α → Prop} (hm : Yields allowed P m)
    (he : ¬ P (.error e)) : Avoids answers e m s :=
  fun _ _ hrun => he (hrun.yields hm).1

theorem bind {f : α → Prog C R ε β} (hm : Avoids answers e m s)
    (hf : ∀ a h t, Executes answers m s h (.ok a) t → Avoids answers e (f a) t) :
    Avoids answers e (m >>= f) s := by
  intro h u hrun
  rcases executes_bind.1 hrun with ⟨a, t, h₁, h₂, rfl, hfirst, hrest⟩ | ⟨e', he, hfirst⟩
  · exact hf a h₁ t hfirst h₂ u hrest
  · cases he
    exact hm h u hfirst

theorem catching {f : ε → Prog C R ε α}
    (hf : ∀ e' h t, Executes answers m s h (.error e') t → Avoids answers e (f e') t) :
    Avoids answers e (m.catching f) s := by
  intro h u hrun
  rcases executes_catching.1 hrun with ⟨a, he, _⟩ | ⟨e', t, h₁, h₂, rfl, hfirst, hrest⟩
  · cases he
  · exact hf e' h₁ t hfirst h₂ u hrest

end Avoids

/-- The program makes calls of the kind from a budget, and what it returns leaves the rest of it. -/
def Spends (kind : C → Bool) (left : α → Nat) : Nat → Prog C R ε α → Prop
  | n, done (.ok a) => left a ≤ n
  | _, done (.error _) => True
  | n, call c k =>
    if kind c then ∃ rest, n = rest + 1 ∧ ∀ r, Spends kind left rest (k r)
    else ∀ r, Spends kind left n (k r)

namespace Spends

variable {kind : C → Bool} {left : α → Nat} {left' : β → Nat} {n : Nat}

theorem more {n' : Nat} (hm : Spends kind left n m) (hn : n ≤ n') : Spends kind left n' m := by
  induction m generalizing n n' with
  | done r =>
    cases r with
    | ok a => exact Nat.le_trans hm hn
    | error e => exact trivial
  | call c k ih =>
    rw [Spends] at hm ⊢
    split at hm
    · rename_i hkind
      obtain ⟨rest, rfl, hrest⟩ := hm
      rw [if_pos hkind]
      exact ⟨n' - 1, by omega, fun r => ih r (hrest r) (by omega)⟩
    · rename_i hkind
      rw [if_neg hkind]
      exact fun r => ih r (hm r) hn

theorem bind {f : α → Prog C R ε β} (hm : Spends kind left n m)
    (hf : ∀ a, Spends kind left' (left a) (f a)) : Spends kind left' n (m >>= f) := by
  induction m generalizing n with
  | done r =>
    cases r with
    | ok a => exact (hf a).more hm
    | error e => exact trivial
  | call c k ih =>
    rw [call_bind, Spends]
    rw [Spends] at hm
    split at hm
    · rename_i hkind
      obtain ⟨rest, rfl, hrest⟩ := hm
      rw [if_pos hkind]
      exact ⟨rest, rfl, fun r => ih r (hrest r)⟩
    · rename_i hkind
      rw [if_neg hkind]
      exact fun r => ih r (hm r)

/-- A handler that spends nothing. -/
theorem catching {f : ε → Prog C R ε α} (hm : Spends kind left n m)
    (hf : ∀ e, Spends kind left 0 (f e)) : Spends kind left n (m.catching f) := by
  induction m generalizing n with
  | done r =>
    cases r with
    | ok a => exact hm
    | error e => exact (hf e).more (Nat.zero_le n)
  | call c k ih =>
    rw [Prog.catching, Spends]
    rw [Spends] at hm
    split at hm
    · rename_i hkind
      obtain ⟨rest, rfl, hrest⟩ := hm
      rw [if_pos hkind]
      exact ⟨rest, rfl, fun r => ih r (hrest r)⟩
    · rename_i hkind
      rw [if_neg hkind]
      exact fun r => ih r (hm r)

/-- A program that makes no call of the kind keeps its budget. -/
theorem of_yields {post : Except ε α → Prop} (hm : Yields (fun c => kind c = false) post m)
    (hleft : ∀ a, post (.ok a) → left a ≤ n) : Spends kind left n m := by
  induction m with
  | done r =>
    cases r with
    | ok a => exact hleft a hm
    | error e => exact trivial
  | call c k ih =>
    rw [Spends, hm.1, if_neg (by simp)]
    exact fun r => ih r (hm.2 r)

end Spends

theorem Executes.spends {kind : C → Bool} {left : α → Nat} {n : Nat} {x : Except ε α}
    (he : Executes answers m s h x t) (hm : Spends kind left n m) :
    h.countP (fun e => kind e.call) + x.toOption.elim 0 left ≤ n := by
  induction he generalizing n with
  | @done r s =>
    cases r with
    | ok a => simpa [Spends, Except.toOption] using hm
    | error e => simp [Except.toOption]
  | @call c k s t u r h x _ _ ih =>
    rw [Spends] at hm
    split at hm
    · rename_i hkind
      obtain ⟨rest, rfl, hrest⟩ := hm
      have := ih (hrest r)
      rw [List.countP_cons, if_pos hkind]
      omega
    · rename_i hkind
      have := ih (hm r)
      rw [List.countP_cons, if_neg hkind]
      omega

/-- The calls that a program makes when each has one outcome. -/
def exchanges (perform : Performs C R σ) : Prog C R ε α → σ → List (Exchange C R)
  | done _, _ => []
  | call c k, s => ⟨c, (perform c s).1⟩ :: exchanges perform (k (perform c s).1) (perform c s).2

/-- The run of a program alone is one of its runs. -/
theorem executes_run {perform : Performs C R σ}
    (hperform : ∀ c s, answers c s (perform c s).1 (perform c s).2) (m : Prog C R ε α) (s : σ) :
    Executes answers m s (exchanges perform m s) (run perform m s).1 (run perform m s).2 := by
  induction m generalizing s with
  | done r => exact .done
  | call c k ih => exact .call (hperform c s) (ih _ _)

end MediaSync.Program
