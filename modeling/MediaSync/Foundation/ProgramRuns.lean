import MediaSync.Foundation.Program

/-!
# Programs that run alone

`Only` says which calls a program may make and which exceptions it may raise,
whatever it is answered. `Upholds` follows one run: an invariant holds of every
state that the run goes through, so also of the state in which a death of the
program leaves it, and the postcondition holds at its end. A program that makes
allowed calls only upholds whatever those calls keep.
-/

namespace MediaSync.Program

open Prog

variable {C : Type} {R : C → Type} {ε α β σ : Type}

theorem require_true_bind (e : ε) (f : Unit → Prog C R ε β) :
    (Prog.require true e >>= f) = f () := rfl

theorem require_false_bind (e : ε) (f : Unit → Prog C R ε β) :
    (Prog.require false e >>= f) = Prog.throw e := rfl

/-- The calls are allowed and the exceptions are those that may be raised, whatever is replied. -/
def Only (allowed : C → Prop) (raises : ε → Prop) : Prog C R ε α → Prop
  | done (.ok _) => True
  | done (.error e) => raises e
  | call c k => allowed c ∧ ∀ r, Only allowed raises (k r)

namespace Only

variable {allowed allowed' : C → Prop} {raises raises' : ε → Prop}

theorem pure (a : α) : Only allowed raises (pure a : Prog C R ε α) := trivial

theorem throw {e : ε} (h : raises e) : Only allowed raises (Prog.throw e : Prog C R ε α) := h

theorem require {b : Bool} {e : ε} (h : b = false → raises e) :
    Only allowed raises (Prog.require b e : Prog C R ε Unit) := by
  cases b with
  | true => exact trivial
  | false => exact h rfl

theorem ask {c : C} (h : allowed c) : Only allowed raises (Prog.ask c : Prog C R ε (R c)) :=
  ⟨h, fun _ => trivial⟩

theorem bind {m : Prog C R ε α} {f : α → Prog C R ε β} (hm : Only allowed raises m)
    (hf : ∀ a, Only allowed raises (f a)) : Only allowed raises (m >>= f) := by
  induction m with
  | done r =>
    cases r with
    | ok a => exact hf a
    | error e => exact hm
  | call c k ih => exact ⟨hm.1, fun r => ih r (hm.2 r)⟩

/-- The exceptions of the handler count, not those that it catches. -/
theorem catching {m : Prog C R ε α} {f : ε → Prog C R ε α} (hm : Only allowed raises' m)
    (hf : ∀ e, raises' e → Only allowed raises (f e)) : Only allowed raises (m.catching f) := by
  induction m with
  | done r =>
    cases r with
    | ok a => exact trivial
    | error e => exact hf e hm
  | call c k ih => exact ⟨hm.1, fun r => ih r (hm.2 r)⟩

theorem ensuring {m : Prog C R ε α} {f : Prog C R ε Unit} (hm : Only allowed raises m)
    (hf : Only allowed raises f) : Only allowed raises (m.ensuring f) := by
  induction m with
  | done r => exact bind hf (fun _ => hm)
  | call c k ih => exact ⟨hm.1, fun r => ih r (hm.2 r)⟩

theorem forEach {f : β → Prog C R ε Unit} {bs : List β}
    (h : ∀ b, Only allowed raises (f b)) : Only allowed raises (Prog.forEach f bs) := by
  induction bs with
  | nil => exact trivial
  | cons b bs ih => exact bind (h b) (fun _ => ih)

/-- More may be allowed and more may be raised. -/
theorem mono {m : Prog C R ε α} (hm : Only allowed raises m) (hcall : ∀ c, allowed c → allowed' c)
    (hraise : ∀ e, raises e → raises' e) : Only allowed' raises' m := by
  induction m with
  | done r =>
    cases r with
    | ok a => exact trivial
    | error e => exact hraise e hm
  | call c k ih => exact ⟨hcall c hm.1, fun r => ih r (hm.2 r)⟩

end Only

variable (perform : Performs C R σ)

/-- From the given state, the invariant holds of every state of the run and the postcondition at
its end. -/
def Upholds (I : σ → Prop) (post : Except ε α → σ → Prop) : Prog C R ε α → σ → Prop
  | done r, s => I s ∧ post r s
  | call c k, s => I s ∧ Upholds I post (k (perform c s).1) (perform c s).2

variable {perform}

namespace Upholds

variable {I : σ → Prop} {post : Except ε α → σ → Prop} {s : σ}

/-- The invariant holds where the program starts. -/
theorem here {m : Prog C R ε α} (h : Upholds perform I post m s) : I s := by
  cases m with
  | done r => exact h.1
  | call c k => exact h.1

/-- The postcondition holds where the run ends. -/
theorem run {m : Prog C R ε α} (h : Upholds perform I post m s) :
    post (run perform m s).1 (run perform m s).2 := by
  induction m generalizing s with
  | done r => exact h.2
  | call c k ih => exact ih _ h.2

/-- However far the program got before it died. -/
theorem runFor {m : Prog C R ε α} (h : Upholds perform I post m s) (n : Nat) :
    I (runFor perform n m s).2 := by
  induction n generalizing m s with
  | zero => exact h.here
  | succ n ih =>
    cases m with
    | done r => exact h.1
    | call c k => exact ih h.2

theorem mono {I' : σ → Prop} {post' : Except ε α → σ → Prop} {m : Prog C R ε α}
    (h : Upholds perform I post m s) (hI : ∀ t, I t → I' t)
    (hpost : ∀ r t, I t → post r t → post' r t) : Upholds perform I' post' m s := by
  induction m generalizing s with
  | done r => exact ⟨hI s h.1, hpost r s h.1 h.2⟩
  | call c k ih => exact ⟨hI s h.1, ih _ h.2⟩

theorem weaken {post' : Except ε α → σ → Prop} {m : Prog C R ε α}
    (h : Upholds perform I post m s) (hpost : ∀ r t, I t → post r t → post' r t) :
    Upholds perform I post' m s :=
  h.mono (fun _ ht => ht) hpost

theorem pure {a : α} (hI : I s) (h : post (.ok a) s) :
    Upholds perform I post (pure a : Prog C R ε α) s :=
  ⟨hI, h⟩

theorem throw {e : ε} (hI : I s) (h : post (.error e) s) :
    Upholds perform I post (Prog.throw e : Prog C R ε α) s :=
  ⟨hI, h⟩

theorem ask {c : C} {post : Except ε (R c) → σ → Prop} (hI : I s) (hI' : I (perform c s).2)
    (h : post (.ok (perform c s).1) (perform c s).2) :
    Upholds perform I post (Prog.ask c : Prog C R ε (R c)) s :=
  ⟨hI, hI', h⟩

theorem bind {post' : Except ε β → σ → Prop} {m : Prog C R ε α} {f : α → Prog C R ε β}
    (hm : Upholds perform I post m s)
    (hok : ∀ a t, I t → post (.ok a) t → Upholds perform I post' (f a) t)
    (herror : ∀ e t, I t → post (.error e) t → post' (.error e) t) :
    Upholds perform I post' (m >>= f) s := by
  induction m generalizing s with
  | done r =>
    cases r with
    | ok a => exact hok a s hm.1 hm.2
    | error e => exact ⟨hm.1, herror e s hm.1 hm.2⟩
  | call c k ih => exact ⟨hm.1, ih _ hm.2⟩

theorem catching {post' : Except ε α → σ → Prop} {m : Prog C R ε α} {f : ε → Prog C R ε α}
    (hm : Upholds perform I post m s)
    (hok : ∀ a t, I t → post (.ok a) t → post' (.ok a) t)
    (herror : ∀ e t, I t → post (.error e) t → Upholds perform I post' (f e) t) :
    Upholds perform I post' (m.catching f) s := by
  induction m generalizing s with
  | done r =>
    cases r with
    | ok a => exact ⟨hm.1, hok a s hm.1 hm.2⟩
    | error e => exact herror e s hm.1 hm.2
  | call c k ih => exact ⟨hm.1, ih _ hm.2⟩

/-- The second program runs after either end of the first, and raises nothing. -/
theorem ensuring {post' : Except ε α → σ → Prop} {m : Prog C R ε α} {f : Prog C R ε Unit}
    (hm : Upholds perform I post m s)
    (hf : ∀ r t, I t → post r t →
      Upholds perform I (fun q u => q = .ok () ∧ post' r u) f t) :
    Upholds perform I post' (m.ensuring f) s := by
  induction m generalizing s with
  | done r =>
    refine (hf r s hm.1 hm.2).bind (fun _ t hI h => ⟨hI, h.2⟩) (fun e t _ h => ?_)
    exact absurd h.1 (by simp)
  | call c k ih => exact ⟨hm.1, ih _ hm.2⟩

/-- Allowed calls lead to related states only. -/
theorem of_only {allowed : C → Prop} {raises : ε → Prop} {S : σ → σ → Prop} {m : Prog C R ε α}
    (hm : Only allowed raises m) (hrefl : ∀ t, S t t)
    (htrans : ∀ t u v, S t u → S u v → S t v)
    (hcall : ∀ c t, allowed c → S t (perform c t).2) :
    Upholds perform (S s) (fun r t => S s t ∧ ∀ e, r = .error e → raises e) m s := by
  suffices h : ∀ u, S s u →
      Upholds perform (S s) (fun r t => S s t ∧ ∀ e, r = .error e → raises e) m u from
    h s (hrefl s)
  induction m with
  | done r =>
    intro u hu
    refine ⟨hu, hu, fun e he => ?_⟩
    subst he
    exact hm
  | call c k ih =>
    intro u hu
    exact ⟨hu, ih _ (hm.2 _) _ (htrans _ _ _ hu (hcall c u hm.1))⟩

end Upholds

end MediaSync.Program
