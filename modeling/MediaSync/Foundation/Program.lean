import Mathlib.Tactic.Common
import MediaSync.Foundation.Transition

/-!
# Programs that make system calls

A program makes calls one at a time and goes on with their replies. Several
programs run on one machine, each step being one call of one of them; a program
may die between two calls and then goes no further.

Interference is described once. `Rely p` says what the others may do to the
program of process `p`; a program is safe when each of its calls, made from any
state the others can lead to, keeps the invariant and everybody's rely
condition. A world that runs safe programs only is safe in every state.
-/

namespace MediaSync.Program

open Transition

variable {C : Type} {R : C → Type} {ε α β σ : Type}

inductive Prog (C : Type) (R : C → Type) (ε α : Type) : Type
  | done (r : Except ε α)
  | call (c : C) (k : R c → Prog C R ε α)

namespace Prog

protected def bind : Prog C R ε α → (α → Prog C R ε β) → Prog C R ε β
  | done (.ok a), f => f a
  | done (.error e), _ => done (.error e)
  | call c k, f => call c (fun r => (k r).bind f)

instance : Monad (Prog C R ε) where
  pure a := done (.ok a)
  bind := Prog.bind

/-- One call, returning its reply. -/
def ask (c : C) : Prog C R ε (R c) := call c (fun r => done (.ok r))

def throw (e : ε) : Prog C R ε α := done (.error e)

def require (b : Bool) (e : ε) : Prog C R ε Unit := if b then pure () else throw e

def ofExcept (r : Except ε α) : Prog C R ε α := done r

/-- `try: m except: h`. -/
def catching : Prog C R ε α → (ε → Prog C R ε α) → Prog C R ε α
  | done (.ok a), _ => done (.ok a)
  | done (.error e), h => h e
  | call c k, h => call c (fun r => (k r).catching h)

/-- `try: m finally: f`, where `f` raises nothing of its own. -/
def ensuring : Prog C R ε α → Prog C R ε Unit → Prog C R ε α
  | done r, f => f.bind (fun _ => done r)
  | call c k, f => call c (fun r => (k r).ensuring f)

def forEach (f : β → Prog C R ε Unit) : List β → Prog C R ε Unit
  | [] => pure ()
  | b :: bs => do
    f b
    forEach f bs

def isDone : Prog C R ε α → Bool
  | done _ => true
  | call _ _ => false

theorem exists_call_of_not_done {m : Prog C R ε α} (h : m.isDone = false) :
    ∃ c k, m = call c k := by
  cases m with
  | done r => cases h
  | call c k => exact ⟨c, k, rfl⟩

theorem done_bind_error (e : ε) (f : α → Prog C R ε β) :
    ((done (.error e) : Prog C R ε α) >>= f) = done (.error e) := rfl

theorem call_bind (c : C) (k : R c → Prog C R ε α) (f : α → Prog C R ε β) :
    (call c k >>= f) = call c (fun r => k r >>= f) := rfl

end Prog

open Prog

section Run

/-- A machine on which a call has one outcome. -/
abbrev Performs (C : Type) (R : C → Type) (σ : Type) := (c : C) → σ → R c × σ

variable (perform : Performs C R σ)

/-- The result of a program that nothing interrupts. -/
def run : Prog C R ε α → σ → Except ε α × σ
  | done r, s => (r, s)
  | call c k, s => run (k (perform c s).1) (perform c s).2

@[simp] theorem run_done (r : Except ε α) (s : σ) : run perform (done r) s = (r, s) := rfl

@[simp] theorem run_pure (a : α) (s : σ) :
    run perform (pure a : Prog C R ε α) s = (.ok a, s) := rfl

@[simp] theorem run_throw (e : ε) (s : σ) :
    run perform (Prog.throw e : Prog C R ε α) s = (.error e, s) := rfl

@[simp] theorem run_call (c : C) (k : R c → Prog C R ε α) (s : σ) :
    run perform (call c k) s = run perform (k (perform c s).1) (perform c s).2 := rfl

@[simp] theorem run_ask (c : C) (s : σ) :
    run perform (ask c : Prog C R ε (R c)) s = (.ok (perform c s).1, (perform c s).2) := rfl

theorem run_bind (m : Prog C R ε α) (f : α → Prog C R ε β) (s : σ) :
    run perform (m >>= f) s =
      match run perform m s with
      | (.ok a, t) => run perform (f a) t
      | (.error e, t) => (.error e, t) := by
  induction m generalizing s with
  | done r => cases r <;> rfl
  | call c k ih => exact ih _ _

theorem run_bind_ok {m : Prog C R ε α} {f : α → Prog C R ε β} {s t : σ} {a : α}
    (h : run perform m s = (.ok a, t)) : run perform (m >>= f) s = run perform (f a) t := by
  rw [run_bind, h]

theorem run_catching (m : Prog C R ε α) (f : ε → Prog C R ε α) (s : σ) :
    run perform (m.catching f) s =
      match run perform m s with
      | (.ok a, t) => (.ok a, t)
      | (.error e, t) => run perform (f e) t := by
  induction m generalizing s with
  | done r => cases r <;> rfl
  | call c k ih => exact ih _ _

theorem run_catching_ok {m : Prog C R ε α} {f : ε → Prog C R ε α} {s t : σ} {a : α}
    (h : run perform m s = (.ok a, t)) : run perform (m.catching f) s = (.ok a, t) := by
  rw [run_catching, h]

theorem run_ensuring (m : Prog C R ε α) (f : Prog C R ε Unit) (s : σ) :
    run perform (m.ensuring f) s =
      match run perform m s with
      | (r, t) => run perform (f >>= fun _ => done r) t := by
  induction m generalizing s with
  | done r => rfl
  | call c k ih => exact ih _ _

theorem run_ensuring_ok {m : Prog C R ε α} {f : Prog C R ε Unit} {s t u : σ} {r : Except ε α}
    (h : run perform m s = (r, t)) (hf : run perform f t = (.ok (), u)) :
    run perform (m.ensuring f) s = (r, u) := by
  rw [run_ensuring, h]
  dsimp only
  rw [run_bind_ok perform hf]
  rfl

/-- What is left of a program after so many calls, with the state they lead to. -/
def runFor : Nat → Prog C R ε α → σ → Prog C R ε α × σ
  | n + 1, call c k, s => runFor n (k (perform c s).1) (perform c s).2
  | _, m, s => (m, s)

end Run

/-- A machine that several processes share: what a call of a process may do,
and what becomes of the state when the process dies. -/
structure Machine (C : Type) (R : C → Type) (σ : Type) where
  acts : Nat → (c : C) → σ → R c → σ → Prop
  dies : Nat → σ → σ

/-- An invariant together with what each process may rely on. `Fresh p` holds of
a process that has not started, `Gone p` of one that will do nothing more, and
`MayDie p` where its death is harmless. -/
structure Discipline {C : Type} {R : C → Type} {σ : Type} (M : Machine C R σ) where
  Inv : σ → Prop
  Rely : Nat → σ → σ → Prop
  Fresh : Nat → σ → Prop
  Gone : Nat → σ → Prop
  MayDie : Nat → σ → Prop
  rely_refl : ∀ p s, Rely p s s
  rely_trans : ∀ p s t u, Rely p s t → Rely p t u → Rely p s u
  fresh_rely : ∀ p s t, Rely p s t → Fresh p s → Fresh p t
  gone_rely : ∀ p s t, Rely p s t → Gone p s → Gone p t
  fresh_gone : ∀ p s, Fresh p s → Gone p s
  dies_gone : ∀ p s, Gone p (M.dies p s)
  dies_inv : ∀ p s, Inv s → MayDie p s → Inv (M.dies p s)
  dies_rely : ∀ p q s, Inv s → MayDie p s → q ≠ p → Rely q s (M.dies p s)

section Safe

variable {M : Machine C R σ} (D : Discipline M)

/-- The step of process `p` keeps the invariant and what the others rely on. -/
structure Discipline.Keeps (p : Nat) (s t : σ) : Prop where
  inv : D.Inv t
  rely : ∀ q, q ≠ p → D.Rely q s t

/-- It holds now and whatever the others do. -/
def Stays (p : Nat) (Q : σ → Prop) (s : σ) : Prop := ∀ t, D.Rely p s t → D.Inv t → Q t

/-- Every call the program makes is disciplined, whatever the others do between
its calls, and it ends in its postcondition. -/
def Safe (p : Nat) (post : Except ε α → σ → Prop) : Prog C R ε α → σ → Prop
  | done r, s => Stays D p (post r) s
  | call c k, s => ∀ t, D.Rely p s t → D.Inv t → ∀ r u, M.acts p c t r u →
      D.Keeps p t u ∧ Safe p post (k r) u

variable {D} {p : Nat} {post : Except ε α → σ → Prop}

theorem Stays.here {Q : σ → Prop} {s : σ} (h : Stays D p Q s) (hs : D.Inv s) : Q s :=
  h s (D.rely_refl _ _) hs

theorem Stays.later {Q : σ → Prop} {s t : σ} (h : Stays D p Q s) (hst : D.Rely p s t) :
    Stays D p Q t :=
  fun u htu hu => h u (D.rely_trans _ _ _ _ hst htu) hu

theorem Safe.later {m : Prog C R ε α} {s t : σ} (h : Safe D p post m s) (hst : D.Rely p s t) :
    Safe D p post m t := by
  cases m with
  | done r => exact Stays.later h hst
  | call c k =>
    intro u htu hu
    exact h u (D.rely_trans _ _ _ _ hst htu) hu

theorem Safe.bind {post' : Except ε β → σ → Prop} {m : Prog C R ε α} {f : α → Prog C R ε β}
    {s : σ} (hm : Safe D p post m s) (hs : D.Inv s)
    (hok : ∀ a t, D.Inv t → Stays D p (post (.ok a)) t → Safe D p post' (f a) t)
    (herror : ∀ e t, D.Inv t → post (.error e) t → post' (.error e) t) :
    Safe D p post' (m >>= f) s := by
  induction m generalizing s with
  | done r =>
    cases r with
    | ok a => exact hok a s hs hm
    | error e => exact fun t hst ht => herror e t ht (hm t hst ht)
  | call c k ih =>
    intro t hst ht r u hact
    obtain ⟨hkeeps, hnext⟩ := hm t hst ht r u hact
    exact ⟨hkeeps, ih r hnext hkeeps.inv⟩

theorem Safe.catching {post' : Except ε α → σ → Prop} {m : Prog C R ε α}
    {f : ε → Prog C R ε α} {s : σ} (hm : Safe D p post m s) (hs : D.Inv s)
    (hok : ∀ a t, D.Inv t → post (.ok a) t → post' (.ok a) t)
    (herror : ∀ e t, D.Inv t → Stays D p (post (.error e)) t → Safe D p post' (f e) t) :
    Safe D p post' (m.catching f) s := by
  induction m generalizing s with
  | done r =>
    cases r with
    | ok a => exact fun t hst ht => hok a t ht (hm t hst ht)
    | error e => exact herror e s hs hm
  | call c k ih =>
    intro t hst ht r u hact
    obtain ⟨hkeeps, hnext⟩ := hm t hst ht r u hact
    exact ⟨hkeeps, ih r hnext hkeeps.inv⟩

theorem Safe.ensuring {post' : Except ε α → σ → Prop} {m : Prog C R ε α}
    {f : Prog C R ε Unit} {s : σ} (hm : Safe D p post m s) (hs : D.Inv s)
    (hf : ∀ r t, D.Inv t → Stays D p (post r) t →
      Safe D p (fun q u => q = .ok () ∧ post' r u) f t) :
    Safe D p post' (m.ensuring f) s := by
  induction m generalizing s with
  | done r =>
    refine Safe.bind (hf r s hs hm) hs (fun _ t _ hpost u htu hu => (hpost u htu hu).2) ?_
    intro e t _ hpost
    exact nomatch hpost.1
  | call c k ih =>
    intro t hst ht r u hact
    obtain ⟨hkeeps, hnext⟩ := hm t hst ht r u hact
    exact ⟨hkeeps, ih r hnext hkeeps.inv⟩

theorem Safe.mono {post' : Except ε α → σ → Prop} {m : Prog C R ε α} {s : σ}
    (hm : Safe D p post m s) (hpost : ∀ r t, D.Inv t → post r t → post' r t) :
    Safe D p post' m s := by
  induction m generalizing s with
  | done r => exact fun t hst ht => hpost r t ht (hm t hst ht)
  | call c k ih =>
    intro t hst ht r u hact
    obtain ⟨hkeeps, hnext⟩ := hm t hst ht r u hact
    exact ⟨hkeeps, ih r hnext⟩

variable (D p) in
/-- From every state in which the precondition holds and stays, the program is
safe and ends in its postcondition. -/
def Triple (A : σ → Prop) (m : Prog C R ε α) (Q : Except ε α → σ → Prop) : Prop :=
  ∀ s, D.Inv s → Stays D p A s → Safe D p Q m s

theorem Stays.of_stable {A : σ → Prop} {s : σ} (hA : ∀ s t, D.Rely p s t → A s → A t)
    (h : A s) : Stays D p A s :=
  fun t hst _ => hA s t hst h

theorem Stays.mono {A B : σ → Prop} {s : σ} (h : Stays D p A s)
    (hAB : ∀ t, D.Inv t → A t → B t) : Stays D p B s :=
  fun t hst ht => hAB t ht (h t hst ht)

namespace Triple

variable {A B : σ → Prop} {Q Q' : Except ε α → σ → Prop} {S : Except ε β → σ → Prop}

theorem done {r : Except ε α} (h : ∀ s, D.Inv s → A s → Q r s) :
    Triple D p A (Prog.done r : Prog C R ε α) Q :=
  fun _ _ hA => hA.mono h

theorem pure {a : α} (h : ∀ s, D.Inv s → A s → Q (.ok a) s) :
    Triple D p A (Pure.pure a : Prog C R ε α) Q :=
  done h

theorem throw {e : ε} (h : ∀ s, D.Inv s → A s → Q (.error e) s) :
    Triple D p A (Prog.throw e : Prog C R ε α) Q :=
  done h

theorem require {b : Bool} {e : ε} {Q : Except ε Unit → σ → Prop}
    (hok : b = true → ∀ s, D.Inv s → A s → Q (.ok ()) s)
    (herror : b = false → ∀ s, D.Inv s → A s → Q (.error e) s) :
    Triple D p A (Prog.require b e : Prog C R ε Unit) Q := by
  cases b with
  | true => exact done (hok rfl)
  | false => exact done (herror rfl)

theorem ask {c : C} {Q : Except ε (R c) → σ → Prop}
    (h : ∀ s, D.Inv s → Stays D p A s → ∀ r t, M.acts p c s r t →
      D.Keeps p s t ∧ Stays D p (Q (.ok r)) t) :
    Triple D p A (Prog.ask c : Prog C R ε (R c)) Q :=
  fun _ _ hA t hst ht => h t ht (hA.later hst)

theorem bind {m : Prog C R ε α} {f : α → Prog C R ε β} (hm : Triple D p A m Q)
    (hf : ∀ a, Triple D p (Q (.ok a)) (f a) S)
    (herror : ∀ e s, D.Inv s → Q (.error e) s → S (.error e) s) :
    Triple D p A (m >>= f) S :=
  fun s hs hA => Safe.bind (hm s hs hA) hs (fun a t ht hQ => hf a t ht hQ) herror

theorem catching {m : Prog C R ε α} {f : ε → Prog C R ε α} (hm : Triple D p A m Q)
    (hok : ∀ a s, D.Inv s → Q (.ok a) s → Q' (.ok a) s)
    (herror : ∀ e, Triple D p (Q (.error e)) (f e) Q') :
    Triple D p A (m.catching f) Q' :=
  fun s hs hA => Safe.catching (hm s hs hA) hs hok (fun e t ht hQ => herror e t ht hQ)

theorem ensuring {m : Prog C R ε α} {f : Prog C R ε Unit} (hm : Triple D p A m Q)
    (hf : ∀ r, Triple D p (Q r) f (fun q u => q = .ok () ∧ Q' r u)) :
    Triple D p A (m.ensuring f) Q' :=
  fun s hs hA => Safe.ensuring (hm s hs hA) hs (fun r t ht hQ => hf r t ht hQ)

theorem ite {c : Prop} [Decidable c] {m n : Prog C R ε α} (hm : c → Triple D p A m Q)
    (hn : ¬ c → Triple D p A n Q) : Triple D p A (if c then m else n) Q := by
  by_cases h : c
  · rw [if_pos h]
    exact hm h
  · rw [if_neg h]
    exact hn h

theorem weaken {m : Prog C R ε α} (hm : Triple D p A m Q)
    (h : ∀ r s, D.Inv s → Q r s → Q' r s) : Triple D p A m Q' :=
  fun s hs hA => (hm s hs hA).mono h

theorem strengthen {m : Prog C R ε α} (hm : Triple D p A m Q)
    (h : ∀ s, D.Inv s → B s → A s) : Triple D p B m Q :=
  fun s hs hB => hm s hs (hB.mono h)

/-- A fact that does not depend on the state. -/
theorem fact {F : Prop} {m : Prog C R ε α} (hm : F → Triple D p A m Q) :
    Triple D p (fun s => F ∧ A s) m Q :=
  fun s hs hA => hm (hA.here hs).1 s hs (hA.mono (fun _ _ h => h.2))

/-- A value that stays what it is. -/
theorem exists_stable {γ : Type} {A : γ → σ → Prop} {m : Prog C R ε α}
    (hA : ∀ c s t, D.Rely p s t → A c s → A c t) (hm : ∀ c, Triple D p (A c) m Q) :
    Triple D p (fun s => ∃ c, A c s) m Q := by
  intro s hs hstays
  obtain ⟨c, hc⟩ := hstays.here hs
  exact hm c s hs (Stays.of_stable (hA c) hc)

theorem forEach {f : β → Prog C R ε Unit} {bs : List β}
    (h : ∀ b ∈ bs, Triple D p A (f b) (fun _ s => A s)) :
    Triple D p A (Prog.forEach f bs) (fun _ s => A s) := by
  induction bs with
  | nil => exact pure (fun _ _ hA => hA)
  | cons b bs ih =>
    exact bind (h b List.mem_cons_self)
      (fun _ => ih (fun b' hb => h b' (List.mem_cons_of_mem b hb))) (fun _ _ _ hA => hA)

end Triple

/-- The result has a property and the assertion still holds. -/
def Framed (F : α → Prop) (E : ε → Prop) (A : σ → Prop) : Except ε α → σ → Prop
  | .ok a, s => F a ∧ A s
  | .error e, s => E e ∧ A s

theorem Framed.holds {F : α → Prop} {E : ε → Prop} {A : σ → Prop} {r : Except ε α} {s : σ}
    (h : Framed F E A r s) : A s := by
  cases r with
  | ok a => exact h.2
  | error e => exact h.2

namespace Triple

variable {A : σ → Prop} {F F' : α → Prop} {E E' : ε → Prop} {S : Except ε β → σ → Prop}

theorem framed_bind {m : Prog C R ε α} {f : α → Prog C R ε β}
    (hm : Triple D p A m (Framed F E A)) (hf : ∀ a, F a → Triple D p A (f a) S)
    (herror : ∀ e s, E e → D.Inv s → A s → S (.error e) s) : Triple D p A (m >>= f) S :=
  bind hm (fun a => fact (hf a)) (fun e s hs h => herror e s h.1 hs h.2)

theorem framed_catching {m : Prog C R ε α} {f : ε → Prog C R ε α} {Q : Except ε α → σ → Prop}
    (hm : Triple D p A m (Framed F E A)) (hok : ∀ a s, F a → D.Inv s → A s → Q (.ok a) s)
    (herror : ∀ e, E e → Triple D p A (f e) Q) : Triple D p A (m.catching f) Q :=
  catching hm (fun a s hs h => hok a s h.1 hs h.2) (fun e => fact (herror e))

theorem framed_weaken {m : Prog C R ε α} (hm : Triple D p A m (Framed F E A))
    (hF : ∀ a, F a → F' a) (hE : ∀ e, E e → E' e) : Triple D p A m (Framed F' E' A) := by
  refine weaken hm (fun r s _ h => ?_)
  cases r with
  | ok a => exact ⟨hF a h.1, h.2⟩
  | error e => exact ⟨hE e h.1, h.2⟩

end Triple

end Safe

/-- The shared state, the rest of every process that has started and not died,
and how many have started. -/
structure World (C : Type) (R : C → Type) (ε α σ : Type) where
  state : σ
  rest : Nat → Option (Prog C R ε α)
  started : Nat

namespace World

def put (w : World C R ε α σ) (p : Nat) (m : Option (Prog C R ε α)) : World C R ε α σ :=
  { w with rest := fun q => if q = p then m else w.rest q }

/-- No process has anything left to do. -/
def Quiet (w : World C R ε α σ) : Prop :=
  ∀ p m, w.rest p = some m → ∃ r, m = done r

end World

inductive Happening where
  | starts (p : Nat)
  | acts (p : Nat)
  | dies (p : Nat)

/-- One thing that happens: a process starts one of the given programs, makes
its next call, or dies where it may. -/
inductive Happens (M : Machine C R σ) (programs : Prog C R ε α → Prop) (mayDie : Nat → σ → Prop) :
    World C R ε α σ → Happening → World C R ε α σ → Prop
  | starts {w : World C R ε α σ} {m : Prog C R ε α} : programs m →
      Happens M programs mayDie w (.starts w.started)
        { w.put w.started (some m) with started := w.started + 1 }
  | acts {w : World C R ε α σ} {p : Nat} {c : C} {k : R c → Prog C R ε α} {r : R c} {t : σ} :
      w.rest p = some (call c k) → M.acts p c w.state r t →
      Happens M programs mayDie w (.acts p) { w.put p (some (k r)) with state := t }
  | dies {w : World C R ε α σ} {p : Nat} {c : C} {k : R c → Prog C R ε α} :
      w.rest p = some (call c k) → mayDie p w.state →
      Happens M programs mayDie w (.dies p) { w.put p none with state := M.dies p w.state }

section Worlds

variable {M : Machine C R σ} (D : Discipline M)

/-- The world before any process has started. -/
def World.initial (s : σ) : World C R ε α σ := ⟨s, fun _ => none, 0⟩

/-- Every process is safe and ends up gone, the unstarted ones are fresh, and the
invariant holds. -/
structure WorldSafe (w : World C R ε α σ) : Prop where
  inv : D.Inv w.state
  safe : ∀ p m, w.rest p = some m → Safe D p (fun _ s => D.Gone p s) m w.state
  gone : ∀ p, w.rest p = none → D.Gone p w.state
  unstarted : ∀ p, w.started ≤ p → w.rest p = none ∧ D.Fresh p w.state

variable {D} {programs : Prog C R ε α → Prop}

theorem World.rest_put (w : World C R ε α σ) (p q : Nat) (m : Option (Prog C R ε α)) :
    (w.put p m).rest q = if q = p then m else w.rest q := rfl

theorem WorldSafe.ne_of_started {w : World C R ε α σ} (hw : WorldSafe D w) {p q : Nat}
    {m : Prog C R ε α} (hp : w.started ≤ p) (hq : w.rest q = some m) : p ≠ q := by
  rintro rfl
  rw [(hw.unstarted p hp).1] at hq
  cases hq

/-- One process moved on; what it did, the others could rely on. -/
theorem WorldSafe.moved {w : World C R ε α σ} {q : Nat} {m : Prog C R ε α}
    {n : Option (Prog C R ε α)} {t : σ} (hw : WorldSafe D w) (hq : w.rest q = some m)
    (hkeeps : D.Keeps q w.state t)
    (hsafe : ∀ k, n = some k → Safe D q (fun _ s => D.Gone q s) k t)
    (hgone : n = none → D.Gone q t) :
    WorldSafe D { w.put q n with state := t } where
  inv := hkeeps.inv
  safe p k hp := by
    rw [World.rest_put] at hp
    by_cases heq : p = q
    · subst heq
      rw [if_pos rfl] at hp
      exact hsafe k hp
    · rw [if_neg heq] at hp
      exact (hw.safe p k hp).later (hkeeps.rely p heq)
  gone p hp := by
    rw [World.rest_put] at hp
    by_cases heq : p = q
    · subst heq
      rw [if_pos rfl] at hp
      exact hgone hp
    · rw [if_neg heq] at hp
      exact D.gone_rely _ _ _ (hkeeps.rely p heq) (hw.gone p hp)
  unstarted p hp := by
    have hne := hw.ne_of_started hp hq
    obtain ⟨hnone, hfresh⟩ := hw.unstarted p hp
    refine ⟨?_, D.fresh_rely _ _ _ (hkeeps.rely p hne) hfresh⟩
    rw [World.rest_put, if_neg hne]
    exact hnone

theorem Happens.safe {w v : World C R ε α σ} {h : Happening}
    (hprog : ∀ m, programs m → ∀ p s, D.Inv s → D.Fresh p s →
      Safe D p (fun _ s => D.Gone p s) m s)
    (hstep : Happens M programs D.MayDie w h v) (hw : WorldSafe D w) : WorldSafe D v := by
  cases hstep with
  | @starts m hm =>
    refine ⟨hw.inv, fun p k hp => ?_, fun p hp => ?_, fun p hp => ?_⟩
    · rw [World.rest_put] at hp
      by_cases heq : p = w.started
      · subst heq
        rw [if_pos rfl] at hp
        cases hp
        exact hprog _ hm _ _ hw.inv (hw.unstarted _ (Nat.le_refl _)).2
      · rw [if_neg heq] at hp
        exact hw.safe p k hp
    · rw [World.rest_put] at hp
      by_cases heq : p = w.started
      · rw [if_pos heq] at hp
        cases hp
      · rw [if_neg heq] at hp
        exact hw.gone p hp
    · obtain ⟨hnone, hfresh⟩ := hw.unstarted p (Nat.le_of_succ_le hp)
      refine ⟨?_, hfresh⟩
      rw [World.rest_put, if_neg (Nat.ne_of_gt hp)]
      exact hnone
  | @acts q c k r t hq hact =>
    obtain ⟨hkeeps, hnext⟩ := hw.safe q _ hq _ (D.rely_refl _ _) hw.inv _ _ hact
    exact hw.moved hq hkeeps (fun _ hk => by cases hk; exact hnext) nofun
  | @dies q c k hq hdie =>
    exact hw.moved hq ⟨D.dies_inv _ _ hw.inv hdie, fun p hp => D.dies_rely _ _ _ hw.inv hdie hp⟩
      nofun (fun _ => D.dies_gone _ _)

/-- What happens in a safe world changes its state only as a bystander expects. -/
theorem Happens.bystander {w v : World C R ε α σ} {h : Happening} {p : Nat}
    (hstep : Happens M programs D.MayDie w h v) (hw : WorldSafe D w) (hp : w.started ≤ p) :
    D.Rely p w.state v.state := by
  cases hstep with
  | starts => exact D.rely_refl _ _
  | acts hq hact =>
    have hne := hw.ne_of_started hp hq
    exact (hw.safe _ _ hq _ (D.rely_refl _ _) hw.inv _ _ hact).1.rely p hne
  | dies hq hdie => exact D.dies_rely _ _ _ hw.inv hdie (hw.ne_of_started hp hq)

/-- In a quiet world every process is gone. -/
theorem WorldSafe.all_gone {w : World C R ε α σ} (hw : WorldSafe D w) (hquiet : w.Quiet)
    (p : Nat) : D.Gone p w.state := by
  cases hp : w.rest p with
  | none => exact hw.gone p hp
  | some m =>
    obtain ⟨r, rfl⟩ := hquiet p m hp
    exact (hw.safe p _ hp).here hw.inv

/-- A world of safe programs is safe in every state it reaches. -/
theorem worldSafe_of_reachable {init : World C R ε α σ → Prop} {w : World C R ε α σ}
    (hinit : ∀ w, init w → WorldSafe D w)
    (hprog : ∀ m, programs m → ∀ p s, D.Inv s → D.Fresh p s →
      Safe D p (fun _ s => D.Gone p s) m s)
    (hw : Reachable (Happens M programs D.MayDie) init w) : WorldSafe D w :=
  hw.invariant hinit (fun _ _ _ hv hstep => hstep.safe hprog hv)

/-- The world after process `p` has got as far as `m`. -/
def World.after (w : World C R ε α σ) (p : Nat) (m : Prog C R ε α) (s : σ) : World C R ε α σ :=
  { w.put p (some m) with state := s }

theorem World.after_self {w : World C R ε α σ} {p : Nat} {m : Prog C R ε α}
    (hw : w.rest p = some m) : w.after p m w.state = w := by
  have hrest : (w.after p m w.state).rest = w.rest := by
    funext q
    by_cases hq : q = p
    · rw [hq, hw]
      exact if_pos rfl
    · exact if_neg hq
  cases w
  exact congrArg (World.mk _ · _) hrest

theorem World.after_after (w : World C R ε α σ) (p : Nat) (m n : Prog C R ε α) (s t : σ) :
    (w.after p m s).after p n t = w.after p n t := by
  have hrest : ((w.after p m s).after p n t).rest = (w.after p n t).rest := by
    funext q
    by_cases hq : q = p
    · rw [hq]
      exact (if_pos rfl).trans (if_pos rfl).symm
    · exact (if_neg hq).trans ((if_neg hq).trans (if_neg hq).symm)
  exact congrArg (World.mk _ · _) hrest

/-- A process may make its next calls while the others do nothing. -/
theorem Happens.runFor {mayDie : Nat → σ → Prop} {perform : Performs C R σ} {p : Nat}
    (hacts : ∀ c s, M.acts p c s (perform c s).1 (perform c s).2) (n : Nat)
    {m : Prog C R ε α} {w : World C R ε α σ} (hw : w.rest p = some m) :
    ∃ h, Trace (Happens M programs mayDie) w h
      (w.after p (Program.runFor perform n m w.state).1 (Program.runFor perform n m w.state).2) := by
  induction n generalizing m w with
  | zero =>
    refine ⟨[], ?_⟩
    rw [show Program.runFor perform 0 m w.state = (m, w.state) by cases m <;> rfl,
      World.after_self hw]
    exact .nil
  | succ n ih =>
    cases m with
    | done r =>
      refine ⟨[], ?_⟩
      rw [show Program.runFor perform (n + 1) (done r) w.state = (done r, w.state) from rfl,
        World.after_self hw]
      exact .nil
    | call c k =>
      have hstep : Happens M programs mayDie w (.acts p)
          (w.after p (k (perform c w.state).1) (perform c w.state).2) :=
        .acts hw (hacts c w.state)
      obtain ⟨h, ht⟩ := ih (w := w.after p (k (perform c w.state).1) (perform c w.state).2)
        (if_pos rfl)
      rw [World.after_after] at ht
      exact ⟨.acts p :: h, Trace.cons hstep ht⟩

end Worlds

end MediaSync.Program
