import Mathlib.Tactic.Common
import Mathlib.Data.List.Basic

/-!
# Transactional programs

A program reads and writes a state and may stop with an error. Inside one
program a caught error keeps what was written before it, as a session does;
`commit` is the outer boundary, where an uncaught error restores the state.

`Triple` is the Hoare triple with a separate postcondition for errors and
`Within R` says that a program relates every start state to its end state by
`R`, whichever way it ends. Both are closed under sequencing, catching and
iteration, so a program's specification is assembled from its parts.
-/

namespace MediaSync.Transaction

theorem except_bind_ok {ε α β : Type} {x : Except ε α} {f : α → Except ε β} {b : β}
    (h : (x >>= f) = .ok b) : ∃ a, x = .ok a ∧ f a = .ok b := by
  cases x with
  | ok a => exact ⟨a, rfl, h⟩
  | error e => cases h

/-- A program over the state `σ` with errors in `ε`. -/
def Tx (σ ε α : Type) : Type := σ → Except ε α × σ

namespace Tx

variable {σ ε α β : Type}

protected def pure (a : α) : Tx σ ε α := fun s => (.ok a, s)

protected def bind (m : Tx σ ε α) (f : α → Tx σ ε β) : Tx σ ε β := fun s =>
  match m s with
  | (.ok a, s') => f a s'
  | (.error e, s') => (.error e, s')

instance : Monad (Tx σ ε) where
  pure := Tx.pure
  bind := Tx.bind

/-- Stop with an error; what was written so far stays. -/
def throw (e : ε) : Tx σ ε α := fun s => (.error e, s)

/-- Run a handler on the errors it accepts, from the state the error left. -/
def catching (m : Tx σ ε α) (accepts : ε → Bool) (h : ε → Tx σ ε α) : Tx σ ε α := fun s =>
  match m s with
  | (.ok a, s') => (.ok a, s')
  | (.error e, s') => if accepts e then h e s' else (.error e, s')

/-- Read a projection of the state. -/
def read (f : σ → α) : Tx σ ε α := fun s => (.ok (f s), s)

/-- Replace the state. -/
def modify (f : σ → σ) : Tx σ ε Unit := fun s => (.ok (), f s)

/-- Replace the state and return what the update produced. -/
def modifyGet (f : σ → α × σ) : Tx σ ε α := fun s => (.ok (f s).1, (f s).2)

/-- Turn an error value into a stop. -/
def ofExcept : Except ε α → Tx σ ε α
  | .ok a => Tx.pure a
  | .error e => throw e

/-- Stop with `e` unless `p` holds. -/
def require (p : Bool) (e : ε) : Tx σ ε Unit := if p then Tx.pure () else throw e

/-- Run a program for each element in order. -/
def forEach (f : β → Tx σ ε Unit) : List β → Tx σ ε Unit
  | [] => pure ()
  | b :: bs => do
    f b
    forEach f bs

/-- The outer boundary: an error undoes everything the program wrote. -/
def commit (m : Tx σ ε α) : Tx σ ε α := fun s =>
  match m s with
  | (.ok a, s') => (.ok a, s')
  | (.error e, _) => (.error e, s)

@[simp] theorem run_pure (a : α) (s : σ) : (pure a : Tx σ ε α) s = (.ok a, s) := rfl

@[simp] theorem run_throw (e : ε) (s : σ) : (throw e : Tx σ ε α) s = (.error e, s) := rfl

@[simp] theorem run_read (f : σ → α) (s : σ) : (read f : Tx σ ε α) s = (.ok (f s), s) := rfl

@[simp] theorem run_modify (f : σ → σ) (s : σ) :
    (modify f : Tx σ ε Unit) s = (.ok (), f s) := rfl

@[simp] theorem run_modifyGet (f : σ → α × σ) (s : σ) :
    (modifyGet f : Tx σ ε α) s = (.ok (f s).1, (f s).2) := rfl

theorem run_bind (m : Tx σ ε α) (f : α → Tx σ ε β) (s : σ) :
    (m >>= f) s = match m s with
      | (.ok a, s') => f a s'
      | (.error e, s') => (.error e, s') := rfl

theorem run_bind_of_ok {m : Tx σ ε α} {f : α → Tx σ ε β} {s t : σ} {a : α}
    (h : m s = (.ok a, t)) : (m >>= f) s = f a t := by
  rw [run_bind, h]

theorem run_read_bind (f : σ → α) (g : α → Tx σ ε β) (s : σ) :
    (read f >>= g) s = g (f s) s := rfl

theorem run_bind_ok {m : Tx σ ε α} {f : α → Tx σ ε β} {s t : σ} {b : β}
    (h : (m >>= f) s = (.ok b, t)) :
    ∃ a s', m s = (.ok a, s') ∧ f a s' = (.ok b, t) := by
  rw [run_bind] at h
  split at h
  · rename_i a s' hm
    exact ⟨a, s', hm, h⟩
  · cases h

/-- The two ways a sequence ends. -/
theorem run_bind_ends {m : Tx σ ε α} {f : α → Tx σ ε β} {s t : σ} {r : Except ε β}
    (h : (m >>= f) s = (r, t)) :
    (∃ e, m s = (.error e, t) ∧ r = .error e) ∨
      ∃ a u, m s = (.ok a, u) ∧ f a u = (r, t) := by
  rw [run_bind] at h
  split at h
  · rename_i a u hm
    exact .inr ⟨a, u, hm, h⟩
  · rename_i e u hm
    cases h
    exact .inl ⟨e, hm, rfl⟩

@[simp] theorem run_require (p : Bool) (e : ε) (s : σ) :
    (require p e : Tx σ ε Unit) s = if p then (.ok (), s) else (.error e, s) := by
  unfold require
  split <;> rfl

theorem commit_ok {m : Tx σ ε α} {s t : σ} {a : α} (h : commit m s = (.ok a, t)) :
    m s = (.ok a, t) := by
  unfold commit at h
  split at h
  · rename_i b s' hm
    rw [hm]
    exact h
  · cases h

/-- A program that stops leaves nothing behind at the outer boundary. -/
theorem commit_error {m : Tx σ ε α} {s t : σ} {e : ε} (h : commit m s = (.error e, t)) :
    t = s := by
  unfold commit at h
  split at h
  · cases h
  · exact (Prod.mk.inj h).2.symm

/-- From `P` the program ends in `Q` with its value, or in `E` with its error. -/
def Triple (P : σ → Prop) (m : Tx σ ε α) (Q : α → σ → Prop) (E : ε → σ → Prop) : Prop :=
  ∀ s, P s → (∀ a t, m s = (.ok a, t) → Q a t) ∧ (∀ e t, m s = (.error e, t) → E e t)

theorem Triple.pure {P : σ → Prop} {Q : α → σ → Prop} {E : ε → σ → Prop} {a : α}
    (h : ∀ s, P s → Q a s) : Triple P (Pure.pure a : Tx σ ε α) Q E := by
  intro s hs
  constructor
  · intro b t hb
    cases hb
    exact h s hs
  · intro e t he
    cases he

theorem Triple.throw {P : σ → Prop} {Q : α → σ → Prop} {E : ε → σ → Prop} {e : ε}
    (h : ∀ s, P s → E e s) : Triple P (Tx.throw e : Tx σ ε α) Q E := by
  intro s hs
  constructor
  · intro b t hb
    cases hb
  · intro e' t he
    cases he
    exact h s hs

theorem Triple.bind {P : σ → Prop} {m : Tx σ ε α} {R : α → σ → Prop} {f : α → Tx σ ε β}
    {Q : β → σ → Prop} {E : ε → σ → Prop} (hm : Triple P m R E)
    (hf : ∀ a, Triple (R a) (f a) Q E) : Triple P (m >>= f) Q E := by
  intro s hs
  obtain ⟨hok, herr⟩ := hm s hs
  rw [run_bind]
  split
  · rename_i a s' hrun
    exact hf a s' (hok a s' hrun)
  · rename_i e s' hrun
    constructor
    · intro b t hb
      cases hb
    · intro e' t he
      cases he
      exact herr e s' hrun

theorem Triple.read {P : σ → Prop} {f : σ → α} {Q : α → σ → Prop} {E : ε → σ → Prop}
    (h : ∀ s, P s → Q (f s) s) : Triple P (Tx.read f : Tx σ ε α) Q E := by
  intro s hs
  constructor
  · intro b t hb
    cases hb
    exact h s hs
  · intro e t he
    cases he

theorem Triple.modify {P : σ → Prop} {f : σ → σ} {Q : Unit → σ → Prop} {E : ε → σ → Prop}
    (h : ∀ s, P s → Q () (f s)) : Triple P (Tx.modify f : Tx σ ε Unit) Q E := by
  intro s hs
  constructor
  · intro b t hb
    cases hb
    exact h s hs
  · intro e t he
    cases he

theorem Triple.modifyGet {P : σ → Prop} {f : σ → α × σ} {Q : α → σ → Prop} {E : ε → σ → Prop}
    (h : ∀ s, P s → Q (f s).1 (f s).2) : Triple P (Tx.modifyGet f : Tx σ ε α) Q E := by
  intro s hs
  constructor
  · intro b t hb
    cases hb
    exact h s hs
  · intro e t he
    cases he

theorem Triple.require {P : σ → Prop} {p : Bool} {e : ε} {Q : Unit → σ → Prop}
    {E : ε → σ → Prop} (hok : ∀ s, P s → p = true → Q () s)
    (herr : ∀ s, P s → p = false → E e s) : Triple P (Tx.require p e : Tx σ ε Unit) Q E := by
  cases p with
  | true => exact Triple.pure (fun s hs => hok s hs rfl)
  | false => exact Triple.throw (fun s hs => herr s hs rfl)

theorem Triple.conseq {P P' : σ → Prop} {m : Tx σ ε α} {Q Q' : α → σ → Prop}
    {E E' : ε → σ → Prop} (h : Triple P m Q E) (hP : ∀ s, P' s → P s)
    (hQ : ∀ a s, Q a s → Q' a s) (hE : ∀ e s, E e s → E' e s) : Triple P' m Q' E' := by
  intro s hs
  obtain ⟨hok, herr⟩ := h s (hP s hs)
  exact ⟨fun a t hrun => hQ a t (hok a t hrun), fun e t hrun => hE e t (herr e t hrun)⟩

theorem Triple.catching {P : σ → Prop} {m : Tx σ ε α} {accepts : ε → Bool}
    {h : ε → Tx σ ε α} {Q : α → σ → Prop} {F E : ε → σ → Prop} (hm : Triple P m Q F)
    (hh : ∀ e, accepts e = true → Triple (F e) (h e) Q E)
    (hpass : ∀ e s, accepts e = false → F e s → E e s) :
    Triple P (Tx.catching m accepts h) Q E := by
  intro s hs
  obtain ⟨hok, herr⟩ := hm s hs
  unfold Tx.catching
  split
  · rename_i a s' hrun
    constructor
    · intro b t hb
      cases hb
      exact hok a s' hrun
    · intro e t he
      cases he
  · rename_i e s' hrun
    cases hacc : accepts e with
    | true =>
      simp only [if_true]
      exact hh e hacc s' (herr e s' hrun)
    | false =>
      simp only [Bool.false_eq_true, if_false]
      constructor
      · intro b t hb
        cases hb
      · intro e' t he
        cases he
        exact hpass e s' hacc (herr e s' hrun)

theorem Triple.forEach {I : σ → Prop} {f : β → Tx σ ε Unit} {E : ε → σ → Prop} (bs : List β)
    (h : ∀ b ∈ bs, Triple I (f b) (fun _ => I) E) :
    Triple I (Tx.forEach f bs) (fun _ => I) E := by
  induction bs with
  | nil => exact Triple.pure (fun s hs => hs)
  | cons b bs ih =>
    refine Triple.bind (h b List.mem_cons_self) (fun _ => ?_)
    exact ih (fun b' hb' => h b' (List.mem_cons_of_mem b hb'))

/-! ## Relating the two ends of a program -/

/-- However the program ends, its end state is related to its start state. -/
def Within (R : σ → σ → Prop) (m : Tx σ ε α) : Prop := ∀ s, R s (m s).2

/-- The relations that sequencing can be closed under. -/
structure Chains (R : σ → σ → Prop) : Prop where
  refl : ∀ s, R s s
  trans : ∀ s t u, R s t → R t u → R s u

section Within

variable {R : σ → σ → Prop}

theorem Within.pure (hR : Chains R) (a : α) : Within R (Pure.pure a : Tx σ ε α) :=
  fun s => hR.refl s

theorem Within.throw (hR : Chains R) (e : ε) : Within R (Tx.throw e : Tx σ ε α) :=
  fun s => hR.refl s

theorem Within.read (hR : Chains R) (f : σ → α) : Within R (Tx.read f : Tx σ ε α) :=
  fun s => hR.refl s

theorem Within.modify {f : σ → σ} (h : ∀ s, R s (f s)) : Within R (Tx.modify f : Tx σ ε Unit) :=
  h

theorem Within.modifyGet {f : σ → α × σ} (h : ∀ s, R s (f s).2) :
    Within R (Tx.modifyGet f : Tx σ ε α) :=
  h

theorem Within.require (hR : Chains R) (p : Bool) (e : ε) :
    Within R (Tx.require p e : Tx σ ε Unit) := by
  intro s
  rw [run_require]
  split <;> exact hR.refl s

theorem Within.ofExcept (hR : Chains R) (x : Except ε α) :
    Within R (Tx.ofExcept x : Tx σ ε α) := by
  cases x with
  | ok a => exact fun s => hR.refl s
  | error e => exact fun s => hR.refl s

theorem Within.bind (hR : Chains R) {m : Tx σ ε α} {f : α → Tx σ ε β} (hm : Within R m)
    (hf : ∀ a, Within R (f a)) : Within R (m >>= f) := by
  intro s
  have h := hm s
  rw [run_bind]
  cases hrun : m s with
  | mk r s' =>
    rw [hrun] at h
    cases r with
    | ok a => exact hR.trans _ _ _ h (hf a s')
    | error e => exact h

theorem Within.catching (hR : Chains R) {m : Tx σ ε α} {accepts : ε → Bool}
    {h : ε → Tx σ ε α} (hm : Within R m) (hh : ∀ e, Within R (h e)) :
    Within R (Tx.catching m accepts h) := by
  intro s
  have hs := hm s
  unfold Tx.catching
  cases hrun : m s with
  | mk r s' =>
    rw [hrun] at hs
    cases r with
    | ok a => exact hs
    | error e =>
      by_cases hacc : accepts e = true
      · simp only [hacc, if_true]
        exact hR.trans _ _ _ hs (hh e s')
      · simp only [hacc]
        exact hs

theorem Within.forEach (hR : Chains R) {f : β → Tx σ ε Unit} (bs : List β)
    (h : ∀ b ∈ bs, Within R (f b)) : Within R (Tx.forEach f bs) := by
  induction bs with
  | nil => exact Within.pure hR ()
  | cons b bs ih =>
    refine Within.bind hR (h b List.mem_cons_self) (fun _ => ?_)
    exact ih (fun b' hb' => h b' (List.mem_cons_of_mem b hb'))

theorem Within.commit (hR : Chains R) {m : Tx σ ε α} (hm : Within R m) :
    Within R (Tx.commit m) := by
  intro s
  have h := hm s
  unfold Tx.commit
  cases hrun : m s with
  | mk r s' =>
    rw [hrun] at h
    cases r with
    | ok a => exact h
    | error e => exact hR.refl s

theorem Within.ends {m : Tx σ ε α} (hm : Within R m) {s t : σ} {r : Except ε α}
    (hrun : m s = (r, t)) : R s t := by
  have h := hm s
  rw [hrun] at h
  exact h

theorem Within.mono {S : σ → σ → Prop} (h : ∀ a b, R a b → S a b) {m : Tx σ ε α}
    (hm : Within R m) : Within S m :=
  fun s => h s _ (hm s)

/-- A continuation that only has to be related where the first part really ends. -/
theorem Within.bind_at (hR : Chains R) {m : Tx σ ε α} {f : α → Tx σ ε β} {s : σ}
    (hm : Within R m) (hf : ∀ a t, m s = (.ok a, t) → R t (f a t).2) : R s ((m >>= f) s).2 := by
  have h := hm s
  rw [run_bind]
  cases hrun : m s with
  | mk r t =>
    rw [hrun] at h
    cases r with
    | ok a => exact hR.trans _ _ _ h (hf a t hrun)
    | error e => exact h

theorem Within.read_at {f : σ → α} {g : α → Tx σ ε β} {s : σ} (h : R s (g (f s) s).2) :
    R s ((Tx.read f >>= g) s).2 := h

theorem Within.require_at (hR : Chains R) {p : Bool} {e : ε} {g : Unit → Tx σ ε β} {s : σ}
    (h : p = true → R s (g () s).2) : R s ((Tx.require p e >>= g) s).2 := by
  cases p with
  | true => exact h rfl
  | false => exact hR.refl s

end Within

/-- The program reads and does not write. -/
abbrev ReadOnly (m : Tx σ ε α) : Prop := Within (fun s t => t = s) m

theorem ReadOnly.chains : Chains (fun s t : σ => t = s) where
  refl _ := rfl
  trans _ _ _ h k := k.trans h

theorem ReadOnly.state {m : Tx σ ε α} (h : ReadOnly m) {s t : σ} {r : Except ε α}
    (hrun : m s = (r, t)) : t = s :=
  Within.ends h hrun

/-- After a part that only reads, the continuation runs from the same state. -/
theorem run_bind_read {m : Tx σ ε α} {f : α → Tx σ ε β} {s t : σ} {b : β} (hm : ReadOnly m)
    (h : (m >>= f) s = (.ok b, t)) : ∃ a, m s = (.ok a, s) ∧ f a s = (.ok b, t) := by
  obtain ⟨a, s', hrun, hf⟩ := run_bind_ok h
  have hs := hm.state hrun
  rw [hs] at hrun hf
  exact ⟨a, hrun, hf⟩

theorem run_ofExcept_ok {x : Except ε α} {s t : σ} {a : α}
    (h : (ofExcept x : Tx σ ε α) s = (.ok a, t)) : x = .ok a ∧ t = s := by
  cases x with
  | ok b =>
    cases h
    exact ⟨rfl, rfl⟩
  | error e => cases h

theorem run_bind_ofExcept {x : Except ε α} {f : α → Tx σ ε β} {s t : σ} {b : β}
    (h : (ofExcept x >>= f) s = (.ok b, t)) : ∃ a, x = .ok a ∧ f a s = (.ok b, t) := by
  cases x with
  | ok a => exact ⟨a, rfl, h⟩
  | error e => cases h

theorem run_bind_require {p : Bool} {e : ε} {f : Unit → Tx σ ε β} {s t : σ} {b : β}
    (h : (require p e >>= f) s = (.ok b, t)) : p = true ∧ f () s = (.ok b, t) := by
  cases p with
  | true => exact ⟨rfl, h⟩
  | false => cases h

theorem run_require_ok {p : Bool} {e : ε} {s t : σ} {a : Unit}
    (h : (require p e : Tx σ ε Unit) s = (.ok a, t)) : p = true ∧ t = s := by
  rw [run_require] at h
  split at h
  · rename_i hp
    cases h
    exact ⟨hp, rfl⟩
  · cases h

/-- From `s` the program ends in `Q`, or stops and leaves `s`. -/
structure AllOrNothing (s : σ) (m : Tx σ ε α) (Q : α → σ → Prop) : Prop where
  all : ∀ a t, m s = (.ok a, t) → Q a t
  nothing : ∀ e t, m s = (.error e, t) → t = s

namespace AllOrNothing

variable {s : σ} {Q : α → σ → Prop} {Q' : β → σ → Prop}

theorem throw (e : ε) : AllOrNothing s (Tx.throw e : Tx σ ε α) Q where
  all b t hb := by cases hb
  nothing e' t he := by
    cases he
    rfl

/-- Every part but the last only reads. -/
theorem bind {m : Tx σ ε α} {f : α → Tx σ ε β} (hm : ReadOnly m)
    (hf : ∀ a, m s = (.ok a, s) → AllOrNothing s (f a) Q') : AllOrNothing s (m >>= f) Q' where
  all b t hrun := by
    obtain ⟨a, ha, hfa⟩ := run_bind_read hm hrun
    exact (hf a ha).all b t hfa
  nothing e t hrun := by
    rcases run_bind_ends hrun with ⟨e', herr, _⟩ | ⟨a, u, hok, hfa⟩
    · exact hm.state herr
    · have hu := hm.state hok
      rw [hu] at hok hfa
      exact (hf a hok).nothing e t hfa

theorem bind_require {p : Bool} {e : ε} {f : Unit → Tx σ ε β}
    (hf : p = true → AllOrNothing s (f ()) Q') : AllOrNothing s (Tx.require p e >>= f) Q' := by
  cases p with
  | true => exact hf rfl
  | false => exact throw e

theorem catching {m : Tx σ ε α} {accepts : ε → Bool} {h : ε → Tx σ ε α}
    (hm : AllOrNothing s m Q) (hh : ∀ e, AllOrNothing s (h e) Q) :
    AllOrNothing s (Tx.catching m accepts h) Q := by
  unfold Tx.catching
  cases hrun : m s with
  | mk r t =>
    cases r with
    | ok a =>
      constructor
      · intro b u hb
        simp only [hrun] at hb
        cases hb
        exact hm.all a _ hrun
      · intro e u he
        simp only [hrun] at he
        cases he
    | error e =>
      have ht := hm.nothing e t hrun
      subst ht
      constructor
      · intro b u hb
        simp only [hrun] at hb
        split at hb
        · exact (hh e).all b u hb
        · cases hb
      · intro e' u he
        simp only [hrun] at he
        split at he
        · exact (hh e).nothing e' u he
        · exact (Prod.mk.inj he).2.symm

theorem mono {m : Tx σ ε α} {R : α → σ → Prop} (h : AllOrNothing s m Q)
    (hQ : ∀ a t, Q a t → R a t) : AllOrNothing s m R :=
  ⟨fun a t hrun => hQ a t (h.all a t hrun), h.nothing⟩

end AllOrNothing

/-- `I` holds again at the end, and what the program returns satisfies `φ`. -/
def Maintains (I : σ → Prop) (m : Tx σ ε α) (φ : α → Prop) : Prop :=
  Triple I m (fun a t => I t ∧ φ a) (fun _ => I)

namespace Maintains

variable {I : σ → Prop} {φ : α → Prop} {ψ : β → Prop}

theorem run {m : Tx σ ε α} (h : Maintains I m φ) {s : σ} (hs : I s) : I (m s).2 := by
  obtain ⟨hok, herr⟩ := h s hs
  cases hrun : m s with
  | mk r t =>
    cases r with
    | ok a => exact (hok a t hrun).1
    | error e => exact herr e t hrun

theorem mono {m : Tx σ ε α} {φ' : α → Prop} (h : Maintains I m φ) (hφ : ∀ a, φ a → φ' a) :
    Maintains I m φ' :=
  Triple.conseq h (fun _ hs => hs) (fun a _ ha => ⟨ha.1, hφ a ha.2⟩) (fun _ _ hs => hs)

/-- What relates the ends of a program is maintained when the relation maintains it. -/
theorem within {R : σ → σ → Prop} {m : Tx σ ε α} (hm : Within R m)
    (h : ∀ s t, I s → R s t → I t) : Maintains I m (fun _ => True) := by
  intro s hs
  exact ⟨fun _ t hrun => ⟨h s t hs (hm.ends hrun), trivial⟩, fun _ t hrun => h s t hs (hm.ends hrun)⟩

theorem readOnly {m : Tx σ ε α} (hm : ReadOnly m) : Maintains I m (fun _ => True) :=
  within hm (fun s t hs hst => by rw [hst]; exact hs)

theorem pure {a : α} (h : φ a) : Maintains I (Pure.pure a : Tx σ ε α) φ :=
  Triple.pure (fun _ hs => ⟨hs, h⟩)

theorem throw (e : ε) : Maintains I (Tx.throw e : Tx σ ε α) φ := Triple.throw (fun _ hs => hs)

theorem bind {m : Tx σ ε α} {f : α → Tx σ ε β} (hm : Maintains I m φ)
    (hf : ∀ a, φ a → Maintains I (f a) ψ) : Maintains I (m >>= f) ψ :=
  Triple.bind hm (fun a s hs => hf a hs.2 s hs.1)

theorem read {f : σ → α} (h : ∀ s, I s → φ (f s)) : Maintains I (Tx.read f : Tx σ ε α) φ :=
  Triple.read (fun s hs => ⟨hs, h s hs⟩)

theorem modify {f : σ → σ} (h : ∀ s, I s → I (f s)) :
    Maintains I (Tx.modify f : Tx σ ε Unit) (fun _ => True) :=
  Triple.modify (fun s hs => ⟨h s hs, trivial⟩)

theorem modifyGet {f : σ → α × σ} (h : ∀ s, I s → I (f s).2 ∧ φ (f s).1) :
    Maintains I (Tx.modifyGet f : Tx σ ε α) φ :=
  Triple.modifyGet h

theorem require (p : Bool) (e : ε) :
    Maintains I (Tx.require p e : Tx σ ε Unit) (fun _ => p = true) :=
  Triple.require (fun _ hs hp => ⟨hs, hp⟩) (fun _ hs _ => hs)

theorem ofExcept (x : Except ε α) :
    Maintains I (Tx.ofExcept x : Tx σ ε α) (fun a => x = .ok a) := by
  cases x with
  | ok a => exact pure rfl
  | error e => exact throw e

theorem catching {m : Tx σ ε α} {accepts : ε → Bool} {h : ε → Tx σ ε α} (hm : Maintains I m φ)
    (hh : ∀ e, Maintains I (h e) φ) : Maintains I (Tx.catching m accepts h) φ :=
  Triple.catching hm (fun e _ => hh e) (fun _ _ _ hs => hs)

theorem forEach {f : β → Tx σ ε Unit} (bs : List β)
    (h : ∀ b ∈ bs, Maintains I (f b) (fun _ => True)) :
    Maintains I (Tx.forEach f bs) (fun _ => True) :=
  Triple.conseq (Triple.forEach bs (fun b hb => Triple.conseq (h b hb) (fun _ hs => hs)
    (fun _ _ ht => ht.1) (fun _ _ hs => hs))) (fun _ hs => hs) (fun _ _ ht => ⟨ht, trivial⟩)
    (fun _ _ hs => hs)

end Maintains

end Tx

end MediaSync.Transaction
