import Mathlib.Algebra.Ring.Nat
import Mathlib.Data.List.Forall2
import MediaSync.Foundation.Transaction

/-!
# Checks

Code that raises is read as a chain of checks: each of them goes on with a value,
or ends with an error. What a chain returns has passed them all.
-/

namespace MediaSync.Checks

open Transaction (except_bind_ok)

section Steps

variable {ε ε' α β : Type} {e : ε}

/-- The value, or an error where there is none. -/
def orFail (value : Option α) (e : ε) : Except ε α := value.elim (.error e) .ok

/-- Go on where the check holds. -/
def require (b : Bool) (e : ε) : Except ε Unit := if b then .ok () else .error e

theorem orFail_ok {value : Option α} {a : α} : orFail value e = .ok a ↔ value = some a := by
  cases value with
  | none => exact ⟨fun h => (by cases h), fun h => (by cases h)⟩
  | some b => exact ⟨fun h => congrArg some (Except.ok.inj h), fun h => (by cases h; rfl)⟩

theorem orFail_some {f : α → Except ε β} {value : Option α} {a : α} (h : value = some a) :
    (orFail value e >>= f) = f a := by
  rw [h]
  rfl

theorem require_ok {b : Bool} {v : Unit} : require b e = .ok v ↔ b = true := by
  cases b with
  | false => exact ⟨fun h => (by cases h), fun h => (by cases h)⟩
  | true => exact ⟨fun _ => rfl, fun _ => rfl⟩

theorem require_true {f : Unit → Except ε α} {b : Bool} (h : b = true) :
    (require b e >>= f) = f () := by
  rw [h]
  rfl

theorem require_false {f : Unit → Except ε α} {b : Bool} (h : b = false) :
    (require b e >>= f) = .error e := by
  rw [h]
  rfl

theorem ok_of_mapError {f : ε → ε'} {result : Except ε α} {a : α}
    (h : result.mapError f = .ok a) : result = .ok a := by
  cases result with
  | error e => cases h
  | ok b =>
    cases h
    rfl

end Steps

section Lists

variable {ε α β : Type} {f : α → Except ε β}

/-- A list passes element by element. -/
theorem mapM_ok_iff {as : List α} {bs : List β} :
    as.mapM f = .ok bs ↔ List.Forall₂ (fun a b => f a = .ok b) as bs := by
  induction as generalizing bs with
  | nil =>
    rw [List.mapM_nil, List.forall₂_nil_left_iff]
    exact ⟨fun h => (by cases h; rfl), fun h => (by cases h; rfl)⟩
  | cons a as ih =>
    rw [List.mapM_cons]
    constructor
    · intro h
      obtain ⟨b, hb, h⟩ := except_bind_ok h
      obtain ⟨rest, hrest, h⟩ := except_bind_ok h
      cases h
      exact .cons hb (ih.1 hrest)
    · intro h
      cases h with
      | cons hb hrest =>
        rw [hb]
        show (as.mapM f >>= _) = _
        rw [ih.2 hrest]
        rfl

theorem length_of_mapM {as : List α} {bs : List β} (h : as.mapM f = .ok bs) :
    bs.length = as.length :=
  (mapM_ok_iff.1 h).length_eq.symm

theorem mapM_append {xs ys : List α} {as bs : List β} (hx : xs.mapM f = .ok as)
    (hy : ys.mapM f = .ok bs) : (xs ++ ys).mapM f = .ok (as ++ bs) := by
  rw [List.mapM_append, hx, hy]
  rfl

/-- A part of a list passes with the same part of the results. -/
theorem mapM_slice {as : List α} {bs : List β} (h : as.mapM f = .ok bs) (start count : Nat) :
    ((as.drop start).take count).mapM f = .ok ((bs.drop start).take count) :=
  mapM_ok_iff.2 (List.forall₂_take count (List.forall₂_drop start (mapM_ok_iff.1 h)))

end Lists

end MediaSync.Checks
