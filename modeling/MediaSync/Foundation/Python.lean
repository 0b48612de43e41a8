import Mathlib.Algebra.Ring.Nat
import Mathlib.Tactic.Common
import Mathlib.Data.List.Basic
import Mathlib.Data.List.DropRight

/-!
# Python values

The pieces of Python that durable rows are made of: text with `str.strip`,
decoded JSON with the equality `==` has between numbers, and instants as
microseconds after `datetime.min` with the overflow of `datetime + timedelta`.
-/

namespace MediaSync.Python

/-- `str.isspace` for one character. -/
def isSpace (c : Char) : Bool :=
  let n := c.toNat
  (9 ≤ n && n ≤ 13) || (28 ≤ n && n ≤ 32) || n == 0x85 || n == 0xA0 || n == 0x1680 ||
    (0x2000 ≤ n && n ≤ 0x200A) || n == 0x2028 || n == 0x2029 || n == 0x202F ||
    n == 0x205F || n == 0x3000

/-- `str.strip` without arguments. -/
def strip (s : String) : String :=
  String.ofList (((s.toList.dropWhile isSpace).reverse.dropWhile isSpace).reverse)

theorem strip_toList (s : String) :
    (strip s).toList =
      ((s.toList.dropWhile isSpace).reverse.dropWhile isSpace).reverse := by
  simp [strip]

/-- Trimming the end of a list whose head stays leaves that head. -/
theorem dropWhile_trimmed (cs : List Char) :
    (((cs.dropWhile isSpace).reverse.dropWhile isSpace).reverse).dropWhile isSpace =
      ((cs.dropWhile isSpace).reverse.dropWhile isSpace).reverse := by
  cases hcs : cs.dropWhile isSpace with
  | nil => rfl
  | cons c rest =>
    have hc : isSpace c = false := by
      have h := List.head?_dropWhile_not isSpace cs
      rw [hcs] at h
      simpa using h
    rw [List.reverse_cons, List.dropWhile_append]
    split
    · simp [hc]
    · simp [hc]

@[simp] theorem strip_strip (s : String) : strip (strip s) = strip s := by
  apply String.toList_injective
  rw [strip_toList (strip s), strip_toList s, dropWhile_trimmed s.toList, List.reverse_reverse,
    List.dropWhile_idempotent]

/-- A control character in the sense of `ord(c) < 0x20 or ord(c) == 0x7F`. -/
def isControl (c : Char) : Bool := c.toNat < 0x20 || c.toNat == 0x7F

/-- `str(UUID(value)) == value`: lower-case hexadecimal in groups of 8, 4, 4, 4 and 12. -/
def isCanonicalUuid (value : String) : Bool :=
  value.toList.length = 36 && value.toList.zipIdx.all (fun (c, i) =>
    if i = 8 ∨ i = 13 ∨ i = 18 ∨ i = 23 then c = '-' else c.isDigit || ('a' ≤ c && c ≤ 'f'))

/-- A decoded JSON document. -/
inductive Json where
  | null
  | bool (value : Bool)
  | int (value : Int)
  | real (value : Rat)
  | str (value : String)
  | arr (items : List Json)
  | obj (fields : List (String × Json))

namespace Json

/-- `dict.get` on the fields of an object. -/
def get? (fields : List (String × Json)) (name : String) : Option Json :=
  (fields.find? (fun f => f.1 = name)).map Prod.snd

/-- `set(mapping) == names`. -/
def hasKeys (fields : List (String × Json)) (names : List String) : Bool :=
  fields.all (fun f => f.1 ∈ names) && names.all (fun n => n ∈ fields.map Prod.fst)

/-- `value == n` for an integer literal; `True == 1` and `1.0 == 1` hold. -/
def eqInt (value : Option Json) (n : Int) : Bool :=
  match value with
  | some (bool b) => n = if b then 1 else 0
  | some (int m) => m = n
  | some (real q) => q = n
  | _ => false

/-- `isinstance(value, str)` with its value. -/
def asStr? : Option Json → Option String
  | some (str s) => some s
  | _ => none

/-- `isinstance(value, int) and not isinstance(value, bool)` with its value. -/
def asInt? : Option Json → Option Int
  | some (int n) => some n
  | _ => none

/-- The number that `==` compares; booleans are the numbers 0 and 1. -/
def number? : Json → Option Rat
  | bool b => some (if b then 1 else 0)
  | int n => some n
  | real q => some q
  | _ => none

mutual

/-- `==` on decoded documents; objects are compared without regard to order. -/
def same : Json → Json → Bool
  | null, null => true
  | str a, str b => a = b
  | arr xs, arr ys => sameItems xs ys
  | obj xs, obj ys => xs.length = ys.length && sameFields xs ys
  | a, b =>
    match number? a, number? b with
    | some p, some q => p = q
    | _, _ => false

def sameItems : List Json → List Json → Bool
  | [], [] => true
  | x :: xs, y :: ys => same x y && sameItems xs ys
  | _, _ => false

def sameFields : List (String × Json) → List (String × Json) → Bool
  | [], _ => true
  | (name, value) :: rest, fields =>
    (match get? fields name with
      | some other => same value other
      | none => false) && sameFields rest fields

end

/-- `==` on optional documents. -/
def same? : Option Json → Option Json → Bool
  | none, none => true
  | some a, some b => same a b
  | _, _ => false

end Json

/-- Microseconds after `datetime.min` in UTC. -/
abbrev Time := Nat

/-- `datetime.max`. -/
def maxTime : Time := 315537897599999999

/-- `value + timedelta(seconds=seconds)`, with `none` for `OverflowError`. -/
def addSeconds (value : Time) (seconds : Nat) : Option Time :=
  if value + seconds * 1000000 ≤ maxTime then some (value + seconds * 1000000) else none

theorem addSeconds_le {value r : Time} {seconds : Nat} (h : addSeconds value seconds = some r) :
    value + seconds * 1000000 = r := by
  unfold addSeconds at h
  split at h
  · exact Option.some.inj h
  · cases h

end MediaSync.Python
