import Mathlib.Algebra.Ring.Nat
import Mathlib.Data.List.Perm.Basic
import Mathlib.Data.List.Sort
import Mathlib.Tactic.Common

/-!
# JSON text

The text that `json.dumps` writes with `ensure_ascii`, sorted keys and no
blanks, and bounds on its length. A text that is written again as a string of
another document at most doubles, since all of it is printable.
-/

namespace MediaSync.JsonText

abbrev Text := List Char

/-- Membership tests of texts share this instance by name. -/
instance Text.lawfulBEq : LawfulBEq Text := List.instLawfulBEq

def hexDigit (n : Nat) : Char := if n < 10 then Char.ofNat (48 + n) else Char.ofNat (87 + n)

/-- A UTF-16 unit as a backslash, the letter u and four digits. -/
def unicodeEscape (n : Nat) : Text :=
  ['\\', 'u', hexDigit (n / 4096 % 16), hexDigit (n / 256 % 16), hexDigit (n / 16 % 16),
    hexDigit (n % 16)]

def isPrintable (c : Char) : Bool := 0x20 ≤ c.toNat && c.toNat ≤ 0x7E

def shortEscape (c : Char) : Option Char :=
  if c.toNat = 8 then some 'b' else if c.toNat = 9 then some 't'
  else if c.toNat = 10 then some 'n' else if c.toNat = 12 then some 'f'
  else if c.toNat = 13 then some 'r' else none

/-- One character inside a string; above the first plane it becomes a surrogate pair. -/
def escape (c : Char) : Text :=
  if c.toNat = 0x22 ∨ c.toNat = 0x5C then ['\\', c]
  else if isPrintable c then [c]
  else match shortEscape c with
    | some short => ['\\', short]
    | none =>
      if c.toNat < 0x10000 then unicodeEscape c.toNat
      else unicodeEscape (0xD800 + (c.toNat - 0x10000) / 0x400) ++
        unicodeEscape (0xDC00 + (c.toNat - 0x10000) % 0x400)

def string (s : Text) : Text := '"' :: s.flatMap escape ++ ['"']

def null : Text := ['n', 'u', 'l', 'l']

def bool (b : Bool) : Text := if b then ['t', 'r', 'u', 'e'] else ['f', 'a', 'l', 's', 'e']

def number (n : Nat) : Text := Nat.toDigits 10 n

/-- The parts with a comma between them. -/
def joined : List Text → Text
  | [] => []
  | [part] => part
  | part :: rest => part ++ ',' :: joined rest

def array (items : List Text) : Text := '[' :: joined items ++ [']']

def field (f : String × Text) : Text := string f.1.toList ++ ':' :: f.2

/-- The fields are written in the order of their keys. -/
def object (fields : List (String × Text)) : Text :=
  '{' :: joined ((fields.insertionSort (fun f g => f.1 ≤ g.1)).map field) ++ ['}']

structure Fits (n : Nat) (t : Text) : Prop where
  printable : ∀ c ∈ t, isPrintable c = true
  length : t.length ≤ n

/-- The bound of a given text can be computed. -/
theorem Fits.of_all {n : Nat} {t : Text} (hprintable : t.all isPrintable = true)
    (hlength : t.length ≤ n) : Fits n t :=
  ⟨List.all_eq_true.1 hprintable, hlength⟩

theorem Fits.mono {n m : Nat} {t : Text} (h : Fits n t) (hnm : n ≤ m) : Fits m t :=
  ⟨h.printable, h.length.trans hnm⟩

theorem Fits.append {n m : Nat} {t u : Text} (ht : Fits n t) (hu : Fits m u) :
    Fits (n + m) (t ++ u) := by
  constructor
  · intro c hc
    rcases List.mem_append.1 hc with hc | hc
    · exact ht.printable c hc
    · exact hu.printable c hc
  · have := ht.length
    have := hu.length
    simp only [List.length_append]
    omega

theorem Fits.cons {n : Nat} {c : Char} {t : Text} (hc : isPrintable c = true) (ht : Fits n t) :
    Fits (n + 1) (c :: t) := by
  constructor
  · simpa using ⟨hc, ht.printable⟩
  · simpa using ht.length

/-- A character that a string shows as it is. -/
def isPlain (c : Char) : Bool := isPrintable c && c.toNat != 0x22 && c.toNat != 0x5C

theorem isPrintable_of_isPlain {c : Char} (h : isPlain c = true) : isPrintable c = true := by
  simp only [isPlain, Bool.and_eq_true] at h
  exact h.1.1

theorem escape_of_isPlain {c : Char} (h : isPlain c = true) : escape c = [c] := by
  simp only [isPlain, Bool.and_eq_true, bne_iff_ne, ne_eq] at h
  simp [escape, h.1.1, h.1.2, h.2]

theorem hexDigit_printable (n : Nat) : isPrintable (hexDigit (n % 16)) = true := by
  have all : ∀ m < 16, isPrintable (hexDigit m) = true := by decide
  exact all _ (Nat.mod_lt _ (by omega))

theorem fits_unicodeEscape (n : Nat) : Fits 6 (unicodeEscape n) := by
  constructor
  · intro c hc
    simp only [unicodeEscape, List.mem_cons, List.not_mem_nil, or_false] at hc
    rcases hc with rfl | rfl | rfl | rfl | rfl | rfl
    · decide
    · decide
    all_goals exact hexDigit_printable _
  · exact le_rfl

theorem shortEscape_printable {c short : Char} (h : shortEscape c = some short) :
    isPrintable short = true := by
  unfold shortEscape at h
  split_ifs at h <;> · cases h; decide

theorem fits_escape (c : Char) : Fits 12 (escape c) := by
  have pair {short : Char} (h : isPrintable short = true) : Fits 12 ['\\', short] :=
    ⟨by simpa using ⟨by decide, h⟩, by simp⟩
  unfold escape
  split_ifs with hquote hplain
  · refine pair ?_
    rcases hquote with h | h <;> simp [isPrintable, h]
  · exact ⟨by simpa using hplain, by simp⟩
  · split
    · exact pair (shortEscape_printable (by assumption))
    · exact (fits_unicodeEscape _).mono (by omega)
  · split
    · exact pair (shortEscape_printable (by assumption))
    · exact (fits_unicodeEscape _).append (fits_unicodeEscape _)

theorem escape_length_le_two {c : Char} (h : isPrintable c = true) : (escape c).length ≤ 2 := by
  unfold escape
  split_ifs <;> simp

theorem string_printable (s : Text) : ∀ c ∈ string s, isPrintable c = true := by
  intro c hc
  simp only [string, List.cons_append, List.mem_cons, List.mem_append, List.mem_flatMap,
    List.not_mem_nil, or_false] at hc
  rcases hc with rfl | ⟨d, -, hc⟩ | rfl
  · decide
  · exact (fits_escape d).printable c hc
  · decide

theorem string_plain {s : Text} (h : ∀ c ∈ s, isPlain c = true) : string s = '"' :: s ++ ['"'] := by
  have hs : s.flatMap escape = s := by
    induction s with
    | nil => rfl
    | cons c s ih =>
      rw [List.flatMap_cons, escape_of_isPlain (h c (by simp)),
        ih (fun d hd => h d (by simp [hd]))]
      rfl
  rw [string, hs]

theorem fits_string_plain {n : Nat} {s : Text} (h : ∀ c ∈ s, isPlain c = true)
    (hn : s.length ≤ n) : Fits (n + 2) (string s) := by
  refine ⟨string_printable s, ?_⟩
  rw [string_plain h]
  simp only [List.cons_append, List.length_cons, List.length_append, List.length_nil]
  omega

/-- A printable text at most doubles when it is written as a string. -/
theorem Fits.string {n : Nat} {t : Text} (h : Fits n t) : Fits (2 * n + 2) (string t) := by
  refine ⟨string_printable t, ?_⟩
  have hlen : (t.flatMap escape).length ≤ 2 * t.length := by
    have hp := h.printable
    clear h
    induction t with
    | nil => simp
    | cons c t ih =>
      have hc := escape_length_le_two (hp c (by simp))
      have ht := ih (fun d hd => hp d (by simp [hd]))
      simp only [List.flatMap_cons, List.length_append, List.length_cons]
      omega
  have := h.length
  simp only [JsonText.string, List.cons_append, List.length_cons, List.length_append,
    List.length_nil]
  omega

theorem fits_null : Fits 4 null := .of_all (by decide) (by decide)

theorem fits_bool (b : Bool) : Fits 5 (bool b) := by
  cases b <;> exact .of_all (by decide) (by decide)

theorem fits_number {n : Nat} (h : n ≤ 30) : Fits 2 (number n) := by
  have all : ∀ n ≤ 30, (number n).all isPrintable = true ∧ (number n).length ≤ 2 := by decide
  exact .of_all (all n h).1 (all n h).2

theorem number_printable (n : Nat) : ∀ c ∈ number n, isPrintable c = true := by
  intro c hc
  have hdigit : c.isDigit = true := Nat.isDigit_of_mem_toDigits (by decide) (by decide) hc
  simp only [Char.isDigit, Bool.and_eq_true, decide_eq_true_eq] at hdigit
  have hlow : 48 ≤ c.toNat := hdigit.1
  have hhigh : c.toNat ≤ 57 := hdigit.2
  simp only [isPrintable, Bool.and_eq_true, decide_eq_true_eq]
  omega

/-- A number below a power of ten takes at most as many digits. -/
theorem fits_digits {n k : Nat} (hk : 0 < k) (h : n < 10 ^ k) : Fits k (number n) :=
  ⟨number_printable n, (Nat.length_toDigits_le_iff (by decide) hk).2 h⟩

theorem fits_joined {parts : List Text} {bounds : List Nat}
    (h : List.Forall₂ (fun t n => Fits n t) parts bounds) :
    Fits ((bounds.map (· + 1)).sum) (joined parts) := by
  induction h with
  | nil => exact ⟨by simp [joined], by simp [joined]⟩
  | @cons part n rest bounds hpart hrest ih =>
    cases rest with
    | nil =>
      refine hpart.mono ?_
      simp only [List.map_cons, List.sum_cons]
      omega
    | cons next rest =>
      refine (hpart.append (ih.cons (c := ',') (by decide))).mono ?_
      simp only [List.map_cons, List.sum_cons]
      omega

theorem fits_array {items : List Text} {n : Nat} (h : ∀ t ∈ items, Fits n t) :
    Fits (items.length * (n + 1) + 2) (array items) := by
  have hitems : List.Forall₂ (fun t n => Fits n t) items (items.map fun _ => n) := by
    induction items with
    | nil => exact .nil
    | cons t items ih => exact .cons (h t (by simp)) (ih fun u hu => h u (by simp [hu]))
  have hsum : ((items.map fun _ => n).map (· + 1)).sum = items.length * (n + 1) := by
    simp
  have hjoined := fits_joined hitems
  rw [hsum] at hjoined
  have hclose : Fits 1 [']'] := .of_all (by decide) (by decide)
  exact ((hjoined.append hclose).cons (c := '[') (by decide)).mono (by omega)

/-- The length that a field whose value has at most the given length takes. -/
def fieldBound (b : String × Nat) : Nat := (string b.1.toList).length + b.2 + 1

def objectBound (bounds : List (String × Nat)) : Nat :=
  (bounds.map fun b => fieldBound b + 1).sum + 2

theorem fits_field {f : String × Text} {n : Nat} (h : Fits n f.2) :
    Fits (fieldBound (f.1, n)) (field f) := by
  have hkey : Fits (string f.1.toList).length (string f.1.toList) :=
    ⟨string_printable _, le_rfl⟩
  exact (hkey.append (h.cons (c := ':') (by decide))).mono (by simp only [fieldBound]; omega)

/-- The bound of an object does not depend on the order of its fields. -/
theorem fits_object {fields : List (String × Text)} {bounds : List (String × Nat)}
    (h : List.Forall₂ (fun f b => f.1 = b.1 ∧ Fits b.2 f.2) fields bounds) :
    Fits (objectBound bounds) (object fields) := by
  obtain ⟨sorted, hsorted, hperm⟩ := List.perm_comp_forall₂
    (List.perm_insertionSort (fun f g : String × Text => f.1 ≤ g.1) fields) h
  have hparts : List.Forall₂ (fun t n => Fits n t)
      ((fields.insertionSort (fun f g => f.1 ≤ g.1)).map field) (sorted.map fieldBound) := by
    rw [List.forall₂_map_left_iff, List.forall₂_map_right_iff]
    refine hsorted.imp ?_
    rintro ⟨key, value⟩ ⟨_, n⟩ ⟨rfl, hvalue⟩
    exact fits_field hvalue
  have hsum : ((sorted.map fieldBound).map (· + 1)).sum =
      (bounds.map fun b => fieldBound b + 1).sum := by
    rw [List.map_map]
    exact (hperm.map _).sum_nat
  have hjoined := fits_joined hparts
  rw [hsum] at hjoined
  have hclose : Fits 1 ['}'] := .of_all (by decide) (by decide)
  exact ((hjoined.append hclose).cons (c := '{') (by decide)).mono (by
    simp only [objectBound]; omega)

theorem array_printable {items : List Text} (h : ∀ t ∈ items, ∀ c ∈ t, isPrintable c = true) :
    ∀ c ∈ array items, isPrintable c = true := by
  have hitems : List.Forall₂ (fun t n => Fits n t) items (items.map List.length) := by
    induction items with
    | nil => exact .nil
    | cons t items ih => exact .cons ⟨h t (by simp), le_rfl⟩ (ih fun u hu => h u (by simp [hu]))
  have hclose : Fits 1 [']'] := .of_all (by decide) (by decide)
  exact (((fits_joined hitems).append hclose).cons (c := '[') (by decide)).printable

theorem object_printable {fields : List (String × Text)}
    (h : ∀ f ∈ fields, ∀ c ∈ f.2, isPrintable c = true) :
    ∀ c ∈ object fields, isPrintable c = true := by
  have hfields : List.Forall₂ (fun f b => f.1 = b.1 ∧ Fits b.2 f.2) fields
      (fields.map fun f => (f.1, f.2.length)) := by
    induction fields with
    | nil => exact .nil
    | cons f fields ih =>
      exact .cons ⟨rfl, h f (by simp), le_rfl⟩ (ih fun g hg => h g (by simp [hg]))
  exact (fits_object hfields).printable

end MediaSync.JsonText
