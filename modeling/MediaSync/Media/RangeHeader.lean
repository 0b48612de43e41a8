import MediaSync.Foundation.Checks
import MediaSync.Foundation.Transaction
import MediaSync.Foundation.Urls

/-!
# Range headers

A preview answers at most one range of a blob. `parseSingleByteRange` reads the
header as the code does; `ByteRange` is the set of ranges that one range unit
can name, with their spellings and the slice each selects. The parser accepts
the satisfiable spellings and nothing else, up to the length it reads at all.
-/

namespace MediaSync.Preview

open JsonText (Text)
open Urls (before after before_append after_append)
open Checks
open Transaction (except_bind_ok)

inductive ArchivePreviewError where
  | notReady | missing | invalid | rangeUnsatisfiable
  deriving DecidableEq, Repr

namespace ArchivePreviewError

/-- The name of an error in `ARCHIVE_PREVIEW_ERROR_CODES`. -/
def code : ArchivePreviewError → String
  | notReady => "asset_archive_not_ready"
  | missing => "asset_archive_missing"
  | invalid => "asset_archive_invalid"
  | rangeUnsatisfiable => "asset_archive_range_unsatisfiable"

/-- `_ERROR_MESSAGES`. -/
def message : ArchivePreviewError → String
  | notReady => "asset archive is not ready for preview"
  | missing => "asset archive bytes are missing"
  | invalid => "asset archive bytes failed validation"
  | rangeUnsatisfiable => "asset archive byte range is unsatisfiable"

end ArchivePreviewError

def maxRangeHeaderBytes : Nat := 128

def isBlank (c : Char) : Bool := c = ' ' || c = '\t'

/-- `value.strip(" \t")`. -/
def stripBlanks (value : Text) : Text := (value.dropWhile isBlank).rdropWhile isBlank

/-- No character outside ASCII has a letter of `bytes=` as its lower case. -/
def isBytesUnit (unit : Text) : Bool := unit.map Char.toLower = "bytes=".toList

/-- The inclusive offsets of one strict range. -/
def parseSingleByteRange (value : Text) (sizeBytes : Int) :
    Except ArchivePreviewError (Nat × Nat) := do
  require (0 ≤ sizeBytes && value.length ≤ maxRangeHeaderBytes) .rangeUnsatisfiable
  let normalized := stripBlanks value
  require (isBytesUnit (normalized.take 6)) .rangeUnsatisfiable
  require (sizeBytes != 0) .rangeUnsatisfiable
  let rawRange := normalized.drop 6
  require (rawRange.count '-' = 1 && ',' ∉ rawRange) .rangeUnsatisfiable
  let rawStart := before '-' rawRange
  let rawEnd := after '-' rawRange
  require (rawStart ≠ [] || rawEnd ≠ []) .rangeUnsatisfiable
  require (rawStart.all Char.isDigit && rawEnd.all Char.isDigit) .rangeUnsatisfiable
  let size := sizeBytes.toNat
  if rawStart ≠ [] then
    let start := Nat.ofDigitChars 10 rawStart 0
    require (start < size) .rangeUnsatisfiable
    if rawEnd ≠ [] then
      let requestedEnd := Nat.ofDigitChars 10 rawEnd 0
      require (start ≤ requestedEnd) .rangeUnsatisfiable
      pure (start, min requestedEnd (size - 1))
    else pure (start, size - 1)
  else
    let suffixSize := Nat.ofDigitChars 10 rawEnd 0
    require (0 < suffixSize) .rangeUnsatisfiable
    pure (size - suffixSize, size - 1)

inductive ByteRange where
  | between (first last : Nat)
  | since (first : Nat)
  | suffix (length : Nat)
  deriving DecidableEq, Repr

/-- A number in decimal, leading zeros allowed. -/
structure Spells (raw : Text) (n : Nat) : Prop where
  ne_nil : raw ≠ []
  digits : ∀ c ∈ raw, c.isDigit = true
  value : Nat.ofDigitChars 10 raw 0 = n

namespace ByteRange

inductive Spelled : ByteRange → Text → Prop
  | between {raw raw' : Text} {first last : Nat} : Spells raw first → Spells raw' last →
      Spelled (.between first last) (raw ++ '-' :: raw')
  | since {raw : Text} {first : Nat} : Spells raw first → Spelled (.since first) (raw ++ ['-'])
  | suffix {raw : Text} {length : Nat} : Spells raw length → Spelled (.suffix length) ('-' :: raw)

/-- The slice of a blob that a range names, where it names a part of it. -/
def select (size : Nat) : ByteRange → Option (Nat × Nat)
  | between first last =>
    if first ≤ last ∧ first < size then some (first, min last (size - 1)) else none
  | since first => if first < size then some (first, size - 1) else none
  | suffix length => if 0 < length ∧ 0 < size then some (size - length, size - 1) else none

/-- A header value of one range: the unit in any case, with blanks around it. -/
def Heads (range : ByteRange) (value : Text) : Prop :=
  ∃ left unit raw right, value = left ++ (unit ++ raw) ++ right ∧
    (∀ c ∈ left, isBlank c = true) ∧ (∀ c ∈ right, isBlank c = true) ∧
      isBytesUnit unit = true ∧ range.Spelled raw

end ByteRange

theorem Spells.notMem {raw : Text} {n : Nat} (h : Spells raw n) {c : Char}
    (hc : c.isDigit = false) : c ∉ raw := by
  intro hmem
  rw [h.digits c hmem] at hc
  cases hc

theorem Spells.of_all {raw : Text} (hne : raw ≠ []) (h : raw.all Char.isDigit = true) :
    Spells raw (Nat.ofDigitChars 10 raw 0) :=
  ⟨hne, List.all_eq_true.1 h, rfl⟩

theorem Spells.all {raw : Text} {n : Nat} (h : Spells raw n) : raw.all Char.isDigit = true :=
  List.all_eq_true.2 h.digits

theorem isBlank_digit {c : Char} (h : c.isDigit = true) : isBlank c = false := by
  cases hblank : isBlank c with
  | false => rfl
  | true =>
    simp only [isBlank, Bool.or_eq_true, decide_eq_true_eq] at hblank
    rcases hblank with rfl | rfl
    · exact absurd h (by decide)
    · exact absurd h (by decide)

theorem isBytesUnit_length {unit : Text} (h : isBytesUnit unit = true) : unit.length = 6 := by
  have hlength := congrArg List.length (of_decide_eq_true h)
  rwa [List.length_map] at hlength

theorem isBytesUnit_head {unit : Text} (h : isBytesUnit unit = true) :
    ∃ c rest, unit = c :: rest ∧ isBlank c = false := by
  cases unit with
  | nil => cases h
  | cons c rest =>
    refine ⟨c, rest, rfl, ?_⟩
    have hhead : c.toLower = 'b' := (List.cons_eq_cons.1 (of_decide_eq_true h)).1
    cases hblank : isBlank c with
    | false => rfl
    | true =>
      simp only [isBlank, Bool.or_eq_true, decide_eq_true_eq] at hblank
      rcases hblank with rfl | rfl
      · exact absurd hhead (by decide)
      · exact absurd hhead (by decide)

/-- No spelling of a range ends in a blank. -/
theorem ByteRange.Spelled.last {range : ByteRange} {raw : Text} (h : range.Spelled raw) :
    ∃ front c, raw = front ++ [c] ∧ isBlank c = false := by
  have hdigits : ∀ {raw' : Text} {n : Nat} (front : Text), Spells raw' n →
      ∃ front' c, front ++ '-' :: raw' = front' ++ [c] ∧ isBlank c = false := by
    intro raw' n front hn
    obtain ⟨front', c, rfl⟩ := (List.eq_nil_or_concat' raw').resolve_left hn.ne_nil
    exact ⟨front ++ '-' :: front', c, by simp, isBlank_digit (hn.digits c (by simp))⟩
  cases h with
  | @between raw₁ raw₂ first last h₁ h₂ => exact hdigits raw₁ h₂
  | @since raw₁ first h₁ => exact ⟨raw₁, '-', rfl, by decide⟩
  | @suffix raw₁ length h₁ => exact hdigits [] h₁

theorem stripBlanks_append {left right core : Text} {first last : Char} {rest front : Text}
    (hleft : ∀ c ∈ left, isBlank c = true) (hright : ∀ c ∈ right, isBlank c = true)
    (hfirst : core = first :: rest) (hblank : isBlank first = false)
    (hlast : core = front ++ [last]) (hblank' : isBlank last = false) :
    stripBlanks (left ++ core ++ right) = core := by
  have hdropped : (left ++ core ++ right).dropWhile isBlank = core ++ right := by
    rw [List.append_assoc, List.dropWhile_append_of_pos hleft, hfirst, List.cons_append,
      List.dropWhile_cons_of_neg (by rw [hblank]; decide)]
  rw [stripBlanks, hdropped, List.rdropWhile, List.reverse_append,
    List.dropWhile_append_of_pos fun c hc => hright c (List.mem_reverse.1 hc), hlast,
    List.reverse_append, List.reverse_singleton, List.singleton_append,
    List.dropWhile_cons_of_neg (by rw [hblank']; decide), List.reverse_cons, List.reverse_reverse]

/-- What is stripped is blank. -/
theorem stripBlanks_spec (value : Text) :
    ∃ left right, value = left ++ stripBlanks value ++ right ∧
      (∀ c ∈ left, isBlank c = true) ∧ ∀ c ∈ right, isBlank c = true := by
  refine ⟨value.takeWhile isBlank, (value.dropWhile isBlank).rtakeWhile isBlank, ?_,
    fun c hc => List.mem_takeWhile_imp hc, fun c hc => ?_⟩
  · rw [stripBlanks, List.append_assoc, List.rdropWhile_append_rtakeWhile,
      List.takeWhile_append_dropWhile]
  · exact List.mem_rtakeWhile_imp hc

/-- The dash is the only one. -/
theorem ByteRange.Spelled.dash {range : ByteRange} {raw : Text} (h : range.Spelled raw) :
    raw.count '-' = 1 ∧ ',' ∉ raw := by
  have hnone : ∀ {raw : Text} {n : Nat}, Spells raw n → raw.count '-' = 0 ∧ ',' ∉ raw :=
    fun hn => ⟨List.count_eq_zero.2 (hn.notMem (by decide)), hn.notMem (by decide)⟩
  cases h with
  | between h₁ h₂ => simp [hnone h₁, hnone h₂]
  | since h₁ => simp [hnone h₁]
  | suffix h₁ => simp [hnone h₁]

/-- The parser after its checks on the whole header. -/
theorem parse_of_spelled {value unit raw : Text} {size : Nat}
    (hlength : value.length ≤ maxRangeHeaderBytes) (hstrip : stripBlanks value = unit ++ raw)
    (hunit : isBytesUnit unit = true) (hsize : size ≠ 0) {range : ByteRange}
    (hraw : range.Spelled raw) :
    parseSingleByteRange value size =
      Checks.orFail (range.select size) .rangeUnsatisfiable := by
  have htake : (stripBlanks value).take 6 = unit := by
    rw [hstrip, List.take_left' (isBytesUnit_length hunit)]
  have hdrop : (stripBlanks value).drop 6 = raw := by
    rw [hstrip, List.drop_left' (isBytesUnit_length hunit)]
  obtain ⟨hcount, hcomma⟩ := hraw.dash
  unfold parseSingleByteRange
  rw [require_true (by simpa using hlength)]
  dsimp only
  rw [htake, hdrop, require_true hunit, require_true (by simpa using hsize),
    require_true (by simp [hcount, hcomma])]
  cases hraw with
  | @between raw₁ raw₂ first last h₁ h₂ =>
    rw [before_append (h₁.notMem (by decide)), after_append (h₁.notMem (by decide)),
      require_true (by simp [h₁.ne_nil]), require_true (by rw [h₁.all, h₂.all]; rfl),
      if_pos h₁.ne_nil, if_pos h₂.ne_nil, h₁.value, h₂.value, Int.toNat_natCast]
    by_cases hstart : first < size
    · rw [require_true (decide_eq_true hstart)]
      by_cases hend : first ≤ last
      · rw [require_true (decide_eq_true hend), ByteRange.select, if_pos ⟨hend, hstart⟩]
        rfl
      · rw [require_false (decide_eq_false hend), ByteRange.select, if_neg fun h => hend h.1]
        rfl
    · rw [require_false (decide_eq_false hstart), ByteRange.select, if_neg fun h => hstart h.2]
      rfl
  | @since raw₁ first h₁ =>
    rw [before_append (h₁.notMem (by decide)), after_append (h₁.notMem (by decide)),
      require_true (by simp [h₁.ne_nil]), require_true (by rw [h₁.all]; rfl),
      if_pos h₁.ne_nil, h₁.value, Int.toNat_natCast]
    by_cases hstart : first < size
    · rw [require_true (decide_eq_true hstart), ByteRange.select, if_pos hstart]
      rfl
    · rw [require_false (decide_eq_false hstart), ByteRange.select, if_neg hstart]
      rfl
  | @suffix raw₁ length h₁ =>
    rw [Urls.before_cons, Urls.after_cons, require_true (by simp [h₁.ne_nil]),
      require_true (by rw [h₁.all]; rfl), if_neg (by simp), h₁.value, Int.toNat_natCast]
    by_cases hlength : 0 < length
    · rw [require_true (decide_eq_true hlength), ByteRange.select,
        if_pos ⟨hlength, Nat.pos_of_ne_zero hsize⟩]
      rfl
    · rw [require_false (decide_eq_false hlength), ByteRange.select,
        if_neg fun h => hlength h.1]
      rfl

/-- A range is selected inside the blob. -/
theorem ByteRange.select_bounds {range : ByteRange} {size first last : Nat}
    (h : range.select size = some (first, last)) : first ≤ last ∧ last < size := by
  cases range with
  | between a b =>
    obtain ⟨hcond, heq⟩ := Option.ite_none_right_eq_some.1 h
    cases heq
    omega
  | since a =>
    obtain ⟨hcond, heq⟩ := Option.ite_none_right_eq_some.1 h
    cases heq
    omega
  | suffix n =>
    obtain ⟨hcond, heq⟩ := Option.ite_none_right_eq_some.1 h
    cases heq
    omega

/-- The raw range of a header that passes the checks is a spelling. -/
theorem spelled_of_checks {raw : Text} (hcount : raw.count '-' = 1)
    (hsome : before '-' raw ≠ [] ∨ after '-' raw ≠ [])
    (hstart : (before '-' raw).all Char.isDigit = true)
    (hend : (after '-' raw).all Char.isDigit = true) : ∃ range : ByteRange, range.Spelled raw := by
  have hdash : '-' ∈ raw := List.count_pos_iff.1 (by omega)
  have hraw := Urls.before_after hdash
  by_cases hleft : before '-' raw = []
  · have hright := hsome.resolve_left (fun h => h hleft)
    rw [hraw, hleft]
    exact ⟨_, .suffix (.of_all hright hend)⟩
  · by_cases hright : after '-' raw = []
    · rw [hraw, hright]
      exact ⟨_, .since (.of_all hleft hstart)⟩
    · rw [hraw]
      exact ⟨_, .between (.of_all hleft hstart) (.of_all hright hend)⟩

/-- The headers that are read, with the ranges they name and what those select. -/
theorem parseSingleByteRange_ok_iff {value : Text} {sizeBytes : Int} {first last : Nat} :
    parseSingleByteRange value sizeBytes = .ok (first, last) ↔
      0 ≤ sizeBytes ∧ value.length ≤ maxRangeHeaderBytes ∧
        ∃ range : ByteRange, range.Heads value ∧
          range.select sizeBytes.toNat = some (first, last) := by
  constructor
  · intro h
    obtain ⟨_, hsize, h'⟩ := except_bind_ok h
    obtain ⟨_, hunit, h'⟩ := except_bind_ok h'
    obtain ⟨_, hne, h'⟩ := except_bind_ok h'
    obtain ⟨_, hcount, h'⟩ := except_bind_ok h'
    obtain ⟨_, hsome, h'⟩ := except_bind_ok h'
    obtain ⟨_, hdigits, _⟩ := except_bind_ok h'
    have hsize' := require_ok.1 hsize
    have hunit' := require_ok.1 hunit
    have hne' := require_ok.1 hne
    have hcount' := require_ok.1 hcount
    have hsome' := require_ok.1 hsome
    have hdigits' := require_ok.1 hdigits
    simp only [Bool.and_eq_true, decide_eq_true_eq, bne_iff_ne] at hsize' hne' hcount'
    simp only [Bool.and_eq_true, Bool.or_eq_true, decide_eq_true_eq] at hsome' hdigits'
    obtain ⟨range, hspelled⟩ := spelled_of_checks hcount'.1 hsome' hdigits'.1 hdigits'.2
    have hsplit : stripBlanks value = (stripBlanks value).take 6 ++ (stripBlanks value).drop 6 :=
      (List.take_append_drop 6 _).symm
    obtain ⟨left, right, hvalue, hleft, hright⟩ := stripBlanks_spec value
    refine ⟨hsize'.1, hsize'.2, range, ⟨left, _, _, right, ?_, hleft, hright, hunit', hspelled⟩, ?_⟩
    · rw [List.take_append_drop]
      exact hvalue
    · have hnat : ((sizeBytes.toNat : Nat) : Int) = sizeBytes := Int.toNat_of_nonneg hsize'.1
      rw [← hnat, parse_of_spelled hsize'.2 hsplit hunit' (by omega) hspelled] at h
      exact orFail_ok.1 h
  · rintro ⟨hsize, hlength, range, hheads, hselect⟩
    obtain ⟨left, unit, raw, right, hvalue, hleft, hright, hunit, hraw⟩ := hheads
    obtain ⟨c, rest, hfirst, hblank⟩ := isBytesUnit_head hunit
    obtain ⟨front, d, hlast, hblank'⟩ := hraw.last
    have hstrip : stripBlanks value = unit ++ raw := by
      rw [hvalue]
      have hfirst' : unit ++ raw = c :: (rest ++ raw) := by rw [hfirst, List.cons_append]
      have hlast' : unit ++ raw = (unit ++ front) ++ [d] := by rw [hlast, List.append_assoc]
      exact stripBlanks_append hleft hright hfirst' hblank hlast' hblank'
    have hnat : ((sizeBytes.toNat : Nat) : Int) = sizeBytes := Int.toNat_of_nonneg hsize
    have hbounds := ByteRange.select_bounds hselect
    rw [← hnat, parse_of_spelled hlength hstrip hunit (by omega) hraw, hselect]
    rfl

end MediaSync.Preview
