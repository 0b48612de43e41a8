import Mathlib.Tactic.Common
import Mathlib.Data.List.Basic
import MediaSync.Foundation.Files

/-!
# Reading a file of bytes

A reader is a file open for reading: its bytes and an offset. A read returns
what is there, a relative seek moves the offset, also past the end.
-/

namespace MediaSync

structure Reader where
  bytes : Bytes
  offset : Nat
  deriving DecidableEq, Repr

namespace Reader

def rest (r : Reader) : Bytes := r.bytes.drop r.offset

/-- `handle.read(n)`. -/
def read (r : Reader) (n : Nat) : Bytes × Reader :=
  let chunk := r.rest.take n
  (chunk, { r with offset := r.offset + chunk.length })

/-- `handle.seek(n, os.SEEK_CUR)`. -/
def seekBy (r : Reader) (n : Nat) : Reader := { r with offset := r.offset + n }

/-- `handle.seek(-n, os.SEEK_END)`, in a file of at least `n` bytes. -/
def seekEnd (r : Reader) (n : Nat) : Reader := { r with offset := r.bytes.length - n }

@[simp] theorem seekBy_bytes (r : Reader) (n : Nat) : (r.seekBy n).bytes = r.bytes := rfl

@[simp] theorem seekBy_offset (r : Reader) (n : Nat) : (r.seekBy n).offset = r.offset + n := rfl

@[simp] theorem rest_seekBy (r : Reader) (n : Nat) : (r.seekBy n).rest = r.rest.drop n := by
  simp [rest, List.drop_drop]

/-- A read of what is there. -/
theorem read_append {r : Reader} {chunk more : Bytes} (h : r.rest = chunk ++ more) :
    r.read chunk.length = (chunk, r.seekBy chunk.length) := by
  simp [read, seekBy, h]

theorem read_length (r : Reader) (n : Nat) : (r.read n).1.length = min n r.rest.length := by
  simp [read]

/-- A full read is the start of what is left. -/
theorem read_full {r : Reader} {n : Nat} (h : (r.read n).1.length = n) :
    r.rest = (r.read n).1 ++ r.rest.drop n ∧ (r.read n).2 = r.seekBy n := by
  constructor
  · exact (List.take_append_drop n r.rest).symm
  · have hlength : (r.rest.take n).length = n := h
    simp only [read, seekBy, hlength]

end Reader

/-- A code word says where it ends. -/
def PrefixFree {α β : Type} (encode : α → List β) : Prop :=
  ∀ a b x y, encode a ++ x = encode b ++ y → a = b ∧ x = y

/-- Words at the start of a text are the first words of any reading of the text. -/
theorem PrefixFree.flatMap_prefix {α β : Type} {encode : α → List β} (hfree : PrefixFree encode)
    (hne : ∀ a, encode a ≠ []) {as bs : List α} {x : List β}
    (h : as.flatMap encode ++ x = bs.flatMap encode) :
    ∃ cs, bs = as ++ cs ∧ x = cs.flatMap encode := by
  induction as generalizing bs with
  | nil => exact ⟨bs, rfl, h⟩
  | cons a as ih =>
    cases bs with
    | nil =>
      simp only [List.flatMap_cons, List.flatMap_nil, List.append_assoc,
        List.append_eq_nil_iff] at h
      exact absurd h.1 (hne a)
    | cons b bs =>
      rw [List.flatMap_cons, List.flatMap_cons, List.append_assoc] at h
      obtain ⟨rfl, hrest⟩ := hfree _ _ _ _ h
      obtain ⟨cs, rfl, hx⟩ := ih hrest
      exact ⟨cs, rfl, hx⟩

/-- A text has one reading. -/
theorem PrefixFree.flatMap_injective {α β : Type} {encode : α → List β}
    (hfree : PrefixFree encode) (hne : ∀ a, encode a ≠ []) {as bs : List α}
    (h : as.flatMap encode = bs.flatMap encode) : as = bs := by
  have hnil : as.flatMap encode ++ [] = bs.flatMap encode := by rw [List.append_nil, h]
  obtain ⟨cs, hbs, hcs⟩ := hfree.flatMap_prefix hne hnil
  cases cs with
  | nil => rw [hbs, List.append_nil]
  | cons c cs =>
    rw [List.flatMap_cons] at hcs
    exact absurd (List.append_eq_nil_iff.1 hcs.symm).1 (hne c)

/-- `int.from_bytes(value, "big")`. -/
def fromBytesBig (value : Bytes) : Nat := value.foldl (fun n byte => 256 * n + byte.toNat) 0

/-- `int.from_bytes(value, "little")`. -/
def fromBytesLittle (value : Bytes) : Nat := value.foldr (fun byte n => byte.toNat + 256 * n) 0

end MediaSync
