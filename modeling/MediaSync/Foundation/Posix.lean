import Mathlib.Algebra.Ring.Nat
import Mathlib.Tactic.Common
import Mathlib.Data.List.Basic
import Mathlib.Data.List.Infix
import MediaSync.Foundation.Python

/-!
# Absolute paths

An absolute path is the list of its names, none of them empty and none with a
slash, so that two spellings of a path are one value. Reading the text of a
path gives the path back, and the text that is written is never longer than
the one that was read.
-/

namespace MediaSync.Posix

open Python

/-- The pieces between the characters that satisfy `p`, empty ones among them. -/
def splitBy (p : Char → Bool) : List Char → List (List Char)
  | [] => [[]]
  | c :: cs =>
    if p c then [] :: splitBy p cs
    else match splitBy p cs with
      | [] => [[c]]
      | w :: ws => (c :: w) :: ws

variable {p q : Char → Bool} {c : Char} {cs t w : List Char}

@[simp] theorem splitBy_nil : splitBy p [] = [[]] := rfl

theorem splitBy_sep (h : p c = true) : splitBy p (c :: cs) = [] :: splitBy p cs := by
  simp [splitBy, h]

theorem splitBy_ne_nil (p : Char → Bool) (cs : List Char) : splitBy p cs ≠ [] := by
  cases cs with
  | nil => simp
  | cons c cs =>
    unfold splitBy
    split
    · simp
    · split <;> simp

theorem splitBy_cons (cs : List Char) (h : p c = false) :
    ∃ w ws, splitBy p cs = w :: ws ∧ splitBy p (c :: cs) = (c :: w) :: ws := by
  cases hs : splitBy p cs with
  | nil => exact absurd hs (splitBy_ne_nil p cs)
  | cons w ws => exact ⟨w, ws, rfl, by simp [splitBy, h, hs]⟩

theorem splitBy_congr (h : ∀ c ∈ cs, p c = q c) : splitBy p cs = splitBy q cs := by
  induction cs with
  | nil => rfl
  | cons c cs ih =>
    have hcs := ih fun d hd => h d (List.mem_cons_of_mem c hd)
    simp only [splitBy, h c List.mem_cons_self, hcs]

/-- A piece has only characters of the text, and no separator. -/
theorem mem_splitBy (hw : w ∈ splitBy p cs) (hc : c ∈ w) : c ∈ cs ∧ p c = false := by
  induction cs generalizing w with
  | nil =>
    rw [splitBy_nil, List.mem_singleton] at hw
    rw [hw] at hc
    cases hc
  | cons d cs ih =>
    cases hd : p d with
    | true =>
      rw [splitBy_sep hd] at hw
      rcases List.mem_cons.1 hw with rfl | hw
      · cases hc
      · obtain ⟨hmem, hp⟩ := ih hw hc
        exact ⟨List.mem_cons_of_mem d hmem, hp⟩
    | false =>
      obtain ⟨w₀, ws, hs, hcons⟩ := splitBy_cons cs hd
      rw [hcons] at hw
      rcases List.mem_cons.1 hw with rfl | hw
      · rcases List.mem_cons.1 hc with rfl | hc
        · exact ⟨List.mem_cons_self, hd⟩
        · obtain ⟨hmem, hp⟩ := ih (hs ▸ List.mem_cons_self) hc
          exact ⟨List.mem_cons_of_mem d hmem, hp⟩
      · obtain ⟨hmem, hp⟩ := ih (hs ▸ List.mem_cons_of_mem w₀ hw) hc
        exact ⟨List.mem_cons_of_mem d hmem, hp⟩

/-- A piece stands in the text as it is, and the first one at its start. -/
theorem splitBy_infix (p : Char → Bool) (cs : List Char) :
    (∀ w ∈ splitBy p cs, w <:+: cs) ∧ ∀ w ∈ (splitBy p cs).head?, w <+: cs := by
  induction cs with
  | nil =>
    refine ⟨fun w hw => ?_, fun w hw => ?_⟩
    · rw [splitBy_nil, List.mem_singleton] at hw
      exact hw ▸ List.infix_refl []
    · cases hw
      exact List.prefix_refl []
  | cons c cs ih =>
    cases hc : p c with
    | true =>
      rw [splitBy_sep hc]
      refine ⟨fun w hw => ?_, fun w hw => ?_⟩
      · rcases List.mem_cons.1 hw with rfl | hw
        · exact List.nil_infix
        · exact (ih.1 w hw).trans (List.suffix_cons c cs).isInfix
      · cases hw
        exact List.nil_prefix
    | false =>
      obtain ⟨w₀, ws, hs, hcons⟩ := splitBy_cons cs hc
      have hfirst : c :: w₀ <+: c :: cs :=
        List.cons_prefix_cons.2 ⟨rfl, ih.2 w₀ (by rw [hs]; rfl)⟩
      rw [hcons]
      refine ⟨fun w hw => ?_, fun w hw => ?_⟩
      · rcases List.mem_cons.1 hw with rfl | hw
        · exact hfirst.isInfix
        · exact (ih.1 w (hs ▸ List.mem_cons_of_mem w₀ hw)).trans (List.suffix_cons c cs).isInfix
      · cases hw
        exact hfirst

theorem splitBy_append {ws : List (List Char)} (hw : ∀ c ∈ w, p c = false)
    (ht : splitBy p t = [] :: ws) : splitBy p (w ++ t) = w :: ws := by
  induction w with
  | nil => exact ht
  | cons c w ih =>
    have hrest := ih fun d hd => hw d (List.mem_cons_of_mem c hd)
    obtain ⟨w', ws', hs, hcons⟩ := splitBy_cons (w ++ t) (hw c List.mem_cons_self)
    rw [hrest] at hs
    cases hs
    exact hcons

def isSlash (c : Char) : Bool := c = '/'

def isName (piece : List Char) : Bool := !piece.isEmpty

structure Path where
  names : List (List Char)
  proper : ∀ n ∈ names, n ≠ [] ∧ ∀ c ∈ n, isSlash c = false

namespace Path

theorem ext {a b : Path} (h : a.names = b.names) : a = b := by
  cases a
  cases b
  cases h
  rfl

instance : DecidableEq Path := fun a b =>
  decidable_of_iff (a.names = b.names) ⟨ext, fun h => h ▸ rfl⟩

/-- The names between the slashes of a text. -/
def ofText (text : List Char) : Path where
  names := (splitBy isSlash text).filter isName
  proper n hn := by
    obtain ⟨hmem, hne⟩ := List.mem_filter.1 hn
    constructor
    · rintro rfl
      cases hne
    · intro c hc
      exact (mem_splitBy hmem hc).2

def slashed (names : List (List Char)) : List Char := names.flatMap (fun n => '/' :: n)

@[simp] theorem slashed_nil : slashed [] = [] := rfl

@[simp] theorem slashed_cons (n : List Char) (names : List (List Char)) :
    slashed (n :: names) = '/' :: (n ++ slashed names) := rfl

/-- The characters of `str(path)`. -/
def text (a : Path) : List Char := if a.names = [] then ['/'] else slashed a.names

/-- `Path(name)`. -/
def of (name : String) : Path := ofText name.toList

/-- `path / relative`. -/
def join (a b : Path) : Path where
  names := a.names ++ b.names
  proper n hn := (List.mem_append.1 hn).elim (a.proper n) (b.proper n)

/-- `path.parent`. -/
def parent (a : Path) : Path where
  names := a.names.dropLast
  proper n hn := a.proper n (List.mem_of_mem_dropLast hn)

/-- `str(path)`. -/
def str (a : Path) : String := String.ofList a.text

/-- `second == first or first in second.parents`. -/
def contains (parent inner : Path) : Bool := parent.names.isPrefixOf inner.names

def overlaps (first second : Path) : Bool := contains first second || contains second first

theorem overlaps_comm (a b : Path) : overlaps a b = overlaps b a := Bool.or_comm _ _

theorem splitBy_slashed {names : List (List Char)}
    (h : ∀ n ∈ names, n ≠ [] ∧ ∀ c ∈ n, isSlash c = false) :
    splitBy isSlash (slashed names) = [] :: names := by
  induction names with
  | nil => rfl
  | cons n names ih =>
    have hrest := ih fun m hm => h m (List.mem_cons_of_mem n hm)
    have hn := (h n List.mem_cons_self).2
    rw [slashed_cons, splitBy_sep (by rfl), splitBy_append hn hrest]

theorem filter_proper {names : List (List Char)}
    (h : ∀ n ∈ names, n ≠ [] ∧ ∀ c ∈ n, isSlash c = false) :
    names.filter isName = names := by
  rw [List.filter_eq_self]
  intro n hn
  simpa [isName] using (h n hn).1

/-- Reading the text of a path gives the path back. -/
@[simp] theorem ofText_text (a : Path) : ofText a.text = a := by
  apply ext
  rw [text]
  split
  · rename_i hnil
    rw [hnil]
    rfl
  · have hpieces : (ofText (slashed a.names)).names =
        (splitBy isSlash (slashed a.names)).filter isName := rfl
    rw [hpieces, splitBy_slashed a.proper]
    exact filter_proper a.proper

@[simp] theorem of_str (a : Path) : of a.str = a := by
  rw [of, str, String.toList_ofList, ofText_text]

theorem mem_slashed {names : List (List Char)} (hc : c ∈ slashed names) :
    c = '/' ∨ ∃ n ∈ names, c ∈ n := by
  obtain ⟨n, hn, hcn⟩ := List.mem_flatMap.1 hc
  rcases List.mem_cons.1 hcn with rfl | hcn
  · exact .inl rfl
  · exact .inr ⟨n, hn, hcn⟩

/-- The text of the path that was read has no new characters. -/
theorem mem_text_ofText {text : List Char} (hc : c ∈ (ofText text).text) :
    c = '/' ∨ c ∈ text := by
  rw [Path.text] at hc
  split at hc
  · exact .inl (List.mem_singleton.1 hc)
  · rcases mem_slashed hc with hslash | ⟨n, hn, hcn⟩
    · exact .inl hslash
    · exact .inr (mem_splitBy (List.mem_filter.1 hn).1 hcn).1

theorem text_head (a : Path) : a.text.head? = some '/' := by
  rw [text]
  split
  · rfl
  · rename_i hne
    cases hnames : a.names with
    | nil => exact absurd hnames hne
    | cons n names => rfl

/-- The text of a path never starts with two slashes. -/
theorem text_second (a : Path) : (a.text.drop 1).head? ≠ some '/' := by
  rw [text]
  split
  · simp
  · rename_i hne
    cases hnames : a.names with
    | nil => exact absurd hnames hne
    | cons n names =>
      obtain ⟨hn, hslash⟩ := a.proper n (hnames ▸ List.mem_cons_self)
      cases n with
      | nil => exact absurd rfl hn
      | cons d n =>
        have hd := hslash d List.mem_cons_self
        intro hhead
        have hsame : d = '/' := by simpa [slashed] using hhead
        rw [hsame] at hd
        cases hd

/-- The bytes of a text in UTF-8. -/
def utf8Length (text : List Char) : Nat := (text.map Char.utf8Size).sum

@[simp] theorem utf8Length_nil : utf8Length [] = 0 := rfl

@[simp] theorem utf8Length_cons (c : Char) (cs : List Char) :
    utf8Length (c :: cs) = c.utf8Size + utf8Length cs := rfl

@[simp] theorem utf8Length_append (xs ys : List Char) :
    utf8Length (xs ++ ys) = utf8Length xs + utf8Length ys := by
  simp [utf8Length]

/-- The pieces that are kept, each with a slash, take no more than the text and one slash. A text
that starts with a slash pays for it. -/
theorem utf8Length_pieces (text : List Char) :
    utf8Length (slashed ((splitBy isSlash text).filter isName)) ≤
      utf8Length text + 1 ∧
    ((splitBy isSlash text).head? = some [] →
      utf8Length (slashed ((splitBy isSlash text).filter isName)) ≤
        utf8Length text) := by
  have hslash : Char.utf8Size '/' = 1 := by decide
  induction text with
  | nil => exact ⟨Nat.zero_le _, fun _ => Nat.zero_le _⟩
  | cons c cs ih =>
    cases hc : isSlash c with
    | true =>
      have hsize : c.utf8Size = 1 := by
        rw [of_decide_eq_true hc]
        exact hslash
      have hskip : ∀ ws : List (List Char), ([] :: ws).filter isName = ws.filter isName :=
        fun ws => rfl
      rw [splitBy_sep hc, hskip, utf8Length_cons]
      exact ⟨by omega, fun _ => by omega⟩
    | false =>
      obtain ⟨w, ws, hs, hcons⟩ := splitBy_cons cs hc
      rw [hs] at ih
      have hkeep : ∀ (d : Char) (n : List Char) (ns : List (List Char)),
          slashed (((d :: n) :: ns).filter isName) =
            '/' :: ((d :: n) ++ slashed (ns.filter isName)) := fun d n ns => rfl
      rw [hcons]
      refine ⟨?_, fun hhead => by simp at hhead⟩
      rw [hkeep]
      simp only [List.cons_append, utf8Length_cons, utf8Length_append, hslash]
      cases w with
      | nil =>
        have hle : utf8Length (slashed (ws.filter isName)) ≤ utf8Length cs := ih.2 rfl
        rw [utf8Length_nil]
        omega
      | cons d w =>
        have hle := ih.1
        rw [hkeep] at hle
        simp only [List.cons_append, utf8Length_cons, utf8Length_append, hslash] at hle ⊢
        omega

theorem utf8Length_text_ofText {text : List Char} (h : text.head? = some '/') :
    utf8Length (ofText text).text ≤ utf8Length text := by
  cases text with
  | nil => cases h
  | cons c cs =>
    cases h
    have hslash : Char.utf8Size '/' = 1 := by decide
    rw [Path.text]
    split
    · simp [hslash]
    · have hhead : (splitBy isSlash ('/' :: cs)).head? = some [] := rfl
      exact (utf8Length_pieces ('/' :: cs)).2 hhead

end Path

end MediaSync.Posix
