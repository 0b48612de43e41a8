import MediaSync.Foundation.JsonDoc

/-!
# A reader of JSON text

A decoder of the text that a document is written as: strings with their
escapes and surrogate pairs, natural numbers, arrays and objects without a
repeated key. It satisfies the laws of `JsonReader`, so that what is said
about every reader is said about at least this one.

The fuel bounds the characters that are still to be read.
-/

namespace MediaSync.JsonText

open Python

def hexValue (c : Char) : Option Nat :=
  if 48 ≤ c.toNat ∧ c.toNat ≤ 57 then some (c.toNat - 48)
  else if 97 ≤ c.toNat ∧ c.toNat ≤ 102 then some (c.toNat - 87)
  else none

/-- The four digits of a UTF-16 unit. -/
def readUnit : Text → Option (Nat × Text)
  | a :: b :: c :: d :: rest => do
    let a ← hexValue a
    let b ← hexValue b
    let c ← hexValue c
    let d ← hexValue d
    some (a * 4096 + b * 256 + c * 16 + d, rest)
  | _ => none

/-- A second unit that follows a first one of a surrogate pair. -/
def readLow : Text → Option (Nat × Text)
  | slash :: u :: rest => if slash = '\\' ∧ u = 'u' then readUnit rest else none
  | _ => none

/-- What stands behind a backslash and the letter u. -/
def readUnicode (t : Text) : Option (Char × Text) := do
  let (high, rest) ← readUnit t
  if 0xD800 ≤ high ∧ high ≤ 0xDBFF then do
    let (low, rest) ← readLow rest
    some (Char.ofNat (0x10000 + (high - 0xD800) * 0x400 + (low - 0xDC00)), rest)
  else some (Char.ofNat high, rest)

def shortValue (c : Char) : Option Char :=
  if c = 'b' then some (Char.ofNat 8) else if c = 't' then some (Char.ofNat 9)
  else if c = 'n' then some (Char.ofNat 10) else if c = 'f' then some (Char.ofNat 12)
  else if c = 'r' then some (Char.ofNat 13)
  else if c = '"' ∨ c = '\\' ∨ c = '/' then some c else none

/-- One character inside a string. -/
def readChar : Text → Option (Char × Text)
  | [] => none
  | [c] => if c = '\\' ∨ c.toNat < 0x20 then none else some (c, [])
  | c :: d :: rest =>
    if c = '\\' then
      if d = 'u' then readUnicode rest else (shortValue d).map fun e => (e, rest)
    else if c.toNat < 0x20 then none
    else some (c, d :: rest)

/-- The characters up to the closing quote. -/
def readChars : Nat → Text → Option (Text × Text)
  | 0, _ => none
  | fuel + 1, t =>
    if t.head? = some '"' then some ([], t.tail)
    else do
      let (c, rest) ← readChar t
      let (cs, rest) ← readChars fuel rest
      some (c :: cs, rest)

/-- Elements with a comma between them, up to the closing bracket. -/
def readSequence {α : Type} (element : Text → Option (α × Text)) (close : Char) :
    Nat → Text → Option (List α × Text)
  | 0, _ => none
  | fuel + 1, t => do
    let (a, rest) ← element t
    match rest with
    | [] => none
    | c :: rest =>
      if c = close then some ([a], rest)
      else if c = ',' then do
        let (more, rest) ← readSequence element close fuel rest
        some (a :: more, rest)
      else none

/-- A key and the value behind the colon. -/
def readPair (value : Text → Option (Json × Text)) (fuel : Nat) (t : Text) :
    Option ((String × Json) × Text) :=
  match t with
  | [] => none
  | quote :: rest =>
    if quote = '"' then do
      let (key, rest) ← readChars fuel rest
      match rest with
      | [] => none
      | colon :: rest =>
        if colon = ':' then do
          let (v, rest) ← value rest
          some ((String.ofList key, v), rest)
        else none
    else none

/-- `null`, `true` and `false`. -/
def readWord (t : Text) : Option (Json × Text) :=
  match afterFront null t with
  | some rest => some (.null, rest)
  | none => match afterFront (bool true) t with
    | some rest => some (.bool true, rest)
    | none => (afterFront (bool false) t).map fun rest => (.bool false, rest)

def readValue : Nat → Text → Option (Json × Text)
  | 0, _ => none
  | _ + 1, [] => none
  | fuel + 1, c :: rest =>
    if c = '"' then do
      let (s, rest) ← readChars fuel rest
      some (.str (String.ofList s), rest)
    else if c = '[' then
      if rest.head? = some ']' then some (.arr [], rest.tail)
      else do
        let (items, rest) ← readSequence (readValue fuel) ']' fuel rest
        some (.arr items, rest)
    else if c = '{' then
      if rest.head? = some '}' then some (.obj [], rest.tail)
      else do
        let (fields, rest) ← readSequence (readPair (readValue fuel) fuel) '}' fuel rest
        if (fields.map Prod.fst).Nodup then some (.obj fields, rest) else none
    else if c.isDigit then
      some (.int (Nat.ofDigitChars 10 ((c :: rest).takeWhile Char.isDigit) 0),
        (c :: rest).dropWhile Char.isDigit)
    else readWord (c :: rest)

/-- The whole text, or all but a line feed at its end. -/
def parse (t : Text) : Option Json :=
  match readValue (t.length + 1) t with
  | some (value, []) => some value
  | some (value, [c]) => if c = '\n' then some value else none
  | _ => none

/-! ## Reading what was written -/

theorem hexValue_hexDigit (n : Nat) : hexValue (hexDigit (n % 16)) = some (n % 16) := by
  have all : ∀ m < 16, hexValue (hexDigit m) = some m := by decide
  exact all _ (Nat.mod_lt _ (by omega))

theorem unicodeEscape_drop (n : Nat) (rest : Text) :
    (unicodeEscape n).drop 2 ++ rest = hexDigit (n / 4096 % 16) :: hexDigit (n / 256 % 16) ::
      hexDigit (n / 16 % 16) :: hexDigit (n % 16) :: rest :=
  rfl

theorem readUnit_hexDigit (a b c d : Nat) (rest : Text) :
    readUnit (hexDigit (a % 16) :: hexDigit (b % 16) :: hexDigit (c % 16) :: hexDigit (d % 16) ::
      rest) = some (a % 16 * 4096 + b % 16 * 256 + c % 16 * 16 + d % 16, rest) := by
  rw [readUnit, hexValue_hexDigit, hexValue_hexDigit, hexValue_hexDigit, hexValue_hexDigit]
  rfl

theorem digits_of_unit {n : Nat} (h : n < 0x10000) :
    n / 4096 % 16 * 4096 + n / 256 % 16 * 256 + n / 16 % 16 * 16 + n % 16 = n := by
  omega

theorem readUnit_unicodeEscape {n : Nat} (h : n < 0x10000) (rest : Text) :
    readUnit ((unicodeEscape n).drop 2 ++ rest) = some (n, rest) := by
  rw [unicodeEscape_drop, readUnit_hexDigit, digits_of_unit h]

theorem readLow_unicodeEscape {n : Nat} (h : n < 0x10000) (rest : Text) :
    readLow (unicodeEscape n ++ rest) = some (n, rest) := by
  have hunit := readUnit_unicodeEscape h rest
  simp only [unicodeEscape, List.drop_succ_cons, List.drop_zero, List.cons_append,
    List.nil_append] at hunit
  simp [unicodeEscape, readLow, hunit]

theorem not_surrogate (c : Char) : c.toNat < 0xD800 ∨ 0xDFFF < c.toNat ∧ c.toNat < 0x110000 :=
  c.valid

theorem readUnicode_low {c : Char} (h : c.toNat < 0x10000) (rest : Text) :
    readUnicode ((unicodeEscape c.toNat).drop 2 ++ rest) = some (c, rest) := by
  have hvalid := not_surrogate c
  have hhigh : ¬(0xD800 ≤ c.toNat ∧ c.toNat ≤ 0xDBFF) := by omega
  simp only [readUnicode, readUnit_unicodeEscape h, Option.bind_eq_bind, Option.bind_some,
    if_neg hhigh, Char.ofNat_toNat]

theorem readUnicode_pair {high low : Nat} (hhigh : 0xD800 ≤ high ∧ high ≤ 0xDBFF)
    (hlow : low < 0x10000) (rest : Text) :
    readUnicode ((unicodeEscape high).drop 2 ++ (unicodeEscape low ++ rest)) =
      some (Char.ofNat (0x10000 + (high - 0xD800) * 0x400 + (low - 0xDC00)), rest) := by
  have hunit : high < 0x10000 := by omega
  simp only [readUnicode, readUnit_unicodeEscape hunit, Option.bind_eq_bind, Option.bind_some,
    if_pos hhigh, readLow_unicodeEscape hlow]

/-- The two halves of a character above the first plane. -/
theorem surrogates_of_high {n : Nat} (h : ¬n < 0x10000) (hvalid : n < 0x110000) :
    (0xD800 ≤ 0xD800 + (n - 0x10000) / 0x400 ∧ 0xD800 + (n - 0x10000) / 0x400 ≤ 0xDBFF) ∧
      0xDC00 + (n - 0x10000) % 0x400 < 0x10000 ∧
      0x10000 + (0xD800 + (n - 0x10000) / 0x400 - 0xD800) * 0x400 +
        (0xDC00 + (n - 0x10000) % 0x400 - 0xDC00) = n := by
  omega

theorem readUnicode_high {c : Char} (h : ¬c.toNat < 0x10000) (rest : Text) :
    readUnicode ((unicodeEscape (0xD800 + (c.toNat - 0x10000) / 0x400)).drop 2 ++
      (unicodeEscape (0xDC00 + (c.toNat - 0x10000) % 0x400) ++ rest)) = some (c, rest) := by
  have hvalid : c.toNat < 0x110000 := by
    have := not_surrogate c
    omega
  obtain ⟨hhigh, hlow, hback⟩ := surrogates_of_high h hvalid
  rw [readUnicode_pair hhigh hlow, hback, Char.ofNat_toNat]

theorem readChar_unicode (n : Nat) (rest : Text) :
    readChar (unicodeEscape n ++ rest) = readUnicode ((unicodeEscape n).drop 2 ++ rest) := by
  simp [unicodeEscape, readChar]

theorem readChar_plain {c : Char} (hslash : c ≠ '\\') (hlow : ¬c.toNat < 0x20) (rest : Text) :
    readChar (c :: rest) = some (c, rest) := by
  cases rest with
  | nil => simp [readChar, hslash, hlow]
  | cons d rest => simp [readChar, hslash, hlow]

theorem ofNat_eq {c : Char} {n : Nat} (h : c.toNat = n) : Char.ofNat n = c := by
  rw [← h, Char.ofNat_toNat]

theorem shortValue_shortEscape {c short : Char} (h : shortEscape c = some short) :
    short ≠ 'u' ∧ shortValue short = some c := by
  unfold shortEscape at h
  split_ifs at h with h8 h9 h10 h12 h13
  · cases h
    exact ⟨by decide, congrArg some (ofNat_eq h8)⟩
  · cases h
    exact ⟨by decide, congrArg some (ofNat_eq h9)⟩
  · cases h
    exact ⟨by decide, congrArg some (ofNat_eq h10)⟩
  · cases h
    exact ⟨by decide, congrArg some (ofNat_eq h12)⟩
  · cases h
    exact ⟨by decide, congrArg some (ofNat_eq h13)⟩

theorem eq_of_toNat {c : Char} {n : Nat} (h : c.toNat = n) (d : Char) (hd : d.toNat = n) :
    c = d := by
  rw [← Char.ofNat_toNat c, ← Char.ofNat_toNat d, h, hd]

/-- An escaped character is read back. -/
theorem readChar_escape (c : Char) (rest : Text) : readChar (escape c ++ rest) = some (c, rest) := by
  unfold escape
  split_ifs with hquote hplain hlow
  · rcases hquote with h | h
    · have hc := eq_of_toNat h '"' (by decide)
      subst hc
      simp [readChar, shortValue]
    · have hc := eq_of_toNat h '\\' (by decide)
      subst hc
      simp [readChar, shortValue]
  · have hslash : c ≠ '\\' := by
      rintro rfl
      exact hquote (.inr (by decide))
    simp only [isPrintable, Bool.and_eq_true, decide_eq_true_eq] at hplain
    exact readChar_plain hslash (by omega) rest
  · split
    · rename_i short hshort
      obtain ⟨hu, hvalue⟩ := shortValue_shortEscape hshort
      simp [readChar, hu, hvalue]
    · rw [readChar_unicode, readUnicode_low hlow]
  · split
    · rename_i short hshort
      obtain ⟨hu, hvalue⟩ := shortValue_shortEscape hshort
      simp [readChar, hu, hvalue]
    · rw [List.append_assoc, readChar_unicode, readUnicode_high hlow]

theorem head?_escape (c : Char) (rest : Text) : (escape c ++ rest).head? ≠ some '"' := by
  unfold escape
  split_ifs with hquote hplain
  · simp
  · have hc : c ≠ '"' := by
      rintro rfl
      exact hquote (.inl (by decide))
    simpa using hc
  · split <;> simp [unicodeEscape]
  · split <;> simp [unicodeEscape]

theorem escape_length_pos (c : Char) : 1 ≤ (escape c).length := by
  unfold escape
  split_ifs
  · simp
  · simp
  · split <;> simp [unicodeEscape]
  · split <;> simp [unicodeEscape]

theorem readChars_escape {fuel : Nat} {s : Text} (h : (s.flatMap escape).length < fuel)
    (rest : Text) : readChars fuel (s.flatMap escape ++ '"' :: rest) = some (s, rest) := by
  induction s generalizing fuel with
  | nil =>
    obtain ⟨fuel, rfl⟩ := Nat.exists_eq_succ_of_ne_zero (by omega : fuel ≠ 0)
    simp [readChars]
  | cons c s ih =>
    obtain ⟨fuel, rfl⟩ := Nat.exists_eq_succ_of_ne_zero (by omega : fuel ≠ 0)
    have hpos := escape_length_pos c
    rw [List.flatMap_cons, List.length_append] at h
    have hs := ih (by omega : (s.flatMap escape).length < fuel)
    rw [List.flatMap_cons, List.append_assoc, readChars, if_neg (head?_escape c _)]
    simp [readChar_escape, hs]

/-- The quote that opens a string is already read. -/
theorem readChars_string {fuel : Nat} {s : Text} (h : (string s).length ≤ fuel + 1)
    (rest : Text) : readChars fuel ((string s).tail ++ rest) = some (s, rest) := by
  have htail : (string s).tail ++ rest = s.flatMap escape ++ '"' :: rest := by
    simp [string]
  rw [htail]
  refine readChars_escape ?_ rest
  simp only [string, List.cons_append, List.length_cons, List.length_append,
    List.length_nil] at h
  omega

theorem string_eq_cons (s : Text) : string s = '"' :: (string s).tail := rfl

/-- What may follow a value: the end, or a character that no number goes on with. -/
def Ends (rest : Text) : Prop := ∀ c, rest.head? = some c → c.isDigit = false

theorem ends_cons {c : Char} (h : c.isDigit = false) (rest : Text) : Ends (c :: rest) := by
  rintro _ ⟨⟩
  exact h

theorem readSequence_joined {α β : Type} {element : Text → Option (α × Text)} {close : Char}
    (hclose : close ≠ ',' ∧ close.isDigit = false) {text : β → Text} {value : β → α}
    {parts : List β} (hne : parts ≠ []) {fuel : Nat} (hfuel : parts.length ≤ fuel)
    (h : ∀ b ∈ parts, ∀ rest, Ends rest → element (text b ++ rest) = some (value b, rest))
    (rest : Text) :
    readSequence element close fuel (joined (parts.map text) ++ close :: rest) =
      some (parts.map value, rest) := by
  induction parts generalizing fuel with
  | nil => exact absurd rfl hne
  | cons b parts ih =>
    obtain ⟨fuel, rfl⟩ := Nat.exists_eq_succ_of_ne_zero
      (by simp only [List.length_cons] at hfuel; omega : fuel ≠ 0)
    have hb := h b (by simp)
    cases parts with
    | nil =>
      have hread := hb (close :: rest) (ends_cons hclose.2 rest)
      simp [joined, readSequence, hread]
    | cons c parts =>
      have hmore := ih (by simp) (by simpa using hfuel) fun d hd => h d (by simp [hd])
      have hread := hb (',' :: (joined ((c :: parts).map text) ++ close :: rest))
        (ends_cons (by decide) _)
      have hsplit : joined ((b :: c :: parts).map text) ++ close :: rest =
          text b ++ ',' :: (joined ((c :: parts).map text) ++ close :: rest) := by
        simp [joined]
      have hcomma : ',' ≠ close := Ne.symm hclose.1
      rw [hsplit, readSequence, hread]
      simp only [Option.bind_eq_bind, Option.bind_some, if_neg hcomma, if_true]
      rw [hmore]
      rfl

theorem number_eq_cons (n : Nat) : ∃ c t, number n = c :: t := by
  cases h : number n with
  | nil =>
    have hpos : 0 < (Nat.toDigits 10 n).length := Nat.length_toDigits_pos
    rw [show Nat.toDigits 10 n = number n from rfl, h] at hpos
    simp at hpos
  | cons c t => exact ⟨c, t, rfl⟩

theorem number_isDigit {n : Nat} {c : Char} (h : c ∈ number n) : c.isDigit = true :=
  Nat.isDigit_of_mem_toDigits (by decide) (by decide) h

theorem takeWhile_number (n : Nat) {rest : Text} (h : Ends rest) :
    (number n ++ rest).takeWhile Char.isDigit = number n ∧
      (number n ++ rest).dropWhile Char.isDigit = rest := by
  have hrest : rest.takeWhile Char.isDigit = [] ∧ rest.dropWhile Char.isDigit = rest := by
    cases rest with
    | nil => exact ⟨rfl, rfl⟩
    | cons c rest =>
      have hc := h c rfl
      simp [hc]
  constructor
  · rw [List.takeWhile_append_of_pos fun c => number_isDigit, hrest.1, List.append_nil]
  · rw [List.dropWhile_append_of_pos fun c => number_isDigit, hrest.2]

theorem length_le_joined {part : Text} {parts : List Text} (h : part ∈ parts) :
    part.length ≤ (joined parts).length := by
  induction parts with
  | nil => cases h
  | cons first rest ih =>
    cases rest with
    | nil =>
      rw [List.mem_singleton.1 h]
      rfl
    | cons second rest =>
      simp only [joined, List.length_append, List.length_cons]
      rcases List.mem_cons.1 h with rfl | h
      · omega
      · have := ih h
        omega

theorem count_le_joined (parts : List Text) : parts.length ≤ (joined parts).length + 1 := by
  induction parts with
  | nil => simp
  | cons first rest ih =>
    cases rest with
    | nil => simp
    | cons second rest =>
      simp only [joined, List.length_append, List.length_cons] at ih ⊢
      omega

/-- No value starts with a bracket that closes. -/
theorem Doc.text_eq_cons (d : Doc) : ∃ c t, d.text = c :: t ∧ c ≠ ']' := by
  cases d with
  | null => exact ⟨'n', _, rfl, by decide⟩
  | bool value => cases value <;> exact ⟨_, _, rfl, by decide⟩
  | number n =>
    obtain ⟨c, t, h⟩ := number_eq_cons n
    refine ⟨c, t, h, ?_⟩
    rintro rfl
    have hdigit : Char.isDigit ']' = true := number_isDigit (n := n) (by rw [h]; simp)
    exact absurd hdigit (by decide)
  | string s => exact ⟨'"', _, rfl, by decide⟩
  | array items => exact ⟨'[', _, rfl, by decide⟩
  | object fields => exact ⟨'{', _, rfl, by decide⟩

/-- The fields of an object in the order of its text. -/
theorem object_sorted (fields : List (String × Doc)) :
    (Doc.object fields).text =
        '{' :: joined ((sortedFields fields).map fun f => field (f.1, f.2.text)) ++ ['}'] ∧
      (Doc.object fields).json = .obj ((sortedFields fields).map fun f => (f.1, f.2.json)) := by
  constructor
  · have h := List.map_insertionSort (r := fun f g : String × Doc => f.1 ≤ g.1)
      (s := fun f g : String × Text => f.1 ≤ g.1) (fun f : String × Doc => (f.1, f.2.text)) fields
      (fun _ _ _ _ => Iff.rfl)
    rw [Doc.text_object, object, ← h, List.map_map]
    rfl
  · have h := List.map_insertionSort (r := fun f g : String × Doc => f.1 ≤ g.1)
      (s := fun f g : String × Json => f.1 ≤ g.1) (fun f : String × Doc => (f.1, f.2.json)) fields
      (fun _ _ _ _ => Iff.rfl)
    rw [Doc.json_object, sortedFields, ← h]
    rfl

theorem readWord_null (rest : Text) : readWord (null ++ rest) = some (.null, rest) := by
  rw [readWord, afterFront_append]

theorem readWord_bool (b : Bool) (rest : Text) :
    readWord (bool b ++ rest) = some (.bool b, rest) := by
  have hnull : afterFront null (bool b ++ rest) = none := by
    cases b <;> simp [afterFront, null, bool, List.dropPrefix?]
  cases b with
  | true => rw [readWord, hnull, afterFront_append]
  | false =>
    have htrue : afterFront (bool true) (bool false ++ rest) = none := by
      simp [afterFront, bool, List.dropPrefix?]
    rw [readWord, hnull, htrue, afterFront_append]
    rfl

theorem readPair_field {value : Text → Option (Json × Text)} {fuel : Nat} {key : String} {t : Text}
    {v : Json} {rest : Text} (hkey : (string key.toList).length ≤ fuel + 1)
    (hvalue : value (t ++ rest) = some (v, rest)) :
    readPair value fuel (field (key, t) ++ rest) = some ((key, v), rest) := by
  have hchars := readChars_string hkey (':' :: (t ++ rest))
  have hsplit : field (key, t) ++ rest =
      '"' :: ((string key.toList).tail ++ ':' :: (t ++ rest)) := by
    rw [field, string_eq_cons]
    simp
  rw [hsplit, readPair, if_pos rfl, hchars]
  simp only [Option.bind_eq_bind, Option.bind_some, if_true, hvalue, String.ofList_toList]

theorem readValue_null (fuel : Nat) (rest : Text) :
    readValue (fuel + 1) (null ++ rest) = some (.null, rest) := by
  rw [show null ++ rest = 'n' :: ('u' :: 'l' :: 'l' :: rest) from rfl, readValue,
    if_neg (by decide), if_neg (by decide), if_neg (by decide), if_neg (by decide)]
  exact readWord_null rest

theorem readValue_bool (fuel : Nat) (b : Bool) (rest : Text) :
    readValue (fuel + 1) (bool b ++ rest) = some (.bool b, rest) := by
  have hcons : ∃ c t, bool b ++ rest = c :: t ∧ c ≠ '"' ∧ c ≠ '[' ∧ c ≠ '{' ∧
      ¬c.isDigit = true := by
    cases b <;> exact ⟨_, _, rfl, by decide⟩
  obtain ⟨c, t, hct, hquote, harray, hobject, hdigit⟩ := hcons
  rw [hct, readValue, if_neg hquote, if_neg harray, if_neg hobject, if_neg hdigit, ← hct]
  exact readWord_bool b rest

theorem readValue_number (fuel n : Nat) {rest : Text} (hrest : Ends rest) :
    readValue (fuel + 1) (number n ++ rest) = some (.int n, rest) := by
  obtain ⟨c, t, hct⟩ := number_eq_cons n
  have hdigit : c.isDigit = true := number_isDigit (n := n) (by rw [hct]; simp)
  have hne : ∀ d : Char, d.isDigit = false → c ≠ d := by
    rintro d hd rfl
    rw [hdigit] at hd
    cases hd
  obtain ⟨htake, hdrop⟩ := takeWhile_number n hrest
  rw [hct, List.cons_append] at htake hdrop
  rw [hct, List.cons_append, readValue, if_neg (hne '"' (by decide)),
    if_neg (hne '[' (by decide)), if_neg (hne '{' (by decide)), if_pos hdigit, htake, hdrop, ← hct]
  rw [number, Nat.ofDigitChars_ten_toDigits]

theorem readValue_string {fuel : Nat} {s : Text} (h : (string s).length ≤ fuel) (rest : Text) :
    readValue (fuel + 1) (string s ++ rest) = some (.str (String.ofList s), rest) := by
  have hchars := readChars_string (Nat.le_succ_of_le h) rest
  rw [string_eq_cons, List.cons_append, readValue, if_pos rfl, hchars]
  rfl

/-- A list is read where its items are. -/
theorem readValue_array {fuel : Nat} {items : List Doc}
    (hlength : (Doc.array items).text.length ≤ fuel)
    (h : ∀ d ∈ items, ∀ rest, Ends rest →
      readValue fuel (d.text ++ rest) = some (d.json, rest)) (rest : Text) :
    readValue (fuel + 1) ((Doc.array items).text ++ rest) =
      some ((Doc.array items).json, rest) := by
  have hsplit : (Doc.array items).text ++ rest =
      '[' :: (joined (items.map Doc.text) ++ ']' :: rest) := by
    simp [array]
  rw [hsplit, readValue, if_neg (by decide), if_pos rfl, Doc.json_array]
  cases items with
  | nil => rfl
  | cons first more =>
    have hhead : (joined ((first :: more).map Doc.text) ++ ']' :: rest).head? ≠ some ']' := by
      obtain ⟨c, t, hct, hc⟩ := first.text_eq_cons
      cases more with
      | nil => simpa [joined, hct] using hc
      | cons second more => simpa [joined, hct] using hc
    have hcount : (first :: more).length ≤ fuel := by
      have hjoined := count_le_joined ((first :: more).map Doc.text)
      simp only [Doc.text_array, array, List.cons_append, List.length_cons, List.length_append,
        List.length_nil, List.length_map] at hlength hjoined ⊢
      omega
    have hitems : readSequence (readValue fuel) ']' fuel
        (joined ((first :: more).map Doc.text) ++ ']' :: rest) =
        some ((first :: more).map Doc.json, rest) :=
      readSequence_joined (by decide) (by simp) hcount h rest
    rw [if_neg hhead, hitems]
    rfl

/-- An object is read where its values are. -/
theorem readValue_object {fuel : Nat} {fields : List (String × Doc)}
    (hkeys : (fields.map Prod.fst).Nodup)
    (hlength : (Doc.object fields).text.length ≤ fuel)
    (h : ∀ f ∈ fields, f.2.text.length < (Doc.object fields).text.length → ∀ rest, Ends rest →
      readValue fuel (f.2.text ++ rest) = some (f.2.json, rest)) (rest : Text) :
    readValue (fuel + 1) ((Doc.object fields).text ++ rest) =
      some ((Doc.object fields).json, rest) := by
  obtain ⟨htext, hjson⟩ := object_sorted fields
  have hperm := sortedFields_perm fields
  have hnodup : (((sortedFields fields).map fun f => (f.1, f.2.json)).map Prod.fst).Nodup := by
    rw [List.map_map]
    exact (hperm.map Prod.fst).nodup_iff.2 hkeys
  have hvalues := fun f hf => h f (hperm.mem_iff.1 hf)
  rw [htext] at hlength hvalues
  rw [htext, hjson]
  generalize sortedFields fields = sorted at hnodup hvalues hlength
  have hsplit : '{' :: joined (sorted.map fun f => field (f.1, f.2.text)) ++ ['}'] ++ rest =
      '{' :: (joined (sorted.map fun f => field (f.1, f.2.text)) ++ '}' :: rest) := by
    simp
  rw [hsplit, readValue, if_neg (by decide), if_neg (by decide), if_pos rfl]
  simp only [List.cons_append, List.length_cons, List.length_append, List.length_nil]
    at hlength hvalues
  cases sorted with
  | nil => rfl
  | cons first more =>
    have hhead : (joined ((first :: more).map fun f => field (f.1, f.2.text)) ++
        '}' :: rest).head? ≠ some '}' := by
      cases more with
      | nil => simp [joined, field, string]
      | cons second more => simp [joined, field, string]
    have hcount : (first :: more).length ≤ fuel := by
      have hjoined := count_le_joined ((first :: more).map fun f => field (f.1, f.2.text))
      rw [List.length_map] at hjoined
      omega
    have hread : ∀ f ∈ first :: more, ∀ rest, Ends rest →
        readPair (readValue fuel) fuel (field (f.1, f.2.text) ++ rest) =
          some ((f.1, f.2.json), rest) := by
      intro f hf rest hrest
      have hfield := length_le_joined (List.mem_map_of_mem
        (f := fun f : String × Doc => field (f.1, f.2.text)) hf)
      simp only [field, List.length_append, List.length_cons] at hfield hlength hvalues
      exact readPair_field (by omega) (hvalues f hf (by omega) rest hrest)
    have hfields : readSequence (readPair (readValue fuel) fuel) '}' fuel
        (joined ((first :: more).map fun f => field (f.1, f.2.text)) ++ '}' :: rest) =
        some ((first :: more).map fun f => (f.1, f.2.json), rest) :=
      readSequence_joined (by decide) (by simp) hcount hread rest
    rw [if_neg hhead, hfields]
    simp only [Option.bind_eq_bind, Option.bind_some, if_pos hnodup]

theorem text_length_lt_array {items : List Doc} {d : Doc} (h : d ∈ items) :
    d.text.length < (Doc.array items).text.length := by
  have hjoined := length_le_joined (List.mem_map_of_mem (f := Doc.text) h)
  simp only [Doc.text_array, array, List.cons_append, List.length_cons, List.length_append]
  omega

/-- A document is read back, whatever follows it. -/
theorem readValue_text {fuel : Nat} {d : Doc} (honce : d.keysOnce = true)
    (hfuel : d.text.length < fuel) {rest : Text} (hrest : Ends rest) :
    readValue fuel (d.text ++ rest) = some (d.json, rest) := by
  induction fuel generalizing d rest with
  | zero => exact absurd hfuel (Nat.not_lt_zero _)
  | succ fuel ih =>
    have hlength := Nat.le_of_lt_succ hfuel
    cases d with
    | null => exact readValue_null fuel rest
    | bool b => exact readValue_bool fuel b rest
    | number n => exact readValue_number fuel n hrest
    | string s => exact readValue_string hlength rest
    | array items =>
      rw [Doc.keysOnce_array] at honce
      refine readValue_array hlength (fun d hd rest hrest => ih (honce d hd) ?_ hrest) rest
      exact (text_length_lt_array hd).trans_le hlength
    | object fields =>
      rw [Doc.keysOnce_object] at honce
      exact readValue_object honce.1 hlength
        (fun f hf hlt rest hrest => ih (honce.2 f hf) (hlt.trans_le hlength) hrest) rest

theorem parse_text {d : Doc} (honce : d.keysOnce = true) : parse d.text = some d.json := by
  have hends : Ends [] := nofun
  have h := readValue_text honce (Nat.lt_succ_self _) hends
  rw [List.append_nil] at h
  rw [parse, h]

theorem parse_line {d : Doc} (honce : d.keysOnce = true) :
    parse (d.text ++ ['\n']) = some d.json := by
  have hlength : d.text.length < (d.text ++ ['\n']).length + 1 := by
    simp only [List.length_append]
    omega
  rw [parse, readValue_text honce hlength (ends_cons (by decide) [])]
  rfl

/-- The laws are satisfied by the reader of this module. -/
def parser : JsonReader where
  load := parse
  load_text _ := parse_text
  load_line _ := parse_line

end MediaSync.JsonText
