import MediaSync.Foundation.JsonText
import MediaSync.Foundation.Python

/-!
# Documents between a writer and a reader

A writer hands a document to `json.dumps`; a reader takes the value that
`json.loads` makes of the text apart again. That the two of the standard
library are inverse on the documents a program writes is the only thing a
reader relies on, and it is stated here once, as the laws of `JsonReader`.

The keys of an object come back in the order of the text, which is sorted, so
a reader looks them up by name.
-/

namespace MediaSync.JsonText

open Python

/-- What a writer builds; none of them writes a fraction or a negative number. -/
inductive Doc where
  | null
  | bool (value : Bool)
  | number (value : Nat)
  | string (value : Text)
  | array (items : List Doc)
  | object (fields : List (String × Doc))

/-- The fields in the order of their keys. -/
def sortedFields {α : Type} (fields : List (String × α)) : List (String × α) :=
  fields.insertionSort (fun f g => f.1 ≤ g.1)

namespace Doc

mutual

/-- `json.dumps` with `ensure_ascii`, sorted keys and no blanks. -/
def text : Doc → Text
  | null => JsonText.null
  | bool value => JsonText.bool value
  | number value => JsonText.number value
  | string value => JsonText.string value
  | array items => JsonText.array (texts items)
  | object fields => JsonText.object (fieldTexts fields)

def texts : List Doc → List Text
  | [] => []
  | item :: items => item.text :: texts items

def fieldTexts : List (String × Doc) → List (String × Text)
  | [] => []
  | (key, value) :: fields => (key, value.text) :: fieldTexts fields

end

mutual

/-- The value that a reader finds. -/
def json : Doc → Json
  | null => .null
  | bool value => .bool value
  | number value => .int value
  | string value => .str (String.ofList value)
  | array items => .arr (jsons items)
  | object fields => .obj (sortedFields (fieldJsons fields))

def jsons : List Doc → List Json
  | [] => []
  | item :: items => item.json :: jsons items

def fieldJsons : List (String × Doc) → List (String × Json)
  | [] => []
  | (key, value) :: fields => (key, value.json) :: fieldJsons fields

end

mutual

/-- No object of the document has a key twice. -/
def keysOnce : Doc → Bool
  | array items => allOnce items
  | object fields => decide (fields.map Prod.fst).Nodup && fieldsOnce fields
  | _ => true

def allOnce : List Doc → Bool
  | [] => true
  | item :: items => item.keysOnce && allOnce items

def fieldsOnce : List (String × Doc) → Bool
  | [] => true
  | (_, value) :: fields => value.keysOnce && fieldsOnce fields

end

theorem texts_eq_map (items : List Doc) : texts items = items.map text := by
  induction items with
  | nil => rfl
  | cons item items ih => simp [texts, ih]

theorem fieldTexts_eq_map (fields : List (String × Doc)) :
    fieldTexts fields = fields.map (fun f => (f.1, f.2.text)) := by
  induction fields with
  | nil => rfl
  | cons f fields ih => simp [fieldTexts, ih]

theorem jsons_eq_map (items : List Doc) : jsons items = items.map json := by
  induction items with
  | nil => rfl
  | cons item items ih => simp [jsons, ih]

theorem fieldJsons_eq_map (fields : List (String × Doc)) :
    fieldJsons fields = fields.map (fun f => (f.1, f.2.json)) := by
  induction fields with
  | nil => rfl
  | cons f fields ih => simp [fieldJsons, ih]

theorem allOnce_iff (items : List Doc) :
    allOnce items = true ↔ ∀ d ∈ items, d.keysOnce = true := by
  induction items with
  | nil => simp [allOnce]
  | cons item items ih => simp [allOnce, ih]

theorem fieldsOnce_iff (fields : List (String × Doc)) :
    fieldsOnce fields = true ↔ ∀ f ∈ fields, f.2.keysOnce = true := by
  induction fields with
  | nil => simp [fieldsOnce]
  | cons f fields ih => simp [fieldsOnce, ih]

@[simp] theorem text_null : null.text = JsonText.null := rfl

@[simp] theorem text_bool (value : Bool) : (bool value).text = JsonText.bool value := rfl

@[simp] theorem text_number (n : Nat) : (number n).text = JsonText.number n := rfl

@[simp] theorem text_string (s : Text) : (string s).text = JsonText.string s := rfl

@[simp] theorem text_array (items : List Doc) :
    (array items).text = JsonText.array (items.map text) := by
  rw [text, texts_eq_map]

@[simp] theorem text_object (fields : List (String × Doc)) :
    (object fields).text = JsonText.object (fields.map fun f => (f.1, f.2.text)) := by
  rw [text, fieldTexts_eq_map]

@[simp] theorem json_array (items : List Doc) : (array items).json = .arr (items.map json) := by
  rw [json, jsons_eq_map]

theorem json_object (fields : List (String × Doc)) :
    (object fields).json = .obj (sortedFields (fields.map fun f => (f.1, f.2.json))) := by
  rw [json, fieldJsons_eq_map]

@[simp] theorem keysOnce_null : null.keysOnce = true := rfl

@[simp] theorem keysOnce_bool (value : Bool) : (bool value).keysOnce = true := rfl

@[simp] theorem keysOnce_number (n : Nat) : (number n).keysOnce = true := rfl

@[simp] theorem keysOnce_string (s : Text) : (string s).keysOnce = true := rfl

@[simp] theorem keysOnce_array (items : List Doc) :
    (array items).keysOnce = true ↔ ∀ d ∈ items, d.keysOnce = true := by
  rw [keysOnce, allOnce_iff]

@[simp] theorem keysOnce_object (fields : List (String × Doc)) :
    (object fields).keysOnce = true ↔
      (fields.map Prod.fst).Nodup ∧ ∀ f ∈ fields, f.2.keysOnce = true := by
  rw [keysOnce, Bool.and_eq_true, decide_eq_true_eq, fieldsOnce_iff]

mutual

/-- Whatever is written is printable. -/
theorem printable : ∀ d : Doc, ∀ c ∈ d.text, isPrintable c = true
  | null => fits_null.printable
  | bool value => (fits_bool value).printable
  | number n => number_printable n
  | string s => string_printable s
  | array items => array_printable (texts_printable items)
  | object fields => object_printable (fieldTexts_printable fields)

theorem texts_printable : ∀ items : List Doc, ∀ t ∈ texts items, ∀ c ∈ t, isPrintable c = true
  | [] => by simp [texts]
  | item :: items => by
    intro t ht
    rcases List.mem_cons.1 ht with rfl | ht
    · exact printable item
    · exact texts_printable items t ht

theorem fieldTexts_printable : ∀ fields : List (String × Doc), ∀ f ∈ fieldTexts fields,
    ∀ c ∈ f.2, isPrintable c = true
  | [] => by simp [fieldTexts]
  | (key, value) :: fields => by
    intro f hf
    rcases List.mem_cons.1 hf with rfl | hf
    · exact printable value
    · exact fieldTexts_printable fields f hf

end

/-- `null` for a value that is not there. -/
def orNull {α : Type} (doc : α → Doc) : Option α → Doc
  | none => null
  | some a => doc a

theorem keysOnce_orNull {α : Type} {doc : α → Doc} {value : Option α}
    (h : ∀ a ∈ value, (doc a).keysOnce = true) : (orNull doc value).keysOnce = true := by
  cases value with
  | none => rfl
  | some a => exact h a rfl

end Doc

/-- `json.loads` with the hook that refuses a repeated key, and `none` where it
raises. The laws are the assumption that decoding undoes encoding, also of a
document with a line feed after it. -/
structure JsonReader where
  load : Text → Option Json
  load_text : ∀ d : Doc, d.keysOnce = true → load d.text = some d.json
  load_line : ∀ d : Doc, d.keysOnce = true → load (d.text ++ ['\n']) = some d.json

theorem sortedFields_perm {α : Type} (fields : List (String × α)) :
    (sortedFields fields).Perm fields :=
  List.perm_insertionSort _ fields

/-- Where no key comes twice, the order of the fields does not matter. -/
theorem get?_eq_some_iff {fields : List (String × Json)} (h : (fields.map Prod.fst).Nodup)
    {name : String} {value : Json} :
    Json.get? fields name = some value ↔ (name, value) ∈ fields := by
  induction fields with
  | nil => simp [Json.get?]
  | cons f fields ih =>
    obtain ⟨key, first⟩ := f
    simp only [List.map_cons, List.nodup_cons] at h
    by_cases hkey : key = name
    · subst hkey
      have hnot : (key, value) ∉ fields := fun hmem =>
        h.1 (List.mem_map.2 ⟨(key, value), hmem, rfl⟩)
      simp [Json.get?, hnot, eq_comm]
    · have := ih h.2
      simp only [Json.get?, List.find?_cons, hkey, decide_false] at this ⊢
      rw [this]
      simp [Ne.symm hkey]

theorem get?_sortedFields {fields : List (String × Json)} (h : (fields.map Prod.fst).Nodup)
    (name : String) : Json.get? (sortedFields fields) name = Json.get? fields name := by
  have hperm := sortedFields_perm fields
  have hsorted : ((sortedFields fields).map Prod.fst).Nodup := (hperm.map _).nodup_iff.2 h
  apply Option.ext
  intro value
  rw [get?_eq_some_iff hsorted, get?_eq_some_iff h, hperm.mem_iff]

theorem hasKeys_sortedFields (fields : List (String × Json)) (names : List String) :
    Json.hasKeys (sortedFields fields) names = Json.hasKeys fields names := by
  have hperm := sortedFields_perm fields
  have hkeys := hperm.map Prod.fst
  rw [Bool.eq_iff_iff]
  simp only [Json.hasKeys, Bool.and_eq_true, List.all_eq_true, decide_eq_true_eq, hperm.mem_iff,
    hkeys.mem_iff]

/-- `_mapping(value, keys)`. -/
def mapping (value : Json) (keys : List String) : Option (List (String × Json)) :=
  match value with
  | .obj fields => if Json.hasKeys fields keys then some fields else none
  | _ => none

/-- The keys of an object read back; each of them is then found by its name. -/
theorem mapping_object (fields : List (String × Doc)) (keys : List String)
    (hkeys : fields.map Prod.fst = keys) :
    mapping (Doc.object fields).json keys =
      some (sortedFields (fields.map fun f => (f.1, f.2.json))) := by
  have hall : Json.hasKeys (fields.map fun f => (f.1, f.2.json)) keys = true := by
    subst hkeys
    simp only [Json.hasKeys, Bool.and_eq_true, List.all_eq_true, decide_eq_true_eq,
      List.map_map]
    refine ⟨?_, fun name h => h⟩
    rintro f hf
    obtain ⟨g, hg, rfl⟩ := List.mem_map.1 hf
    exact List.mem_map.2 ⟨g, hg, rfl⟩
  rw [Doc.json_object, mapping, hasKeys_sortedFields, if_pos hall]

theorem get?_fields {fields : List (String × Doc)} (h : (fields.map Prod.fst).Nodup)
    (name : String) (value : Doc) (hmem : (name, value) ∈ fields) :
    Json.get? (sortedFields (fields.map fun f => (f.1, f.2.json))) name = some value.json := by
  have hkeys : ((fields.map fun f => (f.1, f.2.json)).map Prod.fst).Nodup := by
    rw [List.map_map]
    exact h
  rw [get?_sortedFields hkeys, get?_eq_some_iff hkeys]
  exact List.mem_map.2 ⟨(name, value), hmem, rfl⟩

/-- `read(item[name])`. -/
def readField {α : Type} (read : Json → Option α) (item : List (String × Json))
    (name : String) : Option α :=
  (Json.get? item name).bind read

theorem readField_fields {α : Type} {read : Json → Option α} {fields : List (String × Doc)}
    (h : (fields.map Prod.fst).Nodup) (name : String) (value : Doc)
    (hmem : (name, value) ∈ fields) {a : α} (hread : read value.json = some a) :
    readField read (sortedFields (fields.map fun f => (f.1, f.2.json))) name = some a := by
  rw [readField, get?_fields h name value hmem]
  exact hread

/-- The elements of a list, each of them read. -/
def readAll {α : Type} (read : Json → Option α) : Json → Option (List α)
  | .arr items => items.mapM read
  | _ => none

theorem readAll_array {α : Type} {read : Json → Option α} {doc : α → Doc} {values : List α}
    (h : ∀ a ∈ values, read (doc a).json = some a) :
    readAll read (Doc.array (values.map doc)).json = some values := by
  rw [Doc.json_array, readAll]
  induction values with
  | nil => rfl
  | cons a values ih =>
    have ha := h a (by simp)
    have hrest := ih fun b hb => h b (by simp [hb])
    simp only [List.map_cons, List.mapM_cons, ha, hrest]
    rfl

/-- `None if value is None else read(value)`. -/
def readOrNull {α : Type} (read : Json → Option α) : Json → Option (Option α)
  | .null => some none
  | value => (read value).map some

theorem readOrNull_orNull {α : Type} {read : Json → Option α} {doc : α → Doc}
    (h : ∀ a, read (doc a).json = some a) (hdoc : ∀ a, (doc a).json ≠ .null)
    (value : Option α) : readOrNull read (Doc.orNull doc value).json = some value := by
  cases value with
  | none => rfl
  | some a =>
    have ha := h a
    have hne := hdoc a
    simp only [Doc.orNull]
    unfold readOrNull
    split
    · contradiction
    · rw [ha]
      rfl

theorem json_object_ne_null (fields : List (String × Doc)) :
    (Doc.object fields).json ≠ .null := by
  rw [Doc.json_object]
  exact nofun

theorem json_array_ne_null (items : List Doc) : (Doc.array items).json ≠ .null := by
  rw [Doc.json_array]
  exact nofun

def readText : Json → Option String
  | .str value => some value
  | _ => none

@[simp] theorem readText_string (s : String) :
    readText (Doc.string s.toList).json = some s := by
  simp [Doc.json, readText]

/-- `type(value) is int`, where only a natural number can pass what follows. -/
def readNat : Json → Option Nat
  | .int (.ofNat value) => some value
  | _ => none

@[simp] theorem readNat_number (n : Nat) : readNat (Doc.number n).json = some n := rfl

def readBool : Json → Option Bool
  | .bool value => some value
  | _ => none

@[simp] theorem readBool_bool (b : Bool) : readBool (Doc.bool b).json = some b := rfl

/-- The characters that `str.splitlines` ends a line at. -/
def isLineBreak (c : Char) : Bool :=
  let n := c.toNat
  (0x0A ≤ n && n ≤ 0x0D) || (0x1C ≤ n && n ≤ 0x1E) || n == 0x85 || n == 0x2028 || n == 0x2029

/-- `len(value.splitlines())`. -/
def lineCount : Text → Nat
  | [] => 0
  | '\r' :: '\n' :: rest => 1 + lineCount rest
  | c :: rest => if isLineBreak c then 1 + lineCount rest else max 1 (lineCount rest)

theorem not_isLineBreak_of_isPrintable {c : Char} (h : isPrintable c = true) :
    isLineBreak c = false := by
  simp only [isPrintable, Bool.and_eq_true, decide_eq_true_eq] at h
  simp only [isLineBreak, Bool.or_eq_false_iff, Bool.and_eq_false_iff, decide_eq_false_iff_not,
    beq_eq_false_iff_ne, ne_eq]
  omega

theorem lineCount_cons {c : Char} (h : isPrintable c = true) (rest : Text) :
    lineCount (c :: rest) = max 1 (lineCount rest) := by
  have hbreak := not_isLineBreak_of_isPrintable h
  rw [lineCount]
  · simp [hbreak]
  · rintro rest rfl
    simp [isPrintable] at h

/-- Printable text with a line feed after it is one line. -/
theorem lineCount_line {t : Text} (h : ∀ c ∈ t, isPrintable c = true) :
    lineCount (t ++ ['\n']) = 1 := by
  induction t with
  | nil => rfl
  | cons c t ih =>
    rw [List.cons_append, lineCount_cons (h c (by simp)), ih fun d hd => h d (by simp [hd])]
    rfl

/-- `value.endswith("\n") and len(value.splitlines()) == 1`. -/
def isLine (value : Text) : Bool := value.getLast? = some '\n' && lineCount value = 1

theorem isLine_append {t : Text} (h : ∀ c ∈ t, isPrintable c = true) :
    isLine (t ++ ['\n']) = true := by
  simp [isLine, lineCount_line h]

/-- `value[len(front):]` where `value.startswith(front)`. -/
def afterFront (front value : Text) : Option Text := value.dropPrefix? front

@[simp] theorem afterFront_append (front t : Text) : afterFront front (front ++ t) = some t :=
  List.dropPrefix?_append_of_beq t (beq_self_eq_true front)

/-- A versioned cursor: a document of bounded length behind a fixed front. The
writer may fail, and the reader may have cursors inside the document to read. -/
structure CursorFormat (α : Type) where
  front : Text
  limit : Nat
  doc : α → Option Doc
  read : JsonReader → Json → Option α

namespace CursorFormat

variable {α : Type} {f : CursorFormat α} {r : JsonReader} {a : α} {value : Text}

/-- `to_cursor`, with `none` where the text would be too long. -/
def encode (f : CursorFormat α) (a : α) : Option Text := do
  let d ← f.doc a
  if (f.front ++ d.text).length ≤ f.limit then some (f.front ++ d.text) else none

/-- `from_cursor`: what was read has to be written as the very same text. -/
def decode (f : CursorFormat α) (r : JsonReader) (value : Text) : Option α := do
  let payload ← afterFront f.front value
  if payload.length ≤ f.limit then do
    let a ← (r.load payload).bind (f.read r)
    if f.encode a = some value then some a else none
  else none

/-- The reader takes the document of the value apart again. -/
def Reads (f : CursorFormat α) (r : JsonReader) (a : α) : Prop :=
  ∀ d, f.doc a = some d → d.keysOnce = true ∧ f.read r d.json = some a

theorem encode_eq_some_iff :
    f.encode a = some value ↔
      ∃ d, f.doc a = some d ∧ value = f.front ++ d.text ∧ value.length ≤ f.limit := by
  simp only [encode, Option.bind_eq_bind, Option.bind_eq_some_iff]
  refine exists_congr fun d => and_congr_right fun _ => ?_
  by_cases h : (f.front ++ d.text).length ≤ f.limit
  · rw [if_pos h, Option.some.injEq]
    constructor
    · rintro rfl
      exact ⟨rfl, h⟩
    · rintro ⟨rfl, -⟩
      rfl
  · rw [if_neg h]
    constructor
    · nofun
    · rintro ⟨rfl, hle⟩
      exact absurd hle h

theorem decode_encode (hreads : f.Reads r a) (h : f.encode a = some value) :
    f.decode r value = some a := by
  obtain ⟨d, hd, rfl, hlength⟩ := encode_eq_some_iff.1 h
  obtain ⟨honce, hread⟩ := hreads d hd
  have hpayload : d.text.length ≤ f.limit := by
    rw [List.length_append] at hlength
    omega
  rw [decode, afterFront_append]
  simp only [Option.bind_eq_bind, Option.bind_some, hpayload, if_true, r.load_text d honce,
    hread, h]

theorem encode_of_decode (h : f.decode r value = some a) : f.encode a = some value := by
  simp only [decode, Option.bind_eq_bind, Option.bind_eq_some_iff] at h
  obtain ⟨payload, -, h⟩ := h
  split at h
  · simp only [Option.bind_eq_some_iff] at h
    obtain ⟨b, -, h⟩ := h
    split at h
    · rename_i htext
      cases h
      exact htext
    · cases h
  · cases h

/-- What is accepted came out of the reader. -/
theorem read_of_decode (h : f.decode r value = some a) : ∃ item, f.read r item = some a := by
  simp only [decode, Option.bind_eq_bind, Option.bind_eq_some_iff] at h
  obtain ⟨payload, -, h⟩ := h
  split at h
  · simp only [Option.bind_eq_some_iff] at h
    obtain ⟨b, ⟨item, -, hread⟩, h⟩ := h
    split at h
    · cases h
      exact ⟨item, hread⟩
    · cases h
  · cases h

/-- A cursor inside another document. -/
def readCursor (f : CursorFormat α) (r : JsonReader) (item : Json) : Option α :=
  (readText item).bind fun value => f.decode r value.toList

theorem readCursor_string (hreads : f.Reads r a) (h : f.encode a = some value) :
    f.readCursor r (Doc.string value).json = some a := by
  simp [readCursor, readText, Doc.json, decode_encode hreads h]

end CursorFormat

end MediaSync.JsonText
