import MediaSync.Foundation.JsonDoc

/-!
# The size of a document

How many characters a document takes, computed from its parts. The same count
serves for a document inside a string of another one, where each character of
it weighs as much as its escape takes; nothing but quotes, backslashes and
their escapes then weighs more than one.
-/

namespace MediaSync.JsonText

def total (m : Char → Nat) (t : Text) : Nat := (t.map m).sum

@[simp] theorem total_nil (m : Char → Nat) : total m [] = 0 := rfl

@[simp] theorem total_cons (m : Char → Nat) (c : Char) (t : Text) :
    total m (c :: t) = m c + total m t := by simp [total]

@[simp] theorem total_append (m : Char → Nat) (t u : Text) :
    total m (t ++ u) = total m t + total m u := by simp [total]

@[simp] theorem total_replicate (m : Char → Nat) (n : Nat) (c : Char) :
    total m (List.replicate n c) = n * m c := by simp [total]

theorem total_flatMap (m : Char → Nat) (f : Char → Text) (t : Text) :
    total m (t.flatMap f) = total (fun c => total m (f c)) t := by
  induction t with
  | nil => rfl
  | cons c t ih => rw [List.flatMap_cons, total_append, total_cons, ih]

/-- Every character counts once. -/
def plain (_ : Char) : Nat := 1

/-- Every character counts as what it takes inside a string. -/
def escaped (c : Char) : Nat := (escape c).length

theorem total_plain (t : Text) : total plain t = t.length := by
  induction t with
  | nil => rfl
  | cons c t ih =>
    rw [total_cons, ih, List.length_cons, plain]
    omega

/-- The characters of the syntax weigh one. -/
def CountsPlain (m : Char → Nat) : Prop := ∀ c, isPlain c = true → m c = 1

theorem countsPlain_plain : CountsPlain plain := fun _ _ => rfl

theorem countsPlain_escaped : CountsPlain escaped := by
  intro c hc
  rw [escaped, escape_of_isPlain hc]
  rfl

theorem CountsPlain.total {m : Char → Nat} (hm : CountsPlain m) {t : Text}
    (h : ∀ c ∈ t, isPlain c = true) : total m t = t.length := by
  induction t with
  | nil => rfl
  | cons c t ih =>
    rw [total_cons, hm c (h c (by simp)), ih fun d hd => h d (by simp [hd]), List.length_cons]
    omega

theorem isPlain_of_digit {c : Char} (h : c.isDigit = true) : isPlain c = true := by
  simp only [Char.isDigit, Bool.and_eq_true, decide_eq_true_eq] at h
  have hlow : 48 ≤ c.toNat := h.1
  have hhigh : c.toNat ≤ 57 := h.2
  simp only [isPlain, isPrintable, Bool.and_eq_true, decide_eq_true_eq, bne_iff_ne, ne_eq]
  omega

theorem isPlain_of_mem_number {n : Nat} {c : Char} (h : c ∈ number n) : isPlain c = true :=
  isPlain_of_digit (Nat.isDigit_of_mem_toDigits (by decide) (by decide) h)

/-- The weight of a string, given the weight of a character. -/
def stringWeight (m : Char → Nat) (s : Text) : Nat :=
  total (fun c => total m (escape c)) s + 2 * m '"'

theorem total_string (m : Char → Nat) (s : Text) : total m (string s) = stringWeight m s := by
  simp only [string, List.cons_append, total_cons, total_append, total_flatMap, total_nil,
    stringWeight]
  omega

theorem total_joined {m : Char → Nat} (hm : CountsPlain m) (parts : List Text) :
    total m (joined parts) = (parts.map (total m)).sum + (parts.length - 1) := by
  have hcomma : m ',' = 1 := hm _ (by decide)
  induction parts with
  | nil => rfl
  | cons part rest ih =>
    cases rest with
    | nil => simp [joined]
    | cons next rest =>
      have hsplit : joined (part :: next :: rest) = part ++ ',' :: joined (next :: rest) := rfl
      rw [hsplit, total_append, total_cons, ih, hcomma]
      simp only [List.map_cons, List.sum_cons, List.length_cons]
      omega

theorem total_array {m : Char → Nat} (hm : CountsPlain m) (items : List Text) :
    total m (array items) = (items.map (total m)).sum + (items.length - 1) + 2 := by
  have hopen : m '[' = 1 := hm _ (by decide)
  have hclose : m ']' = 1 := hm _ (by decide)
  simp only [array, List.cons_append, total_cons, total_append, total_nil, total_joined hm, hopen,
    hclose]
  omega

/-- The weight of a field, given that of its value. -/
def fieldWeight (m : Char → Nat) (key : String) (value : Nat) : Nat :=
  stringWeight m key.toList + value + 1

theorem total_field {m : Char → Nat} (hm : CountsPlain m) (f : String × Text) :
    total m (field f) = fieldWeight m f.1 (total m f.2) := by
  have hcolon : m ':' = 1 := hm _ (by decide)
  rw [field, total_append, total_cons, total_string, hcolon, fieldWeight]
  omega

/-- The order of the fields does not matter. -/
theorem total_object {m : Char → Nat} (hm : CountsPlain m) (fields : List (String × Text)) :
    total m (object fields) =
      (fields.map fun f => fieldWeight m f.1 (total m f.2)).sum + (fields.length - 1) + 2 := by
  have hopen : m '{' = 1 := hm _ (by decide)
  have hclose : m '}' = 1 := hm _ (by decide)
  have hperm := List.perm_insertionSort (fun f g : String × Text => f.1 ≤ g.1) fields
  have hsum := (hperm.map fun f => fieldWeight m f.1 (total m f.2)).sum_nat
  simp only [object, List.cons_append, total_cons, total_append, total_nil, total_joined hm, hopen,
    hclose, List.map_map, Function.comp_def, List.length_map, hperm.length_eq, total_field hm, hsum]
  omega

namespace Doc

mutual

/-- The characters that a document takes, each of them with its weight. -/
def weight (m : Char → Nat) : Doc → Nat
  | null => 4
  | bool value => if value then 4 else 5
  | number n => (JsonText.number n).length
  | string s => stringWeight m s
  | array items => weights m items + (items.length - 1) + 2
  | object fields => fieldWeights m fields + (fields.length - 1) + 2

def weights (m : Char → Nat) : List Doc → Nat
  | [] => 0
  | item :: items => item.weight m + weights m items

def fieldWeights (m : Char → Nat) : List (String × Doc) → Nat
  | [] => 0
  | (key, value) :: fields => fieldWeight m key (value.weight m) + fieldWeights m fields

end

mutual

theorem total_text {m : Char → Nat} (hm : CountsPlain m) :
    ∀ d : Doc, total m d.text = d.weight m
  | null => hm.total (List.all_eq_true.1 (by decide))
  | bool true => hm.total (List.all_eq_true.1 (by decide))
  | bool false => hm.total (List.all_eq_true.1 (by decide))
  | number n => hm.total fun _ => isPlain_of_mem_number
  | string s => total_string m s
  | array items => by
    rw [text, total_array hm, total_texts hm items, texts_eq_map, List.length_map, weight]
  | object fields => by
    rw [text, total_object hm, total_fieldTexts hm fields, fieldTexts_eq_map, List.length_map,
      weight]

theorem total_texts {m : Char → Nat} (hm : CountsPlain m) :
    ∀ items : List Doc, ((texts items).map (total m)).sum = weights m items
  | [] => rfl
  | item :: items => by
    rw [texts, List.map_cons, List.sum_cons, total_text hm item, total_texts hm items, weights]

theorem total_fieldTexts {m : Char → Nat} (hm : CountsPlain m) :
    ∀ fields : List (String × Doc),
      ((fieldTexts fields).map fun f => fieldWeight m f.1 (total m f.2)).sum =
        fieldWeights m fields
  | [] => rfl
  | (key, value) :: fields => by
    rw [fieldTexts, List.map_cons, List.sum_cons, total_text hm value, total_fieldTexts hm fields,
      fieldWeights]

end

/-- The length of a document from its parts. -/
theorem length_text (d : Doc) : d.text.length = d.weight plain := by
  rw [← total_plain, total_text countsPlain_plain]

theorem fieldWeights_append (m : Char → Nat) (fields more : List (String × Doc)) :
    fieldWeights m (fields ++ more) = fieldWeights m fields + fieldWeights m more := by
  induction fields with
  | nil => simp [fieldWeights]
  | cons f fields ih =>
    obtain ⟨key, value⟩ := f
    rw [List.cons_append, fieldWeights, fieldWeights, ih]
    omega

/-- A document inside a string: the front, and the document with its quotes escaped. -/
theorem stringWeight_nested {front : Text} (hfront : ∀ c ∈ front, isPlain c = true) (d : Doc) :
    stringWeight plain (front ++ d.text) = front.length + d.weight escaped + 2 := by
  have hescape : (fun c => total plain (escape c)) = escaped := funext fun c => total_plain _
  rw [stringWeight, hescape, total_append, countsPlain_escaped.total hfront,
    total_text countsPlain_escaped]
  rfl

end Doc

end MediaSync.JsonText
