import MediaSync.Observability.LogCodec
import MediaSync.Observability.LogCursors

/-!
# Names of segments

The name of a segment is made from its header, and the pattern of the store
takes it for one. The part before the suffix is of one length, so the names are
in the order of these parts, whether the segments are sealed or not.
-/

namespace MediaSync.Observability

open Python JsonText

/-- What is asked of each place of a text. -/
def Shaped (t : Text) (shape : List (Option Char)) : Prop :=
  List.Forall₂ (fun c place => match place with
    | some p => c = p
    | none => c.isDigit = true) t shape

theorem forall₂_of_zipIdx {α β : Type} {t : List α} {p : α × Nat → Bool} {R : α → β → Prop}
    {place : Nat → β} (h : t.zipIdx.all p = true) (hR : ∀ c i, p (c, i) = true → R c (place i)) :
    List.Forall₂ R t ((List.range t.length).map place) := by
  rw [List.forall₂_iff_get]
  refine ⟨by simp, fun i hi hi' => ?_⟩
  have hmem : (t.get ⟨i, hi⟩, i) ∈ t.zipIdx := by
    rw [List.mem_zipIdx_iff_getElem?]
    simp [hi]
  have := hR _ _ (List.all_eq_true.1 h _ hmem)
  simpa using this

theorem zipIdx_of_forall₂ {α β : Type} {t : List α} {p : α × Nat → Bool} {R : α → β → Prop}
    {places : List β} (h : List.Forall₂ R t places)
    (hR : ∀ c i b, places[i]? = some b → R c b → p (c, i) = true) : t.zipIdx.all p = true := by
  rw [List.all_eq_true]
  rintro ⟨c, i⟩ hmem
  rw [List.mem_zipIdx_iff_getElem?] at hmem
  obtain ⟨hi, hc⟩ := List.getElem?_eq_some_iff.1 hmem
  obtain ⟨hlen, hget⟩ := List.forall₂_iff_get.1 h
  have hi' : i < places.length := hlen ▸ hi
  refine hR c i places[i] (List.getElem?_eq_getElem hi') ?_
  have := hget i hi hi'
  simpa [hc] using this

/-- The punctuation of a canonical time stands at fixed places. -/
def timeShape : List (Option Char) :=
  (List.range 27).map fun i => (timePunctuation.find? (fun p => p.1 = i)).map Prod.snd

/-- What is left of it in a name. -/
def stampShape : List (Option Char) :=
  (List.range 22).map fun i => if i = 8 then some 'T' else if i = 21 then some 'Z' else none

theorem shaped_time {value : String} (h : isCanonicalTime value = true) :
    Shaped value.toList timeShape := by
  simp only [isCanonicalTime, Bool.and_eq_true, decide_eq_true_eq] at h
  obtain ⟨⟨hlen, hall⟩, -⟩ := h
  rw [timeShape, ← hlen]
  refine forall₂_of_zipIdx hall fun c i hc => ?_
  dsimp only at hc
  cases hp : timePunctuation.find? (fun p => p.1 = i) with
  | none =>
    rw [hp] at hc
    exact hc
  | some p =>
    rw [hp] at hc
    have hcp : c = p.2 := of_decide_eq_true hc
    exact hcp

theorem digit_keeps {c : Char} (h : c.isDigit = true) : isStampPunctuation c = false := by
  cases hp : isStampPunctuation c with
  | false => rfl
  | true =>
    simp only [isStampPunctuation, Bool.or_eq_true, decide_eq_true_eq] at hp
    rcases hp with (rfl | rfl) | rfl
    · exact absurd h (by decide)
    · exact absurd h (by decide)
    · exact absurd h (by decide)

/-- The punctuation goes from the text and from its shape. -/
theorem Shaped.filter {t : Text} {shape : List (Option Char)} (h : Shaped t shape) :
    Shaped (t.filter fun c => !isStampPunctuation c)
      (shape.filter fun place => place.all fun c => !isStampPunctuation c) := by
  induction h with
  | nil => exact .nil
  | @cons c place t shape hc _ ih =>
    cases place with
    | none =>
      rw [List.filter_cons_of_pos (by rw [digit_keeps hc]; rfl), List.filter_cons_of_pos rfl]
      exact .cons hc ih
    | some p =>
      obtain rfl : c = p := hc
      cases hp : isStampPunctuation c with
      | true =>
        rw [List.filter_cons_of_neg (by simp [hp]), List.filter_cons_of_neg (by simp [hp])]
        exact ih
      | false =>
        rw [List.filter_cons_of_pos (by simp [hp]), List.filter_cons_of_pos (by simp [hp])]
        exact .cons rfl ih

theorem shaped_stamp {value : String} (h : isCanonicalTime value = true) :
    Shaped (stamp value).toList stampShape := by
  have hshape : timeShape.filter (fun place => place.all fun c => !isStampPunctuation c) =
      stampShape := by decide
  rw [stamp, String.toList_ofList, ← hshape]
  exact (shaped_time h).filter

theorem isStamp_stamp {value : String} (h : isCanonicalTime value = true) :
    isStamp (stamp value).toList = true := by
  have hshape := shaped_stamp h
  rw [isStamp, Bool.and_eq_true]
  refine ⟨decide_eq_true hshape.length_eq, zipIdx_of_forall₂ hshape fun c i place hi hc => ?_⟩
  rw [stampShape, List.getElem?_map, Option.map_eq_some_iff] at hi
  obtain ⟨j, hj, rfl⟩ := hi
  obtain ⟨_, rfl⟩ := List.getElem?_eq_some_iff.1 hj
  rw [List.getElem_range] at hc
  dsimp only at hc ⊢
  split_ifs at hc ⊢
  · exact decide_eq_true hc
  · exact decide_eq_true hc
  · exact hc

theorem length_stamp {value : String} (h : isCanonicalTime value = true) :
    (stamp value).toList.length = 22 := (shaped_stamp h).length_eq

theorem Shaped.printable {t : Text} {shape : List (Option Char)} (h : Shaped t shape)
    (hshape : ∀ place ∈ shape, place.all isPrintable = true) : ∀ c ∈ t, isPrintable c = true := by
  induction h with
  | nil => simp
  | @cons c place t shape hc _ ih =>
    intro d hd
    rcases List.mem_cons.1 hd with rfl | hd
    · have hplace := hshape place List.mem_cons_self
      cases place with
      | none => exact isPrintable_of_isPlain (isPlain_digit hc)
      | some p =>
        obtain rfl : d = p := hc
        exact hplace
    · exact ih (fun place hp => hshape place (List.mem_cons_of_mem _ hp)) d hd

theorem length_uuid {value : String} (h : isCanonicalUuid value = true) :
    value.toList.length = 36 := by
  simp only [isCanonicalUuid, Bool.and_eq_true, decide_eq_true_eq] at h
  exact h.1

theorem isHexDashes_uuid {value : String} (h : isCanonicalUuid value = true) :
    isHexDashes value.toList = true := by
  rw [isHexDashes, Bool.and_eq_true]
  refine ⟨decide_eq_true (length_uuid h), List.all_eq_true.2 ?_⟩
  simp only [isCanonicalUuid, Bool.and_eq_true, decide_eq_true_eq] at h
  refine all_of_zipIdx h.2 fun c i hc => ?_
  dsimp only at hc
  split_ifs at hc with hi
  · rw [of_decide_eq_true hc]
    rfl
  · rw [hc]
    rfl

theorem uuid_printable {value : String} (h : isCanonicalUuid value = true) :
    ∀ c ∈ value.toList, isPrintable c = true := by
  have hall := isHexDashes_uuid h
  rw [isHexDashes, Bool.and_eq_true, List.all_eq_true] at hall
  intro c hc
  rcases Bool.or_eq_true_iff.1 (hall.2 c hc) with hhex | hdash
  · exact isPrintable_of_isPlain (isPlain_hexDigit hhex)
  · rw [of_decide_eq_true hdash]
    decide

namespace SegmentHeader

/-- The name without its suffix. -/
def stemText (h : SegmentHeader) : Text :=
  ['l', 'o', 'g', '-'] ++ (stamp h.createdAt).toList ++ ['-'] ++ h.writerId.toList ++ ['-'] ++
    h.segmentId.toList

def suffix (isSealed : Bool) : Text :=
  if isSealed then ['.', 'j', 's', 'o', 'n', 'l'] else ['.', 'o', 'p', 'e', 'n']

theorem name_toList (h : SegmentHeader) (isSealed : Bool) :
    (h.name isSealed).text.toList = h.stemText ++ suffix isSealed := by
  cases isSealed with
  | true => simp [name, LogName.text, stemText, suffix]
  | false => simp [name, LogName.text, stemText, suffix]

variable {h : SegmentHeader}

/-- All stems have one length, so none is the beginning of another. -/
theorem Valid.stem_length (hvalid : h.Valid) : h.stemText.length = 100 := by
  have htime := length_stamp hvalid.time
  have hwriter := length_uuid hvalid.writer
  have hsegment := length_uuid hvalid.segment
  simp only [stemText, List.length_append, htime, hwriter, hsegment, List.length_singleton]
  rfl

theorem Valid.name_printable (hvalid : h.Valid) (isSealed : Bool) :
    ∀ c ∈ (h.name isSealed).text.toList, isPrintable c = true := by
  have hstamp := (shaped_stamp hvalid.time).printable (List.all_eq_true.1 (by decide))
  have hends : ∀ c ∈ suffix isSealed, isPrintable c = true := by
    cases isSealed with
    | true => exact List.all_eq_true.1 (by decide)
    | false => exact List.all_eq_true.1 (by decide)
  intro c hc
  rw [name_toList, stemText] at hc
  simp only [List.mem_append] at hc
  rcases hc with ((((((hc | hc) | hc) | hc) | hc) | hc)) | hc
  · exact List.all_eq_true.1 (by decide : ['l', 'o', 'g', '-'].all isPrintable = true) c hc
  · exact hstamp c hc
  · exact List.all_eq_true.1 (by decide : ['-'].all isPrintable = true) c hc
  · exact uuid_printable hvalid.writer c hc
  · exact List.all_eq_true.1 (by decide : ['-'].all isPrintable = true) c hc
  · exact uuid_printable hvalid.segment c hc
  · exact hends c hc

theorem stem_name (h : SegmentHeader) (isSealed : Bool) :
    stem (h.name isSealed).text = h.stemText := by
  have hsuffix : ∃ rest, suffix isSealed = '.' :: rest ∧ '.' ∉ rest := by
    cases isSealed with
    | true => exact ⟨['j', 's', 'o', 'n', 'l'], rfl, by decide⟩
    | false => exact ⟨['o', 'p', 'e', 'n'], rfl, by decide⟩
  obtain ⟨rest, hrest, hdot⟩ := hsuffix
  have hdrop : (h.name isSealed).text.toList.reverse.dropWhile (· ≠ '.') =
      '.' :: h.stemText.reverse := by
    rw [name_toList, hrest, List.reverse_append, List.reverse_cons, List.append_assoc,
      List.dropWhile_append_of_pos]
    · simp
    · intro c hc
      refine decide_eq_true ?_
      rintro rfl
      exact hdot (List.mem_reverse.1 hc)
  rw [stem, hdrop]
  simp

/-- The name that a header gives is accepted as the name of a segment. -/
theorem Valid.isSegmentName (hvalid : h.Valid) (isSealed : Bool) :
    isSegmentName (h.name isSealed).text = true := by
  have htime := length_stamp hvalid.time
  have hwriter := length_uuid hvalid.writer
  have hsegment := length_uuid hvalid.segment
  have hstamp := isStamp_stamp hvalid.time
  have hw := isHexDashes_uuid hvalid.writer
  have hs := isHexDashes_uuid hvalid.segment
  have hends : suffix isSealed = ".open".toList ∨ suffix isSealed = ".jsonl".toList := by
    cases isSealed with
    | true => exact .inr rfl
    | false => exact .inl rfl
  rw [Observability.isSegmentName, name_toList, stemText]
  generalize (stamp h.createdAt).toList = a at htime hstamp
  generalize h.writerId.toList = b at hwriter hw
  generalize h.segmentId.toList = c at hsegment hs
  generalize suffix isSealed = e at hends
  have hsplit : ['l', 'o', 'g', '-'] ++ a ++ ['-'] ++ b ++ ['-'] ++ c ++ e =
      ['l', 'o', 'g', '-'] ++ (a ++ (['-'] ++ (b ++ (['-'] ++ (c ++ e))))) := by simp
  have h4 : (['l', 'o', 'g', '-'] ++ (a ++ (['-'] ++ (b ++ (['-'] ++ (c ++ e)))))).drop 4 =
      a ++ (['-'] ++ (b ++ (['-'] ++ (c ++ e)))) := rfl
  have h0 : (['l', 'o', 'g', '-'] ++ (a ++ (['-'] ++ (b ++ (['-'] ++ (c ++ e)))))).take 4 =
      ['l', 'o', 'g', '-'] := rfl
  generalize ['l', 'o', 'g', '-'] ++ (a ++ (['-'] ++ (b ++ (['-'] ++ (c ++ e))))) = cs at *
  have h26 : cs.drop 26 = ['-'] ++ (b ++ (['-'] ++ (c ++ e))) := by
    rw [← List.drop_drop (j := 4) (i := 22), h4]
    exact List.drop_left' htime
  have h27 : cs.drop 27 = b ++ (['-'] ++ (c ++ e)) := by
    rw [← List.drop_drop (j := 26) (i := 1), h26]
    rfl
  have h63 : cs.drop 63 = ['-'] ++ (c ++ e) := by
    rw [← List.drop_drop (j := 27) (i := 36), h27]
    exact List.drop_left' hwriter
  have h64 : cs.drop 64 = c ++ e := by
    rw [← List.drop_drop (j := 63) (i := 1), h63]
    rfl
  have h100 : cs.drop 100 = e := by
    rw [← List.drop_drop (j := 64) (i := 36), h64]
    exact List.drop_left' hsegment
  rw [hsplit]
  simp only [h0, h4, h26, h27, h63, h64, h100, List.take_left' htime, List.take_left' hwriter,
    List.take_left' hsegment, hstamp, hw, hs, Bool.and_eq_true, decide_eq_true_eq,
    Bool.or_eq_true, hends, and_true, true_and]
  exact ⟨rfl, rfl⟩

theorem append_lt_append {s t : Text} (x y : Text) (hlen : s.length = t.length) (hst : s < t) :
    s ++ x < t ++ y := by
  induction s generalizing t with
  | nil =>
    rw [List.length_eq_zero_iff.1 hlen.symm] at hst
    exact absurd hst (List.lt_irrefl [])
  | cons d s ih =>
    cases t with
    | nil => cases hlen
    | cons e t =>
      rw [List.cons_append, List.cons_append, List.cons_lt_cons_iff]
      rcases List.cons_lt_cons_iff.1 hst with h | ⟨h, hst⟩
      · exact .inl h
      · exact .inr ⟨h, ih (Nat.succ.inj hlen) hst⟩

/-- Names are in the order of their stems. -/
theorem Valid.name_lt {g : SegmentHeader} (hg : g.Valid) (hvalid : h.Valid)
    (hlt : g.stemText < h.stemText) (b c : Bool) : (g.name b).text < (h.name c).text := by
  change (g.name b).text.toList < (h.name c).text.toList
  rw [name_toList, name_toList]
  exact append_lt_append _ _ (hg.stem_length.trans hvalid.stem_length.symm) hlt

end SegmentHeader

end MediaSync.Observability
