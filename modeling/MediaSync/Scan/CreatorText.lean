import MediaSync.Scan.Creator

/-!
# The length of the published texts

Ids, digests and names are plain text of bounded length, so a published record
can only grow too long through its opaque cursors. Where each of them takes at
most five thousand characters as JSON, both limits of the record hold.
-/

namespace MediaSync.Scan

open JsonText

variable {p : CreatorPlatform}

/-- The digits and letters as ranges of code points. -/
theorem isAsciiAlphanum_iff (c : Char) :
    isAsciiAlphanum c = true ↔
      (48 ≤ c.toNat ∧ c.toNat ≤ 57) ∨ (65 ≤ c.toNat ∧ c.toNat ≤ 90) ∨
        (97 ≤ c.toNat ∧ c.toNat ≤ 122) := by
  have hc (d e : Char) : d ≤ e ↔ d.toNat ≤ e.toNat := Iff.rfl
  simp only [isAsciiAlphanum, isDigit, Bool.or_eq_true, Bool.and_eq_true, decide_eq_true_eq, hc,
    or_assoc]
  exact Iff.rfl

theorem isPlain_of_isAsciiAlphanum {c : Char} (h : isAsciiAlphanum c = true) :
    isPlain c = true := by
  rw [isAsciiAlphanum_iff] at h
  simp only [isPlain, isPrintable, Bool.and_eq_true, decide_eq_true_eq, bne_iff_ne, ne_eq]
  omega

theorem isAsciiAlphanum_of_isHex {c : Char} (h : isHex c = true) : isAsciiAlphanum c = true := by
  have hf : c ≤ 'f' → c ≤ 'z' := fun h => Char.le_trans h (by decide)
  simp only [isHex, isAsciiAlphanum, Bool.or_eq_true, Bool.and_eq_true, decide_eq_true_eq] at h ⊢
  rcases h with h | ⟨ha, h⟩
  · exact .inl (.inl h)
  · exact .inr ⟨ha, hf h⟩

theorem isPlain_of_isHex {c : Char} (h : isHex c = true) : isPlain c = true :=
  isPlain_of_isAsciiAlphanum (isAsciiAlphanum_of_isHex h)

theorem isPlain_of_isDigit {c : Char} (h : isDigit c = true) : isPlain c = true :=
  isPlain_of_isAsciiAlphanum (by simp [isAsciiAlphanum, h])

theorem fits_hexText {n : Nat} {s : String} (h : isHexText n s = true) :
    Fits (n + 2) (string s.toList) := by
  simp only [isHexText, Bool.and_eq_true, decide_eq_true_eq, List.all_eq_true] at h
  exact fits_string_plain (fun c hc => isPlain_of_isHex (h.2 c hc)) h.1.le

theorem fits_id {id : String} (h : p.validId id = true) : Fits 26 (string id.toList) := by
  cases p with
  | xhs => exact fits_hexText h
  | douyin =>
    simp only [CreatorPlatform.validId, Bool.and_eq_true, decide_eq_true_eq,
      List.all_eq_true] at h
    exact (fits_string_plain (fun c hc => isPlain_of_isDigit (h.2 c hc)) h.1.2).mono (by omega)

theorem fits_xsecSource {s : String} (h : isXsecSource s = true) :
    Fits 66 (string s.toList) := by
  simp only [isXsecSource, Bool.and_eq_true, decide_eq_true_eq, List.all_eq_true,
    Bool.or_eq_true] at h
  refine fits_string_plain ?_ h.1.2
  intro c hc
  rcases h.2 c hc with hc | rfl
  · exact isPlain_of_isAsciiAlphanum hc
  · decide

theorem fits_uuid (u : Uuid) : Fits 38 (string u.text) := by
  have hex : ∀ c ∈ u.hex, isPlain c = true := by
    intro c hc
    exact isPlain_of_isHex (List.all_eq_true.1 u.valid.2 c hc)
  refine fits_string_plain (n := 36) ?_ ?_
  · intro c hc
    simp only [Uuid.text, List.mem_append, List.mem_cons, or_assoc] at hc
    have dash : isPlain '-' = true := by decide
    rcases hc with hc | rfl | hc | rfl | hc | rfl | hc | rfl | hc
    · exact hex c (List.mem_of_mem_take hc)
    · exact dash
    · exact hex c (List.mem_of_mem_drop (List.mem_of_mem_take hc))
    · exact dash
    · exact hex c (List.mem_of_mem_drop (List.mem_of_mem_take hc))
    · exact dash
    · exact hex c (List.mem_of_mem_drop (List.mem_of_mem_take hc))
    · exact dash
    · exact hex c (List.mem_of_mem_drop hc)
  · have := u.valid.1
    simp only [Uuid.text, List.length_append, List.length_cons,
      List.length_take, List.length_drop]
    omega

theorem pageSize_le (p : CreatorPlatform) : p.pageSize ≤ 30 := by cases p <;> decide

theorem fits_listing (i : ListingIdentity p) : Fits 124 i.text := by
  have h : Fits (objectBound [(p.idField, 26), ("listing_sha256", 66)]) i.text :=
    fits_object (.cons ⟨rfl, fits_id i.valid.1⟩ (.cons ⟨rfl, fits_hexText i.valid.2⟩ .nil))
  exact h.mono (by cases p <;> decide)

theorem fits_identity (i : CreatorIdentity p) : Fits 288 i.text := by
  have hid := fits_id i.valid.1
  have hlisting := fits_hexText i.valid.2
  obtain ⟨⟨id, listing, valid⟩, token⟩ := i
  cases p with
  | xhs =>
    have h : Fits (objectBound [("note_id", 26), ("listing_sha256", 66), ("token_sha256", 66),
        ("xsec_source", 66)])
        (CreatorIdentity.text (p := .xhs) ⟨⟨id, listing, valid⟩, token⟩) :=
      fits_object (.cons ⟨rfl, hid⟩ (.cons ⟨rfl, hlisting⟩
        (.cons ⟨rfl, fits_hexText (XsecToken.valid token).1⟩
          (.cons ⟨rfl, fits_xsecSource (XsecToken.valid token).2⟩ .nil))))
    exact h.mono (by decide)
  | douyin =>
    have h : Fits (objectBound [("aweme_id", 26), ("listing_sha256", 66)])
        (CreatorIdentity.text (p := .douyin) ⟨⟨id, listing, valid⟩, token⟩) :=
      fits_object (.cons ⟨rfl, hid⟩ (.cons ⟨rfl, hlisting⟩ .nil))
    exact h.mono (by decide)

/-- A list of at most thirty texts. -/
theorem fits_items {items : List Text} {n : Nat} (h : ∀ t ∈ items, Fits n t)
    (hlen : items.length ≤ 30) : Fits (30 * (n + 1) + 2) (array items) :=
  (fits_array h).mono (by
    have := Nat.mul_le_mul_right (n + 1) hlen
    omega)

/-- A cursor that takes little room in the record. -/
def CursorFits (cursor : String) : Prop := (string cursor.toList).length ≤ 5000

theorem CursorFits.fits {cursor : String} (h : CursorFits cursor) :
    Fits 5000 (string cursor.toList) := ⟨string_printable _, h⟩

theorem fits_page {inputCursor nextCursor : String} {hasMore : Bool} {identities : List Text}
    {k n : Nat} (hinput : Fits k (string inputCursor.toList))
    (hnext : Fits k (string nextCursor.toList)) (hitems : Fits n (array identities)) :
    Fits (n + 2 * k + 65) (pageText inputCursor nextCursor hasMore identities) := by
  have h : Fits (objectBound [("input_cursor", k), ("next_cursor", k), ("has_more", 5),
      ("identities", n)]) (pageText inputCursor nextCursor hasMore identities) :=
    fits_object (.cons ⟨rfl, hinput⟩ (.cons ⟨rfl, hnext⟩
      (.cons ⟨rfl, fits_bool hasMore⟩ (.cons ⟨rfl, hitems⟩ .nil))))
  have hbound : objectBound [("input_cursor", k), ("next_cursor", k), ("has_more", 5),
      ("identities", n)] = (string "input_cursor".toList).length + k + 1 + 1 +
        ((string "next_cursor".toList).length + k + 1 + 1 +
          ((string "has_more".toList).length + 5 + 1 + 1 +
            ((string "identities".toList).length + n + 1 + 1 + 0))) + 2 := rfl
  have h1 : (string "input_cursor".toList).length = 14 := by decide
  have h2 : (string "next_cursor".toList).length = 13 := by decide
  have h3 : (string "has_more".toList).length = 10 := by decide
  have h4 : (string "identities".toList).length = 12 := by decide
  exact h.mono (by omega)

/-- The cursors that a state carries take at most so many characters as JSON. -/
structure CreatorScanFields.CursorsWithin (k : Nat) (f : CreatorScanFields p) : Prop where
  page : (string f.pageCursor.toList).length ≤ k
  next : ∀ w ∈ f.witness, (string w.nextCursor.toList).length ≤ k

/-- The cursors that a state carries. -/
structure CreatorScanFields.CursorsFit (f : CreatorScanFields p) : Prop where
  page : CursorFits f.pageCursor
  next : ∀ w ∈ f.witness, CursorFits w.nextCursor

structure CreatorPage.CursorsFit (page : CreatorPage p) : Prop where
  input : CursorFits page.inputCursor
  next : CursorFits page.nextCursor

theorem fits_witness {w : PageWitness p} {k : Nat} (hinput : Fits k (string w.inputCursor.toList))
    (hnext : Fits k (string w.nextCursor.toList)) : Fits (2 * k + 3820) w.text := by
  refine (fits_page (n := 30 * 125 + 2) hinput hnext (fits_items ?_ ?_)).mono (by omega)
  · intro t ht
    obtain ⟨i, -, rfl⟩ := List.mem_map.1 ht
    exact fits_listing i
  · simpa using w.valid.length.trans (pageSize_le p)

theorem CreatorPage.CursorsFit.fits {page : CreatorPage p} (h : page.CursorsFit) :
    Fits 18800 page.text := by
  refine (fits_page (n := 30 * 289 + 2) h.input.fits h.next.fits (fits_items ?_ ?_)).mono
    (by omega)
  · intro t ht
    obtain ⟨i, -, rfl⟩ := List.mem_map.1 ht
    exact fits_identity i
  · have := page.valid.length
    have := pageSize_le p
    simp only [List.length_map] at *
    omega

theorem fits_outcome (o : CreatorOutcome p) : Fits 340 o.text := by
  have hstatus : Fits 20 o.status.text := by
    cases o.status <;> exact ⟨string_printable _, by decide⟩
  have h : Fits (objectBound [("identity", 288), ("status", 20)]) o.text :=
    fits_object (.cons ⟨rfl, fits_identity o.identity⟩ (.cons ⟨rfl, hstatus⟩ .nil))
  exact h.mono (by decide)

theorem fits_lane (lane : CreatorLane) : Fits 9 lane.text := by
  cases lane <;> exact ⟨string_printable _, by decide⟩

def summaryBounds : List (String × Nat) :=
  [("lane", 9), ("stop_reason", 20), ("stored_count", 2), ("unchanged_count", 2),
    ("failed_count", 2), ("list_attempts", 2), ("detail_attempts", 2), ("page_complete", 5)]

theorem summary_fields_fit (u : CreatorUnitSummary p) :
    List.Forall₂ (fun f b => f.1 = b.1 ∧ Fits b.2 f.2) u.fields summaryBounds := by
  have hreason : Fits 20 u.stopReason.text := by
    cases u.stopReason <;> exact ⟨string_printable _, by decide⟩
  have hlists := u.valid.lists
  have hdetails := u.valid.details
  have htotal := u.valid.total
  have hsize := pageSize_le p
  exact .cons ⟨rfl, fits_lane _⟩ (.cons ⟨rfl, hreason⟩
    (.cons ⟨rfl, fits_number (by omega)⟩ (.cons ⟨rfl, fits_number (by omega)⟩
      (.cons ⟨rfl, fits_number (by omega)⟩ (.cons ⟨rfl, fits_number (by omega)⟩
        (.cons ⟨rfl, fits_number (by omega)⟩ (.cons ⟨rfl, fits_bool _⟩ .nil)))))))

theorem fits_summary (u : CreatorUnitSummary p) : Fits 200 u.text :=
  (fits_object (summary_fields_fit u)).mono (by decide)

theorem Fits.orNull {α : Type} {text : α → Text} {value : Option α} {n : Nat}
    (h : ∀ a ∈ value, Fits n (text a)) (hn : 4 ≤ n) : Fits n (orNull text value) := by
  cases value with
  | none => exact fits_null.mono hn
  | some a => exact h a rfl

/-- The bounds of a cursor's fields, where each page cursor in it takes at most `k` characters. -/
def cursorBounds (p : CreatorPlatform) (k : Nat) : List (String × Nat) :=
  [("schema_version", 2), ("feed", 15), ("page_size", 2), ("account_id", 38),
    ("author_fingerprint_sha256", 66), ("creator_fingerprint_sha256", 66),
    ("upstream_sha", 42), ("lane", 9), ("page_cursor", k), ("witness", 2 * k + 3820), ("index", 2),
    (p.completedField, 812), ("head_boundary", 3752), ("last_unit", 200)]

/-- The bounds of two neighbouring fields add up with those of the others. -/
theorem objectBound_add (before after : List (String × Nat)) (first second : String)
    (k n : Nat) :
    objectBound (before ++ (first, k) :: (second, n) :: after) =
      objectBound (before ++ (first, 0) :: (second, 0) :: after) + k + n := by
  simp only [objectBound, List.map_append, List.map_cons, List.sum_append, List.sum_cons,
    fieldBound]
  omega

theorem cursorBounds_le (p : CreatorPlatform) (k : Nat) :
    objectBound (cursorBounds p k) ≤ 3 * k + 9140 := by
  have hsplit : objectBound (cursorBounds p k) = objectBound (cursorBounds p 0) + 3 * k := by
    have hk := objectBound_add ((cursorBounds p 0).take 8) ((cursorBounds p 0).drop 10)
      "page_cursor" "witness" k (2 * k + 3820)
    have hzero := objectBound_add ((cursorBounds p 0).take 8) ((cursorBounds p 0).drop 10)
      "page_cursor" "witness" 0 3820
    have hcursor : (cursorBounds p 0).take 8 ++ ("page_cursor", k) ::
        ("witness", 2 * k + 3820) :: (cursorBounds p 0).drop 10 = cursorBounds p k := rfl
    have hempty : (cursorBounds p 0).take 8 ++ ("page_cursor", 0) ::
        ("witness", 3820) :: (cursorBounds p 0).drop 10 = cursorBounds p 0 := rfl
    rw [hcursor] at hk
    rw [hempty] at hzero
    omega
  have hzero : objectBound (cursorBounds p 0) ≤ 9140 := by cases p <;> decide
  omega

theorem state_fields_fit {s : CreatorScanState p} {k : Nat} (h : s.CursorsWithin k) :
    List.Forall₂ (fun f b => f.1 = b.1 ∧ Fits b.2 f.2) s.fields (cursorBounds p k) := by
  have hsize := pageSize_le p
  have hvalid := s.valid
  have hfeed : Fits 15 (string p.feed.toList) := by
    cases p <;> exact ⟨string_printable _, by decide⟩
  have hcursor : Fits k (string s.pageCursor.toList) := ⟨string_printable _, h.page⟩
  have hwitness : Fits (2 * k + 3820) (orNull PageWitness.text s.witness) := by
    refine Fits.orNull ?_ (by omega)
    intro w hw
    refine fits_witness ?_ ⟨string_printable _, h.next w hw⟩
    rw [(hvalid.fits w hw).1]
    exact hcursor
  have hcompleted : Fits 812 (array (s.completedIds.map fun id => string id.toList)) := by
    refine fits_items (n := 26) ?_ (by simpa using hvalid.completedLength.trans hsize)
    intro t ht
    obtain ⟨id, hid, rfl⟩ := List.mem_map.1 ht
    exact fits_id (hvalid.completedShape id hid)
  have hboundary : Fits 3752 (orNull (fun b => array (b.map ListingIdentity.text))
      s.headBoundary) := by
    refine Fits.orNull ?_ (by omega)
    intro b hb
    refine fits_items (n := 124) ?_ (by simpa using (hvalid.boundary b hb).1.trans hsize)
    intro t ht
    obtain ⟨i, -, rfl⟩ := List.mem_map.1 ht
    exact fits_listing i
  have hunit : Fits 200 (orNull CreatorUnitSummary.text s.lastUnit) :=
    Fits.orNull (fun u _ => fits_summary u) (by omega)
  have hindex := hvalid.indexRange
  have hone : Fits 2 (number 1) := fits_number (by omega)
  exact .cons ⟨rfl, hone⟩ (.cons ⟨rfl, hfeed⟩ (.cons ⟨rfl, fits_number hsize⟩
    (.cons ⟨rfl, fits_uuid _⟩ (.cons ⟨rfl, fits_hexText s.binding.valid.1⟩
      (.cons ⟨rfl, fits_hexText s.binding.valid.2.1⟩
        (.cons ⟨rfl, fits_hexText s.binding.valid.2.2⟩ (.cons ⟨rfl, fits_lane _⟩
          (.cons ⟨rfl, hcursor⟩ (.cons ⟨rfl, hwitness⟩
            (.cons ⟨rfl, fits_number (hindex.trans hsize)⟩ (.cons ⟨rfl, hcompleted⟩
              (.cons ⟨rfl, hboundary⟩ (.cons ⟨rfl, hunit⟩ .nil)))))))))))))

theorem fits_cursor {s : CreatorScanState p} {k : Nat} (h : s.CursorsWithin k) :
    Fits (3 * k + 9160) (p.cursorPrefix.toList ++ object s.fields) := by
  have hfront : Fits 13 p.cursorPrefix.toList := by
    cases p <;> exact .of_all (by decide) (by decide)
  exact (hfront.append ((fits_object (state_fields_fit h)).mono
    (cursorBounds_le p k))).mono (by omega)

theorem toCursor_of_cursorsFit {s : CreatorScanState p} (h : s.CursorsFit) :
    ∃ text, s.toCursor = .ok text ∧ Fits 24160 text := by
  have hwithin : s.CursorsWithin 5000 := ⟨h.page, h.next⟩
  have htext := fits_cursor hwithin
  refine ⟨_, ?_, htext⟩
  have := htext.length
  unfold CreatorScanState.toCursor
  rw [if_neg (by omega)]

theorem toJsonLine_of_cursorsFit {c : CreatorScanCoverage p} (hinput : c.inputState.CursorsFit)
    (hnext : c.nextState.CursorsFit) (hpage : ∀ page ∈ c.page, page.CursorsFit)
    (houtcomes : c.outcomes.length ≤ p.pageSize) : ∃ line, c.toJsonLine = .ok line := by
  obtain ⟨inputText, hin, fin⟩ := toCursor_of_cursorsFit hinput
  obtain ⟨nextText, hout, fout⟩ := toCursor_of_cursorsFit hnext
  have hpageText : Fits 18800 (orNull CreatorPage.text c.page) :=
    Fits.orNull (fun page hp => (hpage page hp).fits) (by omega)
  have houtcomeTexts : Fits 10232 (array (c.outcomes.map CreatorOutcome.text)) := by
    refine fits_items (n := 340) ?_ (by simpa using houtcomes.trans (pageSize_le p))
    intro t ht
    obtain ⟨o, -, rfl⟩ := List.mem_map.1 ht
    exact fits_outcome o
  have hown : List.Forall₂ (fun f b => f.1 = b.1 ∧ Fits b.2 f.2)
      [("schema_version", number 1), ("input_cursor", string inputText),
        ("next_cursor", string nextText), ("page", orNull CreatorPage.text c.page),
        ("outcomes", array (c.outcomes.map CreatorOutcome.text))]
      [("schema_version", 2), ("input_cursor", 48322), ("next_cursor", 48322),
        ("page", 18800), ("outcomes", 10232)] :=
    .cons ⟨rfl, fits_number (show 1 ≤ 30 by omega)⟩ (.cons ⟨rfl, fin.string⟩ (.cons ⟨rfl, fout.string⟩
      (.cons ⟨rfl, hpageText⟩ (.cons ⟨rfl, houtcomeTexts⟩ .nil))))
  have hfields : List.Forall₂ (fun (f : String × Text) (b : String × Nat) =>
      f.1 = b.1 ∧ Fits b.2 f.2) (c.fields inputText nextText) _ := List.rel_append hown (summary_fields_fit c.summary)
  have hpayload := ((fits_object hfields).mono (m := 131072) (by decide)).length
  refine ⟨object (c.fields inputText nextText) ++ ['\n'], ?_⟩
  simp only [CreatorScanCoverage.toJsonLine, hin, hout, bind, Except.bind]
  rw [if_neg (Nat.not_lt.2 hpayload)]

end MediaSync.Scan
