import MediaSync.Foundation.JsonSize
import MediaSync.Scan.CreatorRecord
import MediaSync.Scan.CreatorRuns

/-!
# How long creator cursors and records get

The length of a cursor and of a record as a sum over their fields. Everything
but the opaque cursors of pages is short, so whether a state has a cursor of
its own and a record has a line depends on how much room those take: a
character beyond ASCII takes six or twelve places in a cursor, and one more for
each backslash in a record, which holds cursors as strings.
-/

namespace MediaSync.Scan

open JsonText

open BiliScanUnit (bind_ok)

variable {p : CreatorPlatform}

theorem cursorPrefix_plain (p : CreatorPlatform) :
    ∀ c ∈ p.cursorPrefix.toList, isPlain c = true := by
  cases p <;> exact List.all_eq_true.1 (by decide)

namespace CreatorScanState

/-- The text of the cursor, whatever its length. -/
def cursorText (s : CreatorScanState p) : Text := p.cursorPrefix.toList ++ s.doc.text

/-- The characters of the cursor, each of them with its weight. -/
def cursorWeight (m : Char → Nat) (s : CreatorScanState p) : Nat :=
  p.cursorPrefix.toList.length + s.doc.weight m

/-- The cursor of the state keeps the limit of `to_cursor`. -/
def Encodable (s : CreatorScanState p) : Prop := s.cursorWeight plain ≤ 65536

theorem length_cursorText (s : CreatorScanState p) :
    s.cursorText.length = s.cursorWeight plain := by
  rw [cursorText, List.length_append, Doc.length_text]
  rfl

theorem toCursor_eq (s : CreatorScanState p) :
    s.toCursor = if s.cursorWeight plain ≤ 65536 then .ok s.cursorText else .error .invalid := by
  have htext : p.cursorPrefix.toList ++ object s.fields = s.cursorText := by
    rw [cursorText, s.text_doc]
  unfold toCursor
  rw [htext]
  dsimp only
  rw [s.length_cursorText]
  by_cases h : s.cursorWeight plain ≤ 65536
  · rw [if_pos h, if_neg (Nat.not_lt.2 h)]
  · rw [if_neg h, if_pos (Nat.lt_of_not_le h)]

theorem toCursor_ok_iff {s : CreatorScanState p} {cursor : Text} :
    s.toCursor = .ok cursor ↔ s.Encodable ∧ cursor = s.cursorText := by
  rw [toCursor_eq, Encodable]
  by_cases h : s.cursorWeight plain ≤ 65536
  · rw [if_pos h, Except.ok.injEq]
    exact ⟨fun heq => ⟨h, heq.symm⟩, fun hand => hand.2.symm⟩
  · rw [if_neg h]
    exact ⟨nofun, fun hand => absurd hand.1 h⟩

/-- What is encodable is accepted again, as the same state. -/
theorem fromCursor_cursorText (r : JsonReader) {s : CreatorScanState p} (h : s.Encodable) :
    fromCursor r p s.cursorText = some s :=
  CursorFormat.decode_encode (s.reads r)
    (toCursor_eq_ok_iff.1 (toCursor_ok_iff.2 ⟨h, rfl⟩))

end CreatorScanState

namespace CreatorScanCoverage

/-- The characters of the record: its own fields, and its two cursors as strings. -/
def recordWeight (c : CreatorScanCoverage p) : Nat :=
  (Doc.object (c.docs [] [])).weight plain + c.inputState.cursorWeight escaped +
    c.nextState.cursorWeight escaped

theorem weight_docs (c : CreatorScanCoverage p) :
    (Doc.object (c.docs c.inputState.cursorText c.nextState.cursorText)).weight plain =
      c.recordWeight := by
  have hcursor (s : CreatorScanState p) :
      stringWeight plain s.cursorText = stringWeight plain [] + s.cursorWeight escaped := by
    rw [CreatorScanState.cursorText, Doc.stringWeight_nested (cursorPrefix_plain p),
      CreatorScanState.cursorWeight]
    simp only [stringWeight, total_nil, plain]
    omega
  simp only [recordWeight, docs, List.cons_append, List.nil_append, Doc.weight, Doc.fieldWeights,
    fieldWeight, hcursor, List.length_cons]
  omega

/-- A record is written where both cursors and the document keep their limits. -/
theorem toJsonLine_ok_iff {c : CreatorScanCoverage p} {line : Text} :
    c.toJsonLine = .ok line ↔
      c.inputState.Encodable ∧ c.nextState.Encodable ∧ c.recordWeight ≤ 131072 ∧
        line = (Doc.object (c.docs c.inputState.cursorText c.nextState.cursorText)).text ++
          ['\n'] := by
  constructor
  · intro h
    have hlength : (object (c.fields c.inputState.cursorText c.nextState.cursorText)).length =
        c.recordWeight := by
      rw [← c.text_docs, ← Doc.text_object, Doc.length_text, c.weight_docs]
    obtain ⟨inputCursor, hin, h⟩ := bind_ok h
    obtain ⟨nextCursor, hnext, h⟩ := bind_ok h
    obtain ⟨hencodes, rfl⟩ := CreatorScanState.toCursor_ok_iff.1 hin
    obtain ⟨hproposes, rfl⟩ := CreatorScanState.toCursor_ok_iff.1 hnext
    dsimp only at h
    rw [hlength] at h
    by_cases hlimit : c.recordWeight > 131072
    · rw [if_pos hlimit] at h
      cases h
    · rw [if_neg hlimit] at h
      cases h
      rw [Doc.text_object, c.text_docs]
      exact ⟨hencodes, hproposes, Nat.le_of_not_lt hlimit, rfl⟩
  · rintro ⟨hencodes, hproposes, hlimit, rfl⟩
    have hin := CreatorScanState.toCursor_ok_iff.2 ⟨hencodes, rfl⟩
    have hnext := CreatorScanState.toCursor_ok_iff.2 ⟨hproposes, rfl⟩
    have hlength : ¬(object (c.fields c.inputState.cursorText c.nextState.cursorText)).length >
        131072 := by
      rw [← c.text_docs, ← Doc.text_object, Doc.length_text, c.weight_docs]
      exact Nat.not_lt.2 hlimit
    simp only [toJsonLine, hin, hnext, bind, Except.bind]
    rw [if_neg hlength, Doc.text_object, c.text_docs]

/-- The record is as long as its limit to the character, and its cursors keep theirs. -/
def OnTheLimit (c : CreatorScanCoverage p) : Prop :=
  c.inputState.Encodable ∧ c.nextState.Encodable ∧ c.recordWeight = 131072

/-- A record's line is read back as the record, unless the record is on the limit:
the line feed then makes the line one character too long for its reader. -/
theorem reads_line_iff (r : JsonReader) (c : CreatorScanCoverage p) :
    (∀ line, c.toJsonLine = .ok line → fromJsonLine r p line = some c) ↔ ¬c.OnTheLimit := by
  have hlength : ((Doc.object (c.docs c.inputState.cursorText c.nextState.cursorText)).text ++
      ['\n']).length = c.recordWeight + 1 := by
    rw [List.length_append, Doc.length_text, c.weight_docs, List.length_singleton]
  constructor
  · rintro h ⟨hencodes, hproposes, hlimit⟩
    have hline := toJsonLine_ok_iff.2 ⟨hencodes, hproposes, hlimit.le, rfl⟩
    have hread := h _ hline
    rw [fromJsonLine_toJsonLine r hline, if_neg (by omega)] at hread
    cases hread
  · intro h line hline
    obtain ⟨hencodes, hproposes, hlimit, rfl⟩ := toJsonLine_ok_iff.1 hline
    have hne : c.recordWeight ≠ 131072 := fun heq => h ⟨hencodes, hproposes, heq⟩
    rw [fromJsonLine_toJsonLine r hline, if_pos (by omega)]

theorem unread_on_limit (r : JsonReader) {c : CreatorScanCoverage p} (h : c.OnTheLimit) :
    ∃ line, c.toJsonLine = .ok line ∧ fromJsonLine r p line = none := by
  obtain ⟨hencodes, hproposes, hlimit⟩ := h
  have hline := toJsonLine_ok_iff.2 ⟨hencodes, hproposes, hlimit.le, rfl⟩
  refine ⟨_, hline, ?_⟩
  rw [fromJsonLine_toJsonLine r hline, if_neg]
  rw [List.length_append, Doc.length_text, c.weight_docs, List.length_singleton]
  omega

end CreatorScanCoverage

end MediaSync.Scan
