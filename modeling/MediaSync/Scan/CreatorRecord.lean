import MediaSync.Scan.BiliSteps
import MediaSync.Scan.CreatorCodec

/-!
# Creator records as lines

The writer of a unit's record bounds the document, the reader bounds the whole
line with its line feed, so exactly one length that is written is not read.
-/

namespace MediaSync.Scan

open JsonText Python

open BiliScanUnit (bind_ok)

variable {p : CreatorPlatform}

namespace CreatorScanCoverage

def recordKeys : List String :=
  ["schema_version", "input_cursor", "next_cursor", "page", "outcomes"] ++ summaryKeys

def docs (c : CreatorScanCoverage p) (inputCursor nextCursor : Text) : List (String × Doc) :=
  [("schema_version", .number 1), ("input_cursor", .string inputCursor),
    ("next_cursor", .string nextCursor), ("page", .orNull CreatorPage.doc c.page),
    ("outcomes", .array (c.outcomes.map CreatorOutcome.doc))] ++ c.summary.docs

/-- The constructor call of `from_json_line` over the decoded fields. -/
def fromMapping (r : JsonReader) (p : CreatorPlatform) (value : Json) :
    Option (CreatorScanCoverage p) := do
  let item ← mapping value recordKeys
  if Json.eqInt (Json.get? item "schema_version") 1 then do
    let inputState ← readField ((CreatorScanState.format p).readCursor r) item "input_cursor"
    let nextState ← readField ((CreatorScanState.format p).readCursor r) item "next_cursor"
    let page ← readField (readOrNull (CreatorPage.fromMapping p)) item "page"
    let outcomes ← readField (readAll (CreatorOutcome.fromMapping p)) item "outcomes"
    let summary ← CreatorUnitSummary.fromFields p item
    some ⟨inputState, nextState, page, outcomes, summary⟩
  else none

/-- `from_json_line`. -/
def fromJsonLine (r : JsonReader) (p : CreatorPlatform) (value : Text) :
    Option (CreatorScanCoverage p) :=
  if isLine value ∧ value.length ≤ 131072 then do
    let coverage ← (r.load value).bind (fromMapping r p)
    if coverage.toJsonLine.toOption = some value then some coverage else none
  else none

theorem docs_keys (c : CreatorScanCoverage p) (inputCursor nextCursor : Text) :
    (c.docs inputCursor nextCursor).map Prod.fst = recordKeys := rfl

theorem docs_once (c : CreatorScanCoverage p) (inputCursor nextCursor : Text) :
    ((c.docs inputCursor nextCursor).map Prod.fst).Nodup :=
  show recordKeys.Nodup by decide

theorem text_docs (c : CreatorScanCoverage p) (inputCursor nextCursor : Text) :
    (c.docs inputCursor nextCursor).map (fun f => (f.1, f.2.text)) =
      c.fields inputCursor nextCursor := by
  have houtcome : Doc.text ∘ CreatorOutcome.doc = CreatorOutcome.text (p := p) :=
    funext CreatorOutcome.text_doc
  simp only [docs, fields, List.map_append, List.map_cons, List.map_nil, Doc.text_number,
    Doc.text_string, text_orNull CreatorPage.text_doc, Doc.text_array, List.map_map, houtcome,
    c.summary.text_docs]

theorem keysOnce (c : CreatorScanCoverage p) (inputCursor nextCursor : Text) :
    (Doc.object (c.docs inputCursor nextCursor)).keysOnce = true := by
  have hpage : (Doc.orNull CreatorPage.doc c.page).keysOnce = true :=
    Doc.keysOnce_orNull fun page _ => page.keysOnce
  have houtcomes : (Doc.array (c.outcomes.map CreatorOutcome.doc)).keysOnce = true := by
    rw [Doc.keysOnce_array]
    rintro d hd
    obtain ⟨o, -, rfl⟩ := List.mem_map.1 hd
    exact o.keysOnce
  rw [Doc.keysOnce_object]
  refine ⟨c.docs_once inputCursor nextCursor, ?_⟩
  intro f hf
  rcases List.mem_append.1 hf with hf | hf
  · simp only [List.mem_cons, List.not_mem_nil, or_false] at hf
    rcases hf with rfl | rfl | rfl | rfl | rfl
    · rfl
    · rfl
    · rfl
    · exact hpage
    · exact houtcomes
  · exact c.summary.fields_once f hf

/-- A written line: its cursors, its document, and the bound on the document. -/
theorem toJsonLine_ok {c : CreatorScanCoverage p} {line : Text} (h : c.toJsonLine = .ok line) :
    ∃ inputCursor nextCursor, c.inputState.toCursor = .ok inputCursor ∧
      c.nextState.toCursor = .ok nextCursor ∧
      line = (Doc.object (c.docs inputCursor nextCursor)).text ++ ['\n'] := by
  obtain ⟨inputCursor, hin, h⟩ := bind_ok h
  obtain ⟨nextCursor, hnext, h⟩ := bind_ok h
  refine ⟨inputCursor, nextCursor, hin, hnext, ?_⟩
  rw [Doc.text_object, c.text_docs]
  by_cases hlength : (object (c.fields inputCursor nextCursor)).length > 131072
  · rw [if_pos hlength] at h
    cases h
  · rw [if_neg hlength] at h
    cases h
    rfl

theorem fromMapping_docs (r : JsonReader) {c : CreatorScanCoverage p}
    {inputCursor nextCursor : Text} (hin : c.inputState.toCursor = .ok inputCursor)
    (hnext : c.nextState.toCursor = .ok nextCursor) :
    fromMapping r p (Doc.object (c.docs inputCursor nextCursor)).json = some c := by
  have hcursor {s : CreatorScanState p} {cursor : Text} (h : s.toCursor = .ok cursor) :
      (CreatorScanState.format p).readCursor r (Doc.string cursor).json = some s :=
    CursorFormat.readCursor_string (s.reads r) (CreatorScanState.toCursor_eq_ok_iff.1 h)
  have honce := c.docs_once inputCursor nextCursor
  have hschema := get?_fields honce "schema_version" _ (.head _)
  have hinput := readField_fields honce "input_cursor" _ (.tail _ (.head _)) (hcursor hin)
  have houtput := readField_fields honce "next_cursor" _ (.tail _ (.tail _ (.head _)))
    (hcursor hnext)
  have hpage := readField_fields honce "page" _ (.tail _ (.tail _ (.tail _ (.head _))))
    (readOrNull_orNull CreatorPage.fromMapping_doc (fun page => json_object_ne_null _) c.page)
  have houtcomes := readField_fields honce "outcomes" _
    (.tail _ (.tail _ (.tail _ (.tail _ (.head _)))))
    (readAll_array fun o (_ : o ∈ c.outcomes) => o.fromMapping_doc)
  have hsummary := c.summary.fromFields_docs honce (List.subset_append_right _ _)
  rw [fromMapping, mapping_object _ recordKeys (c.docs_keys inputCursor nextCursor)]
  simp only [Option.bind_eq_bind, Option.bind_some, hschema, hinput, houtput, hpage, houtcomes,
    hsummary]
  rfl

/-- A written line is read back, as what it was written from, where the line
with its line feed keeps the bound of the document. -/
theorem fromJsonLine_toJsonLine (r : JsonReader) {c : CreatorScanCoverage p} {line : Text}
    (h : c.toJsonLine = .ok line) :
    fromJsonLine r p line = if line.length ≤ 131072 then some c else none := by
  obtain ⟨inputCursor, nextCursor, hin, hnext, hline⟩ := toJsonLine_ok h
  have hread : (r.load line).bind (fromMapping r p) = some c := by
    rw [hline, r.load_line _ (c.keysOnce inputCursor nextCursor), Option.bind_some,
      fromMapping_docs r hin hnext]
  have hisLine : isLine line = true := by
    rw [hline]
    exact isLine_append (Doc.printable _)
  unfold fromJsonLine
  by_cases hlength : line.length ≤ 131072
  · rw [if_pos ⟨hisLine, hlength⟩, if_pos hlength]
    simp only [Option.bind_eq_bind, hread, Option.bind_some, h, Except.toOption, if_true]
  · rw [if_neg (fun hand => hlength hand.2), if_neg hlength]

end CreatorScanCoverage

end MediaSync.Scan
