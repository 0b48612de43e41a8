import MediaSync.Scan.BiliSteps
import MediaSync.Scan.CreatorCodec

/-!
# Bili cursors and records

The documents of the ordinary scan and their readers. Ids, dates and counts
are bounded by their constructors, so a state always fits its cursor and a
unit's record always fits its line; the writer of the record checks nothing.
-/

namespace MediaSync.Scan

open JsonText Python

def identityNames : List String := ["aid", "bvid", "pubdate"]

def readPubdate (value : Json) : Option Pubdate :=
  (readNat value).bind fun n => if h : 1 ≤ n ∧ n ≤ 253402300799 then some ⟨n, h⟩ else none

def pubdateDoc (t : Pubdate) : Doc := .number t.val

theorem readPubdate_doc (t : Pubdate) : readPubdate (pubdateDoc t).json = some t := by
  rw [readPubdate, pubdateDoc, readNat_number, Option.bind_some, dif_pos t.property]

theorem pubdateDoc_ne_null (t : Pubdate) : (pubdateDoc t).json ≠ .null := nofun

namespace BiliIdentity

def docs (i : BiliIdentity) : List (String × Doc) :=
  [("aid", .string i.aid.toList), ("bvid", .string i.bvid.toList),
    ("pubdate", pubdateDoc i.pubdate)]

def doc (i : BiliIdentity) : Doc := .object i.docs

/-- `from_mapping`. -/
def fromMapping (value : Json) : Option BiliIdentity := do
  let item ← mapping value identityNames
  let aid ← readField readText item "aid"
  let bvid ← readField readText item "bvid"
  let pubdate ← readField readPubdate item "pubdate"
  if h : validAid aid = true ∧ validBvid bvid = true then some ⟨aid, bvid, pubdate, h⟩ else none

theorem docs_once (i : BiliIdentity) : (i.docs.map Prod.fst).Nodup :=
  show identityNames.Nodup by decide

theorem keysOnce (i : BiliIdentity) : i.doc.keysOnce = true := by
  rw [doc, Doc.keysOnce_object]
  exact ⟨i.docs_once, by simp [docs, pubdateDoc]⟩

theorem fromMapping_doc (i : BiliIdentity) : fromMapping i.doc.json = some i := by
  have haid := readField_fields i.docs_once "aid" _ (.head _) (readText_string i.aid)
  have hbvid := readField_fields i.docs_once "bvid" _ (.tail _ (.head _))
    (readText_string i.bvid)
  have hpubdate := readField_fields i.docs_once "pubdate" _ (.tail _ (.tail _ (.head _)))
    (readPubdate_doc i.pubdate)
  rw [fromMapping, doc, mapping_object i.docs identityNames rfl]
  simp only [Option.bind_eq_bind, Option.bind_some, haid, hbvid, hpubdate]
  rw [dif_pos i.valid]

end BiliIdentity

def pageNames : List String := ["page", "total", "identities"]

namespace BiliPage

def docs (w : BiliPage) : List (String × Doc) :=
  [("page", .number w.page), ("total", .number w.total),
    ("identities", .array (w.identities.map BiliIdentity.doc))]

def doc (w : BiliPage) : Doc := .object w.docs

/-- `from_mapping`. -/
def fromMapping (value : Json) : Option BiliPage := do
  let item ← mapping value pageNames
  let identities ← readField (readAll BiliIdentity.fromMapping) item "identities"
  let page ← readField readNat item "page"
  let total ← readField readNat item "total"
  (make page total identities).toOption

theorem docs_once (w : BiliPage) : (w.docs.map Prod.fst).Nodup :=
  show pageNames.Nodup by decide

theorem keysOnce (w : BiliPage) : w.doc.keysOnce = true := by
  rw [doc, Doc.keysOnce_object]
  refine ⟨w.docs_once, ?_⟩
  simp only [docs, List.mem_cons, List.not_mem_nil, or_false, forall_eq_or_imp, forall_eq,
    Doc.keysOnce_number, Doc.keysOnce_array, List.mem_map, true_and]
  rintro _ ⟨i, -, rfl⟩
  exact i.keysOnce

theorem fromMapping_doc (w : BiliPage) : fromMapping w.doc.json = some w := by
  have hpage := readField_fields w.docs_once "page" _ (.head _) (readNat_number w.page)
  have htotal := readField_fields w.docs_once "total" _ (.tail _ (.head _))
    (readNat_number w.total)
  have hids := readField_fields w.docs_once "identities" _ (.tail _ (.tail _ (.head _)))
    (readAll_array fun i (_ : i ∈ w.identities) => i.fromMapping_doc)
  rw [fromMapping, doc, mapping_object w.docs pageNames rfl]
  simp only [Option.bind_eq_bind, Option.bind_some, hpage, htotal, hids]
  rw [make, dif_pos w.valid]
  rfl

end BiliPage

def laneNames : List String := ["page", "witness", "index", "previous_pubdate"]

namespace BiliLane

def docs (l : BiliLane) : List (String × Doc) :=
  [("page", .number l.page), ("witness", .orNull BiliPage.doc l.witness),
    ("index", .number l.index), ("previous_pubdate", .orNull pubdateDoc l.previousPubdate)]

def doc (l : BiliLane) : Doc := .object l.docs

/-- `from_mapping`. -/
def fromMapping (value : Json) : Option BiliLane := do
  let item ← mapping value laneNames
  let page ← readField readNat item "page"
  let witness ← readField (readOrNull BiliPage.fromMapping) item "witness"
  let index ← readField readNat item "index"
  let previousPubdate ← readField (readOrNull readPubdate) item "previous_pubdate"
  (make page witness index previousPubdate).toOption

theorem docs_once (l : BiliLane) : (l.docs.map Prod.fst).Nodup :=
  show laneNames.Nodup by decide

theorem keysOnce (l : BiliLane) : l.doc.keysOnce = true := by
  have hwitness : (Doc.orNull BiliPage.doc l.witness).keysOnce = true :=
    Doc.keysOnce_orNull fun w _ => w.keysOnce
  have hprevious : (Doc.orNull pubdateDoc l.previousPubdate).keysOnce = true :=
    Doc.keysOnce_orNull fun _ _ => rfl
  rw [doc, Doc.keysOnce_object]
  exact ⟨l.docs_once, by simp [docs, hwitness, hprevious]⟩

theorem fromMapping_doc (l : BiliLane) : fromMapping l.doc.json = some l := by
  have hpage := readField_fields l.docs_once "page" _ (.head _) (readNat_number l.page)
  have hwitness := readField_fields l.docs_once "witness" _ (.tail _ (.head _))
    (readOrNull_orNull BiliPage.fromMapping_doc (fun w => json_object_ne_null _) l.witness)
  have hindex := readField_fields l.docs_once "index" _ (.tail _ (.tail _ (.head _)))
    (readNat_number l.index)
  have hprevious := readField_fields l.docs_once "previous_pubdate" _
    (.tail _ (.tail _ (.tail _ (.head _))))
    (readOrNull_orNull readPubdate_doc pubdateDoc_ne_null l.previousPubdate)
  rw [fromMapping, doc, mapping_object l.docs laneNames rfl]
  simp only [Option.bind_eq_bind, Option.bind_some, hpage, hwitness, hindex, hprevious]
  rw [make, dif_pos l.valid]
  rfl

end BiliLane

def BiliLaneName.name : BiliLaneName → String
  | head => "head"
  | history => "history"

def BiliReason.name : BiliReason → String
  | itemLimit => "item_limit"
  | listLimit => "list_limit"
  | restarted => "restarted"
  | sourceEnd => "source_end"
  | headBoundary => "head_boundary"

def readLaneName : Json → Option BiliLaneName :=
  readName ([.head, .history].map fun lane => (lane.name, lane))

/-- `_REASONS`. -/
def readBiliReason : Json → Option BiliReason :=
  readName ([.itemLimit, .listLimit, .restarted, .sourceEnd, .headBoundary].map
    fun reason => (reason.name, reason))

theorem readLaneName_name (lane : BiliLaneName) :
    readLaneName (Doc.string lane.name.toList).json = some lane := by
  cases lane <;> decide

theorem readBiliReason_name (reason : BiliReason) :
    readBiliReason (Doc.string reason.name.toList).json = some reason := by
  cases reason <;> decide

def unitNames : List String :=
  ["lane", "stop_reason", "item_count", "list_attempts", "detail_attempts"]

namespace BiliUnitSummary

def docs (u : BiliUnitSummary) : List (String × Doc) :=
  [("lane", .string u.lane.name.toList), ("stop_reason", .string u.stopReason.name.toList),
    ("item_count", .number u.itemCount), ("list_attempts", .number u.listAttempts),
    ("detail_attempts", .number u.detailAttempts)]

def doc (u : BiliUnitSummary) : Doc := .object u.docs

/-- The constructor over the fields of a record that holds a summary's. -/
def fromFields (item : List (String × Json)) : Option BiliUnitSummary := do
  let lane ← readField readLaneName item "lane"
  let stopReason ← readField readBiliReason item "stop_reason"
  let itemCount ← readField readNat item "item_count"
  let listAttempts ← readField readNat item "list_attempts"
  let detailAttempts ← readField readNat item "detail_attempts"
  if h : Valid itemCount listAttempts detailAttempts then
    some ⟨lane, stopReason, _, _, _, h⟩
  else none

/-- `from_mapping`. -/
def fromMapping (value : Json) : Option BiliUnitSummary :=
  (mapping value unitNames).bind fromFields

theorem fields_once (u : BiliUnitSummary) : ∀ f ∈ u.docs, f.2.keysOnce = true := by
  simp [docs]

theorem keysOnce (u : BiliUnitSummary) : u.doc.keysOnce = true := by
  rw [doc, Doc.keysOnce_object]
  exact ⟨show unitNames.Nodup by decide, u.fields_once⟩

theorem fromFields_docs (u : BiliUnitSummary) {fields : List (String × Doc)}
    (hkeys : (fields.map Prod.fst).Nodup) (hfields : u.docs ⊆ fields) :
    fromFields (sortedFields (fields.map fun f => (f.1, f.2.json))) = some u := by
  have hlane := readField_fields hkeys "lane" _ (hfields (by simp [docs]))
    (readLaneName_name u.lane)
  have hreason := readField_fields hkeys "stop_reason" _ (hfields (by simp [docs]))
    (readBiliReason_name u.stopReason)
  have hitems := readField_fields hkeys "item_count" _ (hfields (by simp [docs]))
    (readNat_number u.itemCount)
  have hlists := readField_fields hkeys "list_attempts" _ (hfields (by simp [docs]))
    (readNat_number u.listAttempts)
  have hdetails := readField_fields hkeys "detail_attempts" _ (hfields (by simp [docs]))
    (readNat_number u.detailAttempts)
  rw [fromFields]
  simp only [Option.bind_eq_bind, hlane, hreason, hitems, hlists, hdetails, Option.bind_some]
  rw [dif_pos u.valid]

theorem fromMapping_doc (u : BiliUnitSummary) : fromMapping u.doc.json = some u := by
  rw [fromMapping, doc, mapping_object u.docs unitNames rfl, Option.bind_some]
  exact u.fromFields_docs (show unitNames.Nodup by decide) (List.Subset.refl _)

end BiliUnitSummary

/-- What `BiliScanState.__post_init__` asks of the binding. -/
structure BiliBinding.Valid (b : BiliBinding) : Prop where
  account : (Uuid.parse b.accountId).isSome = true
  author : isHexText 64 b.authorFingerprintSha256 = true
  upstream : isHexText 40 b.upstreamSha = true

instance (b : BiliBinding) : Decidable b.Valid :=
  decidable_of_iff
    ((Uuid.parse b.accountId).isSome = true ∧ isHexText 64 b.authorFingerprintSha256 = true ∧
      isHexText 40 b.upstreamSha = true)
    ⟨fun ⟨h1, h2, h3⟩ => ⟨h1, h2, h3⟩, fun h => ⟨h.account, h.author, h.upstream⟩⟩

def stateNames : List String :=
  ["schema_version", "feed", "order", "page_size", "account_id", "author_fingerprint_sha256",
    "upstream_sha", "next_lane", "head", "history", "head_boundary", "head_candidate",
    "last_unit"]

namespace BiliScanState

def docs (s : BiliScanState) : List (String × Doc) :=
  [("schema_version", .number 1), ("feed", .string "ordinary_uploads".toList),
    ("order", .string "pubdate".toList), ("page_size", .number biliScanPageSize),
    ("account_id", .string s.binding.accountId.toList),
    ("author_fingerprint_sha256", .string s.binding.authorFingerprintSha256.toList),
    ("upstream_sha", .string s.binding.upstreamSha.toList),
    ("next_lane", .string s.nextLane.name.toList), ("head", s.head.doc),
    ("history", s.history.doc), ("head_boundary", .orNull pubdateDoc s.headBoundary),
    ("head_candidate", .orNull pubdateDoc s.headCandidate),
    ("last_unit", .orNull BiliUnitSummary.doc s.lastUnit)]

def doc (s : BiliScanState) : Doc := .object s.docs

def isHeader (item : List (String × Json)) : Bool :=
  readField readNat item "schema_version" = some 1 &&
    readField readText item "feed" = some "ordinary_uploads" &&
    readField readText item "order" = some "pubdate" &&
    readField readNat item "page_size" = some biliScanPageSize

/-- The constructor call of `from_cursor` over the decoded fields. -/
def fromMapping (value : Json) : Option BiliScanState := do
  let item ← mapping value stateNames
  if isHeader item then do
    let accountId ← readField readText item "account_id"
    let author ← readField readText item "author_fingerprint_sha256"
    let upstreamSha ← readField readText item "upstream_sha"
    let nextLane ← readField readLaneName item "next_lane"
    let head ← readField BiliLane.fromMapping item "head"
    let history ← readField BiliLane.fromMapping item "history"
    let headBoundary ← readField (readOrNull readPubdate) item "head_boundary"
    let headCandidate ← readField (readOrNull readPubdate) item "head_candidate"
    let lastUnit ← readField (readOrNull BiliUnitSummary.fromMapping) item "last_unit"
    let binding : BiliBinding := ⟨accountId, author, upstreamSha⟩
    if binding.Valid then
      some ⟨binding, nextLane, head, history, headBoundary, headCandidate, lastUnit⟩
    else none
  else none

def format : CursorFormat BiliScanState :=
  ⟨"bili-scan-v1:".toList, 24576, fun s => some s.doc, fun _ => fromMapping⟩

/-- `to_cursor`. -/
def toCursor : BiliScanState → Option Text := format.encode

/-- `from_cursor`. -/
def fromCursor (r : JsonReader) : Text → Option BiliScanState := format.decode r

theorem docs_once (s : BiliScanState) : (s.docs.map Prod.fst).Nodup :=
  show stateNames.Nodup by decide

theorem keysOnce (s : BiliScanState) : s.doc.keysOnce = true := by
  have hdate (t : Option Pubdate) : (Doc.orNull pubdateDoc t).keysOnce = true :=
    Doc.keysOnce_orNull fun _ _ => rfl
  have hunit : (Doc.orNull BiliUnitSummary.doc s.lastUnit).keysOnce = true :=
    Doc.keysOnce_orNull fun u _ => u.keysOnce
  rw [doc, Doc.keysOnce_object]
  exact ⟨s.docs_once, by simp [docs, hdate, hunit, s.head.keysOnce, s.history.keysOnce]⟩

theorem isHeader_docs (s : BiliScanState) :
    isHeader (sortedFields (s.docs.map fun f => (f.1, f.2.json))) = true := by
  have hschema := readField_fields s.docs_once "schema_version" _ (.head _) (readNat_number 1)
  have hfeed := readField_fields s.docs_once "feed" _ (.tail _ (.head _))
    (readText_string "ordinary_uploads")
  have horder := readField_fields s.docs_once "order" _ (.tail _ (.tail _ (.head _)))
    (readText_string "pubdate")
  have hsize := readField_fields s.docs_once "page_size" _
    (.tail _ (.tail _ (.tail _ (.head _)))) (readNat_number biliScanPageSize)
  simp only [isHeader, hschema, hfeed, horder, hsize, decide_true, Bool.and_self]

theorem fromMapping_doc {s : BiliScanState} (h : s.binding.Valid) :
    fromMapping s.doc.json = some s := by
  have hmem {f : String × Doc} (h : f ∈ s.docs.drop 4) : f ∈ s.docs := List.mem_of_mem_drop h
  have hrest {f : String × Doc} (h : f ∈ s.docs.drop 8) : f ∈ s.docs := List.mem_of_mem_drop h
  have haccount := readField_fields s.docs_once "account_id" _ (hmem (.head _))
    (readText_string s.binding.accountId)
  have hauthor := readField_fields s.docs_once "author_fingerprint_sha256" _
    (hmem (.tail _ (.head _))) (readText_string s.binding.authorFingerprintSha256)
  have hsha := readField_fields s.docs_once "upstream_sha" _
    (hmem (.tail _ (.tail _ (.head _)))) (readText_string s.binding.upstreamSha)
  have hlane := readField_fields s.docs_once "next_lane" _
    (hmem (.tail _ (.tail _ (.tail _ (.head _))))) (readLaneName_name s.nextLane)
  have hhead := readField_fields s.docs_once "head" _ (hrest (.head _)) s.head.fromMapping_doc
  have hhistory := readField_fields s.docs_once "history" _ (hrest (.tail _ (.head _)))
    s.history.fromMapping_doc
  have hboundary := readField_fields s.docs_once "head_boundary" _
    (hrest (.tail _ (.tail _ (.head _))))
    (readOrNull_orNull readPubdate_doc pubdateDoc_ne_null s.headBoundary)
  have hcandidate := readField_fields s.docs_once "head_candidate" _
    (hrest (.tail _ (.tail _ (.tail _ (.head _)))))
    (readOrNull_orNull readPubdate_doc pubdateDoc_ne_null s.headCandidate)
  have hunit := readField_fields s.docs_once "last_unit" _
    (hrest (.tail _ (.tail _ (.tail _ (.tail _ (.head _))))))
    (readOrNull_orNull BiliUnitSummary.fromMapping_doc (fun u => json_object_ne_null _)
      s.lastUnit)
  rw [fromMapping, doc, mapping_object s.docs stateNames rfl]
  simp only [Option.bind_eq_bind, Option.bind_some, s.isHeader_docs, if_true, haccount, hauthor,
    hsha, hlane, hhead, hhistory, hboundary, hcandidate, hunit]
  rw [if_pos h]

theorem reads (r : JsonReader) {s : BiliScanState} (h : s.binding.Valid) :
    format.Reads r s := by
  rintro d hd
  cases hd
  exact ⟨s.keysOnce, fromMapping_doc h⟩

/-- An accepted cursor names a binding that the constructor accepts. -/
theorem valid_of_fromCursor {r : JsonReader} {value : Text} {s : BiliScanState}
    (h : fromCursor r value = some s) : s.binding.Valid := by
  obtain ⟨item, hread⟩ := CursorFormat.read_of_decode h
  have hmapping : fromMapping item = some s := hread
  simp only [fromMapping, Option.bind_eq_bind, Option.bind_eq_some_iff] at hmapping
  obtain ⟨fields, -, hmapping⟩ := hmapping
  split at hmapping
  · simp only [Option.bind_eq_some_iff] at hmapping
    obtain ⟨_, -, _, -, _, -, _, -, _, -, _, -, _, -, _, -, _, -, hmapping⟩ := hmapping
    split at hmapping
    · rename_i hvalid
      cases hmapping
      exact hvalid
    · cases hmapping
  · cases hmapping

end BiliScanState

theorem isPlain_of_decimal {c : Char} (hlow : '1' ≤ c) (hhigh : c ≤ '9') : isPlain c = true := by
  refine isPlain_of_isDigit ?_
  simp only [isDigit, Bool.and_eq_true, decide_eq_true_eq]
  exact ⟨Char.le_trans (by decide) hlow, hhigh⟩

theorem fits_aid {aid : String} (h : validAid aid = true) : Fits 21 (string aid.toList) := by
  unfold validAid at h
  split at h
  · cases h
  · rename_i c rest htext
    simp only [Bool.and_eq_true, decide_eq_true_eq, List.all_eq_true] at h
    obtain ⟨⟨⟨⟨hlow, hhigh⟩, hlength⟩, hrest⟩, -⟩ := h
    rw [htext]
    refine fits_string_plain (n := 19) ?_ (by simp only [List.length_cons]; omega)
    intro d hd
    rcases List.mem_cons.1 hd with rfl | hd
    · exact isPlain_of_decimal hlow hhigh
    · exact isPlain_of_isDigit (hrest d hd)

theorem fits_bvid {bvid : String} (h : validBvid bvid = true) :
    Fits 14 (string bvid.toList) := by
  unfold validBvid at h
  split at h
  · rename_i rest htext
    simp only [Bool.and_eq_true, decide_eq_true_eq, List.all_eq_true] at h
    rw [htext]
    refine fits_string_plain (n := 12) ?_ (by simp only [List.length_cons]; omega)
    intro d hd
    simp only [List.mem_cons] at hd
    rcases hd with rfl | rfl | hd
    · decide
    · decide
    · exact isPlain_of_isAsciiAlphanum (h.2 d hd)
  · cases h

theorem fits_pubdate (t : Pubdate) : Fits 12 (pubdateDoc t).text :=
  fits_digits (by decide) (by have := t.property; omega)

theorem fits_docOrNull {α : Type} {doc : α → Doc} {value : Option α} {n : Nat}
    (h : ∀ a ∈ value, Fits n (doc a).text) (hn : 4 ≤ n) : Fits n (Doc.orNull doc value).text := by
  cases value with
  | none => exact fits_null.mono hn
  | some a => exact h a rfl

theorem fits_docs {fields : List (String × Doc)} {bounds : List (String × Nat)}
    (h : List.Forall₂ (fun f b => f.1 = b.1 ∧ Fits b.2 f.2.text) fields bounds) :
    Fits (objectBound bounds) (Doc.object fields).text := by
  rw [Doc.text_object]
  exact fits_object (List.forall₂_map_left_iff.2 h)

theorem fits_docItems {α : Type} {doc : α → Doc} {items : List α} {n : Nat}
    (h : ∀ a, Fits n (doc a).text) (hlen : items.length ≤ 30) :
    Fits (30 * (n + 1) + 2) (Doc.array (items.map doc)).text := by
  rw [Doc.text_array]
  refine fits_items ?_ (by simpa using hlen)
  intro t ht
  simp only [List.mem_map, exists_exists_and_eq_and] at ht
  obtain ⟨a, -, rfl⟩ := ht
  exact h a

theorem BiliIdentity.fits (i : BiliIdentity) : Fits 75 i.doc.text := by
  have h : Fits (objectBound [("aid", 21), ("bvid", 14), ("pubdate", 12)]) i.doc.text :=
    fits_docs (.cons ⟨rfl, fits_aid i.valid.1⟩ (.cons ⟨rfl, fits_bvid i.valid.2⟩
      (.cons ⟨rfl, fits_pubdate i.pubdate⟩ .nil)))
  exact h.mono (by decide)

theorem BiliPage.length_le (w : BiliPage) : w.identities.length ≤ 30 := by
  rw [w.valid.length]
  exact Nat.min_le_left _ _

theorem BiliPage.fits (w : BiliPage) : Fits 2340 w.doc.text := by
  have hpage : Fits 8 (number w.page) :=
    fits_digits (by decide) (by have := w.valid.pageRange; omega)
  have htotal : Fits 9 (number w.total) :=
    fits_digits (by decide) (by have := w.valid.totalRange; omega)
  have h : Fits (objectBound [("page", 8), ("total", 9), ("identities", 2282)]) w.doc.text :=
    fits_docs (.cons ⟨rfl, hpage⟩ (.cons ⟨rfl, htotal⟩
      (.cons ⟨rfl, fits_docItems BiliIdentity.fits w.length_le⟩ .nil)))
  exact h.mono (by decide)

theorem BiliLane.fits (l : BiliLane) : Fits 2420 l.doc.text := by
  have hpage : Fits 8 (number l.page) :=
    fits_digits (by decide) (by have := l.valid.pageRange; omega)
  have hwitness : Fits 2340 (Doc.orNull BiliPage.doc l.witness).text :=
    fits_docOrNull (fun w _ => w.fits) (by omega)
  have hprevious : Fits 12 (Doc.orNull pubdateDoc l.previousPubdate).text :=
    fits_docOrNull (fun t _ => fits_pubdate t) (by omega)
  have h : Fits (objectBound [("page", 8), ("witness", 2340), ("index", 2),
      ("previous_pubdate", 12)]) l.doc.text :=
    fits_docs (.cons ⟨rfl, hpage⟩ (.cons ⟨rfl, hwitness⟩
      (.cons ⟨rfl, fits_number l.valid.indexRange⟩ (.cons ⟨rfl, hprevious⟩ .nil))))
  exact h.mono (by decide)

theorem fits_laneName (lane : BiliLaneName) : Fits 9 (string lane.name.toList) := by
  cases lane <;> exact ⟨string_printable _, by decide⟩

def unitBounds : List (String × Nat) :=
  [("lane", 9), ("stop_reason", 15), ("item_count", 2), ("list_attempts", 2),
    ("detail_attempts", 2)]

theorem BiliUnitSummary.docs_fit (u : BiliUnitSummary) :
    List.Forall₂ (fun f b => f.1 = b.1 ∧ Fits b.2 f.2.text) u.docs unitBounds := by
  have hreason : Fits 15 (string u.stopReason.name.toList) := by
    cases u.stopReason <;> exact ⟨string_printable _, by decide⟩
  have hitems : u.itemCount ≤ 30 := u.valid.items
  have hlists := u.valid.lists
  have hdetails := u.valid.details
  exact .cons ⟨rfl, fits_laneName _⟩ (.cons ⟨rfl, hreason⟩ (.cons ⟨rfl, fits_number hitems⟩
    (.cons ⟨rfl, fits_number (by omega)⟩ (.cons ⟨rfl, fits_number (by omega)⟩ .nil))))

theorem BiliUnitSummary.fits (u : BiliUnitSummary) : Fits 120 u.doc.text :=
  (fits_docs u.docs_fit).mono (by decide)

theorem fits_account {id : String} (h : (Uuid.parse id).isSome = true) :
    Fits 38 (string id.toList) := by
  obtain ⟨u, hu⟩ := Option.isSome_iff_exists.1 h
  unfold Uuid.parse at hu
  dsimp only at hu
  split at hu
  · split at hu
    · rename_i htext
      rw [← htext]
      exact fits_uuid _
    · cases hu
  · cases hu

theorem BiliScanState.fits {s : BiliScanState} (h : s.binding.Valid) : Fits 5580 s.doc.text := by
  have hdate (t : Option Pubdate) : Fits 12 (Doc.orNull pubdateDoc t).text :=
    fits_docOrNull (fun t _ => fits_pubdate t) (by omega)
  have hunit : Fits 120 (Doc.orNull BiliUnitSummary.doc s.lastUnit).text :=
    fits_docOrNull (fun u _ => u.fits) (by omega)
  have hone : Fits 1 (number 1) := fits_digits (by decide) (by decide)
  have hfeed : Fits 18 (string "ordinary_uploads".toList) := ⟨string_printable _, by decide⟩
  have horder : Fits 9 (string "pubdate".toList) := ⟨string_printable _, by decide⟩
  have hsize : Fits 2 (number biliScanPageSize) := fits_digits (by decide) (by decide)
  have htext : Fits (objectBound [("schema_version", 1), ("feed", 18), ("order", 9),
      ("page_size", 2), ("account_id", 38), ("author_fingerprint_sha256", 66),
      ("upstream_sha", 42), ("next_lane", 9), ("head", 2420), ("history", 2420),
      ("head_boundary", 12), ("head_candidate", 12), ("last_unit", 120)]) s.doc.text :=
    fits_docs (.cons ⟨rfl, hone⟩ (.cons ⟨rfl, hfeed⟩ (.cons ⟨rfl, horder⟩ (.cons ⟨rfl, hsize⟩
      (.cons ⟨rfl, fits_account h.account⟩ (.cons ⟨rfl, fits_hexText h.author⟩
        (.cons ⟨rfl, fits_hexText h.upstream⟩ (.cons ⟨rfl, fits_laneName _⟩
          (.cons ⟨rfl, s.head.fits⟩ (.cons ⟨rfl, s.history.fits⟩ (.cons ⟨rfl, hdate _⟩
            (.cons ⟨rfl, hdate _⟩ (.cons ⟨rfl, hunit⟩ .nil)))))))))))))
  exact htext.mono (by decide)

/-- A state always fits its cursor. -/
theorem BiliScanState.toCursor_fits {s : BiliScanState} (h : s.binding.Valid) :
    ∃ cursor, s.toCursor = some cursor ∧ Fits 5600 cursor := by
  have hfront : Fits 13 "bili-scan-v1:".toList := .of_all (by decide) (by decide)
  have htext := (hfront.append (fits h)).mono (m := 5600) (by omega)
  have hlength := htext.length
  refine ⟨_, CursorFormat.encode_eq_some_iff.2 ⟨_, rfl, rfl, ?_⟩, htext⟩
  exact hlength.trans (by decide)

def biliRecordNames : List String :=
  ["schema_version", "input_cursor", "next_cursor", "consumed", "pages"] ++ unitNames

namespace BiliScanCoverage

def docs (c : BiliScanCoverage) (inputCursor nextCursor : Text) : List (String × Doc) :=
  [("schema_version", .number 1), ("input_cursor", .string inputCursor),
    ("next_cursor", .string nextCursor), ("consumed", .array (c.consumed.map BiliIdentity.doc)),
    ("pages", .array (c.pages.map BiliPage.doc))] ++ c.summary.docs

/-- `to_json_line`; it has no bound of its own. -/
def toJsonLine (c : BiliScanCoverage) : Option Text := do
  let inputCursor ← c.inputState.toCursor
  let nextCursor ← c.nextState.toCursor
  some ((Doc.object (c.docs inputCursor nextCursor)).text ++ ['\n'])

def fromMapping (r : JsonReader) (value : Json) : Option BiliScanCoverage := do
  let item ← mapping value biliRecordNames
  let schema ← readField readNat item "schema_version"
  let inputState ← readField (BiliScanState.format.readCursor r) item "input_cursor"
  let nextState ← readField (BiliScanState.format.readCursor r) item "next_cursor"
  let consumed ← readField (readAll BiliIdentity.fromMapping) item "consumed"
  let pages ← readField (readAll BiliPage.fromMapping) item "pages"
  let summary ← BiliUnitSummary.fromFields item
  if schema = 1 ∧ consumed.length ≤ biliScanPageSize ∧ pages.length ≤ 2 then
    some ⟨inputState, nextState, consumed, pages, summary⟩
  else none

/-- `from_json_line`. -/
def fromJsonLine (r : JsonReader) (value : Text) : Option BiliScanCoverage :=
  if isLine value ∧ value.length ≤ 131072 then (r.load value).bind (fromMapping r) else none

/-- What a unit's record keeps within: the bounds of its reader. -/
structure Bounded (c : BiliScanCoverage) : Prop where
  input : c.inputState.binding.Valid
  next : c.nextState.binding.Valid
  consumed : c.consumed.length ≤ biliScanPageSize
  pages : c.pages.length ≤ 2

theorem docs_once (c : BiliScanCoverage) (inputCursor nextCursor : Text) :
    ((c.docs inputCursor nextCursor).map Prod.fst).Nodup :=
  show biliRecordNames.Nodup by decide

theorem keysOnce (c : BiliScanCoverage) (inputCursor nextCursor : Text) :
    (Doc.object (c.docs inputCursor nextCursor)).keysOnce = true := by
  have hconsumed : ∀ d ∈ c.consumed.map BiliIdentity.doc, d.keysOnce = true := by
    rintro d hd
    obtain ⟨i, -, rfl⟩ := List.mem_map.1 hd
    exact i.keysOnce
  have hpages : ∀ d ∈ c.pages.map BiliPage.doc, d.keysOnce = true := by
    rintro d hd
    obtain ⟨w, -, rfl⟩ := List.mem_map.1 hd
    exact w.keysOnce
  rw [Doc.keysOnce_object]
  refine ⟨c.docs_once inputCursor nextCursor, ?_⟩
  intro f hf
  rcases List.mem_append.1 hf with hf | hf
  · simp only [List.mem_cons, List.not_mem_nil, or_false] at hf
    rcases hf with rfl | rfl | rfl | rfl | rfl
    · rfl
    · rfl
    · rfl
    · exact (Doc.keysOnce_array _).2 hconsumed
    · exact (Doc.keysOnce_array _).2 hpages
  · exact c.summary.fields_once f hf

theorem fromMapping_docs (r : JsonReader) {c : BiliScanCoverage} (h : c.Bounded)
    {inputCursor nextCursor : Text} (hin : c.inputState.toCursor = some inputCursor)
    (hnext : c.nextState.toCursor = some nextCursor) :
    fromMapping r (Doc.object (c.docs inputCursor nextCursor)).json = some c := by
  have honce := c.docs_once inputCursor nextCursor
  have hschema := readField_fields honce "schema_version" _ (.head _) (readNat_number 1)
  have hinput := readField_fields honce "input_cursor" _ (.tail _ (.head _))
    (CursorFormat.readCursor_string (BiliScanState.reads r h.input) hin)
  have houtput := readField_fields honce "next_cursor" _ (.tail _ (.tail _ (.head _)))
    (CursorFormat.readCursor_string (BiliScanState.reads r h.next) hnext)
  have hconsumed := readField_fields honce "consumed" _ (.tail _ (.tail _ (.tail _ (.head _))))
    (readAll_array fun i (_ : i ∈ c.consumed) => i.fromMapping_doc)
  have hpages := readField_fields honce "pages" _
    (.tail _ (.tail _ (.tail _ (.tail _ (.head _)))))
    (readAll_array fun w (_ : w ∈ c.pages) => w.fromMapping_doc)
  have hsummary := c.summary.fromFields_docs honce (List.subset_append_right _ _)
  rw [fromMapping, mapping_object _ biliRecordNames rfl]
  simp only [Option.bind_eq_bind, Option.bind_some, hschema, hinput, houtput, hconsumed, hpages,
    hsummary]
  rw [if_pos ⟨trivial, h.consumed, h.pages⟩]

/-- The line of a record within its bounds is far shorter than its reader allows. -/
theorem line_fits {c : BiliScanCoverage} (h : c.Bounded) {inputCursor nextCursor : Text}
    (hin : c.inputState.toCursor = some inputCursor)
    (hnext : c.nextState.toCursor = some nextCursor) :
    Fits 30000 (Doc.object (c.docs inputCursor nextCursor)).text := by
  have hcursor {s : BiliScanState} {cursor : Text} (hs : s.binding.Valid)
      (h : s.toCursor = some cursor) : Fits 11202 (string cursor) := by
    obtain ⟨written, hwritten, hfits⟩ := BiliScanState.toCursor_fits hs
    rw [h] at hwritten
    cases hwritten
    exact hfits.string
  have hpages : Fits 4684 (Doc.array (c.pages.map BiliPage.doc)).text := by
    have hlength := Nat.mul_le_mul_right 2341 h.pages
    rw [Doc.text_array]
    refine (fits_array (n := 2340) ?_).mono (by simpa using hlength)
    intro t ht
    simp only [List.mem_map, exists_exists_and_eq_and] at ht
    obtain ⟨w, -, rfl⟩ := ht
    exact w.fits
  have hone : Fits 1 (number 1) := fits_digits (by decide) (by decide)
  have hown : List.Forall₂ (fun (f : String × Doc) (b : String × Nat) =>
      f.1 = b.1 ∧ Fits b.2 f.2.text)
      [("schema_version", .number 1), ("input_cursor", .string inputCursor),
        ("next_cursor", .string nextCursor),
        ("consumed", .array (c.consumed.map BiliIdentity.doc)),
        ("pages", .array (c.pages.map BiliPage.doc))]
      [("schema_version", 1), ("input_cursor", 11202), ("next_cursor", 11202),
        ("consumed", 2282), ("pages", 4684)] :=
    .cons ⟨rfl, hone⟩ (.cons ⟨rfl, hcursor h.input hin⟩ (.cons ⟨rfl, hcursor h.next hnext⟩
      (.cons ⟨rfl, fits_docItems BiliIdentity.fits h.consumed⟩ (.cons ⟨rfl, hpages⟩ .nil))))
  have hall := fits_docs (List.rel_append hown c.summary.docs_fit)
  exact hall.mono (by decide)

/-- A record within its bounds has a line. -/
theorem toJsonLine_bounded {c : BiliScanCoverage} (h : c.Bounded) :
    ∃ line, c.toJsonLine = some line := by
  obtain ⟨inputCursor, hin, -⟩ := BiliScanState.toCursor_fits h.input
  obtain ⟨nextCursor, hnext, -⟩ := BiliScanState.toCursor_fits h.next
  simp only [toJsonLine, hin, hnext, Option.bind_eq_bind, Option.bind_some]
  exact ⟨_, rfl⟩

/-- The line of a record within its bounds is read back. -/
theorem fromJsonLine_toJsonLine (r : JsonReader) {c : BiliScanCoverage} (h : c.Bounded)
    {line : Text} (hline : c.toJsonLine = some line) : fromJsonLine r line = some c := by
  simp only [toJsonLine, Option.bind_eq_bind, Option.bind_eq_some_iff, Option.some.injEq]
    at hline
  obtain ⟨inputCursor, hin, nextCursor, hnext, rfl⟩ := hline
  have hfits := (line_fits h hin hnext).length
  have hisLine := isLine_append (Doc.printable (.object (c.docs inputCursor nextCursor)))
  have hlength : ((Doc.object (c.docs inputCursor nextCursor)).text ++ ['\n']).length ≤ 131072 := by
    rw [List.length_append, List.length_singleton]
    omega
  rw [fromJsonLine, if_pos ⟨hisLine, hlength⟩,
    r.load_line _ (c.keysOnce inputCursor nextCursor), Option.bind_some,
    fromMapping_docs r h hin hnext]

end BiliScanCoverage

end MediaSync.Scan
