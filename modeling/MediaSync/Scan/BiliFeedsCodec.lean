import MediaSync.Scan.BiliCodec
import MediaSync.Scan.BiliFeeds

/-!
# Cursors and records of the two feeds

The cursor of the uploads is a string inside the cursor of both feeds, and the
line of an upload record a string inside the record of both. Everything in the
state of the dynamics is bounded, so the cursor always fits; the record has one
bound, on the line with its line feed, in the writer and in the reader.
-/

namespace MediaSync.Scan

open JsonText Python

def refNames : List String := ["digest", "offset", "next_offset", "source_end", "count"]

namespace DynamicRef

def docs (ref : DynamicRef) : List (String × Doc) :=
  [("digest", .string ref.digest.toList), ("offset", .string ref.offset.toList),
    ("next_offset", .string ref.nextOffset.toList), ("source_end", .bool ref.sourceEnd),
    ("count", .number ref.count)]

def doc (ref : DynamicRef) : Doc := .object ref.docs

/-- `from_mapping`. -/
def fromMapping (value : Json) : Option DynamicRef := do
  let item ← mapping value refNames
  let digest ← readField readText item "digest"
  let offset ← readField readText item "offset"
  let nextOffset ← readField readText item "next_offset"
  let sourceEnd ← readField readBool item "source_end"
  let count ← readField readNat item "count"
  if h : Valid digest offset nextOffset sourceEnd count then
    some ⟨digest, offset, nextOffset, sourceEnd, count, h⟩
  else none

theorem docs_once (ref : DynamicRef) : (ref.docs.map Prod.fst).Nodup :=
  show refNames.Nodup by decide

theorem keysOnce (ref : DynamicRef) : ref.doc.keysOnce = true := by
  rw [doc, Doc.keysOnce_object]
  exact ⟨ref.docs_once, by simp [docs]⟩

theorem fromMapping_doc (ref : DynamicRef) : fromMapping ref.doc.json = some ref := by
  have hdigest := readField_fields ref.docs_once "digest" _ (.head _) (readText_string ref.digest)
  have hoffset := readField_fields ref.docs_once "offset" _ (.tail _ (.head _))
    (readText_string ref.offset)
  have hnext := readField_fields ref.docs_once "next_offset" _ (.tail _ (.tail _ (.head _)))
    (readText_string ref.nextOffset)
  have hend := readField_fields ref.docs_once "source_end" _
    (.tail _ (.tail _ (.tail _ (.head _)))) (readBool_bool ref.sourceEnd)
  have hcount := readField_fields ref.docs_once "count" _
    (.tail _ (.tail _ (.tail _ (.tail _ (.head _))))) (readNat_number ref.count)
  rw [fromMapping, doc, mapping_object ref.docs refNames rfl]
  simp only [Option.bind_eq_bind, Option.bind_some, hdigest, hoffset, hnext, hend, hcount]
  rw [dif_pos ref.valid]

end DynamicRef

def dynamicNames : List String := ["did", "dynamic_type", "pub_ts", "author_mid"]

namespace DynamicIdentity

def docs (i : DynamicIdentity) : List (String × Doc) :=
  [("did", .string i.did.toList), ("dynamic_type", .string i.dynamicType.toList),
    ("pub_ts", pubdateDoc i.pubTs), ("author_mid", .number i.authorMid)]

def doc (i : DynamicIdentity) : Doc := .object i.docs

/-- `from_mapping`. -/
def fromMapping (value : Json) : Option DynamicIdentity := do
  let item ← mapping value dynamicNames
  let did ← readField readText item "did"
  let dynamicType ← readField readText item "dynamic_type"
  let pubTs ← readField readPubdate item "pub_ts"
  let authorMid ← readField readNat item "author_mid"
  if h : validAid did = true ∧ validDynamicType dynamicType = true ∧ 1 ≤ authorMid ∧
      authorMid ≤ 2 ^ 63 - 1 then
    some ⟨did, dynamicType, pubTs, authorMid, h⟩
  else none

theorem docs_once (i : DynamicIdentity) : (i.docs.map Prod.fst).Nodup :=
  show dynamicNames.Nodup by decide

theorem keysOnce (i : DynamicIdentity) : i.doc.keysOnce = true := by
  rw [doc, Doc.keysOnce_object]
  exact ⟨i.docs_once, by simp [docs, pubdateDoc]⟩

theorem fromMapping_doc (i : DynamicIdentity) : fromMapping i.doc.json = some i := by
  have hdid := readField_fields i.docs_once "did" _ (.head _) (readText_string i.did)
  have htype := readField_fields i.docs_once "dynamic_type" _ (.tail _ (.head _))
    (readText_string i.dynamicType)
  have hts := readField_fields i.docs_once "pub_ts" _ (.tail _ (.tail _ (.head _)))
    (readPubdate_doc i.pubTs)
  have hmid := readField_fields i.docs_once "author_mid" _
    (.tail _ (.tail _ (.tail _ (.head _)))) (readNat_number i.authorMid)
  rw [fromMapping, doc, mapping_object i.docs dynamicNames rfl]
  simp only [Option.bind_eq_bind, Option.bind_some, hdid, htype, hts, hmid]
  rw [dif_pos i.valid]

end DynamicIdentity

def snapshotNames : List String := ["ref", "identities"]

namespace DynamicPage

def docs (page : DynamicPage) : List (String × Doc) :=
  [("ref", page.ref.doc), ("identities", .array (page.identities.map DynamicIdentity.doc))]

def doc (page : DynamicPage) : Doc := .object page.docs

/-- `from_mapping`. -/
def fromMapping (value : Json) : Option DynamicPage := do
  let item ← mapping value snapshotNames
  let identities ← readField (readAll DynamicIdentity.fromMapping) item "identities"
  let ref ← readField DynamicRef.fromMapping item "ref"
  if h : Valid ref identities then some ⟨ref, identities, h⟩ else none

theorem docs_once (page : DynamicPage) : (page.docs.map Prod.fst).Nodup :=
  show snapshotNames.Nodup by decide

theorem keysOnce (page : DynamicPage) : page.doc.keysOnce = true := by
  have hids : ∀ d ∈ page.identities.map DynamicIdentity.doc, d.keysOnce = true := by
    rintro d hd
    obtain ⟨i, -, rfl⟩ := List.mem_map.1 hd
    exact i.keysOnce
  rw [doc, Doc.keysOnce_object]
  refine ⟨page.docs_once, ?_⟩
  simp only [docs, List.mem_cons, List.not_mem_nil, or_false, forall_eq_or_imp, forall_eq]
  exact ⟨page.ref.keysOnce, (Doc.keysOnce_array _).2 hids⟩

theorem fromMapping_doc (page : DynamicPage) : fromMapping page.doc.json = some page := by
  have href := readField_fields page.docs_once "ref" _ (.head _) page.ref.fromMapping_doc
  have hids := readField_fields page.docs_once "identities" _ (.tail _ (.head _))
    (readAll_array fun i (_ : i ∈ page.identities) => i.fromMapping_doc)
  rw [fromMapping, doc, mapping_object page.docs snapshotNames rfl]
  simp only [Option.bind_eq_bind, Option.bind_some, href, hids]
  rw [dif_pos page.valid]

end DynamicPage

def dynamicLaneNames : List String := ["offset", "snapshot", "index", "seen_offsets"]

namespace DynamicLane

def docs (l : DynamicLane) : List (String × Doc) :=
  [("offset", .string l.offset.toList), ("snapshot", .orNull DynamicRef.doc l.snapshot),
    ("index", .number l.index),
    ("seen_offsets", .array (l.seenOffsets.map fun digest => .string digest.toList))]

def doc (l : DynamicLane) : Doc := .object l.docs

/-- `from_mapping`. -/
def fromMapping (value : Json) : Option DynamicLane := do
  let item ← mapping value dynamicLaneNames
  let offset ← readField readText item "offset"
  let snapshot ← readField (readOrNull DynamicRef.fromMapping) item "snapshot"
  let index ← readField readNat item "index"
  let seenOffsets ← readField (readAll readText) item "seen_offsets"
  (make offset snapshot index seenOffsets).toOption

theorem docs_once (l : DynamicLane) : (l.docs.map Prod.fst).Nodup :=
  show dynamicLaneNames.Nodup by decide

theorem keysOnce (l : DynamicLane) : l.doc.keysOnce = true := by
  have hsnapshot : (Doc.orNull DynamicRef.doc l.snapshot).keysOnce = true :=
    Doc.keysOnce_orNull fun ref _ => ref.keysOnce
  rw [doc, Doc.keysOnce_object]
  exact ⟨l.docs_once, by simp [docs, hsnapshot]⟩

theorem fromMapping_doc (l : DynamicLane) : fromMapping l.doc.json = some l := by
  have hoffset := readField_fields l.docs_once "offset" _ (.head _) (readText_string l.offset)
  have hsnapshot := readField_fields l.docs_once "snapshot" _ (.tail _ (.head _))
    (readOrNull_orNull DynamicRef.fromMapping_doc (fun ref => json_object_ne_null _) l.snapshot)
  have hindex := readField_fields l.docs_once "index" _ (.tail _ (.tail _ (.head _)))
    (readNat_number l.index)
  have hseen := readField_fields l.docs_once "seen_offsets" _
    (.tail _ (.tail _ (.tail _ (.head _))))
    (readAll_array fun digest (_ : digest ∈ l.seenOffsets) => readText_string digest)
  rw [fromMapping, doc, mapping_object l.docs dynamicLaneNames rfl]
  simp only [Option.bind_eq_bind, Option.bind_some, hoffset, hsnapshot, hindex, hseen]
  rw [make, dif_pos l.valid]
  rfl

end DynamicLane

def dynamicStateNames : List String := ["next_lane", "head", "history"]

namespace DynamicState

def docs (s : DynamicState) : List (String × Doc) :=
  [("next_lane", .string s.nextLane.name.toList), ("head", s.head.doc),
    ("history", s.history.doc)]

def doc (s : DynamicState) : Doc := .object s.docs

/-- `from_mapping`. -/
def fromMapping (value : Json) : Option DynamicState := do
  let item ← mapping value dynamicStateNames
  let nextLane ← readField readLaneName item "next_lane"
  let head ← readField DynamicLane.fromMapping item "head"
  let history ← readField DynamicLane.fromMapping item "history"
  some ⟨nextLane, head, history⟩

theorem docs_once (s : DynamicState) : (s.docs.map Prod.fst).Nodup :=
  show dynamicStateNames.Nodup by decide

theorem keysOnce (s : DynamicState) : s.doc.keysOnce = true := by
  rw [doc, Doc.keysOnce_object]
  exact ⟨s.docs_once, by simp [docs, s.head.keysOnce, s.history.keysOnce]⟩

theorem fromMapping_doc (s : DynamicState) : fromMapping s.doc.json = some s := by
  have hlane := readField_fields s.docs_once "next_lane" _ (.head _)
    (readLaneName_name s.nextLane)
  have hhead := readField_fields s.docs_once "head" _ (.tail _ (.head _)) s.head.fromMapping_doc
  have hhistory := readField_fields s.docs_once "history" _ (.tail _ (.tail _ (.head _)))
    s.history.fromMapping_doc
  rw [fromMapping, doc, mapping_object s.docs dynamicStateNames rfl]
  simp only [Option.bind_eq_bind, Option.bind_some, hlane, hhead, hhistory]

end DynamicState

def BiliScope.name : BiliScope → String
  | uploads => "uploads"
  | dynamics => "dynamics"
  | both => "both"

def BiliFeedName.name : BiliFeedName → String
  | uploads => "uploads"
  | dynamics => "dynamics"

/-- `_SCOPES`. -/
def readScope : Json → Option BiliScope :=
  readName ([.uploads, .dynamics, .both].map fun scope => (scope.name, scope))

def readFeedName : Json → Option BiliFeedName :=
  readName ([.uploads, .dynamics].map fun feed => (feed.name, feed))

theorem readScope_name (scope : BiliScope) :
    readScope (Doc.string scope.name.toList).json = some scope := by
  cases scope <;> decide

theorem readFeedName_name (feed : BiliFeedName) :
    readFeedName (Doc.string feed.name.toList).json = some feed := by
  cases feed <;> decide

def multiFeedNames : List String :=
  ["schema_version", "scope", "next_feed", "uploads_cursor", "dynamics"]

namespace MultiFeedState

def docs (s : MultiFeedState) (uploadsCursor : Text) : List (String × Doc) :=
  [("schema_version", .number 2), ("scope", .string s.scope.name.toList),
    ("next_feed", .string s.nextFeed.name.toList), ("uploads_cursor", .string uploadsCursor),
    ("dynamics", s.dynamics.doc)]

/-- The constructor call of `from_cursor` over the decoded fields. -/
def fromMapping (r : JsonReader) (value : Json) : Option MultiFeedState := do
  let item ← mapping value multiFeedNames
  let schema ← readField readNat item "schema_version"
  let uploads ← readField (BiliScanState.format.readCursor r) item "uploads_cursor"
  let scope ← readField readScope item "scope"
  let nextFeed ← readField readFeedName item "next_feed"
  let dynamics ← readField DynamicState.fromMapping item "dynamics"
  if schema = 2 then (make uploads scope nextFeed dynamics).toOption else none

/-- The document of a state, where the cursor of its uploads can be written. -/
def doc (s : MultiFeedState) : Option Doc :=
  s.uploads.toCursor.map fun cursor => .object (s.docs cursor)

def format : CursorFormat MultiFeedState :=
  ⟨"bili-multifeed-v2:".toList, 65536, doc, fromMapping⟩

/-- `to_cursor`. -/
def toCursor : MultiFeedState → Option Text := format.encode

/-- `from_cursor`. -/
def fromCursor (r : JsonReader) : Text → Option MultiFeedState := format.decode r

theorem docs_once (s : MultiFeedState) (uploadsCursor : Text) :
    ((s.docs uploadsCursor).map Prod.fst).Nodup :=
  show multiFeedNames.Nodup by decide

theorem keysOnce (s : MultiFeedState) (uploadsCursor : Text) :
    (Doc.object (s.docs uploadsCursor)).keysOnce = true := by
  rw [Doc.keysOnce_object]
  exact ⟨s.docs_once uploadsCursor, by simp [docs, s.dynamics.keysOnce]⟩

theorem fromMapping_docs (r : JsonReader) {s : MultiFeedState} (h : s.uploads.binding.Valid)
    {cursor : Text} (hcursor : BiliScanState.format.encode s.uploads = some cursor) :
    fromMapping r (Doc.object (s.docs cursor)).json = some s := by
  have honce := s.docs_once cursor
  have hschema := readField_fields honce "schema_version" _ (.head _) (readNat_number 2)
  have hscope := readField_fields honce "scope" _ (.tail _ (.head _)) (readScope_name s.scope)
  have hfeed := readField_fields honce "next_feed" _ (.tail _ (.tail _ (.head _)))
    (readFeedName_name s.nextFeed)
  have huploads := readField_fields honce "uploads_cursor" _
    (.tail _ (.tail _ (.tail _ (.head _))))
    (CursorFormat.readCursor_string (BiliScanState.reads r h) hcursor)
  have hdynamics := readField_fields honce "dynamics" _
    (.tail _ (.tail _ (.tail _ (.tail _ (.head _))))) s.dynamics.fromMapping_doc
  rw [fromMapping, mapping_object _ multiFeedNames rfl]
  simp only [Option.bind_eq_bind, Option.bind_some, hschema, hscope, hfeed, huploads, hdynamics,
    if_true]
  rw [make, dif_pos s.valid]
  rfl

-- The two fields of the format, without evaluating the cursor of the uploads.
theorem format_doc (s : MultiFeedState) : format.doc s = s.doc := by
  delta format
  dsimp only

theorem format_read (r : JsonReader) (value : Json) :
    format.read r value = fromMapping r value := by
  delta format
  dsimp only

theorem reads (r : JsonReader) {s : MultiFeedState} (h : s.uploads.binding.Valid) :
    format.Reads r s := by
  intro d hd
  rw [format_doc, doc, Option.map_eq_some_iff] at hd
  obtain ⟨cursor, hcursor, rfl⟩ := hd
  rw [format_read]
  exact ⟨s.keysOnce cursor, fromMapping_docs r h hcursor⟩

/-- An accepted cursor holds an accepted cursor of the uploads. -/
theorem valid_of_fromCursor {r : JsonReader} {value : Text} {s : MultiFeedState}
    (h : fromCursor r value = some s) : s.uploads.binding.Valid := by
  obtain ⟨item, hread⟩ := CursorFormat.read_of_decode h
  rw [format_read] at hread
  simp only [fromMapping, Option.bind_eq_bind, Option.bind_eq_some_iff] at hread
  obtain ⟨fields, -, schema, -, uploads, huploads, scope, -, feed, -, dynamics, -, hread⟩ := hread
  have hvalid : uploads.binding.Valid := by
    simp only [readField, CursorFormat.readCursor, Option.bind_eq_some_iff] at huploads
    obtain ⟨_, -, text, -, hdecode⟩ := huploads
    exact BiliScanState.valid_of_fromCursor hdecode
  split at hread
  · unfold make at hread
    split at hread
    · cases hread
      exact hvalid
    · cases hread
  · cases hread

end MultiFeedState

theorem isPlain_of_offset {c : Char} (h : isAsciiAlphanum c = true ∨ c = '_' ∨ c = '-') :
    isPlain c = true := by
  rcases h with h | rfl | rfl
  · exact isPlain_of_isAsciiAlphanum h
  · decide
  · decide

theorem fits_offset {s : String} (h : validOffset s = true) : Fits 258 (string s.toList) := by
  simp only [validOffset, Bool.and_eq_true, decide_eq_true_eq, List.all_eq_true,
    Bool.or_eq_true, or_assoc] at h
  exact fits_string_plain (fun c hc => isPlain_of_offset (h.2 c hc)) h.1

theorem fits_digest {s : String} (h : validDigest s = true) : Fits 66 (string s.toList) :=
  fits_hexText h

theorem DynamicRef.fits (ref : DynamicRef) : Fits 660 ref.doc.text := by
  have hcount : Fits 2 (number ref.count) := fits_number ref.valid.size
  have h : Fits (objectBound [("digest", 66), ("offset", 258), ("next_offset", 258),
      ("source_end", 5), ("count", 2)]) ref.doc.text :=
    fits_docs (.cons ⟨rfl, fits_digest ref.valid.digestShape⟩
      (.cons ⟨rfl, fits_offset ref.valid.offsetShape⟩
        (.cons ⟨rfl, fits_offset ref.valid.nextShape⟩ (.cons ⟨rfl, fits_bool _⟩
          (.cons ⟨rfl, hcount⟩ .nil)))))
  exact h.mono (by decide)

theorem DynamicLane.fits (l : DynamicLane) : Fits 5300 l.doc.text := by
  have hindex : Fits 2 (number l.index) := fits_number l.valid.indexRange
  have hsnapshot : Fits 660 (Doc.orNull DynamicRef.doc l.snapshot).text :=
    fits_docOrNull (fun ref _ => ref.fits) (by omega)
  have hseen : Fits 4290 (Doc.array (l.seenOffsets.map fun d => .string d.toList)).text := by
    have hlength := Nat.mul_le_mul_right 67 l.valid.seenLength
    rw [Doc.text_array]
    refine (fits_array (n := 66) ?_).mono (by simp only [List.length_map]; omega)
    intro t ht
    simp only [List.mem_map, exists_exists_and_eq_and] at ht
    obtain ⟨d, hd, rfl⟩ := ht
    exact fits_digest (l.valid.seenDigests d hd)
  have h : Fits (objectBound [("offset", 258), ("snapshot", 660), ("index", 2),
      ("seen_offsets", 4290)]) l.doc.text :=
    fits_docs (.cons ⟨rfl, fits_offset l.valid.offsetShape⟩ (.cons ⟨rfl, hsnapshot⟩
      (.cons ⟨rfl, hindex⟩ (.cons ⟨rfl, hseen⟩ .nil))))
  exact h.mono (by decide)

theorem DynamicState.fits (s : DynamicState) : Fits 10660 s.doc.text := by
  have h : Fits (objectBound [("next_lane", 9), ("head", 5300), ("history", 5300)]) s.doc.text :=
    fits_docs (.cons ⟨rfl, fits_laneName _⟩ (.cons ⟨rfl, s.head.fits⟩
      (.cons ⟨rfl, s.history.fits⟩ .nil)))
  exact h.mono (by decide)

/-- A state of both feeds always fits its cursor. -/
theorem MultiFeedState.toCursor_fits {s : MultiFeedState} (h : s.uploads.binding.Valid) :
    ∃ cursor, s.toCursor = some cursor ∧ Fits 22000 cursor := by
  obtain ⟨uploadsCursor, huploads, hfits⟩ := BiliScanState.toCursor_fits h
  have hone : Fits 1 (number 2) := fits_digits (by decide) (by decide)
  have hscope : Fits 10 (string s.scope.name.toList) := by
    cases s.scope <;> exact ⟨string_printable _, by decide⟩
  have hfeed : Fits 10 (string s.nextFeed.name.toList) := by
    cases s.nextFeed <;> exact ⟨string_printable _, by decide⟩
  have hdoc : Fits (objectBound [("schema_version", 1), ("scope", 10), ("next_feed", 10),
      ("uploads_cursor", 11202), ("dynamics", 10660)])
      (Doc.object (s.docs uploadsCursor)).text :=
    fits_docs (.cons ⟨rfl, hone⟩ (.cons ⟨rfl, hscope⟩ (.cons ⟨rfl, hfeed⟩
      (.cons ⟨rfl, hfits.string⟩ (.cons ⟨rfl, s.dynamics.fits⟩ .nil)))))
  have hfront : Fits 18 "bili-multifeed-v2:".toList := .of_all (by decide) (by decide)
  have htext := (hfront.append (hdoc.mono (m := 21980) (by decide))).mono (m := 22000) (by omega)
  have hlength := htext.length
  refine ⟨_, CursorFormat.encode_eq_some_iff.2 ⟨_, ?_, rfl, hlength.trans (by decide)⟩, htext⟩
  rw [MultiFeedState.format_doc, MultiFeedState.doc, huploads, Option.map_some]

/-! ## Records -/

def consumptionNames : List String := ["identity", "video_identity"]

namespace DynamicConsumption

def docs (c : DynamicConsumption) : List (String × Doc) :=
  [("identity", c.identity.doc), ("video_identity", .orNull BiliIdentity.doc c.videoIdentity)]

def doc (c : DynamicConsumption) : Doc := .object c.docs

/-- `from_mapping`. -/
def fromMapping (value : Json) : Option DynamicConsumption := do
  let item ← mapping value consumptionNames
  let identity ← readField DynamicIdentity.fromMapping item "identity"
  let videoIdentity ← readField (readOrNull BiliIdentity.fromMapping) item "video_identity"
  if h : Valid identity videoIdentity then some ⟨identity, videoIdentity, h⟩ else none

theorem docs_once (c : DynamicConsumption) : (c.docs.map Prod.fst).Nodup :=
  show consumptionNames.Nodup by decide

theorem keysOnce (c : DynamicConsumption) : c.doc.keysOnce = true := by
  have hvideo : (Doc.orNull BiliIdentity.doc c.videoIdentity).keysOnce = true :=
    Doc.keysOnce_orNull fun i _ => i.keysOnce
  rw [doc, Doc.keysOnce_object]
  exact ⟨c.docs_once, by simp [docs, c.identity.keysOnce, hvideo]⟩

theorem fromMapping_doc (c : DynamicConsumption) : fromMapping c.doc.json = some c := by
  have hidentity := readField_fields c.docs_once "identity" _ (.head _)
    c.identity.fromMapping_doc
  have hvideo := readField_fields c.docs_once "video_identity" _ (.tail _ (.head _))
    (readOrNull_orNull BiliIdentity.fromMapping_doc (fun i => json_object_ne_null _)
      c.videoIdentity)
  rw [fromMapping, doc, mapping_object c.docs consumptionNames rfl]
  simp only [Option.bind_eq_bind, Option.bind_some, hidentity, hvideo]
  rw [dif_pos c.valid]

end DynamicConsumption

def DynamicReason.name : DynamicReason → String
  | snapshotSaved => "snapshot_saved"
  | itemLimit => "item_limit"
  | pageEnd => "page_end"
  | sourceEnd => "source_end"
  | restarted => "restarted"

def Observation.name : Observation → String
  | list => "list"
  | load => "load"

def readDynamicReason : Json → Option DynamicReason :=
  readName ([.snapshotSaved, .itemLimit, .pageEnd, .sourceEnd, .restarted].map
    fun reason => (reason.name, reason))

def readObservation : Json → Option Observation :=
  readName ([.list, .load].map fun observation => (observation.name, observation))

def dynamicReasonDoc (reason : DynamicReason) : Doc := .string reason.name.toList

def observationDoc (observation : Observation) : Doc := .string observation.name.toList

theorem readDynamicReason_doc (reason : DynamicReason) :
    readDynamicReason (dynamicReasonDoc reason).json = some reason := by
  cases reason <;> decide

theorem readObservation_doc (observation : Observation) :
    readObservation (observationDoc observation).json = some observation := by
  cases observation <;> decide

def multiRecordNames : List String :=
  ["schema_version", "feed", "input_cursor", "next_cursor", "uploads", "page", "observation",
    "dynamic_consumed", "reason"]

namespace MultiFeedCoverage

/-- The fields of the record, given its cursors and the line of its upload record. -/
def docs (c : MultiFeedCoverage) (inputCursor nextCursor : Text) (uploads : Option Text) :
    List (String × Doc) :=
  [("schema_version", .number 2), ("feed", .string c.feed.name.toList),
    ("input_cursor", .string inputCursor), ("next_cursor", .string nextCursor),
    ("uploads", .orNull .string uploads), ("page", .orNull DynamicPage.doc c.page),
    ("observation", .orNull observationDoc c.observation),
    ("dynamic_consumed", .array (c.dynamicConsumed.map DynamicConsumption.doc)),
    ("reason", .orNull dynamicReasonDoc c.reason)]

/-- The line of the upload record, if there is one; `none` where writing it fails. -/
def uploadsLine (c : MultiFeedCoverage) : Option (Option Text) :=
  match c.uploads with
  | none => some none
  | some uploads => uploads.toJsonLine.map some

/-- `to_json_line`. -/
def toJsonLine (c : MultiFeedCoverage) : Option Text := do
  let inputCursor ← c.inputState.toCursor
  let nextCursor ← c.nextState.toCursor
  let uploads ← c.uploadsLine
  let result := (Doc.object (c.docs inputCursor nextCursor uploads)).text ++ ['\n']
  if result.length ≤ 262144 then some result else none

def readUploads (r : JsonReader) : Json → Option (Option BiliScanCoverage) :=
  readOrNull fun item => (readText item).bind fun line => BiliScanCoverage.fromJsonLine r line.toList

def fromMapping (r : JsonReader) (value : Json) : Option MultiFeedCoverage := do
  let item ← mapping value multiRecordNames
  let schema ← readField readNat item "schema_version"
  let inputState ← readField (MultiFeedState.format.readCursor r) item "input_cursor"
  let nextState ← readField (MultiFeedState.format.readCursor r) item "next_cursor"
  let feed ← readField readFeedName item "feed"
  let uploads ← readField (readUploads r) item "uploads"
  let page ← readField (readOrNull DynamicPage.fromMapping) item "page"
  let observation ← readField (readOrNull readObservation) item "observation"
  let consumed ← readField (readAll DynamicConsumption.fromMapping) item "dynamic_consumed"
  let reason ← readField (readOrNull readDynamicReason) item "reason"
  if schema = 2 ∧ consumed.length ≤ biliDynamicPageSize then
    some ⟨inputState, nextState, feed, uploads, page, observation, consumed, reason⟩
  else none

/-- `from_json_line`. -/
def fromJsonLine (r : JsonReader) (value : Text) : Option MultiFeedCoverage :=
  if isLine value ∧ value.length ≤ 262144 then (r.load value).bind (fromMapping r) else none

/-- What a unit's record keeps within: the bounds of its reader. -/
structure Bounded (c : MultiFeedCoverage) : Prop where
  input : c.inputState.uploads.binding.Valid
  next : c.nextState.uploads.binding.Valid
  uploads : ∀ u ∈ c.uploads, u.Bounded
  consumed : c.dynamicConsumed.length ≤ biliDynamicPageSize

theorem docs_once (c : MultiFeedCoverage) (inputCursor nextCursor : Text)
    (uploads : Option Text) : ((c.docs inputCursor nextCursor uploads).map Prod.fst).Nodup :=
  show multiRecordNames.Nodup by decide

theorem keysOnce (c : MultiFeedCoverage) (inputCursor nextCursor : Text)
    (uploads : Option Text) :
    (Doc.object (c.docs inputCursor nextCursor uploads)).keysOnce = true := by
  have huploads : (Doc.orNull .string uploads).keysOnce = true :=
    Doc.keysOnce_orNull fun _ _ => rfl
  have hpage : (Doc.orNull DynamicPage.doc c.page).keysOnce = true :=
    Doc.keysOnce_orNull fun page _ => page.keysOnce
  have hobservation : (Doc.orNull observationDoc c.observation).keysOnce = true :=
    Doc.keysOnce_orNull fun _ _ => rfl
  have hreason : (Doc.orNull dynamicReasonDoc c.reason).keysOnce = true :=
    Doc.keysOnce_orNull fun _ _ => rfl
  have hconsumed : ∀ d ∈ c.dynamicConsumed.map DynamicConsumption.doc, d.keysOnce = true := by
    rintro d hd
    obtain ⟨i, -, rfl⟩ := List.mem_map.1 hd
    exact i.keysOnce
  rw [Doc.keysOnce_object]
  refine ⟨c.docs_once inputCursor nextCursor uploads, ?_⟩
  simp only [docs, List.mem_cons, List.not_mem_nil, or_false, forall_eq_or_imp, forall_eq,
    Doc.keysOnce_number, Doc.keysOnce_string, true_and]
  exact ⟨huploads, hpage, hobservation, (Doc.keysOnce_array _).2 hconsumed, hreason⟩

theorem readUploads_line (r : JsonReader) {c : MultiFeedCoverage} (h : c.Bounded)
    {uploads : Option Text} (huploads : c.uploadsLine = some uploads) :
    readUploads r (Doc.orNull .string uploads).json = some c.uploads := by
  unfold uploadsLine at huploads
  cases hc : c.uploads with
  | none =>
    rw [hc] at huploads
    cases huploads
    rfl
  | some coverage =>
    rw [hc] at huploads
    obtain ⟨line, hline, rfl⟩ := Option.map_eq_some_iff.1 huploads
    have hread := BiliScanCoverage.fromJsonLine_toJsonLine r (h.uploads coverage hc) hline
    simp only [readUploads, Doc.orNull, Doc.json, readOrNull, readText, Option.bind_some,
      String.toList_ofList, hread, Option.map_some]

theorem fromMapping_docs (r : JsonReader) {c : MultiFeedCoverage} (h : c.Bounded)
    {inputCursor nextCursor : Text} {uploads : Option Text}
    (hin : MultiFeedState.format.encode c.inputState = some inputCursor)
    (hnext : MultiFeedState.format.encode c.nextState = some nextCursor)
    (huploads : c.uploadsLine = some uploads) :
    fromMapping r (Doc.object (c.docs inputCursor nextCursor uploads)).json = some c := by
  have honce := c.docs_once inputCursor nextCursor uploads
  have hmem {f : String × Doc} (h : f ∈ (c.docs inputCursor nextCursor uploads).drop 4) :
      f ∈ c.docs inputCursor nextCursor uploads := List.mem_of_mem_drop h
  have hschema := readField_fields honce "schema_version" _ (.head _) (readNat_number 2)
  have hfeed := readField_fields honce "feed" _ (.tail _ (.head _)) (readFeedName_name c.feed)
  have hinput := readField_fields honce "input_cursor" _ (.tail _ (.tail _ (.head _)))
    (CursorFormat.readCursor_string (MultiFeedState.reads r h.input) hin)
  have houtput := readField_fields honce "next_cursor" _
    (.tail _ (.tail _ (.tail _ (.head _))))
    (CursorFormat.readCursor_string (MultiFeedState.reads r h.next) hnext)
  have hlines := readField_fields honce "uploads" _ (hmem (.head _))
    (readUploads_line r h huploads)
  have hpage := readField_fields honce "page" _ (hmem (.tail _ (.head _)))
    (readOrNull_orNull DynamicPage.fromMapping_doc (fun page => json_object_ne_null _) c.page)
  have hobservation := readField_fields honce "observation" _
    (hmem (.tail _ (.tail _ (.head _))))
    (readOrNull_orNull readObservation_doc (fun _ => nofun) c.observation)
  have hconsumed := readField_fields honce "dynamic_consumed" _
    (hmem (.tail _ (.tail _ (.tail _ (.head _)))))
    (readAll_array fun i (_ : i ∈ c.dynamicConsumed) => i.fromMapping_doc)
  have hreason := readField_fields honce "reason" _
    (hmem (.tail _ (.tail _ (.tail _ (.tail _ (.head _))))))
    (readOrNull_orNull readDynamicReason_doc (fun _ => nofun) c.reason)
  rw [fromMapping, mapping_object _ multiRecordNames rfl]
  simp only [Option.bind_eq_bind, Option.bind_some, hschema, hfeed, hinput, houtput, hlines,
    hpage, hobservation, hconsumed, hreason]
  rw [if_pos ⟨trivial, h.consumed⟩]

/-- A written line is read back, as what it was written from. -/
theorem fromJsonLine_toJsonLine (r : JsonReader) {c : MultiFeedCoverage} (h : c.Bounded)
    {line : Text} (hline : c.toJsonLine = some line) : fromJsonLine r line = some c := by
  simp only [toJsonLine, Option.bind_eq_bind, Option.bind_eq_some_iff] at hline
  obtain ⟨inputCursor, hin, nextCursor, hnext, uploads, huploads, hline⟩ := hline
  split at hline
  · rename_i hlength
    cases hline
    have hisLine := isLine_append
      (Doc.printable (.object (c.docs inputCursor nextCursor uploads)))
    rw [fromJsonLine, if_pos ⟨hisLine, hlength⟩,
      r.load_line _ (c.keysOnce inputCursor nextCursor uploads), Option.bind_some,
      fromMapping_docs r h hin hnext huploads]
  · cases hline

end MultiFeedCoverage

end MediaSync.Scan
