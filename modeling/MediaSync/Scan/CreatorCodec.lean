import MediaSync.Foundation.JsonDoc
import MediaSync.Scan.CreatorText

/-!
# Reading creator cursors and records

The readers of the two creator planners, next to the documents their writers
build. Every record of a cursor is taken apart by its exact set of keys and
checked again by its constructor; a cursor is accepted only where writing the
state again gives the very same text.

`none` stands for whichever exception the reader leaves with.
-/

namespace MediaSync.Scan

open JsonText Python

variable {p : CreatorPlatform}

theorem text_orNull {α : Type} {doc : α → Doc} {text : α → Text}
    (h : ∀ a, (doc a).text = text a) (value : Option α) :
    (Doc.orNull doc value).text = orNull text value := by
  cases value with
  | none => rfl
  | some a => exact h a

/-- `UUID(value)` where `str` of it is the value again. -/
def Uuid.parse (value : String) : Option Uuid :=
  let hex := value.toList.filter (· ≠ '-')
  if h : hex.length = 32 ∧ hex.all isHex = true then
    if (Uuid.mk hex h).text = value.toList then some ⟨hex, h⟩ else none
  else none

theorem Uuid.filter_text (u : Uuid) : u.text.filter (· ≠ '-') = u.hex := by
  have hkeep (t : Text) (h : ∀ c ∈ t, c ∈ u.hex) : t.filter (· ≠ '-') = t := by
    rw [List.filter_eq_self]
    intro c hc
    have hhex := List.all_eq_true.1 u.valid.2 c (h c hc)
    rw [decide_eq_true_eq]
    rintro rfl
    revert hhex
    decide
  have htake (n k : Nat) : ((u.hex.drop n).take k).filter (· ≠ '-') = (u.hex.drop n).take k :=
    hkeep _ fun c hc => List.mem_of_mem_drop (List.mem_of_mem_take hc)
  have hfirst := hkeep (u.hex.take 8) fun c hc => List.mem_of_mem_take hc
  have hlast := hkeep (u.hex.drop 20) fun c hc => List.mem_of_mem_drop hc
  have hdash (t : Text) : ('-' :: t).filter (· ≠ '-') = t.filter (· ≠ '-') := by simp
  simp only [Uuid.text, List.filter_append, hdash, htake, hfirst, hlast, List.append_assoc]
  rw [show u.hex.drop 20 = (u.hex.drop 16).drop 4 by rw [List.drop_drop],
    List.take_append_drop, show u.hex.drop 16 = (u.hex.drop 12).drop 4 by rw [List.drop_drop],
    List.take_append_drop, show u.hex.drop 12 = (u.hex.drop 8).drop 4 by rw [List.drop_drop],
    List.take_append_drop, List.take_append_drop]

@[simp] theorem Uuid.parse_text (u : Uuid) : Uuid.parse (String.ofList u.text) = some u := by
  have htext : (Uuid.mk u.hex u.valid).text = u.text := rfl
  unfold Uuid.parse
  simp only [String.toList_ofList, Uuid.filter_text, u.valid, and_self, dif_pos, htext, if_true]

def readUuid (value : Json) : Option Uuid := (readText value).bind Uuid.parse

@[simp] theorem readUuid_string (u : Uuid) : readUuid (Doc.string u.text).json = some u := by
  simp [readUuid, Doc.json, readText]

/-- The name that the text stands for. -/
def readName {α : Type} (names : List (String × α)) (value : Json) : Option α :=
  (readText value).bind fun name => (names.find? (fun n => n.1 = name)).map Prod.snd

def CreatorLane.name : CreatorLane → String
  | history => "history"
  | head => "head"

def CreatorReason.name : CreatorReason → String
  | hasMoreFalse => "has_more_false"
  | emptyPageStalled => "empty_page_stalled"
  | accessRestricted => "access_restricted"
  | unitCapReached => "unit_cap_reached"

def CreatorStatus.name : CreatorStatus → String
  | stored => "stored"
  | unchanged => "unchanged"
  | detailUnavailable => "detail_unavailable"
  | accessRestricted => "access_restricted"

def readLane : Json → Option CreatorLane :=
  readName ([.history, .head].map fun lane => (lane.name, lane))

/-- `XHS_SCAN_STOP_REASONS`. -/
def readReason : Json → Option CreatorReason :=
  readName ([.hasMoreFalse, .emptyPageStalled, .accessRestricted, .unitCapReached].map
    fun reason => (reason.name, reason))

/-- `_OUTCOME_STATUSES`. -/
def readStatus : Json → Option CreatorStatus :=
  readName ([.stored, .unchanged, .detailUnavailable, .accessRestricted].map
    fun status => (status.name, status))

theorem readLane_name (lane : CreatorLane) :
    readLane (Doc.string lane.name.toList).json = some lane := by
  cases lane <;> decide

theorem readReason_name (reason : CreatorReason) :
    readReason (Doc.string reason.name.toList).json = some reason := by
  cases reason <;> decide

theorem readStatus_name (status : CreatorStatus) :
    readStatus (Doc.string status.name.toList).json = some status := by
  cases status <;> decide

/-! ## Pages -/

def listingKeys (p : CreatorPlatform) : List String := [p.idField, "listing_sha256"]

theorem listingKeys_once (p : CreatorPlatform) : (listingKeys p).Nodup := by cases p <;> decide

def ListingIdentity.docs (i : ListingIdentity p) : List (String × Doc) :=
  [(p.idField, .string i.id.toList), ("listing_sha256", .string i.listingSha256.toList)]

def ListingIdentity.doc (i : ListingIdentity p) : Doc := .object i.docs

/-- `XhsListingIdentity.from_mapping`. -/
def ListingIdentity.fromMapping (p : CreatorPlatform) (value : Json) :
    Option (ListingIdentity p) := do
  let item ← mapping value (listingKeys p)
  let id ← readField readText item p.idField
  let listingSha256 ← readField readText item "listing_sha256"
  if h : p.validId id = true ∧ isHexText 64 listingSha256 = true then
    some ⟨id, listingSha256, h⟩
  else none

theorem ListingIdentity.text_doc (i : ListingIdentity p) : i.doc.text = i.text := by
  rw [doc, Doc.text_object]
  rfl

theorem ListingIdentity.keysOnce (i : ListingIdentity p) : i.doc.keysOnce = true := by
  rw [doc, Doc.keysOnce_object]
  exact ⟨listingKeys_once p, by simp [docs, Doc.keysOnce]⟩

theorem ListingIdentity.fromMapping_doc (i : ListingIdentity p) :
    fromMapping p i.doc.json = some i := by
  have hkeys : (i.docs.map Prod.fst).Nodup := listingKeys_once p
  have hid := readField_fields hkeys p.idField _ (.head _) (readText_string i.id)
  have hsha := readField_fields hkeys "listing_sha256" _ (.tail _ (.head _))
    (readText_string i.listingSha256)
  rw [fromMapping, doc, mapping_object i.docs (listingKeys p) rfl]
  simp only [Option.bind_eq_bind, Option.bind_some, hid, hsha]
  rw [dif_pos i.valid]

def tokenKeys : CreatorPlatform → List String
  | .xhs => ["token_sha256", "xsec_source"]
  | .douyin => []

def tokenDocs : (p : CreatorPlatform) → p.Token → List (String × Doc)
  | .xhs, (token : XsecToken) =>
    [("token_sha256", .string token.tokenSha256.toList),
      ("xsec_source", .string token.xsecSource.toList)]
  | .douyin, _ => []

def readToken : (p : CreatorPlatform) → List (String × Json) → Option p.Token
  | .xhs, item => do
    let tokenSha256 ← readField readText item "token_sha256"
    let xsecSource ← readField readText item "xsec_source"
    if h : isHexText 64 tokenSha256 = true ∧ isXsecSource xsecSource = true then
      some (XsecToken.mk tokenSha256 xsecSource h)
    else none
  | .douyin, _ => some ()

def identityKeys (p : CreatorPlatform) : List String := listingKeys p ++ tokenKeys p

theorem identityKeys_once (p : CreatorPlatform) : (identityKeys p).Nodup := by
  cases p <;> decide

def CreatorIdentity.docs (i : CreatorIdentity p) : List (String × Doc) :=
  i.toListingIdentity.docs ++ tokenDocs p i.token

def CreatorIdentity.doc (i : CreatorIdentity p) : Doc := .object i.docs

/-- `XhsNoteIdentity.from_mapping`. -/
def CreatorIdentity.fromMapping (p : CreatorPlatform) (value : Json) :
    Option (CreatorIdentity p) := do
  let item ← mapping value (identityKeys p)
  let id ← readField readText item p.idField
  let listingSha256 ← readField readText item "listing_sha256"
  let token ← readToken p item
  if h : p.validId id = true ∧ isHexText 64 listingSha256 = true then
    some ⟨⟨id, listingSha256, h⟩, token⟩
  else none

theorem CreatorIdentity.docs_keys (i : CreatorIdentity p) :
    i.docs.map Prod.fst = identityKeys p := by
  cases p <;> rfl

theorem CreatorIdentity.text_doc (i : CreatorIdentity p) : i.doc.text = i.text := by
  rw [doc, Doc.text_object]
  cases p <;> rfl

theorem CreatorIdentity.keysOnce (i : CreatorIdentity p) : i.doc.keysOnce = true := by
  rw [doc, Doc.keysOnce_object, i.docs_keys]
  refine ⟨identityKeys_once p, ?_⟩
  cases p <;> simp [docs, ListingIdentity.docs, tokenDocs, Doc.keysOnce]

theorem CreatorIdentity.readToken_docs (i : CreatorIdentity p) :
    readToken p (sortedFields (i.docs.map fun f => (f.1, f.2.json))) = some i.token := by
  have hkeys : (i.docs.map Prod.fst).Nodup := i.docs_keys ▸ identityKeys_once p
  cases p with
  | douyin => rfl
  | xhs =>
    obtain ⟨⟨id, listing, valid⟩, token⟩ := i
    have hsha := readField_fields hkeys "token_sha256" _ (.tail _ (.tail _ (.head _)))
      (readText_string (XsecToken.tokenSha256 token))
    have hsource := readField_fields hkeys "xsec_source" _ (.tail _ (.tail _ (.tail _ (.head _))))
      (readText_string (XsecToken.xsecSource token))
    simp only [readToken, Option.bind_eq_bind, hsha, hsource, Option.bind_some]
    rw [dif_pos (XsecToken.valid token)]
    rfl

theorem CreatorIdentity.fromMapping_doc (i : CreatorIdentity p) :
    fromMapping p i.doc.json = some i := by
  have hkeys : (i.docs.map Prod.fst).Nodup := i.docs_keys ▸ identityKeys_once p
  have hid := readField_fields hkeys p.idField _ (.head _) (readText_string i.id)
  have hsha := readField_fields hkeys "listing_sha256" _ (.tail _ (.head _))
    (readText_string i.listingSha256)
  rw [fromMapping, doc, mapping_object i.docs (identityKeys p) i.docs_keys]
  simp only [Option.bind_eq_bind, Option.bind_some, hid, hsha, i.readToken_docs]
  rw [dif_pos i.valid]

def pageKeys : List String := ["input_cursor", "next_cursor", "has_more", "identities"]

def pageDocs (inputCursor nextCursor : String) (hasMore : Bool) (identities : List Doc) :
    List (String × Doc) :=
  [("input_cursor", .string inputCursor.toList), ("next_cursor", .string nextCursor.toList),
    ("has_more", .bool hasMore), ("identities", .array identities)]

/-- What a witness and a page have in common: their reader, given that of an identity. -/
def pageFromMapping {α β : Type} (read : Json → Option α)
    (make : String → String → Bool → List α → Option β) (value : Json) : Option β := do
  let item ← mapping value pageKeys
  let inputCursor ← readField readText item "input_cursor"
  let nextCursor ← readField readText item "next_cursor"
  let hasMore ← readField readBool item "has_more"
  let identities ← readField (readAll read) item "identities"
  make inputCursor nextCursor hasMore identities

theorem pageFromMapping_docs {α β : Type} {read : Json → Option α} {doc : α → Doc}
    {make : String → String → Bool → List α → Option β} {identities : List α}
    (h : ∀ i ∈ identities, read (doc i).json = some i) (inputCursor nextCursor : String)
    (hasMore : Bool) :
    pageFromMapping read make
        (Doc.object (pageDocs inputCursor nextCursor hasMore (identities.map doc))).json =
      make inputCursor nextCursor hasMore identities := by
  have hkeys : ((pageDocs inputCursor nextCursor hasMore (identities.map doc)).map
      Prod.fst).Nodup := show pageKeys.Nodup by decide
  have hinput := readField_fields hkeys "input_cursor" _ (.head _) (readText_string inputCursor)
  have hnext := readField_fields hkeys "next_cursor" _ (.tail _ (.head _))
    (readText_string nextCursor)
  have hmore := readField_fields hkeys "has_more" _ (.tail _ (.tail _ (.head _)))
    (readBool_bool hasMore)
  have hids := readField_fields hkeys "identities" _ (.tail _ (.tail _ (.tail _ (.head _))))
    (readAll_array h)
  rw [pageFromMapping, mapping_object _ pageKeys rfl]
  simp only [Option.bind_eq_bind, Option.bind_some, hinput, hnext, hmore, hids]

theorem keysOnce_page {inputCursor nextCursor : String} {hasMore : Bool} {identities : List Doc}
    (h : ∀ d ∈ identities, d.keysOnce = true) :
    (Doc.object (pageDocs inputCursor nextCursor hasMore identities)).keysOnce = true := by
  rw [Doc.keysOnce_object]
  refine ⟨show pageKeys.Nodup by decide, ?_⟩
  simpa [pageDocs, Doc.keysOnce, Doc.allOnce_iff] using h

def PageWitness.doc (w : PageWitness p) : Doc :=
  .object (pageDocs w.inputCursor w.nextCursor w.hasMore (w.identities.map ListingIdentity.doc))

/-- `XhsPageWitness.from_mapping`. -/
def PageWitness.fromMapping (p : CreatorPlatform) : Json → Option (PageWitness p) :=
  pageFromMapping (ListingIdentity.fromMapping p) fun inputCursor nextCursor hasMore identities =>
    if h : Valid inputCursor nextCursor hasMore identities then
      some ⟨inputCursor, nextCursor, hasMore, identities, h⟩
    else none

theorem PageWitness.text_doc (w : PageWitness p) : w.doc.text = w.text := by
  rw [doc, Doc.text_object]
  simp only [pageDocs, List.map_cons, List.map_nil, Doc.text_array, List.map_map]
  rw [show Doc.text ∘ ListingIdentity.doc = ListingIdentity.text (p := p) from
    funext ListingIdentity.text_doc]
  rfl

theorem PageWitness.keysOnce (w : PageWitness p) : w.doc.keysOnce = true := by
  refine keysOnce_page ?_
  rintro d hd
  obtain ⟨i, -, rfl⟩ := List.mem_map.1 hd
  exact i.keysOnce

theorem PageWitness.fromMapping_doc (w : PageWitness p) : fromMapping p w.doc.json = some w := by
  rw [fromMapping, doc, pageFromMapping_docs fun i _ => i.fromMapping_doc, dif_pos w.valid]

def CreatorPage.doc (page : CreatorPage p) : Doc :=
  .object (pageDocs page.inputCursor page.nextCursor page.hasMore
    (page.identities.map CreatorIdentity.doc))

/-- `XhsCreatorPage.from_mapping`. -/
def CreatorPage.fromMapping (p : CreatorPlatform) : Json → Option (CreatorPage p) :=
  pageFromMapping (CreatorIdentity.fromMapping p) fun inputCursor nextCursor hasMore identities =>
    if h : PageWitness.Valid inputCursor nextCursor hasMore
        (identities.map CreatorIdentity.toListingIdentity) then
      some ⟨inputCursor, nextCursor, hasMore, identities, h⟩
    else none

theorem CreatorPage.text_doc (page : CreatorPage p) : page.doc.text = page.text := by
  rw [doc, Doc.text_object]
  simp only [pageDocs, List.map_cons, List.map_nil, Doc.text_array, List.map_map]
  rw [show Doc.text ∘ CreatorIdentity.doc = CreatorIdentity.text (p := p) from
    funext CreatorIdentity.text_doc]
  rfl

theorem CreatorPage.keysOnce (page : CreatorPage p) : page.doc.keysOnce = true := by
  refine keysOnce_page ?_
  rintro d hd
  obtain ⟨i, -, rfl⟩ := List.mem_map.1 hd
  exact i.keysOnce

theorem CreatorPage.fromMapping_doc (page : CreatorPage p) :
    fromMapping p page.doc.json = some page := by
  rw [fromMapping, doc, pageFromMapping_docs fun i _ => i.fromMapping_doc, dif_pos page.valid]

def outcomeKeys : List String := ["identity", "status"]

def CreatorOutcome.docs (o : CreatorOutcome p) : List (String × Doc) :=
  [("identity", o.identity.doc), ("status", .string o.status.name.toList)]

def CreatorOutcome.doc (o : CreatorOutcome p) : Doc := .object o.docs

/-- `XhsNoteOutcome.from_mapping`. -/
def CreatorOutcome.fromMapping (p : CreatorPlatform) (value : Json) :
    Option (CreatorOutcome p) := do
  let item ← mapping value outcomeKeys
  let identity ← readField (CreatorIdentity.fromMapping p) item "identity"
  let status ← readField readStatus item "status"
  some ⟨identity, status⟩

theorem CreatorOutcome.text_doc (o : CreatorOutcome p) : o.doc.text = o.text := by
  have hstatus : (Doc.string o.status.name.toList).text = o.status.text := by
    cases o.status <;> rfl
  rw [doc, Doc.text_object]
  simp only [docs, List.map_cons, List.map_nil, o.identity.text_doc, hstatus]
  rfl

theorem CreatorOutcome.keysOnce (o : CreatorOutcome p) : o.doc.keysOnce = true := by
  rw [doc, Doc.keysOnce_object]
  refine ⟨show outcomeKeys.Nodup by decide, ?_⟩
  simp [docs, Doc.keysOnce, o.identity.keysOnce]

theorem CreatorOutcome.fromMapping_doc (o : CreatorOutcome p) :
    fromMapping p o.doc.json = some o := by
  have hkeys : (o.docs.map Prod.fst).Nodup := show outcomeKeys.Nodup by decide
  have hidentity := readField_fields hkeys "identity" _ (.head _) o.identity.fromMapping_doc
  have hstatus := readField_fields hkeys "status" _ (.tail _ (.head _)) (readStatus_name o.status)
  rw [fromMapping, doc, mapping_object o.docs outcomeKeys rfl]
  simp only [Option.bind_eq_bind, Option.bind_some, hidentity, hstatus]

def summaryKeys : List String :=
  ["lane", "stop_reason", "stored_count", "unchanged_count", "failed_count", "list_attempts",
    "detail_attempts", "page_complete"]

def CreatorUnitSummary.docs (u : CreatorUnitSummary p) : List (String × Doc) :=
  [("lane", .string u.lane.name.toList), ("stop_reason", .string u.stopReason.name.toList),
    ("stored_count", .number u.storedCount), ("unchanged_count", .number u.unchangedCount),
    ("failed_count", .number u.failedCount), ("list_attempts", .number u.listAttempts),
    ("detail_attempts", .number u.detailAttempts), ("page_complete", .bool u.pageComplete)]

def CreatorUnitSummary.doc (u : CreatorUnitSummary p) : Doc := .object u.docs

/-- The constructor over the fields of a record that holds a summary's. -/
def CreatorUnitSummary.fromFields (p : CreatorPlatform) (item : List (String × Json)) :
    Option (CreatorUnitSummary p) := do
  let lane ← readField readLane item "lane"
  let stopReason ← readField readReason item "stop_reason"
  let storedCount ← readField readNat item "stored_count"
  let unchangedCount ← readField readNat item "unchanged_count"
  let failedCount ← readField readNat item "failed_count"
  let listAttempts ← readField readNat item "list_attempts"
  let detailAttempts ← readField readNat item "detail_attempts"
  let pageComplete ← readField readBool item "page_complete"
  if h : Valid p storedCount unchangedCount failedCount listAttempts detailAttempts then
    some ⟨lane, stopReason, _, _, _, _, _, pageComplete, h⟩
  else none

/-- `XhsUnitSummary.from_mapping`. -/
def CreatorUnitSummary.fromMapping (p : CreatorPlatform) (value : Json) :
    Option (CreatorUnitSummary p) :=
  (mapping value summaryKeys).bind (fromFields p)

theorem CreatorUnitSummary.text_docs (u : CreatorUnitSummary p) :
    u.docs.map (fun f => (f.1, f.2.text)) = u.fields := by
  have hlane : (Doc.string u.lane.name.toList).text = u.lane.text := by
    cases u.lane <;> rfl
  have hreason : (Doc.string u.stopReason.name.toList).text = u.stopReason.text := by
    cases u.stopReason <;> rfl
  simp only [docs, List.map_cons, List.map_nil, hlane, hreason]
  rfl

theorem CreatorUnitSummary.text_doc (u : CreatorUnitSummary p) : u.doc.text = u.text := by
  rw [doc, Doc.text_object, u.text_docs, text]

theorem CreatorUnitSummary.fields_once (u : CreatorUnitSummary p) :
    ∀ f ∈ u.docs, f.2.keysOnce = true := by
  simp [docs, Doc.keysOnce]

theorem CreatorUnitSummary.keysOnce (u : CreatorUnitSummary p) : u.doc.keysOnce = true := by
  rw [doc, Doc.keysOnce_object]
  exact ⟨show summaryKeys.Nodup by decide, u.fields_once⟩

/-- A record that holds the fields of a summary among others gives it back. -/
theorem CreatorUnitSummary.fromFields_docs (u : CreatorUnitSummary p)
    {fields : List (String × Doc)} (hkeys : (fields.map Prod.fst).Nodup)
    (hfields : u.docs ⊆ fields) :
    fromFields p (sortedFields (fields.map fun f => (f.1, f.2.json))) = some u := by
  have hlane := readField_fields hkeys "lane" _ (hfields (by simp [docs])) (readLane_name u.lane)
  have hreason := readField_fields hkeys "stop_reason" _ (hfields (by simp [docs]))
    (readReason_name u.stopReason)
  have hstored := readField_fields hkeys "stored_count" _ (hfields (by simp [docs]))
    (readNat_number u.storedCount)
  have hunchanged := readField_fields hkeys "unchanged_count" _ (hfields (by simp [docs]))
    (readNat_number u.unchangedCount)
  have hfailed := readField_fields hkeys "failed_count" _ (hfields (by simp [docs]))
    (readNat_number u.failedCount)
  have hlists := readField_fields hkeys "list_attempts" _ (hfields (by simp [docs]))
    (readNat_number u.listAttempts)
  have hdetails := readField_fields hkeys "detail_attempts" _ (hfields (by simp [docs]))
    (readNat_number u.detailAttempts)
  have hcomplete := readField_fields hkeys "page_complete" _ (hfields (by simp [docs]))
    (readBool_bool u.pageComplete)
  rw [fromFields]
  simp only [Option.bind_eq_bind, hlane, hreason, hstored, hunchanged, hfailed, hlists, hdetails,
    hcomplete, Option.bind_some]
  rw [dif_pos u.valid]

theorem CreatorUnitSummary.fromMapping_doc (u : CreatorUnitSummary p) :
    fromMapping p u.doc.json = some u := by
  rw [fromMapping, doc, mapping_object u.docs summaryKeys rfl, Option.bind_some]
  exact u.fromFields_docs (show summaryKeys.Nodup by decide) (List.Subset.refl _)

/-! ## Cursors -/

def cursorKeys (p : CreatorPlatform) : List String :=
  ["schema_version", "feed", "page_size", "account_id", "author_fingerprint_sha256",
    "creator_fingerprint_sha256", "upstream_sha", "lane", "page_cursor", "witness", "index",
    p.completedField, "head_boundary", "last_unit"]

theorem cursorKeys_once (p : CreatorPlatform) : (cursorKeys p).Nodup := by cases p <;> decide

def boundaryDoc (boundary : List (ListingIdentity p)) : Doc :=
  .array (boundary.map ListingIdentity.doc)

def CreatorBinding.docs (b : CreatorBinding) : List (String × Doc) :=
  [("account_id", .string b.accountId.text),
    ("author_fingerprint_sha256", .string b.authorFingerprintSha256.toList),
    ("creator_fingerprint_sha256", .string b.creatorFingerprintSha256.toList),
    ("upstream_sha", .string b.upstreamSha.toList)]

namespace CreatorScanState

def docs (s : CreatorScanState p) : List (String × Doc) :=
  [("schema_version", .number 1), ("feed", .string p.feed.toList),
    ("page_size", .number p.pageSize)] ++ s.binding.docs ++
  [("lane", .string s.lane.name.toList), ("page_cursor", .string s.pageCursor.toList),
    ("witness", .orNull PageWitness.doc s.witness), ("index", .number s.index),
    (p.completedField, .array (s.completedIds.map fun id => .string id.toList)),
    ("head_boundary", .orNull boundaryDoc s.headBoundary),
    ("last_unit", .orNull CreatorUnitSummary.doc s.lastUnit)]

def doc (s : CreatorScanState p) : Doc := .object s.docs

end CreatorScanState

def CreatorBinding.fromFields (item : List (String × Json)) : Option CreatorBinding := do
  let accountId ← readField readUuid item "account_id"
  let author ← readField readText item "author_fingerprint_sha256"
  let creator ← readField readText item "creator_fingerprint_sha256"
  let upstreamSha ← readField readText item "upstream_sha"
  if h : isHexText 64 author = true ∧ isHexText 64 creator = true ∧
      isHexText 40 upstreamSha = true then
    some ⟨accountId, author, creator, upstreamSha, h⟩
  else none

namespace CreatorScanState

/-- The schema, feed and page size that every cursor of the platform names. -/
def isHeader (p : CreatorPlatform) (item : List (String × Json)) : Bool :=
  Json.eqInt (Json.get? item "schema_version") 1 &&
    readField readText item "feed" = some p.feed &&
    Json.eqInt (Json.get? item "page_size") p.pageSize

/-- The constructor call of `from_cursor` over the decoded fields. A boundary
that is neither a list nor null is refused here already, where the source
leaves an empty text or mapping to its comparison at the end. -/
def fromMapping (p : CreatorPlatform) (value : Json) : Option (CreatorScanState p) := do
  let item ← mapping value (cursorKeys p)
  if isHeader p item then do
    let binding ← CreatorBinding.fromFields item
    let lane ← readField readLane item "lane"
    let pageCursor ← readField readText item "page_cursor"
    let witness ← readField (readOrNull (PageWitness.fromMapping p)) item "witness"
    let index ← readField readNat item "index"
    let completedIds ← readField (readAll readText) item p.completedField
    let headBoundary ← readField (readOrNull (readAll (ListingIdentity.fromMapping p))) item
      "head_boundary"
    let lastUnit ← readField (readOrNull (CreatorUnitSummary.fromMapping p)) item "last_unit"
    (make ⟨binding, lane, pageCursor, witness, index, completedIds, headBoundary,
      lastUnit⟩).toOption
  else none

def format (p : CreatorPlatform) : CursorFormat (CreatorScanState p) :=
  ⟨p.cursorPrefix.toList, 65536, fun s => some s.doc, fun _ => fromMapping p⟩

/-- `from_cursor`. -/
def fromCursor (r : JsonReader) (p : CreatorPlatform) : Text → Option (CreatorScanState p) :=
  (format p).decode r

/-- `require_binding`. -/
def requireBinding (s : CreatorScanState p) (binding : CreatorBinding) : Option Unit :=
  if s.binding = binding then some () else none

/-- `for_cursor`. -/
def forCursor (r : JsonReader) (p : CreatorPlatform) (value : Option Text)
    (binding : CreatorBinding) : Option (CreatorScanState p) :=
  match value with
  | none => some (initial p binding)
  | some value => do
    let state ← fromCursor r p value
    let _ ← state.requireBinding binding
    some state

theorem docs_keys (s : CreatorScanState p) : s.docs.map Prod.fst = cursorKeys p := rfl

theorem docs_once (s : CreatorScanState p) : (s.docs.map Prod.fst).Nodup :=
  s.docs_keys ▸ cursorKeys_once p

theorem text_docs (s : CreatorScanState p) :
    s.docs.map (fun f => (f.1, f.2.text)) = s.fields := by
  have hlane : string s.lane.name.toList = s.lane.text := by cases s.lane <;> rfl
  have hboundary (b : List (ListingIdentity p)) :
      (boundaryDoc b).text = array (b.map ListingIdentity.text) := by
    rw [boundaryDoc, Doc.text_array, List.map_map]
    exact congrArg array (List.map_congr_left fun i _ => i.text_doc)
  simp only [docs, fields, CreatorBinding.docs, List.cons_append, List.nil_append, List.map_cons,
    List.map_nil, hlane, text_orNull PageWitness.text_doc, text_orNull hboundary,
    text_orNull CreatorUnitSummary.text_doc, Doc.text_string, Doc.text_number, Doc.text_array,
    List.map_map, Function.comp_def]

theorem text_doc (s : CreatorScanState p) : s.doc.text = object s.fields := by
  rw [doc, Doc.text_object, s.text_docs]

theorem keysOnce (s : CreatorScanState p) : s.doc.keysOnce = true := by
  have hwitness : (Doc.orNull PageWitness.doc s.witness).keysOnce = true :=
    Doc.keysOnce_orNull fun w _ => w.keysOnce
  have hboundary : (Doc.orNull boundaryDoc s.headBoundary).keysOnce = true := by
    refine Doc.keysOnce_orNull fun b _ => (Doc.keysOnce_array _).2 ?_
    rintro d hd
    obtain ⟨i, -, rfl⟩ := List.mem_map.1 hd
    exact i.keysOnce
  have hunit : (Doc.orNull CreatorUnitSummary.doc s.lastUnit).keysOnce = true :=
    Doc.keysOnce_orNull fun u _ => u.keysOnce
  rw [doc, Doc.keysOnce_object]
  refine ⟨s.docs_once, ?_⟩
  simp [docs, CreatorBinding.docs, hwitness, hboundary, hunit]

/-- The binding, read back from the fields of the state. -/
theorem binding_fromFields (s : CreatorScanState p) :
    CreatorBinding.fromFields (sortedFields (s.docs.map fun f => (f.1, f.2.json))) =
      some s.binding := by
  have hmem {f : String × Doc} (h : f ∈ s.binding.docs) : f ∈ s.docs :=
    List.mem_append_left _ (List.mem_append_right _ h)
  have hid := readField_fields s.docs_once "account_id" _ (hmem (.head _))
    (readUuid_string s.binding.accountId)
  have hauthor := readField_fields s.docs_once "author_fingerprint_sha256" _
    (hmem (.tail _ (.head _))) (readText_string s.binding.authorFingerprintSha256)
  have hcreator := readField_fields s.docs_once "creator_fingerprint_sha256" _
    (hmem (.tail _ (.tail _ (.head _)))) (readText_string s.binding.creatorFingerprintSha256)
  have hsha := readField_fields s.docs_once "upstream_sha" _
    (hmem (.tail _ (.tail _ (.tail _ (.head _))))) (readText_string s.binding.upstreamSha)
  rw [CreatorBinding.fromFields]
  simp only [Option.bind_eq_bind, hid, hauthor, hcreator, hsha, Option.bind_some]
  rw [dif_pos s.binding.valid]

theorem isHeader_docs (s : CreatorScanState p) :
    isHeader p (sortedFields (s.docs.map fun f => (f.1, f.2.json))) = true := by
  have hschema := get?_fields s.docs_once "schema_version" _ (.head _)
  have hfeed := readField_fields s.docs_once "feed" _ (.tail _ (.head _))
    (readText_string p.feed)
  have hsize := get?_fields s.docs_once "page_size" _ (.tail _ (.tail _ (.head _)))
  rw [isHeader, hschema, hfeed, hsize]
  simp [Json.eqInt, Doc.json]

theorem fromMapping_doc (s : CreatorScanState p) : fromMapping p s.doc.json = some s := by
  have hmem {f : String × Doc} (h : f ∈ s.docs.drop 7) : f ∈ s.docs := List.mem_of_mem_drop h
  have hlane := readField_fields s.docs_once "lane" _ (hmem (.head _)) (readLane_name s.lane)
  have hcursor := readField_fields s.docs_once "page_cursor" _ (hmem (.tail _ (.head _)))
    (readText_string s.pageCursor)
  have hwitness := readField_fields s.docs_once "witness" _ (hmem (.tail _ (.tail _ (.head _))))
    (readOrNull_orNull PageWitness.fromMapping_doc (fun w => json_object_ne_null _) s.witness)
  have hindex := readField_fields s.docs_once "index" _
    (hmem (.tail _ (.tail _ (.tail _ (.head _))))) (readNat_number s.index)
  have hcompleted := readField_fields s.docs_once p.completedField _
    (hmem (.tail _ (.tail _ (.tail _ (.tail _ (.head _))))))
    (readAll_array (fun id (_ : id ∈ s.completedIds) => readText_string id))
  have hboundary := readField_fields s.docs_once "head_boundary" _
    (hmem (.tail _ (.tail _ (.tail _ (.tail _ (.tail _ (.head _)))))))
    (readOrNull_orNull (fun b => readAll_array fun i (_ : i ∈ b) => i.fromMapping_doc)
      (fun b => json_array_ne_null _) s.headBoundary)
  have hunit := readField_fields s.docs_once "last_unit" _
    (hmem (.tail _ (.tail _ (.tail _ (.tail _ (.tail _ (.tail _ (.head _))))))))
    (readOrNull_orNull CreatorUnitSummary.fromMapping_doc (fun u => json_object_ne_null _)
      s.lastUnit)
  rw [fromMapping, doc, mapping_object s.docs (cursorKeys p) s.docs_keys]
  simp only [Option.bind_eq_bind, Option.bind_some, s.isHeader_docs, if_true,
    s.binding_fromFields, hlane, hcursor, hwitness, hindex, hcompleted, hboundary, hunit]
  rw [make, dif_pos s.valid]
  rfl

theorem reads (r : JsonReader) (s : CreatorScanState p) : (format p).Reads r s := by
  rintro d hd
  cases hd
  exact ⟨s.keysOnce, s.fromMapping_doc⟩

theorem toCursor_eq_ok_iff {s : CreatorScanState p} {value : Text} :
    s.toCursor = .ok value ↔ (format p).encode s = some value := by
  unfold toCursor CursorFormat.encode
  simp only [format, Option.bind_eq_bind, Option.bind_some, s.text_doc, gt_iff_lt, ← Nat.not_lt,
    ite_not]
  split <;> simp

end CreatorScanState

end MediaSync.Scan
