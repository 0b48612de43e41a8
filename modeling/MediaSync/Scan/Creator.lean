import MediaSync.Foundation.JsonText
import MediaSync.Foundation.Python
import MediaSync.Scan.Bili

/-!
# The page-bound scan of creator lists

The planners for XHS notes and Douyin works are the same but for their names,
their page size, the shape of an id and the token of an item. One unit lists
one page, asks for the details of a limited number of its items and proposes
the next state. A page that is not finished is kept as its witness together
with the ids that are done.
-/

namespace MediaSync.Scan

open JsonText

inductive CreatorPlatform where
  | xhs | douyin
  deriving DecidableEq, Repr

def isHex (c : Char) : Bool := isDigit c || ('a' ≤ c && c ≤ 'f')

/-- `[0-9a-f]{n}`. -/
def isHexText (n : Nat) (s : String) : Bool := s.toList.length = n && s.toList.all isHex

def isXsecSource (s : String) : Bool :=
  1 ≤ s.toList.length && s.toList.length ≤ 64 &&
    s.toList.all (fun c => isAsciiAlphanum c || c = '_')

/-- The digest of a note's short-lived token, and where the token came from. -/
structure XsecToken where
  tokenSha256 : String
  xsecSource : String
  valid : isHexText 64 tokenSha256 = true ∧ isXsecSource xsecSource = true
  deriving DecidableEq

namespace CreatorPlatform

def cursorPrefix : CreatorPlatform → String
  | xhs => "xhs-notes-v1:"
  | douyin => "dy-work-v1:"

def feed : CreatorPlatform → String
  | xhs => "creator_notes"
  | douyin => "creator_works"

def pageSize : CreatorPlatform → Nat
  | xhs => 30
  | douyin => 18

/-- `_XHS_ID` and `_AWEME_ID`. -/
def validId : CreatorPlatform → String → Bool
  | xhs, id => isHexText 24 id
  | douyin, id => 10 ≤ id.toList.length && id.toList.length ≤ 20 && id.toList.all isDigit

def idField : CreatorPlatform → String
  | xhs => "note_id"
  | douyin => "aweme_id"

def completedField : CreatorPlatform → String
  | xhs => "completed_note_ids"
  | douyin => "completed_aweme_ids"

/-- What an identity keeps of a token; Douyin items have none. -/
def Token : CreatorPlatform → Type
  | xhs => XsecToken
  | douyin => Unit

instance : (p : CreatorPlatform) → DecidableEq p.Token
  | xhs => inferInstanceAs (DecidableEq XsecToken)
  | douyin => inferInstanceAs (DecidableEq Unit)

def tokenFields : (p : CreatorPlatform) → p.Token → List (String × Text)
  | xhs, (token : XsecToken) =>
    [("token_sha256", string token.tokenSha256.toList),
      ("xsec_source", string token.xsecSource.toList)]
  | douyin, _ => []

end CreatorPlatform

variable {p : CreatorPlatform}

/-- `XhsListingIdentity`, and `DouyinWorkIdentity`. -/
structure ListingIdentity (p : CreatorPlatform) where
  id : String
  listingSha256 : String
  valid : p.validId id = true ∧ isHexText 64 listingSha256 = true
  deriving DecidableEq

/-- `XhsNoteIdentity`, and `DouyinWorkIdentity`. -/
structure CreatorIdentity (p : CreatorPlatform) extends ListingIdentity p where
  token : p.Token
  deriving DecidableEq

/-- `_opaque_cursor`. -/
def validCursor (cursor : String) : Bool :=
  cursor.toList.length ≤ 4096 && cursor.toList.all (fun c => !Python.isControl c)

/-- `XhsPageWitness.__post_init__`. -/
structure PageWitness.Valid (inputCursor nextCursor : String) (hasMore : Bool)
    (identities : List (ListingIdentity p)) : Prop where
  input : validCursor inputCursor = true
  next : validCursor nextCursor = true
  length : identities.length ≤ p.pageSize
  ids : (identities.map ListingIdentity.id).Nodup
  moves : hasMore = true → identities ≠ [] → nextCursor ≠ inputCursor

instance (inputCursor nextCursor : String) (hasMore : Bool)
    (identities : List (ListingIdentity p)) :
    Decidable (PageWitness.Valid inputCursor nextCursor hasMore identities) :=
  decidable_of_iff
    (validCursor inputCursor = true ∧ validCursor nextCursor = true ∧
      identities.length ≤ p.pageSize ∧ (identities.map ListingIdentity.id).Nodup ∧
      (hasMore = true → identities ≠ [] → nextCursor ≠ inputCursor))
    ⟨fun ⟨h1, h2, h3, h4, h5⟩ => ⟨h1, h2, h3, h4, h5⟩,
      fun h => ⟨h.input, h.next, h.length, h.ids, h.moves⟩⟩

structure PageWitness (p : CreatorPlatform) where
  inputCursor : String
  nextCursor : String
  hasMore : Bool
  identities : List (ListingIdentity p)
  valid : PageWitness.Valid inputCursor nextCursor hasMore identities
  deriving DecidableEq

/-- `note_ids`. -/
def PageWitness.ids (w : PageWitness p) : List String := w.identities.map ListingIdentity.id

structure CreatorPage (p : CreatorPlatform) where
  inputCursor : String
  nextCursor : String
  hasMore : Bool
  identities : List (CreatorIdentity p)
  valid : PageWitness.Valid inputCursor nextCursor hasMore
    (identities.map CreatorIdentity.toListingIdentity)
  deriving DecidableEq

def CreatorPage.witness (page : CreatorPage p) : PageWitness p :=
  ⟨page.inputCursor, page.nextCursor, page.hasMore, _, page.valid⟩

inductive CreatorStatus where
  | stored | unchanged | detailUnavailable | accessRestricted
  deriving DecidableEq, Repr

structure CreatorOutcome (p : CreatorPlatform) where
  identity : CreatorIdentity p
  status : CreatorStatus
  deriving DecidableEq

inductive CreatorLane where
  | history | head
  deriving DecidableEq, Repr

inductive CreatorReason where
  | hasMoreFalse | emptyPageStalled | accessRestricted | unitCapReached
  deriving DecidableEq, Repr

/-- `XhsUnitSummary.__post_init__`. -/
structure CreatorUnitSummary.Valid (p : CreatorPlatform)
    (storedCount unchangedCount failedCount listAttempts detailAttempts : Nat) : Prop where
  lists : listAttempts = 1
  details : detailAttempts = storedCount + failedCount
  total : storedCount + unchangedCount + failedCount ≤ p.pageSize

instance (storedCount unchangedCount failedCount listAttempts detailAttempts : Nat) :
    Decidable (CreatorUnitSummary.Valid p storedCount unchangedCount failedCount listAttempts
      detailAttempts) :=
  decidable_of_iff
    (listAttempts = 1 ∧ detailAttempts = storedCount + failedCount ∧
      storedCount + unchangedCount + failedCount ≤ p.pageSize)
    ⟨fun ⟨h1, h2, h3⟩ => ⟨h1, h2, h3⟩, fun h => ⟨h.lists, h.details, h.total⟩⟩

structure CreatorUnitSummary (p : CreatorPlatform) where
  lane : CreatorLane
  stopReason : CreatorReason
  storedCount : Nat
  unchangedCount : Nat
  failedCount : Nat
  listAttempts : Nat
  detailAttempts : Nat
  pageComplete : Bool
  valid : CreatorUnitSummary.Valid p storedCount unchangedCount failedCount listAttempts
    detailAttempts
  deriving DecidableEq

/-- A `UUID`, as its hexadecimal digits. -/
structure Uuid where
  hex : List Char
  valid : hex.length = 32 ∧ hex.all isHex = true
  deriving DecidableEq

/-- `str(uuid)`. -/
def Uuid.text (u : Uuid) : Text :=
  u.hex.take 8 ++ '-' :: (u.hex.drop 8).take 4 ++ '-' :: (u.hex.drop 12).take 4 ++
    '-' :: (u.hex.drop 16).take 4 ++ '-' :: u.hex.drop 20

/-- What binds a scan to its account, author, creator and checkout. -/
structure CreatorBinding where
  accountId : Uuid
  authorFingerprintSha256 : String
  creatorFingerprintSha256 : String
  upstreamSha : String
  valid : isHexText 64 authorFingerprintSha256 = true ∧
    isHexText 64 creatorFingerprintSha256 = true ∧ isHexText 40 upstreamSha = true
  deriving DecidableEq

structure CreatorScanFields (p : CreatorPlatform) where
  binding : CreatorBinding
  lane : CreatorLane
  pageCursor : String
  witness : Option (PageWitness p)
  index : Nat
  completedIds : List String
  headBoundary : Option (List (ListingIdentity p))
  lastUnit : Option (CreatorUnitSummary p)
  deriving DecidableEq

/-- `XhsScanState.__post_init__`. -/
structure CreatorScanFields.Valid (f : CreatorScanFields p) : Prop where
  cursor : validCursor f.pageCursor = true
  indexRange : f.index ≤ p.pageSize
  completedLength : f.completedIds.length ≤ p.pageSize
  completedShape : ∀ id ∈ f.completedIds, p.validId id = true
  completedOnce : f.completedIds.Nodup
  fits : ∀ w ∈ f.witness, w.inputCursor = f.pageCursor ∧ f.index ≤ w.ids.length ∧
    ∀ id ∈ f.completedIds, id ∈ w.ids
  unseen : f.witness = none → f.index = 0 ∧ f.completedIds = []
  boundary : ∀ b ∈ f.headBoundary, b.length ≤ p.pageSize ∧ (b.map ListingIdentity.id).Nodup

instance (f : CreatorScanFields p) : Decidable f.Valid :=
  decidable_of_iff
    (validCursor f.pageCursor = true ∧ f.index ≤ p.pageSize ∧
      f.completedIds.length ≤ p.pageSize ∧ (∀ id ∈ f.completedIds, p.validId id = true) ∧
      f.completedIds.Nodup ∧
      (∀ w ∈ f.witness, w.inputCursor = f.pageCursor ∧ f.index ≤ w.ids.length ∧
        ∀ id ∈ f.completedIds, id ∈ w.ids) ∧
      (f.witness = none → f.index = 0 ∧ f.completedIds = []) ∧
      ∀ b ∈ f.headBoundary, b.length ≤ p.pageSize ∧ (b.map ListingIdentity.id).Nodup)
    ⟨fun ⟨h1, h2, h3, h4, h5, h6, h7, h8⟩ => ⟨h1, h2, h3, h4, h5, h6, h7, h8⟩,
      fun h => ⟨h.cursor, h.indexRange, h.completedLength, h.completedShape, h.completedOnce,
        h.fits, h.unseen, h.boundary⟩⟩

structure CreatorScanState (p : CreatorPlatform) extends CreatorScanFields p where
  valid : toCreatorScanFields.Valid
  deriving DecidableEq

namespace CreatorScanState

/-- Every construction and every `replace` checks the fields again. -/
def make (f : CreatorScanFields p) : Except ScanError (CreatorScanState p) :=
  if h : f.Valid then .ok ⟨f, h⟩ else .error .invalid

def initial (p : CreatorPlatform) (binding : CreatorBinding) : CreatorScanState p where
  toCreatorScanFields := ⟨binding, .history, "", none, 0, [], none, none⟩
  valid :=
    { cursor := show validCursor "" = true by decide
      indexRange := Nat.zero_le _
      completedLength := Nat.zero_le _
      completedShape := by simp
      completedOnce := List.nodup_nil
      fits := by simp
      unseen := fun _ => ⟨rfl, rfl⟩
      boundary := by simp }

def forHead (s : CreatorScanState p) : Except ScanError (CreatorScanState p) :=
  if s.headBoundary = none then .error .invalid
  else make { s.toCreatorScanFields with
    lane := .head, pageCursor := "", witness := none, index := 0, completedIds := [],
    lastUnit := none }

end CreatorScanState

def CreatorLane.text : CreatorLane → Text
  | history => string "history".toList
  | head => string "head".toList

def CreatorReason.text : CreatorReason → Text
  | hasMoreFalse => string "has_more_false".toList
  | emptyPageStalled => string "empty_page_stalled".toList
  | accessRestricted => string "access_restricted".toList
  | unitCapReached => string "unit_cap_reached".toList

def CreatorStatus.text : CreatorStatus → Text
  | stored => string "stored".toList
  | unchanged => string "unchanged".toList
  | detailUnavailable => string "detail_unavailable".toList
  | accessRestricted => string "access_restricted".toList

/-- `as_mapping` of a listing identity. -/
def ListingIdentity.fields (i : ListingIdentity p) : List (String × Text) :=
  [(p.idField, string i.id.toList), ("listing_sha256", string i.listingSha256.toList)]

def ListingIdentity.text (i : ListingIdentity p) : Text := object i.fields

def CreatorIdentity.text (i : CreatorIdentity p) : Text :=
  object (i.fields ++ p.tokenFields i.token)

/-- `as_mapping` of a witness or a page, given the texts of its identities. -/
def pageText (inputCursor nextCursor : String) (hasMore : Bool) (identities : List Text) : Text :=
  object [("input_cursor", string inputCursor.toList), ("next_cursor", string nextCursor.toList),
    ("has_more", bool hasMore), ("identities", array identities)]

def PageWitness.text (w : PageWitness p) : Text :=
  pageText w.inputCursor w.nextCursor w.hasMore (w.identities.map ListingIdentity.text)

def CreatorPage.text (page : CreatorPage p) : Text :=
  pageText page.inputCursor page.nextCursor page.hasMore
    (page.identities.map CreatorIdentity.text)

def CreatorOutcome.text (o : CreatorOutcome p) : Text :=
  object [("identity", o.identity.text), ("status", o.status.text)]

def CreatorUnitSummary.fields (u : CreatorUnitSummary p) : List (String × Text) :=
  [("lane", u.lane.text), ("stop_reason", u.stopReason.text),
    ("stored_count", number u.storedCount), ("unchanged_count", number u.unchangedCount),
    ("failed_count", number u.failedCount), ("list_attempts", number u.listAttempts),
    ("detail_attempts", number u.detailAttempts), ("page_complete", bool u.pageComplete)]

def CreatorUnitSummary.text (u : CreatorUnitSummary p) : Text := object u.fields

def orNull {α : Type} (text : α → Text) (value : Option α) : Text := (value.map text).getD null

def CreatorScanState.fields (s : CreatorScanState p) : List (String × Text) :=
  [("schema_version", number 1), ("feed", string p.feed.toList),
    ("page_size", number p.pageSize), ("account_id", string s.binding.accountId.text),
    ("author_fingerprint_sha256", string s.binding.authorFingerprintSha256.toList),
    ("creator_fingerprint_sha256", string s.binding.creatorFingerprintSha256.toList),
    ("upstream_sha", string s.binding.upstreamSha.toList), ("lane", s.lane.text),
    ("page_cursor", string s.pageCursor.toList), ("witness", orNull PageWitness.text s.witness),
    ("index", number s.index),
    (p.completedField, array (s.completedIds.map fun id => string id.toList)),
    ("head_boundary", orNull (fun b => array (b.map ListingIdentity.text)) s.headBoundary),
    ("last_unit", orNull CreatorUnitSummary.text s.lastUnit)]

def CreatorScanState.toCursor (s : CreatorScanState p) : Except ScanError Text :=
  let result := p.cursorPrefix.toList ++ object s.fields
  if result.length > 65536 then .error .invalid else .ok result

/-! ## One unit -/

inductive CreatorScanAction (p : CreatorPlatform) where
  | stop
  | list (cursor : String)
  | unchanged (identity : CreatorIdentity p)
  | detail (identity : CreatorIdentity p)
  deriving DecidableEq

structure CreatorScanUnit (p : CreatorPlatform) where
  limit : Nat
  inputState : CreatorScanState p
  state : CreatorScanState p
  page : Option (CreatorPage p)
  outcomes : List (CreatorOutcome p)
  reason : Option CreatorReason
  deriving DecidableEq

structure CreatorScanCoverage (p : CreatorPlatform) where
  inputState : CreatorScanState p
  nextState : CreatorScanState p
  page : Option (CreatorPage p)
  outcomes : List (CreatorOutcome p)
  summary : CreatorUnitSummary p
  deriving DecidableEq

/-- The fields that `XhsScanUnit.__init__` sets. -/
def CreatorScanUnit.fresh (state : CreatorScanState p) (maxItems : Nat) : CreatorScanUnit p :=
  ⟨min maxItems p.pageSize, state, state, none, [], none⟩

/-- `XhsScanUnit(state, max_items)`. -/
def CreatorScanUnit.new (state : CreatorScanState p) (maxItems : Nat) :
    Except ScanError (CreatorScanUnit p) :=
  if 1 ≤ maxItems ∧ maxItems ≤ 1000 then .ok (.fresh state maxItems) else .error .invalid

/-- The digest that a list of listing identities holds for an id. -/
def listedSha256 (identities : List (ListingIdentity p)) (id : String) : Option String :=
  (identities.find? (fun i => i.id = id)).map ListingIdentity.listingSha256

/-- The head of the list showed the item as it is now. -/
def CreatorScanState.known (s : CreatorScanState p) (identity : CreatorIdentity p) : Bool :=
  s.lane = .head &&
    listedSha256 (s.headBoundary.getD []) identity.id = some identity.listingSha256

namespace CreatorScanUnit

/-- `self.state = replace(self.state, …)`. -/
def replace (u : CreatorScanUnit p) (f : CreatorScanFields p) :
    Except ScanError (CreatorScanUnit p) := do
  let state ← CreatorScanState.make f
  .ok { u with state := state }

def stopped (u : CreatorScanUnit p) (reason : CreatorReason) : CreatorScanUnit p :=
  { u with reason := some reason }

/-- The fields of a state that is through with its page. -/
def leaving (u : CreatorScanUnit p) (pageCursor : String) : CreatorScanFields p :=
  { u.state.toCreatorScanFields with
    pageCursor := pageCursor, witness := none, index := 0, completedIds := [] }

/-- `_finish_page`. -/
def finishPage (u : CreatorScanUnit p) (page : CreatorPage p) :
    Except ScanError (CreatorScanUnit p) :=
  if u.state.completedIds.length ≠ page.identities.length then
    (u.stopped .unitCapReached).replace { u.state.toCreatorScanFields with index := 0 }
  else match u.state.lane with
    | .history =>
      if page.hasMore = false then
        (u.stopped .hasMoreFalse).replace (u.leaving page.nextCursor)
      else if page.identities = [] ∧ page.nextCursor = page.inputCursor then
        .ok (u.stopped .emptyPageStalled)
      else (u.stopped .unitCapReached).replace (u.leaving page.nextCursor)
    | .head =>
      (u.stopped (if page.hasMore = false then .hasMoreFalse else .unitCapReached)).replace
        { u.leaving "" with headBoundary := some page.witness.identities }

/-- How many items from the index on are completed already. -/
def skips (u : CreatorScanUnit p) (page : CreatorPage p) : Nat :=
  ((page.identities.drop u.state.index).takeWhile
    (fun i => i.id ∈ u.state.completedIds)).length

/-- The loop of `next_action` over the items that are completed already. -/
def skipCompleted (u : CreatorScanUnit p) (page : CreatorPage p) :
    Except ScanError (CreatorScanUnit p) :=
  u.replace { u.state.toCreatorScanFields with index := u.state.index + u.skips page }

def nextAction (u : CreatorScanUnit p) :
    Except ScanError (CreatorScanAction p × CreatorScanUnit p) :=
  if u.reason.isSome then .ok (.stop, u)
  else match u.page with
    | none => .ok (.list u.state.pageCursor, u)
    | some page => do
      let u ← u.skipCompleted page
      match page.identities[u.state.index]? with
      | none => do
        let u ← u.finishPage page
        .ok (.stop, u)
      | some identity =>
        if u.outcomes.length ≥ u.limit then .ok (.stop, u.stopped .unitCapReached)
        else if u.state.known identity then .ok (.unchanged identity, u)
        else .ok (.detail identity, u)

/-- A page shows what its witness shows, apart from digests and tokens. -/
def SameShape (expected : PageWitness p) (page : CreatorPage p) : Prop :=
  page.inputCursor = expected.inputCursor ∧ page.nextCursor = expected.nextCursor ∧
    page.hasMore = expected.hasMore ∧ page.witness.ids = expected.ids

instance (expected : PageWitness p) (page : CreatorPage p) :
    Decidable (SameShape expected page) :=
  inferInstanceAs (Decidable (_ ∧ _))

/-- The completed ids whose listing is still the one that was completed. -/
def keptIds (u : CreatorScanUnit p) (expected : PageWitness p) (page : CreatorPage p) :
    List String :=
  (page.witness.identities.filter fun i =>
    i.id ∈ u.state.completedIds ∧
      listedSha256 expected.identities i.id = some i.listingSha256).map ListingIdentity.id

/-- The first part of `observe_page`: the page against the witness of the state. -/
def witnessed (u : CreatorScanUnit p) (page : CreatorPage p) :
    Except ScanError (CreatorScanUnit p) :=
  match u.state.witness with
  | some expected =>
    if SameShape expected page then
      u.replace { u.state.toCreatorScanFields with
        witness := some page.witness, index := 0, completedIds := u.keptIds expected page }
    else .error .invalid
  | none => u.replace { u.state.toCreatorScanFields with witness := some page.witness }

/-- The first page of the history sets the boundary of the head. -/
def bounded (u : CreatorScanUnit p) (page : CreatorPage p) :
    Except ScanError (CreatorScanUnit p) :=
  if u.state.lane = .history ∧ u.state.pageCursor = "" ∧ u.state.headBoundary = none then
    u.replace { u.state.toCreatorScanFields with headBoundary := some page.witness.identities }
  else .ok u

def observePage (u : CreatorScanUnit p) (page : CreatorPage p) :
    Except ScanError (CreatorScanUnit p) := do
  let (action, u) ← u.nextAction
  if action = .list page.inputCursor then do
    let u ← u.witnessed page
    bounded { u with page := some page } page
  else .error .invalid

def observeAccessRestricted (u : CreatorScanUnit p) : Except ScanError (CreatorScanUnit p) := do
  let (action, u) ← u.nextAction
  match action with
  | .list _ => .ok (u.stopped .accessRestricted)
  | _ => .error .invalid

/-- The action that an outcome answers. -/
def expectedAction (identity : CreatorIdentity p) : CreatorStatus → CreatorScanAction p
  | .unchanged => .unchanged identity
  | _ => .detail identity

/-- The completed ids after an outcome. -/
def completedAfter (u : CreatorScanUnit p) (identity : CreatorIdentity p)
    (status : CreatorStatus) : List String :=
  if (status = .stored ∨ status = .unchanged) ∧ identity.id ∉ u.state.completedIds then
    u.state.completedIds ++ [identity.id]
  else u.state.completedIds

/-- `_record`. -/
def record (u : CreatorScanUnit p) (identity : CreatorIdentity p) (status : CreatorStatus) :
    Except ScanError (CreatorScanUnit p) := do
  let (action, u) ← u.nextAction
  if action = expectedAction identity status then
    replace { u with outcomes := u.outcomes ++ [⟨identity, status⟩] }
      { u.state.toCreatorScanFields with
        index := u.state.index + 1, completedIds := u.completedAfter identity status }
  else .error .invalid

def store (u : CreatorScanUnit p) (identity : CreatorIdentity p) :
    Except ScanError (CreatorScanUnit p) := u.record identity .stored

def skipUnchanged (u : CreatorScanUnit p) (identity : CreatorIdentity p) :
    Except ScanError (CreatorScanUnit p) := u.record identity .unchanged

/-- `fail`; the index of a restricted item is read before the item is recorded. -/
def fail (u : CreatorScanUnit p) (identity : CreatorIdentity p) (accessRestricted : Bool) :
    Except ScanError (CreatorScanUnit p) :=
  let failedIndex := u.state.index
  if accessRestricted then do
    let u ← u.record identity .accessRestricted
    (u.stopped .accessRestricted).replace
      { u.state.toCreatorScanFields with index := failedIndex }
  else u.record identity .detailUnavailable

def statusCount (u : CreatorScanUnit p) (counted : CreatorStatus → Bool) : Nat :=
  u.outcomes.countP (fun o => counted o.status)

def isFailure : CreatorStatus → Bool
  | .stored | .unchanged => false
  | _ => true

def coverage (u : CreatorScanUnit p) : Except ScanError (CreatorScanCoverage p) := do
  let (action, u) ← u.nextAction
  match action, u.reason with
  | .stop, some reason =>
    if h : CreatorUnitSummary.Valid p (u.statusCount (· = .stored))
        (u.statusCount (· = .unchanged)) (u.statusCount isFailure) 1
        (u.statusCount (· ≠ .unchanged)) then do
      let summary : CreatorUnitSummary p :=
        ⟨u.inputState.lane, reason, _, _, _, _, _, u.page.isSome && u.state.witness.isNone, h⟩
      let nextState ← CreatorScanState.make
        { u.state.toCreatorScanFields with lastUnit := some summary }
      .ok ⟨u.inputState, nextState, u.page, u.outcomes, summary⟩
    else .error .invalid
  | _, _ => .error .invalid

/-- The call that an outcome of a record stands for. -/
def replayed (u : CreatorScanUnit p) (o : CreatorOutcome p) :
    Except ScanError (CreatorScanUnit p) :=
  match o.status with
  | .stored => u.store o.identity
  | .unchanged => u.skipUnchanged o.identity
  | .detailUnavailable => u.fail o.identity false
  | .accessRestricted => u.fail o.identity true

/-- The loop of `validate` over the outcomes of a record. -/
def replay : List (CreatorOutcome p) → CreatorScanUnit p → Except ScanError (CreatorScanUnit p)
  | [], u => .ok u
  | o :: outcomes, u => do
    let u ← u.replayed o
    replay outcomes u

end CreatorScanUnit

namespace CreatorScanCoverage

/-- The unit that `validate` builds again from the record. -/
def rebuilt (c : CreatorScanCoverage p) (u : CreatorScanUnit p) :
    Except ScanError (CreatorScanUnit p) :=
  match c.page with
  | none => u.observeAccessRestricted
  | some page => do
    let u ← u.observePage page
    CreatorScanUnit.replay c.outcomes u

/-- `validate`. -/
def validate (c : CreatorScanCoverage p) (inputState : CreatorScanState p) (maxItems : Nat) :
    Except ScanError Unit :=
  if c.inputState ≠ inputState ∨ c.outcomes.length > min maxItems p.pageSize then
    .error .invalid
  else do
    let u ← CreatorScanUnit.new inputState maxItems
    let u ← c.rebuilt u
    let again ← u.coverage
    if again = c then .ok () else .error .invalid

/-- The fields of the record, given the cursors of its two states. -/
def fields (c : CreatorScanCoverage p) (inputCursor nextCursor : Text) : List (String × Text) :=
  [("schema_version", number 1), ("input_cursor", string inputCursor),
    ("next_cursor", string nextCursor), ("page", orNull CreatorPage.text c.page),
    ("outcomes", array (c.outcomes.map CreatorOutcome.text))] ++ c.summary.fields

/-- `to_json_line`. -/
def toJsonLine (c : CreatorScanCoverage p) : Except ScanError Text := do
  let inputCursor ← c.inputState.toCursor
  let nextCursor ← c.nextState.toCursor
  let payload := object (c.fields inputCursor nextCursor)
  if payload.length > 131072 then .error .invalid else .ok (payload ++ ['\n'])

end CreatorScanCoverage

inductive ListAnswer (p : CreatorPlatform) where
  | page (page : CreatorPage p)
  | restricted

inductive DetailAnswer where
  | stored | unavailable | restricted
  deriving DecidableEq, Repr

namespace CreatorScanUnit

/-- What the capture loop does with an action that is not the stop. -/
def answered (answer : ListAnswer p) (details : CreatorIdentity p → DetailAnswer)
    (u : CreatorScanUnit p) : CreatorScanAction p → Except ScanError (CreatorScanUnit p)
  | .stop => .ok u
  | .list _ =>
    match answer with
    | .page page => u.observePage page
    | .restricted => u.observeAccessRestricted
  | .unchanged identity => u.skipUnchanged identity
  | .detail identity =>
    match details identity with
    | .stored => u.store identity
    | .unavailable => u.fail identity false
    | .restricted => u.fail identity true

/-- The capture loop. -/
def drive (answer : ListAnswer p) (details : CreatorIdentity p → DetailAnswer) :
    Nat → CreatorScanUnit p → Except ScanError (CreatorScanUnit p)
  | 0, _ => .error .unfinished
  | turns + 1, u => do
    let (action, u) ← u.nextAction
    if action = .stop then .ok u
    else do
      let u ← u.answered answer details action
      drive answer details turns u

/-- The list, an outcome for each item up to the limit, and the stop. -/
def turns (u : CreatorScanUnit p) : Nat := u.limit + 2

end CreatorScanUnit

/-- One unit from its state to the record it publishes. -/
def runCreatorUnit (state : CreatorScanState p) (maxItems : Nat) (answer : ListAnswer p)
    (details : CreatorIdentity p → DetailAnswer) : Except ScanError (CreatorScanCoverage p) := do
  let u ← CreatorScanUnit.new state maxItems
  let u ← CreatorScanUnit.drive answer details u.turns u
  let coverage ← u.coverage
  coverage.validate state maxItems
  let _ ← coverage.toJsonLine
  .ok coverage

abbrev XhsScanState := CreatorScanState .xhs
abbrev XhsScanUnit := CreatorScanUnit .xhs
abbrev DouyinScanState := CreatorScanState .douyin
abbrev DouyinScanUnit := CreatorScanUnit .douyin

end MediaSync.Scan
