import MediaSync.Scheduler.Records

/-!
# Assets and their downloads

An asset row is found by its slot, the content it belongs to with its kind and
position. Discovery owns the columns that describe where the bytes come from;
the download workers own the columns that say how far the bytes have come. A
rediscovery with other fingerprints opens a new generation and clears what the
workers own, and every write of a worker compares the generation, the status
and the lease of its job in the statement that writes.

URL parsing, redaction and hashing are parameters: nothing here looks inside
what they return.
-/

namespace MediaSync.Media

open Python Transaction
open Scheduler (Job JobStatus)

inductive AssetStatus where
  | discovered | queued | downloading | downloaded | verified | exported
  | failedRetryable | failedTerminal
  deriving DecidableEq, Repr

namespace AssetStatus

def value : AssetStatus → String
  | discovered => "discovered"
  | queued => "queued"
  | downloading => "downloading"
  | downloaded => "downloaded"
  | verified => "verified"
  | exported => "exported"
  | failedRetryable => "failed_retryable"
  | failedTerminal => "failed_terminal"

def all : List AssetStatus :=
  [discovered, queued, downloading, downloaded, verified, exported, failedRetryable,
    failedTerminal]

/-- `AssetStatus(value)`. -/
def ofValue? (value : String) : Option AssetStatus := all.find? (fun s => s.value = value)

/-- `ASSET_TRANSITIONS`. -/
def transitions : AssetStatus → List AssetStatus
  | discovered => [queued, failedRetryable, failedTerminal]
  | queued => [downloading, failedRetryable, failedTerminal]
  | downloading => [downloaded, failedRetryable, failedTerminal]
  | downloaded => [verified, failedRetryable, failedTerminal]
  | verified => [exported, failedRetryable, failedTerminal]
  | failedRetryable => [queued]
  | exported => []
  | failedTerminal => []

theorem ofValue?_some {value : String} {s : AssetStatus} (h : ofValue? value = some s) :
    s.value = value := by
  simpa using List.find?_some h

theorem value_injective {a b : AssetStatus} (h : a.value = b.value) : a = b := by
  cases a <;> cases b <;> first | rfl | (revert h; decide)

end AssetStatus

inductive AssetError where
  | valueError (message : String)
  | notFoundError (message : String)
  | repositoryError (message : String)
  | invalidStateTransitionError (entity current target : String)
  | assetConflictError (assetId : String) (expectedGeneration : Int) (expectedStatus : String)
  | assetLeaseLostError (message : String)
  | mediaDownloadError
  | integrityError (table : String)

open AssetError

/-! ## Rows -/

/-- The columns that discovery writes. -/
structure AssetDiscovery where
  platform : String
  remoteId : Option String
  sourceUrl : Option String
  locator : List (String × Json)
  semanticFingerprint : String
  locatorFingerprint : String
  width : Option Int
  height : Option Int
  durationMs : Option Int
  raw : List (String × Json)

/-- The columns that the download workers write. -/
structure AssetDownload where
  status : AssetStatus
  mimeType : Option String
  sizeBytes : Option Int
  checksumSha256 : Option String
  localPath : Option String
  downloadJobId : Option String
  etag : Option String
  lastModified : Option String
  queuedAt : Option Time
  downloadStartedAt : Option Time
  downloadedAt : Option Time
  verifiedAt : Option Time
  lastErrorCode : Option String
  lastErrorMessage : Option String
  lastErrorAt : Option Time
  deriving DecidableEq

/-- The columns of an asset that no worker has touched in its generation. -/
def AssetDownload.cleared : AssetDownload where
  status := .discovered
  mimeType := none
  sizeBytes := none
  checksumSha256 := none
  localPath := none
  downloadJobId := none
  etag := none
  lastModified := none
  queuedAt := none
  downloadStartedAt := none
  downloadedAt := none
  verifiedAt := none
  lastErrorCode := none
  lastErrorMessage := none
  lastErrorAt := none

structure Asset extends AssetDiscovery, AssetDownload where
  id : String
  contentId : String
  kind : String
  position : Int
  generation : Int
  createdAt : Time
  updatedAt : Time

namespace Asset

/-- The columns under the unique constraint. -/
def slot (a : Asset) : String × String × Int := (a.contentId, a.kind, a.position)

def platforms : List String := ["xhs", "dy", "ks", "bili", "wb", "tieba", "zhihu"]

def kinds : List String :=
  ["image", "video", "audio", "subtitle", "cover", "avatar", "attachment"]

/-- The CHECK constraints of the table; the status column is an enumeration. -/
def checked (a : Asset) : Bool :=
  a.platform ∈ platforms && a.kind ∈ kinds && 0 ≤ a.position && 1 ≤ a.generation &&
    a.sizeBytes.all (0 ≤ ·)

end Asset

structure Content where
  id : String
  platform : String
  remoteType : String
  remoteId : String

structure AssetStore where
  assets : Table Asset.id
  slots : (assets.rows.map Asset.slot).Nodup
  jobs : Table Job.id
  contents : Table Content.id

abbrev AssetSession := Tx AssetStore AssetError

def getAsset (id : String) : AssetSession (Option Asset) := Tx.read (fun db => db.assets.get? id)

namespace AssetStore

/-- Write columns of one row; the key and the slot are never among them. -/
def keyed (values : Asset → Asset) (a : Asset) : Asset :=
  { values a with id := a.id, contentId := a.contentId, kind := a.kind, position := a.position }

def setAsset (db : AssetStore) (id : String) (values : Asset → Asset) : AssetStore :=
  { db with
    assets := db.assets.update (fun a => a.id = id) (keyed values)
    slots := by
      have h : (db.assets.rows.map (fun r => if decide (r.id = id) then keyed values r else r)).map
          Asset.slot = db.assets.rows.map Asset.slot := by
        rw [List.map_map]
        apply List.map_congr_left
        intro r _
        by_cases hr : r.id = id
        · simp [hr, keyed, Asset.slot]
        · simp [hr]
      exact h ▸ db.slots }

theorem get?_setAsset (db : AssetStore) (id : String) (values : Asset → Asset) (k : String) :
    (db.setAsset id values).assets.get? k =
      if k = id then (db.assets.get? k).map (keyed values) else db.assets.get? k :=
  Table.get?_updateKey db.assets id _ (by intro a; rfl) k

/-- The row of a slot. -/
def findSlot (db : AssetStore) (slot : String × String × Int) : Option Asset :=
  db.assets.rows.find? (fun a => a.slot = slot)

theorem findSlot_some {db : AssetStore} {slot : String × String × Int} {a : Asset}
    (h : db.findSlot slot = some a) : db.assets.get? a.id = some a ∧ a.slot = slot :=
  ⟨Table.get?_of_mem (List.mem_of_find?_eq_some h), by simpa using List.find?_some h⟩

theorem findSlot_of_get? {db : AssetStore} {id : String} {a : Asset}
    (h : db.assets.get? id = some a) : db.findSlot a.slot = some a := by
  have hmem := Table.get?_mem h
  cases hf : db.findSlot a.slot with
  | none =>
    have := List.find?_eq_none.mp hf a hmem
    simp at this
  | some b =>
    have hb := List.mem_of_find?_eq_some hf
    have hslot : b.slot = a.slot := by simpa using List.find?_some hf
    rw [List.inj_on_of_nodup_map db.slots hb hmem hslot]

end AssetStore

/-- `update(Asset).where(Asset.id == id, ...).values(...).returning(Asset)`. -/
def updateAsset (id : String) (conditions : AssetStore → Asset → Bool) (values : Asset → Asset) :
    AssetSession (Option Asset) := fun db =>
  match db.assets.get? id with
  | none => (.ok none, db)
  | some a =>
    if conditions db a then
      if (AssetStore.keyed values a).checked then
        (.ok (some (AssetStore.keyed values a)), db.setAsset id values)
      else (.error (integrityError "assets"), db)
    else (.ok none, db)

/-- `session.add(asset); session.flush()` under the primary key, the slot, the foreign key of
the content and the checks. -/
def insertAsset (asset : Asset) : AssetSession Asset := fun db =>
  if hslot : asset.slot ∈ db.assets.rows.map Asset.slot then
    (.error (integrityError "assets"), db)
  else if asset.checked && (db.contents.get? asset.contentId).isSome then
    if hid : asset.id ∈ db.assets.rows.map Asset.id then (.error (integrityError "assets"), db)
    else (.ok asset, { db with
      assets := ⟨db.assets.rows ++ [asset], by
        rw [List.map_append, List.map_cons, List.map_nil]
        exact List.nodup_append.mpr ⟨db.assets.unique, List.nodup_singleton _, by
          intro k hk k' hk' heq
          rw [List.mem_singleton.mp hk'] at heq
          exact hid (heq ▸ hk)⟩⟩
      slots := by
        simp only [List.map_append, List.map_cons, List.map_nil]
        exact List.nodup_append.mpr ⟨db.slots, List.nodup_singleton _, by
          intro k hk k' hk' heq
          rw [List.mem_singleton.mp hk'] at heq
          exact hslot (heq ▸ hk)⟩ })
  else (.error (integrityError "assets"), db)

structure AssetUpsert where
  kind : String
  position : Int
  platform : String
  contentRemoteType : Option String
  contentRemoteId : Option String
  remoteId : Option String
  sourceUrl : Option String
  locator : List (String × Json)
  width : Option Int
  height : Option Int
  durationMs : Option Int
  raw : List (String × Json)

/-- What URL parsing, redaction and hashing return; `none` is `MediaDownloadError`. -/
structure AssetIdentity where
  /-- `asset_source_hint` of a URL -/
  sourceHint : String → Option String
  redactText : String → String
  redactMapping : List (String × Json) → List (String × Json)
  /-- `_canonical_direct_url` -/
  canonicalDirectUrl : String → Option String
  /-- `_plain_text(value, name=name)` -/
  plainText : Bool → String → Option String
  /-- `_canonical_sha256(value, ensure_ascii=ensure_ascii)` -/
  canonicalSha256 : Bool → List (String × Json) → String

namespace AssetIdentity

variable (identity : AssetIdentity)

def assetSourceHint (sourceUrl : Option String) : Option String :=
  sourceUrl.bind identity.sourceHint

def safeText (value : Option String) : Option String := value.map identity.redactText

/-- `DirectLocator(url).as_dict()`. -/
def directLocator (url : String) : Option (List (String × Json)) :=
  (identity.canonicalDirectUrl url).map (fun canonical =>
    [("type", .str "direct"), ("url", .str canonical), ("version", .int 1)])

/-- `AdapterRefreshLocator(adapter, asset_key).as_dict()`. -/
def adapterRefreshLocator (adapter assetKey : String) : Option (List (String × Json)) :=
  match identity.plainText true adapter, identity.plainText false assetKey with
  | some adapter, some assetKey =>
    some [("adapter", .str adapter), ("asset_key", .str assetKey),
      ("type", .str "adapter_refresh"), ("version", .int 1)]
  | _, _ => none

/-- The string under a key, and the empty string for any other value. -/
def textOr (raw : List (String × Json)) (name : String) : String :=
  (Json.asStr? (Json.get? raw name)).getD ""

/-- `parse_locator(raw).as_dict()`. -/
def parseLocator (raw : List (String × Json)) : Option (List (String × Json)) :=
  if Json.asInt? (Json.get? raw "version") = some 1 then
    match Json.asStr? (Json.get? raw "type") with
    | some locatorType =>
      if locatorType = "direct" then
        if Json.hasKeys raw ["version", "type", "url"] then
          identity.directLocator (textOr raw "url")
        else none
      else if locatorType = "adapter_refresh" then
        if Json.hasKeys raw ["version", "type", "adapter", "asset_key"] then
          identity.adapterRefreshLocator (textOr raw "adapter") (textOr raw "asset_key")
        else none
      else none
    | none => none
  else none

def optText : Option String → Json
  | some s => .str s
  | none => .null

def optInt : Option Int → Json
  | some n => .int n
  | none => .null

/-- The fields that both the stable key and the semantic fingerprint start with. -/
def stableFields (value : AssetUpsert) (remoteType remoteId : String) : List (String × Json) :=
  [("version", .int 1), ("platform", .str value.platform),
    ("content_remote_type", .str remoteType), ("content_remote_id", .str remoteId),
    ("kind", .str value.kind), ("position", .int value.position),
    ("remote_id", optText value.remoteId)]

def stableAssetKey (value : AssetUpsert) (remoteType remoteId : String) : String :=
  identity.canonicalSha256 true (stableFields value remoteType remoteId)

structure AssetFingerprints where
  semantic : String
  locator : String

/-- A locator takes part in the semantic fingerprint only where there is no source hint. -/
def assetFingerprints (value : AssetUpsert) (remoteType remoteId : String)
    (sourceUrl : Option String) (locator : List (String × Json)) : AssetFingerprints :=
  let semanticSource := identity.assetSourceHint sourceUrl
  let semantic := stableFields value remoteType remoteId ++
    [("source", optText semanticSource), ("width", optInt value.width),
      ("height", optInt value.height), ("duration_ms", optInt value.durationMs)] ++
    (if semanticSource.isNone then [("locator", Json.obj locator)] else [])
  ⟨identity.canonicalSha256 false semantic, identity.canonicalSha256 true locator⟩

/-- The locator that is parsed: the given one, else the direct URL, else the refresh key. -/
def chosenLocator (value : AssetUpsert) (remoteType remoteId : String) :
    Option (List (String × Json)) :=
  let locator := identity.redactMapping value.locator
  if locator.isEmpty then
    match value.sourceUrl.bind identity.directLocator with
    | some direct => some direct
    | none =>
      identity.adapterRefreshLocator "database" (identity.stableAssetKey value remoteType remoteId)
  else some locator

/-- The remote identity of the content, read from its row where the caller did not give it. -/
def contentIdentity (contentId : String) (value : AssetUpsert) : AssetSession (String × String) :=
  match value.contentRemoteType, value.contentRemoteId with
  | some remoteType, some remoteId => pure (remoteType, remoteId)
  | none, none => do
    let content ← Tx.read (fun db : AssetStore => db.contents.get? contentId)
    match content with
    | none => Tx.throw (notFoundError s!"content not found: {contentId}")
    | some content => do
      Tx.require (content.platform = value.platform)
        (repositoryError "asset and content platforms do not match")
      pure (content.remoteType, content.remoteId)
  | _, _ => Tx.throw (valueError "content remote type and ID must be provided together")

/-- `_prepare_discovery`; the fingerprints it returns beside the values are among them. -/
def prepareDiscovery (contentId : String) (value : AssetUpsert) : AssetSession AssetDiscovery := do
  let (remoteType, remoteId) ← contentIdentity contentId value
  let safeSourceUrl := identity.safeText (identity.assetSourceHint value.sourceUrl)
  match identity.chosenLocator value remoteType remoteId with
  | none => Tx.throw mediaDownloadError
  | some chosen => do
    let some locator := identity.parseLocator chosen
      | Tx.throw (repositoryError "asset locator is invalid")
    let fingerprints :=
      identity.assetFingerprints value remoteType remoteId safeSourceUrl locator
    pure {
      platform := value.platform
      remoteId := value.remoteId
      sourceUrl := safeSourceUrl
      locator := locator
      semanticFingerprint := fingerprints.semantic
      locatorFingerprint := fingerprints.locator
      width := value.width
      height := value.height
      durationMs := value.durationMs
      raw := identity.redactMapping value.raw }

end AssetIdentity

/-! ## The repository -/

namespace AssetRepository

def expectedStatusOf (expectedStatus : String) : AssetSession AssetStatus :=
  match AssetStatus.ofValue? expectedStatus with
  | some status => pure status
  | none => Tx.throw (valueError ("unsupported asset status: '" ++ expectedStatus ++ "'"))

/-- `_validate_asset_cas`, with `AssetStatus(expected_status)`. -/
def validateAssetCas (expectedGeneration : Int) (expectedStatus : String) :
    AssetSession AssetStatus := do
  Tx.require (1 ≤ expectedGeneration) (valueError "expected_generation must be positive")
  expectedStatusOf expectedStatus

def transitionAsset (current target : AssetStatus) : AssetSession Unit :=
  Tx.require (target ∈ current.transitions)
    (invalidStateTransitionError "asset" current.value target.value)

/-- `_bounded_text`. -/
def boundedText (value fieldName : String) (maxLength : Nat) : AssetSession String := do
  let normalized := strip value
  Tx.require (normalized ≠ "") (valueError s!"{fieldName} must not be blank")
  Tx.require (normalized.length ≤ maxLength) (valueError s!"{fieldName} is too long")
  Tx.require (normalized.toList.all (fun c => c ≠ '\r' && c ≠ '\n'))
    (valueError s!"{fieldName} must be a single line")
  pure normalized

/-- `_optional_validator`. -/
def optionalValidator (value : Option String) (fieldName : String) (maxLength : Nat) :
    AssetSession (Option String) :=
  match value with
  | none => pure none
  | some value => do
    let normalized ← boundedText value fieldName maxLength
    pure (some normalized)

/-- The generation and the status that a caller expects. -/
def expects (expectedGeneration : Int) (expectedStatus : AssetStatus) (a : Asset) : Bool :=
  a.generation = expectedGeneration && a.status = expectedStatus

/-- `_cas_update`. -/
def casUpdate (assetId : String) (expectedGeneration : Int) (expectedStatus : AssetStatus)
    (values : Asset → Asset) : AssetSession Asset := do
  let updated ← updateAsset assetId (fun _ a => expects expectedGeneration expectedStatus a) values
  match updated with
  | some asset => pure asset
  | none => do
    let existing ← getAsset assetId
    Tx.require existing.isSome (notFoundError s!"asset not found: {assetId}")
    Tx.throw (assetConflictError assetId expectedGeneration expectedStatus.value)

/-- The lease that a worker presents, and the time it presents it at. -/
structure DownloadLease where
  jobId : String
  workerId : String
  leaseToken : String
  presentedAt : Time

/-- The presented lease is the current one of its job and has not run out. -/
def DownloadLease.held (lease : DownloadLease) (allowed : List JobStatus) (db : AssetStore) : Bool :=
  match db.jobs.get? lease.jobId with
  | some job =>
    job.leaseOwner = some lease.workerId && job.leaseToken = some lease.leaseToken &&
      job.status ∈ allowed && job.leaseExpiresAt.any (lease.presentedAt < ·)
  | none => false

/-- `_owned_cas_update`. -/
def ownedCasUpdate (assetId : String) (expectedGeneration : Int) (expectedStatus : AssetStatus)
    (lease : DownloadLease) (allowedJobStatuses : List JobStatus)
    (extraAssetCondition : Asset → Bool) (values : Asset → Asset) : AssetSession Asset := do
  let _ ← boundedText lease.jobId "job_id" 512
  let _ ← boundedText lease.workerId "worker_id" 512
  let _ ← boundedText lease.leaseToken "lease_token" 512
  let updated ← updateAsset assetId
    (fun db a => expects expectedGeneration expectedStatus a &&
      lease.held allowedJobStatuses db && extraAssetCondition a) values
  match updated with
  | some asset => pure asset
  | none => do
    let existing ← getAsset assetId
    match existing with
    | none => Tx.throw (notFoundError s!"asset not found: {assetId}")
    | some a => do
      Tx.require (expects expectedGeneration expectedStatus a)
        (assetConflictError assetId expectedGeneration expectedStatus.value)
      Tx.throw (assetLeaseLostError s!"download job no longer owns asset {assetId}")

def resetValues (values : AssetDiscovery) (current : Time) (a : Asset) : Asset :=
  { a with
    toAssetDiscovery := values, toAssetDownload := .cleared
    generation := a.generation + 1, updatedAt := current }

/-- `_reset_prepared`. -/
def resetPrepared (assetId : String) (expectedGeneration : Int) (expectedStatus : AssetStatus)
    (values : AssetDiscovery) (current : Time) : AssetSession Asset :=
  casUpdate assetId expectedGeneration expectedStatus (resetValues values current)

def rediscoveredValues (values : AssetDiscovery) (now : Time) (a : Asset) : Asset :=
  { a with toAssetDiscovery := values, updatedAt := now }

def newAsset (id contentId : String) (value : AssetUpsert) (values : AssetDiscovery) (now : Time) :
    Asset where
  toAssetDiscovery := values
  toAssetDownload := .cleared
  id := id
  contentId := contentId
  kind := value.kind
  position := value.position
  generation := 1
  createdAt := now
  updatedAt := now

/-- The row is the same download as the one described. -/
def sameDiscovery (values : AssetDiscovery) (a : Asset) : Bool :=
  a.remoteId = values.remoteId && a.semanticFingerprint = values.semanticFingerprint &&
    a.locatorFingerprint = values.locatorFingerprint

/-- `continue` on a conflict of the compare-and-swap. -/
def retryable : AssetError → Bool
  | assetConflictError _ _ _ => true
  | _ => false

/-- The observing loop of `upsert_for_content`, with the attempts that are left. -/
def observeSlot (newId contentId : String) (value : AssetUpsert) (values : AssetDiscovery)
    (now : Time) : Nat → Option (String × Int × AssetStatus) → AssetSession Asset
  | 0, none => Tx.throw (repositoryError "asset discovery could not observe its conflicting row")
  | 0, some (id, generation, status) => Tx.throw (assetConflictError id generation status.value)
  | attempts + 1, _ => do
    let found ← Tx.read (fun db : AssetStore =>
      db.findSlot (contentId, value.kind, value.position))
    match found with
    | none => insertAsset (newAsset newId contentId value values now)
    | some asset =>
      let observed := some (asset.id, asset.generation, asset.status)
      if sameDiscovery values asset then do
        let updated ← updateAsset asset.id
          (fun _ a => a.generation = asset.generation &&
            a.semanticFingerprint = asset.semanticFingerprint &&
            a.locatorFingerprint = asset.locatorFingerprint)
          (rediscoveredValues values now)
        match updated with
        | some updated => pure updated
        | none => observeSlot newId contentId value values now attempts observed
      else
        Tx.catching (resetPrepared asset.id asset.generation asset.status values now) retryable
          (fun _ => observeSlot newId contentId value values now attempts observed)

/-- `upsert_for_content`. SQLite inserts first and does nothing on a taken slot; `newId` is what
`new_uuid` returns. -/
def upsertForContent (identity : AssetIdentity) (sqlite : Bool) (newId contentId : String)
    (value : AssetUpsert) (now : Time) : AssetSession Asset := do
  let values ← identity.prepareDiscovery contentId value
  let taken ← Tx.read (fun db : AssetStore =>
    (db.findSlot (contentId, value.kind, value.position)).isSome)
  if sqlite && !taken then insertAsset (newAsset newId contentId value values now)
  else observeSlot newId contentId value values now 5 none

def reset (identity : AssetIdentity) (assetId : String) (expectedGeneration : Int)
    (expectedStatus : String) (value : AssetUpsert) (now : Time) : AssetSession Asset := do
  let status ← validateAssetCas expectedGeneration expectedStatus
  let existing ← getAsset assetId
  match existing with
  | none => Tx.throw (notFoundError s!"asset not found: {assetId}")
  | some asset => do
    Tx.require (asset.kind = value.kind && asset.position = value.position)
      (repositoryError "asset reset cannot change its stable kind/position slot")
    let values ← identity.prepareDiscovery asset.contentId value
    resetPrepared assetId expectedGeneration status values now

def queuedValues (current : Time) (a : Asset) : Asset :=
  { a with
    status := .queued, downloadJobId := none, queuedAt := some current
    downloadStartedAt := none, lastErrorCode := none, lastErrorMessage := none
    lastErrorAt := none, updatedAt := current }

def queue (assetId : String) (expectedGeneration : Int) (expectedStatus : String)
    (current : Time) : AssetSession Asset := do
  let status ← validateAssetCas expectedGeneration expectedStatus
  transitionAsset status .queued
  casUpdate assetId expectedGeneration status (queuedValues current)

def startedValues (jobId : String) (current : Time) (a : Asset) : Asset :=
  { a with
    status := .downloading, downloadJobId := some jobId, downloadStartedAt := some current
    downloadedAt := none, verifiedAt := none, mimeType := none, sizeBytes := none
    checksumSha256 := none, localPath := none, etag := none, lastModified := none
    lastErrorCode := none, lastErrorMessage := none, lastErrorAt := none, updatedAt := current }

def start (assetId : String) (expectedGeneration : Int) (expectedStatus : String)
    (lease : DownloadLease) : AssetSession Asset := do
  let status ← validateAssetCas expectedGeneration expectedStatus
  transitionAsset status .downloading
  ownedCasUpdate assetId expectedGeneration status lease [.claimed, .running] (fun _ => true)
    (startedValues lease.jobId lease.presentedAt)

def failedTarget (retryable : Bool) : AssetStatus :=
  if retryable then .failedRetryable else .failedTerminal

def failedValues (target : AssetStatus) (code message : String) (current : Time) (a : Asset) :
    Asset :=
  { a with
    status := target, lastErrorCode := some code, lastErrorMessage := some message
    lastErrorAt := some current, updatedAt := current }

/-- The asset is downloaded by the job. -/
def downloadedBy (jobId : String) (a : Asset) : Bool := a.downloadJobId = some jobId

def fail (identity : AssetIdentity) (assetId : String) (expectedGeneration : Int)
    (expectedStatus : String) (lease : DownloadLease) (retryable : Bool)
    (errorCode errorMessage : String) : AssetSession Asset := do
  let status ← validateAssetCas expectedGeneration expectedStatus
  Tx.require (status = .downloading) (valueError "asset failure requires downloading status")
  transitionAsset status (failedTarget retryable)
  let code ← boundedText errorCode "error_code" 128
  let message ← boundedText errorMessage "error_message" 2000
  ownedCasUpdate assetId expectedGeneration status lease [.claimed, .running]
    (downloadedBy lease.jobId)
    (failedValues (failedTarget retryable) code (identity.redactText message) lease.presentedAt)

/-- The bytes that a worker reports. -/
structure VerifiedBytes where
  mimeType : String
  sizeBytes : Int
  checksumSha256 : String
  localPath : String
  etag : Option String
  lastModified : Option String

def verifiedValues (bytes : VerifiedBytes) (current : Time) (a : Asset) : Asset :=
  { a with
    status := .verified, mimeType := some bytes.mimeType, sizeBytes := some bytes.sizeBytes
    checksumSha256 := some bytes.checksumSha256, localPath := some bytes.localPath
    etag := bytes.etag, lastModified := bytes.lastModified, downloadedAt := some current
    verifiedAt := some current, lastErrorCode := none, lastErrorMessage := none
    lastErrorAt := none, updatedAt := current }

/-- The transitions that `verify` asks for, by the status it expects. -/
def verifyTransitions (status : AssetStatus) : AssetSession Unit :=
  match status with
  | .downloading => do
    transitionAsset .downloading .downloaded
    transitionAsset .downloaded .verified
  | .downloaded => transitionAsset .downloaded .verified
  | _ => Tx.throw (valueError "asset verification requires downloading or downloaded status")

/-- `str.lower`, as far as hexadecimal digits can come of it. -/
def lower (value : String) : String := String.ofList (value.toList.map Char.toLower)

/-- The reported bytes as they are stored, where they are well formed. -/
def checkedBytes (identity : AssetIdentity) (bytes : VerifiedBytes) :
    AssetSession VerifiedBytes := do
  Tx.require (0 ≤ bytes.sizeBytes) (valueError "size_bytes must be non-negative")
  let checksum := lower (strip bytes.checksumSha256)
  Tx.require (checksum.length = 64 && checksum.toList.all (· ∈ "0123456789abcdef".toList))
    (valueError "checksum_sha256 must contain 64 hexadecimal characters")
  let actualMime ← boundedText bytes.mimeType "mime_type" 255
  let actualPath ← boundedText bytes.localPath "local_path" 4096
  let safeEtag ← optionalValidator bytes.etag "etag" 512
  Tx.require (safeEtag.all (fun e => !"W/".toList.isPrefixOf e.toList))
    (valueError "etag must be a strong validator")
  let safeLastModified ← optionalValidator bytes.lastModified "last_modified" 255
  pure {
    mimeType := actualMime
    sizeBytes := bytes.sizeBytes
    checksumSha256 := checksum
    localPath := identity.redactText actualPath
    etag := identity.safeText safeEtag
    lastModified := identity.safeText safeLastModified }

def verify (identity : AssetIdentity) (assetId : String) (expectedGeneration : Int)
    (expectedStatus : String) (lease : DownloadLease) (bytes : VerifiedBytes) :
    AssetSession Asset := do
  let status ← validateAssetCas expectedGeneration expectedStatus
  verifyTransitions status
  let stored ← checkedBytes identity bytes
  ownedCasUpdate assetId expectedGeneration status lease [.running] (downloadedBy lease.jobId)
    (verifiedValues stored lease.presentedAt)

def archiveResetValues (code message : String) (current : Time) (a : Asset) : Asset :=
  { a with
    toAssetDownload := { AssetDownload.cleared with
      lastErrorCode := some code, lastErrorMessage := some message, lastErrorAt := some current }
    generation := a.generation + 1, updatedAt := current }

/-- `reset_verified_archive`. -/
def resetVerifiedArchive (identity : AssetIdentity) (assetId : String) (expectedGeneration : Int)
    (expectedLocalPath expectedChecksumSha256 : String) (expectedSizeBytes : Int)
    (errorCode errorMessage : String) (current : Time) : AssetSession Asset := do
  Tx.require (1 ≤ expectedGeneration && 0 ≤ expectedSizeBytes)
    (valueError "verified archive reset expectations are invalid")
  let code ← boundedText errorCode "error_code" 128
  let message ← boundedText errorMessage "error_message" 2000
  let updated ← updateAsset assetId
    (fun _ a => expects expectedGeneration .verified a && a.localPath = some expectedLocalPath &&
      a.checksumSha256 = some expectedChecksumSha256 && a.sizeBytes = some expectedSizeBytes)
    (archiveResetValues code (identity.redactText message) current)
  match updated with
  | some asset => pure asset
  | none => do
    let existing ← getAsset assetId
    Tx.require existing.isSome (notFoundError s!"asset not found: {assetId}")
    Tx.throw (assetConflictError assetId expectedGeneration AssetStatus.verified.value)

/-- The job ended in the status and left no lease. -/
def reclaimedAs (db : AssetStore) (jobId : String) (status : JobStatus) : Bool :=
  (db.jobs.get? jobId).any (fun job => job.status = status && job.leaseOwner.isNone &&
    job.leaseToken.isNone && job.leaseExpiresAt.isNone)

def downloadLeaseExpired : String := "download_lease_expired"

/-- One of the two statements of `recover_expired_download`. -/
def recoverAs (assetId : String) (expectedGeneration : Int) (jobId : String)
    (jobStatus : JobStatus) (target : AssetStatus) (current : Time) :
    AssetSession (Option Asset) :=
  updateAsset assetId
    (fun db a => expects expectedGeneration .downloading a && downloadedBy jobId a &&
      reclaimedAs db jobId jobStatus)
    (failedValues target downloadLeaseExpired "download job lease expired" current)

def recoverExpiredDownload (assetId : String) (expectedGeneration : Int) (expectedStatus : String)
    (jobId : String) (current : Time) : AssetSession Asset := do
  let status ← validateAssetCas expectedGeneration expectedStatus
  Tx.require (status = .downloading)
    (valueError "expired download recovery requires downloading status")
  let retryable ←
    recoverAs assetId expectedGeneration jobId .failedRetryable .failedRetryable current
  match retryable with
  | some asset => pure asset
  | none => do
    let terminal ←
      recoverAs assetId expectedGeneration jobId .failedTerminal .failedTerminal current
    match terminal with
    | some asset => pure asset
    | none => do
      let existing ← getAsset assetId
      match existing with
      | none => Tx.throw (notFoundError s!"asset not found: {assetId}")
      | some a => do
        Tx.require (expects expectedGeneration status a)
          (assetConflictError assetId expectedGeneration expectedStatus)
        Tx.throw (assetLeaseLostError s!"download job is not reclaimable for asset {assetId}")

def resumedValues (current : Time) (a : Asset) : Asset :=
  { a with
    status := .downloading, lastErrorCode := none, lastErrorMessage := none
    lastErrorAt := none, updatedAt := current }

def resumeReclaimedPreparedResult (assetId : String) (expectedGeneration : Int)
    (expectedStatus : String) (lease : DownloadLease) : AssetSession Asset := do
  Tx.require (expectedStatus = AssetStatus.failedRetryable.value ||
      expectedStatus = AssetStatus.failedTerminal.value)
    (valueError "prepared-result recovery requires a reclaimed asset status")
  let status ← validateAssetCas expectedGeneration expectedStatus
  ownedCasUpdate assetId expectedGeneration status lease [.running]
    (fun a => downloadedBy lease.jobId a && a.lastErrorCode = some downloadLeaseExpired)
    (resumedValues lease.presentedAt)

/-- The terminal-only form of the recovery. -/
def resumeTerminalPreparedResult (assetId : String) (expectedGeneration : Int)
    (lease : DownloadLease) : AssetSession Asset :=
  resumeReclaimedPreparedResult assetId expectedGeneration AssetStatus.failedTerminal.value lease

end AssetRepository

/-- The operations of the repository, with what their callers present. -/
inductive AssetCall where
  | upsertForContent (sqlite : Bool) (newId contentId : String) (value : AssetUpsert) (now : Time)
  | reset (assetId : String) (expectedGeneration : Int) (expectedStatus : String)
      (value : AssetUpsert) (now : Time)
  | queue (assetId : String) (expectedGeneration : Int) (expectedStatus : String) (now : Time)
  | start (assetId : String) (expectedGeneration : Int) (expectedStatus : String)
      (lease : AssetRepository.DownloadLease)
  | fail (assetId : String) (expectedGeneration : Int) (expectedStatus : String)
      (lease : AssetRepository.DownloadLease) (retryable : Bool) (errorCode errorMessage : String)
  | verify (assetId : String) (expectedGeneration : Int) (expectedStatus : String)
      (lease : AssetRepository.DownloadLease) (bytes : AssetRepository.VerifiedBytes)
  | resetVerifiedArchive (assetId : String) (expectedGeneration : Int)
      (expectedLocalPath expectedChecksumSha256 : String) (expectedSizeBytes : Int)
      (errorCode errorMessage : String) (now : Time)
  | recoverExpiredDownload (assetId : String) (expectedGeneration : Int) (expectedStatus : String)
      (jobId : String) (now : Time)
  | resumeReclaimedPreparedResult (assetId : String) (expectedGeneration : Int)
      (expectedStatus : String) (lease : AssetRepository.DownloadLease)

namespace AssetCall

open AssetRepository

def run (identity : AssetIdentity) : AssetCall → AssetSession Asset
  | upsertForContent sqlite newId contentId value now =>
    AssetRepository.upsertForContent identity sqlite newId contentId value now
  | reset assetId generation status value now =>
    AssetRepository.reset identity assetId generation status value now
  | queue assetId generation status now => AssetRepository.queue assetId generation status now
  | start assetId generation status lease => AssetRepository.start assetId generation status lease
  | fail assetId generation status lease retryable errorCode errorMessage =>
    AssetRepository.fail identity assetId generation status lease retryable errorCode errorMessage
  | verify assetId generation status lease bytes =>
    AssetRepository.verify identity assetId generation status lease bytes
  | resetVerifiedArchive assetId generation localPath checksum sizeBytes errorCode message now =>
    AssetRepository.resetVerifiedArchive identity assetId generation localPath checksum sizeBytes
      errorCode message now
  | recoverExpiredDownload assetId generation status jobId now =>
    AssetRepository.recoverExpiredDownload assetId generation status jobId now
  | resumeReclaimedPreparedResult assetId generation status lease =>
    AssetRepository.resumeReclaimedPreparedResult assetId generation status lease

/-- The generation that the caller presents. -/
def generation? : AssetCall → Option Int
  | upsertForContent .. => none
  | reset _ generation _ _ _ | queue _ generation _ _ | start _ generation _ _
  | fail _ generation _ _ _ _ _ | verify _ generation _ _ _
  | resetVerifiedArchive _ generation _ _ _ _ _ _ | recoverExpiredDownload _ generation _ _ _
  | resumeReclaimedPreparedResult _ generation _ _ => some generation

/-- The lease that a worker presents. -/
def lease? : AssetCall → Option DownloadLease
  | start _ _ _ lease | fail _ _ _ lease _ _ _ | verify _ _ _ lease _
  | resumeReclaimedPreparedResult _ _ _ lease => some lease
  | _ => none

/-- The download job that a worker presents. -/
def jobId? : AssetCall → Option String
  | recoverExpiredDownload _ _ _ jobId _ => some jobId
  | c => c.lease?.map (·.jobId)

def isStart : AssetCall → Bool
  | start .. => true
  | _ => false

end AssetCall

/-- What one step is: a call of the repository, or anything that another party does to the job
and content tables. -/
inductive AssetEvent where
  | call (c : AssetCall)
  | others (jobs : Table Job.id) (contents : Table Content.id)

namespace AssetStore

/-- `ON DELETE SET NULL`: a download job that is gone is no download job. -/
def unlinked (jobs : Table Job.id) (a : Asset) : Asset :=
  { a with downloadJobId := a.downloadJobId.filter (fun id => (jobs.get? id).isSome) }

/-- The tables after other parties, the job repository among them, wrote to them. -/
def withOthers (db : AssetStore) (jobs : Table Job.id) (contents : Table Content.id) :
    AssetStore where
  assets := db.assets.update (fun _ => true) (unlinked jobs)
  slots := by
    have h : (db.assets.update (fun _ => true) (unlinked jobs)).rows.map Asset.slot =
        db.assets.rows.map Asset.slot := by
      simp [Table.update, unlinked, Asset.slot, Function.comp_def]
    exact h ▸ db.slots
  jobs := jobs
  contents := contents

def empty : AssetStore := ⟨.empty, List.nodup_nil, .empty, .empty⟩

end AssetStore

/-- One event of any party; a call that raises is an event too. -/
def assetStep (identity : AssetIdentity) (s : AssetStore) : AssetEvent → AssetStore → Prop
  | .call c, t => t = (c.run identity s).2
  | .others jobs contents, t => t = s.withOthers jobs contents

end MediaSync.Media
