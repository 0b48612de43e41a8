import MediaSync.Accounts.LoginSessions

/-!
# Creator profiles

What an account sees of a creator is one row, and each request for it is a row
of its own under the operation that asked. A request takes the next generation
of the profile together with a digest of the credentials it runs under; its
result is written only while the profile still shows both.
-/

namespace MediaSync.Accounts

open Python Transaction

/-- What `_credential_digest` serialises of an account. -/
structure Credentials where
  accountId : String
  platform : String
  adapter : String
  loginMethod : Option LoginMethod
  authStatus : AuthStatus
  authRevision : Nat
  authUpdatedAt : Option Time
  credentialRef : Option String
  profilePath : Option String
  deriving DecidableEq

def LoginAccount.credentials (a : LoginAccount) : Credentials :=
  ⟨a.id, a.platform, a.adapter, a.loginMethod, a.authStatus, a.authRevision, a.authUpdatedAt,
    a.credentialRef, a.profilePath⟩

inductive OperationState where
  | queued | running | succeeded | failedRetryable | failedTerminal | cancelled | interrupted
  deriving DecidableEq, Repr

/-- The columns of an operation that a lookup compares. -/
structure ProfileOperation where
  id : String
  kind : String
  targetType : Option String
  targetId : Option String
  state : OperationState
  cancelRequestedAt : Option Time
  leaseExpiresAt : Option Time
  deriving DecidableEq

inductive LookupState where
  | pending | succeeded | failed
  deriving DecidableEq, Repr

abbrev Bytes := List UInt8

/-- `CreatorProfile`. -/
structure CreatorProfile (δ : Type) where
  id : String
  accountId : String
  platform : String
  creatorRemoteId : String
  generation : Nat
  latestOperationId : Option String
  latestFrontendGeneration : Option String
  credentialSnapshotDigest : Option δ
  nickname : Option String
  canonicalHomepage : Option String
  upstreamCommit : Option String
  observedAt : Option Time
  revision : Nat
  lastSuccessOperationId : Option String
  avatarPng : Option Bytes
  avatarRevision : Nat
  avatarProfileRevision : Option Nat
  avatarObservedAt : Option Time
  updatedAt : Time
  deriving DecidableEq

/-- `CreatorProfileLookup`. -/
structure CreatorProfileLookup (δ : Type) where
  operationId : String
  profileId : String
  generation : Nat
  frontendGeneration : String
  credentialSnapshotDigest : δ
  state : LookupState
  requestedAt : Time
  completedAt : Option Time
  resultRevision : Option Nat
  errorCode : Option String
  deriving DecidableEq

structure ProfileStore (δ : Type) where
  accounts : Table LoginAccount.id
  operations : Table ProfileOperation.id
  profiles : Table (CreatorProfile.id : CreatorProfile δ → String)
  lookups : Table (CreatorProfileLookup.operationId : CreatorProfileLookup δ → String)

/-- `LookupTicket`. -/
structure LookupTicket (δ : Type) where
  profileId : String
  accountId : String
  platform : String
  creatorRemoteId : String
  generation : Nat
  operationId : String
  frontendGeneration : String
  credentialSnapshotDigest : δ
  deriving DecidableEq

/-- `ProfileSnapshot`. -/
structure ProfileSnapshot where
  profileId : String
  accountId : String
  platform : String
  creatorRemoteId : String
  nickname : String
  canonicalHomepage : String
  upstreamCommit : String
  observedAt : Time
  revision : Nat
  lastSuccessOperationId : String
  avatarRevision : Nat
  avatarObservedAt : Option Time
  avatarRetained : Bool
  deriving DecidableEq

/-- `LookupSnapshot`. -/
structure LookupSnapshot (δ : Type) where
  ticket : LookupTicket δ
  state : LookupState
  errorCode : Option String
  requestedAt : Time
  completedAt : Option Time
  resultRevision : Option Nat
  profile : Option ProfileSnapshot

/-- `ProfileValue`. -/
structure ProfileValue where
  platform : String
  creatorRemoteId : String
  nickname : String
  canonicalHomepage : String
  upstreamCommit : String
  deriving DecidableEq

inductive ProfileError where
  | creatorProfileError (code : String)
  | integrityError (table : String)
  | assertionError
  deriving DecidableEq

/-- What the repository takes from `hashlib` and from the tables of Unicode. -/
structure ProfileHost (δ : Type) where
  credentialDigest : Credentials → δ
  isPrintable : Char → Bool

namespace CreatorProfileIdentity

def creatorProfilePlatforms : List String := ["bili", "wb", "ks", "zhihu", "dy", "tieba"]

def isWord (c : Char) : Bool := c.isAlphanum || c = '_' || c = '-'

def isTokenChar (c : Char) : Bool := isWord c || c = '.'

/-- `_TOKEN` and the two names that mean directories. -/
def isIdentifier (value : List Char) : Bool :=
  1 ≤ value.length && value.length ≤ 255 && value.all isTokenChar && value ≠ ['.'] &&
    value ≠ ['.', '.']

/-- The number that a run of decimal digits spells. -/
def decimal (value : List Char) : Nat :=
  value.foldl (fun n c => 10 * n + (c.toNat - '0'.toNat)) 0

/-- `_NUMERIC`, at most twenty digits that do not start with a zero. -/
def isNumeric (value : List Char) : Bool :=
  1 ≤ value.length && value.length ≤ 20 && value.all Char.isDigit && value.head? ≠ some '0'

def hasDoubleDot : List Char → Bool
  | '.' :: '.' :: _ => true
  | _ :: rest => hasDoubleDot rest
  | [] => false

/-- `_TIEBA`. -/
def isTieba (value : List Char) : Bool :=
  value.take 5 = ['t', 'b', '.', '1', '.'] && 28 ≤ (value.drop 5).length &&
    (value.drop 5).length ≤ 31 && (value.drop 5).all isTokenChar

def homepages : List (String × String) :=
  [("bili", "https://space.bilibili.com/"), ("wb", "https://weibo.com/u/"),
    ("ks", "https://www.kuaishou.com/profile/"), ("zhihu", "https://www.zhihu.com/people/"),
    ("dy", "https://www.douyin.com/user/"), ("tieba", "https://tieba.baidu.com/home/main?id=")]

/-- `validate_creator_profile_id` on one of the platforms. -/
def validCreatorProfileId (platform creatorRemoteId : String) : Bool :=
  let value := creatorRemoteId.toList
  isIdentifier value &&
    if platform = "bili" ∨ platform = "wb" then isNumeric value && decimal value ≤ 2 ^ 64 - 1
    else if platform = "ks" then value.length ≤ 128 && value.all isWord
    else if platform = "dy" then value.length ≤ 255 && value.all isWord
    else if platform = "tieba" then
      isTieba value && !hasDoubleDot value && value.getLast? ≠ some '.'
    else true

/-- `profile_homepage` on a valid identity. -/
def profileHomepage (platform creatorRemoteId : String) : String :=
  ((homepages.find? (fun h => h.1 = platform)).map Prod.snd).getD "" ++ creatorRemoteId

end CreatorProfileIdentity

namespace CreatorProfileRepository

open CreatorProfileIdentity ProfileError

def maxAvatarBytes : Nat := 2097152

def maxRevision : Nat := 9007199254740991

def profileErrorCodes : List String :=
  ["creator_profile_failed", "creator_profile_unavailable", "creator_profile_invalid",
    "creator_profile_identity_mismatch", "creator_profile_auth_changed",
    "creator_profile_auth_required", "creator_profile_superseded", "creator_profile_cancelled",
    "creator_profile_lease_lost", "creator_profile_not_found", "creator_profile_receipt_invalid",
    "creator_profile_receipt_expired", "creator_profile_busy", "creator_profile_unsupported",
    "creator_profile_timeout", "creator_profile_runner_failed",
    "creator_profile_operation_invalid"]

/-- A code of the closed list, or the general one. -/
def closedCode (code : String) : String :=
  if code ∈ profileErrorCodes then code else "creator_profile_failed"

/-- `CreatorProfileError`. -/
def profileError (code : String) : ProfileError := creatorProfileError (closedCode code)

variable {δ : Type}

abbrev ProfileTx (δ : Type) := Tx (ProfileStore δ) ProfileError

/-- `_uuid`. -/
def uuid (value : String) : ProfileTx δ Unit :=
  Tx.require (isCanonicalUuid value) (profileError "creator_profile_identity_mismatch")

/-- `_identity`. -/
def identity (platform creatorRemoteId : String) : ProfileTx δ Unit := do
  Tx.require (platform ∈ creatorProfilePlatforms) (profileError "creator_profile_unsupported")
  Tx.require (validCreatorProfileId platform creatorRemoteId)
    (profileError "creator_profile_identity_mismatch")

/-- The credentials under which a profile can be looked up. -/
def isAuthorised (a : LoginAccount) : Bool :=
  a.adapter = "mediacrawler" &&
    (a.loginMethod = some .savedSession || a.loginMethod = some .cookie) &&
    a.authStatus = .authenticated &&
    !(a.loginMethod = some .savedSession && a.credentialRef.isSome) &&
    !(a.loginMethod = some .cookie && a.credentialRef.isNone) && a.profilePath.isNone

/-- `_account`. -/
def account (accountId platform : String) : ProfileTx δ LoginAccount := do
  uuid accountId
  let found ← Tx.read (fun db : ProfileStore δ => db.accounts.get? accountId)
  match found with
  | none => Tx.throw (profileError "creator_profile_identity_mismatch")
  | some a => do
    Tx.require (a.platform = platform) (profileError "creator_profile_identity_mismatch")
    Tx.require (isAuthorised a) (profileError "creator_profile_auth_required")
    pure a

def isLookupOperation (o : ProfileOperation) (accountId : String) (state : OperationState) :
    Bool :=
  o.kind = "creator-profile" && o.targetType = some "account" && o.targetId = some accountId &&
    o.state = state

/-- `_operation`. -/
def operation (operationId accountId : String) (current : Time) : ProfileTx δ Unit := do
  uuid operationId
  let found ← Tx.read (fun db : ProfileStore δ => db.operations.get? operationId)
  match found with
  | none => Tx.throw (profileError "creator_profile_operation_invalid")
  | some o => do
    Tx.require (isLookupOperation o accountId .running)
      (profileError "creator_profile_operation_invalid")
    Tx.require o.cancelRequestedAt.isNone (profileError "creator_profile_cancelled")
    Tx.require (o.leaseExpiresAt.any (current < ·)) (profileError "creator_profile_lease_lost")

/-- `_ticket`. -/
def ticket (profile : CreatorProfile δ) (lookup : CreatorProfileLookup δ) : LookupTicket δ where
  profileId := profile.id
  accountId := profile.accountId
  platform := profile.platform
  creatorRemoteId := profile.creatorRemoteId
  generation := lookup.generation
  operationId := lookup.operationId
  frontendGeneration := lookup.frontendGeneration
  credentialSnapshotDigest := lookup.credentialSnapshotDigest

/-- `_snapshot`. -/
def snapshot (row : CreatorProfile δ) : Option ProfileSnapshot :=
  match row.nickname, row.canonicalHomepage, row.upstreamCommit, row.observedAt,
    row.lastSuccessOperationId with
  | some nickname, some canonicalHomepage, some upstreamCommit, some observedAt, some operationId =>
    if row.revision < 1 then none
    else some
      { profileId := row.id, accountId := row.accountId, platform := row.platform
        creatorRemoteId := row.creatorRemoteId, nickname := nickname
        canonicalHomepage := canonicalHomepage, upstreamCommit := upstreamCommit
        observedAt := observedAt, revision := row.revision, lastSuccessOperationId := operationId
        avatarRevision := row.avatarRevision, avatarObservedAt := row.avatarObservedAt
        avatarRetained :=
          0 < row.avatarRevision && row.avatarProfileRevision ≠ some row.revision }
  | _, _, _, _, _ => none

def saveProfile (p : CreatorProfile δ) : ProfileTx δ Unit :=
  Tx.modify (fun db => { db with
    profiles := db.profiles.replace p (fun new old => { new with id := old.id }) })

def insertProfile (p : CreatorProfile δ) : ProfileTx δ Unit := fun db =>
  match db.profiles.insert? p with
  | some profiles => (.ok (), { db with profiles := profiles })
  | none => (.error (integrityError "creator_profiles"), db)

/-- The flush of a profile that was found, or that was added to the session. -/
def flushProfile (found : Option (CreatorProfile δ)) (p : CreatorProfile δ) : ProfileTx δ Unit :=
  if found.isSome then saveProfile p else insertProfile p

def saveLookup (l : CreatorProfileLookup δ) : ProfileTx δ Unit :=
  Tx.modify (fun db => { db with
    lookups := db.lookups.replace l (fun new old => { new with operationId := old.operationId }) })

/-- The insertion with the constraint that a profile's generations are different. -/
def insertLookup (l : CreatorProfileLookup δ) : ProfileTx δ Unit := fun db =>
  if db.lookups.rows.any (fun l' => l'.profileId = l.profileId && l'.generation = l.generation)
  then (.error (integrityError "creator_profile_lookups"), db)
  else match db.lookups.insert? l with
    | some lookups => (.ok (), { db with lookups := lookups })
    | none => (.error (integrityError "creator_profile_lookups"), db)

/-! ## Operations -/

structure LookupRequest (δ : Type) where
  accountId : String
  platform : String
  creatorRemoteId : String
  operationId : String
  frontendGeneration : String
  expectedCredentialDigest : Option δ

/-- The row of an account that looks at a creator for the first time. -/
def newProfile (newId : String) (r : LookupRequest δ) (current : Time) : CreatorProfile δ where
  id := newId
  accountId := r.accountId
  platform := r.platform
  creatorRemoteId := r.creatorRemoteId
  generation := 0
  latestOperationId := none
  latestFrontendGeneration := none
  credentialSnapshotDigest := none
  nickname := none
  canonicalHomepage := none
  upstreamCommit := none
  observedAt := none
  revision := 0
  lastSuccessOperationId := none
  avatarPng := none
  avatarRevision := 0
  avatarProfileRevision := none
  avatarObservedAt := none
  updatedAt := current

def begunProfile (r : LookupRequest δ) (digest : δ) (current : Time) (p : CreatorProfile δ) :
    CreatorProfile δ :=
  { p with
    generation := p.generation + 1, latestOperationId := some r.operationId
    latestFrontendGeneration := some r.frontendGeneration
    credentialSnapshotDigest := some digest, updatedAt := current }

def pendingLookup (r : LookupRequest δ) (digest : δ) (current : Time) (p : CreatorProfile δ) :
    CreatorProfileLookup δ where
  operationId := r.operationId
  profileId := p.id
  generation := p.generation
  frontendGeneration := r.frontendGeneration
  credentialSnapshotDigest := digest
  state := .pending
  requestedAt := current
  completedAt := none
  resultRevision := none
  errorCode := none

def requestedProfile (db : ProfileStore δ) (r : LookupRequest δ) : Option (CreatorProfile δ) :=
  db.profiles.rows.find? (fun p => p.accountId = r.accountId && p.platform = r.platform &&
    p.creatorRemoteId = r.creatorRemoteId)

section Lookups

variable [DecidableEq δ] (host : ProfileHost δ)

/-- The row of a lookup that its operation has already begun. -/
def repeatedLookup (r : LookupRequest δ) (digest : δ) (existing : CreatorProfileLookup δ) :
    ProfileTx δ (LookupTicket δ) := do
  let profile ← Tx.read (fun db : ProfileStore δ => db.profiles.get? existing.profileId)
  match profile with
  | none => Tx.throw (profileError "creator_profile_identity_mismatch")
  | some p => do
    Tx.require (p.accountId = r.accountId && p.platform = r.platform &&
        p.creatorRemoteId = r.creatorRemoteId &&
        existing.frontendGeneration = r.frontendGeneration &&
        existing.credentialSnapshotDigest = digest)
      (profileError "creator_profile_identity_mismatch")
    pure (ticket p existing)

/-- The next generation of the profile, which is created where the account has none. -/
def newLookup (newId : String) (r : LookupRequest δ) (digest : δ) (current : Time) :
    ProfileTx δ (LookupTicket δ) := do
  let found ← Tx.read (fun db => requestedProfile db r)
  let p := found.getD (newProfile newId r current)
  Tx.require (p.generation < maxRevision) (profileError "creator_profile_unavailable")
  let begun := begunProfile r digest current p
  flushProfile found begun
  insertLookup (pendingLookup r digest current begun)
  pure (ticket begun (pendingLookup r digest current begun))

/-- `begin_lookup`; `newId` is what `new_uuid` returns. -/
def beginLookup (newId : String) (r : LookupRequest δ) (current : Time) :
    ProfileTx δ (LookupTicket δ) := do
  identity r.platform r.creatorRemoteId
  uuid r.frontendGeneration
  operation r.operationId r.accountId current
  let a ← account r.accountId r.platform
  let digest := host.credentialDigest a.credentials
  Tx.require (r.expectedCredentialDigest.all (· = digest))
    (profileError "creator_profile_auth_changed")
  let existing ← Tx.read (fun db : ProfileStore δ => db.lookups.get? r.operationId)
  match existing with
  | some l => repeatedLookup r digest l
  | none => newLookup newId r digest current

/-- `_current`. -/
def current (k : LookupTicket δ) (now : Time) :
    ProfileTx δ (CreatorProfile δ × CreatorProfileLookup δ) := do
  operation k.operationId k.accountId now
  let a ← account k.accountId k.platform
  Tx.require (host.credentialDigest a.credentials = k.credentialSnapshotDigest)
    (profileError "creator_profile_auth_changed")
  let profile ← Tx.read (fun db : ProfileStore δ => db.profiles.get? k.profileId)
  let lookup ← Tx.read (fun db : ProfileStore δ => db.lookups.get? k.operationId)
  match profile, lookup with
  | some p, some l => do
    Tx.require (ticket p l = k) (profileError "creator_profile_identity_mismatch")
    Tx.require (p.generation = k.generation && p.latestOperationId = some k.operationId &&
        p.latestFrontendGeneration = some k.frontendGeneration &&
        p.credentialSnapshotDigest = some k.credentialSnapshotDigest)
      (profileError "creator_profile_superseded")
    pure (p, l)
  | _, _ => Tx.throw (profileError "creator_profile_identity_mismatch")

/-- `ProfileValue.validate`. -/
def validValue (v : ProfileValue) : Bool :=
  1 ≤ v.nickname.length && v.nickname.length ≤ 512 && v.nickname = strip v.nickname &&
    v.nickname.toList.all host.isPrintable &&
    v.canonicalHomepage = profileHomepage v.platform v.creatorRemoteId &&
    v.upstreamCommit.length = 40 &&
    v.upstreamCommit.toList.all (fun c => c.isDigit || ('a' ≤ c && c ≤ 'f'))

/-- `int.from_bytes(value, "big")`. -/
def bigEndian (value : Bytes) : Nat := value.foldl (fun n b => 256 * n + b.toNat) 0

/-- A PNG file of bounded size that declares at most eight million pixels. -/
def validAvatar (avatar : Bytes) : Bool :=
  let pixels := bigEndian ((avatar.drop 16).take 4) * bigEndian ((avatar.drop 20).take 4)
  33 ≤ avatar.length && avatar.length ≤ maxAvatarBytes &&
    avatar.take 8 = [0x89, 0x50, 0x4E, 0x47, 0x0D, 0x0A, 0x1A, 0x0A] &&
    (avatar.drop 12).take 4 = [0x49, 0x48, 0x44, 0x52] && 0 < pixels && pixels ≤ 8000000

def withAvatar (avatar : Option Bytes) (now : Time) (p : CreatorProfile δ) : CreatorProfile δ :=
  match avatar with
  | none => p
  | some png =>
    { p with
      avatarPng := some png, avatarRevision := p.avatarRevision + 1
      avatarObservedAt := some now, avatarProfileRevision := some p.revision }

def publishedProfile (k : LookupTicket δ) (v : ProfileValue) (avatar : Option Bytes) (now : Time)
    (p : CreatorProfile δ) : CreatorProfile δ :=
  withAvatar avatar now
    { p with
      nickname := some v.nickname, canonicalHomepage := some v.canonicalHomepage
      upstreamCommit := some v.upstreamCommit, observedAt := some now
      revision := p.revision + 1, lastSuccessOperationId := some k.operationId
      updatedAt := now }

def succeededLookup (revision : Nat) (now : Time) (l : CreatorProfileLookup δ) :
    CreatorProfileLookup δ :=
  { l with
    state := .succeeded, completedAt := some now, resultRevision := some revision
    errorCode := none }

/-- `publish`. -/
def publish (k : LookupTicket δ) (v : ProfileValue) (avatar : Option Bytes) (now : Time) :
    ProfileTx δ ProfileSnapshot := do
  identity v.platform v.creatorRemoteId
  Tx.require (validValue host v) (profileError "creator_profile_invalid")
  Tx.require (v.platform = k.platform && v.creatorRemoteId = k.creatorRemoteId)
    (profileError "creator_profile_identity_mismatch")
  Tx.require (avatar.all validAvatar) (profileError "creator_profile_invalid")
  let found ← current host k now
  Tx.require (found.2.state = .pending) (profileError "creator_profile_superseded")
  Tx.require (found.1.revision < maxRevision && found.1.avatarRevision < maxRevision)
    (profileError "creator_profile_unavailable")
  let published := publishedProfile k v avatar now found.1
  saveProfile published
  saveLookup (succeededLookup published.revision now found.2)
  match snapshot published with
  | some x => pure x
  | none => Tx.throw assertionError

def failedLookup (code : String) (now : Time) (l : CreatorProfileLookup δ) :
    CreatorProfileLookup δ :=
  { l with state := .failed, errorCode := some (closedCode code), completedAt := some now }

/-- `mark_failed`. -/
def markFailed (k : LookupTicket δ) (code : String) (now : Time) : ProfileTx δ Unit := do
  let found ← current host k now
  Tx.require (found.2.state = .pending) (profileError "creator_profile_superseded")
  saveLookup (failedLookup code now found.2)

/-- `read_lookup`. -/
def readLookup (operationId : String) : ProfileTx δ (Option (LookupSnapshot δ)) := do
  uuid operationId
  Tx.read (fun db : ProfileStore δ => do
    let l ← db.lookups.get? operationId
    let p ← db.profiles.get? l.profileId
    pure
      { ticket := ticket p l, state := l.state, errorCode := l.errorCode.map closedCode
        requestedAt := l.requestedAt, completedAt := l.completedAt
        resultRevision := l.resultRevision
        profile :=
          if l.state = .succeeded ∧ l.resultRevision ≠ some p.revision then none
          else snapshot p })

/-- The lookup that a receipt may be given for. -/
def isReceipt (x : LookupSnapshot δ) (result : ProfileSnapshot) (operationId accountId platform
    creatorRemoteId : String) (digest : δ) : Bool :=
  x.state = .succeeded && x.ticket.accountId = accountId && x.ticket.platform = platform &&
    x.ticket.creatorRemoteId = creatorRemoteId && x.ticket.credentialSnapshotDigest = digest &&
    result.lastSuccessOperationId = operationId

/-- `require_receipt`. -/
def requireReceipt (operationId accountId platform creatorRemoteId : String) (now : Time)
    (ttlSeconds : Int) : ProfileTx δ ProfileSnapshot := do
  let invalid := profileError "creator_profile_receipt_invalid"
  Tx.require (1 ≤ ttlSeconds && ttlSeconds ≤ 900) invalid
  uuid operationId
  let o ← Tx.read (fun db : ProfileStore δ => db.operations.get? operationId)
  Tx.require (o.any (isLookupOperation · accountId .succeeded)) invalid
  let a ← account accountId platform
  let found ← readLookup operationId
  match found with
  | none => Tx.throw invalid
  | some x =>
    match x.profile with
    | none => Tx.throw invalid
    | some result => do
      Tx.require (isReceipt x result operationId accountId platform creatorRemoteId
        (host.credentialDigest a.credentials)) invalid
      let profile ← Tx.read (fun db : ProfileStore δ => db.profiles.get? x.ticket.profileId)
      Tx.require (profile.any (fun p => p.latestOperationId = some operationId &&
        p.generation = x.ticket.generation)) invalid
      Tx.require (x.completedAt.any (fun t => t ≤ now &&
        now - t ≤ ttlSeconds.toNat * 1000000)) (profileError "creator_profile_receipt_expired")
      pure result

end Lookups

end CreatorProfileRepository

end MediaSync.Accounts
