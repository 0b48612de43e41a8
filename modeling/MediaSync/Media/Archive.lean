import MediaSync.Foundation.Files
import MediaSync.Foundation.Program

/-!
# The content-addressed archive

Verified bytes are published once under a name made of their digest. Every
operation is a program of file-system calls on one root; the blob lock is held
by a process and released when it dies. Directories are made on demand before
each use and nothing removes them, so they carry no state here; there are no
symbolic links, since no other program touches the root.
-/

namespace MediaSync.Media

open Program

inductive MediaErrorCode where
  | archiveBlobInvalid | archiveBlobMissing | archiveBlobBusy
  | filesystemUnsafe | filesystemWriteFailed
  deriving DecidableEq, Repr

/-- The exceptions in flight: `MediaDownloadError`, `PathSecurityError`,
`OSError`, and whatever the caller's `before_commit` raises. -/
inductive ArchiveError where
  | media (code : MediaErrorCode)
  | pathSecurity
  | os
  | raised (code : String)
  deriving DecidableEq, Repr

/-- `os.urandom(12).hex()`: named by who drew it and when, so that two draws
never agree. -/
structure Nonce where
  process : Nat
  draw : Nat
  deriving DecidableEq, Repr

/-- The names below the root: `sha256/ab/<sha256>.<ext>`, its temporaries and
its quarantined copies. -/
inductive ArchivePath where
  | blob (sha256 extension : String)
  | temporary (sha256 extension : String) (nonce : Nonce)
  | quarantined (sha256 extension : String) (nonce : Nonce)
  deriving DecidableEq, Repr

/-- The name that a path renders to, below the root. -/
def ArchivePath.parts (hex : Nonce → String) : ArchivePath → List String
  | blob sha256 extension =>
    ["sha256", (sha256.take 2).toString, sha256 ++ "." ++ extension]
  | temporary sha256 extension nonce =>
    ["sha256", (sha256.take 2).toString, "." ++ sha256 ++ "." ++ extension ++ "." ++ hex nonce ++ ".tmp"]
  | quarantined sha256 extension nonce =>
    [".quarantine", "sha256", (sha256.take 2).toString,
      sha256 ++ "." ++ extension ++ "." ++ hex nonce ++ ".corrupt"]

structure ArchivedBlob where
  path : ArchivePath
  sha256 : String
  sizeBytes : Nat
  deriving DecidableEq, Repr

structure Archive where
  files : Files ArchivePath
  locks : String → Option Nat
  draws : Nat

def Archive.empty : Archive := ⟨.empty, fun _ => none, 0⟩

inductive ArchiveCall where
  | lstat (p : ArchivePath)
  | create (p : ArchivePath)
  | openRead (p : ArchivePath)
  | links (inode : Nat)
  | read (inode : Nat)
  | write (inode : Nat) (chunk : Bytes)
  | chmod (p : ArchivePath) (writable : Bool)
  | link (source target : ArchivePath)
  | unlink (p : ArchivePath)
  | replace (source target : ArchivePath)
  | tryLock (sha256 : String)
  | unlock (sha256 : String)
  | urandom

abbrev ArchiveCall.Reply : ArchiveCall → Type
  | lstat _ => Option Stat
  | create _ => Option Nat
  | openRead _ => Option Nat
  | links _ => Nat
  | read _ => Bytes
  | write _ _ => Unit
  | chmod _ _ => Bool
  | link _ _ => Files.LinkReply
  | unlink _ => Bool
  | replace _ _ => Bool
  | tryLock _ => Bool
  | unlock _ => Unit
  | urandom => Nonce

/-- The effect of one call of process `p`. -/
def perform (p : Nat) : Performs ArchiveCall ArchiveCall.Reply Archive
  | .lstat path, s => (s.files.stat path, s)
  | .create path, s =>
    let r := s.files.create path
    (r.1, { s with files := r.2 })
  | .openRead path, s => (s.files.at? path, s)
  | .links inode, s => (s.files.links inode, s)
  | .read inode, s => (((s.files.inode? inode).map Inode.bytes).getD [], s)
  | .write inode chunk, s => ((), { s with files := s.files.append inode chunk })
  | .chmod path writable, s =>
    let r := s.files.chmod path writable
    (r.1, { s with files := r.2 })
  | .link source target, s =>
    let r := s.files.link source target
    (r.1, { s with files := r.2 })
  | .unlink path, s =>
    let r := s.files.unlink path
    (r.1, { s with files := r.2 })
  | .replace source target, s =>
    let r := s.files.rename source target
    (r.1, { s with files := r.2 })
  | .tryLock sha256, s =>
    match s.locks sha256 with
    | some _ => (false, s)
    | none => (true, { s with locks := fun d => if d = sha256 then some p else s.locks d })
  | .unlock sha256, s =>
    ((), { s with locks := fun d => if d = sha256 then none else s.locks d })
  | .urandom, s => (⟨p, s.draws⟩, { s with draws := s.draws + 1 })

/-- The kernel drops the locks of a dead process. -/
def Archive.release (p : Nat) (s : Archive) : Archive :=
  { s with locks := fun d => if s.locks d = some p then none else s.locks d }

def archiveMachine : Machine ArchiveCall ArchiveCall.Reply Archive where
  acts p c s r t := perform p c s = (r, t)
  dies := Archive.release

abbrev ArchiveProg (α : Type) := Prog ArchiveCall ArchiveCall.Reply ArchiveError α

def ArchiveCall.make (c : ArchiveCall) : ArchiveProg c.Reply := Prog.ask c

def assertRegularFile (path : ArchivePath) (singleLink : Bool) : ArchiveProg Stat := do
  let details ← ArchiveCall.make (.lstat path)
  match details with
  | none => Prog.throw .pathSecurity
  | some details =>
    if singleLink ∧ details.links ≠ 1 then Prog.throw .pathSecurity else pure details

/-- `path.exists()`. -/
def exists? (path : ArchivePath) : ArchiveProg Bool := do
  let details ← ArchiveCall.make (.lstat path)
  pure details.isSome

def confinedFile (path : ArchivePath) : ArchiveProg Unit := do
  let present ← exists? path
  if present then do
    let _ ← assertRegularFile path true
    pure ()
  else pure ()

/-- `create_regular_file`, returning the inode its handle writes to. -/
def createRegularFile (path : ArchivePath) : ArchiveProg Nat := do
  confinedFile path
  let created ← ArchiveCall.make (.create path)
  match created with
  | none => Prog.throw .pathSecurity
  | some inode => do
    let links ← ArchiveCall.make (.links inode)
    if links ≠ 1 then Prog.throw .pathSecurity else pure inode

def openRegularReadFile (path : ArchivePath) : ArchiveProg Nat := do
  let _ ← assertRegularFile path true
  let opened ← ArchiveCall.make (.openRead path)
  match opened with
  | none => Prog.throw .pathSecurity
  | some inode => do
    let links ← ArchiveCall.make (.links inode)
    if links ≠ 1 then Prog.throw .pathSecurity else pure inode

/-- `safe_unlink(..., missing_ok=True)`. -/
def safeUnlink (path : ArchivePath) : ArchiveProg Unit := do
  let present ← exists? path
  if present then do
    let _ ← assertRegularFile path true
    let removed ← ArchiveCall.make (.unlink path)
    Prog.require removed .pathSecurity
  else pure ()

/-- `except PathSecurityError ... except OSError ...`. -/
def asMediaErrors {α : Type} (m : ArchiveProg α) : ArchiveProg α :=
  m.catching (fun e => match e with
    | .pathSecurity => Prog.throw (.media .filesystemUnsafe)
    | .os => Prog.throw (.media .filesystemWriteFailed)
    | e => Prog.throw e)

/-! ## Publisher -/

section Publisher

variable (sha256Of : Bytes → String)

/-- `hash_file`, inside the root. -/
def hashFile (path : ArchivePath) : ArchiveProg (String × Nat) :=
  asMediaErrors (do
    let _ ← assertRegularFile path true
    let inode ← openRegularReadFile path
    let bytes ← ArchiveCall.make (.read inode)
    let current ← assertRegularFile path true
    if current.inode ≠ inode then Prog.throw .pathSecurity
    else pure (sha256Of bytes, bytes.length))

def makeReadOnly (path : ArchivePath) : ArchiveProg Unit := do
  let (before, after) ← asMediaErrors (do
    let before ← assertRegularFile path true
    let changed ← ArchiveCall.make (.chmod path false)
    Prog.require changed .os
    let after ← assertRegularFile path true
    pure (before, after))
  if before.inode ≠ after.inode then Prog.throw (.media .filesystemUnsafe)
  else if after.writable then Prog.throw (.media .filesystemWriteFailed)
  else pure ()

/-- The wait of `_validate_existing` for a second link to go. -/
def awaitSingleLink (path : ArchivePath) : Nat → Stat → ArchiveProg Stat
  | 0, details => if details.links ≠ 1 then Prog.throw .pathSecurity else pure details
  | n + 1, details =>
    if details.links = 1 then pure details
    else if details.links ≠ 2 then Prog.throw .pathSecurity
    else do
      let details ← assertRegularFile path false
      awaitSingleLink path n details

/-- The bytes of the path are the ones presented. -/
def requireBytes (path : ArchivePath) (sha256 : String) (sizeBytes : Int) : ArchiveProg Nat := do
  let (actualHash, actualSize) ← hashFile sha256Of path
  if actualHash ≠ sha256 ∨ (actualSize : Int) ≠ sizeBytes then
    Prog.throw (.media .archiveBlobInvalid)
  else pure actualSize

/-- `_validate_existing`. -/
def validateExistingLocked (path : ArchivePath) (sha256 : String) (sizeBytes : Int) :
    ArchiveProg ArchivedBlob := do
  let details ← asMediaErrors (do
    let details ← assertRegularFile path false
    awaitSingleLink path 100 details)
  if (details.size : Int) ≠ sizeBytes then Prog.throw (.media .archiveBlobInvalid)
  else do
    let actualSize ← requireBytes sha256Of path sha256 sizeBytes
    if details.writable then do
      makeReadOnly path
      let actualSize ← requireBytes sha256Of path sha256 sizeBytes
      pure ⟨path, sha256, actualSize⟩
    else pure ⟨path, sha256, actualSize⟩

/-- `_blob_lock.__enter__`; the deadline leaves time for so many more polls. -/
def blobLock (sha256 : String) : Nat → ArchiveProg Unit
  | 0 => do
    let locked ← ArchiveCall.make (.tryLock sha256)
    if locked then pure () else Prog.throw (.media .archiveBlobBusy)
  | polls + 1 => do
    let locked ← ArchiveCall.make (.tryLock sha256)
    if locked then pure () else blobLock sha256 polls

/-- `with self._blob_lock(sha256):`. -/
def withBlobLock {α : Type} (sha256 : String) (polls : Nat) (body : ArchiveProg α) :
    ArchiveProg α := do
  blobLock sha256 polls
  body.ensuring (ArchiveCall.make (.unlock sha256))

/-- The caller's `before_commit`; a publication calls it at most twice. -/
structure BeforeCommit where
  first : Except ArchiveError Unit
  second : Except ArchiveError Unit

def BeforeCommit.none : BeforeCommit := ⟨.ok (), .ok ()⟩

def publishExistingLocked (destination : ArchivePath) (sha256 : String) (sizeBytes : Int)
    (beforeCommit : BeforeCommit) : ArchiveProg (Option ArchivedBlob) := do
  let present ← exists? destination
  if present then do
    Prog.ofExcept beforeCommit.first
    let archived ← validateExistingLocked sha256Of destination sha256 sizeBytes
    Prog.ofExcept beforeCommit.second
    pure (some archived)
  else pure none

def discardTemporary (path : ArchivePath) : ArchiveProg Unit :=
  asMediaErrors (do
    let before ← assertRegularFile path true
    if before.writable = false then do
      let changed ← ArchiveCall.make (.chmod path true)
      Prog.require changed .os
      let after ← assertRegularFile path true
      Prog.require (before.inode = after.inode) .pathSecurity
      safeUnlink path
    else safeUnlink path)

def discardTemporaryBestEffort (path : ArchivePath) : ArchiveProg Unit :=
  (discardTemporary path).catching (fun e => match e with
    | .media _ => pure ()
    | e => Prog.throw e)

def cleanupTemporaryAfterFailure (temporary destination : ArchivePath) : ArchiveProg Unit :=
  asMediaErrors (do
    let details ← assertRegularFile temporary false
    if details.links = 1 then discardTemporary temporary
    else if details.links ≠ 2 then Prog.throw .pathSecurity
    else do
      let present ← exists? destination
      if present = false then Prog.throw .pathSecurity
      else do
        let target ← assertRegularFile destination false
        Prog.require (details.inode = target.inode) .pathSecurity
        let removed ← ArchiveCall.make (.unlink temporary)
        Prog.require removed .os)

/-- `os.link(temporary, destination)` where the name may be taken. -/
def linkBlob (temporary destination : ArchivePath) : ArchiveProg Bool := do
  let reply ← ArchiveCall.make (.link temporary destination)
  match reply with
  | .linked => pure true
  | .exists => pure false
  | .missing => Prog.throw .os

/-- The checks between the link and the removal of the temporary name. -/
def unlinkTemporary (temporary destination : ArchivePath) : ArchiveProg Unit := do
  let details ← ArchiveCall.make (.lstat temporary)
  let target ← ArchiveCall.make (.lstat destination)
  match details, target with
  | some details, some target =>
    if details.inode ≠ target.inode ∨ details.links ≠ 2 ∨ target.links ≠ 2 then
      Prog.throw (.media .filesystemUnsafe)
    else do
      let removed ← ArchiveCall.make (.unlink temporary)
      Prog.require removed .os
  | _, _ => Prog.throw .os

/-- What a publication presents and what it reads from the source. -/
structure Publication where
  sha256 : String
  sizeBytes : Int
  extension : String
  hashed : Except ArchiveError Bytes
  copied : List Bytes
  copyFailure : Option ArchiveError
  beforeCommit : BeforeCommit
  polls : Nat

def isHexDigit (c : Char) : Bool := "0123456789abcdef".toList.contains c

def validDigest (sha256 : String) : Bool :=
  sha256.length = 64 && sha256.toList.all isHexDigit

/-- `extension.isascii() and extension.isalnum()`. -/
def validExtension (extension : String) : Bool :=
  !extension.isEmpty && extension.toList.all Char.isAlphanum

/-- The copy of the source into the temporary file. -/
def copySource (inode : Nat) (publication : Publication) : ArchiveProg Unit := do
  Prog.forEach (fun chunk => ArchiveCall.make (.write inode chunk)) publication.copied
  match publication.copyFailure with
  | some e => Prog.throw e
  | none => pure ()

/-- The commit, under the lock. -/
def commitTemporary (publication : Publication) (temporary destination : ArchivePath) :
    ArchiveProg ArchivedBlob := do
  let existing ← publishExistingLocked sha256Of destination publication.sha256
    publication.sizeBytes publication.beforeCommit
  match existing with
  | some archived => do
    discardTemporaryBestEffort temporary
    pure archived
  | none => do
    Prog.ofExcept publication.beforeCommit.first
    let committed ← linkBlob temporary destination
    if committed then do
      unlinkTemporary temporary destination
      validateExistingLocked sha256Of destination publication.sha256 publication.sizeBytes
    else do
      let archived ←
        validateExistingLocked sha256Of destination publication.sha256 publication.sizeBytes
      Prog.ofExcept publication.beforeCommit.second
      discardTemporaryBestEffort temporary
      pure archived

/-- `if temporary.exists(): self._cleanup_temporary_after_failure(...)`. -/
def cleanupIfPresent (temporary destination : ArchivePath) : ArchiveProg Unit := do
  let present ← exists? temporary
  if present then cleanupTemporaryAfterFailure temporary destination else pure ()

/-- The temporary file from its first byte to the commit. -/
def publishTemporary (publication : Publication) (inode : Nat)
    (temporary destination : ArchivePath) : ArchiveProg ArchivedBlob :=
  (do
    copySource inode publication
    let _ ← requireBytes sha256Of temporary publication.sha256 publication.sizeBytes
    makeReadOnly temporary
    withBlobLock publication.sha256 publication.polls
      (commitTemporary sha256Of publication temporary destination)).catching
  (fun e => do
    cleanupIfPresent temporary destination
    Prog.throw e)

def publish (publication : Publication) : ArchiveProg ArchivedBlob :=
  if validDigest publication.sha256 = false ∨ validExtension publication.extension = false ∨
      publication.sizeBytes < 0 then Prog.throw (.media .archiveBlobInvalid)
  else do
    let source ← asMediaErrors (Prog.ofExcept publication.hashed)
    if sha256Of source ≠ publication.sha256 ∨ (source.length : Int) ≠ publication.sizeBytes then
      Prog.throw (.media .archiveBlobInvalid)
    else asMediaErrors (do
      let destination := ArchivePath.blob publication.sha256 publication.extension
      confinedFile destination
      let existing ← withBlobLock publication.sha256 publication.polls
        (publishExistingLocked sha256Of destination publication.sha256 publication.sizeBytes
          publication.beforeCommit)
      match existing with
      | some archived => pure archived
      | none => do
        let nonce ← ArchiveCall.make .urandom
        let temporary := ArchivePath.temporary publication.sha256 publication.extension nonce
        let inode ← createRegularFile temporary
        publishTemporary sha256Of publication inode temporary destination)

/-- A call on a blob that is already recorded. -/
structure Presented where
  path : ArchivePath
  sha256 : String
  sizeBytes : Int
  polls : Nat

/-- `_canonical_blob_path`, returning the extension. -/
def canonicalBlobPath (presented : Presented) : Except ArchiveError String :=
  if validDigest presented.sha256 = false ∨ presented.sizeBytes < 0 then
    .error (.media .archiveBlobInvalid)
  else match presented.path with
    | .blob sha256 extension =>
      if sha256 = presented.sha256 ∧ validExtension extension = true then .ok extension
      else .error (.media .archiveBlobInvalid)
    | _ => .error (.media .archiveBlobInvalid)

/-- The body of `validate_existing` under the lock. -/
def revalidateLocked (presented : Presented) : ArchiveProg ArchivedBlob := do
  let present ← exists? presented.path
  if present then
    validateExistingLocked sha256Of presented.path presented.sha256 presented.sizeBytes
  else Prog.throw (.media .archiveBlobMissing)

def validateExisting (presented : Presented) : ArchiveProg ArchivedBlob := do
  let _ ← Prog.ofExcept (canonicalBlobPath presented)
  Prog.catching
    (withBlobLock presented.sha256 presented.polls (revalidateLocked sha256Of presented))
    (fun e =>
      if e = .media .filesystemUnsafe then do
        let present ← exists? presented.path
        Prog.throw (if present then e else .media .archiveBlobMissing)
      else Prog.throw e)

/-- The move over the placeholder. -/
def replacePlaceholder (source destination : ArchivePath) (sourceDetails placeholder : Stat) :
    ArchiveProg ArchivePath := do
  let currentSource ← assertRegularFile source true
  let currentPlaceholder ← assertRegularFile destination true
  Prog.require (sourceDetails.inode = currentSource.inode ∧
    placeholder.inode = currentPlaceholder.inode) .pathSecurity
  let replaced ← ArchiveCall.make (.replace source destination)
  Prog.require replaced .os
  let moved ← assertRegularFile destination true
  Prog.require (moved.inode = sourceDetails.inode) .pathSecurity
  let present ← exists? source
  Prog.require (!present) .pathSecurity
  pure destination

/-- The placeholder goes when the move did not happen. -/
def discardPlaceholder (destination : ArchivePath) (placeholder : Stat) : ArchiveProg Unit := do
  let present ← exists? destination
  if present then
    Prog.catching
      (do
        let current ← assertRegularFile destination true
        if current.inode = placeholder.inode then safeUnlink destination else pure ())
      (fun e => match e with
        | .pathSecurity => pure ()
        | .os => pure ()
        | e => Prog.throw e)
  else pure ()

def quarantineLocked (source : ArchivePath) (sha256 extension : String) :
    ArchiveProg ArchivePath := do
  let sourceDetails ← assertRegularFile source true
  let nonce ← ArchiveCall.make .urandom
  let destination := ArchivePath.quarantined sha256 extension nonce
  confinedFile destination
  let _ ← createRegularFile destination
  let placeholder ← assertRegularFile destination true
  Prog.catching (replacePlaceholder source destination sourceDetails placeholder)
    (fun e => do
      discardPlaceholder destination placeholder
      Prog.throw e)

/-- Whether the bytes at a path are the presented ones; other refusals are raised. -/
def isValidLocked (presented : Presented) : ArchiveProg Bool :=
  Prog.catching
    (do
      let _ ← validateExistingLocked sha256Of presented.path presented.sha256 presented.sizeBytes
      pure true)
    (fun e => if e = .media .archiveBlobInvalid then pure false else Prog.throw e)

/-- The body of `quarantine_invalid` under the lock. -/
def quarantineInvalidLocked (presented : Presented) (extension : String) :
    ArchiveProg (Option ArchivePath) := do
  let present ← exists? presented.path
  if present then do
    let valid ← isValidLocked sha256Of presented
    if valid then pure none
    else do
      let destination ← quarantineLocked presented.path presented.sha256 extension
      pure (some destination)
  else Prog.throw (.media .archiveBlobMissing)

def quarantineInvalid (presented : Presented) : ArchiveProg (Option ArchivePath) := do
  let extension ← Prog.ofExcept (canonicalBlobPath presented)
  asMediaErrors (withBlobLock presented.sha256 presented.polls
    (quarantineInvalidLocked sha256Of presented extension))

/-- The three operations. -/
inductive Operation where
  | publish (publication : Publication)
  | validate (presented : Presented)
  | quarantine (presented : Presented)

inductive Outcome where
  | archived (blob : ArchivedBlob)
  | quarantined (path : Option ArchivePath)
  deriving DecidableEq, Repr

def Operation.program : Operation → ArchiveProg Outcome
  | .publish publication => do
    let blob ← MediaSync.Media.publish sha256Of publication
    pure (.archived blob)
  | .validate presented => do
    let blob ← validateExisting sha256Of presented
    pure (.archived blob)
  | .quarantine presented => do
    let path ← quarantineInvalid sha256Of presented
    pure (.quarantined path)

end Publisher

end MediaSync.Media
