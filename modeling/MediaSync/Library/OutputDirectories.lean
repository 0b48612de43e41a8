import MediaSync.Foundation.Posix
import MediaSync.Scheduler.Records

/-!
# Output directories

One row holds the policy that gives every platform the root of its library, and
an author is bound to the root of its platform before anything is written for
it. The policy is read from its text each time, with every check that the text
had to pass when it was stored.
-/

namespace MediaSync.Library

open Python Transaction Posix Scheduler

structure Author where
  id : String
  platform : Platform
  deriving DecidableEq

structure Content where
  id : String
  authorId : String
  deriving DecidableEq

structure ExportRecord where
  id : String
  contentId : String
  exporter : String
  deriving DecidableEq

/-- A job with the two entries of its payload that are read here. -/
structure LibraryJob where
  id : String
  jobType : String
  authorId : Option String
  publicationScope : Option String
  deriving DecidableEq

structure AuthorOutputBinding where
  authorId : String
  platform : Platform
  canonicalRoot : String
  policyRevision : Nat
  deriving DecidableEq

/-- The only row of its table, with a column for the root of each platform. -/
structure LibraryOutputPolicy where
  revision : Nat
  sharedRoot : String
  layout : String
  root : Platform → Option String

structure LibraryStore where
  policy : Option LibraryOutputPolicy
  bindings : Table AuthorOutputBinding.authorId
  authors : Table Author.id
  contents : Table Content.id
  exportRecords : Table ExportRecord.id
  jobs : Table LibraryJob.id

structure OutputDirectoryError where
  code : String
  platforms : List Platform
  deriving DecidableEq

abbrev LibraryTx := Tx LibraryStore OutputDirectoryError

/-- An error without a platform. -/
def outputError (code : String) : OutputDirectoryError := ⟨code, []⟩

def invalidError : OutputDirectoryError := outputError "output_directory_invalid"
def unsafeError : OutputDirectoryError := outputError "output_directory_unsafe"
def conflictError : OutputDirectoryError := outputError "output_directory_conflict"
def unavailableError : OutputDirectoryError := outputError "output_directory_unavailable"
def authorNotFoundError : OutputDirectoryError := outputError "output_directory_author_not_found"

/-- What `lstat` finds under the names of a path. -/
inductive DirEntry where
  | absent | directory | other | unreadable
  deriving DecidableEq, Repr

abbrev Disk := List (List Char) → DirEntry

/-- The settings as absolute paths, and what the repository takes from the system. -/
structure OutputHost where
  stateDir : Path
  archiveDir : Path
  jobDir : Path
  exportDir : String
  secretFileDir : Option Path
  mediacrawlerRuntimeDir : Option Path
  mediacrawlerLockPath : Path
  database : Option Path
  package : Path
  resolve : Path → Path
  coordinationScope : Path → String

/-- The directories of the system that hold no library. -/
def systemDirectories : List Path :=
  ["/bin", "/sbin", "/etc", "/usr", "/lib", "/lib64", "/boot", "/proc", "/sys", "/dev",
    "/run"].map Path.of

/-- `_SOURCE_DIRECTORIES`. -/
def sourceDirectories : List Path :=
  ["src", "tests", "docs", "web", "scripts", "docker", ".git", ".upstream", ".venv"].map Path.of

namespace OutputHost

def repository (host : OutputHost) : Path := host.mediacrawlerLockPath.parent

/-- `_protected_paths`, as spelled and as resolved. -/
def protectedPaths (host : OutputHost) : List Path :=
  let paths :=
    [host.stateDir, host.archiveDir, host.jobDir,
      host.secretFileDir.getD (host.stateDir.join (Path.of "secrets")),
      host.stateDir.join (Path.of "credentials"),
      host.mediacrawlerRuntimeDir.getD (host.stateDir.join (Path.of "mediacrawler")),
      host.mediacrawlerLockPath] ++ systemDirectories ++ host.database.toList ++
      sourceDirectories.map host.repository.join ++ [host.package]
  paths ++ paths.map host.resolve

/-- The path is, holds or lies in a place that is not for libraries. -/
def isPrivate (host : OutputHost) (path : Path) : Bool :=
  path.contains host.repository || host.protectedPaths.any path.overlaps

end OutputHost

/-- The characters that `re.split` cuts a native path at. -/
def isSeparator (c : Char) : Bool := c = '\\' || c = '/'

/-- The text that `_native_root` accepts. -/
def isNativeRoot (value : String) : Bool :=
  let text := value.toList
  !text.isEmpty && value = strip value && Path.utf8Length text ≤ 4096 && !text.any isControl &&
    !(splitBy isSeparator text).any (fun part => part = ['.'] || part = ['.', '.']) &&
    text.head? = some '/' && (Path.ofText text).names ≠ [] && !text.any (· = '\\') &&
    (text.drop 1).head? ≠ some '/'

/-- `_native_root`. -/
def nativeRoot (value : String) : Except OutputDirectoryError Path :=
  if isNativeRoot value then .ok (Path.of value) else .error invalidError

def entryError : DirEntry → Option OutputDirectoryError
  | .absent | .directory => none
  | .other => some unsafeError
  | .unreadable => some unavailableError

/-- The first of the directories down to the path that is not one. -/
def ancestorError (disk : Disk) (path : Path) : Option OutputDirectoryError :=
  path.names.inits.findSome? (fun names => entryError (disk names))

/-- `_safe_root`. -/
def safeRoot (host : OutputHost) (disk : Disk) (value : String) :
    Except OutputDirectoryError Path := do
  let path ← nativeRoot value
  if host.isPrivate path then .error unsafeError
  else match ancestorError disk path with
    | some e => .error e
    | none => .ok path

/-- `_PLATFORMS`. -/
def platforms : List Platform := [.bili, .dy, .ks, .tieba, .wb, .xhs, .zhihu]

/-- A value for every platform, computed in their order. -/
def forPlatforms {ε α : Type} (f : Platform → Except ε α) : Except ε (Platform → α) := do
  let bili ← f .bili
  let dy ← f .dy
  let ks ← f .ks
  let tieba ← f .tieba
  let wb ← f .wb
  let xhs ← f .xhs
  let zhihu ← f .zhihu
  pure fun
    | .bili => bili
    | .dy => dy
    | .ks => ks
    | .tieba => tieba
    | .wb => wb
    | .xhs => xhs
    | .zhihu => zhihu

def maxRevision : Nat := 9007199254740991

/-- `_LAYOUTS`. -/
def layouts : List String := ["legacy_flat", "platform_subdirectories"]

/-- `_Policy`. -/
structure Policy where
  revision : Nat
  initialized : Bool
  sharedRoot : Path
  layout : String
  overrides : Platform → Option Path

/-- `roots`. -/
def Policy.root (p : Policy) (platform : Platform) : Path :=
  (p.overrides platform).getD
    (if p.layout = "platform_subdirectories" then p.sharedRoot.join (Path.of platform.value)
      else p.sharedRoot)

/-- The platforms in pairs, each pair once. -/
def platformPairs : List (Platform × Platform) :=
  platforms.tails.flatMap fun
    | [] => []
    | platform :: rest => rest.map (fun other => (platform, other))

/-- The first two platforms whose roots overlap without being one flat root. -/
def overlap (effective : Platform → Path) (layout : String) : Option (Platform × Platform) :=
  platformPairs.find? (fun x =>
    !(effective x.1 = effective x.2 && layout = "legacy_flat") &&
      (effective x.1).overlaps (effective x.2))

def overrideOf (overrides : List (String × Option String)) (platform : Platform) :
    Option String :=
  ((overrides.find? (fun x => x.1 = platform.value)).map Prod.snd).join

def safeOverride (host : OutputHost) (disk : Disk) : Option String →
    Except OutputDirectoryError (Option Path)
  | none => .ok none
  | some value => (safeRoot host disk value).map some

/-- The checks on the shape of a policy. -/
def isPolicyShape (revision : Nat) (overrides : List (String × Option String)) (layout : String) :
    Bool :=
  revision ≤ maxRevision && layout ∈ layouts &&
    overrides.all (fun x => x.1 ∈ platforms.map Platform.value)

/-- `_policy`. -/
def policy (host : OutputHost) (disk : Disk) (revision : Nat) (initialized : Bool)
    (sharedRoot : String) (overrides : List (String × Option String)) (layout : String) :
    Except OutputDirectoryError Policy := do
  if isPolicyShape revision overrides layout then
    let root ← safeRoot host disk sharedRoot
    let normalized ← forPlatforms (fun x => safeOverride host disk (overrideOf overrides x))
    let p : Policy := ⟨revision, initialized, root, layout, normalized⟩
    let effective ← forPlatforms (fun x => safeRoot host disk (p.root x).str)
    match overlap effective layout with
    | some x => .error ⟨"output_directory_overlap", [x.1, x.2]⟩
    | none => .ok p
  else .error invalidError

def authorPlatform (db : LibraryStore) (authorId : String) : Option Platform :=
  (db.authors.get? authorId).map Author.platform

def isExportJob (j : LibraryJob) : Bool := j.jobType = "export.emby"

/-- A platform with a binding, an export record or an export job. -/
def isProtected (db : LibraryStore) (platform : Platform) : Bool :=
  db.bindings.rows.any (fun b => b.platform = platform) ||
    db.exportRecords.rows.any (fun r => r.exporter = "emby" &&
      ((db.contents.get? r.contentId).bind (fun c => authorPlatform db c.authorId)) =
        some platform) ||
    db.jobs.rows.any (fun j => isExportJob j &&
      (j.authorId.bind (authorPlatform db)) = some platform)

/-- `_protected_platforms`. -/
def protectedPlatforms (db : LibraryStore) : List Platform := platforms.filter (isProtected db)

/-- The platforms with an export job under another scope. -/
def mismatchedPlatforms (db : LibraryStore) (expected : String) : List Platform :=
  platforms.filter (fun platform => db.jobs.rows.any (fun j => isExportJob j &&
    (j.authorId.bind (authorPlatform db)) = some platform &&
    j.publicationScope.any (· ≠ expected)))

/-- `_check_legacy_scopes`. -/
def checkLegacyScopes (host : OutputHost) (db : LibraryStore) (p : Policy) :
    Except OutputDirectoryError Unit :=
  let mismatched := mismatchedPlatforms db (host.coordinationScope p.sharedRoot)
  if mismatched.isEmpty then .ok ()
  else .error ⟨"output_directory_migration_required", mismatched⟩

/-- The scopes are compared where the first policy is flat. -/
def checkFlatScopes (host : OutputHost) (db : LibraryStore) (p : Policy) :
    Except OutputDirectoryError Unit :=
  if p.layout = "legacy_flat" then checkLegacyScopes host db p else .ok ()

/-- `_check_change`. -/
def checkChange (current proposed : Policy) (protectedOnes : List Platform) :
    Except OutputDirectoryError Unit :=
  let changed := protectedOnes.filter (fun x => current.root x ≠ proposed.root x)
  if changed.isEmpty then .ok ()
  else .error ⟨"output_directory_migration_required", changed⟩

namespace OutputDirectoryService

section

variable (host : OutputHost) (disk : Disk)

/-- The policy of a store that has none yet. -/
def initialPolicy (db : LibraryStore) : Except OutputDirectoryError Policy := do
  let layout :=
    if (protectedPlatforms db).isEmpty then "platform_subdirectories" else "legacy_flat"
  let candidate ← policy host disk 0 false host.exportDir [] layout
  checkFlatScopes host db candidate
  pure candidate

def rowOverrides (row : LibraryOutputPolicy) : List (String × Option String) :=
  platforms.map (fun x => (x.value, row.root x))

def rowPolicy (row : LibraryOutputPolicy) : Except OutputDirectoryError Policy :=
  policy host disk row.revision true row.sharedRoot (rowOverrides row) row.layout

/-- The policy of the row, or the one that would be stored first. -/
def policyOf (db : LibraryStore) : Except OutputDirectoryError Policy :=
  match db.policy with
  | none => initialPolicy host disk db
  | some row => rowPolicy host disk row

/-- `_read`. -/
def readPolicy : LibraryTx Policy := do
  let db ← Tx.read (fun db : LibraryStore => db)
  Tx.ofExcept (policyOf host disk db)

/-- The row that `_locked` inserts, without any override. -/
def initialRow (p : Policy) : LibraryOutputPolicy :=
  ⟨0, p.sharedRoot.str, p.layout, fun _ => none⟩

/-- `_locked`. -/
def locked : LibraryTx Policy := do
  let p ← readPolicy host disk
  if p.initialized then pure p
  else do
    Tx.modify (fun db => { db with policy := some (db.policy.getD (initialRow p)) })
    readPolicy host disk

/-- `_payload`. -/
structure Payload where
  policy : Policy
  effectiveRoots : Platform → Path
  protectedPlatforms : List Platform

def payload (p : Policy) (protectedOnes : List Platform) : Payload := ⟨p, p.root, protectedOnes⟩

def getPolicy : LibraryTx Payload := do
  let p ← readPolicy host disk
  let protectedOnes ← Tx.read protectedPlatforms
  pure (payload p protectedOnes)

def preview (sharedRoot : String) (overrides : List (String × Option String)) (layout : String) :
    LibraryTx Payload := do
  let current ← readPolicy host disk
  let proposed ← Tx.ofExcept
    (policy host disk current.revision current.initialized sharedRoot overrides layout)
  let protectedOnes ← Tx.read protectedPlatforms
  Tx.ofExcept (checkChange current proposed protectedOnes)
  pure (payload proposed protectedOnes)

def policyRow (p : Policy) : LibraryOutputPolicy :=
  ⟨p.revision, p.sharedRoot.str, p.layout, fun x => (p.overrides x).map Path.str⟩

/-- The conditional update of the only row. -/
def replaceRow (expected : Nat) (row : LibraryOutputPolicy) : LibraryTx Bool :=
  Tx.modifyGet (fun db => match db.policy with
    | some old => if old.revision = expected then (true, { db with policy := some row })
      else (false, db)
    | none => (false, db))

def update (expectedRevision : Int) (sharedRoot : String)
    (overrides : List (String × Option String)) (layout : String) : LibraryTx Payload := do
  Tx.require (0 ≤ expectedRevision && expectedRevision < maxRevision) invalidError
  let expected := expectedRevision.toNat
  Tx.commit do
    let current ← locked host disk
    Tx.require (current.revision = expected) conflictError
    let proposed ← Tx.ofExcept (policy host disk (expected + 1) true sharedRoot overrides layout)
    let protectedOnes ← Tx.read protectedPlatforms
    Tx.ofExcept (checkChange current proposed protectedOnes)
    let changed ← replaceRow expected (policyRow proposed)
    Tx.require changed conflictError
    pure (payload proposed protectedOnes)

/-- `_author`. -/
def author (authorId : String) : LibraryTx Author := do
  Tx.require (isCanonicalUuid authorId) authorNotFoundError
  let found ← Tx.read (fun db : LibraryStore => db.authors.get? authorId)
  match found with
  | none => Tx.throw authorNotFoundError
  | some a => pure a

/-- A binding that is of this policy and of its author. -/
def isBinding (p : Policy) (a : Author) (b : AuthorOutputBinding) : Bool :=
  p.initialized && b.platform = a.platform && b.policyRevision ≤ p.revision &&
    b.canonicalRoot = (p.root a.platform).str

/-- `_author_root`. -/
def authorRoot (p : Policy) (a : Author) : LibraryTx Path := do
  let binding ← Tx.read (fun db : LibraryStore => db.bindings.get? a.id)
  match binding with
  | some b => do
    Tx.require (isBinding p a b) unavailableError
    Tx.ofExcept (safeRoot host disk b.canonicalRoot)
  | none => Tx.ofExcept (safeRoot host disk (p.root a.platform).str)

def resolveAuthorRoot (authorId : String) : LibraryTx Path := do
  let p ← readPolicy host disk
  let a ← author authorId
  authorRoot host disk p a

def insertBinding (b : AuthorOutputBinding) : LibraryTx Unit := fun db =>
  match db.bindings.insert? b with
  | some bindings => (.ok (), { db with bindings := bindings })
  | none => (.error unavailableError, db)

/-- The binding of an author that has none. -/
def bindOnce (a : Author) (root : Path) (revision : Nat) : LibraryTx Unit := do
  let binding ← Tx.read (fun db : LibraryStore => db.bindings.get? a.id)
  if binding.isNone then insertBinding ⟨a.id, a.platform, root.str, revision⟩ else pure ()

def bindAuthorRoot (authorId : String) : LibraryTx Path :=
  Tx.commit do
    let p ← locked host disk
    let a ← author authorId
    let root ← authorRoot host disk p a
    bindOnce a root p.revision
    pure root

end

end OutputDirectoryService

end MediaSync.Library
