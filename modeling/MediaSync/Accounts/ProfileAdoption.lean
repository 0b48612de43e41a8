import MediaSync.Accounts.AdoptionCalls
import Mathlib.Data.List.Sort

/-!
# Adopting the profile of the WebUI

The profile that was saved in the upstream console is copied to a staging
directory, probed there, exchanged for the profile of the account under its
lock, and published. The exchange is two renamings, taken back if the account
is not published.

Directories are copied and removed level by level; a path that is longer than
the system takes ends the descent with the error that the call on it raises.
-/

namespace MediaSync.Accounts.ProfileAdoption

open Python Transaction Program

abbrev Adoption := Prog AdoptionCall AdoptionCall.Reply Raised

/-- One call on a file; its error is raised. -/
def file (c : FileCall) : Adoption c.Reply := do
  let r ← Prog.ask (AdoptionCall.file c)
  match r with
  | .ok a => pure a
  | .error e => Prog.throw (.os e)

/-- `except OSError: raise MediaCrawlerProfileAdoptionError(code) from None`. -/
def onOsError {α : Type} (code : AdoptionCode) (m : Adoption α) : Adoption α :=
  m.catching (fun
    | .os _ => Prog.throw (.adoption code)
    | e => Prog.throw e)

/-- `contextlib.suppress(OSError)`. -/
def suppress (m : Adoption Unit) : Adoption Unit :=
  m.catching (fun
    | .os _ => pure ()
    | e => Prog.throw e)

/-- `except FileNotFoundError`. -/
def orMissing {α : Type} (m : Adoption α) (missing : α) : Adoption α :=
  m.catching (fun
    | .os .fileNotFound => pure missing
    | e => Prog.throw e)

/-- `os.lstat` of a path that may be missing. -/
def lstatIfThere (path : TreePath) : Adoption (Option FileStat) :=
  orMissing (do
    let info ← file (.lstat path)
    pure (some info)) none

/-- The stat of a path and whether it is its own resolution. -/
def inspect (path : TreePath) : Adoption (FileStat × Bool) := do
  let info ← file (.lstat path)
  let resolved ← file (.resolve path)
  pure (info, resolved)

def requireRealDirectory (path : TreePath) (missingCode invalidCode : AdoptionCode) :
    Adoption FileStat := do
  let r ← (inspect path).catching (fun
    | .os .fileNotFound => Prog.throw (.adoption missingCode)
    | .os _ => Prog.throw (.adoption invalidCode)
    | e => Prog.throw e)
  Prog.require (r.1.kind = .dir && r.2) (.adoption invalidCode)
  pure r.1

def ensureRealDirectory (path : TreePath) : Adoption Unit := do
  (file (.mkdir path)).catching (fun
    | .os .fileExists => pure ()
    | .os _ => Prog.throw (.adoption .filesystemFailed)
    | e => Prog.throw e)
  let _ ← requireRealDirectory path .filesystemFailed .filesystemFailed
  suppress (file (.chmod path))

/-- `_same_file_identity`, on one device. -/
def sameFileIdentity (first second : FileStat) : Bool :=
  first.kind = .file && second.kind = .file &&
    (first.inode = 0 || first.inode = second.inode) && first.size = second.size

structure CopyStats where
  files : Nat
  bytes : Nat
  deriving DecidableEq

def CopyStats.added (a b : CopyStats) : CopyStats := ⟨a.files + b.files, a.bytes + b.bytes⟩

def copyChunkBytes : Nat := 1024 * 1024

/-- The inner loop: every write takes at least one byte of the view. -/
def writeView (destination : TreePath) : Nat → MediaSync.Bytes → Nat → Adoption Nat
  | 0, _, copied => pure copied
  | n + 1, view, copied =>
    if view = [] then pure copied
    else do
      let written ← file (.write destination view)
      Prog.require (0 < written) (.os .other)
      writeView destination n (view.drop written) (copied + written)

/-- The outer loop: a file of `n` bytes is read to its end in at most `n + 1` reads. -/
def copyBlocks (source destination : TreePath) : Nat → Nat → Adoption Nat
  | 0, copied => pure copied
  | n + 1, copied => do
    let block ← file (.read source copied)
    if block.take copyChunkBytes = [] then pure copied
    else do
      let copied ← writeView destination (block.take copyChunkBytes).length
        (block.take copyChunkBytes) copied
      copyBlocks source destination n copied

/-- The source is opened and still the file that was listed, and the destination is new. -/
def openCopy (source destination : TreePath) (expected : FileStat) : Adoption Unit := do
  let opened ← file (.fstat source)
  Prog.require (opened.kind ≠ .link && sameFileIdentity expected opened) (.os .other)
  file (.openNew destination)

def copyOpened (source destination : TreePath) (expected : FileStat) : Adoption Nat := do
  let copied ← copyBlocks source destination (expected.size + 1) 0
  let finalDescriptor ← file (.fstat source)
  let finalPath ← file (.lstat source)
  Prog.require (copied = expected.size && finalDescriptor.kind ≠ .link && finalPath.kind ≠ .link &&
    sameFileIdentity expected finalDescriptor && sameFileIdentity expected finalPath) (.os .other)
  pure copied

def copyRegularFile (source destination : TreePath) (expected : FileStat) : Adoption Nat := do
  file (.openRead source)
  (openCopy source destination expected).catching (fun e => do
    file (.close source)
    Prog.throw e)
  (copyOpened source destination expected).ensuring (do
    file (.close destination)
    file (.close source))

/-- The loop over the entries of a directory. -/
def forEntries (copyEntry : String → Adoption CopyStats) : List String → CopyStats →
    Adoption CopyStats
  | [], result => pure result
  | name :: rest, result => do
    let copied ← copyEntry name
    forEntries copyEntry rest (result.added copied)

/-- The directory is looked at again before its copy is made. -/
def makeCopy (source destination : TreePath) : Adoption Unit := do
  let current ← file (.lstat source)
  Prog.require (current.kind = .dir) (.os .other)
  file (.mkdir destination)

/-- One turn of the loop of `copy_directory`. -/
def copyEntry (copyDirectory : TreePath → TreePath → Adoption CopyStats)
    (source destination : TreePath) (name : String) : Adoption CopyStats := do
  let info ← onOsError .sourceInvalid (file (.lstat (source ++ [name])))
  match info.kind with
  | .link => pure ⟨0, 0⟩
  | .dir => do
    onOsError .sourceInvalid (makeCopy (source ++ [name]) (destination ++ [name]))
    copyDirectory (source ++ [name]) (destination ++ [name])
  | .special => pure ⟨0, 0⟩
  | .file => do
    let copied ← onOsError .copyFailed
      (copyRegularFile (source ++ [name]) (destination ++ [name]) info)
    pure ⟨1, copied⟩

def copyDirectory : Nat → TreePath → TreePath → Adoption CopyStats
  | 0, _, _ => Prog.throw (.adoption .sourceInvalid)
  | depth + 1, source, destination => do
    let names ← onOsError .sourceInvalid (file (.scandir source))
    forEntries (copyEntry (copyDirectory depth) source destination)
      (names.insertionSort (· ≤ ·)) ⟨0, 0⟩

def copyProfileTree (depth : Nat) (source destination : TreePath) : Adoption CopyStats := do
  let _ ← requireRealDirectory source .sourceMissing .sourceInvalid
  onOsError .copyFailed (file (.mkdir destination))
  let stats ← copyDirectory depth source destination
  Prog.require (stats.files ≠ 0) (.adoption .sourceEmpty)
  pure stats

def pathExists (path : TreePath) : Adoption Bool :=
  orMissing (do
    let _ ← file (.lstat path)
    pure true) false

/-- `except PermissionError`: the mode is changed and the call made again. -/
def insisting (path : TreePath) (c : FileCall) : Adoption Unit :=
  (do let _ ← file c).catching (fun
    | .os .permission => do
      suppress (file (.chmod path))
      let _ ← file c
    | e => Prog.throw e)

def unlinkNoFollow (path : TreePath) : Adoption Unit := insisting path (.unlink path)

/-- The loop over the entries: one that is gone is passed over. -/
def removeEntry (removeTree : TreePath → Adoption Unit) (path : TreePath) (name : String) :
    Adoption Unit := do
  let info ← lstatIfThere (path ++ [name])
  match info with
  | none => pure ()
  | some info =>
    if info.kind = .dir then removeTree (path ++ [name]) else unlinkNoFollow (path ++ [name])

/-- A directory that was listed, and then itself. -/
def removeListed (removeTree : TreePath → Adoption Unit) (path : TreePath) :
    Option (List String) → Adoption Unit
  | none => pure ()
  | some names => do
    Prog.forEach (removeEntry removeTree path) names
    insisting path (.rmdir path)

/-- `_remove_tree_no_follow`. -/
def removeTree : Nat → TreePath → Adoption Unit
  | 0, _ => Prog.throw (.os .other)
  | depth + 1, path => do
    let info ← lstatIfThere path
    match info with
    | none => pure ()
    | some info =>
      if info.kind ≠ .dir then unlinkNoFollow path
      else do
        let listed ← orMissing (do
          let names ← file (.scandir path)
          pure (some names)) none
        removeListed (removeTree depth) path listed

structure ProfileReplacement where
  candidate : TreePath
  target : TreePath
  backup : TreePath
  hadTarget : Bool
  installed : Bool

namespace ProfileReplacement

/-- A profile that is there goes to the backup. -/
def setAside (r : ProfileReplacement) : Adoption Bool := do
  let there ← pathExists r.target
  if there then do
    let _ ← requireRealDirectory r.target .filesystemFailed .filesystemFailed
    onOsError .filesystemFailed (file (.replace r.target r.backup))
    pure true
  else pure false

/-- The backup goes back to where the profile was. -/
def putBack (r : ProfileReplacement) (hadTarget : Bool) : Adoption Unit :=
  if hadTarget then onOsError .rollbackFailed (file (.replace r.backup r.target)) else pure ()

def install (r : ProfileReplacement) : Adoption ProfileReplacement := do
  let _ ← requireRealDirectory r.candidate .filesystemFailed .filesystemFailed
  let occupied ← pathExists r.backup
  Prog.require (!occupied) (.adoption .filesystemFailed)
  let hadTarget ← setAside r
  (file (.replace r.candidate r.target)).catching (fun
    | .os _ => do
      putBack r hadTarget
      Prog.throw (.adoption .filesystemFailed)
    | e => Prog.throw e)
  pure { r with hadTarget := hadTarget, installed := true }

/-- The two renamings taken back. -/
def restore (r : ProfileReplacement) : Adoption Unit := do
  file (.replace r.target r.candidate)
  if r.hadTarget then file (.replace r.backup r.target) else pure ()

/-- The new profile is kept usable if the previous one could not be restored. -/
def keepUsable (r : ProfileReplacement) : Adoption Unit := do
  let there ← pathExists r.target
  if there then pure ()
  else do
    let movedBack ← pathExists r.candidate
    if movedBack then suppress (file (.replace r.candidate r.target)) else pure ()

def rollback (r : ProfileReplacement) : Adoption Unit :=
  if r.installed then
    (restore r).catching (fun
      | .os _ => do
        keepUsable r
        Prog.throw (.adoption .rollbackFailed)
      | e => Prog.throw e)
  else pure ()

def commit (depth : Nat) (r : ProfileReplacement) : Adoption Unit :=
  if r.hadTarget then onOsError .cleanupFailed (removeTree depth r.backup) else pure ()

end ProfileReplacement

/-! ## The service -/

structure RunPaths where
  integrationRoot : TreePath
  accountRoot : TreePath
  profileRoot : TreePath

/-- `build_run_paths`, in a runtime directory whose own directories are no links. -/
def buildRunPaths (root : TreePath) (platform accountId : String) : RunPaths where
  integrationRoot := root
  accountRoot := root ++ ["accounts", platform, accountId]
  profileRoot := root ++ ["accounts", platform, accountId, "browser_data",
    platform ++ "_user_data_dir"]

structure AdoptionRequest where
  accountId : String
  expectedAuthRevision : Nat

structure AdoptionResult where
  accountId : String
  platform : String
  authRevision : Nat
  upstreamSha : String
  profileFileCount : Nat
  profileByteCount : Nat
  resumedJobCount : Nat
  deriving DecidableEq

structure AdoptionService where
  integrationRoot : TreePath
  /-- a UUID, if the factory returns one -/
  uuidFactory : Option String
  /-- the names of the longest path -/
  depth : Nat

def hex (uuid : String) : String := String.ofList (uuid.toList.filter (· ≠ '-'))

/-- `_PROBE_FAILURE_CODES`, with the code of a status that it does not name. -/
def probeFailureCode : ProbeStatus → AdoptionCode
  | .expired | .failed | .upstreamLoginExited | .loginConfirmationFailed => .probeFailed
  | .browserLaunchFailed | .upstreamBrowserTimeout | .timedOut | .configurationInvalid
  | .startFailed => .probeUnavailable
  | .cancelled => .cancelled
  | .accountBusy => .busy
  | .resultInvalid | .authenticated => .resultInvalid

/-- `_probe`: the revision that authenticated results carry. -/
def probe (accountRoot : TreePath) : Adoption String := do
  let answer ← Prog.ask (AdoptionCall.probe accountRoot)
  match answer with
  | .raisedException => Prog.throw (.adoption .probeUnavailable)
  | .raisedOther => Prog.throw .other
  | .noLoginResult => Prog.throw (.adoption .resultInvalid)
  | .loginResult status upstreamSha =>
    if status ≠ .authenticated then Prog.throw (.adoption (probeFailureCode status))
    else match upstreamSha with
      | none => Prog.throw (.adoption .resultInvalid)
      | some sha => pure sha

/-- A cancelled adoption goes no further. -/
def checkCancelled : Adoption Unit := do
  let cancelled ← Prog.ask AdoptionCall.isSet
  Prog.require (!cancelled) (.adoption .cancelled)

def now : Adoption Time := do
  let value ← Prog.ask AdoptionCall.now
  match value with
  | none => Prog.throw (.adoption .conflict)
  | some value => pure value

/-- `_snapshot`. -/
def observe (request : AdoptionRequest) : Adoption AccountSnapshot := do
  let r ← Prog.ask (AdoptionCall.snapshot request.accountId request.expectedAuthRevision)
  match r with
  | .ok s => pure s
  | .error (.account code) => Prog.throw (.adoption code.code)
  | .error .sqlAlchemy => Prog.throw (.adoption .conflict)
  | .error (.scheduler e) => Prog.throw (.db (.scheduler e))

def prepareStaging (depth : Nat) (paths : RunPaths) : Adoption Unit := do
  ensureRealDirectory paths.integrationRoot
  ensureRealDirectory (paths.integrationRoot ++ ["accounts"])
  ensureRealDirectory paths.accountRoot.dropLast
  onOsError .filesystemFailed (file (.mkdir paths.accountRoot))
  (do
    let _ ← requireRealDirectory paths.accountRoot .filesystemFailed .filesystemFailed
    ensureRealDirectory (paths.accountRoot ++ ["browser_data"])).catching (fun e => do
      suppress (removeTree depth paths.accountRoot)
      Prog.throw e)

def prepareTarget (paths : RunPaths) : Adoption Unit := do
  ensureRealDirectory paths.integrationRoot
  ensureRealDirectory (paths.integrationRoot ++ ["accounts"])
  ensureRealDirectory paths.accountRoot.dropLast
  ensureRealDirectory paths.accountRoot
  ensureRealDirectory paths.profileRoot.dropLast

/-- A lock file that is empty gets its first byte. -/
def markLock (lock : TreePath) (opened : FileStat) : Adoption Unit :=
  if opened.size = 0 then do
    let _ ← file (.write lock [0])
    pure ()
  else pure ()

/-- The lock file is opened and locked; the file system has no second names for it. -/
def openAndLock (lock : TreePath) : Adoption Bool := do
  file (.openLock lock)
  let opened ← file (.fstat lock)
  if opened.kind ≠ .file then do
    file (.close lock)
    pure false
  else do
    markLock lock opened
    file (.flock lock)
    pure true

def tryLock (lock : TreePath) : Adoption Bool := do
  let info ← lstatIfThere lock
  if info.any (fun i => i.kind = .link) then pure false else openAndLock lock

def acquire (lock : TreePath) : Adoption Bool :=
  (tryLock lock).catching (fun
    | .os _ => do
      suppress (file (.close lock))
      pure false
    | e => Prog.throw e)

/-- The transaction of the exchange. -/
def publishSnapshot (s : AccountSnapshot) : Adoption (Nat × Nat) := do
  checkCancelled
  let current ← now
  let r ← Prog.ask (AdoptionCall.publish s current)
  match r with
  | .ok r => pure r
  | .error e => Prog.throw (.db e)

/-- The part of `adopt` that holds the lock of the account. -/
def exchange (depth : Nat) (r : ProfileReplacement) (lock : TreePath) (s : AccountSnapshot) :
    Adoption (Nat × Nat) := do
  let acquired ← acquire lock
  Prog.require acquired (.adoption .busy)
  let installed ← r.install
  let published ← (publishSnapshot s).catching (fun e => do
    installed.rollback
    Prog.throw e)
  installed.commit depth
  pure published

/-- `except SQLAlchemyError, SchedulerRepositoryError, ValueError`. -/
def isHandled : Scheduler.SchedulerError → Bool
  | .integrityError _ => true
  | e => e.isSchedulerRepositoryError || e.isValueError

/-- The exceptions that leave `adopt`. -/
def translated : Raised → Raised
  | .adoption code => .adoption code
  | .os _ => .adoption .filesystemFailed
  | .db (.account code) => .adoption code.code
  | .db .sqlAlchemy => .adoption .filesystemFailed
  | .db (.scheduler e) => if isHandled e then .adoption .filesystemFailed else .db (.scheduler e)
  | .other => .other

def translate {α : Type} (m : Adoption α) : Adoption α :=
  m.catching (fun e => Prog.throw (translated e))

/-- Everything that an adoption names by its staging identifier. -/
structure AdoptionPaths where
  staging : RunPaths
  target : RunPaths
  source : TreePath
  backup : TreePath

def adoptionPaths (root : TreePath) (platform accountId stagingId : String) : AdoptionPaths where
  staging := buildRunPaths root platform stagingId
  target := buildRunPaths root platform accountId
  source := root ++ ["webui-profiles", platform ++ "_user_data_dir"]
  backup := (buildRunPaths root platform accountId).profileRoot.dropLast ++
    [".profile-adoption-backup-" ++ hex stagingId]

def AdoptionPaths.lock (paths : AdoptionPaths) : TreePath :=
  paths.target.accountRoot ++ [".mediacrawler-run.lock"]

def AdoptionPaths.replacement (paths : AdoptionPaths) : ProfileReplacement :=
  ⟨paths.staging.profileRoot, paths.target.profileRoot, paths.backup, false, false⟩

/-- The body of `adopt` once its staging directory is there. -/
def adoptStaged (depth : Nat) (paths : AdoptionPaths) (s : AccountSnapshot) :
    Adoption AdoptionResult := do
  let stats ← copyProfileTree depth paths.source paths.staging.profileRoot
  checkCancelled
  let sha ← probe paths.staging.accountRoot
  checkCancelled
  prepareTarget paths.target
  let published ← (exchange depth paths.replacement paths.lock s).ensuring (do
    let _ ← Prog.ask (AdoptionCall.release paths.lock))
  pure ⟨s.accountId, s.platform, published.1, sha, stats.files, stats.bytes, published.2⟩

def adopt (service : AdoptionService) (request : AdoptionRequest) : Adoption AdoptionResult := do
  checkCancelled
  let s ← observe request
  Prog.require (s.platform ∈ platforms) (.adoption .accountIneligible)
  match service.uuidFactory with
  | none => Prog.throw (.adoption .filesystemFailed)
  | some stagingId => do
    Prog.require (stagingId ≠ request.accountId) (.adoption .filesystemFailed)
    let paths := adoptionPaths service.integrationRoot s.platform request.accountId stagingId
    translate (prepareStaging service.depth paths.staging)
    (translate (adoptStaged service.depth paths s)).ensuring
      (suppress (removeTree service.depth paths.staging.accountRoot))

end MediaSync.Accounts.ProfileAdoption
