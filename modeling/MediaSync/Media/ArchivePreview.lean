import MediaSync.Foundation.Files
import MediaSync.Foundation.ProgramTraces
import MediaSync.Media.RangeHeader

/-!
# Archive previews

`ArchivePreviewService.open` verifies a blob on one descriptor and hands that
descriptor to an `ArchivePreview`, which streams one range of it. Both are
programs of file-system calls. The file behind the descriptor has a history of
versions and may move on at any time; every check of a name may answer
anything, since names can be exchanged behind the preview's back.
-/

namespace MediaSync.Preview

open JsonText (Text)
open Program

/-- `os.stat_result`, as far as it is read. -/
structure FileStat where
  regular : Bool
  directory : Bool
  symlink : Bool
  reparse : Bool
  links : Nat
  writable : Bool
  device : Nat
  inode : Nat
  size : Nat
  modifiedNs : Nat
  changedNs : Nat
  deriving DecidableEq, Repr

structure FileSnapshot where
  device : Nat
  inode : Nat
  size : Nat
  modifiedNs : Nat
  changedNs : Nat
  deriving DecidableEq, Repr

def FileSnapshot.fromStat (details : FileStat) : FileSnapshot :=
  ⟨details.device, details.inode, details.size, details.modifiedNs, details.changedNs⟩

/-- `_same_named_snapshot`: on Windows the two views may differ in `st_ctime_ns`. -/
def sameNamedSnapshot (windows : Bool) (opened named : FileSnapshot) : Bool :=
  if windows then
    opened.device = named.device && opened.inode = named.inode && opened.size = named.size &&
      opened.modifiedNs = named.modifiedNs
  else opened = named

/-- A path by its parts; the last one is the name. -/
structure PurePath where
  absolute : Bool
  parent : List Text
  name : Text
  deriving DecidableEq, Repr

/-- `ArchivePreviewError`, or any other exception. -/
inductive PreviewFailure where
  | error (e : ArchivePreviewError)
  | other
  deriving DecidableEq, Repr

inductive LstatReply where
  | found (details : FileStat)
  | notFound
  | failed
  deriving DecidableEq, Repr

/-- How `_open_archive_read_file` ends: `refused` is a `PathSecurityError`. -/
inductive OpenReply where
  | opened
  | refused
  | failed
  deriving DecidableEq, Repr

/-- How `handle.read` ends: `other` is an object that is no `bytes`. -/
inductive ReadReply where
  | bytes (chunk : Bytes)
  | other
  | raised
  deriving DecidableEq, Repr

inductive PreviewCall where
  | lstat (path : List Text)
  | openRead (path : PurePath)
  | fstat
  | named (path : PurePath)
  | read (count : Nat)
  | seek (offset : Int)
  | close
  deriving DecidableEq, Repr

/-- No value is an exception; `close` says whether it raised none. -/
abbrev PreviewCall.Reply : PreviewCall → Type
  | lstat _ => LstatReply
  | openRead _ => OpenReply
  | fstat => Option FileStat
  | named _ => Option FileStat
  | read _ => ReadReply
  | seek _ => Option Int
  | close => Bool

abbrev PreviewProg (α : Type) := Prog PreviewCall PreviewCall.Reply PreviewFailure α

def PreviewCall.make (c : PreviewCall) : PreviewProg c.Reply := Prog.ask c

def fail {α : Type} (e : ArchivePreviewError) : PreviewProg α := Prog.throw (.error e)

def check (b : Bool) : PreviewProg Unit := Prog.require b (.error .invalid)

/-- `except Exception: raise _fail("asset_archive_invalid")`. -/
def asPreviewError {α : Type} (m : PreviewProg α) : PreviewProg α :=
  m.catching fun failure => match failure with
    | .error e => fail e
    | .other => fail .invalid

def orInvalid {α : Type} : Option α → PreviewProg α
  | some a => pure a
  | none => fail .invalid

def assertPlainDirectory (path : List Text) : PreviewProg Unit := do
  let details ← PreviewCall.make (.lstat path)
  match details with
  | .notFound => fail .missing
  | .failed => fail .invalid
  | .found details => check (details.directory && !details.symlink && !details.reparse)

def isSafeFileStat (details : FileStat) (expectedSize : Nat) : Bool :=
  details.regular && !details.symlink && !details.reparse && details.links = 1 &&
    !details.writable && details.size = expectedSize

def preflightNamedFile (path : PurePath) (root : List Text) (expectedSize : Nat) :
    PreviewProg Unit := do
  assertPlainDirectory root
  assertPlainDirectory (root ++ ["sha256".toList])
  assertPlainDirectory path.parent
  let details ← PreviewCall.make (.lstat (path.parent ++ [path.name]))
  match details with
  | .notFound => fail .missing
  | .failed => fail .invalid
  | .found details => check (isSafeFileStat details expectedSize)

/-- A chunk of at most so many bytes, and of one at least. -/
def readChunk (requested : Nat) : PreviewProg Bytes := do
  let reply ← PreviewCall.make (.read requested)
  match reply with
  | .raised => Prog.throw .other
  | .other => fail .invalid
  | .bytes chunk => if chunk = [] ∨ requested < chunk.length then fail .invalid else pure chunk

/-- `handle.seek(start) != start`. -/
def seekTo (start : Int) : PreviewProg Unit := do
  let reached ← PreviewCall.make (.seek start)
  match reached with
  | none => Prog.throw .other
  | some reached => check (reached = start)

def safeArchiveMediaTypes : List String :=
  ["application/pdf", "application/x-subrip", "audio/flac", "audio/mp4", "audio/mpeg",
    "audio/ogg", "audio/wav", "audio/webm", "image/avif", "image/gif", "image/jpeg", "image/png",
    "image/webp", "text/vtt", "video/mp4", "video/x-flv", "video/x-matroska"]

def safeArchiveMediaType (value : Option String) : String :=
  match value with
  | some mediaType =>
    if safeArchiveMediaTypes.contains mediaType then mediaType else "application/octet-stream"
  | none => "application/octet-stream"

/-- What the service knows: the archive root, the platform, and the digest in hexadecimal. -/
structure ArchivePreviewService where
  root : List Text
  windows : Bool
  sha256 : Bytes → Text

/-- The fields of the object; its `end` is `stop`. -/
structure ArchivePreview where
  path : PurePath
  snapshot : FileSnapshot
  expectedSize : Nat
  started : Bool
  closed : Bool
  rangeSelected : Bool
  start : Int
  stop : Int
  contentLength : Nat
  isPartial : Bool
  etag : Text
  mediaType : String
  deriving DecidableEq, Repr

def rangeLength (start stop : Int) : Nat := if stop < start then 0 else (stop - start + 1).toNat

namespace ArchivePreview

def asClosed (p : ArchivePreview) : ArchivePreview := { p with closed := true }

/-- Closing marks the object first, so that it is closed also where this raises. -/
def close (p : ArchivePreview) : PreviewProg Unit :=
  if p.closed then pure ()
  else do
    let done ← PreviewCall.make .close
    check done

/-- `with contextlib.suppress(ArchivePreviewError): self.close()`. -/
def suppressedClose (p : ArchivePreview) : PreviewProg Unit := p.close.catching fun _ => pure ()

end ArchivePreview

namespace ArchivePreviewService

/-- The descriptor and its name, both in the state that they had before. -/
def checkStats (service : ArchivePreviewService) (path : PurePath) (expectedSize : Nat)
    (snapshot : FileSnapshot) : PreviewProg Unit := do
  let opened ← PreviewCall.make .fstat
  let opened ← orInvalid opened
  let named ← PreviewCall.make (.named path)
  let named ← orInvalid named
  check (isSafeFileStat opened expectedSize)
  check (isSafeFileStat named expectedSize)
  check (FileSnapshot.fromStat opened = snapshot &&
    sameNamedSnapshot service.windows snapshot (FileSnapshot.fromStat named))

variable (service : ArchivePreviewService)

def assertStable (p : ArchivePreview) : PreviewProg Unit :=
  service.checkStats p.path p.expectedSize p.snapshot

/-- `select_range`. Where it raises, the preview is left closed. -/
def selectRange (p : ArchivePreview) (start stop : Int) : PreviewProg ArchivePreview :=
  if p.started || p.closed || p.rangeSelected || p.expectedSize = 0 || start < 0 || stop < start ||
      (p.expectedSize : Int) ≤ stop then do
    p.suppressedClose
    fail .rangeUnsatisfiable
  else
    (asPreviewError do
      service.assertStable p
      seekTo start
      service.assertStable p
      pure { p with
        start := start, stop := stop, contentLength := rangeLength start stop, isPartial := true,
        rangeSelected := true }).catching fun failure => do
      p.suppressedClose
      Prog.throw failure

def streamChunkBytes : Nat := 64 * 1024

/-- One turn of the loop of `_iter_bytes`, from its head to the next `yield` or
to its end: the chunk with what remains after it. -/
def turn (p : ArchivePreview) (remaining : Nat) : PreviewProg (Option (Bytes × Nat)) :=
  if remaining = 0 then do
    service.assertStable p
    pure none
  else do
    let chunk ← readChunk (min remaining streamChunkBytes)
    service.assertStable p
    pure (some (chunk, remaining - chunk.length))

end ArchivePreviewService

/-- The closed projection of a persisted asset. -/
structure ArchivePreviewSource where
  status : Option String
  localPath : Option PurePath
  checksumSha256 : Option Text
  sizeBytes : Option Int
  mimeType : Option String
  deriving DecidableEq, Repr

def readyStatuses : List String := ["verified", "exported"]

def isChecksum (checksum : Text) : Bool :=
  checksum.length = 64 && checksum.all fun c => "0123456789abcdef".toList.contains c

/-- `name.rpartition(".")` is the stem, the dot and an ASCII extension. -/
def isBlobName (name stem : Text) : Bool :=
  let extension := Urls.afterLast '.' name
  name.contains '.' && name.take (name.length - extension.length - 1) = stem &&
    extension != [] && extension.all fun c => Urls.isAscii c && c.isAlphanum

namespace ArchivePreviewService

variable (service : ArchivePreviewService)

def metadata (source : ArchivePreviewSource) : PreviewProg (PurePath × Text × Nat) :=
  if !(source.status.any readyStatuses.contains) then fail .notReady
  else
    match source.localPath, source.checksumSha256, source.sizeBytes with
    | some path, some checksum, some size => do
      check (isChecksum checksum && 0 ≤ size)
      check path.absolute
      check (path.parent = service.root ++ ["sha256".toList, checksum.take 2] &&
        isBlobName path.name checksum)
      pure (path, checksum, size.toNat)
    | _, _, _ => fail .notReady

def selectedRange (size : Nat) : Option (Int × Int) → PreviewProg (Int × Int × Bool)
  | none => pure (0, (size : Int) - 1, false)
  | some range =>
    if size = 0 || range.1 < 0 || range.2 < range.1 || (size : Int) ≤ range.2 then
      fail .rangeUnsatisfiable
    else pure (range.1, range.2, true)

def verifyChunkBytes : Nat := 1024 * 1024

/-- The bytes fed to the digest. The first argument bounds the number of turns
of the loop: a turn reads one byte at least. -/
def hashRemaining : Nat → Nat → Bytes → PreviewProg Bytes
  | 0, _, seen => pure seen
  | turns + 1, remaining, seen =>
    if remaining = 0 then pure seen
    else do
      let chunk ← readChunk (min remaining verifyChunkBytes)
      hashRemaining turns (remaining - chunk.length) (seen ++ chunk)

/-- What happens on the open descriptor before the preview owns it. -/
def verify (path : PurePath) (checksum : Text) (size : Nat) (range : Int × Int × Bool)
    (mimeType : Option String) : PreviewProg ArchivePreview := do
  let opened ← PreviewCall.make .fstat
  let opened ← orInvalid opened
  let named ← PreviewCall.make (.named path)
  let named ← orInvalid named
  check (isSafeFileStat opened size)
  check (isSafeFileStat named size)
  let snapshot := FileSnapshot.fromStat opened
  check (sameNamedSnapshot service.windows snapshot (FileSnapshot.fromStat named))
  let seen ← hashRemaining size size []
  let rest ← PreviewCall.make (.read 1)
  check (rest = .bytes [])
  service.checkStats path size snapshot
  check (service.sha256 seen = checksum)
  seekTo range.1
  service.checkStats path size snapshot
  pure {
    path := path, snapshot := snapshot, expectedSize := size, started := false, closed := false,
    rangeSelected := range.2.2, start := range.1, stop := range.2.1,
    contentLength := rangeLength range.1 range.2.1, isPartial := range.2.2,
    etag := '"' :: checksum ++ ['"'], mediaType := safeArchiveMediaType mimeType }

/-- `with contextlib.suppress(Exception): handle.close()`. -/
def discardHandle : PreviewProg Unit := do
  let _ ← PreviewCall.make .close
  pure ()

/-- `open`. -/
def openPreview (source : ArchivePreviewSource) (byteRange : Option (Int × Int)) :
    PreviewProg ArchivePreview := do
  let target ← service.metadata source
  let range ← selectedRange target.2.2 byteRange
  preflightNamedFile target.1 service.root target.2.2
  let reply ← PreviewCall.make (.openRead target.1)
  match reply with
  | .refused => do
    preflightNamedFile target.1 service.root target.2.2
    fail .invalid
  | .failed => fail .invalid
  | .opened =>
    (asPreviewError
      (service.verify target.1 target.2.1 target.2.2 range source.mimeType)).catching
        fun failure => do
      discardHandle
      Prog.throw failure

end ArchivePreviewService

/-- The iterator of `iter_bytes`: a suspended one has so many bytes to go. -/
inductive Generator where
  | absent
  | fresh
  | suspended (remaining : Nat)
  | finished
  deriving DecidableEq, Repr

/-- `abandon` closes the iterator, `close` the preview. -/
inductive Operation where
  | selectRange (start stop : Int)
  | iterBytes
  | next
  | abandon
  | close
  deriving DecidableEq, Repr

/-- How an operation ends: `exhausted` is the `StopIteration` of an iterator that
ran to its end, `spent` that of an iterator that was done before, and
`abandoned` the end of one that was suspended. -/
inductive Outcome where
  | returned
  | yielded (chunk : Bytes)
  | exhausted
  | spent
  | abandoned
  | raised (failure : PreviewFailure)
  deriving DecidableEq, Repr

/-- The object and its iterator after an operation, with how it ended. -/
abbrev Result := ArchivePreview × Generator × Outcome

/-- The `finally` of an iterator, which ends with the outcome unless it raises. -/
def finishIteration (p : ArchivePreview) (outcome : Outcome) : PreviewProg Result :=
  (do
    p.close
    pure (p.asClosed, Generator.finished, outcome)).catching fun failure =>
      pure (p.asClosed, .finished, .raised failure)

/-- `next` on an iterator that is to run on from what `turn` starts with. -/
def advance (p : ArchivePreview) (body : PreviewProg (Option (Bytes × Nat))) :
    PreviewProg Result :=
  ((asPreviewError body).bind fun result => match result with
    | some (chunk, remaining) => pure (p, .suspended remaining, .yielded chunk)
    | none => finishIteration p .exhausted).catching fun failure =>
      finishIteration p (.raised failure)

/-- One operation on a preview and its iterator. -/
def ArchivePreviewService.operate (service : ArchivePreviewService) (p : ArchivePreview)
    (generator : Generator) : Operation → PreviewProg Result
  | .selectRange start stop =>
    (do
      let selected ← service.selectRange p start stop
      pure (selected, generator, Outcome.returned)).catching fun failure =>
        pure (p.asClosed, generator, .raised failure)
  | .iterBytes =>
    if p.started || p.closed then pure (p, generator, .raised (.error .invalid))
    else pure ({ p with started := true }, .fresh, .returned)
  | .next =>
    match generator with
    | .fresh => advance p (do
        service.assertStable p
        service.turn p p.contentLength)
    | .suspended remaining => advance p (service.turn p remaining)
    | .absent => pure (p, .absent, .spent)
    | .finished => pure (p, .finished, .spent)
  | .abandon =>
    match generator with
    | .suspended _ => finishIteration p .abandoned
    | .fresh => pure (p, .finished, .returned)
    | .absent => pure (p, .absent, .returned)
    | .finished => pure (p, .finished, .returned)
  | .close =>
    (do
      p.close
      pure (p.asClosed, generator, Outcome.returned)).catching fun failure =>
        pure (p.asClosed, generator, .raised failure)

/-- A version of the file behind the descriptor. -/
structure FileVersion where
  bytes : Bytes
  stat : FileStat

/-- The file as it is at the moment, where the descriptor stands, and whether it is open. -/
structure Disk where
  version : Nat
  offset : Int
  isOpen : Bool

namespace Disk

/-- Only the file moved on. -/
structure Moves (s t : Disk) : Prop where
  version : s.version ≤ t.version
  offset : t.offset = s.offset
  isOpen : t.isOpen = s.isOpen

end Disk

/-- How the calls are answered. The file may change before or during every call;
a read during which it does not change returns what is there, or less. -/
def answers (history : Nat → FileVersion) :
    Answers PreviewCall PreviewCall.Reply Disk
  | .lstat _, s, _, t => s.Moves t
  | .named _, s, _, t => s.Moves t
  | .openRead _, s, reply, t => s.version ≤ t.version ∧
      ((reply = .opened ∧ t.isOpen = true ∧ t.offset = 0) ∨
        (reply ≠ .opened ∧ t.offset = s.offset ∧ t.isOpen = s.isOpen))
  | .fstat, s, reply, t => s.Moves t ∧
      (reply = none ∨ (s.isOpen = true ∧ reply = some (history t.version).stat))
  | .read _, s, reply, t => s.version ≤ t.version ∧ t.isOpen = s.isOpen ∧
      ∀ chunk, reply = .bytes chunk → s.isOpen = true ∧ t.offset = s.offset + chunk.length ∧
        (s.version = t.version →
          chunk <+: (history s.version).bytes.drop s.offset.toNat)
  | .seek _, s, reply, t => s.version ≤ t.version ∧ t.isOpen = s.isOpen ∧
      ∀ reached, reply = some reached → s.isOpen = true ∧ t.offset = reached
  | .close, s, _, t => s.version ≤ t.version ∧ t.isOpen = false

/-- Every change of the file is visible in its stat snapshot. -/
def Visible (history : Nat → FileVersion) : Prop :=
  ∀ v w, FileSnapshot.fromStat (history v).stat = FileSnapshot.fromStat (history w).stat → v = w

/-- A preview in use. -/
structure Session where
  preview : ArchivePreview
  generator : Generator
  disk : Disk

/-- An operation with the calls it made. -/
structure Event where
  operation : Operation
  calls : List (Exchange PreviewCall PreviewCall.Reply)
  outcome : Outcome

/-- One operation of the caller. -/
def Steps (service : ArchivePreviewService) (history : Nat → FileVersion) (s : Session)
    (event : Event) (t : Session) : Prop :=
  Executes (answers history) (service.operate s.preview s.generator event.operation) s.disk
    event.calls (.ok (t.preview, t.generator, event.outcome)) t.disk

/-- What an operation hands to the caller. -/
def Event.bytes (event : Event) : Bytes :=
  match event.outcome with
  | .yielded chunk => chunk
  | _ => []

/-- All that a run hands to its caller, in order. -/
def streamed (events : List Event) : Bytes := events.flatMap Event.bytes

end MediaSync.Preview
