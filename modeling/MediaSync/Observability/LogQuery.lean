import MediaSync.Foundation.ProgramTraces
import MediaSync.Observability.LogCursors

/-!
# Pages of events

A query takes stock of the segments and then reads them one after the other, a
line at a time. It holds the lock of the store only while it finds the marker:
writers go on while it reads. A page ends where it has as many events as were
asked for, where enough has been scanned, or where the time is up, and its
cursor says where the next one begins.
-/

namespace MediaSync.Observability

open Python JsonText Events
open Program (Prog)

/-- What the reader takes from outside: the codecs, and the policy for messages. -/
structure QueryHost extends CursorHost where
  policy : MessagePolicy

/-- What `_inventory` has found in the directory: the segments, with the identities of their files,
all bytes, and how many names could not be looked at. -/
structure LogInventory where
  segments : List (LogSegment × Nat)
  total : Nat
  unavailable : Nat

def byName (segments : List (LogSegment × Nat)) : List (LogSegment × Nat) :=
  segments.insertionSort (fun a b => a.1.name.text ≤ b.1.name.text)

/-- What `details` says of a file. -/
structure LogDetails where
  size : Nat
  ident : Nat
  deriving DecidableEq

inductive QueryCall where
  /-- The lock is taken, the marker is found or written, the lock is released. -/
  | prepare
  | names
  | details (name : LogName)
  /-- A file is opened, read and closed. -/
  | load (name : LogName)
  | openRead (name : LogName)
  | readLine (ident offset limit : Nat)
  /-- `time.monotonic() >= deadline`. -/
  | late

namespace QueryCall

/-- What a call returns; an `OSError` or a `ValueError` is `none`. -/
def Reply : QueryCall → Type
  | prepare => Except QueryError Marker
  | names => Except QueryError (List LogName)
  | details _ => Option LogDetails
  | load _ => Option Text
  | openRead _ => Option Nat
  | readLine _ _ _ => Option Text
  | late => Bool

end QueryCall

abbrev QueryProg := Prog QueryCall QueryCall.Reply QueryError

namespace LogQuery

def ask (c : QueryCall) : QueryProg c.Reply := Prog.ask c

/-- The value, or an exception where there is none. -/
def orOther {α : Type} (value : Option α) : QueryProg α :=
  Prog.ofExcept (value.elim (.error .other) .ok)

def attempt {α : Type} (m : QueryProg α) : QueryProg (Option α) :=
  Prog.catching (do let a ← m; pure (some a)) (fun _ => pure none)

section

variable (host : QueryHost)

/-- `_segment`, with the identity of the file. Of an open segment only the size it had before it
was opened counts. -/
def segment (marker : Marker) (name : LogName) : QueryProg (Option (LogSegment × Nat)) :=
  match name with
  | .segment time writerId segmentId isSealed => do
    let details ← ask (.details name) >>= orOther
    let content ← ask (.load name) >>= orOther
    let line := readLine (footerReserve + 1) content
    let header ← orOther (readHeader host.toLogHost marker.storeId marker.key time writerId
      segmentId line)
    let stop ← orOther (if isSealed then
        readFooter host.toLogHost marker.key segmentId line.length (content.take details.size)
      else some details.size)
    let again ← ask (.details name) >>= orOther
    Prog.require (again.ident = details.ident) (.code .unavailable)
    pure (some (⟨name, details.size, header, line.length, stop, isSealed⟩, details.ident))
  | _ => pure none

/-- One name of the directory in `_inventory`. -/
def inspect (marker : Marker) (found : LogInventory) (name : LogName) : QueryProg LogInventory := do
  let late : Bool ← ask .late
  Prog.require (!late) (.code .scanLimited)
  match ← attempt (ask (.details name) >>= orOther) with
  | none => pure { found with unavailable := found.unavailable + 1 }
  | some details => do
    let counted := { found with total := found.total + details.size }
    match ← attempt (segment host marker name) with
    | none => pure { counted with unavailable := counted.unavailable + 1 }
    | some none => pure counted
    | some (some s) => pure { counted with segments := counted.segments ++ [s] }

def inspectAll (marker : Marker) (found : LogInventory) : List LogName → QueryProg LogInventory
  | [] => pure found
  | name :: rest => do
    let next ← inspect host marker found name
    inspectAll marker next rest

def inventory (marker : Marker) : QueryProg LogInventory := do
  let markerDetails ← ask (.details .marker) >>= orOther
  let lockDetails ← ask (.details .lock) >>= orOther
  let names ← ask .names >>= Prog.ofExcept
  let all ← inspectAll host marker ⟨[], markerDetails.size + lockDetails.size, 0⟩
    (names.filter (fun n => n ≠ .marker ∧ n ≠ .lock))
  pure { all with segments := byName all.segments }

def maxScanBytes : Nat := 4194304

/-- The counters of a page; the other fields of its coverage are constants. -/
structure Coverage where
  scanLimited : Bool
  corruptRecords : Nat
  truncatedSegments : Nat
  omittedSegmentTails : Nat
  unavailableSegments : Nat
  deriving DecidableEq, Repr

/-- What a query has come to. -/
structure Scan where
  events : List LogRecord
  scanned : Nat
  coverage : Coverage

/-- A valid record of the segment's writer; `none` where the line is corrupt. -/
def readRecord (header : SegmentHeader) (line : Text) : Option LogRecord :=
  if maxEventBytes < line.length then none
  else ((host.loads line).bind (validateRecord host.policy)).filter
    (fun record => record.writerId = header.writerId)

/-- A record that passes every filter. -/
def selects (selected : Filters) (record : LogRecord) : Bool :=
  selected.all record.passes

namespace Scan

def corrupt (scan : Scan) : Scan :=
  { scan with coverage := { scan.coverage with
      corruptRecords := scan.coverage.corruptRecords + 1 } }

def truncated (scan : Scan) : Scan :=
  { scan with coverage := { scan.coverage with
      truncatedSegments := scan.coverage.truncatedSegments + 1
      omittedSegmentTails := scan.coverage.omittedSegmentTails + 1 } }

def unavailable (scan : Scan) : Scan :=
  { scan with coverage := { scan.coverage with
      unavailableSegments := scan.coverage.unavailableSegments + 1 } }

def cut (scan : Scan) (limit : Nat) : Scan :=
  { scan with coverage := { scan.coverage with scanLimited := scan.events.length < limit } }

def read (scan : Scan) (line : Text) : Scan :=
  { scan with scanned := scan.scanned + line.length }

/-- The record of a whole line joins the events if it passes the filters. -/
def take (scan : Scan) (selected : Filters) : Option LogRecord → Scan
  | none => scan.corrupt
  | some record =>
    if selects selected record then { scan with events := scan.events ++ [record] } else scan

end Scan

/-- The page is full, enough has been scanned, or the time is up. -/
def isFull (limit : Nat) (scan : Scan) : QueryProg Bool :=
  if limit ≤ scan.events.length ∨ maxScanBytes ≤ scan.scanned then pure true else ask .late

variable (limit : Nat) (selected : Filters)

/-- The lines of one segment from a place in it, with the place where the page ends, if it does.
Every line that is read takes at least a byte, so there are no more of them than bytes. -/
def scanLines (s : LogSegment) (ident : Nat) : Nat → Nat → Scan → QueryProg (Scan × Option Nat)
  | 0, _, scan => pure (scan, none)
  | rounds + 1, position, scan =>
    if s.stop ≤ position then pure (scan, none)
    else do
      let full ← isFull limit scan
      if full then pure (scan.cut limit, some position)
      else do
        let line ← ask (.readLine ident position (min (maxEventBytes + 1) (s.stop - position))) >>=
          orOther
        let scan := scan.read line
        if line.getLast? ≠ some '\n' then pure (scan.truncated, none)
        else
          scanLines s ident rounds (position + line.length)
            (scan.take selected (readRecord host s.header line))

/-- One segment; the file that is opened must be the one that was found. -/
def scanSegment (s : LogSegment) (ident offset : Nat) (scan : Scan) :
    QueryProg (Scan × Option Nat) := do
  Prog.require (s.start ≤ offset ∧ offset ≤ s.stop) .cursorStale
  let opened : Option Nat ← ask (.openRead s.name)
  if opened = some ident then scanLines host limit selected s ident (s.stop - offset) offset scan
  else pure (scan.unavailable, none)

/-- The segments in their order, the first one from where the cursor points; with the segment and
the place where the page ends, if it does. -/
def scanSegments : Option Nat → List (LogSegment × Nat) → Scan →
    QueryProg (Scan × Option (LogSegment × Nat))
  | _, [], scan => pure (scan, none)
  | resume, (s, ident) :: rest, scan => do
    let (scan, stopped) ← scanSegment host limit selected s ident (resume.getD s.start) scan
    match stopped with
    | some position => pure (scan, some (s, position))
    | none => scanSegments none rest scan

structure Page where
  events : List LogRecord
  nextCursor : Option Text
  coverage : Coverage

/-- The segments from the one that the cursor names, by the name without its suffix. -/
def resumeAt (name : String) : List (LogSegment × Nat) → Option (List (LogSegment × Nat))
  | [] => none
  | s :: rest => if stem s.1.name.text = stem name then some (s :: rest) else resumeAt name rest

variable (key : Text)

/-- What is left to read, and the place in its first segment. -/
def resume (marker : Marker) (segments : List (LogSegment × Nat)) :
    Option Text → Except QueryError (Option Nat × List (LogSegment × Nat))
  | none => .ok (none, segments)
  | some cursor =>
    match LogCursor.decode host.toCursorHost key marker.storeId selected cursor with
    | .error e => .error e
    | .ok c =>
      match resumeAt c.name segments with
      | none => .error .cursorStale
      | some rest => .ok (some c.offset, rest)

/-- The `try` of `query`. -/
def readPage (cursor : Option Text) : QueryProg Page := do
  let marker ← ask .prepare >>= Prog.ofExcept
  let found ← inventory host marker
  let (offset, segments) ← Prog.ofExcept (resume host selected key marker found.segments cursor)
  let (scan, stopped) ← scanSegments host limit selected offset segments
    ⟨[], 0, ⟨false, 0, 0, 0, found.unavailable⟩⟩
  pure ⟨scan.events, stopped.map fun (s, position) =>
    LogCursor.token host.toCursorHost key ⟨s.name.text, position, selected, marker.storeId⟩,
    scan.coverage⟩

/-- `except (OSError, ValueError)` but for the errors of the store itself. -/
def asUnavailable : QueryError → QueryProg Page
  | .other => Prog.throw (.code .unavailable)
  | e => Prog.throw e

end

def query (host : QueryHost) (key : Text) (limit : Nat) (cursor : Option Text) (values : Fields) :
    QueryProg Page := do
  Prog.require (1 ≤ limit ∧ limit ≤ 200) .queryInvalid
  let selected ← Prog.ofExcept ((filters values).elim (.error .queryInvalid) .ok)
  (readPage host limit selected key cursor).catching asUnavailable

end LogQuery

end MediaSync.Observability
