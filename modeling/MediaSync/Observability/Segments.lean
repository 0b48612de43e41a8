import MediaSync.Foundation.JsonDoc

/-!
# Segments of the log

A segment starts with a signed header and, once it is sealed, ends with a signed
footer that says how many bytes and events are between them. Everything that is
written is ASCII, so a character is a byte. The name of a segment repeats its
header and sorts by the time in it.
-/

namespace MediaSync.Observability

open Python JsonText

/-- What the store takes from `json` and `hmac`: decoding, and the digest of a value in hexadecimal
under a key in hexadecimal. -/
structure LogHost where
  loads : Text → Option Json
  sign : String → Json → String

def footerReserve : Nat := 512
def maxEntries : Nat := 4096

inductive LogName where
  | marker
  | lock
  | segment (stamp writerId segmentId : String) (sealed : Bool)
  | foreign (name : String)
  deriving DecidableEq

namespace LogName

/-- The file name; `_SEGMENT` takes the name of a segment apart again. -/
def text : LogName → String
  | marker => ".media-sync-log-store-v1"
  | lock => ".media-sync-log-lock-v1"
  | segment stamp writerId segmentId isSealed =>
    "log-" ++ stamp ++ "-" ++ writerId ++ "-" ++ segmentId ++ (if isSealed then ".jsonl" else ".open")
  | foreign name => name

end LogName

/-- `re.fullmatch("[0-9a-f]{64}", value)`. -/
def isHexKey (value : String) : Bool :=
  value.toList.length = 64 && value.toList.all (fun c => c.isDigit || ('a' ≤ c && c ≤ 'f'))

/-- The places of `0000-00-00T00:00:00.000000Z` that are not digits. -/
def timePunctuation : List (Nat × Char) :=
  [(4, '-'), (7, '-'), (10, 'T'), (13, ':'), (16, ':'), (19, '.'), (26, 'Z')]

/-- The number in two places of a text. -/
def twoDigits (value : List Char) (i : Nat) : Nat :=
  ((value.getD i '0').toNat - 48) * 10 + ((value.getD (i + 1) '0').toNat - 48)

def daysInMonth (year month : Nat) : Nat :=
  if month = 2 then
    if year % 4 = 0 ∧ (year % 100 ≠ 0 ∨ year % 400 = 0) then 29 else 28
  else if month = 4 ∨ month = 6 ∨ month = 9 ∨ month = 11 then 30 else 31

/-- The ranges that `strptime` accepts, in a year that `strftime` writes with four digits. -/
def isCalendarTime (value : List Char) : Bool :=
  let year := twoDigits value 0 * 100 + twoDigits value 2
  let month := twoDigits value 5
  let day := twoDigits value 8
  1000 ≤ year && 1 ≤ month && month ≤ 12 && 1 ≤ day && day ≤ daysInMonth year month &&
    twoDigits value 11 < 24 && twoDigits value 14 < 60 && twoDigits value 17 < 60

/-- `canonical_time` accepts the text. -/
def isCanonicalTime (value : String) : Bool :=
  value.toList.length = 27 &&
    value.toList.zipIdx.all (fun (c, i) =>
      match timePunctuation.find? (fun p => p.1 = i) with
      | some p => c = p.2
      | none => c.isDigit) &&
    isCalendarTime value.toList

/-- The characters that `replace` takes out of a time. -/
def isStampPunctuation (c : Char) : Bool := c = '-' || c = ':' || c = '.'

/-- A time without its punctuation, as it stands in a name. -/
def stamp (time : String) : String :=
  String.ofList (time.toList.filter (fun c => !isStampPunctuation c))

section

variable (host : LogHost)

def signed (key : String) (payload : List (String × Doc)) : List (String × Doc) :=
  payload ++ [("mac", .string (host.sign key (Doc.object payload).json).toList)]

/-- `_json(self._signed(payload))`. -/
def signedText (key : String) (payload : List (String × Doc)) : Text :=
  (Doc.object (signed host key payload)).text

def verified (key : String) (line : Text) : Option (List (String × Json)) :=
  if line.length > footerReserve then none
  else match host.loads line with
    | some (.obj fields) =>
      match (Json.get? fields "mac").bind readText with
      | some mac =>
        let rest := fields.filter (fun f => f.1 ≠ "mac")
        if isHexKey mac ∧ mac = host.sign key (.obj (sortedFields rest)) then some rest else none
      | none => none
    | _ => none

end

structure SegmentHeader where
  storeId : String
  writerId : String
  segmentId : String
  createdAt : String
  deriving DecidableEq

namespace SegmentHeader

def payload (h : SegmentHeader) : List (String × Doc) :=
  [("type", .string "segment_v1".toList), ("store_id", .string h.storeId.toList),
    ("writer_id", .string h.writerId.toList), ("segment_id", .string h.segmentId.toList),
    ("created_at", .string h.createdAt.toList)]

def line (host : LogHost) (key : String) (h : SegmentHeader) : Text :=
  signedText host key h.payload ++ ['\n']

/-- The name of a segment with this header. -/
def name (h : SegmentHeader) (isSealed : Bool) : LogName :=
  .segment (stamp h.createdAt) h.writerId h.segmentId isSealed

end SegmentHeader

def footerPayload (segmentId : String) (size count : Nat) : List (String × Doc) :=
  [("type", .string "sealed_v1".toList), ("segment_id", .string segmentId.toList),
    ("end", .number size), ("count", .number count)]

def footerLine (host : LogHost) (key segmentId : String) (size count : Nat) : Text :=
  signedText host key (footerPayload segmentId size count) ++ ['\n']

/-- `handle.readline(limit)`. -/
def readLine (limit : Nat) (content : Text) : Text :=
  (content.takeWhile (· ≠ '\n') ++ (if '\n' ∈ content then ['\n'] else [])).take limit

/-- `tail.rstrip(b"\n").rsplit(b"\n", 1)[-1]`. -/
def lastLine (tail : Text) : Text :=
  ((tail.reverse.dropWhile (· = '\n')).takeWhile (· ≠ '\n')).reverse

/-- `_Segment`, without the identity of its file. -/
structure LogSegment where
  name : LogName
  size : Nat
  header : SegmentHeader
  start : Nat
  stop : Nat
  isSealed : Bool
  deriving DecidableEq

section

variable (host : LogHost) (storeId key : String)

/-- The header line says what the name says. -/
def readHeader (time writerId segmentId : String) (line : Text) : Option SegmentHeader := do
  let fields ← verified host key line
  let item ← mapping (.obj fields) ["type", "store_id", "writer_id", "segment_id", "created_at"]
  let kind ← readField readText item "type"
  let store ← readField readText item "store_id"
  let writer ← readField readText item "writer_id"
  let id ← readField readText item "segment_id"
  let createdAt ← readField readText item "created_at"
  if kind = "segment_v1" ∧ store = storeId ∧ writer = writerId ∧ isCanonicalUuid writerId ∧
      id = segmentId ∧ isCanonicalUuid segmentId ∧ isCanonicalTime createdAt ∧
      stamp createdAt = time
  then some ⟨store, writer, id, createdAt⟩ else none

/-- The end of the events of a sealed segment, which its footer says too. -/
def readFooter (segmentId : String) (start : Nat) (content : Text) : Option Nat :=
  let tail := content.drop (max start (content.length - footerReserve))
  if tail.getLast? ≠ some '\n' then none
  else do
    let line := lastLine tail
    let fields ← verified host key line
    let item ← mapping (.obj fields) ["type", "segment_id", "end", "count"]
    let kind ← readField readText item "type"
    let id ← readField readText item "segment_id"
    let stop ← readField readNat item "end"
    let _ ← readField readNat item "count"
    if kind = "sealed_v1" ∧ id = segmentId ∧ stop = content.length - line.length - 1
    then some stop else none

end

structure Marker where
  storeId : String
  key : String
  deriving DecidableEq

end MediaSync.Observability
