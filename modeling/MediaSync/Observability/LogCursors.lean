import MediaSync.Observability.Events
import MediaSync.Observability.LogCodec

/-!
# Cursors of a query

A page of events that is not the last comes with a cursor: the name of a segment
and a place in it, for these filters and this store, signed with a key of the
process. The name may have changed its suffix since.
-/

namespace MediaSync.Observability

open Python JsonText Events

/-- The codes of a `LogStoreError`. -/
inductive LogErrorCode where
  | unavailable | lockBusy | scanLimited | capacityExhausted
  deriving DecidableEq, Repr

/-- What a query raises. -/
inductive QueryError where
  | code (which : LogErrorCode)
  | queryInvalid | cursorInvalid | cursorStale
  /-- An `OSError` or a `ValueError` of another kind. -/
  | other
  deriving DecidableEq, Repr

/-- What the store takes from `base64` and `hmac` for its cursors; a byte is a character. -/
structure CursorHost extends LogHost where
  digest : Text → Text → Text
  encode64 : Text → Text
  decode64 : Text → Option Text

abbrev Filters := List (String × String)

def filterKeys : List String :=
  uuidFields ++ ["since", "until", "module", "level", "event_code", "platform"]

/-- The value of one filter. -/
def readFilter (key : String) (value : Json) : Option String :=
  if key ∈ uuidFields then (readText value).filter isCanonicalUuid
  else if key ∈ ["since", "until"] then (readText value).filter isCanonicalTime
  else (readText value).filter (fun s => (enumValues key).any (s ∈ ·))

/-- The loop of `_filters`. -/
def readFilters : Fields → Option Filters
  | [] => some []
  | (key, value) :: rest =>
    if key ∉ filterKeys then none
    else match value with
      | .null => readFilters rest
      | value => do
        let s ← readFilter key value
        let more ← readFilters rest
        some ((key, s) :: more)

def filterOf (selected : Filters) (key : String) : Option String :=
  (selected.find? (fun f => f.1 = key)).map Prod.snd

def filters (values : Fields) : Option Filters := do
  let selected ← readFilters values
  match filterOf selected "since", filterOf selected "until" with
  | some since, some untilTime => if untilTime < since then none else some selected
  | _, _ => some selected

/-- One filter of the record. -/
def Events.LogRecord.passes (record : LogRecord) (f : String × String) : Bool :=
  if f.1 = "since" then f.2 ≤ record.timestamp
  else if f.1 = "until" then record.timestamp ≤ f.2
  else match Json.get? record.fields f.1 with
    | some (.str value) => value = f.2
    | _ => false

/-- `name.rsplit(".", 1)[0]`. -/
def stem (name : String) : Text :=
  match name.toList.reverse.dropWhile (· ≠ '.') with
  | [] => name.toList
  | _ :: rest => rest.reverse

/-- `\d{8}T\d{12}Z`. -/
def isStamp (t : Text) : Bool :=
  t.length = 22 && t.zipIdx.all (fun (c, i) =>
    if i = 8 then c = 'T' else if i = 21 then c = 'Z' else c.isDigit)

/-- `[0-9a-f-]{36}`. -/
def isHexDashes (t : Text) : Bool :=
  t.length = 36 && t.all (fun c => c.isDigit || ('a' ≤ c && c ≤ 'f') || c = '-')

/-- `_SEGMENT.fullmatch`. -/
def isSegmentName (name : String) : Bool :=
  let cs := name.toList
  cs.take 4 = ['l', 'o', 'g', '-'] && isStamp ((cs.drop 4).take 22) &&
    (cs.drop 26).take 1 = ['-'] && isHexDashes ((cs.drop 27).take 36) &&
    (cs.drop 63).take 1 = ['-'] && isHexDashes ((cs.drop 64).take 36) &&
    (cs.drop 100 = ".open".toList || cs.drop 100 = ".jsonl".toList)

structure LogCursor where
  name : String
  offset : Nat
  filters : Filters
  storeId : String
  deriving DecidableEq

def maxCursorBytes : Nat := 2048

namespace LogCursor

def filterDocs (selected : Filters) : List (String × Doc) :=
  selected.map fun f => (f.1, .string f.2.toList)

def docs (c : LogCursor) : List (String × Doc) :=
  [("name", .string c.name.toList), ("offset", .number c.offset),
    ("filters", .object (filterDocs c.filters)), ("store_id", .string c.storeId.toList)]

def payload (c : LogCursor) : Text := (Doc.object c.docs).text

section

variable (host : CursorHost) (key : Text)

/-- `_cursor`. -/
def token (c : LogCursor) : Text :=
  host.encode64 (c.payload ++ host.digest key c.payload)

/-- The checks of `_decode_cursor` on the decoded payload. -/
def fromMapping (storeId : String) (selected : Filters) (value : Json) : Option LogCursor := do
  let item ← mapping value ["name", "offset", "filters", "store_id"]
  let store ← readField readText item "store_id"
  let asked ← Json.get? item "filters"
  let name ← readField readText item "name"
  let offset ← readField readNat item "offset"
  if store = storeId ∧ Json.same asked (.obj (selected.map fun f => (f.1, .str f.2))) = true ∧
      isSegmentName name = true then some ⟨name, offset, selected, store⟩ else none

/-- `_decode_cursor`. -/
def decode (storeId : String) (selected : Filters) (cursor : Text) : Except QueryError LogCursor :=
  if cursor.length > maxCursorBytes then .error .cursorInvalid
  else match host.decode64 cursor with
    | none => .error .cursorInvalid
    | some raw =>
      let payload := raw.take (raw.length - 32)
      if raw.drop (raw.length - 32) ≠ host.digest key payload then .error .cursorStale
      else match (host.loads payload).bind (fromMapping storeId selected) with
        | none => .error .cursorInvalid
        | some c => .ok c

end

end LogCursor

end MediaSync.Observability
