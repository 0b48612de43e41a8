import Mathlib.Data.List.Sort
import Mathlib.Algebra.Ring.Nat
import MediaSync.Foundation.Checks
import MediaSync.Foundation.Loop
import MediaSync.Foundation.Python

/-!
# Looking up one item

A lookup asks the media server for the rows of a library and decides whether one
of them, and only one, has the path and the provider value of a target. Jellyfin
is asked page by page, until as many rows have been seen as it reports; Emby is
asked once, for at most two rows that match already. What the server answers is
up to the server, also from one page to the next.
-/

namespace MediaSync.MediaServer

open Python
open Checks (orFail require)

/-- The codes of `MediaServerError`. -/
inductive ErrorCode where
  | notConfigured | operationsDisabled | scanCancelled | secretUnavailable
  | dnsFailed | addressForbidden | transport | timeout | redirectForbidden
  | authenticationFailed | httpRetryable | httpTerminal
  | headerLimit | bodyLimit | responseInvalid | schemaInvalid
  | providerMismatch | libraryNotFound | libraryAmbiguous | libraryPathMismatch
  | targetedScanUnsupported | scanRejected | scanAcceptanceUnknown
  | itemLookupAmbiguous | itemLookupIncomplete
  | publicationNotReady | publicationChanged
  deriving DecidableEq, Repr

structure MediaServerError where
  code : ErrorCode
  retryable : Bool
  deriving DecidableEq, Repr

/-- What a lookup raises: an error with a code, or the `ValueError` of a result that is not valid. -/
inductive LookupFailure where
  | media (e : MediaServerError)
  | invalidResult
  deriving DecidableEq, Repr

def incomplete : LookupFailure := .media ⟨.itemLookupIncomplete, false⟩

def ambiguous : LookupFailure := .media ⟨.itemLookupAmbiguous, false⟩

/-- `MediaServerLimits`, as far as a lookup reads them. -/
structure Limits where
  maxBodyBytes : Nat
  maxJsonDepth : Nat
  maxJsonItems : Nat
  maxStringChars : Nat
  jellyfinLookupPageSize : Nat
  maxLookupPages : Nat
  maxLookupItems : Nat
  maxLookupBytes : Nat
  positive : 0 < maxBodyBytes ∧ 0 < maxJsonDepth ∧ 0 < maxJsonItems ∧ 0 < maxStringChars ∧
    0 < jellyfinLookupPageSize ∧ 0 < maxLookupPages ∧ 0 < maxLookupItems ∧ 0 < maxLookupBytes
  capped : jellyfinLookupPageSize ≤ 128 ∧ maxLookupPages ≤ 32 ∧ maxLookupItems ≤ 4096 ∧
    maxLookupBytes ≤ 8388608

namespace Limits

variable (limits : Limits)

mutual

/-- `_JsonBudget.check`: the items that have been counted, or `none` where it raises. -/
def checkJson (depth : Nat) (counted : Nat) (value : Json) : Option Nat :=
  if limits.maxJsonDepth < depth ∨ limits.maxJsonItems < counted + 1 then none
  else
    match value with
    | .str s => if limits.maxStringChars < s.length then none else some (counted + 1)
    | .arr items => checkItems (depth + 1) (counted + 1) items
    | .obj fields => checkFields (depth + 1) (counted + 1) fields
    | _ => some (counted + 1)

def checkItems (depth : Nat) (counted : Nat) : List Json → Option Nat
  | [] => some counted
  | item :: items =>
    (checkJson depth counted item).bind fun counted => checkItems depth counted items

def checkFields (depth : Nat) (counted : Nat) : List (String × Json) → Option Nat
  | [] => some counted
  | (key, item) :: fields =>
    if limits.maxStringChars < key.length ∨ limits.maxJsonItems < counted + 1 then none
    else (checkJson depth (counted + 1) item).bind fun counted => checkFields depth counted fields

end

end Limits

/-- A query, by the names and values that are sent. -/
abbrev Query := List (String × String)

/-- What a request meets: an error of its own before the body is there, or the bytes of a body. -/
inductive ServerReply where
  | failed (e : MediaServerError)
  | body (bytes : List UInt8)
  deriving DecidableEq, Repr

/-- The decoding of a body: UTF-8 and `json.loads` with the hooks that refuse constants and repeated
keys; an empty body is no document. -/
structure BodyReader where
  decode : List UInt8 → Option Json
  decode_nil : decode [] = none

structure JsonResponse where
  payload : Json
  bodyByteCount : Nat

/-- The end of `_request`, with the limit of the caller. -/
def request (limits : Limits) (reader : BodyReader) (bodyByteLimit : Nat) (reply : ServerReply) :
    Except LookupFailure JsonResponse :=
  match reply with
  | .failed e => .error (.media e)
  | .body bytes => do
    require (bytes.length ≤ min limits.maxBodyBytes bodyByteLimit) (.media ⟨.bodyLimit, false⟩)
    let payload ← orFail (reader.decode bytes) (.media ⟨.responseInvalid, false⟩)
    require (limits.checkJson 0 0 payload).isSome (.media ⟨.schemaInvalid, false⟩)
    pure ⟨payload, bytes.length⟩

/-- `_LookupPassBudget`. -/
structure PassBudget where
  pageCount : Nat
  itemCount : Nat
  responseByteCount : Nat
  deriving DecidableEq, Repr

namespace PassBudget

def new : PassBudget := ⟨0, 0, 0⟩

def remainingBytes (limits : Limits) (budget : PassBudget) : Nat :=
  limits.maxLookupBytes - budget.responseByteCount

def startPage (limits : Limits) (budget : PassBudget) : Except LookupFailure PassBudget :=
  if limits.maxLookupPages ≤ budget.pageCount ∨ budget.remainingBytes limits < 1 then
    .error incomplete
  else .ok { budget with pageCount := budget.pageCount + 1 }

def finishPage (limits : Limits) (budget : PassBudget) (itemCount responseByteCount : Nat) :
    Except LookupFailure PassBudget :=
  if limits.maxLookupItems < budget.itemCount + itemCount ∨
      limits.maxLookupBytes < budget.responseByteCount + responseByteCount then .error incomplete
  else .ok { budget with
    itemCount := budget.itemCount + itemCount
    responseByteCount := budget.responseByteCount + responseByteCount }

end PassBudget

/-- A value of `MediaServerLookupTarget`. -/
structure LookupTarget where
  providerKey : String
  providerValue : String
  serverPath : String
  deriving DecidableEq, Repr

/-- What is read of a row. -/
structure LookupRow where
  itemId : String
  path : String
  providerValue : Option String
  etag : Option String
  deriving DecidableEq, Repr

/-- The row has the path and the provider value of the target. -/
def LookupRow.IsTarget (target : LookupTarget) (row : LookupRow) : Prop :=
  row.path = target.serverPath ∧ row.providerValue = some target.providerValue

instance (target : LookupTarget) (row : LookupRow) : Decidable (row.IsTarget target) :=
  inferInstanceAs (Decidable (_ ∧ _))

/-- No control character. -/
def isPlain (s : String) : Bool := !s.toList.any isControl

/-- `value is None`, or the text of a string. -/
def optionalText : Option Json → Option (Option String)
  | none => some none
  | some .null => some none
  | some (.str s) => some (some s)
  | _ => none

def isText : Json → Bool
  | .str _ => true
  | _ => false

/-- The fields of a mapping. -/
def asFields : Option Json → Option (List (String × Json))
  | some (.obj fields) => some fields
  | _ => none

/-- The items of a list. -/
def asItems : Option Json → Option (List Json)
  | some (.arr items) => some items
  | _ => none

def validatedLookupRow (providerKey : String) (rawItem : Json) : Except LookupFailure LookupRow := do
  let fields ← orFail (asFields (some rawItem)) incomplete
  let itemId ← orFail (Json.asStr? (Json.get? fields "Id")) incomplete
  require (1 ≤ itemId.length && itemId.length ≤ 128 && isPlain itemId) incomplete
  let path ← orFail (Json.asStr? (Json.get? fields "Path")) incomplete
  require (path != "" && isPlain path) incomplete
  let providerIds ← orFail (asFields (Json.get? fields "ProviderIds")) incomplete
  require (providerIds.all fun f => isText f.2) incomplete
  let etag ← orFail (optionalText (Json.get? fields "Etag")) incomplete
  require (etag.all fun value => value != "" && isPlain value) incomplete
  pure ⟨itemId, path, Json.asStr? (Json.get? providerIds providerKey), etag⟩

structure LookupMatch where
  itemId : String
  etag : Option String
  deriving DecidableEq, Repr

inductive LookupState where
  | notFound | matched
  deriving DecidableEq, Repr

structure ItemLookupResult where
  lookupState : LookupState
  inspectedItemCount : Nat
  pageCount : Nat
  responseByteCount : Nat
  itemIdSetFingerprint : String
  itemId : Option String
  etag : Option String
  deriving DecidableEq, Repr

/-- The connector of a profile; `fingerprintOf` is the digest of a list of texts, each with its
length. -/
structure Connector where
  limits : Limits
  reader : BodyReader
  libraryId : String
  profileFingerprint : String
  fingerprintOf : List String → String

namespace Connector

variable (connector : Connector)

/-- `_completed_lookup_result`. A result with an etag of more than 4096 characters is not valid. -/
def completedLookupResult (target : LookupTarget) (found : List LookupMatch) (seenIds : List String)
    (budget : PassBudget) : Except LookupFailure ItemLookupResult :=
  let etag := found.head?.bind LookupMatch.etag
  if etag.any fun value => 4096 < value.length then .error .invalidResult
  else .ok {
    lookupState := if found = [] then .notFound else .matched
    inspectedItemCount := budget.itemCount
    pageCount := budget.pageCount
    responseByteCount := budget.responseByteCount
    itemIdSetFingerprint := connector.fingerprintOf
      ([connector.profileFingerprint, target.providerKey, target.providerValue,
        target.serverPath] ++ seenIds.insertionSort (· ≤ ·))
    itemId := found.head?.map LookupMatch.itemId
    etag := etag }

def jellyfinQuery (startIndex : Nat) : Query :=
  [("parentId", connector.libraryId), ("recursive", "true"), ("fields", "Path,ProviderIds,Etag"),
    ("enableImages", "false"), ("enableUserData", "false"), ("enableTotalRecordCount", "true"),
    ("startIndex", toString startIndex),
    ("limit", toString connector.limits.jellyfinLookupPageSize)]

/-- The variables of the loop, and the queries that have been sent. -/
structure PassState where
  budget : PassBudget
  seenIds : List String
  found : List LookupMatch
  expectedTotal : Option Nat
  startIndex : Nat
  sent : List Query

def PassState.new : PassState := ⟨.new, [], [], none, 0, []⟩

/-- `expected_total is None or len(seen_ids) < expected_total`. -/
def PassState.goesOn (s : PassState) : Bool :=
  s.expectedTotal.all fun total => s.seenIds.length < total

/-- One row: its id is new, and it is a match or not. -/
def addRow (target : LookupTarget) (seen : List String × List LookupMatch) (rawItem : Json) :
    Except LookupFailure (List String × List LookupMatch) := do
  let row ← validatedLookupRow target.providerKey rawItem
  require (!seen.1.contains row.itemId) incomplete
  if row.IsTarget target then do
    require (seen.2.length = 0) ambiguous
    pure (seen.1 ++ [row.itemId], seen.2 ++ [⟨row.itemId, row.etag⟩])
  else pure (seen.1 ++ [row.itemId], seen.2)

/-- A number that is no boolean and not negative. -/
def asCount (value : Option Json) : Option Nat :=
  (Json.asInt? value).bind fun n => if 0 ≤ n then some n.toNat else none

/-- What is read of a page. -/
structure LookupPage where
  rawItems : List Json
  total : Nat

/-- The fields of a page that starts where it was asked for. -/
def readPage (startIndex : Nat) (payload : Json) : Except LookupFailure LookupPage := do
  let fields ← orFail (asFields (some payload)) incomplete
  let rawItems ← orFail (asItems (Json.get? fields "Items")) incomplete
  require (rawItems.length ≤ connector.limits.jellyfinLookupPageSize) incomplete
  let total ← orFail (asCount (Json.get? fields "TotalRecordCount")) incomplete
  require (Json.asInt? (Json.get? fields "StartIndex") = some (startIndex : Int)) incomplete
  pure ⟨rawItems, total⟩

/-- The rest of an iteration, once the reply is there. -/
def takePage (target : LookupTarget) (s : PassState) (budget : PassBudget) (reply : ServerReply) :
    Except LookupFailure PassState := do
  let limits := connector.limits
  let response ← request limits connector.reader (s.budget.remainingBytes limits) reply
  let page ← connector.readPage s.startIndex response.payload
  let budget ← budget.finishPage limits page.rawItems.length response.bodyByteCount
  require (page.total ≤ limits.maxLookupItems &&
    (page.total + limits.jellyfinLookupPageSize - 1) / limits.jellyfinLookupPageSize ≤
      limits.maxLookupPages &&
    s.expectedTotal.all (fun total => page.total = total) &&
    s.startIndex + page.rawItems.length ≤ page.total &&
    !(page.rawItems.length = 0 && s.startIndex < page.total)) incomplete
  let seen ← page.rawItems.foldlM (addRow target) (s.seenIds, s.found)
  pure { s with
    budget := budget
    seenIds := seen.1
    found := seen.2
    expectedTotal := some page.total
    startIndex := s.startIndex + page.rawItems.length }

/-- One iteration. The server is asked by the number of the request and the query. -/
def lookupPage (target : LookupTarget) (server : Nat → Query → ServerReply) (s : PassState) :
    Loop.Step PassState (List Query × Except LookupFailure ItemLookupResult) :=
  if s.goesOn then
    match s.budget.startPage connector.limits with
    | .error e => .done (s.sent, .error e)
    | .ok budget =>
      let query := connector.jellyfinQuery s.startIndex
      let sent := s.sent ++ [query]
      match connector.takePage target s budget (server s.sent.length query) with
      | .error e => .done (sent, .error e)
      | .ok next => .next { next with sent := sent }
  else
    if s.expectedTotal = some s.seenIds.length then
      .done (s.sent, connector.completedLookupResult target s.found s.seenIds s.budget)
    else .done (s.sent, .error incomplete)

/-- `_lookup_jellyfin_item`: the queries that are sent and the outcome. -/
def lookupJellyfinItem (target : LookupTarget) (server : Nat → Query → ServerReply) :
    List Query × Except LookupFailure ItemLookupResult :=
  (Loop.run (connector.lookupPage target server) (connector.limits.maxLookupPages + 1)
    .new).getD ([], .error incomplete)

def embyLookupLimit : Nat := 2

def embyProviderFilter (target : LookupTarget) : Option String :=
  let value := target.providerValue
  if 1 ≤ value.length ∧ value.length ≤ 512 ∧
      value.toList.all (fun c => c.isAlphanum || c = '_' || c = '-') then
    some (target.providerKey ++ "." ++ value)
  else none

def embyQuery (target : LookupTarget) : Query :=
  [("Path", target.serverPath)] ++
    (embyProviderFilter target).toList.map (fun value => ("AnyProviderIdEquals", value)) ++
    [("ParentId", connector.libraryId), ("Recursive", "true"), ("Fields", "Path,ProviderIds"),
      ("EnableImages", "false"), ("EnableUserData", "false"), ("StartIndex", "0"),
      ("Limit", toString embyLookupLimit)]

/-- `value is None`, or a number that is no boolean and not negative. -/
def optionalCount : Option Json → Option (Option Nat)
  | none => some none
  | some .null => some none
  | some value => (asCount (some value)).map some

/-- One row: its id is new, its path is that of the target, and it is a match or not. -/
def addEmbyRow (target : LookupTarget) (seen : List String × List LookupMatch) (rawItem : Json) :
    Except LookupFailure (List String × List LookupMatch) := do
  let row ← validatedLookupRow target.providerKey rawItem
  require (!seen.1.contains row.itemId && row.path = target.serverPath) incomplete
  require ((embyProviderFilter target).isNone || row.providerValue = some target.providerValue)
    incomplete
  if row.providerValue = some target.providerValue then
    pure (seen.1 ++ [row.itemId], seen.2 ++ [⟨row.itemId, row.etag⟩])
  else pure (seen.1 ++ [row.itemId], seen.2)

/-- The fields of the response and its rows. -/
def readEmbyPage (payload : Json) : Except LookupFailure (List (String × Json) × List Json) := do
  let fields ← orFail (asFields (some payload)) incomplete
  let rawItems ← orFail (asItems (Json.get? fields "Items")) incomplete
  require (rawItems.length ≤ embyLookupLimit) incomplete
  pure (fields, rawItems)

def lookupEmbyItem (target : LookupTarget) (server : Query → ServerReply) :
    Except LookupFailure ItemLookupResult := do
  let limits := connector.limits
  let budget ← PassBudget.new.startPage limits
  let response ← request limits connector.reader (PassBudget.new.remainingBytes limits)
    (server (connector.embyQuery target))
  let page ← readEmbyPage response.payload
  let budget ← budget.finishPage limits page.2.length response.bodyByteCount
  let start ← orFail (optionalCount (Json.get? page.1 "StartIndex")) incomplete
  require (start.all (· = 0)) incomplete
  let total ← orFail (optionalCount (Json.get? page.1 "TotalRecordCount")) incomplete
  require (total.all (· = page.2.length)) incomplete
  let seen ← page.2.foldlM (addEmbyRow target) ([], [])
  require (seen.2.length ≤ 1) ambiguous
  require (!(total.isNone && page.2.length = embyLookupLimit && seen.2.length < embyLookupLimit))
    incomplete
  connector.completedLookupResult target seen.2 seen.1 budget

end Connector

end MediaSync.MediaServer
