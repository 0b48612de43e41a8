import MediaSync.Foundation.Checks
import MediaSync.Foundation.JsonDoc
import MediaSync.Security.Redaction

/-!
# Locators

A locator says where the bytes of an asset come from: a persisted URL without a
query, or the keys an adapter resolves it by. What is resolved is a URL that is
used once. Three functions bring a URL into one spelling: the host name in ASCII
and lower case without the dot at its end, no port where it is that of the
scheme, and a path.
-/

namespace MediaSync.Network

open Python
open JsonText (Text Doc JsonReader)
open Posix (splitBy)
open Checks (orFail require)
open Urls

/-- The codes of `MediaDownloadError`, and an exception that is none. -/
inductive NetworkError where
  | locatorInvalid | locatorSecretForbidden
  | networkUrlInvalid | networkAddressForbidden | networkDnsFailed | networkDnsMixed
  | downloadRangeInvalid | downloadRedirectInvalid | downloadRedirectLimit
  | downloadHeaderLimit | downloadTimeout | downloadTransport
  | uncaught
  deriving DecidableEq, Repr

/-- `str.rstrip(".")`. -/
def rstripDots (t : Text) : Text := t.rdropWhile (fun c => c = '.')

/-- `hostname.rstrip(".").encode("idna").decode("ascii").lower()`, not empty and without a percent
sign. -/
def canonicalHost (tables : Tables) (hostname : Text) : Option Text :=
  (idnaEncode tables (rstripDots hostname)).bind fun encoded =>
    if encoded.all isAscii ∧ encoded ≠ [] ∧ '%' ∉ encoded then some (encoded.map Char.toLower)
    else none

def httpSchemes : List Text := ["http".toList, "https".toList]

def defaultPort (scheme : Text) : Nat := if scheme = "http".toList then 80 else 443

/-- The port as it is written: not at all where it is that of the scheme. -/
def writtenPort (scheme : Text) (port : Option Nat) : Option Nat :=
  if port = some (defaultPort scheme) then none else port

/-- The parts of a URL in its one spelling. -/
structure UrlParts where
  scheme : Text
  host : Text
  port : Option Nat
  path : Text
  query : Text
  deriving DecidableEq, Repr

def UrlParts.url (p : UrlParts) : Text :=
  urlunsplit p.scheme (authority p.host (writtenPort p.scheme p.port)) p.path p.query

/-- The parts that all three functions read, with what each of them forbids besides. -/
def readParts (tables : Tables) (invalid forbidden : NetworkError) (forbids : SplitResult → Bool)
    (raw : Text) : Except NetworkError UrlParts := do
  let s ← orFail (urlsplit tables raw) invalid
  let port ← orFail s.port invalid
  let hostname ← orFail (s.hostname tables) invalid
  let scheme := lower tables s.scheme
  require (scheme ∈ httpSchemes) invalid
  require (!s.hasUserinfo && s.fragment = [] && !forbids s) forbidden
  require (port != some 0) invalid
  let host ← orFail (canonicalHost tables hostname) invalid
  pure ⟨scheme, host, port, if s.path = [] then ['/'] else s.path, s.query⟩

/-- `raw == raw.strip()`. -/
def isStripped (raw : Text) : Bool :=
  !raw.head?.any isSpace && !raw.getLast?.any isSpace

def maxUrlChars : Nat := 4096

/-- Every percent sign of a path stands before two hexadecimal digits. -/
def percentPairs : Text → Bool
  | [] => true
  | c :: rest =>
    (c != '%' || (2 ≤ rest.length && (rest.take 2).all isHexDigit)) && percentPairs rest

def canonicalDirectUrl (tables : Tables) (raw : Text) : Except NetworkError Text := do
  require (isStripped raw && raw.length ≤ maxUrlChars) .locatorInvalid
  require (!raw.any isControl) .locatorInvalid
  require (raw.all fun c => c != '?' && c != '#' && c != '\\') .locatorSecretForbidden
  let parts ← readParts tables .locatorInvalid .locatorSecretForbidden (fun s => s.query != []) raw
  require (!Security.hasSecretUrlPath tables parts.path) .locatorSecretForbidden
  require (percentPairs parts.path) .locatorInvalid
  pure parts.url

def canonicalRuntimeUrl (tables : Tables) (limit : Nat) (raw : Text) : Except NetworkError Text := do
  require (isStripped raw && raw.length ≤ limit) .networkUrlInvalid
  require (!raw.any isControl) .networkUrlInvalid
  require (raw.all fun c => c != '\\' && c != '#') .networkUrlInvalid
  let parts ← readParts tables .networkUrlInvalid .networkUrlInvalid (fun _ => false) raw
  pure parts.url

/-- A locator that is persisted. -/
inductive AssetLocator where
  | direct (url : Text)
  | adapterRefresh (adapter assetKey : Text)
  deriving DecidableEq, Repr

def stableName (value : Text) : Bool :=
  value.length ≤ 64 && value.head?.any (fun c => 'a' ≤ c && c ≤ 'z') &&
    value.all fun c => ('a' ≤ c && c ≤ 'z') || c.isDigit || c = '_' || c = '.' || c = '-'

def stableKey (value : Text) : Bool :=
  1 ≤ value.length && value.length ≤ 255 &&
    value.all fun c => c.isAlphanum || c = '.' || c = '_' || c = ':' || c = '/' || c = '-'

def secretWords : List Text :=
  ["auth", "authorization", "cookie", "credential", "key", "password", "secret", "signature",
    "token"].map String.toList

/-- `_plain_text`, with the pattern it is to match. -/
def plainText (tables : Tables) (stable : Text → Bool) (value : Text) : Except NetworkError Text := do
  require (isStripped value) .locatorInvalid
  require (stable value) .locatorInvalid
  let words := splitBy (fun c => c = '.' || c = '_' || c = ':' || c = '/' || c = '-')
    (lower tables value)
  require (words.all (· ∉ secretWords)) .locatorSecretForbidden
  pure value

/-- What `parse_locator` is given. -/
inductive LocatorValue where
  | text (value : Text)
  | mapping (fields : List (String × Json))
  | other

/-- The text of a field, or an empty one. -/
def textField (fields : List (String × Json)) (name : String) : Text :=
  ((Json.asStr? (Json.get? fields name)).getD "").toList

/-- `parse_locator` of a mapping. -/
def parseFields (tables : Tables) (fields : List (String × Json)) :
    Except NetworkError AssetLocator := do
  require (Json.asInt? (Json.get? fields "version") = some 1) .locatorInvalid
  let type ← orFail (Json.asStr? (Json.get? fields "type")) .locatorInvalid
  if type = "direct" then
    require (Json.hasKeys fields ["version", "type", "url"]) .locatorInvalid
    let url ← canonicalDirectUrl tables (textField fields "url")
    pure (.direct url)
  else if type = "adapter_refresh" then
    require (Json.hasKeys fields ["version", "type", "adapter", "asset_key"]) .locatorInvalid
    let adapter ← plainText tables stableName (textField fields "adapter")
    let assetKey ← plainText tables stableKey (textField fields "asset_key")
    pure (.adapterRefresh adapter assetKey)
  else throw .locatorInvalid

/-- The fields of a decoded object. -/
def objectFields : Json → Option (List (String × Json))
  | .obj fields => some fields
  | _ => none

/-- The mapping that a value is or that its text holds. -/
def LocatorValue.fields (reader : JsonReader) : LocatorValue → Option (List (String × Json))
  | text value => (reader.load value).bind objectFields
  | mapping fields => some fields
  | other => none

def parseLocator (tables : Tables) (reader : JsonReader) (value : LocatorValue) :
    Except NetworkError AssetLocator := do
  let fields ← orFail (value.fields reader) .locatorInvalid
  parseFields tables fields

def AssetLocator.asDict : AssetLocator → Doc
  | direct url =>
    .object [("type", .string "direct".toList), ("url", .string url), ("version", .number 1)]
  | adapterRefresh adapter assetKey =>
    .object [("adapter", .string adapter), ("asset_key", .string assetKey),
      ("type", .string "adapter_refresh".toList), ("version", .number 1)]

def canonicalLocatorJson (locator : AssetLocator) : Text := locator.asDict.text

def locatorFingerprint (sha256Of : Text → String) (locator : AssetLocator) : String :=
  sha256Of (canonicalLocatorJson locator)

/-- What the request for a resolved URL looks like. -/
inductive MediaRequestProfile where
  | default | bilibiliMedia
  deriving DecidableEq, Repr

end MediaSync.Network
