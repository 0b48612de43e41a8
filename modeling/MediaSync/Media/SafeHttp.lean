import Mathlib.Data.Rat.Defs
import Mathlib.Algebra.Order.Ring.Rat
import MediaSync.Media.Locator

/-!
# The redirect chain

`SafeHttpClient.stream` follows redirects by itself. Every hop brings its URL
into the one spelling, resolves the host anew, requires each of its addresses to
be public, and opens a request that is pinned to one of them. What the resolver
and the transport answer is up to the hop; the clock is read once before the
first hop and once in each.
-/

namespace MediaSync.Network

open JsonText (Text number)
open Checks (orFail require)
open Urls

structure NetworkLimits where
  maxRedirects : Nat
  timeoutSeconds : ℚ
  maxUrlChars : Nat
  maxHeaderCount : Nat
  maxHeaderLineBytes : Nat
  maxHeaderBytes : Nat
  timeoutSeconds_pos : 0 < timeoutSeconds
  sizes_pos : 0 < maxUrlChars ∧ 0 < maxHeaderCount ∧ 0 < maxHeaderLineBytes ∧ 0 < maxHeaderBytes

def isPublic (address : IpAddress) : Bool :=
  address.isGlobal && !address.isPrivate && !address.isLoopback && !address.isLinkLocal &&
    !address.isMulticast && !address.isUnspecified && !address.isReserved

structure ValidatedTarget where
  url : Text
  scheme : Text
  hostname : Text
  port : Nat
  address : Text
  deriving DecidableEq, Repr

def ValidatedTarget.hostHeader (target : ValidatedTarget) : Text :=
  if target.port = defaultPort target.scheme then bracketed target.hostname
  else bracketed target.hostname ++ ':' :: number target.port

/-- `AddressResolver.resolve`; it raises a `MediaDownloadError`, or anything else. -/
abbrev AddressResolver := Text → Nat → Except (Option NetworkError) (List Text)

/-- The answers of a resolver, all of them public. -/
def resolvedAddresses (tables : Tables) (resolver : AddressResolver) (hostname : Text) (port : Nat) :
    Except NetworkError (List IpAddress) := do
  let raw ← (resolver hostname port).mapError fun e => e.getD .networkDnsFailed
  require (raw != []) .networkDnsFailed
  let addresses ← orFail (raw.mapM tables.ipAddress) .networkDnsFailed
  require (!addresses.any isPublic || addresses.all isPublic) .networkDnsMixed
  require (addresses.all isPublic) .networkAddressForbidden
  pure addresses

/-- The literal host, or what it resolves to. -/
def targetAddresses (tables : Tables) (resolver : AddressResolver) (hostname : Text) (port : Nat) :
    Except NetworkError (List IpAddress) :=
  (tables.ipAddress hostname).elim (resolvedAddresses tables resolver hostname port) fun literal =>
    if isPublic literal then .ok [literal] else .error .networkAddressForbidden

def isBefore (a b : IpAddress) : Bool :=
  a.version < b.version || (a.version = b.version && a.value < b.value)

/-- `min` by version and value. -/
def selectAddress : IpAddress → List IpAddress → IpAddress
  | best, [] => best
  | best, a :: rest => selectAddress (if isBefore a best then a else best) rest

/-- `port or default`. -/
def effectivePort (scheme : Text) (port : Option Nat) : Nat :=
  if port = some 0 then defaultPort scheme else port.getD (defaultPort scheme)

def validateTarget (tables : Tables) (resolver : AddressResolver) (limit : Nat) (url : Text) :
    Except NetworkError ValidatedTarget := do
  let canonical ← canonicalRuntimeUrl tables limit url
  let parsed ← orFail (urlsplit tables canonical) .uncaught
  let hostname ← orFail (parsed.hostname tables) .networkUrlInvalid
  let port ← orFail parsed.port .uncaught
  let addresses ← targetAddresses tables resolver hostname (effectivePort parsed.scheme port)
  let first ← orFail addresses.head? .uncaught
  pure ⟨canonical, parsed.scheme, hostname, effectivePort parsed.scheme port,
    (selectAddress first addresses.tail).text⟩

/-- Whether `_PinnedNetworkBackend.connect_tcp` connects. -/
def backendAccepts (tables : Tables) (target : ValidatedTarget) (host : Text) (port : Nat) : Bool :=
  lower tables (rstripDots host) = target.hostname && port = target.port

/-- The address and the port that `_PinnedNetworkBackend.connect_tcp` connects to. -/
def connectTcp (tables : Tables) (target : ValidatedTarget) (host : Text) (port : Nat) :
    Option (Text × Nat) :=
  if backendAccepts tables target host port then some (target.address, port) else none

def origin (tables : Tables) (url : Text) : Except NetworkError (Text × Text × Nat) := do
  let parsed ← orFail (urlsplit tables url) .downloadTransport
  let hostname ← orFail (parsed.hostname tables) .networkUrlInvalid
  let port ← orFail parsed.port .downloadTransport
  pure (parsed.scheme, hostname, effectivePort parsed.scheme port)

abbrev Headers := List (Text × Text)

def profileHeaders : MediaRequestProfile → Headers
  | .default => []
  | .bilibiliMedia =>
    [("User-Agent".toList, ("Mozilla/5.0 (Windows NT 10.0; Win64; x64) AppleWebKit/537.36 " ++
        "(KHTML, like Gecko) Chrome/131.0.0.0 Safari/537.36").toList),
      ("Referer".toList, "https://www.bilibili.com/".toList),
      ("Origin".toList, "https://www.bilibili.com".toList)]

def rangeNames : List Text := ["range".toList, "if-range".toList]

/-- The headers of a caller, which may only ask for a range. -/
def addRanges (tables : Tables) : Headers → Headers → Except NetworkError Headers
  | [], headers => .ok headers
  | (rawName, value) :: rest, headers =>
    let name := lower tables rawName
    if name ∉ rangeNames ∨ headers.any (fun h => lower tables h.1 = name) then
      .error .downloadRangeInvalid
    else addRanges tables rest (headers ++ [(name, value)])

def requestHeaders (tables : Tables) (profile : MediaRequestProfile) (headers : Headers) :
    Except NetworkError Headers := do
  let ranged ← addRanges tables headers (profileHeaders profile)
  pure (ranged ++ [("Accept".toList, "*/*".toList), ("Accept-Encoding".toList, "identity".toList)])

/-- Two `pop`s. -/
def dropRanges (headers : Headers) : Headers := headers.filter (fun h => h.1 ∉ rangeNames)

structure HttpResponse where
  status : Nat
  headers : Headers
  deriving DecidableEq, Repr

/-- A request as it is handed to the transport of its target. -/
structure HopRequest where
  target : ValidatedTarget
  headers : Headers
  deriving DecidableEq, Repr

/-- What a transport raises. -/
inductive SendError where
  | media (e : NetworkError)
  | timeout
  | other
  deriving DecidableEq, Repr

def SendError.code : SendError → NetworkError
  | media e => e
  | timeout => .downloadTimeout
  | other => .downloadTransport

/-- What the hops meet, by their number. The connection pool of a request asks its backend for a
host and a port as often as it likes. -/
structure HttpWorld where
  resolve : Nat → AddressResolver
  dials : Nat → HopRequest → List (Text × Nat)
  send : Nat → HopRequest → Except SendError HttpResponse
  started : ℚ
  clock : Nat → ℚ
  urljoin : Text → Text → Option Text

def checkHeaders (limits : NetworkLimits) (response : HttpResponse) : Bool :=
  let sizes := response.headers.map fun h => h.1.length + h.2.length + 2
  response.headers.length ≤ limits.maxHeaderCount &&
    sizes.all (· ≤ limits.maxHeaderLineBytes) && sizes.sum ≤ limits.maxHeaderBytes

def redirectStatuses : List Nat := [301, 302, 303, 307, 308]

def locations (tables : Tables) (response : HttpResponse) : List Text :=
  (response.headers.filter fun h => lower tables h.1 = "location".toList).map Prod.snd

/-- What a hop leads to. -/
inductive HopEnd where
  | answered (response : HttpResponse)
  | redirected (url : Text) (sameOrigin : Bool)
  deriving DecidableEq, Repr

structure SafeHttpClient where
  tables : Tables
  limits : NetworkLimits

namespace SafeHttpClient

variable (client : SafeHttpClient)

/-- What the backend of a request connects to. -/
def connections (world : HttpWorld) (k : Nat) (request : HopRequest) : List (Text × Nat) :=
  (world.dials k request).filterMap fun dial =>
    connectTcp client.tables request.target dial.1 dial.2

/-- The `try` of a hop; `last` says that no redirect is left. -/
def hopEnd (world : HttpWorld) (k : Nat) (last : Bool) (request : HopRequest) :
    Except NetworkError HopEnd := do
  let response ← (world.send k request).mapError SendError.code
  require (checkHeaders client.limits response) .downloadHeaderLimit
  if response.status ∉ redirectStatuses then pure (.answered response)
  else
    require ((locations client.tables response).length = 1) .downloadRedirectInvalid
    require (!last) .downloadRedirectLimit
    let location := (locations client.tables response).headD []
    let joined ← orFail (world.urljoin request.target.url location) .downloadTransport
    let redirected ← canonicalRuntimeUrl client.tables client.limits.maxUrlChars joined
    let parsed ← orFail (urlsplit client.tables redirected) .downloadTransport
    require (!(request.target.scheme = "https".toList && parsed.scheme = "http".toList))
      .downloadRedirectInvalid
    let here ← origin client.tables request.target.url
    let there ← origin client.tables redirected
    pure (.redirected redirected (here = there))

/-- The hops with the requests that are left: the requests that are opened, and how they end. -/
def hops (world : HttpWorld) (timeout : ℚ) :
    Nat → Nat → Text → List Text → Headers →
      List HopRequest × Except NetworkError (HttpResponse × ValidatedTarget)
  | 0, _, _, _, _ => ([], .error .downloadRedirectLimit)
  | n + 1, k, current, visited, headers =>
    if current ∈ visited then ([], .error .downloadRedirectInvalid)
    else if timeout - (world.clock k - world.started) ≤ 0 then ([], .error .downloadTimeout)
    else
      match validateTarget client.tables (world.resolve k) client.limits.maxUrlChars current with
      | .error e => ([], .error e)
      | .ok target =>
        let request : HopRequest := ⟨target, headers ++ [("Host".toList, target.hostHeader)]⟩
        match client.hopEnd world k (n = 0) request with
        | .error e => ([request], .error e)
        | .ok (.answered response) => ([request], .ok (response, target))
        | .ok (.redirected url sameOrigin) =>
          let rest := hops world timeout n (k + 1) url (current :: visited)
            (if sameOrigin then headers else dropRanges headers)
          (request :: rest.1, rest.2)

/-- `timeout_seconds or the limit`, at most the limit. -/
def totalTimeout (timeout : Option ℚ) : ℚ :=
  min (if timeout = some 0 then client.limits.timeoutSeconds
    else timeout.getD client.limits.timeoutSeconds) client.limits.timeoutSeconds

/-- `SafeHttpClient.stream`, up to the response that it yields. -/
def stream (world : HttpWorld) (url : Text) (headers : Headers) (profile : MediaRequestProfile)
    (timeout : Option ℚ) : List HopRequest × Except NetworkError (HttpResponse × ValidatedTarget) :=
  match canonicalRuntimeUrl client.tables client.limits.maxUrlChars url with
  | .error e => ([], .error e)
  | .ok current =>
    match requestHeaders client.tables profile headers with
    | .error e => ([], .error e)
    | .ok headers =>
      client.hops world (client.totalTimeout timeout) (client.limits.maxRedirects + 1) 0 current []
        headers

end SafeHttpClient

end MediaSync.Network
