import Mathlib.Data.Rat.Floor
import MediaSync.Foundation.Transaction

/-!
# Operator authentication

One operator, one browser session. A login with the right credential replaces
the session and forgets the failures before it; every call compares digests and
drops the session first when its time has come. The state changes inside one
lock, so a call is one step.
-/

namespace MediaSync.Security

open Transaction

abbrev Octets := List UInt8

/-- `str.encode("utf-8")`. -/
def encode (value : String) : Octets := value.toByteArray.data.toList

/-- The prefixes that keep the digests apart. -/
inductive Domain where
  | browserCredential | bearerCredential | sessionCookie | sessionCsrf
  deriving DecidableEq, Repr

/-- What the runtime takes from `hashlib`, `base64` and the tables of Unicode. -/
structure AuthHost (δ : Type) where
  digest : Domain → Octets → δ
  newOpaqueToken : Domain → Octets → String
  isOther : Char → Bool

/-- The settings, as the constructor checks them. -/
structure AuthSettings where
  sessionTtlSeconds : Nat
  failureLimit : Nat
  failureWindowSeconds : Nat
  ttl_range : 60 ≤ sessionTtlSeconds ∧ sessionTtlSeconds ≤ 28800
  limit_pos : 1 ≤ failureLimit
  window_pos : 1 ≤ failureWindowSeconds

def minOperatorSecretBytes : Nat := 16
def maxOperatorSecretBytes : Nat := 1024

def dummyDigest : Octets :=
  [215, 219, 201, 78, 166, 136, 231, 29, 181, 164, 168, 107, 54, 123, 206, 130, 118, 83, 49, 102,
    250, 252, 119, 101, 59, 191, 147, 120, 41, 163, 40, 237]

/-- `_bounded_ascii` on a text. -/
def isBoundedAscii (value : String) (maxBytes : Nat) : Bool :=
  value ≠ "" && value.length ≤ maxBytes &&
    value.toList.all (fun c => 0x20 ≤ c.toNat && c.toNat < 0x7F)

/-- `_BEARER_TOKEN`. -/
def isBearerText (value : List Char) : Bool :=
  let body := value.takeWhile (fun c => c.isAlphanum || c ∈ ['-', '.', '_', '~', '+', '/'])
  let padding := value.drop body.length
  !body.isEmpty && padding.length ≤ 2 && padding.all (· = '=')

/-- `_OPAQUE_TOKEN`. -/
def isOpaque (value : String) : Bool :=
  value.length = 43 && value.toList.all (fun c => c.isAlphanum || c = '_' || c = '-')

/-- `_candidate_bytes`; `none` is a value that is not a text. -/
def candidateBytes (value : Option String) (bearer isToken : Bool) : Octets :=
  match value with
  | none => dummyDigest
  | some text =>
    if text.length > maxOperatorSecretBytes ∨ encode text = [] ∨
        (encode text).length > maxOperatorSecretBytes then dummyDigest
    else if bearer && !(isBoundedAscii text maxOperatorSecretBytes && isBearerText text.toList)
    then dummyDigest
    else if isToken && !isOpaque text then dummyDigest
    else encode text

section

variable {δ : Type} (host : AuthHost δ)

/-- `_secret_bytes` accepts the secret. -/
def isSecret (secret : String) (bearer : Bool) : Bool :=
  minOperatorSecretBytes ≤ (encode secret).length &&
    (encode secret).length ≤ maxOperatorSecretBytes && !secret.toList.any host.isOther &&
    4 ≤ secret.toList.dedup.length &&
    (!bearer || (isBoundedAscii secret maxOperatorSecretBytes && isBearerText secret.toList))

/-- `validate_operator_secrets`; equal digests are equal secrets. -/
def validOperatorSecrets (browser : String) (bearer : Option String) : Bool :=
  isSecret host browser false && bearer.all (fun b => isSecret host b true && b ≠ browser)

end

/-- `_OperatorSessionState`. -/
structure OperatorSession (δ : Type) where
  cookieDigest : δ
  csrfToken : String
  csrfDigest : δ
  expiresAt : ℚ
  deriving DecidableEq

structure AuthState (δ : Type) where
  browserDigest : δ
  bearerDigest : Option δ
  session : Option (OperatorSession δ)
  failures : List ℚ
  deriving DecidableEq

/-- `IssuedOperatorSession`. -/
structure IssuedSession where
  cookieValue : String
  csrfToken : String
  maxAgeSeconds : Nat
  deriving DecidableEq

/-- `OperatorSessionView`. -/
structure SessionView where
  csrfToken : String
  expiresInSeconds : Int
  deriving DecidableEq

/-- `OperatorLoginRejected`, and the error of a configuration. -/
inductive AuthError where
  | loginRateLimited (retryAfterSeconds : Int)
  | loginFailed
  | configurationInvalid
  deriving DecidableEq

inductive AuthMethod where
  | browser | bearer
  deriving DecidableEq, Repr

namespace FailureLimiter

variable (settings : AuthSettings)

def prune (now : ℚ) (failures : List ℚ) : List ℚ :=
  failures.dropWhile (· ≤ now - settings.failureWindowSeconds)

/-- `retry_after` on failures that are pruned. -/
def retryAfter (now : ℚ) (failures : List ℚ) : Option Int :=
  if failures.length < settings.failureLimit then none
  else failures.head?.map (fun first => max 1 ⌈first + settings.failureWindowSeconds - now⌉)

/-- `record_failure` on failures that are pruned. -/
def recordFailure (now : ℚ) (failures : List ℚ) : List ℚ :=
  if failures.length < settings.failureLimit then failures ++ [now] else failures

end FailureLimiter

namespace OperatorAuthRuntime

open FailureLimiter

variable {δ : Type}

abbrev AuthTx (δ : Type) := Tx (AuthState δ) AuthError

/-- The constructor. -/
def initial (host : AuthHost δ) (browser : String) (bearer : Option String) : AuthState δ where
  browserDigest := host.digest .browserCredential (encode browser)
  bearerDigest := bearer.map (fun b => host.digest .bearerCredential (encode b))
  session := none
  failures := []

/-- `_expire_locked`. -/
def expire (now : ℚ) (s : AuthState δ) : AuthState δ :=
  match s.session with
  | none => s
  | some x => if now < x.expiresAt then s else { s with session := none }

section

variable [DecidableEq δ] (host : AuthHost δ) (settings : AuthSettings)

/-- The session that a login issues. -/
def openSession (now : ℚ) (cookie csrf : String) : OperatorSession δ where
  cookieDigest := host.digest .sessionCookie (encode cookie)
  csrfToken := csrf
  csrfDigest := host.digest .sessionCsrf (encode csrf)
  expiresAt := now + settings.sessionTtlSeconds

/-- `login`; the two texts of random bytes are drawn for the cookie and the token. -/
def login (submitted : Option String) (cookieBytes csrfBytes : Octets) (now : ℚ) :
    AuthTx δ IssuedSession := do
  let digest := host.digest .browserCredential (candidateBytes submitted false false)
  Tx.modify (fun s => { s with failures := prune settings now s.failures })
  let s ← Tx.read (fun s : AuthState δ => s)
  match retryAfter settings now s.failures with
  | some seconds => Tx.throw (.loginRateLimited seconds)
  | none =>
    if digest = s.browserDigest then do
      let cookie := host.newOpaqueToken .sessionCookie cookieBytes
      let csrf := host.newOpaqueToken .sessionCsrf csrfBytes
      Tx.modify (fun s => { s with
        session := some (openSession host settings now cookie csrf), failures := [] })
      pure ⟨cookie, csrf, settings.sessionTtlSeconds⟩
    else do
      Tx.modify (fun s => { s with failures := recordFailure settings now s.failures })
      Tx.throw .loginFailed

def sessionDigest (cookieValue : Option String) : δ :=
  host.digest .sessionCookie (candidateBytes cookieValue false true)

def session (cookieValue : Option String) (now : ℚ) : AuthTx δ (Option SessionView) := do
  Tx.modify (expire now)
  Tx.read (fun s => (s.session.filter (fun x => sessionDigest host cookieValue = x.cookieDigest)).map
    (fun x => ⟨x.csrfToken, max 1 ⌈x.expiresAt - now⌉⟩))

def authenticateBearer (submitted : Option String) : AuthTx δ Bool :=
  Tx.read (fun s => s.bearerDigest.any
    (fun d => host.digest .bearerCredential (candidateBytes submitted true false) = d))

def verifyCookieCsrf (cookieValue csrfToken : Option String) (now : ℚ) : AuthTx δ Bool := do
  Tx.modify (expire now)
  Tx.read (fun s => s.session.any (fun x => sessionDigest host cookieValue = x.cookieDigest &&
    host.digest .sessionCsrf (candidateBytes csrfToken false true) = x.csrfDigest))

def logout (cookieValue : Option String) (now : ℚ) : AuthTx δ Bool := do
  Tx.modify (expire now)
  let removed ← Tx.read (fun s : AuthState δ =>
    s.session.any (fun x => sessionDigest host cookieValue = x.cookieDigest))
  Tx.modify (fun s => if removed then { s with session := none } else s)
  pure removed

def rotateCredentials (browser : String) (bearer : Option String) : AuthTx δ Unit := do
  Tx.require (validOperatorSecrets host browser bearer) .configurationInvalid
  Tx.modify (fun _ => initial host browser bearer)

end

end OperatorAuthRuntime

end MediaSync.Security
