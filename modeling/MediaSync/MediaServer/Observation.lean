import MediaSync.Foundation.Posix
import MediaSync.Foundation.ProgramTraces
import MediaSync.MediaServer.Lookup
import MediaSync.Scheduler.Records

/-!
# Observing that a refresh took effect

An observation looks an author up, lets the server refresh its library once, and
polls until the author's item is there twice. Nothing that it asks is its own:
the resolver, the server, the operation's context and the two clocks answer as
they like, and the server calls back while it works. The observation is a
program of such calls; what the server does inside a scan is a conversation of
its turns with the two callbacks.

A reading of the monotonic clock is a double, and so are the sums and differences
of readings; a time stamp is a number of microseconds.
-/

namespace MediaSync.MediaServer

open Python
open Program (Prog)
open Scheduler (Platform)

def maxTimeout : Float := 120

def minPollInterval : Float := 2

/-- The same interval between two time stamps. -/
def minPollMicroseconds : Int := 2000000

/-- `MediaServerObservationLimits`; the two times are in seconds. -/
structure ObservationLimits where
  timeout : Float
  pollInterval : Float
  maxPages : Nat
  maxRows : Nat
  maxResponseBytes : Nat
  timeout_bounds : timeout.isFinite = true ∧ 0 < timeout ∧ timeout ≤ maxTimeout
  interval_bounds : pollInterval.isFinite = true ∧ minPollInterval ≤ pollInterval ∧
    pollInterval ≤ timeout
  positive : 1 ≤ maxPages ∧ 1 ≤ maxRows ∧ 1 ≤ maxResponseBytes
  capped : maxPages ≤ 128 ∧ maxRows ≤ 16384 ∧ maxResponseBytes ≤ 33554432

inductive Provider where
  | emby | jellyfin
  deriving DecidableEq, Repr

structure PassReservation where
  pages : Nat
  rows : Nat
  responseBytes : Nat

def passReservation : Provider → PassReservation
  | .emby => ⟨1, 2, 262144⟩
  | .jellyfin => ⟨32, 4096, 8388608⟩

/-- The passes for which there is room where each takes all that is reserved for it. -/
def ObservationLimits.maximumPasses (limits : ObservationLimits) (provider : Provider) : Nat :=
  min (limits.maxPages / (passReservation provider).pages)
    (min (limits.maxRows / (passReservation provider).rows)
      (limits.maxResponseBytes / (passReservation provider).responseBytes))

structure LookupBudget where
  passesStarted : Nat
  pages : Nat
  rows : Nat
  responseBytes : Nat
  deriving DecidableEq, Repr

namespace LookupBudget

def new : LookupBudget := ⟨0, 0, 0, 0⟩

/-- `start`, or `none` where the budget is exhausted. -/
def start (limits : ObservationLimits) (provider : Provider) (budget : LookupBudget) :
    Option LookupBudget :=
  if limits.maximumPasses provider ≤ budget.passesStarted then none
  else some { budget with passesStarted := budget.passesStarted + 1 }

/-- `finish`, or `none` where the budget is exhausted. -/
def finish (limits : ObservationLimits) (provider : Provider) (budget : LookupBudget)
    (result : ItemLookupResult) : Option LookupBudget :=
  let reservation := passReservation provider
  if reservation.pages < result.pageCount ∨ reservation.rows < result.inspectedItemCount ∨
      reservation.responseBytes < result.responseByteCount then none
  else
    let spent : LookupBudget := { budget with
      pages := budget.pages + result.pageCount
      rows := budget.rows + result.inspectedItemCount
      responseBytes := budget.responseBytes + result.responseByteCount }
    if limits.maxPages < spent.pages ∨ limits.maxRows < spent.rows ∨
        limits.maxResponseBytes < spent.responseBytes then none
    else some spent

end LookupBudget

inductive PathStyle where
  | posix | windows
  deriving DecidableEq, Repr

/-- `MediaServerPublicationTarget`. -/
structure PublicationTarget extends LookupTarget where
  authorId : String
  publicationJobId : String
  platform : Platform
  authorRelativeDirectory : String
  serverPathStyle : PathStyle
  publicationFingerprint : String
  selectorFingerprint : String
  managedFileCount : Nat
  deriving DecidableEq, Repr

/-- `MediaServerSafeSummary`, as far as an observation reads it. -/
structure SafeSummary where
  configured : Bool
  profileFingerprint : Option String
  provider : Option Provider
  libraryIdDigest : Option String
  deriving DecidableEq, Repr

/-- `MediaServerScanResult`. -/
structure ScanResult where
  provider : Provider
  serverVersion : String
  libraryIdDigest : String
  libraryPresent : Bool
  deriving DecidableEq, Repr

/-- What an observation saves: the accepted payload, or the observed one. -/
structure ObservationPayload where
  schemaVersion : Nat
  mode : String
  provider : Provider
  serverVersion : String
  profileFingerprint : String
  libraryIdDigest : String
  scanState : String
  publicationFingerprint : String
  selectorFingerprint : String
  baselineState : String
  observationState : String
  matchCount : Nat
  verificationCount : Nat
  acceptedAt : Int
  itemFingerprint : Option String
  observedAt : Option Int
  deriving DecidableEq, Repr

/-- The error codes of an outcome. -/
inductive OutcomeCode where
  | media (code : ErrorCode)
  | preconditionFailed
  | completionUnknown
  deriving DecidableEq, Repr

/-- The keys of `_ERROR_MESSAGES`. -/
def ErrorCode.text : ErrorCode → String
  | notConfigured => "media_server_not_configured"
  | operationsDisabled => "media_server_operations_disabled"
  | scanCancelled => "media_server_scan_cancelled"
  | secretUnavailable => "media_server_secret_unavailable"
  | dnsFailed => "media_server_dns_failed"
  | addressForbidden => "media_server_address_forbidden"
  | transport => "media_server_transport"
  | timeout => "media_server_timeout"
  | redirectForbidden => "media_server_redirect_forbidden"
  | authenticationFailed => "media_server_authentication_failed"
  | httpRetryable => "media_server_http_retryable"
  | httpTerminal => "media_server_http_terminal"
  | headerLimit => "media_server_header_limit"
  | bodyLimit => "media_server_body_limit"
  | responseInvalid => "media_server_response_invalid"
  | schemaInvalid => "media_server_schema_invalid"
  | providerMismatch => "media_server_provider_mismatch"
  | libraryNotFound => "media_server_library_not_found"
  | libraryAmbiguous => "media_server_library_ambiguous"
  | libraryPathMismatch => "media_server_library_path_mismatch"
  | targetedScanUnsupported => "media_server_targeted_scan_unsupported"
  | scanRejected => "media_server_scan_rejected"
  | scanAcceptanceUnknown => "media_server_scan_acceptance_unknown"
  | itemLookupAmbiguous => "media_server_item_lookup_ambiguous"
  | itemLookupIncomplete => "media_server_item_lookup_incomplete"
  | publicationNotReady => "media_server_publication_not_ready"
  | publicationChanged => "media_server_publication_changed"

def OutcomeCode.text : OutcomeCode → String
  | media code => code.text
  | preconditionFailed => "media_server_scan_observation_precondition_failed"
  | completionUnknown => "media_server_scan_completion_unknown"

def sensitiveCodeAtoms : List String :=
  ["authorization", "cookie", "credential", "password", "secret", "token", "workerid"]

def safeSensitiveErrorCodes : List String :=
  ["locator_secret_forbidden", "cookie_login_account_not_found", "cookie_login_conflict",
    "cookie_login_busy", "cookie_login_unavailable", "cookie_login_rejected",
    "cookie_login_verification_unavailable", "cookie_login_timed_out", "cookie_login_cancelled",
    "cookie_login_result_invalid", "cookie_login_cleanup_failed", "cookie_login_save_failed"]

/-- `_safe_error_code` returns for a stable code in which `worker_id` does not occur. -/
def isSafeErrorCode (code : String) : Bool :=
  let atoms := (Posix.splitBy (fun c => c = '.' || c = '_' || c = '-') code.toList).map String.ofList
  !atoms.any sensitiveCodeAtoms.contains || safeSensitiveErrorCodes.contains code

/-- One code of an outcome is refused. -/
theorem isSafeErrorCode_iff {code : OutcomeCode} :
    isSafeErrorCode code.text = true ↔ code ≠ .media .secretUnavailable := by
  cases code with
  | media code => cases code <;> decide +kernel
  | preconditionFailed => decide +kernel
  | completionUnknown => decide +kernel

/-- `OperationOutcome`, in the states that an observation returns. -/
inductive Outcome where
  | success (payload : ObservationPayload)
  | failed (code : OutcomeCode) (retryable : Bool) (payload : Option ObservationPayload)
  | cancelled
  deriving DecidableEq, Repr

def completionUnknown (accepted : ObservationPayload) : Outcome :=
  .failed .completionUnknown false (some accepted)

/-! ## Calls -/

/-- An exception: one with a code, or another. -/
inductive Raised where
  | media (e : MediaServerError)
  | other
  deriving DecidableEq, Repr

inductive ObservationPhase where
  | baselining | dispatching | accepted | observed
  deriving DecidableEq, Repr

/-- Who reads a cancellation flag: the service, or the server by a callback. -/
inductive Reader where
  | service | server
  deriving DecidableEq, Repr

/-- What a scan is given: its start, or what a callback returned. -/
inductive ScanGiven where
  | started
  | polled (answer : Except Raised Bool)
  | entered (approved : Bool)
  deriving Repr

/-- What a scan does next: it calls one of the callbacks, or ends. A value that is
no scan result is `none`. -/
inductive ScanTurn where
  | polls
  | enters
  | ends (result : Except Raised (Option ScanResult))
  deriving Repr

inductive ObservationCall where
  | profileFingerprint
  | safeSummary
  | phase (phase : ObservationPhase)
  | checkpoint (phase : ObservationPhase) (resultSummary : ObservationPayload)
  | progress (current : Nat)
  | cancelRequested (reader : Reader)
  | isSet (reader : Reader)
  | wait (timeout : Float)
  | monotonic
  | clock
  | resolve (authorId : String) (deadline : Float)
  | lookupItem (target : PublicationTarget) (deadline : Float)
  | scan (given : ScanGiven)

namespace ObservationCall

/-- What a call returns where it returns. A snapshot is whether it names a time of
cancellation; a value of another type than the call should return is `none`. A
reading is what `float` makes of it. -/
def Value : ObservationCall → Type
  | profileFingerprint => Option String
  | safeSummary => Option SafeSummary
  | phase _ => Bool
  | checkpoint _ _ => Bool
  | progress _ => Bool
  | cancelRequested _ => Bool
  | isSet _ => Bool
  | wait _ => Bool
  | monotonic => Option Float
  | clock => Option Int
  | resolve _ _ => Option PublicationTarget
  | lookupItem _ _ => Option ItemLookupResult
  | scan _ => ScanTurn

abbrev Reply (c : ObservationCall) : Type := Except Raised c.Value

end ObservationCall

/-- How a part of an observation ends early: the whole observation returns, an
exception is raised, or it has not come to an end in the rounds it was given. -/
inductive Halt where
  | returns (outcome : Outcome)
  | raised (e : Raised)
  | scanning
  | waiting
  | polling
  deriving DecidableEq, Repr

abbrev ObservationProg := Prog ObservationCall ObservationCall.Reply Halt

namespace Observation

def mediaError (code : ErrorCode) : Halt := .raised (.media ⟨code, false⟩)

def make (c : ObservationCall) : ObservationProg c.Value :=
  .call c fun reply => .done (reply.mapError .raised)

/-- The value, or an exception where there is none. -/
def orRaise {α : Type} (value : Option α) (h : Halt) : ObservationProg α :=
  .done (value.elim (.error h) .ok)

/-- `if stop: return outcome`. -/
def returnIf (stop : Bool) (outcome : Outcome) : ObservationProg Unit :=
  Prog.require (!stop) (.returns outcome)

/-- `except MediaServerError as error`. -/
def onMediaError {α : Type} (handler : MediaServerError → ObservationProg α) :
    Halt → ObservationProg α
  | .raised (.media e) => handler e
  | h => Prog.throw h

/-- `except MediaServerError: raise`, `except Exception: raise MediaServerError(code)`. -/
def codeOthers {α : Type} (code : ErrorCode) : Halt → ObservationProg α
  | .raised .other => Prog.throw (mediaError code)
  | h => Prog.throw h

/-- `except Exception as error`. -/
def onException {α : Type} (handler : Raised → ObservationProg α) : Halt → ObservationProg α
  | .raised e => handler e
  | h => Prog.throw h

def cancelRequested (reader : Reader) : ObservationProg Bool := do
  let requested : Bool ← make (.cancelRequested reader)
  if requested then pure true else make (.isSet reader)

/-- `_snapshot_cancelled(snapshot) or _cancel_requested(context)`. -/
def cancelledAfter (snapshot : Bool) : ObservationProg Bool :=
  if snapshot then pure true else cancelRequested .service

/-- `if _snapshot_cancelled(snapshot) or _cancel_requested(context): return outcome`. -/
def returnIfCancelled (snapshot : Bool) (outcome : Outcome) : ObservationProg Unit := do
  let cancelled ← cancelledAfter snapshot
  returnIf cancelled outcome

def time : ObservationProg Float := do
  let value : Option Float ← make .monotonic
  orRaise (value.filter Float.isFinite) (mediaError .itemLookupIncomplete)

def timestamp : ObservationProg Int := do
  let value ← make .clock
  orRaise value (mediaError .itemLookupIncomplete)

/-- `if self._time() >= deadline: return outcome`. -/
def returnIfLate (deadline : Float) (outcome : Outcome) : ObservationProg Unit := do
  let now ← time
  returnIf (deadline ≤ now) outcome

def timedOut : Outcome := .failed (.media .timeout) true none

/-- `return OperationOutcome.failed(code, retryable=retryable)`, which raises where the code is
refused. -/
def returnFailed {α : Type} (code : ErrorCode) (retryable : Bool) : ObservationProg α :=
  if isSafeErrorCode code.text then Prog.throw (.returns (.failed (.media code) retryable none))
  else Prog.throw (.raised .other)

def resolveTarget (authorId : String) (deadline : Float) : ObservationProg PublicationTarget := do
  let target ← (make (.resolve authorId deadline)).catching (codeOthers .publicationNotReady)
  orRaise target (mediaError .publicationNotReady)

def requireSameTarget (target : PublicationTarget) (deadline : Float) : ObservationProg Unit := do
  let resolved ← (resolveTarget target.authorId deadline).catching
    (onMediaError fun e => returnFailed e.code e.retryable)
  returnIf (resolved ≠ target) (.failed (.media .publicationChanged) false none)
  returnIfLate deadline timedOut

/-- `[0-9a-f]{64}`. -/
def isDigest (value : String) : Bool :=
  value.toList.length = 64 && value.toList.all (fun c => c.isDigit || ('a' ≤ c && c ≤ 'f'))

structure ProfileIdentity where
  fingerprint : String
  provider : Provider
  libraryIdDigest : String
  deriving DecidableEq, Repr

/-- The checks of `_profile_identity`. -/
def checkProfile (fingerprint : Option String) (summary : Option SafeSummary) :
    Except Halt ProfileIdentity :=
  match fingerprint, summary with
  | some fingerprint, some summary =>
    if summary.configured then
      match summary.provider, summary.libraryIdDigest with
      | some provider, some libraryIdDigest =>
        if isDigest fingerprint && summary.profileFingerprint = some fingerprint &&
            isDigest libraryIdDigest then .ok ⟨fingerprint, provider, libraryIdDigest⟩
        else .error (mediaError .providerMismatch)
      | _, _ => .error (mediaError .providerMismatch)
    else .error (mediaError .notConfigured)
  | _, _ => .error (mediaError .notConfigured)

def profileIdentity : ObservationProg ProfileIdentity := do
  let fingerprint ← make .profileFingerprint
  let summary ← make .safeSummary
  Prog.ofExcept (checkProfile fingerprint summary)

/-- `_bounded_item_id`. -/
def isBoundedItemId (value : String) : Bool :=
  1 ≤ value.length && value.length ≤ 128 && isPlain value

end Observation

/-- `MediaServerObservationService`. `digestOf` is the digest of a list of texts, each with its
length, after a header of its own. -/
structure ObservationService where
  limits : ObservationLimits
  digestOf : List String → String

namespace ObservationService

open Observation

variable (service : ObservationService)

/-- `media_server_item_fingerprint`, or `none` where it raises. -/
def itemFingerprint (profileFingerprint publicationFingerprint selectorFingerprint itemId : String) :
    Option String :=
  if isDigest profileFingerprint && isDigest publicationFingerprint &&
      isDigest selectorFingerprint && isBoundedItemId itemId then
    some (service.digestOf
      [profileFingerprint, publicationFingerprint, selectorFingerprint, itemId])
  else none

/-- `_lookup_once`: the budget after it and the result. -/
def lookupOnce (target : PublicationTarget) (provider : Provider) (budget : LookupBudget)
    (deadline : Float) : ObservationProg (LookupBudget × ItemLookupResult) := do
  let started ← orRaise (budget.start service.limits provider) (mediaError .itemLookupIncomplete)
  let reply ← (make (.lookupItem target deadline)).catching (codeOthers .itemLookupIncomplete)
  let result ← orRaise reply (mediaError .itemLookupIncomplete)
  let spent ← orRaise (started.finish service.limits provider result)
    (mediaError .itemLookupIncomplete)
  pure (spent, result)

def preDispatchLookup (target : PublicationTarget) (provider : Provider) (budget : LookupBudget)
    (deadline : Float) : ObservationProg (LookupBudget × ItemLookupResult) := do
  returnIfLate deadline timedOut
  let found ← (service.lookupOnce target provider budget deadline).catching
    (onMediaError fun e => returnFailed e.code e.retryable)
  returnIfLate deadline timedOut
  pure found

def preconditionFailed : Outcome := .failed .preconditionFailed false none

/-- The lookups before the dispatch. -/
def baseline (target : PublicationTarget) (provider : Provider) (deadline : Float) :
    ObservationProg LookupBudget := do
  let (budget, first) ← service.preDispatchLookup target provider .new deadline
  returnIf (first.lookupState = .matched) preconditionFailed
  match provider with
  | .emby => pure budget
  | .jellyfin => do
    returnIfCancelled false .cancelled
    returnIfLate deadline timedOut
    let (budget, second) ← service.preDispatchLookup target provider budget deadline
    returnIf (second.lookupState = .matched) preconditionFailed
    returnIf (second.itemIdSetFingerprint ≠ first.itemIdSetFingerprint ||
        second.inspectedItemCount ≠ first.inspectedItemCount)
      (.failed (.media .itemLookupIncomplete) false none)
    pure budget

structure TransportFence where
  calls : Nat
  approved : Bool
  failure : Option (ErrorCode × Bool)
  exception : Option Raised
  deriving DecidableEq, Repr

namespace TransportFence

def new : TransportFence := ⟨0, false, none, none⟩

def failing (fence : TransportFence) (code : ErrorCode) (retryable : Bool) : TransportFence :=
  { fence with failure := some (code, retryable) }

end TransportFence

def rejectBeforeTransportEntry (fence : TransportFence) (code : ErrorCode) (retryable : Bool) :
    ObservationProg (TransportFence × Bool) :=
  Prog.catching (do
    let snapshot ← make (.phase .baselining)
    let cancelled ← cancelledAfter snapshot
    if cancelled then pure (fence.failing .scanCancelled false, false)
    else pure (fence.failing code retryable, false))
  (onException fun e => pure ({ fence.failing code retryable with exception := some e }, false))

/-- The checks of `before_transport_entry`, in its `try`. -/
def entryChecks (target : PublicationTarget) (deadline : Float) (fence : TransportFence) :
    ObservationProg (TransportFence × Bool) := do
  let snapshot ← make (.phase .dispatching)
  let cancelled ← cancelledAfter snapshot
  if cancelled then pure (fence.failing .scanCancelled false, false)
  else do
    let now ← time
    if deadline ≤ now then rejectBeforeTransportEntry fence .timeout true
    else do
      let resolved ← resolveTarget target.authorId deadline
      if resolved ≠ target then rejectBeforeTransportEntry fence .publicationChanged false
      else do
        let cancelled ← cancelledAfter false
        if cancelled then pure (fence.failing .scanCancelled false, false)
        else do
          let now ← time
          if deadline ≤ now then rejectBeforeTransportEntry fence .timeout true
          else pure ({ fence with approved := true }, true)

/-- The handlers of `before_transport_entry`. -/
def entryFailed (fence : TransportFence) : Halt → ObservationProg (TransportFence × Bool)
  | .raised (.media e) => rejectBeforeTransportEntry fence e.code e.retryable
  | .raised .other =>
    Prog.catching (do
      let _ ← make (.phase .baselining)
      pure ({ fence with exception := some .other }, false))
    (onException fun _ => pure ({ fence with exception := some .other }, false))
  | h => Prog.throw h

def beforeTransportEntry (target : PublicationTarget) (deadline : Float) (fence : TransportFence) :
    ObservationProg (TransportFence × Bool) :=
  let counted := { fence with calls := fence.calls + 1 }
  if counted.calls ≠ 1 then pure (counted.failing .scanAcceptanceUnknown false, false)
  else (entryChecks target deadline counted).catching (entryFailed counted)

/-- The callback by which the server asks for a cancellation; what it raises, the server gets. -/
def pollCancel : ObservationProg ScanGiven :=
  Prog.catching (do
    let cancelled ← cancelRequested .server
    pure (.polled (.ok cancelled)))
  (onException fun e => pure (.polled (.error e)))

/-- The server at work on a scan, for so many turns. -/
def scanTurns (target : PublicationTarget) (deadline : Float) :
    Nat → ScanGiven → TransportFence →
      ObservationProg (TransportFence × Except Raised (Option ScanResult))
  | 0, _, _ => Prog.throw .scanning
  | turns + 1, given, fence => do
    let turn ← make (.scan given)
    match turn with
    | .polls => do
      let given ← pollCancel
      scanTurns target deadline turns given fence
    | .enters => do
      let (fence, approved) ← beforeTransportEntry target deadline fence
      scanTurns target deadline turns (.entered approved) fence
    | .ends result => pure (fence, result)

/-- What follows a scan that raised an error with a code. -/
def scanFailed {α : Type} (fence : TransportFence) (e : MediaServerError) : ObservationProg α :=
  match fence.exception, fence.failure with
  | some e, _ => Prog.throw (.raised e)
  | none, some (code, retryable) =>
    if code = .scanCancelled then Prog.throw (.returns .cancelled)
    else returnFailed code retryable
  | none, none =>
    if e.code = .scanCancelled then Prog.throw (.returns .cancelled)
    else returnFailed e.code e.retryable

/-- The scan of an identity, which the fence let in once. -/
def acceptedScan (profile : ProfileIdentity) (fence : TransportFence) (scan : Option ScanResult) :
    Option ScanResult :=
  scan.filter fun scan => fence.calls = 1 && fence.approved && scan.provider = profile.provider &&
    scan.libraryIdDigest = profile.libraryIdDigest

/-- The dispatch: a scan that was accepted. -/
def dispatch (target : PublicationTarget) (profile : ProfileIdentity) (deadline : Float)
    (turns : Nat) : ObservationProg ScanResult := do
  let (fence, result) ← scanTurns target deadline turns .started .new
  match result with
  | .error (.media e) => scanFailed fence e
  | .error .other => Prog.throw (.raised .other)
  | .ok scan =>
    orRaise (acceptedScan profile fence scan)
      (.returns (.failed (.media .scanAcceptanceUnknown) false none))

def acceptedPayload (target : PublicationTarget) (scan : ScanResult) (profileFingerprint : String)
    (acceptedAt : Int) : ObservationPayload where
  schemaVersion := 2
  mode := "post_refresh_item_observation"
  provider := scan.provider
  serverVersion := scan.serverVersion
  profileFingerprint := profileFingerprint
  libraryIdDigest := scan.libraryIdDigest
  scanState := "accepted"
  publicationFingerprint := target.publicationFingerprint
  selectorFingerprint := target.selectorFingerprint
  baselineState := "not_found"
  observationState := "pending"
  matchCount := 0
  verificationCount := 0
  acceptedAt := acceptedAt
  itemFingerprint := none
  observedAt := none

/-- `min(a, b)`. -/
def earlier (a b : Float) : Float := if b < a then b else a

/-- `_wait_until`, for so many rounds. -/
def waitUntil (notBefore deadline : Float) : Nat → ObservationProg Bool
  | 0 => Prog.throw .waiting
  | rounds + 1 => do
    let cancelled ← cancelledAfter false
    if cancelled then pure false
    else do
      let now ← time
      if deadline ≤ now then pure false
      else if notBefore ≤ now then pure true
      else do
        let signalled : Bool ← make (.wait ((earlier notBefore deadline) - now))
        if signalled then pure false else waitUntil notBefore deadline rounds

/-- The observed payload of an item. -/
def observedPayload (accepted : ObservationPayload) (itemFingerprint : String) (observedAt : Int) :
    ObservationPayload :=
  { accepted with
    observationState := "observed"
    matchCount := 1
    verificationCount := 2
    itemFingerprint := some itemFingerprint
    observedAt := some observedAt }

/-- The end of `_poll_observation`, once an item has been seen twice. -/
def confirmObservation (target : PublicationTarget) (accepted : ObservationPayload)
    (deadline : Float) (itemId : String) : ObservationProg Outcome := do
  let unknown := completionUnknown accepted
  returnIfCancelled false unknown
  let resolved ← resolveTarget target.authorId deadline
  returnIf (resolved ≠ target) unknown
  returnIfCancelled false unknown
  returnIfLate deadline unknown
  let itemFingerprint ← orRaise (service.itemFingerprint accepted.profileFingerprint
    target.publicationFingerprint target.selectorFingerprint itemId) (.raised .other)
  let observedAt ← timestamp
  returnIf (observedAt - accepted.acceptedAt < minPollMicroseconds) unknown
  let observed := observedPayload accepted itemFingerprint observedAt
  let snapshot ← make (.progress 2)
  returnIfCancelled snapshot unknown
  let _ ← (make (.checkpoint .observed observed)).catching
    (onException fun _ => Prog.throw (.returns unknown))
  pure (.success observed)

/-- The loop of `_poll_observation`, for so many passes. -/
def pollPasses (target : PublicationTarget) (provider : Provider) (accepted : ObservationPayload)
    (deadline : Float) (rounds : Nat) :
    Nat → Option String → Float → LookupBudget → ObservationProg Outcome
  | 0, _, _, _ => Prog.throw .polling
  | passes + 1, firstItemId, nextPollAt, budget => do
    let unknown := completionUnknown accepted
    let ready ← waitUntil nextPollAt deadline rounds
    returnIf (!ready) unknown
    let (budget, result) ← service.lookupOnce target provider budget deadline
    let completedAt ← time
    returnIf (deadline ≤ completedAt) unknown
    match result.lookupState with
    | .notFound => do
      returnIf firstItemId.isSome unknown
      pollPasses target provider accepted deadline rounds passes none
        (completedAt + service.limits.pollInterval) budget
    | .matched => do
      let itemId ← orRaise result.itemId (.raised .other)
      match firstItemId with
      | none => do
        let snapshot ← make (.progress 1)
        returnIfCancelled snapshot unknown
        pollPasses target provider accepted deadline rounds passes (some itemId)
          (completedAt + service.limits.pollInterval) budget
      | some first => do
        returnIf (itemId ≠ first) unknown
        service.confirmObservation target accepted deadline first

/-- `_poll_observation`. There are no more passes than the budget has room for, so that one
more is never begun. -/
def pollObservation (target : PublicationTarget) (provider : Provider)
    (accepted : ObservationPayload) (deadline : Float) (rounds : Nat) (budget : LookupBudget) :
    ObservationProg Outcome :=
  Prog.catching (do
    let unknown := completionUnknown accepted
    let snapshot ← make (.progress 0)
    returnIfCancelled snapshot unknown
    let now ← time
    service.pollPasses target provider accepted deadline rounds
      (service.limits.maximumPasses provider + 1) none (now + service.limits.pollInterval) budget)
  (onException fun _ => pure (completionUnknown accepted))

/-- The accepted payload is saved, and the polls begin. -/
def saveAccepted (target : PublicationTarget) (provider : Provider) (deadline : Float)
    (rounds : Nat) (budget : LookupBudget) (accepted : ObservationPayload) :
    ObservationProg Outcome := do
  let unknown := completionUnknown accepted
  let snapshot ← (make (.checkpoint .accepted accepted)).catching
    (onException fun _ => Prog.throw (.returns unknown))
  returnIfCancelled snapshot unknown
  returnIfLate deadline unknown
  service.pollObservation target provider accepted deadline rounds budget

/-- What follows an accepted scan. -/
def acceptScan (target : PublicationTarget) (profile : ProfileIdentity) (deadline : Float)
    (rounds : Nat) (budget : LookupBudget) (scan : ScanResult) : ObservationProg Outcome := do
  let acceptedAt ← timestamp
  service.saveAccepted target profile.provider deadline rounds budget
    (acceptedPayload target scan profile.fingerprint acceptedAt)

/-- The observation under the identity of a profile. -/
def observeProfile (target : PublicationTarget) (turns rounds : Nat) (deadline : Float)
    (profile : ProfileIdentity) : ObservationProg Outcome := do
  let snapshot ← make (.phase .baselining)
  returnIfCancelled snapshot .cancelled
  requireSameTarget target deadline
  returnIfCancelled false .cancelled
  let budget ← service.baseline target profile.provider deadline
  let scan ← dispatch target profile deadline turns
  service.acceptScan target profile deadline rounds budget scan

/-- `observe_author`, with its early returns as halts. -/
def observeSteps (target : PublicationTarget) (turns rounds : Nat) : ObservationProg Outcome := do
  let started ← time
  let profile ← profileIdentity
  service.observeProfile target turns rounds (started + service.limits.timeout) profile

/-- A `return` is the result. -/
def settle : Halt → ObservationProg Outcome
  | .returns outcome => pure outcome
  | h => Prog.throw h

/-- `observe_author`. The server takes at most `turns` turns in a scan, and no wait more
than `rounds` rounds; where that is not enough, the program halts unfinished. -/
def observeAuthor (target : PublicationTarget) (turns rounds : Nat) : ObservationProg Outcome :=
  (service.observeSteps target turns rounds).catching settle

end ObservationService

end MediaSync.MediaServer
