import Mathlib.Data.Rat.Floor
import MediaSync.Accounts.LoginSessions
import MediaSync.Foundation.ProgramRuns
import MediaSync.Scheduler.Records

/-!
# One synchronization

`SyncService.run` asks an adapter for the pages of a creator and hands their
content to a repository. Everything it does outside itself is a call: of the
adapter, of the repository, or of one of the two hooks that a scheduler passes.
A hook guards a write, the other commits before an adapter is awaited.

The host answers the calls. Its adapter answers anything at any time; its
repository writes whole rows or raises, and a run's status moves along
`RUN_TRANSITIONS` only. The guard raises nothing but a lost lease.
-/

namespace MediaSync.Sync

open Python Program
open Accounts (AuthStatus)
open Scheduler (Platform RunStatus)

/-- `ContentSnapshot`: what the service and the identity of a row need of it. -/
structure ContentSnapshot where
  platform : Platform
  remoteType : String
  remoteId : String
  authorRemoteId : String
  publishedAt : Option Time
  deriving DecidableEq, Repr

/-- The identity of a content row. -/
def ContentSnapshot.identity (c : ContentSnapshot) : Platform × String × String :=
  (c.platform, c.remoteType, c.remoteId)

structure AssetSnapshot where
  platform : Platform
  contentRemoteId : String
  deriving DecidableEq, Repr

structure AuthorSnapshot where
  platform : Platform
  remoteId : String
  deriving DecidableEq, Repr

/-- `Page`: it has a next cursor exactly where it has more. -/
structure Page where
  items : List ContentSnapshot
  nextCursor : Option String
  deriving DecidableEq, Repr

def Page.hasMore (p : Page) : Bool := p.nextCursor.isSome

/-- `retry_after` of an adapter error: a float that is no number below zero. -/
inductive RetryAfter where
  | seconds (value : ℚ)
  | notFinite
  deriving DecidableEq, Repr

structure AdapterError where
  code : String
  retryable : Bool
  requiresAuth : Bool
  requiresInteraction : Bool
  retryAfter : Option RetryAfter
  deriving DecidableEq, Repr

/-- What a call may raise. A cancellation is no `Exception`. -/
inductive SyncError where
  | leaseLost
  | contentOwnershipConflict
  | adapter (error : AdapterError)
  | domain (code : String)
  | other
  | cancelled
  deriving DecidableEq, Repr

structure Capabilities where
  platform : Platform
  supportsLogin : Bool
  deriving DecidableEq, Repr

/-- `SyncRequest`: an instance that `__post_init__` accepts. -/
structure SyncRequest where
  subscriptionId : String
  accountPlatform : Platform
  creatorReference : String
  cursor : Option String
  maxItems : Nat
  pageSize : Nat
  maxPages : Nat
  maxItems_range : 1 ≤ maxItems ∧ maxItems ≤ 1000
  pageSize_range : 1 ≤ pageSize ∧ pageSize ≤ 1000
  maxPages_range : 1 ≤ maxPages ∧ maxPages ≤ 10000

structure SyncResult where
  runId : String
  status : RunStatus
  processedCount : Nat := 0
  assetCount : Nat := 0
  finalCursor : Option String := none
  watermark : Option Time := none
  errorCode : Option String := none
  retryAfterSeconds : Option ℚ := none
  deriving DecidableEq, Repr

structure RunManifest where
  adapter : String
  platform : Platform
  maxItems : Nat
  pageSize : Nat
  deriving DecidableEq, Repr

inductive SyncCall where
  | guardPersistence
  | beforeExternalIo
  | capabilities
  | ensureSession
  | resolveAuthor (creatorReference : String)
  | fetchAuthorPage (author : AuthorSnapshot) (cursor : Option String) (limit : Nat)
  | resolveAssets (content : ContentSnapshot)
  | createRun (subscriptionId : String) (manifest : RunManifest)
  | transitionRun (runId : String) (target : RunStatus) (errorCode errorMessage : Option String)
  | upsertAuthor (author : AuthorSnapshot)
  | upsertContentWithAssets (content : ContentSnapshot) (assets : List AssetSnapshot)
  | advanceCursor (subscriptionId : String) (cursor : Option String) (watermark : Option Time)

/-- What a call returns. -/
def SyncCall.Value : SyncCall → Type
  | .capabilities => Capabilities
  | .ensureSession => AuthStatus
  | .resolveAuthor _ => AuthorSnapshot
  | .fetchAuthorPage _ _ _ => Page
  | .resolveAssets _ => List AssetSnapshot
  | .createRun _ _ => String
  | _ => Unit

abbrev SyncCall.Reply (c : SyncCall) : Type := Except SyncError c.Value

abbrev Syncing := Prog SyncCall SyncCall.Reply SyncError

/-- A call that raises what its reply says. -/
def call (c : SyncCall) : Syncing c.Value := do
  let reply ← Prog.ask c
  Prog.ofExcept reply

def adapterErrorCodes : List String :=
  ["auth_expired", "content_not_found", "interactive_challenge_required", "permanent_upstream",
    "rate_limited", "temporary_upstream", "upstream_schema_changed"]

def domainErrorCodes : List String :=
  ["domain_validation", "entity_not_found", "invalid_state_transition", "unsupported_capability"]

def maxRetryAfterSeconds : ℚ := 604800

def closedErrorCode (value : String) (allowed : List String) : String :=
  if value ∈ allowed then value else "unexpected_failure"

def closedAdapterErrorCode (error : AdapterError) : String :=
  if error.requiresInteraction then "interactive_challenge_required"
  else if error.requiresAuth then "auth_expired"
  else closedErrorCode error.code adapterErrorCodes

def closedRetryAfter : Option RetryAfter → Option ℚ
  | some (.seconds value) => if 0 ≤ value ∧ value ≤ maxRetryAfterSeconds then some value else none
  | _ => none

def validationError : SyncError := .domain "domain_validation"

structure SyncService where
  adapterName : String

/-- The variables of the page loop. -/
structure PageState where
  processedIds : List String
  visitedCursors : List String
  currentCursor : Option String
  finalCursor : Option String
  watermark : Option Time
  assetCount : Nat
  deriving DecidableEq, Repr

/-- The watermark after an item. -/
def raisedWatermark (watermark published : Option Time) : Option Time :=
  match published, watermark with
  | some time, none => some time
  | some time, some mark => if mark < time then some time else some mark
  | none, mark => mark

/-- The items of one page. -/
def ingestItems (request : SyncRequest) (author : AuthorSnapshot) :
    List ContentSnapshot → PageState → Syncing PageState
  | [], s => pure s
  | content :: rest, s => do
    if content.remoteId ∈ s.processedIds then ingestItems request author rest s
    else
      Prog.require (content.platform = author.platform ∧ content.authorRemoteId = author.remoteId)
        validationError
      call .beforeExternalIo
      let assets : List AssetSnapshot ← call (.resolveAssets content)
      Prog.require (assets.all fun asset =>
        asset.contentRemoteId = content.remoteId ∧ asset.platform = content.platform)
        validationError
      call .guardPersistence
      call (.upsertContentWithAssets content assets)
      let s := { s with
        processedIds := s.processedIds ++ [content.remoteId]
        assetCount := s.assetCount + assets.length
        watermark := raisedWatermark s.watermark content.publishedAt }
      if request.maxItems ≤ s.processedIds.length then pure s
      else ingestItems request author rest s

/-- The page loop with the pages that are left; it ends by a `break` or raises. -/
def ingestPages (request : SyncRequest) (author : AuthorSnapshot) :
    Nat → PageState → Syncing PageState
  | 0, _ => Prog.throw validationError
  | n + 1, s => do
    if request.maxItems ≤ s.processedIds.length then pure s
    else
      Prog.require (s.currentCursor.all (· ∉ s.visitedCursors)) validationError
      let s := { s with visitedCursors := s.visitedCursors ++ s.currentCursor.toList }
      let requestedLimit := min request.pageSize (request.maxItems - s.processedIds.length)
      call .beforeExternalIo
      let page : Page ← call (.fetchAuthorPage author s.currentCursor requestedLimit)
      Prog.require (page.items.length ≤ requestedLimit) validationError
      Prog.require (page.nextCursor.all (· ∉ s.visitedCursors)) validationError
      let s ← ingestItems request author page.items s
      let s := { s with finalCursor := page.nextCursor }
      if !page.hasMore || request.maxItems ≤ s.processedIds.length then pure s
      else ingestPages request author n { s with currentCursor := page.nextCursor }

def startState (request : SyncRequest) : PageState :=
  ⟨[], [], request.cursor, request.cursor, none, 0⟩

/-- The session of the adapter: a result where the run ends there. -/
def ensureSession (runId : String) : Syncing (Option SyncResult) := do
  call .beforeExternalIo
  let status : AuthStatus ← call .ensureSession
  if status = AuthStatus.required ∨ status = AuthStatus.authenticating then
    call .guardPersistence
    call (.transitionRun runId .awaitingAuth none none)
    pure (some { runId := runId, status := .awaitingAuth })
  else if status ≠ AuthStatus.authenticated then
    call .guardPersistence
    call (.transitionRun runId .failedRetryable (some "authentication_unavailable")
      (some "The adapter could not establish an authenticated session."))
    pure (some { runId := runId, status := .failedRetryable,
                 errorCode := some "authentication_unavailable" })
  else pure none

/-- The author, stored. -/
def resolveAuthor (request : SyncRequest) (runId : String) : Syncing AuthorSnapshot := do
  call .guardPersistence
  call (.transitionRun runId .running none none)
  call .beforeExternalIo
  let author : AuthorSnapshot ← call (.resolveAuthor request.creatorReference)
  Prog.require (author.platform = request.accountPlatform) validationError
  call .guardPersistence
  call (.upsertAuthor author)
  call .guardPersistence
  call (.transitionRun runId .ingesting none none)
  pure author

/-- The end of a run whose pages are ingested. -/
def publish (request : SyncRequest) (runId : String) (s : PageState) : Syncing SyncResult := do
  call .guardPersistence
  call (.advanceCursor request.subscriptionId s.finalCursor s.watermark)
  call .guardPersistence
  call (.transitionRun runId .succeeded none none)
  pure { runId := runId, status := .succeeded, processedCount := s.processedIds.length,
         assetCount := s.assetCount, finalCursor := s.finalCursor, watermark := s.watermark }

/-- The body of the `try`. -/
def synchronize (request : SyncRequest) (runId : String) : Syncing SyncResult := do
  match ← ensureSession runId with
  | some result => pure result
  | none => do
    let author ← resolveAuthor request runId
    let s ← ingestPages request author request.maxPages (startState request)
    publish request runId s

/-- A run that ends with a classified failure. -/
def fail (runId : String) (target : RunStatus) (errorCode errorMessage : String)
    (retryAfter : Option ℚ) : Syncing SyncResult := do
  call .guardPersistence
  call (.transitionRun runId target (some errorCode) (some errorMessage))
  pure { runId := runId, status := target, errorCode := some errorCode,
         retryAfterSeconds := retryAfter }

/-- Where an adapter error leaves the run. -/
def adapterFailureStatus (error : AdapterError) : RunStatus :=
  if error.requiresAuth || error.requiresInteraction then .awaitingAuth
  else if error.retryable then .failedRetryable
  else .failedTerminal

/-- The `except` clauses. -/
def handle (runId : String) : SyncError → Syncing SyncResult
  | .leaseLost => Prog.throw .leaseLost
  | .contentOwnershipConflict =>
    fail runId .failedTerminal "content_ownership_conflict"
      "Content remains assigned to its existing creator; check the subscription and source." none
  | .adapter error =>
    fail runId (adapterFailureStatus error) (closedAdapterErrorCode error)
      "The adapter reported a classified synchronization failure."
      (closedRetryAfter error.retryAfter)
  | .domain code =>
    fail runId .failedTerminal (closedErrorCode code domainErrorCodes)
      "Synchronization stopped after a classified domain failure." none
  | .other =>
    fail runId .failedRetryable "unexpected_failure"
      "Unexpected adapter or persistence failure; inspect redacted worker logs." none
  | .cancelled => Prog.throw .cancelled

/-- `SyncService.run`. -/
def SyncService.run (service : SyncService) (request : SyncRequest) : Syncing SyncResult := do
  let capabilities : Capabilities ← call .capabilities
  Prog.require (capabilities.platform = request.accountPlatform) validationError
  Prog.require capabilities.supportsLogin validationError
  call .guardPersistence
  let runId : String ← call (.createRun request.subscriptionId
    ⟨service.adapterName, request.accountPlatform, request.maxItems, request.pageSize⟩)
  call .guardPersistence
  call (.transitionRun runId .claimed none none)
  (synchronize request runId).catching (handle runId)

/-- What the session of the run has written. -/
structure SyncStore where
  status : Option RunStatus
  cursor : Option String
  checkpointRevision : Nat
  contents : List ContentSnapshot
  deriving DecidableEq, Repr

/-- The host between two calls: the calls of the adapter and of the repository that are counted,
what the session has written and what is committed. -/
structure SyncWorld where
  clock : Nat
  requests : List (Option String × Nat)
  pages : List Page
  upserts : List ContentSnapshot
  session : SyncStore
  committed : SyncStore

/-- The adapter, the hooks and the failures of a repository, at every time. A transition of the run
raises what its own check raises and nothing of the database. -/
structure SyncHost where
  leaseHeld : Nat → Bool
  /-- Whether the hook is there and commits. -/
  commits : Nat → Except SyncError Bool
  capabilities : Nat → Except SyncError Capabilities
  ensureSession : Nat → Except SyncError AuthStatus
  resolveAuthor : Nat → String → Except SyncError AuthorSnapshot
  fetchAuthorPage : Nat → AuthorSnapshot → Option String → Nat → Except SyncError Page
  resolveAssets : Nat → ContentSnapshot → Except SyncError (List AssetSnapshot)
  createRun : Nat → Except SyncError String
  upsertAuthor : Nat → Except SyncError Unit
  upsertContent : Nat → Except SyncError Unit
  advanceCursor : Nat → Except SyncError Unit

namespace SyncHost

variable (host : SyncHost)

/-- `transition_run` of the repository. -/
def transition (target : RunStatus) (store : SyncStore) : Except SyncError Unit × SyncStore :=
  match store.status with
  | none => (.error .other, store)
  | some current =>
    if target ∈ current.transitions then (.ok (), { store with status := some target })
    else (.error (.domain "invalid_state_transition"), store)

/-- `advance_cursor` of the repository, for a run that may publish. -/
def advance (cursor : Option String) (store : SyncStore) : Except SyncError Unit × SyncStore :=
  if store.status = some .ingesting then
    (.ok (), { store with cursor := cursor, checkpointRevision := store.checkpointRevision + 1 })
  else (.error .other, store)

/-- One call. -/
def perform : Performs SyncCall SyncCall.Reply SyncWorld
  | .guardPersistence, w =>
    (if host.leaseHeld w.clock then .ok () else .error .leaseLost, { w with clock := w.clock + 1 })
  | .beforeExternalIo, w =>
    match host.commits w.clock with
    | .error e => (.error e, { w with clock := w.clock + 1 })
    | .ok true => (.ok (), { w with clock := w.clock + 1, committed := w.session })
    | .ok false => (.ok (), { w with clock := w.clock + 1 })
  | .capabilities, w => (host.capabilities w.clock, { w with clock := w.clock + 1 })
  | .ensureSession, w => (host.ensureSession w.clock, { w with clock := w.clock + 1 })
  | .resolveAuthor reference, w =>
    (host.resolveAuthor w.clock reference, { w with clock := w.clock + 1 })
  | .fetchAuthorPage author cursor limit, w =>
    let reply := host.fetchAuthorPage w.clock author cursor limit
    (reply, { w with
      clock := w.clock + 1
      requests := w.requests ++ [(cursor, limit)]
      pages := w.pages ++ reply.toOption.toList })
  | .resolveAssets content, w =>
    (host.resolveAssets w.clock content, { w with clock := w.clock + 1 })
  | .createRun _ _, w =>
    match host.createRun w.clock with
    | .error e => (.error e, { w with clock := w.clock + 1 })
    | .ok runId =>
      (.ok runId, { w with
        clock := w.clock + 1
        session := { w.session with status := some .queued } })
  | .transitionRun _ target _ _, w =>
    ((transition target w.session).1, { w with
      clock := w.clock + 1
      session := (transition target w.session).2 })
  | .upsertAuthor _, w => (host.upsertAuthor w.clock, { w with clock := w.clock + 1 })
  | .upsertContentWithAssets content _, w =>
    match host.upsertContent w.clock with
    | .error e => (.error e, { w with clock := w.clock + 1, upserts := w.upserts ++ [content] })
    | .ok () =>
      (.ok (), { w with
        clock := w.clock + 1
        upserts := w.upserts ++ [content]
        session := { w.session with contents := w.session.contents ++ [content] } })
  | .advanceCursor _ cursor _, w =>
    match host.advanceCursor w.clock with
    | .error e => (.error e, { w with clock := w.clock + 1 })
    | .ok () =>
      ((advance cursor w.session).1, { w with
        clock := w.clock + 1
        session := (advance cursor w.session).2 })

/-- A run in a session of its own, which its caller commits where it returns. -/
def sync (service : SyncService) (request : SyncRequest) (w : SyncWorld) :
    Except SyncError SyncResult × SyncWorld :=
  match Program.run host.perform (service.run request) w with
  | (.ok result, t) => (.ok result, { t with committed := t.session })
  | (.error e, t) => (.error e, t)

end SyncHost

/-- The host before a run: nothing is counted, and the session shows what is committed. -/
structure Fresh (w : SyncWorld) : Prop where
  requests : w.requests = []
  pages : w.pages = []
  upserts : w.upserts = []
  session : w.session = w.committed
  status : w.session.status = none
  contents : w.session.contents = []

end MediaSync.Sync
