import MediaSync.Scheduler.LeaseOperations

/-!
# Policy edits of a paused subscription

The two edits that move a subscription's schedule revision without creating a
cycle: the closed policy set and the Bili capture scope. Both require a paused
and idle subscription at the revision the caller has seen.

Rounding a number to a float and normalizing a secret reference are the
codec's.
-/

namespace MediaSync.Scheduler

open Python Transaction

/-- The exceptions a policy edit can stop with. -/
inductive PolicyEditError where
  | subscriptionPolicyUpdateError (code : String)
  | mediaCrawlerSubscriptionPolicyError (message : String)
  | valueError (code : String)
  | notFoundError (message : String)
  | subscriptionRemovalError (code : String)
  | overflowError
  deriving DecidableEq, Repr

open PolicyEditError

/-- The pure functions that a policy takes from Python and the security module. -/
structure PolicyCodec where
  /-- `float(value)`; `none` for `OverflowError` -/
  float : Rat → Option Rat
  /-- `SecretReference.parse(value).serialize()`; `none` for an invalid reference -/
  secretReference : String → Option String

def isBiliScope (scope : String) : Bool :=
  scope = "uploads" || scope = "dynamics" || scope = "both"

structure MediaCrawlerSubscriptionPolicy where
  allowFullHistory : Bool
  requestDelaySeconds : Rat
  headless : Bool
  creatorSecretRef : Option String
  biliScope : Option String
  deriving DecidableEq

namespace MediaCrawlerSubscriptionPolicy

variable (codec : PolicyCodec)

def creatorSecretReference (value : Option Json) : Except PolicyEditError String :=
  match Json.asStr? value with
  | none => .error (mediaCrawlerSubscriptionPolicyError
      "creator secret_ref must be an opaque secret reference")
  | some value =>
    match codec.secretReference value with
    | none => .error (mediaCrawlerSubscriptionPolicyError
        "creator secret_ref must be an opaque secret reference")
    | some serialized =>
      if value ≠ serialized then
        .error (mediaCrawlerSubscriptionPolicyError
          "creator secret_ref must use its canonical serialized form")
      else .ok serialized

def requestDelay (value : Option Json) : Except PolicyEditError Rat :=
  match value with
  | some (.int _) | some (.real _) =>
    match (value.bind Json.number?).bind codec.float with
    | none => .error overflowError
    | some normalized =>
      if 0 < normalized ∧ normalized ≤ 300 then .ok normalized
      else .error (mediaCrawlerSubscriptionPolicyError
        "request_delay_seconds must be greater than zero and at most 300")
  | _ => .error (mediaCrawlerSubscriptionPolicyError
      "request_delay_seconds must be a finite number")

def boolean (value : Option Json) (name : String) : Except PolicyEditError Bool :=
  match value with
  | some (.bool b) => .ok b
  | _ => .error (mediaCrawlerSubscriptionPolicyError s!"{name} must be boolean")

/-- `__post_init__`. -/
def make (policy : MediaCrawlerSubscriptionPolicy) :
    Except PolicyEditError MediaCrawlerSubscriptionPolicy := do
  if policy.biliScope.any (fun scope => !isBiliScope scope) then
    .error (mediaCrawlerSubscriptionPolicyError "bili_scope must be uploads, dynamics or both")
  else
    let delay ← requestDelay codec (some (.real policy.requestDelaySeconds))
    match policy.creatorSecretRef with
    | none => .ok { policy with requestDelaySeconds := delay }
    | some reference => do
      let reference ← creatorSecretReference codec (some (.str reference))
      .ok { policy with requestDelaySeconds := delay, creatorSecretRef := some reference }

def toPayload (policy : MediaCrawlerSubscriptionPolicy) : Json :=
  .obj ([("schema_version", .int (if policy.biliScope.isNone then 1 else 2)),
      ("allow_full_history", .bool policy.allowFullHistory),
      ("request_delay_seconds", .real policy.requestDelaySeconds),
      ("headless", .bool policy.headless)] ++
    (policy.creatorSecretRef.map fun reference =>
      ("creator_input", Json.obj [("secret_ref", .str reference)])).toList ++
    (policy.biliScope.map fun scope => ("bili_scope", Json.str scope)).toList)

def effectiveBiliScope (policy : MediaCrawlerSubscriptionPolicy) : String :=
  policy.biliScope.getD "uploads"

def validateBiliMaxItems (policy : MediaCrawlerSubscriptionPolicy) (maxItems : Int) :
    Except PolicyEditError Unit :=
  if maxItems < 1 ∨ 1000 < maxItems then
    .error (mediaCrawlerSubscriptionPolicyError
      "max_items must be an integer between 1 and 1000")
  else if policy.effectiveBiliScope ≠ "uploads" ∧ maxItems < 2 then
    .error (mediaCrawlerSubscriptionPolicyError
      "Bili dynamics and both scopes require max_items at least 2")
  else .ok ()

/-- The creator reference of a payload, if it has one. -/
def creatorInput (fields : List (String × Json)) : Except PolicyEditError (Option String) :=
  match Json.get? fields "creator_input" with
  | none => .ok none
  | some (.obj input) =>
    if Json.hasKeys input ["secret_ref"] then
      (creatorSecretReference codec (Json.get? input "secret_ref")).map some
    else .error (mediaCrawlerSubscriptionPolicyError
      "creator_input must contain only an opaque secret_ref")
  | some _ => .error (mediaCrawlerSubscriptionPolicyError
      "creator_input must contain only an opaque secret_ref")

/-- The keys that a payload of the given schema must have. -/
def requiredKeys (schemaVersion : Int) : List String :=
  ["schema_version", "allow_full_history", "request_delay_seconds", "headless"] ++
    if schemaVersion = 2 then ["bili_scope"] else []

def fromPayload (payload : Json) : Except PolicyEditError MediaCrawlerSubscriptionPolicy :=
  match payload with
  | .obj fields => do
    match Json.asInt? (Json.get? fields "schema_version") with
    | none => .error (mediaCrawlerSubscriptionPolicyError
        "MediaCrawler policy is not closed schema v1 or v2")
    | some version =>
      let scope := Json.asStr? (Json.get? fields "bili_scope")
      if version ≠ 1 ∧ version ≠ 2 then
        .error (mediaCrawlerSubscriptionPolicyError
          "MediaCrawler policy is not closed schema v1 or v2")
      else if version = 2 ∧ scope.any isBiliScope = false then
        .error (mediaCrawlerSubscriptionPolicyError
          "bili_scope must be uploads, dynamics or both")
      else if !Json.hasKeys fields (requiredKeys version) &&
          !Json.hasKeys fields (requiredKeys version ++ ["creator_input"]) then
        .error (mediaCrawlerSubscriptionPolicyError
          "MediaCrawler policy is not closed schema v1 or v2")
      else
        let creatorSecretRef ← creatorInput codec fields
        let allowFullHistory ← boolean (Json.get? fields "allow_full_history")
          "allow_full_history"
        let requestDelaySeconds ← requestDelay codec (Json.get? fields "request_delay_seconds")
        let headless ← boolean (Json.get? fields "headless") "headless"
        make codec ⟨allowFullHistory, requestDelaySeconds, headless, creatorSecretRef,
          if version = 2 then scope else none⟩
  | _ => .error (mediaCrawlerSubscriptionPolicyError "MediaCrawler policy must be an object")

end MediaCrawlerSubscriptionPolicy

open MediaCrawlerSubscriptionPolicy

/-- `from_subscription_policy` with a closed outer object. -/
def fromSubscriptionPolicy (codec : PolicyCodec) (policy : Json) :
    Except PolicyEditError MediaCrawlerSubscriptionPolicy :=
  match policy with
  | .obj fields =>
    match Json.get? fields "mediacrawler" with
    | none => .error (mediaCrawlerSubscriptionPolicyError
        "subscription policy has no MediaCrawler region")
    | some region =>
      if Json.hasKeys fields ["mediacrawler"] then fromPayload codec region
      else .error (mediaCrawlerSubscriptionPolicyError
        "subscription policy contains unsupported adapter regions")
  | _ => .error (mediaCrawlerSubscriptionPolicyError "subscription policy must be an object")

/-- The document that holds one policy. -/
def policyDocument (policy : MediaCrawlerSubscriptionPolicy) : Json :=
  .obj [("mediacrawler", policy.toPayload)]

structure SubscriptionPolicyUpdate where
  intervalSeconds : Int
  maxItems : Int
  requestDelaySeconds : Rat
  headless : Bool
  expectedScheduleRevision : Int
  biliScope : Option String

structure SubscriptionPolicyUpdateResult where
  id : String
  platform : Platform
  intervalSeconds : Nat
  maxItems : Nat
  scheduleRevision : Nat
  checkpointRevision : Nat
  nextRunAt : Option Time
  policy : MediaCrawlerSubscriptionPolicy
  changed : Bool

/-- What the edits are constructed with. -/
structure PolicyService where
  codec : PolicyCodec
  /-- an `OperationSubject` row ties the operation to the subscription -/
  operationSubject : Db → String → String → Bool

abbrev PolicySession := Tx Db PolicyEditError

def validateUpdate (update : SubscriptionPolicyUpdate) : Except PolicyEditError Unit :=
  if update.intervalSeconds < 60 ∨ (maxRevision : Int) < update.intervalSeconds ∨
      update.maxItems < 1 ∨ 1000 < update.maxItems ∨ update.expectedScheduleRevision < 0 ∨
      (maxRevision : Int) < update.expectedScheduleRevision ∨
      update.biliScope.any (fun scope => !isBiliScope scope) then
    .error (subscriptionPolicyUpdateError "subscription_policy_options_invalid")
  else .ok ()

/-- `SubscriptionRepository.require_active` and the subscription's account. -/
def policySubscription (subscriptionId : String) (missing removed : PolicyEditError) :
    PolicySession (Subscription × Account) := do
  let subscription ← Tx.read (fun db => db.subscriptions.get? subscriptionId)
  match subscription with
  | none => Tx.throw missing
  | some s => do
    Tx.require s.deletedAt.isNone removed
    let account ← Tx.read (fun db => db.accounts.get? s.accountId)
    match account with
    | none => Tx.throw (notFoundError "account not found")
    | some account => pure (s, account)

/-- `_job_scope`. -/
def policyJobScope (db : Db) (subscriptionId : String) (j : Job) : Bool :=
  j.subscriptionId = some subscriptionId ||
    (j.runId.bind db.runs.get?).any (fun r => r.subscriptionId = subscriptionId)

/-- An active operation targets the subscription or names it as a subject. -/
def activeOperation (service : PolicyService) (db : Db) (subscriptionId : String) : Bool :=
  db.operations.rows.any (fun o => (o.state = "queued" || o.state = "running") &&
    ((o.targetType = "subscription" && o.targetId = subscriptionId) ||
      service.operationSubject db o.id subscriptionId))

def requireIdle (service : PolicyService) (subscriptionId : String) : PolicySession Unit := do
  let activeJob ← Tx.read (fun db => db.jobs.rows.any (fun j =>
    policyJobScope db subscriptionId j && !j.status.isTerminal))
  let activeRun ← Tx.read (fun db => db.runs.rows.any (fun r =>
    r.subscriptionId = subscriptionId && !r.status.isTerminal))
  let activeOperation ← Tx.read (fun db => activeOperation service db subscriptionId)
  Tx.require (!activeJob && !activeRun && !activeOperation)
    (subscriptionPolicyUpdateError "subscription_policy_busy")

/-- A policy error becomes the fixed code of the update. -/
def asUpdateError {α : Type} (code : String) :
    Except PolicyEditError α → Except PolicyEditError α
  | .error (mediaCrawlerSubscriptionPolicyError _) =>
    .error (subscriptionPolicyUpdateError code)
  | r => r

def targetPolicy (codec : PolicyCodec) (platform : Platform)
    (current : MediaCrawlerSubscriptionPolicy) (update : SubscriptionPolicyUpdate) :
    Except PolicyEditError MediaCrawlerSubscriptionPolicy := do
  if platform ≠ .bili ∧ (update.biliScope.isSome ∨ current.biliScope.isSome) then
    .error (subscriptionPolicyUpdateError "subscription_policy_options_invalid")
  else asUpdateError "subscription_policy_options_invalid" (do
    let target ← make codec { current with
      requestDelaySeconds := update.requestDelaySeconds
      headless := update.headless
      biliScope := if platform = .bili then update.biliScope <|> current.biliScope else none }
    if platform = .bili then target.validateBiliMaxItems update.maxItems
    .ok target)

def updateSubscriptionPolicy (service : PolicyService) (subscriptionId : String)
    (update : SubscriptionPolicyUpdate) : PolicySession SubscriptionPolicyUpdateResult := do
  Tx.ofExcept (validateUpdate update)
  let (s, account) ← policySubscription subscriptionId
    (subscriptionPolicyUpdateError "subscription_policy_not_found")
    (subscriptionPolicyUpdateError "subscription_policy_removed")
  Tx.require (account.adapter = "mediacrawler")
    (subscriptionPolicyUpdateError "subscription_policy_unsupported_adapter")
  Tx.require (!s.enabled) (subscriptionPolicyUpdateError "subscription_policy_requires_paused")
  Tx.require ((s.scheduleRevision : Int) = update.expectedScheduleRevision)
    (subscriptionPolicyUpdateError "subscription_policy_revision_conflict")
  requireIdle service subscriptionId
  let current ← Tx.ofExcept (asUpdateError "subscription_policy_invalid"
    (fromSubscriptionPolicy service.codec s.policy))
  let target ← Tx.ofExcept (targetPolicy service.codec account.platform current update)
  let changed := (s.intervalSeconds : Int) ≠ update.intervalSeconds ∨
    (s.maxItems : Int) ≠ update.maxItems ∨ Json.same s.policy (policyDocument target) = false
  if changed then do
    Tx.require (s.scheduleRevision < maxRevision)
      (subscriptionPolicyUpdateError "subscription_policy_revision_exhausted")
    Tx.modify (fun db => db.setSubscription subscriptionId (fun s => { s with
      intervalSeconds := update.intervalSeconds.toNat
      maxItems := update.maxItems.toNat
      policy := policyDocument target
      scheduleRevision := s.scheduleRevision + 1 }))
    pure ⟨s.id, account.platform, update.intervalSeconds.toNat, update.maxItems.toNat,
      s.scheduleRevision + 1, s.checkpointRevision, s.nextRunAt, target, true⟩
  else
    pure ⟨s.id, account.platform, s.intervalSeconds, s.maxItems, s.scheduleRevision,
      s.checkpointRevision, s.nextRunAt, target, false⟩

/-- `change_bilibili_scope`, with the revision it leaves and whether it changed anything. -/
def changeBilibiliScope (service : PolicyService) (subscriptionId scope : String)
    (maxItems expectedScheduleRevision : Int) : PolicySession (Nat × Bool) := do
  Tx.require (decide (0 ≤ expectedScheduleRevision) && isBiliScope scope)
    (valueError "bili_scope_options_invalid")
  let (s, account) ← policySubscription subscriptionId
    (notFoundError "subscription not found") (subscriptionRemovalError "subscription_removed")
  Tx.require (account.platform = .bili && account.adapter = "mediacrawler")
    (valueError "bili_scope_options_invalid")
  Tx.require (!s.enabled && (s.scheduleRevision : Int) = expectedScheduleRevision)
    (valueError "bili_scope_requires_paused_current_revision")
  let busy ← Tx.read (fun db =>
    db.jobs.rows.any (fun j => j.subscriptionId = some subscriptionId && j.status.isActive) ||
      db.runs.rows.any (fun r => r.subscriptionId = subscriptionId &&
        (r.status = .queued || r.status = .claimed || r.status = .awaitingAuth ||
          r.status = .running || r.status = .ingesting)))
  Tx.require (!busy) (valueError "bili_scope_requires_idle_subscription")
  let current ← Tx.ofExcept (fromSubscriptionPolicy service.codec s.policy)
  let policy ← Tx.ofExcept (make service.codec { current with biliScope := some scope })
  Tx.ofExcept (policy.validateBiliMaxItems maxItems)
  if Json.same s.policy (policyDocument policy) = false ∨ (s.maxItems : Int) ≠ maxItems then do
    Tx.modify (fun db => db.setSubscription subscriptionId (fun s => { s with
      policy := policyDocument policy
      maxItems := maxItems.toNat
      scheduleRevision := s.scheduleRevision + 1 }))
    pure (s.scheduleRevision + 1, true)
  else pure (s.scheduleRevision, false)

end MediaSync.Scheduler
