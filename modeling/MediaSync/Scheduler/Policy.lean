import MediaSync.Foundation.Python

/-!
# Retry and failure policy

The closed retry policy frozen into a cycle's payload, the classification of
handler failure codes, and the errors and argument checks that the scheduler
repository shares with it.
-/

namespace MediaSync.Scheduler

open Python

/-- The exceptions a scheduler transaction can stop with. -/
inductive SchedulerError where
  | valueError (message : String)
  | repositoryError (message : String)
  | notFoundError (message : String)
  | subscriptionRemovalError (code : String)
  | schedulerRepositoryError (message : String)
  | staleLaneError (message : String)
  | schedulerExactConflictError (code : String)
  | schedulerLeaseLostError (message : String)
  | pipelineJobRepositoryError (message : String)
  | invalidStateTransitionError (entity current target : String)
  | integrityError (table : String)
  | overflowError
  deriving DecidableEq, Repr

namespace SchedulerError

def isValueError : SchedulerError → Bool
  | valueError _ => true
  | _ => false

/-- `SchedulerRepositoryError` with its two subclasses. -/
def isSchedulerRepositoryError : SchedulerError → Bool
  | schedulerRepositoryError _ | staleLaneError _ | schedulerExactConflictError _ => true
  | _ => false

end SchedulerError

open SchedulerError

/-- `_required_text`: the stripped text, or a `ValueError`. -/
def requiredText (value : String) (name : String) (maximum : Nat) :
    Except SchedulerError String :=
  let normalized := strip value
  if normalized = "" ∨ maximum < normalized.length ∨ normalized.toList.any isControl then
    .error (valueError s!"{name} is invalid")
  else .ok normalized

/-- What was accepted once is accepted again, unchanged. -/
theorem requiredText_again {value name r : String} {maximum : Nat}
    (h : requiredText value name maximum = .ok r) (name' : String) :
    requiredText r name' maximum = .ok r := by
  unfold requiredText at h
  dsimp only at h
  split at h
  · cases h
  · rename_i hvalid
    cases h
    unfold requiredText
    rw [strip_strip]
    exact if_neg hvalid

def optionalIdentifier (value : Option String) (name : String) :
    Except SchedulerError (Option String) :=
  match value with
  | none => .ok none
  | some v => (requiredText v name 36).map some

def boundedInt (value : Int) (name : String) (minimum maximum : Nat) :
    Except SchedulerError Nat :=
  if (minimum : Int) ≤ value ∧ value ≤ maximum then .ok value.toNat
  else .error (valueError s!"{name} must be an integer between {minimum} and {maximum}")

def maxBatch : Nat := 1000
def maxLeaseSeconds : Nat := 86400
def maxLaneSeconds : Nat := 604800
def maxRevision : Nat := 2147483647

/-- `_safe_add` of the repository. -/
def safeAdd (value : Time) (seconds : Nat) (name : String) : Except SchedulerError Time :=
  if maxLaneSeconds < seconds then
    .error (valueError s!"{name} must be an integer between 0 and {maxLaneSeconds}")
  else match addSeconds value seconds with
    | some r => .ok r
    | none => .error (valueError s!"{name} overflows datetime")

theorem safeAdd_ok {value r : Time} {seconds : Nat} {name : String}
    (h : safeAdd value seconds name = .ok r) : r = value + seconds * 1000000 := by
  unfold safeAdd at h
  split at h
  · cases h
  · split at h
    · rename_i q hq
      cases h
      exact (addSeconds_le hq).symm
    · cases h

def maxRetrySeconds : Nat := 604800
def maxPolicyAttempts : Nat := 100

/-- `RetryPolicy`: an instance that `__post_init__` accepts. -/
structure RetryPolicy where
  baseSeconds : Nat := 30
  capSeconds : Nat := 1800
  maxAttempts : Nat := 5
  base_range : 1 ≤ baseSeconds ∧ baseSeconds ≤ maxRetrySeconds := by decide
  cap_range : 1 ≤ capSeconds ∧ capSeconds ≤ maxRetrySeconds := by decide
  attempts_range : 1 ≤ maxAttempts ∧ maxAttempts ≤ maxPolicyAttempts := by decide
  ordered : baseSeconds ≤ capSeconds := by decide

namespace RetryPolicy

/-- `RetryPolicy()`. -/
def standard : RetryPolicy := {}

def toPayload (p : RetryPolicy) : Json :=
  .obj [("schema_version", .int 1), ("base_seconds", .int p.baseSeconds),
    ("cap_seconds", .int p.capSeconds), ("max_attempts", .int p.maxAttempts),
    ("jitter", .str "equal")]

def strictInt (value : Option Json) (name : String) (maximum : Nat) :
    Except SchedulerError { n : Nat // 1 ≤ n ∧ n ≤ maximum } :=
  match Json.asInt? value with
  | some (.ofNat n) =>
    if h : 1 ≤ n ∧ n ≤ maximum then .ok ⟨n, h⟩
    else .error (valueError s!"{name} must be an integer between 1 and {maximum}")
  | _ => .error (valueError s!"{name} must be an integer between 1 and {maximum}")

/-- `RetryPolicy.from_payload` on the fields of a mapping. -/
def fromPayload (fields : List (String × Json)) : Except SchedulerError RetryPolicy := do
  if !Json.hasKeys fields
        ["schema_version", "base_seconds", "cap_seconds", "max_attempts", "jitter"] ||
      !Json.eqInt (Json.get? fields "schema_version") 1 then
    .error (valueError "retry policy payload is not closed schema v1")
  else match Json.asStr? (Json.get? fields "jitter") with
    | none => .error (valueError "jitter must be 'equal'")
    | some jitter => do
      let base ← strictInt (Json.get? fields "base_seconds") "base_seconds" maxRetrySeconds
      let cap ← strictInt (Json.get? fields "cap_seconds") "cap_seconds" maxRetrySeconds
      let attempts ← strictInt (Json.get? fields "max_attempts") "max_attempts" maxPolicyAttempts
      if h : base.1 ≤ cap.1 then
        if jitter = "equal" then
          .ok ⟨base.1, cap.1, attempts.1, base.2, cap.2, attempts.2, h⟩
        else .error (valueError "jitter must be 'equal'")
      else .error (valueError "cap_seconds must be greater than or equal to base_seconds")

/-- The fields `toPayload` writes. -/
def payloadFields (p : RetryPolicy) : List (String × Json) :=
  [("schema_version", .int 1), ("base_seconds", .int p.baseSeconds),
    ("cap_seconds", .int p.capSeconds), ("max_attempts", .int p.maxAttempts),
    ("jitter", .str "equal")]

theorem toPayload_eq (p : RetryPolicy) : p.toPayload = .obj p.payloadFields := rfl

lemma strictInt_int {n maximum : Nat} (name : String) (h : 1 ≤ n ∧ n ≤ maximum) :
    strictInt (some (.int (n : Int))) name maximum = .ok ⟨n, h⟩ := by
  change (if h' : 1 ≤ n ∧ n ≤ maximum then _ else _) = _
  rw [dif_pos h]

/-- A stored policy is read back as it was written. -/
theorem fromPayload_payloadFields (p : RetryPolicy) :
    fromPayload p.payloadFields = .ok p := by
  obtain ⟨base, cap, attempts, hb, hc, ha, ho⟩ := p
  have hkeys : Json.hasKeys (payloadFields ⟨base, cap, attempts, hb, hc, ha, ho⟩)
      ["schema_version", "base_seconds", "cap_seconds", "max_attempts", "jitter"] = true := by
    simp [Json.hasKeys, payloadFields]
  have hversion : Json.eqInt (Json.get?
      (payloadFields ⟨base, cap, attempts, hb, hc, ha, ho⟩) "schema_version") 1 = true := by
    simp [Json.eqInt, Json.get?, payloadFields]
  unfold fromPayload
  rw [hkeys, hversion]
  simp only [Bool.not_true, Bool.or_false, Bool.false_eq_true, if_false]
  simp only [payloadFields, Json.get?, Json.asStr?, List.find?, Option.map]
  simp [strictInt_int _ hb, strictInt_int _ hc, strictInt_int _ ha, ho, bind, Except.bind]

end RetryPolicy

inductive FailureDisposition where
  | retry
  | waitingAuth
  | waitingUser
  | terminal
  deriving DecidableEq, Repr

structure FailureClassification where
  code : String
  disposition : FailureDisposition
  affectsCircuit : Bool
  deriving DecidableEq, Repr

/-- `[a-z][a-z0-9_]{0,127}\Z`. -/
def isFixedCode (code : String) : Bool :=
  match code.toList with
  | [] => false
  | c :: rest => c.isLower && rest.length ≤ 127 &&
      rest.all (fun d => d.isLower || d.isDigit || d == '_')

def temporaryCodes : List String :=
  ["rate_limited", "risk_controlled", "temporary_upstream", "upstream_timeout",
    "upstream_unavailable"]

def waitingAuthCodes : List String := ["auth_expired", "credentials_unavailable"]

def waitingUserCodes : List String :=
  ["captcha_required", "interactive_required", "license_acknowledgement_required", "qr_required"]

def contractCodes : List String :=
  ["content_ownership_conflict", "bili_dynamic_unsupported", "bili_dynamic_identity_mismatch",
    "bili_dynamic_schema_invalid"]

def terminalCodes : List String :=
  ["configuration_invalid", "handler_unsupported", "output_security_failed", "schema_invalid",
    "bili_dynamic_unsupported", "bili_dynamic_identity_mismatch", "bili_dynamic_schema_invalid",
    "scheduler_heartbeat_failed", "scheduler_heartbeat_storage_busy",
    "scheduler_finalize_failed"]

def unexpectedFailure : FailureClassification := ⟨"unexpected_handler_failure", .retry, true⟩

def classifyFailure (code : String) : FailureClassification :=
  let code := if isFixedCode code then code else "unexpected_handler_failure"
  if code ∈ temporaryCodes then ⟨code, .retry, true⟩
  else if code = "account_busy" then ⟨code, .retry, false⟩
  else if code ∈ waitingAuthCodes then ⟨code, .waitingAuth, true⟩
  else if code ∈ waitingUserCodes then ⟨code, .waitingUser, false⟩
  else if code ∈ contractCodes then ⟨code, .terminal, false⟩
  else if code ∈ terminalCodes then ⟨code, .terminal, true⟩
  else unexpectedFailure

end MediaSync.Scheduler
