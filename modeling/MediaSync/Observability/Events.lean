import MediaSync.Observability.Segments

/-!
# Events

An event is a closed set of fields: enumerated texts, identifiers, bounded
numbers, and one message. A record is an event with what the store mints for it.
What a message may say is decided by the policy for messages, which is a
parameter here; everything else about an event is decided by its fields.
-/

namespace MediaSync.Observability

open Python JsonText

/-- What `redact_text` and the patterns of `events.py` say of a message: nothing in it is sensitive,
and it is a line of process output that may be kept. -/
structure MessagePolicy where
  plain : String → Bool
  output : String → Bool

namespace Events

def eventSchemaVersion : Nat := 1
def maxEventBytes : Nat := 4096
def maxNumber : Int := 9007199254740991
def maxMessageBytes : Nat := 2048

def eventCodes : List String :=
  ["application_log_redacted", "process_output", "process_output_summary",
    "process_output_dropped", "request_finished", "command_started", "command_finished",
    "service_started", "service_stopped", "operation_started", "operation_phase_changed",
    "operation_finished", "job_started", "job_finished", "supervisor_started",
    "supervisor_stopped", "supervisor_failed", "login_stage", "login_terminal",
    "login_diagnostics_degraded", "output_policy_saved", "log_store_degraded"]

def modules : List String :=
  ["api", "cli", "login", "cookie_login", "crawler", "download", "scheduler", "pipeline",
    "subscription_delivery", "exporter", "library", "media_server", "supervisor",
    "output_directories", "log_store", "application", "creator_profile", "archive"]

def levels : List String := ["debug", "info", "warning", "error", "critical"]

def phases : List String :=
  ["starting", "preparing", "running", "probing", "discovering", "authenticating",
    "downloading", "claiming_jobs", "jobs_processed", "exporting", "syncing", "ingesting",
    "finalizing", "reconciling", "completed", "stopping", "preflight", "account_lock",
    "browser_launch", "platform_navigation", "session_probe", "login_dialog", "qr_locate",
    "qr_image_fetch", "qr_relay", "waiting_scan", "login_confirmation", "profile_finalize",
    "cleanup", "upstream_execution", "unknown", "verifying_cookie", "saving_cookie",
    "looking_up_creator", "fetching_creator_avatar", "baselining", "dispatching", "accepted",
    "polling", "observed"]

def actions : List String :=
  ["start", "finish", "phase_change", "tick", "stop", "save", "drop", "prepare", "acquire",
    "launch", "navigate", "click", "wait_selector", "wait_load", "probe", "fetch",
    "relay_write", "confirm", "finalize", "cleanup", "execute", "read_image",
    "account-cookie-login", "creator-profile", "account-login", "asset-download",
    "subscription-delivery", "scheduler-run", "pipeline-run", "emby-export",
    "media-server-probe", "media-server-scan"]

def outcomes : List String :=
  ["started", "succeeded", "failed", "cancelled", "interrupted", "queued", "claimed",
    "running", "retry_wait", "failed_retryable", "failed_terminal", "waiting_auth",
    "waiting_user", "awaiting_auth", "skipped", "rejected", "completed", "timed_out",
    "expired", "fenced", "stopped", "unknown"]

def errorTypes : List String :=
  ["none", "playwright_timeout", "timeout", "os_error", "cancelled", "system_exit",
    "configuration", "confirmation_rejected", "browser_launch_failed", "invalid_encoding",
    "line_too_large", "capture_budget_exhausted", "log_sink_rejected", "policy_filtered",
    "unknown"]

def platforms : List String := ["bili", "dy", "ks", "tieba", "wb", "xhs", "zhihu"]

def sourceFrames : List String :=
  ["parent", "runner", "client", "login", "qr_helper", "qr_relay", "httpx_get",
    "browser_type", "browser_context", "page", "frame", "locator", "element_handle", "cleanup"]

def streams : List String := ["stdout_protocol", "upstream"]

def enumFields : List (String × List String) :=
  [("event_code", eventCodes), ("module", modules), ("level", levels), ("phase", phases),
    ("action", actions), ("outcome", outcomes), ("error_type", errorTypes),
    ("platform", platforms), ("source_frame", sourceFrames), ("stream", streams)]

def uuidFields : List String :=
  ["operation_id", "correlation_id", "account_id", "login_session_id", "job_id", "run_id",
    "subscription_id", "author_id", "asset_id"]

def numberFields : List String := ["duration_ms", "attempt", "count", "bytes", "http_status"]

def textFields : List String := ["message"]

def required : List String := ["event_code", "module", "level"]

def inputFields : List String :=
  enumFields.map Prod.fst ++ uuidFields ++ numberFields ++ textFields

def mintedFields : List String := ["schema_version", "timestamp", "writer_id", "sequence"]

/-- `ENUM_FIELDS[key]`. -/
def enumValues (key : String) : Option (List String) :=
  (enumFields.find? (fun f => f.1 = key)).map Prod.snd

abbrev Fields := List (String × Json)

/-- `names <= event.keys()`. -/
def hasAll (event : Fields) (names : List String) : Bool :=
  names.all (fun name => name ∈ event.map Prod.fst)

section

variable (policy : MessagePolicy)

def validMessage (value : String) : Bool :=
  value ≠ "" && !value.toList.any (fun c => c = '\x00' || c = '\r' || c = '\n') &&
    (string value.toList).length ≤ maxMessageBytes && policy.plain value

/-- The check of one field in the loop of `validate_event`. -/
def validField (key : String) (value : Json) : Bool :=
  match enumValues key, value with
  | some values, .str s => s ∈ values
  | some _, _ => false
  | none, .str s =>
    if key ∈ uuidFields then isCanonicalUuid s
    else if key ∈ numberFields then false
    else key ∉ textFields || validMessage policy s
  | none, .int n =>
    key ∈ numberFields && 0 ≤ n && n ≤ maxNumber &&
      (key ≠ "http_status" || (100 ≤ n && n ≤ 599))
  | none, _ => key ∉ uuidFields ++ numberFields ++ textFields

/-- The fields that the code of an event asks for, and those that it alone may have. -/
def validForCode (event : Fields) (code : String) : Bool :=
  (code ∉ ["login_stage", "login_terminal"] ||
      hasAll event ["phase", "action", "outcome", "error_type", "duration_ms"]) &&
    (code ≠ "process_output" || hasAll event ["stream", "message"]) &&
    (code ≠ "process_output" ||
      (match Json.get? event "message" with
        | some (.str message) => message = "[REDACTED]" || policy.output message
        | _ => false)) &&
    (code = "process_output" || !hasAll event ["message"]) &&
    (code ∈ ["process_output", "process_output_summary", "process_output_dropped"] ||
      !hasAll event ["stream"]) &&
    (code ≠ "process_output_summary" ||
      hasAll event ["stream", "action", "outcome", "count", "bytes"]) &&
    (code ≠ "process_output_dropped" ||
      hasAll event ["stream", "action", "outcome", "error_type", "count"])

/-- `validate_event` accepts the event, which it copies. -/
def validEvent (event : Fields) : Bool :=
  hasAll event required && event.all (fun f => f.1 ∈ inputFields) &&
    event.all (fun f => validField policy f.1 f.2) &&
    match Json.get? event "event_code" with
    | some (.str code) => validForCode policy event code
    | _ => false

/-- What a query reads of a record, with all of its fields. -/
structure LogRecord where
  fields : Fields
  timestamp : String
  writerId : String

/-- The fields of a record that are not minted. -/
def eventOf (record : Fields) : Fields := record.filter (fun f => f.1 ∉ mintedFields)

/-- `validate_record`. -/
def validateRecord (value : Json) : Option LogRecord := do
  let record ← match value with
    | .obj fields => some fields
    | _ => none
  let version ← readField readNat record "schema_version"
  let timestamp ← readField readText record "timestamp"
  let writerId ← readField readText record "writer_id"
  let sequence ← readField readNat record "sequence"
  if version = eventSchemaVersion ∧ isCanonicalTime timestamp ∧ isCanonicalUuid writerId ∧
      1 ≤ sequence ∧ (sequence : Int) ≤ maxNumber ∧ validEvent policy (eventOf record)
  then some ⟨eventOf record ++ record.filter (fun f => f.1 ∈ mintedFields), timestamp, writerId⟩
  else none

end

end Events

end MediaSync.Observability
