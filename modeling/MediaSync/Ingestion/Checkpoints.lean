import MediaSync.Foundation.Python
import MediaSync.Foundation.Statement
import MediaSync.Foundation.Transaction
import MediaSync.Foundation.Transition
import MediaSync.Foundation.Watermark
import Mathlib.Data.Finset.Sort
import Mathlib.Data.String.Basic

/-!
# Published checkpoints

A run publishes its cursor, its schedule and its watermark under the checkpoint
revision it has read. The statement that counts the revision up is the fence;
the columns follow in the same transaction. A watermark only moves forward: a
newer instant brings its own identities, an equal one adds them, an older one is
passed over. So the row holds the join of all that was published.

Redaction of cursors is the redactor's, and the row's clock column is left out.
-/

namespace MediaSync.Ingestion

open Python Transaction Transition

inductive CheckpointError where
  | valueError (message : String)
  | overflowError
  | notFoundError (message : String)
  | subscriptionRemovalError (code : String)
  | staleCheckpointError (subscriptionId : String) (expected : Int) (actual : Nat)

open CheckpointError

/-- A `datetime`: what its clock shows, and how far that is ahead of UTC where it knows. -/
structure Datetime where
  wall : Time
  utcoffset : Option Int

def awareUtc (value : Datetime) : Except CheckpointError Time :=
  match value.utcoffset with
  | none => .error (valueError "timestamps must be timezone-aware")
  | some offset =>
    let utc : Int := value.wall - offset
    if 0 ≤ utc ∧ utc ≤ maxTime then .ok utc.toNat else .error overflowError

/-- `_aware_utc(value) if value is not None else None`. -/
def awareUtc? : Option Datetime → Except CheckpointError (Option Time)
  | none => .ok none
  | some value => (awareUtc value).map some

def sortIds (ids : Finset String) : List String := ids.sort

/-- `sorted(set(ids))`. -/
def sortedIds (ids : List String) : List String := sortIds ids.toFinset

/-- The columns of a subscription that a checkpoint reads or writes. -/
structure Subscription where
  id : String
  deletedAt : Option Time
  cursor : Option Json
  cursorVersion : Int
  backfillCursor : Option Json
  checkpointRevision : Nat
  nextRunAt : Option Time
  lastRunAt : Option Time
  lastSuccessAt : Option Time
  watermarkedAt : Option Time
  watermarkRemoteIds : List String
  consecutiveFailures : Nat

abbrev Subscriptions := Table Subscription.id

/-- The arguments of a publication; the outer `none` is `_UNSET`. -/
structure CheckpointRequest where
  expectedRevision : Int
  cursor : Option (Option Json) := none
  cursorVersion : Option Int := none
  backfillCursor : Option (Option Json) := none
  nextRunAt : Option (Option Datetime) := none
  succeededAt : Option Datetime := none
  watermarkedAt : Option Datetime := none
  watermarkRemoteIds : Option (List String) := none

/-- The arguments after their checks. -/
structure Checkpoint where
  cursor : Option (Option Json)
  cursorVersion : Option Int
  backfillCursor : Option (Option Json)
  nextRunAt : Option (Option Time)
  succeededAt : Option Time
  watermark : Option Time
  remoteIds : List String

/-- `if not holds: raise ValueError(message)`. -/
def check (holds : Bool) (message : String) : Except CheckpointError Unit :=
  if holds then .ok () else .error (valueError message)

/-- A time that may be left alone, cleared or set. -/
def awareUtcSet? : Option (Option Datetime) → Except CheckpointError (Option (Option Time))
  | none => .ok none
  | some value => (awareUtc? value).map some

/-- The checks of `publish_checkpoint` before its statement, in their order. -/
def normalize (json : Json → Json) (r : CheckpointRequest) : Except CheckpointError Checkpoint := do
  check (0 ≤ r.expectedRevision) "expected_revision must be nonnegative"
  check ((r.watermarkRemoteIds.getD []).isEmpty || r.watermarkedAt.isSome)
    "watermark_remote_ids require watermarked_at"
  let nextRunAt ← awareUtcSet? r.nextRunAt
  let succeededAt ← awareUtc? r.succeededAt
  let watermark ← awareUtc? r.watermarkedAt
  pure {
    cursor := r.cursor.map (Option.map json)
    cursorVersion := r.cursorVersion
    backfillCursor := r.backfillCursor.map (Option.map json)
    nextRunAt := nextRunAt
    succeededAt := succeededAt
    watermark := watermark
    remoteIds := sortedIds (r.watermarkRemoteIds.getD []) }

/-- The watermark columns after a publication. -/
def advance (x : Subscription) (watermark : Option Time) (remoteIds : List String) : Subscription :=
  match watermark with
  | none => x
  | some incoming =>
    match x.watermarkedAt with
    | none => { x with watermarkedAt := some incoming, watermarkRemoteIds := remoteIds }
    | some current =>
      if current < incoming then
        { x with watermarkedAt := some incoming, watermarkRemoteIds := remoteIds }
      else if incoming = current then
        { x with watermarkRemoteIds := sortedIds (x.watermarkRemoteIds ++ remoteIds) }
      else x

/-- The cursor and schedule columns after a publication. -/
def moved (now : Time) (c : Checkpoint) (x : Subscription) : Subscription :=
  { x with
    cursor := c.cursor.getD x.cursor
    cursorVersion := c.cursorVersion.getD x.cursorVersion
    backfillCursor := c.backfillCursor.getD x.backfillCursor
    lastRunAt := some (c.succeededAt.getD now)
    nextRunAt := c.nextRunAt.getD x.nextRunAt }

/-- The success columns after a publication. -/
def succeeded (succeededAt : Option Time) (x : Subscription) : Subscription :=
  match succeededAt with
  | none => x
  | some succeededAt => { x with lastSuccessAt := some succeededAt, consecutiveFailures := 0 }

/-- The columns that follow the claimed revision. -/
def published (now : Time) (c : Checkpoint) (x : Subscription) : Subscription :=
  succeeded c.succeededAt (advance (moved now c x) c.watermark c.remoteIds)

/-- Why the statement matched no row. -/
def refusal (id : String) (expected : Int) : Option Subscription → CheckpointError
  | none => notFoundError s!"subscription not found: {id}"
  | some current =>
    if current.deletedAt.isSome then subscriptionRemovalError "subscription_removed"
    else staleCheckpointError id expected current.checkpointRevision

/-- The statement that claims a revision: `update(Subscription).where(...).returning(...)`. -/
def claimRevision (id : String) (expected : Int) :
    Tx Subscriptions CheckpointError (Option Subscription) :=
  Tx.modifyGet (fun db => db.updateReturning id
    (fun x => (x.checkpointRevision : Int) = expected && x.deletedAt.isNone)
    (fun x => { x with checkpointRevision := x.checkpointRevision + 1 }))

/-- The flush of a row's columns. -/
def flush (x : Subscription) : Tx Subscriptions CheckpointError Unit :=
  Tx.modify (fun db => db.replace x (fun x old => { x with id := old.id }))

def publishCheckpoint (json : Json → Json) (now : Time) (id : String) (r : CheckpointRequest) :
    Tx Subscriptions CheckpointError Subscription := do
  let c ← Tx.ofExcept (normalize json r)
  let subscription ← claimRevision id r.expectedRevision
  match subscription with
  | none => do
    let current ← Tx.read (fun db => db.get? id)
    Tx.throw (refusal id r.expectedRevision current)
  | some x => do
    let y := published now c x
    flush y
    pure y

end MediaSync.Ingestion
