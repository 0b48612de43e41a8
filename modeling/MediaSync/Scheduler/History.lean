import MediaSync.Foundation.Transition
import MediaSync.Scheduler.Frames

/-!
# Histories of transactions

A history is a sequence of committed or rolled back repository transactions,
issued by anyone with any arguments, between which other code may change the
database as far as the relation `env` lets it.
-/

namespace MediaSync.Scheduler

open Python Transaction Transition

/-- One repository transaction with its arguments. -/
inductive Op where
  | materializeDue (limit : Int) (now : Time) (retry : RetryPolicy)
  | materializeOne (subscriptionId : String) (revision : Int) (now : Time) (retry : RetryPolicy)
  | claimNext (args : SchedulerRepository.ClaimArguments)
  | claimExact (jobId subscriptionId : String) (args : SchedulerRepository.ClaimArguments)
  | start (jobId workerId leaseToken : String) (now : Time)
  | heartbeat (jobId workerId leaseToken : String) (leaseSeconds : Int) (now : Time)
  | assertOwned (jobId workerId leaseToken : String) (now : Time)
  | attachRun (jobId workerId leaseToken runId : String) (expected : Option String) (now : Time)
  | succeed (jobId workerId leaseToken : String) (runId : Option String) (now : Time)
  | fail (jobId workerId leaseToken errorCode : String) (retryAt : Option Time)
      (affectsCircuit : Option Bool) (runId : Option String) (now : Time)
  | wait (jobId workerId leaseToken : String) (status : SchedulerRepository.WaitingStatus)
      (errorCode : String) (affectsCircuit : Option Bool) (runId : Option String) (now : Time)
  | resume (jobId : String) (now : Time)
  | resumeWaitingAuthForAccount (accountId : String) (now : Time)
  | cancel (jobId : String) (now : Time)
  | remove (subscriptionId : String) (now : Time)
  | restore (subscriptionId : String) (now : Time)
  | updateLane (policy : LanePolicy) (expectedRevision : Option Int) (now : Time)
  | resetLane (policy : LanePolicy) (expectedRevision : Option Int) (now : Time)
  | pauseSubscription (subscriptionId : String) (now : Time)
  | resumeSubscription (subscriptionId : String) (now : Time)
  | runNow (subscriptionId : String) (now : Time)

inductive Reply where
  | claimed (claim : Option SchedulerClaim)
  | leased (claim : SchedulerClaim)
  | job (summary : SchedulerJobSummary)
  | done

open SchedulerRepository in
def Op.perform (repo : SchedulerRepository) : Op → Session Reply
  | materializeDue limit now retry => do
    let _ ← repo.materializeDue limit now retry
    pure .done
  | materializeOne subscriptionId revision now retry => do
    let _ ← repo.materializeOne subscriptionId revision now retry
    pure .done
  | claimNext args => do
    let claim ← repo.claimNext args
    pure (.claimed claim)
  | claimExact jobId subscriptionId args => do
    let claim ← repo.claimExact jobId subscriptionId args
    pure (.claimed claim)
  | start jobId workerId leaseToken now => do
    let claim ← SchedulerRepository.start jobId workerId leaseToken now
    pure (.leased claim)
  | heartbeat jobId workerId leaseToken leaseSeconds now => do
    let claim ← SchedulerRepository.heartbeat jobId workerId leaseToken leaseSeconds now
    pure (.leased claim)
  | assertOwned jobId workerId leaseToken now => do
    let claim ← SchedulerRepository.assertOwned jobId workerId leaseToken now
    pure (.leased claim)
  | attachRun jobId workerId leaseToken runId expected now => do
    let claim ← SchedulerRepository.attachRun jobId workerId leaseToken runId expected now
    pure (.leased claim)
  | succeed jobId workerId leaseToken runId now => do
    let summary ← repo.succeed jobId workerId leaseToken runId now
    pure (.job summary)
  | fail jobId workerId leaseToken errorCode retryAt affectsCircuit runId now => do
    let summary ← repo.fail jobId workerId leaseToken errorCode retryAt affectsCircuit runId now
    pure (.job summary)
  | wait jobId workerId leaseToken status errorCode affectsCircuit runId now => do
    let summary ← repo.wait jobId workerId leaseToken status errorCode affectsCircuit runId now
    pure (.job summary)
  | resume jobId now => do
    let summary ← repo.resume jobId now
    pure (.job summary)
  | resumeWaitingAuthForAccount accountId now => do
    let _ ← repo.resumeWaitingAuthForAccount accountId now
    pure .done
  | cancel jobId now => do
    let summary ← repo.cancel jobId now
    pure (.job summary)
  | remove subscriptionId now => do
    let _ ← repo.remove subscriptionId now
    pure .done
  | restore subscriptionId now => do
    repo.restore subscriptionId now
    pure .done
  | updateLane policy expectedRevision now => do
    let _ ← MediaSync.Scheduler.updateLane repo.uuid policy expectedRevision now
    pure .done
  | resetLane policy expectedRevision now => do
    let _ ← MediaSync.Scheduler.resetLane policy expectedRevision now
    pure .done
  | pauseSubscription subscriptionId now => do
    let _ ← SchedulerRepository.pauseSubscription subscriptionId now
    pure .done
  | resumeSubscription subscriptionId now => do
    let _ ← SchedulerRepository.resumeSubscription subscriptionId now
    pure .done
  | runNow subscriptionId now => do
    let _ ← SchedulerRepository.runNow subscriptionId now
    pure .done

/-- The job, worker, token and clock that an owned operation is called with. -/
structure LeaseCall where
  jobId : String
  workerId : String
  leaseToken : String
  now : Time

def Op.leaseCall? : Op → Option LeaseCall
  | start j w t now => some ⟨j, w, t, now⟩
  | heartbeat j w t _ now => some ⟨j, w, t, now⟩
  | assertOwned j w t now => some ⟨j, w, t, now⟩
  | attachRun j w t _ _ now => some ⟨j, w, t, now⟩
  | succeed j w t _ now => some ⟨j, w, t, now⟩
  | fail j w t _ _ _ _ now => some ⟨j, w, t, now⟩
  | wait j w t _ _ _ _ now => some ⟨j, w, t, now⟩
  | _ => none

/-- The operations that end a lease from the worker's side. -/
def Op.isFinalizer : Op → Bool
  | succeed .. | fail .. | wait .. => true
  | _ => false

/-- The worker of a claim. -/
def Op.claimer? : Op → Option String
  | claimNext args => some args.workerId
  | claimExact _ _ args => some args.workerId
  | _ => none

inductive Event where
  | call (before : Db) (op : Op) (reply : Except SchedulerError Reply) (after : Db)
  | elsewhere (before after : Db)

namespace Event

def before : Event → Db
  | call b _ _ _ => b
  | elsewhere b _ => b

def after : Event → Db
  | call _ _ _ a => a
  | elsewhere _ a => a

end Event

/-- An event happens between its two states. -/
inductive Step (repo : SchedulerRepository) (env : Db → Db → Prop) : Db → Event → Db → Prop
  | call {s t : Db} (op : Op) {reply : Except SchedulerError Reply} :
      Tx.commit (op.perform repo) s = (reply, t) → Step repo env s (.call s op reply t) t
  | elsewhere {s t : Db} : env s t → Step repo env s (.elsewhere s t) t

theorem Step.ends {repo : SchedulerRepository} {env : Db → Db → Prop} {s t : Db} {e : Event}
    (h : Step repo env s e t) : e.before = s ∧ e.after = t := by
  cases h with
  | call op h => exact ⟨rfl, rfl⟩
  | elsewhere h => exact ⟨rfl, rfl⟩

/-- The events from a state, in order, and the state they lead to. -/
abbrev History (repo : SchedulerRepository) (env : Db → Db → Prop) : Db → List Event → Db → Prop :=
  Trace (Step repo env)

/-- The events of issuing operations one after the other. -/
def replay (repo : SchedulerRepository) : Db → List Op → List Event × Db
  | s, [] => ([], s)
  | s, op :: ops =>
    let r := Tx.commit (op.perform repo) s
    let rest := replay repo r.2 ops
    (.call s op r.1 r.2 :: rest.1, rest.2)

theorem replay_history (repo : SchedulerRepository) (env : Db → Db → Prop) (s : Db)
    (ops : List Op) : History repo env s (replay repo s ops).1 (replay repo s ops).2 := by
  induction ops generalizing s with
  | nil => exact .nil
  | cons op ops ih => exact Trace.cons (Step.call op rfl) (ih _)

/-- A repository with no delivery contract installed. -/
def sampleRepository : SchedulerRepository where
  uuid n := String.ofList (List.replicate (n + 1) 'a')
  codec := {
    sha256 := id
    policyFingerprint := fun _ _ _ => none
    headCursor := fun _ _ => none
    isUuid := fun _ => true }
  biliUpstreamSha := none
  xhsUpstreamSha := none
  douyinUpstreamSha := none
  delayAfterSuccess := fun _ _ _ _ _ interval => interval
  utcNow := fun n => n
  operationBusy := fun _ _ => false

theorem sampleRepository_fresh : Function.Injective sampleRepository.uuid := by
  intro m n h
  have hlist := congrArg (fun s => s.toList.length) h
  simpa [sampleRepository] using hlist

/-- One enabled subscription, due at once, and nothing else. -/
def sampleDb : Db where
  accounts := ⟨[{
    id := "account"
    platform := .bili
    adapter := "sample"
    authStatus := "valid"
    authRevision := 0 }], List.nodup_singleton _⟩
  authors := ⟨[{ id := "author", platform := .bili, remoteId := "1" }], List.nodup_singleton _⟩
  subscriptions := ⟨[{
    id := "subscription"
    accountId := "account"
    authorId := "author"
    enabled := true
    deletedAt := none
    intervalSeconds := 3600
    maxItems := 20
    cursor := none
    checkpointRevision := 0
    scheduleRevision := 0
    policy := .obj []
    nextRunAt := none
    lastRunAt := none
    lastSuccessAt := none
    consecutiveFailures := 0
    createdAt := 0
    updatedAt := 0 }], List.nodup_singleton _⟩
  jobs := .empty
  runs := .empty
  lanes := .empty
  operations := .empty
  progress := .empty
  scanProgress := .empty
  runContents := .empty
  drawn := 0

end MediaSync.Scheduler
