import MediaSync.Foundation.Program
import MediaSync.Accounts.AdoptionAccount

/-!
# The machine under a profile adoption

Every system call and every transaction of an adoption is one step, and any
step may fail by itself: what fails changes nothing. Between two steps others
may write to the database, and nobody else touches the runtime directory.

The machine keeps a record beside its files and its rows: what stood in the
runtime directory when the probe answered, the transactions that were
committed, and the calls on files that raised.
-/

namespace MediaSync.Accounts.ProfileAdoption

open Python Transaction Program

/-- `MediaCrawlerLoginStatus`. -/
inductive ProbeStatus where
  | authenticated | expired | failed | browserLaunchFailed | upstreamLoginExited
  | upstreamBrowserTimeout | loginConfirmationFailed | timedOut | cancelled | accountBusy
  | configurationInvalid | startFailed | resultInvalid
  deriving DecidableEq, Repr

/-- How the run of the probe ends. -/
inductive ProbeAnswer where
  | raisedException
  | raisedOther
  | noLoginResult
  | loginResult (status : ProbeStatus) (upstreamSha : Option String)
  deriving DecidableEq

inductive AdoptionCall where
  | file (c : FileCall)
  | isSet
  | now
  | snapshot (accountId : String) (expectedAuthRevision : Nat)
  | probe (accountRoot : TreePath)
  | publish (s : AccountSnapshot) (current : Time)
  | release (p : TreePath)

abbrev AdoptionCall.Reply : AdoptionCall → Type
  | .file c => Except OsError c.Reply
  | .isSet => Bool
  | .now => Option Time
  | .snapshot _ _ => Except DbError AccountSnapshot
  | .probe _ => ProbeAnswer
  | .publish _ _ => Except DbError (Nat × Nat)
  | .release _ => Unit

/-- A call that fails raises one of these. -/
inductive OsFault where
  | permission | other
  deriving DecidableEq, Repr

def OsFault.error : OsFault → OsError
  | permission => .permission
  | other => .other

/-- What an entry becomes, by the way from the account directory of the probe. -/
abbrev Edit := TreePath × Option Entry

def Edit.apply (root : TreePath) (t : FileTree) (edit : Edit) : FileTree :=
  match edit.2 with
  | none => t.remove (root ++ edit.1)
  | some e => t.put (root ++ edit.1) e

/-- What decides the steps of the machine; a step is named by its number. -/
structure AdoptionHost where
  repo : Scheduler.SchedulerRepository
  /-- the call on a file or the transaction that fails -/
  faults : Nat → Option OsFault
  /-- the most bytes that a transfer moves -/
  moves : Nat → Nat
  /-- the cancellation event -/
  cancelled : Nat → Bool
  clock : Nat → Option Time
  /-- what the others did to the database since the step before -/
  others : Nat → AdoptionDb → AdoptionDb
  /-- the answer of the probe and what it did under the account directory it was given -/
  probe : FileTree → ProbeAnswer × List Edit

structure AdoptionWorld where
  files : FileTree
  db : AdoptionDb
  tick : Nat
  /-- the answer of the probe and the files when it answered -/
  probed : Option (ProbeAnswer × FileTree)
  /-- the committed transactions, with the rows before and after each -/
  commits : List (AdoptionDb × AdoptionDb)
  /-- the calls on files that raised, and what they raised -/
  raised : List (FileCall × OsError)

namespace AdoptionHost

variable (host : AdoptionHost)

/-- The world at the next step. -/
def arrive (w : AdoptionWorld) : AdoptionWorld :=
  { w with tick := w.tick + 1, db := host.others w.tick w.db }

/-- What the call does, unless it fails. -/
def outcome (c : FileCall) (w : AdoptionWorld) : FileOutcome c.Reply :=
  match host.faults w.tick with
  | some fault => (.error fault.error, w.files)
  | none => c.effect (host.moves w.tick) w.files

def recorded {α : Type} (c : FileCall) : Except OsError α → List (FileCall × OsError)
  | .ok _ => []
  | .error e => [(c, e)]

def performFile (c : FileCall) (w : AdoptionWorld) : Except OsError c.Reply × AdoptionWorld :=
  ((host.outcome c w).1,
    { host.arrive w with
      files := (host.outcome c w).2
      raised := w.raised ++ recorded c (host.outcome c w).1 })

/-- The session of `_snapshot`, which writes nothing. -/
def performSnapshot (accountId : String) (expectedAuthRevision : Nat) (w : AdoptionWorld) :
    Except DbError AccountSnapshot × AdoptionWorld :=
  match host.faults w.tick with
  | some _ => (.error .sqlAlchemy, host.arrive w)
  | none => ((snapshot accountId expectedAuthRevision (host.arrive w).db.login).1, host.arrive w)

/-- The session that publishes. One that fails at any of its statements or at its commit is rolled
back. -/
def performPublish (s : AccountSnapshot) (current : Time) (w : AdoptionWorld) :
    Except DbError (Nat × Nat) × AdoptionWorld :=
  match host.faults w.tick with
  | some _ => (.error .sqlAlchemy, host.arrive w)
  | none =>
    match publishing host.repo s current (host.arrive w).db with
    | (.error e, _) => (.error e, host.arrive w)
    | (.ok r, db) =>
      (.ok r, { host.arrive w with db := db, commits := w.commits ++ [((host.arrive w).db, db)] })

def performProbe (accountRoot : TreePath) (w : AdoptionWorld) : ProbeAnswer × AdoptionWorld :=
  let files := (host.probe w.files).2.foldl (Edit.apply accountRoot) w.files
  ((host.probe w.files).1,
    { host.arrive w with files := files, probed := some ((host.probe w.files).1, files) })

def perform : Performs AdoptionCall AdoptionCall.Reply AdoptionWorld
  | .file c, w => host.performFile c w
  | .isSet, w => (host.cancelled w.tick, host.arrive w)
  | .now, w => (host.clock w.tick, host.arrive w)
  | .snapshot accountId revision, w => host.performSnapshot accountId revision w
  | .probe accountRoot, w => host.performProbe accountRoot w
  | .publish s current, w => host.performPublish s current w
  | .release _, w => ((), host.arrive w)

/-- A world in which no adoption has begun. -/
def begin (files : FileTree) (db : AdoptionDb) : AdoptionWorld := ⟨files, db, 0, none, [], []⟩

/-- The rows after so many steps, if only the others write. -/
def drift (db : AdoptionDb) : Nat → AdoptionDb
  | 0 => db
  | n + 1 => host.others n (drift db n)

end AdoptionHost

end MediaSync.Accounts.ProfileAdoption
