import MediaSync.Accounts.LoginSessions
import MediaSync.Foundation.FileCalls
import MediaSync.Scheduler.LeaseOperations

/-!
# Publishing an adopted profile

The account whose saved session was verified is compared with what it was when
the verification began, and becomes authenticated by it. The same transaction
resumes the jobs that waited for the account to log in.
-/

namespace MediaSync.Accounts

open Python Transaction

/-- `PROFILE_ADOPTION_ERROR_CODES`. -/
inductive AdoptionCode where
  | accountNotFound | accountIneligible | busy | conflict
  | sourceMissing | sourceInvalid | sourceEmpty | copyFailed
  | probeFailed | probeUnavailable | resultInvalid | cancelled
  | filesystemFailed | rollbackFailed | cleanupFailed
  deriving DecidableEq, Repr

/-- `PROFILE_ADOPTION_ACCOUNT_ERROR_CODES`. -/
inductive AccountCode where
  | accountNotFound | accountIneligible | busy | conflict
  deriving DecidableEq, Repr

def AccountCode.code : AccountCode → AdoptionCode
  | accountNotFound => .accountNotFound
  | accountIneligible => .accountIneligible
  | busy => .busy
  | conflict => .conflict

/-- What a session raises. -/
inductive DbError where
  | account (code : AccountCode)
  | sqlAlchemy
  | scheduler (error : Scheduler.SchedulerError)
  deriving DecidableEq

/-- An exception on its way through the adoption. -/
inductive Raised where
  | adoption (code : AdoptionCode)
  | os (error : OsError)
  | db (error : DbError)
  /-- what no handler names, as a `KeyboardInterrupt` -/
  | other
  deriving DecidableEq

/-- The rows of one database: the scheduler sees an account through its own columns. -/
structure AdoptionDb where
  login : LoginStore
  scheduler : Scheduler.Db

/-- `ProfileAdoptionAccountSnapshot`. -/
structure AccountSnapshot where
  accountId : String
  platform : String
  authRevision : Nat
  adapter : String
  loginMethod : Option LoginMethod
  credentialRef : Option String
  profilePath : Option String
  authStatus : AuthStatus
  authUpdatedAt : Option Time
  deriving DecidableEq

namespace ProfileAdoption

def platforms : List String := ["xhs", "dy", "ks", "bili", "wb", "tieba", "zhihu"]

/-- The last revision but one of a signed 64-bit column. -/
def maxRevision : Nat := 2 ^ 63 - 1

/-- A QR login of the account is under way. -/
def activeQr (db : LoginStore) (accountId : String) : Bool :=
  db.sessions.rows.any (fun x =>
    x.accountId = accountId && x.method = .qr && x.status.isActive)

def account (accountId : String) : Tx LoginStore DbError LoginAccount := do
  Tx.require (isCanonicalUuid accountId) (.account .conflict)
  let found ← Tx.read (fun db => db.accounts.get? accountId)
  match found with
  | none => Tx.throw (.account .accountNotFound)
  | some found => do
    Tx.require (found.adapter = "mediacrawler" && found.platform ∈ platforms)
      (.account .accountIneligible)
    let active ← Tx.read (fun db => activeQr db accountId)
    Tx.require (!(found.authStatus = .authenticating || active)) (.account .busy)
    pure found

/-- `_snapshot`. -/
def snapshotOf (a : LoginAccount) : AccountSnapshot where
  accountId := a.id
  platform := a.platform
  authRevision := a.authRevision
  adapter := a.adapter
  loginMethod := a.loginMethod
  credentialRef := a.credentialRef
  profilePath := a.profilePath
  authStatus := a.authStatus
  authUpdatedAt := a.authUpdatedAt

def snapshot (accountId : String) (expectedAuthRevision : Nat) :
    Tx LoginStore DbError AccountSnapshot := do
  Tx.require (expectedAuthRevision < maxRevision) (.account .conflict)
  let found ← account accountId
  Tx.require (found.authRevision = expectedAuthRevision) (.account .conflict)
  pure (snapshotOf found)

/-- What the conditional update compares. -/
def stillPublishable (db : LoginStore) (s : AccountSnapshot) (a : LoginAccount) : Bool :=
  a.platform = s.platform && a.adapter = "mediacrawler" && a.authRevision = s.authRevision &&
    a.authStatus ≠ .authenticating && !activeQr db a.id

/-- The conventional columns of an account with a saved session. -/
def publishedValues (current : Time) (a : LoginAccount) : LoginAccount :=
  { a with
    loginMethod := some .savedSession
    credentialRef := none
    profilePath := none
    authStatus := .authenticated
    authUpdatedAt := some current
    authRevision := a.authRevision + 1
    updatedAt := current }

def publish (s : AccountSnapshot) (current : Time) : Tx LoginStore DbError Nat := do
  let found ← account s.accountId
  Tx.require (snapshotOf found = s && s.authRevision < maxRevision) (.account .conflict)
  let written ← Tx.modifyGet (fun db =>
    let statement := db.accounts.updateReturning s.accountId (stillPublishable db s)
      (publishedValues current)
    (statement.1, { db with accounts := statement.2 }))
  match written with
  | none => Tx.throw (.account .conflict)
  | some written => pure written.authRevision

/-- The account as the scheduler sees it afterwards. -/
def authenticatedView (accountId : String) (revision : Nat) (db : Scheduler.Db) : Scheduler.Db :=
  { db with
    accounts := db.accounts.update (fun a => a.id = accountId)
      (fun a => { a with authStatus := "authenticated", authRevision := revision }) }

def onLogin {α : Type} (m : Tx LoginStore DbError α) : Tx AdoptionDb DbError α := fun db =>
  ((m db.login).1, { db with login := (m db.login).2 })

def onScheduler {α : Type} (m : Scheduler.Session α) : Tx AdoptionDb DbError α := fun db =>
  ((m db.scheduler).1.mapError DbError.scheduler, { db with scheduler := (m db.scheduler).2 })

/-- The transaction that publishes the profile: the new revision and the jobs that it resumed. -/
def publishing (repo : Scheduler.SchedulerRepository) (s : AccountSnapshot) (current : Time) :
    Tx AdoptionDb DbError (Nat × Nat) :=
  Tx.commit (do
    let revision ← onLogin (publish s current)
    Tx.modify (fun db => { db with scheduler := authenticatedView s.accountId revision db.scheduler })
    let resumed ← onScheduler (repo.resumeWaitingAuthForAccount s.accountId current)
    pure (revision, resumed))

variable {s : AccountSnapshot} {current : Time} {db db' : LoginStore} {revision : Nat}

theorem account_ok {accountId : String} {a : LoginAccount}
    (h : account accountId db = (.ok a, db')) : db' = db ∧ db.accounts.get? accountId = some a := by
  obtain ⟨_, h₁⟩ := Tx.run_bind_require h
  rw [Tx.run_read_bind] at h₁
  cases hfound : db.accounts.get? accountId with
  | none =>
    rw [hfound] at h₁
    cases h₁
  | some found =>
    rw [hfound] at h₁
    obtain ⟨_, h₂⟩ := Tx.run_bind_require h₁
    rw [Tx.run_read_bind] at h₂
    obtain ⟨_, h₃⟩ := Tx.run_bind_require h₂
    cases h₃
    exact ⟨rfl, rfl⟩

/-- The row is written over the one that was observed, one generation on. -/
theorem publish_ok (h : publish s current db = (.ok revision, db')) :
    ∃ a, db.accounts.get? s.accountId = some a ∧ snapshotOf a = s ∧
      revision = s.authRevision + 1 ∧
      db'.accounts.get? s.accountId = some (publishedValues current a) ∧
      db'.sessions = db.sessions := by
  obtain ⟨found, db₁, haccount, h₁⟩ := Tx.run_bind_ok h
  obtain ⟨hdb, hget⟩ := account_ok haccount
  rw [hdb] at h₁
  obtain ⟨hsame, h₂⟩ := Tx.run_bind_require h₁
  rw [Bool.and_eq_true, decide_eq_true_eq] at hsame
  obtain ⟨written, db₂, hwrite, h₃⟩ := Tx.run_bind_ok h₂
  cases hwrite
  cases hstatement : (db.accounts.updateReturning s.accountId (stillPublishable db s)
      (publishedValues current)).1 with
  | none =>
    rw [hstatement] at h₃
    cases h₃
  | some written =>
    rw [hstatement] at h₃
    cases h₃
    obtain ⟨r, hwrote⟩ := Table.updateReturning_some _ hstatement
    have hrow := hwrote.row
    rw [hget] at hrow
    obtain rfl := Option.some.inj hrow
    refine ⟨found, hget, hsame.1, ?_, ?_, rfl⟩
    · rw [hwrote.written, ← hsame.1]
      rfl
    · have hafter := hwrote.row_after
      rw [hwrote.written] at hafter
      exact hafter

theorem onLogin_ok {α : Type} {m : Tx LoginStore DbError α} {d d' : AdoptionDb} {a : α}
    (h : onLogin m d = (.ok a, d')) : m d.login = (.ok a, d'.login) := by
  cases hm : m d.login with
  | mk r login =>
    rw [onLogin, hm] at h
    cases h
    rfl

/-- The committed rows have the account authenticated, one generation after the snapshot. -/
theorem publishing_ok {repo : Scheduler.SchedulerRepository} {d d' : AdoptionDb}
    {published : Nat × Nat} (h : publishing repo s current d = (.ok published, d')) :
    ∃ a, d.login.accounts.get? s.accountId = some a ∧ snapshotOf a = s ∧
      published.1 = s.authRevision + 1 ∧
      d'.login.accounts.get? s.accountId = some (publishedValues current a) := by
  have hrun := Tx.commit_ok h
  obtain ⟨revision, d₁, hpublish, h₁⟩ := Tx.run_bind_ok hrun
  obtain ⟨a, hget, hsnapshot, hrevision, hwritten, _⟩ := publish_ok (onLogin_ok hpublish)
  obtain ⟨_, d₂, hview, h₂⟩ := Tx.run_bind_ok h₁
  cases hview
  obtain ⟨resumed, d₃, hresume, h₃⟩ := Tx.run_bind_ok h₂
  cases h₃
  have hlogin := congrArg (fun r => r.2.login) hresume
  refine ⟨a, hget, hsnapshot, hrevision, ?_⟩
  rw [← hwritten]
  exact congrArg (fun l : LoginStore => l.accounts.get? s.accountId) hlogin.symm

end ProfileAdoption

end MediaSync.Accounts
