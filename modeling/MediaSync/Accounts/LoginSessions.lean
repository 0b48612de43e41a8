import MediaSync.Foundation.Statement
import MediaSync.Foundation.Transaction
import MediaSync.Foundation.Python

/-!
# Login sessions

An interactive login is a row of its own beside the account it is for. Each
operation moves both rows inside one savepoint, and compares the stage of the
session, the state of the account and the absence of a second active session
in the statements that write.
-/

namespace MediaSync.Accounts

open Python Transaction

inductive AuthStatus where
  | unknown | required | authenticating | authenticated | expired | failed
  deriving DecidableEq, Repr

inductive LoginMethod where
  | qr | cookie | savedSession | phone
  deriving DecidableEq, Repr

inductive LoginStatus where
  | pending | waitingUser | succeeded | expired | failed | cancelled
  deriving DecidableEq, Repr

namespace LoginStatus

/-- `_ACTIVE_STATUSES`. -/
def isActive : LoginStatus → Bool
  | pending | waitingUser => true
  | _ => false

def value : LoginStatus → String
  | pending => "pending"
  | waitingUser => "waiting_user"
  | succeeded => "succeeded"
  | expired => "expired"
  | failed => "failed"
  | cancelled => "cancelled"

end LoginStatus

structure LoginAccount where
  id : String
  platform : String
  adapter : String
  loginMethod : Option LoginMethod
  credentialRef : Option String
  profilePath : Option String
  authStatus : AuthStatus
  authUpdatedAt : Option Time
  authRevision : Nat
  updatedAt : Time
  deriving DecidableEq

structure LoginSession where
  id : String
  accountId : String
  method : LoginMethod
  challengeKind : Option String
  status : LoginStatus
  expiresAt : Option Time
  completedAt : Option Time
  createdAt : Time
  updatedAt : Time
  deriving DecidableEq

structure LoginStore where
  accounts : Table LoginAccount.id
  sessions : Table LoginSession.id

inductive LoginError where
  | valueError (message : String)
  | notFoundError (message : String)
  | accountLoginConflictError (accountId : String)
  | loginSessionConflictError (loginSessionId expectedStatus : String)
  | integrityError (table : String)
  deriving DecidableEq

abbrev LoginTx := Tx LoginStore LoginError

namespace LoginSessionRepository

open LoginError

/-- An account that MediaCrawler logs in by itself: no secret and no profile of its own. -/
def isManaged (a : LoginAccount) : Bool :=
  a.adapter = "mediacrawler" && a.credentialRef.isNone && a.profilePath.isNone

/-- The account is in the middle of a QR login. -/
def isAuthenticating (a : LoginAccount) : Bool :=
  isManaged a && a.loginMethod = some .qr && a.authStatus = .authenticating

/-- `_START_AUTH_STATUSES`. -/
def startAuthStatuses : List AuthStatus := [.unknown, .required, .expired, .failed]

/-- A QR account that is not logged in, or a saved session that has expired. -/
def isEligible (a : LoginAccount) : Bool :=
  (a.loginMethod = some .qr && a.authStatus ∈ startAuthStatuses) ||
    (a.loginMethod = some .savedSession && a.authStatus = .expired)

def activeSessionExists (db : LoginStore) (accountId : String) : Bool :=
  db.sessions.rows.any (fun x => x.accountId = accountId && x.status.isActive)

def activeSiblingExists (db : LoginStore) (x : LoginSession) : Bool :=
  db.sessions.rows.any (fun y => y.accountId = x.accountId && y.id ≠ x.id && y.status.isActive)

/-- `_current_session_condition`, without the identifier that the statement names. -/
def isCurrent (db : LoginStore) (expected : LoginStatus) (notExpiredAt : Option Time)
    (x : LoginSession) : Bool :=
  x.method = .qr && x.challengeKind = some "qr" && x.status = expected &&
    (db.accounts.get? x.accountId).any isAuthenticating && !activeSiblingExists db x &&
    notExpiredAt.all (fun t => x.expiresAt.any (t < ·))

/-- The columns that a statement writes; the keys are never among them. -/
def keyedAccount (values : LoginAccount → LoginAccount) (a : LoginAccount) : LoginAccount :=
  { values a with id := a.id }

def keyedSession (values : LoginSession → LoginSession) (x : LoginSession) : LoginSession :=
  { values x with id := x.id, accountId := x.accountId }

def updateAccount (id : String) (conditions : LoginStore → LoginAccount → Bool)
    (values : LoginAccount → LoginAccount) : LoginTx (Option LoginAccount) :=
  Tx.modifyGet (fun db =>
    ((db.accounts.updateReturning id (conditions db) (keyedAccount values)).1,
      { db with
        accounts := (db.accounts.updateReturning id (conditions db) (keyedAccount values)).2 }))

def updateSession (id : String) (conditions : LoginStore → LoginSession → Bool)
    (values : LoginSession → LoginSession) : LoginTx (Option LoginSession) :=
  Tx.modifyGet (fun db =>
    ((db.sessions.updateReturning id (conditions db) (keyedSession values)).1,
      { db with
        sessions := (db.sessions.updateReturning id (conditions db) (keyedSession values)).2 }))

def insertSession (x : LoginSession) : LoginTx Unit := fun db =>
  match db.sessions.insert? x with
  | some sessions => (.ok (), { db with sessions := sessions })
  | none => (.error (integrityError "login_sessions"), db)

/-- `_raise_account_login_conflict`. -/
def raiseAccountLoginConflict (accountId : String) : LoginTx LoginSession := do
  let account ← Tx.read (fun db : LoginStore => db.accounts.get? accountId)
  Tx.require account.isSome (notFoundError s!"account not found: {accountId}")
  Tx.throw (accountLoginConflictError accountId)

/-- `_raise_login_session_conflict`. -/
def raiseLoginSessionConflict (loginSessionId : String) (expected : LoginStatus) :
    LoginTx LoginSession := do
  let existing ← Tx.read (fun db : LoginStore => db.sessions.get? loginSessionId)
  Tx.require existing.isSome (notFoundError s!"login session not found: {loginSessionId}")
  Tx.throw (loginSessionConflictError loginSessionId expected.value)

def startedAccount (current : Time) (a : LoginAccount) : LoginAccount :=
  { a with
    loginMethod := some .qr, authStatus := .authenticating, authUpdatedAt := some current
    authRevision := a.authRevision + 1, updatedAt := current }

def pendingSession (newId accountId : String) (expiry current : Time) : LoginSession where
  id := newId
  accountId := accountId
  method := .qr
  challengeKind := some "qr"
  status := .pending
  expiresAt := some expiry
  completedAt := none
  createdAt := current
  updatedAt := current

/-- `start_mediacrawler_qr`; `newId` is what `new_uuid` returns. -/
def startMediacrawlerQr (newId accountId : String) (expiry current : Time) :
    LoginTx LoginSession := do
  Tx.require (current < expiry)
    (valueError "login session expiry must be later than its start time")
  Tx.commit do
    let account ← updateAccount accountId
      (fun db a => isManaged a && isEligible a && !activeSessionExists db a.id)
      (startedAccount current)
    match account with
    | none => raiseAccountLoginConflict accountId
    | some _ => do
      insertSession (pendingSession newId accountId expiry current)
      pure (pendingSession newId accountId expiry current)

def waitingSession (current : Time) (x : LoginSession) : LoginSession :=
  { x with status := .waitingUser, updatedAt := current }

def markWaitingUser (loginSessionId : String) (current : Time) : LoginTx LoginSession :=
  Tx.commit do
    let updated ← updateSession loginSessionId (fun db => isCurrent db .pending (some current))
      (waitingSession current)
    match updated with
    | none => raiseLoginSessionConflict loginSessionId .pending
    | some x => pure x

/-- The ways in which a login ends. -/
inductive Outcome where
  | succeeded | expired | failed | cancelled
  deriving DecidableEq, Repr

namespace Outcome

/-- `target_status`. -/
def sessionStatus : Outcome → LoginStatus
  | succeeded => .succeeded
  | expired => .expired
  | failed => .failed
  | cancelled => .cancelled

/-- `account_auth_status`. -/
def authStatus : Outcome → AuthStatus
  | succeeded => .authenticated
  | expired => .required
  | failed => .failed
  | cancelled => .required

/-- `saved_session` and `require_unexpired`. -/
def handsOver : Outcome → Bool
  | succeeded => true
  | _ => false

end Outcome

def finishedSession (outcome : Outcome) (current : Time) (x : LoginSession) : LoginSession :=
  { x with status := outcome.sessionStatus, completedAt := some current, updatedAt := current }

def finishedAccount (outcome : Outcome) (current : Time) (a : LoginAccount) : LoginAccount :=
  { a with
    authStatus := outcome.authStatus, authUpdatedAt := some current
    authRevision := a.authRevision + 1, updatedAt := current
    loginMethod := if outcome.handsOver then some .savedSession else a.loginMethod }

/-- `_finish_mediacrawler_qr`. -/
def finishMediacrawlerQr (loginSessionId : String) (outcome : Outcome) (current : Time) :
    LoginTx LoginSession :=
  Tx.commit do
    let updated ← updateSession loginSessionId
      (fun db => isCurrent db .waitingUser (if outcome.handsOver then some current else none))
      (finishedSession outcome current)
    match updated with
    | none => raiseLoginSessionConflict loginSessionId .waitingUser
    | some x => do
      let account ← updateAccount x.accountId (fun _ => isAuthenticating)
        (finishedAccount outcome current)
      match account with
      | none => Tx.throw (loginSessionConflictError loginSessionId LoginStatus.waitingUser.value)
      | some _ => pure x

def succeedMediacrawlerQr (loginSessionId : String) (current : Time) : LoginTx LoginSession :=
  finishMediacrawlerQr loginSessionId .succeeded current

def expireMediacrawlerQr (loginSessionId : String) (current : Time) : LoginTx LoginSession :=
  finishMediacrawlerQr loginSessionId .expired current

def failMediacrawlerQr (loginSessionId : String) (current : Time) : LoginTx LoginSession :=
  finishMediacrawlerQr loginSessionId .failed current

def cancelMediacrawlerQr (loginSessionId : String) (current : Time) : LoginTx LoginSession :=
  finishMediacrawlerQr loginSessionId .cancelled current

/-- `ExpiredLoginSessionCandidate`. -/
structure ExpiredCandidate where
  loginSessionId : String
  accountId : String
  platform : String
  expectedStatus : LoginStatus
  expectedExpiresAt : Time

/-- `recover_expired_mediacrawler_qr`. -/
def recoverExpiredMediacrawlerQr (candidate : ExpiredCandidate) (current : Time) :
    LoginTx LoginSession := do
  Tx.require candidate.expectedStatus.isActive
    (valueError "expected login session status must be pending or waiting_user")
  Tx.commit do
    let updated ← updateSession candidate.loginSessionId
      (fun db x => isCurrent db candidate.expectedStatus none x &&
        x.accountId = candidate.accountId && x.expiresAt = some candidate.expectedExpiresAt &&
        x.expiresAt.any (· ≤ current))
      (finishedSession .expired current)
    match updated with
    | none => raiseLoginSessionConflict candidate.loginSessionId candidate.expectedStatus
    | some x => do
      let account ← updateAccount candidate.accountId
        (fun db a => a.id = x.accountId && a.platform = candidate.platform && isAuthenticating a &&
          !activeSessionExists db a.id)
        (finishedAccount .expired current)
      match account with
      | none =>
        Tx.throw (loginSessionConflictError candidate.loginSessionId candidate.expectedStatus.value)
      | some _ => pure x

end LoginSessionRepository

/-- One call of the repository. -/
inductive LoginCall where
  | start (newId accountId : String) (expiry now : Time)
  | markWaitingUser (loginSessionId : String) (now : Time)
  | finish (loginSessionId : String) (outcome : LoginSessionRepository.Outcome) (now : Time)
  | recoverExpired (candidate : LoginSessionRepository.ExpiredCandidate) (now : Time)

def LoginCall.run : LoginCall → LoginTx LoginSession
  | start newId accountId expiry now =>
    LoginSessionRepository.startMediacrawlerQr newId accountId expiry now
  | markWaitingUser loginSessionId now =>
    LoginSessionRepository.markWaitingUser loginSessionId now
  | finish loginSessionId outcome now =>
    LoginSessionRepository.finishMediacrawlerQr loginSessionId outcome now
  | recoverExpired candidate now =>
    LoginSessionRepository.recoverExpiredMediacrawlerQr candidate now

end MediaSync.Accounts
