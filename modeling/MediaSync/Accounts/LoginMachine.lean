import MediaSync.Accounts.LoginSessions
import MediaSync.Foundation.Transition

/-!
# Sessions and accounts in step

Every call that succeeds is one of three moves, and each of them writes the
session and the account together: a login starts, its code is shown, or it
ends. An account is authenticating exactly while it has its one active session.
-/

namespace MediaSync.Accounts

open Python Transaction Transition LoginSessionRepository

variable {s t u : LoginStore}

theorem updateAccount_some {id : String} {conditions : LoginStore → LoginAccount → Bool}
    {values : LoginAccount → LoginAccount} {a' : LoginAccount}
    (h : updateAccount id conditions values s = (.ok (some a'), t)) :
    t.sessions = s.sessions ∧
      ∃ a, Table.Wrote s.accounts id (conditions s) (keyedAccount values) a a' t.accounts := by
  unfold updateAccount at h
  rw [Tx.run_modifyGet, Prod.mk.injEq, Except.ok.injEq] at h
  obtain ⟨hrow, rfl⟩ := h
  exact ⟨rfl, Table.updateReturning_some (by intro r; rfl) hrow⟩

theorem updateSession_some {id : String} {conditions : LoginStore → LoginSession → Bool}
    {values : LoginSession → LoginSession} {x' : LoginSession}
    (h : updateSession id conditions values s = (.ok (some x'), t)) :
    t.accounts = s.accounts ∧
      ∃ x, Table.Wrote s.sessions id (conditions s) (keyedSession values) x x' t.sessions := by
  unfold updateSession at h
  rw [Tx.run_modifyGet, Prod.mk.injEq, Except.ok.injEq] at h
  obtain ⟨hrow, rfl⟩ := h
  exact ⟨rfl, Table.updateReturning_some (by intro r; rfl) hrow⟩

theorem insertSession_ok {x : LoginSession} {a : Unit} (h : insertSession x s = (.ok a, t)) :
    t.accounts = s.accounts ∧ s.sessions.insert? x = some t.sessions := by
  unfold insertSession at h
  split at h
  · rename_i sessions hins
    cases h
    exact ⟨rfl, hins⟩
  · cases h

theorem raiseAccountLoginConflict_not_ok {accountId : String} {x : LoginSession}
    (h : raiseAccountLoginConflict accountId s = (.ok x, t)) : False := by
  obtain ⟨_, _, h⟩ := Tx.run_bind_read (Tx.Within.read Tx.ReadOnly.chains _) h
  obtain ⟨_, h⟩ := Tx.run_bind_require h
  cases h

theorem raiseLoginSessionConflict_not_ok {id : String} {expected : LoginStatus} {x : LoginSession}
    (h : raiseLoginSessionConflict id expected s = (.ok x, t)) : False := by
  obtain ⟨_, _, h⟩ := Tx.run_bind_read (Tx.Within.read Tx.ReadOnly.chains _) h
  obtain ⟨_, h⟩ := Tx.run_bind_require h
  cases h

/-- What a call that succeeds does. -/
inductive LoginMove (s t : LoginStore) : Prop
  | started {accountId : String} {conditions : LoginAccount → Bool} {current : Time}
      {a a' : LoginAccount} {x : LoginSession} :
      Table.Wrote s.accounts accountId conditions (keyedAccount (startedAccount current)) a a'
        t.accounts →
      isManaged a = true → isEligible a = true → activeSessionExists s accountId = false →
      s.sessions.insert? x = some t.sessions → x.status = .pending → x.accountId = accountId →
      LoginMove s t
  | waited {id : String} {conditions : LoginSession → Bool} {current : Time}
      {x x' : LoginSession} :
      t.accounts = s.accounts →
      Table.Wrote s.sessions id conditions (keyedSession (waitingSession current)) x x'
        t.sessions → x.status = .pending → LoginMove s t
  | finished {id accountId : String} {onSession : LoginSession → Bool}
      {onAccount : LoginAccount → Bool} {outcome : Outcome} {current : Time}
      {x x' : LoginSession} {a a' : LoginAccount} :
      Table.Wrote s.sessions id onSession (keyedSession (finishedSession outcome current)) x x'
        t.sessions →
      x.status.isActive = true → activeSiblingExists s x = false → x.accountId = accountId →
      Table.Wrote s.accounts accountId onAccount (keyedAccount (finishedAccount outcome current))
        a a' t.accounts → isAuthenticating a = true → LoginMove s t

theorem isCurrent_iff {expected : LoginStatus} {at? : Option Time} {x : LoginSession}
    (h : isCurrent s expected at? x = true) :
    x.status = expected ∧ activeSiblingExists s x = false := by
  simp only [isCurrent, Bool.and_eq_true, decide_eq_true_eq, Bool.not_eq_true'] at h
  exact ⟨h.1.1.1.2, h.1.2⟩

theorem move_start {newId accountId : String} {expiry current : Time} {x : LoginSession}
    (h : startMediacrawlerQr newId accountId expiry current s = (.ok x, t)) : LoginMove s t := by
  obtain ⟨_, h⟩ := Tx.run_bind_require h
  obtain ⟨updated, u, hupdate, h⟩ := Tx.run_bind_ok (Tx.commit_ok h)
  cases updated with
  | none => exact (raiseAccountLoginConflict_not_ok h).elim
  | some a' =>
    obtain ⟨hsessions, a, hw⟩ := updateAccount_some hupdate
    obtain ⟨_, v, hinsert, h⟩ := Tx.run_bind_ok h
    obtain ⟨haccounts, hins⟩ := insertSession_ok hinsert
    cases h
    have hc := hw.compared
    simp only [Bool.and_eq_true, Bool.not_eq_true'] at hc
    obtain ⟨⟨hmanaged, heligible⟩, hnone⟩ := hc
    rw [Table.get?_key hw.row] at hnone
    rw [hsessions] at hins
    rw [← haccounts] at hw
    exact .started hw hmanaged heligible hnone hins rfl rfl

theorem move_markWaitingUser {id : String} {current : Time} {x : LoginSession}
    (h : markWaitingUser id current s = (.ok x, t)) : LoginMove s t := by
  obtain ⟨updated, u, hupdate, h⟩ := Tx.run_bind_ok (Tx.commit_ok h)
  cases updated with
  | none => exact (raiseLoginSessionConflict_not_ok h).elim
  | some x' =>
    obtain ⟨haccounts, x, hw⟩ := updateSession_some hupdate
    cases h
    exact .waited haccounts hw (isCurrent_iff hw.compared).1

theorem move_finish {id : String} {outcome : Outcome} {current : Time} {x : LoginSession}
    (h : finishMediacrawlerQr id outcome current s = (.ok x, t)) : LoginMove s t := by
  obtain ⟨updated, u, hupdate, h⟩ := Tx.run_bind_ok (Tx.commit_ok h)
  cases updated with
  | none => exact (raiseLoginSessionConflict_not_ok h).elim
  | some x' =>
    obtain ⟨haccounts, x, hw⟩ := updateSession_some hupdate
    obtain ⟨account, v, hupdate', h⟩ := Tx.run_bind_ok h
    cases account with
    | none => cases h
    | some a' =>
      obtain ⟨hsessions, a, hwa⟩ := updateAccount_some hupdate'
      cases h
      obtain ⟨hstatus, hsibling⟩ := isCurrent_iff hw.compared
      rw [haccounts] at hwa
      rw [← hsessions] at hw
      refine .finished hw (by rw [hstatus]; rfl) hsibling ?_ hwa hwa.compared
      rw [hw.written]
      rfl

theorem move_recoverExpired {candidate : ExpiredCandidate} {current : Time} {x : LoginSession}
    (h : recoverExpiredMediacrawlerQr candidate current s = (.ok x, t)) : LoginMove s t := by
  obtain ⟨hactive, h⟩ := Tx.run_bind_require h
  obtain ⟨updated, u, hupdate, h⟩ := Tx.run_bind_ok (Tx.commit_ok h)
  cases updated with
  | none => exact (raiseLoginSessionConflict_not_ok h).elim
  | some x' =>
    obtain ⟨haccounts, x, hw⟩ := updateSession_some hupdate
    obtain ⟨account, v, hupdate', h⟩ := Tx.run_bind_ok h
    cases account with
    | none => cases h
    | some a' =>
      obtain ⟨hsessions, a, hwa⟩ := updateAccount_some hupdate'
      cases h
      have hc := hw.compared
      simp only [Bool.and_eq_true, decide_eq_true_eq] at hc
      obtain ⟨⟨⟨hcurrent, haccount⟩, _⟩, _⟩ := hc
      obtain ⟨hstatus, hsibling⟩ := isCurrent_iff hcurrent
      have hauth := hwa.compared
      simp only [Bool.and_eq_true] at hauth
      rw [haccounts] at hwa
      rw [← hsessions] at hw
      exact .finished hw (by rw [hstatus]; exact hactive) hsibling haccount hwa hauth.1.2

theorem LoginCall.move {c : LoginCall} {x : LoginSession} (h : c.run s = (.ok x, t)) :
    LoginMove s t := by
  cases c with
  | start => exact move_start h
  | markWaitingUser => exact move_markWaitingUser h
  | finish => exact move_finish h
  | recoverExpired => exact move_recoverExpired h

/-- A call that raises leaves both tables as they were, also for a caller that catches it. -/
theorem LoginCall.error_unchanged {c : LoginCall} {e : LoginError} (h : c.run s = (.error e, t)) :
    t = s := by
  cases c with
  | start =>
    rcases Tx.run_bind_ends h with ⟨e', herr, _⟩ | ⟨_, u, hok, h⟩
    · exact (Tx.Within.require Tx.ReadOnly.chains _ _).ends herr
    · rw [Tx.commit_error h]
      exact (Tx.Within.require Tx.ReadOnly.chains _ _).ends hok
  | markWaitingUser => exact Tx.commit_error h
  | finish => exact Tx.commit_error h
  | recoverExpired =>
    rcases Tx.run_bind_ends h with ⟨e', herr, _⟩ | ⟨_, u, hok, h⟩
    · exact (Tx.Within.require Tx.ReadOnly.chains _ _).ends herr
    · rw [Tx.commit_error h]
      exact (Tx.Within.require Tx.ReadOnly.chains _ _).ends hok

/-- The account has an active session. -/
def HasActive (s : LoginStore) (accountId : String) : Prop :=
  ∃ k x, s.sessions.get? k = some x ∧ x.accountId = accountId ∧ x.status.isActive = true

structure InStep (s : LoginStore) : Prop where
  paired : ∀ k x, s.sessions.get? k = some x → x.status.isActive = true →
    ∃ a, s.accounts.get? x.accountId = some a ∧ isAuthenticating a = true
  single : ∀ k l x y, s.sessions.get? k = some x → s.sessions.get? l = some y →
    x.status.isActive = true → y.status.isActive = true → x.accountId = y.accountId → k = l
  waits : ∀ id a, s.accounts.get? id = some a → a.authStatus = .authenticating → HasActive s id

theorem activeSessionExists_false {accountId : String}
    (h : activeSessionExists s accountId = false) : ¬ HasActive s accountId := by
  rintro ⟨k, x, hx, haccount, hactive⟩
  have := List.any_eq_false.1 h x (Table.get?_mem hx)
  simp [haccount, hactive] at this

theorem activeSiblingExists_false {x y : LoginSession} {k : String}
    (h : activeSiblingExists s x = false) (hy : s.sessions.get? k = some y)
    (haccount : y.accountId = x.accountId) (hactive : y.status.isActive = true) : k = x.id := by
  have := List.any_eq_false.1 h y (Table.get?_mem hy)
  simp only [haccount, hactive, decide_true, Bool.true_and, Bool.and_true, decide_eq_true_eq,
    ne_eq, not_not] at this
  rw [← this, Table.get?_key hy]

theorem isAuthenticating_status {a : LoginAccount} (h : isAuthenticating a = true) :
    a.authStatus = .authenticating := by
  simp only [isAuthenticating, Bool.and_eq_true, decide_eq_true_eq] at h
  exact h.2

theorem outcome_not_authenticating (outcome : Outcome) :
    outcome.authStatus ≠ .authenticating := by
  cases outcome <;> decide

theorem outcome_not_active (outcome : Outcome) : outcome.sessionStatus.isActive = false := by
  cases outcome <;> rfl

theorem startedAccount_authenticating {a : LoginAccount} {current : Time}
    (h : isManaged a = true) :
    isAuthenticating (keyedAccount (startedAccount current) a) = true := by
  simp only [isManaged, Bool.and_eq_true, decide_eq_true_eq] at h
  simp [isAuthenticating, isManaged, keyedAccount, startedAccount, h.1.1, h.1.2, h.2]

/-- An account that logs in anew has no active session but the new one. -/
theorem InStep.started {accountId : String} {conditions : LoginAccount → Bool} {current : Time}
    {a a' : LoginAccount} {x : LoginSession} (hs : InStep s)
    (hw : Table.Wrote s.accounts accountId conditions (keyedAccount (startedAccount current)) a a'
      t.accounts)
    (hmanaged : isManaged a = true) (hnone : activeSessionExists s accountId = false)
    (hins : s.sessions.insert? x = some t.sessions) (hstatus : x.status = .pending)
    (haccount : x.accountId = accountId) : InStep t := by
  have hfree := activeSessionExists_false hnone
  have hrow : t.accounts.get? accountId = some a' := hw.row_after
  -- the sessions of the other accounts are the old ones
  have hold : ∀ k y, t.sessions.get? k = some y → y.accountId ≠ accountId →
      s.sessions.get? k = some y := by
    intro k y hy hne
    rw [Table.get?_insert? hins] at hy
    split at hy
    · cases hy
      exact absurd haccount hne
    · exact hy
  have hmine : ∀ k y, t.sessions.get? k = some y → y.status.isActive = true →
      y.accountId = accountId → k = x.id := by
    intro k y hy hactive hacc
    rw [Table.get?_insert? hins] at hy
    split at hy
    · rename_i hk
      exact hk.symm
    · exact absurd ⟨k, y, hy, hacc, hactive⟩ hfree
  refine ⟨fun k y hy hactive => ?_, fun k l y z hy hz hya hza hacc => ?_, fun id b hb hauth => ?_⟩
  · by_cases hacc : y.accountId = accountId
    · rw [hacc]
      refine ⟨a', hrow, ?_⟩
      rw [hw.written]
      exact startedAccount_authenticating hmanaged
    · obtain ⟨b, hb, hbauth⟩ := hs.paired k y (hold k y hy hacc) hactive
      exact ⟨b, by rw [hw.row_other hacc, hb], hbauth⟩
  · by_cases hacc' : y.accountId = accountId
    · rw [hmine k y hy hya hacc', hmine l z hz hza (hacc ▸ hacc')]
    · exact hs.single k l y z (hold k y hy hacc') (hold l z hz (hacc ▸ hacc')) hya hza hacc
  · by_cases hid : id = accountId
    · refine ⟨x.id, x, ?_, haccount.trans hid.symm, by rw [hstatus]; rfl⟩
      rw [Table.get?_insert? hins, if_pos rfl]
    · rw [hw.row_other hid] at hb
      obtain ⟨k, y, hy, hacc, hactive⟩ := hs.waits id b hb hauth
      refine ⟨k, y, ?_, hacc, hactive⟩
      rw [Table.get?_insert? hins, if_neg]
      · exact hy
      · rintro rfl
        have hfresh := Table.insert?_fresh hins
        rw [hy] at hfresh
        cases hfresh

/-- A session that waits for its user stays active. -/
theorem InStep.waited {k₀ : String} {conditions : LoginSession → Bool} {current : Time}
    {x x' : LoginSession} (hs : InStep s) (haccounts : t.accounts = s.accounts)
    (hw : Table.Wrote s.sessions k₀ conditions (keyedSession (waitingSession current)) x x'
      t.sessions)
    (hstatus : x.status = .pending) : InStep t := by
  have hx' : x'.accountId = x.accountId ∧ x'.status.isActive = true := by
    rw [hw.written]
    exact ⟨rfl, rfl⟩
  have hxactive : x.status.isActive = true := by
    rw [hstatus]
    rfl
  -- every active session was active before, for the same account
  have hback : ∀ k y, t.sessions.get? k = some y → y.status.isActive = true →
      ∃ z, s.sessions.get? k = some z ∧ z.status.isActive = true ∧ z.accountId = y.accountId := by
    intro k y hy hactive
    by_cases hk : k = k₀
    · rw [hk, hw.row_after] at hy
      cases hy
      exact ⟨x, hk ▸ hw.row, hxactive, hx'.1.symm⟩
    · rw [hw.row_other hk] at hy
      exact ⟨y, hy, hactive, rfl⟩
  refine ⟨fun k y hy hactive => ?_, fun k l y z hy hz hya hza hacc => ?_, fun id b hb hauth => ?_⟩
  · obtain ⟨z, hz, hzactive, hzacc⟩ := hback k y hy hactive
    rw [haccounts, ← hzacc]
    exact hs.paired k z hz hzactive
  · obtain ⟨y', hy', hya', hyacc⟩ := hback k y hy hya
    obtain ⟨z', hz', hza', hzacc⟩ := hback l z hz hza
    exact hs.single k l y' z' hy' hz' hya' hza' (hyacc.trans (hacc.trans hzacc.symm))
  · rw [haccounts] at hb
    obtain ⟨k, y, hy, hacc, hactive⟩ := hs.waits id b hb hauth
    by_cases hk : k = k₀
    · rw [hk, hw.row] at hy
      cases hy
      exact ⟨k, x', by rw [hk, hw.row_after], hx'.1.trans hacc, hx'.2⟩
    · exact ⟨k, y, by rw [hw.row_other hk, hy], hacc, hactive⟩

/-- A session that ends takes its account out of the login. -/
theorem InStep.finished {k₀ accountId : String} {onSession : LoginSession → Bool}
    {onAccount : LoginAccount → Bool} {outcome : Outcome} {current : Time} {x x' : LoginSession}
    {a a' : LoginAccount} (hs : InStep s)
    (hw : Table.Wrote s.sessions k₀ onSession (keyedSession (finishedSession outcome current)) x x'
      t.sessions)
    (hsibling : activeSiblingExists s x = false) (hxacc : x.accountId = accountId)
    (hwa : Table.Wrote s.accounts accountId onAccount (keyedAccount (finishedAccount outcome current))
      a a' t.accounts) : InStep t := by
  have hx' : x'.status.isActive = false := by
    rw [hw.written]
    exact outcome_not_active outcome
  have hxid : x.id = k₀ := Table.get?_key hw.row
  -- every active session was active before and is of another account
  have hback : ∀ k y, t.sessions.get? k = some y → y.status.isActive = true →
      s.sessions.get? k = some y ∧ y.accountId ≠ accountId := by
    intro k y hy hyactive
    by_cases hk : k = k₀
    · rw [hk, hw.row_after] at hy
      cases hy
      rw [hx'] at hyactive
      cases hyactive
    · rw [hw.row_other hk] at hy
      refine ⟨hy, fun hacc => hk ?_⟩
      rw [← hxid]
      exact activeSiblingExists_false hsibling hy (hacc.trans hxacc.symm) hyactive
  refine ⟨fun k y hy hyactive => ?_, fun k l y z hy hz hya hza hacc => ?_, fun id b hb hbauth => ?_⟩
  · obtain ⟨hy', hacc⟩ := hback k y hy hyactive
    rw [hwa.row_other hacc]
    exact hs.paired k y hy' hyactive
  · exact hs.single k l y z (hback k y hy hya).1 (hback l z hz hza).1 hya hza hacc
  · by_cases hid : id = accountId
    · rw [hid, hwa.row_after] at hb
      cases hb
      rw [hwa.written] at hbauth
      exact absurd hbauth (outcome_not_authenticating outcome)
    · rw [hwa.row_other hid] at hb
      obtain ⟨k, y, hy, hacc, hyactive⟩ := hs.waits id b hb hbauth
      refine ⟨k, y, ?_, hacc, hyactive⟩
      rw [hw.row_other, hy]
      rintro rfl
      rw [hw.row] at hy
      cases hy
      exact hid (hacc.symm.trans hxacc)

theorem LoginMove.inStep (h : LoginMove s t) (hs : InStep s) : InStep t := by
  cases h with
  | started hw hmanaged _ hnone hins hstatus haccount =>
    exact hs.started hw hmanaged hnone hins hstatus haccount
  | waited haccounts hw hstatus => exact hs.waited haccounts hw hstatus
  | finished hw _ hsibling haccount hwa => exact hs.finished hw hsibling haccount hwa

/-- One call of any caller, whether it succeeds or raises. -/
def loginStep (s : LoginStore) (c : LoginCall) (t : LoginStore) : Prop := t = (c.run s).2

theorem loginStep_cases {c : LoginCall} (h : loginStep s c t) : t = s ∨ LoginMove s t := by
  cases hrun : c.run s with
  | mk r u =>
    have ht : t = u := by
      rw [h, hrun]
    subst ht
    cases r with
    | ok x => exact .inr (LoginCall.move hrun)
    | error e => exact .inl (LoginCall.error_unchanged hrun)

/-- No login is under way. -/
structure LoginStore.Quiet (s : LoginStore) : Prop where
  sessions : ∀ k x, s.sessions.get? k = some x → x.status.isActive = false
  accounts : ∀ k a, s.accounts.get? k = some a → a.authStatus ≠ .authenticating

theorem inStep_of_trace {h : List LoginCall} (hs : s.Quiet) (ht : Trace loginStep s h t) :
    InStep t := by
  refine ht.invariant (fun u c v hu hstep => ?_) ⟨fun k x hx hactive => ?_,
    fun k l x y hx _ hactive => ?_, fun id a ha hauth => ?_⟩
  · rcases loginStep_cases hstep with rfl | hmove
    · exact hu
    · exact hmove.inStep hu
  · rw [hs.sessions k x hx] at hactive
    cases hactive
  · rw [hs.sessions k x hx] at hactive
    cases hactive
  · exact absurd hauth (hs.accounts id a ha)

/-- What a move does to the authentication of one account. -/
theorem LoginMove.revision (h : LoginMove s t) {id : String} {a : LoginAccount}
    (ha : s.accounts.get? id = some a) :
    ∃ b, t.accounts.get? id = some b ∧ a.authRevision ≤ b.authRevision ∧
      ((b.authStatus ≠ a.authStatus ∨ b.loginMethod ≠ a.loginMethod) →
        a.authRevision < b.authRevision) := by
  -- a statement of the account that counts its revision up
  have hcount : ∀ {k : String} {conditions : LoginAccount → Bool}
      {values : LoginAccount → LoginAccount} {c c' : LoginAccount},
      Table.Wrote s.accounts k conditions values c c' t.accounts →
      c'.authRevision = c.authRevision + 1 →
      ∃ b, t.accounts.get? id = some b ∧ a.authRevision ≤ b.authRevision ∧
        ((b.authStatus ≠ a.authStatus ∨ b.loginMethod ≠ a.loginMethod) →
          a.authRevision < b.authRevision) := by
    intro k conditions values c c' hw hrev
    by_cases hk : id = k
    · subst hk
      rw [hw.row] at ha
      cases ha
      exact ⟨c', hw.row_after, by omega, fun _ => by omega⟩
    · refine ⟨a, by rw [hw.row_other hk, ha], Nat.le_refl _, ?_⟩
      rintro (hne | hne) <;> exact absurd rfl hne
  cases h with
  | started hw =>
    refine hcount hw ?_
    rw [hw.written]
    rfl
  | waited haccounts =>
    refine ⟨a, by rw [haccounts, ha], Nat.le_refl _, ?_⟩
    rintro (hne | hne) <;> exact absurd rfl hne
  | finished _ _ _ _ hwa =>
    refine hcount hwa ?_
    rw [hwa.written]
    rfl

/-- A session that ends hands its outcome to its account. -/
theorem LoginMove.outcome (h : LoginMove s t) {id : String} {x y : LoginSession}
    (hx : s.sessions.get? id = some x) (hy : t.sessions.get? id = some y)
    (hactive : x.status.isActive = true) (hended : y.status.isActive = false) :
    ∃ (outcome : Outcome) (a b : LoginAccount), y.status = outcome.sessionStatus ∧
      s.accounts.get? x.accountId = some a ∧ t.accounts.get? x.accountId = some b ∧
      b.authStatus = outcome.authStatus ∧ a.authRevision < b.authRevision := by
  cases h with
  | started _ _ _ _ hins =>
    rw [Table.get?_insert? hins] at hy
    split at hy
    · rename_i hk
      have hfresh := Table.insert?_fresh hins
      rw [hk, hx] at hfresh
      cases hfresh
    · rw [hx] at hy
      cases hy
      rw [hactive] at hended
      cases hended
  | @waited k₀ _ _ _ _ _ hw =>
    exfalso
    by_cases hk : id = k₀
    · rw [hk, hw.row_after] at hy
      cases hy
      rw [hw.written] at hended
      cases hended
    · rw [hw.row_other hk, hx] at hy
      cases hy
      rw [hactive] at hended
      cases hended
  | @finished k₀ accountId _ _ outcome current z z' a a' hw _ _ hacc hwa =>
    by_cases hk : id = k₀
    · rw [hk, hw.row] at hx
      cases hx
      rw [hk, hw.row_after] at hy
      cases hy
      refine ⟨outcome, a, a', ?_, hacc ▸ hwa.row, hacc ▸ hwa.row_after, ?_, ?_⟩
      · rw [hw.written]
        rfl
      · rw [hwa.written]
        rfl
      · rw [hwa.written]
        exact Nat.lt_succ_self _
    · rw [hw.row_other hk, hx] at hy
      cases hy
      rw [hactive] at hended
      cases hended

/-- The two machines over whole runs of the repository: one active session at most, the account
authenticating exactly with it, revisions that count every change, and conflicts without a
trace. -/
theorem login_sessions_in_step {h : List LoginCall} (hs : s.Quiet)
    (ht : Trace loginStep s h t) :
    (∀ k l x y, t.sessions.get? k = some x → t.sessions.get? l = some y →
      x.status.isActive = true → y.status.isActive = true → x.accountId = y.accountId → k = l) ∧
    (∀ id a, t.accounts.get? id = some a → (a.authStatus = .authenticating ↔ HasActive t id)) ∧
    (∀ k x, t.sessions.get? k = some x → x.status.isActive = true →
      ∃ a, t.accounts.get? x.accountId = some a ∧ isAuthenticating a = true) ∧
    (∀ c u, loginStep t c u →
      (∀ id a, t.accounts.get? id = some a → ∃ b, u.accounts.get? id = some b ∧
        a.authRevision ≤ b.authRevision ∧
        ((b.authStatus ≠ a.authStatus ∨ b.loginMethod ≠ a.loginMethod) →
          a.authRevision < b.authRevision)) ∧
      (∀ id x y, t.sessions.get? id = some x → u.sessions.get? id = some y →
        x.status.isActive = true → y.status.isActive = false →
        ∃ (outcome : Outcome) (a b : LoginAccount), y.status = outcome.sessionStatus ∧
          t.accounts.get? x.accountId = some a ∧ u.accounts.get? x.accountId = some b ∧
          b.authStatus = outcome.authStatus ∧ a.authRevision < b.authRevision)) ∧
    ∀ (c : LoginCall) e u, c.run t = (.error e, u) → u = t := by
  have hstep := inStep_of_trace hs ht
  refine ⟨hstep.single, fun id a ha => ⟨hstep.waits id a ha, ?_⟩, hstep.paired, ?_, ?_⟩
  · rintro ⟨k, x, hx, rfl, hactive⟩
    obtain ⟨b, hb, hauth⟩ := hstep.paired k x hx hactive
    rw [ha] at hb
    cases hb
    exact isAuthenticating_status hauth
  · intro c u hu
    rcases loginStep_cases hu with rfl | hmove
    · refine ⟨fun id a ha => ⟨a, ha, Nat.le_refl _, ?_⟩, fun id x y hx hy hactive hended => ?_⟩
      · rintro (hne | hne) <;> exact absurd rfl hne
      · rw [hx] at hy
        cases hy
        rw [hactive] at hended
        cases hended
    · exact ⟨fun id a ha => hmove.revision ha,
        fun id x y hx hy hactive hended => hmove.outcome hx hy hactive hended⟩
  · exact fun c e u => LoginCall.error_unchanged

def loginRun : List LoginCall → LoginStore → LoginStore
  | [], s => s
  | c :: rest, s => loginRun rest (c.run s).2

theorem trace_loginRun (calls : List LoginCall) (s : LoginStore) :
    Trace loginStep s calls (loginRun calls s) := by
  induction calls generalizing s with
  | nil => exact .nil
  | cons c rest ih => exact Trace.cons rfl (ih _)

def sampleAccount : LoginAccount :=
  ⟨"account", "bili", "mediacrawler", some .qr, none, none, .required, none, 3, 0⟩

def sampleLogins : LoginStore := ⟨⟨[sampleAccount], List.nodup_singleton _⟩, .empty⟩

theorem sampleLogins_quiet : sampleLogins.Quiet where
  sessions k x hx := by cases hx
  accounts k a ha := by
    rw [List.mem_singleton.1 (Table.get?_mem ha)]
    decide

/-- The code is on the screen, and a second start of the same login is refused. -/
def sampleScanning : List LoginCall :=
  [.start "login-1" "account" 100 10, .markWaitingUser "login-1" 20,
    .start "login-2" "account" 100 30]

theorem login_sessions_in_step_sample :
    ∃ a, (loginRun sampleScanning sampleLogins).accounts.get? "account" = some a ∧
      a.authRevision = 4 ∧ HasActive (loginRun sampleScanning sampleLogins) "account" := by
  have hget : ((loginRun sampleScanning sampleLogins).accounts.get? "account").map
      (fun a => (a.authRevision, a.authStatus)) = some (4, .authenticating) := by decide +kernel
  obtain ⟨a, ha, hrow⟩ := Option.map_eq_some_iff.1 hget
  obtain ⟨hrevision, hauth⟩ := Prod.mk.inj hrow
  have hmain := login_sessions_in_step sampleLogins_quiet (trace_loginRun sampleScanning _)
  exact ⟨a, ha, hrevision, (hmain.2.1 "account" a ha).1 hauth⟩

end MediaSync.Accounts
