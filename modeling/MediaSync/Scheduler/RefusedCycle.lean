import MediaSync.Scheduler.CycleFence

/-!
# Refused cycles

A materialization brings the delivery row in step before it looks at the fences
that can still refuse it: a due date gone, a delivery operation, an active cycle,
an active pipeline job. A refusal by one of these leaves the row and the cursor
alone exactly when there was nothing to bring in step. The exact request tests
the pipeline job beforehand and never gets there; the scheduled one does not.
-/

namespace MediaSync.Scheduler

open Python Transaction SchedulerError SchedulerRepository

/-- A subscription's cursor, checkpoint and delivery rows are as they were. -/
structure DeliveryKept (s t : Db) (id : String) : Prop where
  cursor : (t.subscriptions.get? id).map Subscription.cursor =
    (s.subscriptions.get? id).map Subscription.cursor
  checkpoint : (t.subscriptions.get? id).map Subscription.checkpointRevision =
    (s.subscriptions.get? id).map Subscription.checkpointRevision
  progress : ∀ contract, t.progress.get? (contract, id) = s.progress.get? (contract, id)

theorem DeliveryKept.refl (s : Db) (id : String) : DeliveryKept s s id := ⟨rfl, rfl, fun _ => rfl⟩

/-- The binding that a contract finds for a subscription, if it selects it. -/
def bindingNow (codec : DeliveryCodec) (upstreamSha : Option String) (s : Db) (contract : Contract)
    (x : Subscription) : Option DeliveryBinding :=
  match s.accounts.get? x.accountId, s.authors.get? x.authorId with
  | some account, some author => bindingFor codec contract x account author upstreamSha
  | _, _ => none

/-- The row is there under this binding, and not a blocked one that would be resumed. -/
def rowInStep (s : Db) (contract : Contract) (id : String) (binding : DeliveryBinding)
    (resumeBlocked : Bool) : Bool :=
  match s.progress.get? (contract, id) with
  | none => false
  | some row => row.binding = binding && !(row.phase = .blocked && resumeBlocked)

/-- Bringing the contract's row in step has nothing to do. -/
def inStep (codec : DeliveryCodec) (upstreamSha : Option String) (s : Db) (contract : Contract)
    (x : Subscription) (resumeBlocked : Bool) : Bool :=
  match bindingNow codec upstreamSha s contract x with
  | none => true
  | some binding => rowInStep s contract x.id binding resumeBlocked

section Ensure

variable {codec : DeliveryCodec} {uuid : Nat → String} {upstreamSha : Option String}
  {contract : Contract} {id : String} {rev : Nat} {now : Time} {resumeBlocked : Bool}
  {s t : Db} {x : Subscription}

theorem bindingFor_platform {account : Account} {author : Author} {binding : DeliveryBinding}
    (h : bindingFor codec contract x account author upstreamSha = some binding) :
    account.platform = contract.platform := by
  unfold bindingFor at h
  split at h
  · cases h
  · split at h
    · rename_i hselected
      simp only [Bool.and_eq_true, decide_eq_true_eq] at hselected
      exact hselected.1.2
    · cases h

/-- The rows that a subscription's foreign keys name. -/
structure Related (s : Db) (x : Subscription) (account : Account) (author : Author) : Prop where
  account : s.accounts.get? x.accountId = some account
  author : s.authors.get? x.authorId = some author

theorem related_of_bindingNow {binding : DeliveryBinding}
    (h : bindingNow codec upstreamSha s contract x = some binding) :
    ∃ account author, Related s x account author := by
  unfold bindingNow at h
  cases haccount : s.accounts.get? x.accountId with
  | none => simp [haccount] at h
  | some account =>
    cases hauthor : s.authors.get? x.authorId with
    | none => simp [haccount, hauthor] at h
    | some author => exact ⟨account, author, haccount, hauthor⟩

/-- With its foreign keys in place, a subscription reads its binding off the rows. -/
theorem run_bindingForSubscription {account : Account} {author : Author}
    (h : Related s x account author) :
    bindingForSubscription codec contract upstreamSha x s =
      (.ok (bindingNow codec upstreamSha s contract x), s) := by
  unfold bindingForSubscription bindingNow getAccount getAuthor
  rw [Tx.run_read_bind, h.account]
  simp only [require?, Tx.run_bind, Tx.run_pure, Tx.run_read, h.author]

theorem related_of_run {r : Option DeliveryBinding}
    (h : bindingForSubscription codec contract upstreamSha x s = (.ok r, t)) :
    ∃ account author, Related s x account author := by
  unfold bindingForSubscription getAccount getAuthor at h
  rw [Tx.run_read_bind] at h
  cases haccount : s.accounts.get? x.accountId with
  | none =>
    rw [haccount] at h
    cases h
  | some account =>
    rw [haccount] at h
    obtain ⟨_, _, hfound, h₁⟩ := Tx.run_bind_ok h
    cases hfound
    obtain ⟨found, _, hread, h₂⟩ := Tx.run_bind_ok h₁
    cases hread
    cases hauthor : s.authors.get? x.authorId with
    | none =>
      dsimp only at h₂
      rw [hauthor] at h₂
      cases h₂
    | some author => exact ⟨account, author, haccount, hauthor⟩

/-- A contract that does not select the subscription leaves everything alone. -/
theorem ensure_unbound {account : Account} {author : Author}
    (hx : s.subscriptions.get? id = some x) (hrelated : Related s x account author)
    (hbinding : bindingNow codec upstreamSha s contract x = none) :
    ensureForMaterialization codec uuid contract id upstreamSha rev now resumeBlocked s =
      (.ok none, s) := by
  unfold ensureForMaterialization getSubscription
  rw [Tx.run_read_bind, hx]
  change (bindingForSubscription codec contract upstreamSha x >>= _) s = _
  rw [Tx.run_bind_of_ok (run_bindingForSubscription hrelated), hbinding]
  rfl

theorem ensure_known {binding : DeliveryBinding} {row : DeliveryProgress}
    (hx : s.subscriptions.get? id = some x)
    (hbinding : bindingNow codec upstreamSha s contract x = some binding)
    (hrow : s.progress.get? (contract, id) = some row) (hbound : row.binding = binding)
    (hstays : ¬ (row.phase = .blocked ∧ resumeBlocked = true)) :
    ensureForMaterialization codec uuid contract id upstreamSha rev now resumeBlocked s =
      (.ok (some row), s) := by
  obtain ⟨account, author, hrelated⟩ := related_of_bindingNow hbinding
  obtain rfl := Table.get?_key hx
  unfold ensureForMaterialization getSubscription
  rw [Tx.run_read_bind, hx]
  change (bindingForSubscription codec contract upstreamSha x >>= _) s = _
  rw [Tx.run_bind_of_ok (run_bindingForSubscription hrelated), hbinding]
  change (getProgress contract x.id >>= _) s = _
  rw [getProgress, Tx.run_read_bind, hrow]
  dsimp only
  rw [if_pos hbound, if_neg hstays]
  rfl

/-- What a preparation leaves in place while it writes a subscription's row. -/
structure PreparedFrom (s t : Db) (id : String) (x : Subscription) : Prop where
  accounts : t.accounts = s.accounts
  authors : t.authors = s.authors
  jobs : t.jobs = s.jobs
  operations : t.operations = s.operations
  subscription : ∃ y, t.subscriptions.get? id = some y ∧ y.id = x.id ∧
    y.accountId = x.accountId ∧ y.authorId = x.authorId ∧ y.enabled = x.enabled ∧
    y.deletedAt = x.deletedAt ∧ y.scheduleRevision = x.scheduleRevision ∧
    y.nextRunAt = x.nextRunAt

theorem Db.get?_setProgress (db : Db) (contract : Contract) (id : String)
    (values : DeliveryProgress → DeliveryProgress) (k : Contract × String) :
    (db.setProgress contract id values).progress.get? k =
      if k = (contract, id) then (db.progress.get? k).map (fun p =>
        { values p with contract := p.contract, subscriptionId := p.subscriptionId })
      else db.progress.get? k :=
  Table.get?_updateKey db.progress (contract, id) _ (by intro p; rfl) k

theorem Db.progress_setSubscription (db : Db) (id : String)
    (values : Subscription → Subscription) :
    (db.setSubscription id values).progress = db.progress := rfl

theorem resumedPhase_ne_blocked (contract : Contract) (row : DeliveryProgress) :
    resumedPhase contract row ≠ .blocked := by
  unfold resumedPhase
  cases contract <;> dsimp only <;> repeat' split
  all_goals decide

theorem run_newUuid (uuid : Nat → String) (s : Db) :
    newUuid uuid s = (.ok (uuid s.drawn), { s with drawn := s.drawn + 1 }) := rfl

/-- A row out of step is written, and is not blocked afterwards. -/
theorem ensure_moves {binding : DeliveryBinding} (hx : s.subscriptions.get? id = some x)
    (hbinding : bindingNow codec upstreamSha s contract x = some binding)
    (hstep : rowInStep s contract id binding resumeBlocked = false) :
    ∃ row t, ensureForMaterialization codec uuid contract id upstreamSha rev now resumeBlocked s =
        (.ok (some row), t) ∧ row.phase ≠ .blocked ∧ PreparedFrom s t id x ∧
      t.progress.get? (contract, id) ≠ s.progress.get? (contract, id) := by
  obtain ⟨account, author, hrelated⟩ := related_of_bindingNow hbinding
  obtain rfl := Table.get?_key hx
  unfold ensureForMaterialization getSubscription
  rw [Tx.run_read_bind, hx]
  change ∃ row t, (bindingForSubscription codec contract upstreamSha x >>= _) s = _ ∧ _
  rw [Tx.run_bind_of_ok (run_bindingForSubscription hrelated), hbinding]
  change ∃ row t, (getProgress contract x.id >>= _) s = _ ∧ _
  rw [getProgress, Tx.run_read_bind]
  unfold rowInStep at hstep
  cases hrow : s.progress.get? (contract, x.id) with
  | none =>
    dsimp only
    generalize hnew : newProgress contract x binding (uuid s.drawn) rev now = fresh
    have hkey : fresh.key = (contract, x.id) := by rw [← hnew]; rfl
    obtain ⟨progress, hinsert⟩ := Table.insert?_of_free (t := s.progress) (r := fresh)
      (by rw [hkey]; exact hrow)
    refine ⟨fresh, { s with drawn := s.drawn + 1, progress := progress }, ?_, ?_,
      ⟨rfl, rfl, rfl, rfl, x, hx, rfl, rfl, rfl, rfl, rfl, rfl, rfl⟩, ?_⟩
    · refine (Tx.run_bind_of_ok (run_newUuid uuid s) : (newUuid uuid >>= _) s = _).trans ?_
      dsimp only
      rw [hnew, hinsert]
    · rw [← hnew]
      exact nofun
    · rw [Table.get?_insert? hinsert, if_pos hkey]
      exact nofun
  | some row =>
    rw [hrow] at hstep
    dsimp only at hstep ⊢
    have hkey : row.key = (contract, x.id) := Table.get?_key hrow
    by_cases hbound : row.binding = binding
    · have hresumed : row.phase = .blocked ∧ resumeBlocked = true := by
        simpa [hbound] using hstep
      rw [if_pos hbound, if_pos hresumed, Tx.run_bind, Tx.run_modify]
      dsimp only
      rw [Tx.run_read, Db.get?_setProgress, if_pos rfl, hrow]
      refine ⟨_, _, rfl, resumedPhase_ne_blocked contract row,
        ⟨rfl, rfl, rfl, rfl, x, hx, rfl, rfl, rfl, rfl, rfl, rfl, rfl⟩, ?_⟩
      intro hsame
      rw [Db.get?_setProgress, if_pos rfl, hrow] at hsame
      have hphase := congrArg DeliveryProgress.phase (Option.some.inj hsame)
      exact resumedPhase_ne_blocked contract row (hphase.trans hresumed.1)
    · rw [if_neg hbound]
      generalize hmoved : cursorMoves contract x (replacementCursor codec contract x row binding) = moved
      generalize replacementCursor codec contract x row binding = replacement
      simp only [Tx.run_bind, run_newUuid, Tx.run_modify, Tx.run_read]
      simp only [Db.get?_setProgress, Db.progress_setSubscription, if_true, hrow, Option.map_some]
      refine ⟨_, _, rfl, ?_, ⟨rfl, rfl, rfl, rfl, ?_⟩, ?_⟩
      · dsimp only [clearEvidence]
        split <;> exact nofun
      · have hx' : ({ s with drawn := s.drawn + 1 } : Db).subscriptions.get? x.id = some x := hx
        refine ⟨_, (Db.get?_setSubscription _ _ _ _).trans
          ((if_pos rfl).trans (congrArg (Option.map _) hx')), rfl, rfl, rfl, rfl, rfl, rfl, rfl⟩
      · simp only [Db.get?_setProgress, Db.progress_setSubscription, if_true, hrow,
          Option.map_some]
        intro hsame
        exact hbound (congrArg DeliveryProgress.binding (Option.some.inj hsame)).symm

/-- A preparation with nothing to do changes nothing. -/
theorem ensure_still {r : Option DeliveryProgress} (hx : s.subscriptions.get? id = some x)
    (hstep : inStep codec upstreamSha s contract x resumeBlocked = true)
    (h : ensureForMaterialization codec uuid contract id upstreamSha rev now resumeBlocked s =
      (.ok r, t)) : t = s := by
  obtain rfl := Table.get?_key hx
  unfold inStep at hstep
  cases hbinding : bindingNow codec upstreamSha s contract x with
  | none =>
    unfold ensureForMaterialization getSubscription at h
    rw [Tx.run_read_bind, hx] at h
    change (bindingForSubscription codec contract upstreamSha x >>= _) s = _ at h
    obtain ⟨binding, _, hrun, h⟩ := Tx.run_bind_ok h
    obtain ⟨account, author, hrelated⟩ := related_of_run hrun
    rw [run_bindingForSubscription hrelated, hbinding] at hrun
    cases hrun
    cases h
    rfl
  | some binding =>
    rw [hbinding] at hstep
    unfold rowInStep at hstep
    cases hrow : s.progress.get? (contract, x.id) with
    | none =>
      rw [hrow] at hstep
      cases hstep
    | some row =>
      rw [hrow] at hstep
      simp only [Bool.and_eq_true, decide_eq_true_eq, Bool.not_eq_true', Bool.and_eq_false_iff,
        decide_eq_false_iff_not] at hstep
      have hstays : ¬ (row.phase = .blocked ∧ resumeBlocked = true) := by
        rintro ⟨hblocked, hresumed⟩
        rcases hstep.2 with hne | hne
        · exact hne hblocked
        · rw [hresumed] at hne
          cases hne
      rw [ensure_known hx hbinding hrow hstep.1 hstays] at h
      cases h
      rfl

end Ensure

/-! ## A call of the materializer -/

section Cycle

variable (repo : SchedulerRepository)

/-- The installed upstream revision of a contract. -/
def upstreamShaOf : Contract → Option String
  | .bili => repo.biliUpstreamSha
  | .xhs => repo.xhsUpstreamSha
  | .douyin => repo.douyinUpstreamSha

/-- Whether the call resumes a blocked row of this contract. -/
def resumes (platform : Platform) (resumeBlocked : Bool) : Contract → Bool
  | .bili => resumeBlocked
  | .xhs => resumeBlocked || platform = .xhs
  | .douyin => resumeBlocked || platform = .dy

/-- A contract selects the subscription. -/
def selected (s : Db) (x : Subscription) : Prop :=
  ∃ contract, (bindingNow repo.codec (upstreamShaOf repo contract) s contract x).isSome = true

/-- No contract has anything to bring in step for the subscription. -/
def prepared (s : Db) (x : Subscription) (platform : Platform) (resumeBlocked : Bool) : Prop :=
  ∀ contract, inStep repo.codec (upstreamShaOf repo contract) s contract x
    (resumes platform resumeBlocked contract) = true

/-- The subscription is as the caller read it. -/
structure Unmoved (s : Db) (id accountId : String) (scheduleRevision : Nat) (x : Subscription) :
    Prop where
  row : s.subscriptions.get? id = some x
  account : x.accountId = accountId
  revision : x.scheduleRevision = scheduleRevision
  present : x.deletedAt = none
  enabled : x.enabled = true

/-- One of the fences of the revision update is lost. -/
def updateLost (s : Db) (x : Subscription) (now : Time) (dueOnly : Bool) : Prop :=
  (dueOnly = true ∧ (isDue x now = false ∨ activeDeliveryOperation s x.id = true)) ∨
    activeCycle s x.id = true ∨ (selected repo s x ∧ activePipelineJob s x.id = true)

/-- The call is refused by a fence: the subscription moved, or the update is lost. -/
def fenceLost (s : Db) (id accountId : String) (scheduleRevision : Nat) (now : Time)
    (dueOnly : Bool) : Prop :=
  ∀ x, Unmoved s id accountId scheduleRevision x → updateLost repo s x now dueOnly

variable {repo} {id accountId : String} {platform : Platform} {rev : Nat}
  {scheduledFor now : Time} {retry : RetryPolicy} {dueOnly resumeBlocked : Bool}
  {s t : Db} {x : Subscription}

theorem materializeCycle_moved (h : ∀ x, ¬ Unmoved s id accountId rev x) :
    materializeCycle repo id accountId platform rev scheduledFor now retry dueOnly resumeBlocked s =
      (.ok none, s) := by
  unfold materializeCycle getSubscription
  rw [Tx.run_read_bind]
  cases hget : s.subscriptions.get? id with
  | none => rfl
  | some x =>
    dsimp only
    rw [if_pos]
    · rfl
    · by_contra hne
      simp only [not_or, not_not, Bool.not_eq_false, Option.isSome_iff_ne_none] at hne
      exact h x ⟨hget, hne.1, hne.2.1, hne.2.2.1, hne.2.2.2⟩

/-- The body of the materializer past its first check. -/
theorem materializeCycle_prepared (hx : Unmoved s id accountId rev x)
    (hprepared : prepared repo s x platform resumeBlocked)
    (h : materializeCycle repo id accountId platform rev scheduledFor now retry dueOnly
      resumeBlocked s = (.ok none, t)) : t = s := by
  unfold materializeCycle getSubscription at h
  rw [Tx.run_read_bind, hx.row] at h
  dsimp only at h
  split at h
  · cases h
    rfl
  · obtain ⟨bili, s₁, hbili, h₁⟩ := Tx.run_bind_ok h
    rw [ensure_still hx.row (hprepared .bili) hbili] at h₁
    obtain ⟨xhs, s₂, hxhs, h₂⟩ := Tx.run_bind_ok h₁
    rw [ensure_still hx.row (hprepared .xhs) hxhs] at h₂
    obtain ⟨douyin, s₃, hdouyin, h₃⟩ := Tx.run_bind_ok h₂
    rw [ensure_still hx.row (hprepared .douyin) hdouyin] at h₃
    obtain ⟨_, h₄⟩ := Tx.run_bind_require h₃
    split at h₄
    · cases h₄
      rfl
    · obtain ⟨claimed, s₄, hbump, h₅⟩ := Tx.run_bind_ok h₄
      rcases updateSubscription_ok hbump with ⟨rfl, rfl⟩ | ⟨z, hz, hc, rfl, rfl⟩
      · cases h₅
        rfl
      · obtain ⟨_, _, _, h₆⟩ := Tx.run_bind_ok h₅
        obtain ⟨_, _, _, h₇⟩ := Tx.run_bind_ok h₆
        cases h₇

theorem updateSubscription_refused {conditions : Db → Subscription → Bool}
    {values : Subscription → Subscription} (hx : s.subscriptions.get? id = some x)
    (hc : conditions s x = false) : updateSubscription id conditions values s = (.ok none, s) := by
  unfold updateSubscription
  rw [Tx.run_modifyGet, hx]
  simp [hc]

/-- Past its checks, the materializer with one contract's row in hand and the update lost. -/
theorem materializeCycle_refused {bili xhs douyin : Option DeliveryProgress} {row : DeliveryProgress}
    {s₁ s₂ s₃ : Db} {y : Subscription} (hx : Unmoved s id accountId rev x)
    (hbili : ensureForMaterialization repo.codec repo.uuid .bili id repo.biliUpstreamSha rev now
      resumeBlocked s = (.ok bili, s₁))
    (hxhs : ensureForMaterialization repo.codec repo.uuid .xhs id repo.xhsUpstreamSha rev now
      (resumeBlocked || platform = .xhs) s₁ = (.ok xhs, s₂))
    (hdouyin : ensureForMaterialization repo.codec repo.uuid .douyin id repo.douyinUpstreamSha rev
      now (resumeBlocked || platform = .dy) s₂ = (.ok douyin, s₃))
    (hone : [bili, xhs, douyin].countP Option.isSome ≤ 1)
    (hrow : (bili <|> xhs <|> douyin) = some row) (hphase : row.phase ≠ .blocked)
    (hy : s₃.subscriptions.get? id = some y)
    (hlost : (dueOnly = true ∧ (isDue y now = false ∨ activeDeliveryOperation s₃ id = true)) ∨
      activeCycle s₃ id = true ∨ activePipelineJob s₃ id = true) :
    materializeCycle repo id accountId platform rev scheduledFor now retry dueOnly resumeBlocked s =
      (.ok none, s₃) := by
  unfold materializeCycle getSubscription
  rw [Tx.run_read_bind, hx.row]
  dsimp only
  rw [if_neg (by simp [hx.account, hx.revision, hx.present, hx.enabled]),
    Tx.run_bind_of_ok hbili, Tx.run_bind_of_ok hxhs, Tx.run_bind_of_ok hdouyin,
    Tx.run_bind_of_ok ((Tx.run_require _ _ s₃).trans (if_pos (decide_eq_true hone))), hrow,
    if_neg (by simpa using hphase)]
  rw [Tx.run_bind_of_ok (updateSubscription_refused hy ?_)]
  · rfl
  · have hid : (bili <|> xhs <|> douyin).isNone = false := by rw [hrow]; rfl
    rw [Bool.eq_false_iff]
    intro hclaimed
    simp only [Bool.and_eq_true, Bool.or_eq_true, Bool.not_eq_true', Option.isNone_some,
      Bool.false_eq_true, false_or] at hclaimed
    obtain ⟨⟨⟨_, hdue⟩, hcycle⟩, hpipeline⟩ := hclaimed
    rcases hlost with ⟨hdueOnly, hlost⟩ | hlost | hlost
    · rcases hdue with hdue | hdue
      · rw [hdueOnly] at hdue
        cases hdue
      · rcases hlost with hlost | hlost
        · rw [hlost] at hdue
          cases hdue.1
        · rw [hlost] at hdue
          cases hdue.2
    · rw [hlost] at hcycle
      cases hcycle
    · rw [hlost] at hpipeline
      cases hpipeline

theorem ensure_other {codec : DeliveryCodec} {uuid : Nat → String} {sha : Option String}
    {contract : Contract} {account : Account} {author : Author}
    (hx : s.subscriptions.get? id = some x) (hrelated : Related s x account author)
    (hplatform : account.platform ≠ contract.platform) :
    ensureForMaterialization codec uuid contract id sha rev now resumeBlocked s = (.ok none, s) := by
  refine ensure_unbound hx hrelated ?_
  unfold bindingNow
  rw [hrelated.account, hrelated.author]
  cases hbinding : bindingFor codec contract x account author sha with
  | none => exact hbinding
  | some binding => exact absurd (bindingFor_platform hbinding) hplatform

/-- With a row out of step and the update lost, the call returns nothing and the row is another. -/
theorem materializeCycle_moves {contract : Contract} (hx : Unmoved s id accountId rev x)
    (hlost : updateLost repo s x now dueOnly)
    (hstep : inStep repo.codec (upstreamShaOf repo contract) s contract x
      (resumes platform resumeBlocked contract) = false) :
    ∃ t, materializeCycle repo id accountId platform rev scheduledFor now retry dueOnly
        resumeBlocked s = (.ok none, t) ∧
      t.progress.get? (contract, id) ≠ s.progress.get? (contract, id) := by
  obtain rfl := Table.get?_key hx.row
  unfold inStep at hstep
  cases hbinding : bindingNow repo.codec (upstreamShaOf repo contract) s contract x with
  | none =>
    rw [hbinding] at hstep
    cases hstep
  | some binding =>
    rw [hbinding] at hstep
    obtain ⟨row, t, hrun, hphase, hprepared, hmoved⟩ :
        ∃ row t, ensureForMaterialization repo.codec repo.uuid contract x.id _ rev now _ s =
          (.ok (some row), t) ∧ _ :=
      ensure_moves hx.row hbinding hstep
    obtain ⟨account, author, hrelated⟩ := related_of_bindingNow hbinding
    have hplatform : account.platform = contract.platform := by
      unfold bindingNow at hbinding
      rw [hrelated.account, hrelated.author] at hbinding
      exact bindingFor_platform hbinding
    obtain ⟨y, hy, _, haccount, hauthor, _, _, _, hnext⟩ := hprepared.subscription
    have hrelated' : Related t y account author := by
      refine ⟨?_, ?_⟩
      · rw [haccount, hprepared.accounts]
        exact hrelated.account
      · rw [hauthor, hprepared.authors]
        exact hrelated.author
    have hlost' : (dueOnly = true ∧ (isDue y now = false ∨ activeDeliveryOperation t x.id = true)) ∨
        activeCycle t x.id = true ∨ activePipelineJob t x.id = true := by
      unfold isDue activeDeliveryOperation activeCycle activePipelineJob
      rw [hnext, hprepared.jobs, hprepared.operations]
      exact hlost.imp_right (Or.imp_right And.right)
    refine ⟨t, ?_, hmoved⟩
    cases contract with
    | bili =>
      have hxhs : account.platform ≠ Contract.xhs.platform := by rw [hplatform]; decide
      have hdouyin : account.platform ≠ Contract.douyin.platform := by rw [hplatform]; decide
      exact materializeCycle_refused hx hrun (ensure_other hy hrelated' hxhs)
        (ensure_other hy hrelated' hdouyin) (Nat.le_refl 1) rfl hphase hy hlost'
    | xhs =>
      have hbili : account.platform ≠ Contract.bili.platform := by rw [hplatform]; decide
      have hdouyin : account.platform ≠ Contract.douyin.platform := by rw [hplatform]; decide
      exact materializeCycle_refused hx (ensure_other hx.row hrelated hbili) hrun
        (ensure_other hy hrelated' hdouyin) (Nat.le_refl 1) rfl hphase hy hlost'
    | douyin =>
      have hbili : account.platform ≠ Contract.bili.platform := by rw [hplatform]; decide
      have hxhs : account.platform ≠ Contract.xhs.platform := by rw [hplatform]; decide
      exact materializeCycle_refused hx (ensure_other hx.row hrelated hbili)
        (ensure_other hx.row hrelated hxhs) hrun (Nat.le_refl 1) rfl hphase hy hlost'

/-- For every database and every call: a call that a fence refuses keeps the subscription's
cursor, checkpoint and delivery rows if and only if no fence behind the preparation is lost
while a row is out of step. -/
theorem refused_cycle_keeps_iff (repo : SchedulerRepository) (s : Db) (id accountId : String)
    (platform : Platform) (rev : Nat) (scheduledFor now : Time) (retry : RetryPolicy)
    (dueOnly resumeBlocked : Bool) :
    (∀ t, materializeCycle repo id accountId platform rev scheduledFor now retry dueOnly
        resumeBlocked s = (.ok none, t) → fenceLost repo s id accountId rev now dueOnly →
        DeliveryKept s t id) ↔
      ∀ x, Unmoved s id accountId rev x → updateLost repo s x now dueOnly →
        prepared repo s x platform resumeBlocked := by
  constructor
  · intro hkept x hx hlost contract
    by_contra hstep
    obtain ⟨t, hrun, hmoved⟩ : ∃ t, materializeCycle repo id accountId platform rev scheduledFor
        now retry dueOnly resumeBlocked s = (.ok none, t) ∧ _ :=
      materializeCycle_moves hx hlost (by simpa using hstep)
    have hfence : fenceLost repo s id accountId rev now dueOnly := by
      intro y hy
      obtain rfl : x = y := Option.some.inj (hx.row.symm.trans hy.row)
      exact hlost
    exact hmoved ((hkept t hrun hfence).progress contract)
  · intro hprepared t hrun hfence
    by_cases hmoved : ∃ x, Unmoved s id accountId rev x
    · obtain ⟨x, hx⟩ := hmoved
      rw [materializeCycle_prepared hx (hprepared x hx (hfence x hx)) hrun]
      exact .refl s id
    · rw [materializeCycle_moved (fun x hx => hmoved ⟨x, hx⟩)] at hrun
      cases hrun
      exact .refl s id

end Cycle

/-- The small repository with the Bili contract installed. -/
def reloginRepository : SchedulerRepository :=
  { sampleRepository with
    codec := { sampleRepository.codec with policyFingerprint := fun _ _ _ => some "policy" }
    biliUpstreamSha := some "0123456789012345678901234567890123456789" }

/-- The row of a delivery that is under way, bound to the session before the login. -/
def reloginProgress : DeliveryProgress :=
  let s : Subscription := {
    id := "subscription", accountId := "account", authorId := "author", enabled := true
    deletedAt := none, intervalSeconds := 3600, maxItems := 20, cursor := none
    checkpointRevision := 3, scheduleRevision := 0, policy := .obj [], nextRunAt := none
    lastRunAt := none, lastSuccessAt := none, consecutiveFailures := 0, createdAt := 0
    updatedAt := 0 }
  { newProgress .bili s {
      accountId := "account", authRevision := 0, authorId := "author"
      authorFingerprintSha256 := "1", scope := "uploads", policyFingerprintSha256 := "policy"
      upstreamSha := "0123456789012345678901234567890123456789" } "generation" 0 0 with
    batchCount := 2 }

/-- The subscription is due, its pipeline job runs, and its account has logged in again. -/
def reloginDb : Db :=
  { sampleDb with
    accounts := ⟨[{
      id := "account"
      platform := .bili
      adapter := "mediacrawler"
      authStatus := "valid"
      authRevision := 1 }], List.nodup_singleton _⟩
    subscriptions := sampleDb.subscriptions.update (fun _ => true) (fun s =>
      { s with cursor := some (.obj []), checkpointRevision := 3 })
    jobs := ⟨[{ cycleJob "pipeline" "subscription" "account" .bili 0 0 0 .standard with
      jobType := pipelineSubscriptionJobType, status := .running }], List.nodup_singleton _⟩
    progress := ⟨[reloginProgress], List.nodup_singleton _⟩ }

/-- The scheduled pass finds the subscription due and creates no job, its cursor is gone and
its checkpoint counted up: the call it makes has lost its fence and has not kept the row. -/
theorem refused_cycle_not_kept :
    (¬ ∀ t, materializeCycle reloginRepository "subscription" "account" .bili 0 500 500 {} true
        false reloginDb = (.ok none, t) →
      fenceLost reloginRepository reloginDb "subscription" "account" 0 500 true →
      DeliveryKept reloginDb t "subscription") ∧
    (materializeDue reloginRepository 10 500 {} reloginDb).1.toOption.map List.length = some 0 ∧
    ((materializeDue reloginRepository 10 500 {} reloginDb).2.subscriptions.get?
      "subscription").map Subscription.checkpointRevision = some 4 := by
  refine ⟨fun hkept => ?_, by decide +kernel, by decide +kernel⟩
  obtain ⟨x, hx⟩ : ∃ x, reloginDb.subscriptions.get? "subscription" = some x := ⟨_, rfl⟩
  have hunmoved : Unmoved reloginDb "subscription" "account" 0 x := by
    cases hx
    exact ⟨rfl, rfl, rfl, rfl, rfl⟩
  have hlost : updateLost reloginRepository reloginDb x 500 true := by
    cases hx
    exact .inr (.inr ⟨⟨.bili, by decide +kernel⟩, by decide +kernel⟩)
  have hstep : inStep reloginRepository.codec (upstreamShaOf reloginRepository .bili) reloginDb
      .bili x (resumes .bili false .bili) = false := by
    cases hx
    decide +kernel
  obtain ⟨t, hrun, hmoved⟩ := @materializeCycle_moves reloginRepository "subscription" "account"
    .bili 0 500 500 {} true false reloginDb x .bili hunmoved hlost hstep
  exact hmoved ((hkept t hrun (fun y hy => by
    obtain rfl : x = y := Option.some.inj (hx.symm.trans hy.row)
    exact hlost)).progress .bili)

end MediaSync.Scheduler
