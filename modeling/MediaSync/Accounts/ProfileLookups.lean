import MediaSync.Accounts.CreatorProfiles
import MediaSync.Foundation.Transition

/-!
# The latest request wins

Every call of the repository leaves the profiles as they are, or makes one of
four moves. The record of a run is kept beside the tables: each ticket that was
given out is a row, and each row that succeeded was published once.
-/

namespace MediaSync.Accounts

open Python Transaction Transition CreatorProfileRepository

variable {δ : Type} {s t u : ProfileStore δ} {p p' q : CreatorProfile δ}
  {l l' : CreatorProfileLookup δ} {k : LookupTicket δ}

/-- One call of the repository, or a change that another component makes. -/
inductive ProfileCall (δ : Type) where
  | beginLookup (newId : String) (request : LookupRequest δ) (now : Time)
  | publish (ticket : LookupTicket δ) (value : ProfileValue) (avatar : Option Bytes) (now : Time)
  | markFailed (ticket : LookupTicket δ) (code : String) (now : Time)
  | requireReceipt (operationId accountId platform creatorRemoteId : String) (now : Time)
      (ttlSeconds : Int)
  | change (accounts : Table LoginAccount.id) (operations : Table ProfileOperation.id)

inductive ProfileAnswer (δ : Type) where
  | ticket (k : LookupTicket δ)
  | snapshot (x : ProfileSnapshot)
  | done

abbrev ProfileEvent (δ : Type) := ProfileCall δ × Except ProfileError (ProfileAnswer δ)

section Run

variable [DecidableEq δ] (host : ProfileHost δ)

/-- The committed transaction of a call. -/
def ProfileCall.run : ProfileCall δ → ProfileTx δ (ProfileAnswer δ)
  | beginLookup newId r now => Tx.commit do
    let k ← CreatorProfileRepository.beginLookup host newId r now
    pure (.ticket k)
  | publish k v avatar now => Tx.commit do
    let x ← CreatorProfileRepository.publish host k v avatar now
    pure (.snapshot x)
  | markFailed k code now => Tx.commit do
    CreatorProfileRepository.markFailed host k code now
    pure .done
  | requireReceipt operationId accountId platform creatorRemoteId now ttlSeconds => Tx.commit do
    let x ← CreatorProfileRepository.requireReceipt host operationId accountId platform
      creatorRemoteId now ttlSeconds
    pure (.snapshot x)
  | change accounts operations => do
    Tx.modify (fun db => { db with accounts := accounts, operations := operations })
    pure .done

def profileStep (s : ProfileStore δ) (e : ProfileEvent δ) (t : ProfileStore δ) : Prop :=
  e.1.run host s = (e.2, t)

end Run

/-- The ticket that a begin returned. -/
def begunTicket : ProfileEvent δ → Option (LookupTicket δ)
  | (.beginLookup _ _ _, .ok (.ticket k)) => some k
  | _ => none

/-- The ticket whose result was published, with what the call returned. -/
def publishedResult : ProfileEvent δ → Option (LookupTicket δ × ProfileSnapshot)
  | (.publish k _ _ _, .ok (.snapshot x)) => some (k, x)
  | _ => none

def Begun (h : List (ProfileEvent δ)) (k : LookupTicket δ) : Prop :=
  ∃ e ∈ h, begunTicket e = some k

def Published (h : List (ProfileEvent δ)) (k : LookupTicket δ) (x : ProfileSnapshot) : Prop :=
  ∃ e ∈ h, publishedResult e = some (k, x)

theorem begun_append {h : List (ProfileEvent δ)} {e : ProfileEvent δ} :
    Begun (h ++ [e]) k ↔ Begun h k ∨ begunTicket e = some k := by
  simp [Begun, or_and_right, exists_or]

theorem published_append {h : List (ProfileEvent δ)} {e : ProfileEvent δ} {x : ProfileSnapshot} :
    Published (h ++ [e]) k x ↔ Published h k x ∨ publishedResult e = some (k, x) := by
  simp [Published, or_and_right, exists_or]

/-! ## What the checks leave -/

theorem operation_ok {operationId accountId : String} {now : Time} {a : Unit}
    (h : operation operationId accountId now s = (.ok a, t)) : t = s := by
  obtain ⟨_, h₁⟩ := Tx.run_bind_require h
  obtain ⟨o, _, h₂⟩ := Tx.run_bind_read (Tx.Within.read Tx.ReadOnly.chains _) h₁
  cases o with
  | none => cases h₂
  | some o =>
    obtain ⟨_, h₃⟩ := Tx.run_bind_require h₂
    obtain ⟨_, h₄⟩ := Tx.run_bind_require h₃
    exact (Tx.run_require_ok h₄).2

theorem account_ok {accountId platform : String} {a : LoginAccount}
    (h : account accountId platform s = (.ok a, t)) :
    t = s ∧ s.accounts.get? accountId = some a := by
  obtain ⟨_, h₁⟩ := Tx.run_bind_require h
  rw [Tx.run_read_bind] at h₁
  cases hfound : s.accounts.get? accountId with
  | none =>
    simp only [hfound] at h₁
    cases h₁
  | some b =>
    simp only [hfound] at h₁
    obtain ⟨_, h₂⟩ := Tx.run_bind_require h₁
    obtain ⟨_, h₃⟩ := Tx.run_bind_require h₂
    cases h₃
    exact ⟨rfl, rfl⟩

theorem identity_ok {platform creatorRemoteId : String} {a : Unit}
    (h : identity platform creatorRemoteId s = (.ok a, t)) : t = s := by
  obtain ⟨_, h₁⟩ := Tx.run_bind_require h
  exact (Tx.run_require_ok h₁).2

/-- A lookup that takes the next generation of its profile. -/
structure NewLookup (s : ProfileStore δ) (p : CreatorProfile δ) (l : CreatorProfileLookup δ)
    (t : ProfileStore δ) : Prop where
  fresh : s.lookups.get? l.operationId = none
  profile : l.profileId = p.id
  generation : l.generation = p.generation
  pending : l.state = .pending
  latest : p.latestOperationId = some l.operationId
  free : ∀ op l', s.lookups.get? op = some l' → l'.profileId = l.profileId →
    l'.generation ≠ l.generation
  before : s.profiles.get? p.id = none ∨ ∃ r digest now p₀, s.profiles.get? p.id = some p₀ ∧
    p = begunProfile r digest now p₀
  profiles : Table.Put s.profiles p t.profiles
  lookups : Table.Put s.lookups l t.lookups

theorem saveProfile_ok {a : Unit} (h : saveProfile p s = (.ok a, t)) {p₀ : CreatorProfile δ}
    (hp : s.profiles.get? p.id = some p₀) :
    t.lookups = s.lookups ∧ Table.Put s.profiles p t.profiles := by
  cases h
  refine ⟨rfl, Table.put_replace (by intro r; rfl) hp ?_⟩
  have hid : p₀.id = p.id := Table.get?_key hp
  simp only [hid]

theorem insertProfile_ok {a : Unit} (h : insertProfile p s = (.ok a, t)) :
    t.lookups = s.lookups ∧ s.profiles.get? p.id = none ∧ Table.Put s.profiles p t.profiles := by
  unfold insertProfile at h
  split at h
  · rename_i profiles hins
    cases h
    exact ⟨rfl, Table.insert?_fresh hins, Table.put_insert? hins⟩
  · cases h

theorem saveLookup_ok {a : Unit} (h : saveLookup l s = (.ok a, t)) {l₀ : CreatorProfileLookup δ}
    (hl : s.lookups.get? l.operationId = some l₀) :
    t.profiles = s.profiles ∧ Table.Put s.lookups l t.lookups := by
  cases h
  refine ⟨rfl, Table.put_replace (by intro r; rfl) hl ?_⟩
  have hop : l₀.operationId = l.operationId := Table.get?_key hl
  simp only [hop]

theorem insertLookup_ok {a : Unit} (h : insertLookup l s = (.ok a, t)) :
    t.profiles = s.profiles ∧ s.lookups.get? l.operationId = none ∧
      (∀ op l', s.lookups.get? op = some l' → l'.profileId = l.profileId →
        l'.generation ≠ l.generation) ∧ Table.Put s.lookups l t.lookups := by
  unfold insertLookup at h
  split at h
  · cases h
  · rename_i hfree
    split at h
    · rename_i lookups hins
      cases h
      refine ⟨rfl, Table.insert?_fresh hins, fun op l' hl' hprofile hgeneration => hfree ?_,
        Table.put_insert? hins⟩
      refine List.any_eq_true.2 ⟨l', Table.get?_mem hl', ?_⟩
      simp [hprofile, hgeneration]
    · cases h

theorem newLookup_ok {newId : String} {r : LookupRequest δ} {digest : δ} {now : Time}
    (h : newLookup newId r digest now s = (.ok k, t)) :
    ∃ p, NewLookup s p (pendingLookup r digest now p) t ∧ p.accountId = r.accountId ∧
      k = ticket p (pendingLookup r digest now p) := by
  rw [newLookup, Tx.run_read_bind] at h
  obtain ⟨_, h₁⟩ := Tx.run_bind_require h
  obtain ⟨_, s₁, hsave, h₂⟩ := Tx.run_bind_ok h₁
  obtain ⟨_, s₂, hins, h₃⟩ := Tx.run_bind_ok h₂
  cases h₃
  refine ⟨_, ?_, ?_, rfl⟩
  rotate_left
  · cases hfound : requestedProfile s r with
    | none => rfl
    | some p₀ =>
      have hmatch := List.find?_some hfound
      simp only [Bool.and_eq_true, decide_eq_true_eq] at hmatch
      exact hmatch.1.1
  have hprofiles : s₁.lookups = s.lookups ∧
      (s.profiles.get? (begunProfile r digest now
        ((requestedProfile s r).getD (newProfile newId r now))).id = none ∨
        ∃ r' digest' now' p₀, s.profiles.get? (begunProfile r digest now
          ((requestedProfile s r).getD (newProfile newId r now))).id = some p₀ ∧
          begunProfile r digest now ((requestedProfile s r).getD (newProfile newId r now)) =
            begunProfile r' digest' now' p₀) ∧
      Table.Put s.profiles (begunProfile r digest now
        ((requestedProfile s r).getD (newProfile newId r now))) s₁.profiles := by
    unfold flushProfile at hsave
    cases hfound : requestedProfile s r with
    | none =>
      rw [hfound] at hsave
      obtain ⟨hlookups, hnone, hput⟩ := insertProfile_ok hsave
      exact ⟨hlookups, .inl hnone, hput⟩
    | some p₀ =>
      rw [hfound] at hsave
      have hrow : s.profiles.get? p₀.id = some p₀ :=
        Table.get?_of_mem (List.mem_of_find?_eq_some hfound)
      obtain ⟨hlookups, hput⟩ := saveProfile_ok hsave hrow
      exact ⟨hlookups, .inr ⟨r, digest, now, p₀, hrow, rfl⟩, hput⟩
  obtain ⟨hlookups, hbefore, hput⟩ := hprofiles
  obtain ⟨hsame, hfresh, hfree, hputl⟩ := insertLookup_ok hins
  rw [hlookups] at hfresh hfree hputl
  rw [← hsame] at hput
  exact ⟨hfresh, rfl, rfl, rfl, rfl, hfree, hbefore, hput, hputl⟩

@[simp] theorem publishedProfile_id (k : LookupTicket δ) (v : ProfileValue)
    (avatar : Option Bytes) (now : Time) (p : CreatorProfile δ) :
    (publishedProfile k v avatar now p).id = p.id := by
  cases avatar <;> rfl

@[simp] theorem publishedProfile_revision (k : LookupTicket δ) (v : ProfileValue)
    (avatar : Option Bytes) (now : Time) (p : CreatorProfile δ) :
    (publishedProfile k v avatar now p).revision = p.revision + 1 := by
  cases avatar <;> rfl

theorem readLookup_ok {operationId : String} {found : Option (LookupSnapshot δ)}
    (h : readLookup operationId s = (.ok found, t)) : t = s ∧ ∀ x, found = some x →
      ∃ p l, s.lookups.get? operationId = some l ∧ s.profiles.get? l.profileId = some p ∧
        x.ticket = ticket p l ∧ x.state = l.state ∧ x.completedAt = l.completedAt ∧
        x.profile = if l.state = .succeeded ∧ l.resultRevision ≠ some p.revision then none
          else snapshot p := by
  obtain ⟨_, h₁⟩ := Tx.run_bind_require h
  cases h₁
  refine ⟨rfl, fun x hx => ?_⟩
  obtain ⟨l, hl, hx₁⟩ := Option.bind_eq_some_iff.1 hx
  obtain ⟨p, hp, hx₂⟩ := Option.bind_eq_some_iff.1 hx₁
  cases hx₂
  exact ⟨p, l, hl, hp, rfl, rfl, rfl, rfl⟩

/-- A transaction that answers is the run of the program inside it. -/
theorem commit_answer {α : Type} {m : ProfileTx δ α} {f : α → ProfileAnswer δ}
    {y : ProfileAnswer δ}
    (h : Tx.commit (do let a ← m; pure (f a)) s = (.ok y, t)) :
    ∃ a, m s = (.ok a, t) ∧ y = f a := by
  obtain ⟨a, u, hm, hy⟩ := Tx.run_bind_ok (Tx.commit_ok h)
  cases hy
  exact ⟨a, hm, rfl⟩

section Specs

variable [DecidableEq δ] {host : ProfileHost δ}

/-- What the ticket of a result was compared with. -/
structure IsCurrent (host : ProfileHost δ) (s : ProfileStore δ) (k : LookupTicket δ)
    (p : CreatorProfile δ) (l : CreatorProfileLookup δ) : Prop where
  profile : s.profiles.get? k.profileId = some p
  lookup : s.lookups.get? k.operationId = some l
  same : ticket p l = k
  generation : p.generation = k.generation
  operation : p.latestOperationId = some k.operationId
  digest : p.credentialSnapshotDigest = some k.credentialSnapshotDigest
  credentials : ∃ a, s.accounts.get? k.accountId = some a ∧
    host.credentialDigest a.credentials = k.credentialSnapshotDigest

theorem current_ok {now : Time} {found : CreatorProfile δ × CreatorProfileLookup δ}
    (h : current host k now s = (.ok found, t)) : t = s ∧ IsCurrent host s k found.1 found.2 := by
  obtain ⟨_, s₁, h₁, h₂⟩ := Tx.run_bind_ok h
  rw [operation_ok h₁] at h₂
  obtain ⟨a, s₂, h₃, h₄⟩ := Tx.run_bind_ok h₂
  obtain ⟨hs, ha⟩ := account_ok h₃
  rw [hs] at h₄
  obtain ⟨hdigest, h₅⟩ := Tx.run_bind_require h₄
  rw [Tx.run_read_bind, Tx.run_read_bind] at h₅
  cases hp : s.profiles.get? k.profileId with
  | none =>
    simp only [hp] at h₅
    cases h₅
  | some p =>
    cases hl : s.lookups.get? k.operationId with
    | none =>
      simp only [hp, hl] at h₅
      cases h₅
    | some l =>
      simp only [hp, hl] at h₅
      obtain ⟨hsame, h₆⟩ := Tx.run_bind_require h₅
      obtain ⟨hlatest, h₇⟩ := Tx.run_bind_require h₆
      cases h₇
      simp only [Bool.and_eq_true, decide_eq_true_eq] at hlatest hsame hdigest
      exact ⟨rfl, hp, hl, hsame, hlatest.1.1.1, hlatest.1.1.2, hlatest.2, a, ha, hdigest⟩

theorem repeatedLookup_ok {r : LookupRequest δ} {digest : δ}
    (h : repeatedLookup r digest l s = (.ok k, t)) :
    t = s ∧ l.credentialSnapshotDigest = digest ∧
      ∃ p, s.profiles.get? l.profileId = some p ∧ p.accountId = r.accountId ∧ k = ticket p l := by
  rw [repeatedLookup, Tx.run_read_bind] at h
  cases hp : s.profiles.get? l.profileId with
  | none =>
    simp only [hp] at h
    cases h
  | some p =>
    simp only [hp] at h
    obtain ⟨hsame, h₁⟩ := Tx.run_bind_require h
    cases h₁
    simp only [Bool.and_eq_true, decide_eq_true_eq] at hsame
    exact ⟨rfl, hsame.2, p, rfl, hsame.1.1.1.1, rfl⟩

/-- The two ways a begin succeeds, both under the credentials that the account has. -/
theorem beginLookup_ok {newId : String} {r : LookupRequest δ} {now : Time}
    (h : beginLookup host newId r now s = (.ok k, t)) :
    (∃ a, s.accounts.get? k.accountId = some a ∧
      host.credentialDigest a.credentials = k.credentialSnapshotDigest) ∧
    ((∃ p l, s.lookups.get? l.operationId = some l ∧ s.profiles.get? l.profileId = some p ∧
        l.operationId = r.operationId ∧ k = ticket p l ∧ t = s) ∨
      ∃ p l, NewLookup s p l t ∧ l.operationId = r.operationId ∧ k = ticket p l) := by
  obtain ⟨_, s₁, h₁, h₂⟩ := Tx.run_bind_ok h
  rw [identity_ok h₁] at h₂
  obtain ⟨_, h₃⟩ := Tx.run_bind_require h₂
  obtain ⟨_, s₂, h₄, h₅⟩ := Tx.run_bind_ok h₃
  rw [operation_ok h₄] at h₅
  obtain ⟨a, s₃, h₆, h₇⟩ := Tx.run_bind_ok h₅
  obtain ⟨hs, ha⟩ := account_ok h₆
  rw [hs] at h₇
  obtain ⟨_, h₈⟩ := Tx.run_bind_require h₇
  rw [Tx.run_read_bind] at h₈
  cases hl : s.lookups.get? r.operationId with
  | none =>
    simp only [hl] at h₈
    obtain ⟨p, hnew, haccount, rfl⟩ := newLookup_ok h₈
    rw [← haccount] at ha
    exact ⟨⟨a, ha, rfl⟩, .inr ⟨p, _, hnew, rfl, rfl⟩⟩
  | some l =>
    simp only [hl] at h₈
    obtain ⟨hs, hdigest, p, hp, haccount, rfl⟩ := repeatedLookup_ok h₈
    rw [← haccount] at ha
    have hop : l.operationId = r.operationId := Table.get?_key hl
    refine ⟨⟨a, ha, hdigest.symm⟩, .inl ⟨p, l, ?_, hp, hop, rfl, hs⟩⟩
    rw [hop, hl]

theorem publish_ok {v : ProfileValue} {avatar : Option Bytes} {now : Time} {x : ProfileSnapshot}
    (h : publish host k v avatar now s = (.ok x, t)) :
    ∃ p l, IsCurrent host s k p l ∧ l.state = .pending ∧
      Table.Put s.profiles (publishedProfile k v avatar now p) t.profiles ∧
      Table.Put s.lookups (succeededLookup (p.revision + 1) now l) t.lookups ∧
      snapshot (publishedProfile k v avatar now p) = some x := by
  obtain ⟨_, s₁, h₁, h₂⟩ := Tx.run_bind_ok h
  rw [identity_ok h₁] at h₂
  obtain ⟨_, h₃⟩ := Tx.run_bind_require h₂
  obtain ⟨_, h₄⟩ := Tx.run_bind_require h₃
  obtain ⟨_, h₅⟩ := Tx.run_bind_require h₄
  obtain ⟨⟨p, l⟩, s₂, h₆, h₇⟩ := Tx.run_bind_ok h₅
  obtain ⟨hs, hcurrent⟩ := current_ok h₆
  rw [hs] at h₇
  obtain ⟨hpending, h₈⟩ := Tx.run_bind_require h₇
  obtain ⟨_, h₉⟩ := Tx.run_bind_require h₈
  obtain ⟨_, s₃, hsave, h₁₀⟩ := Tx.run_bind_ok h₉
  obtain ⟨_, s₄, hsavel, h₁₁⟩ := Tx.run_bind_ok h₁₀
  have hid : p.id = k.profileId := Table.get?_key hcurrent.profile
  have hop : l.operationId = k.operationId := Table.get?_key hcurrent.lookup
  have hrow : s.profiles.get? (publishedProfile k v avatar now p).id = some p := by
    rw [publishedProfile_id, hid]
    exact hcurrent.profile
  obtain ⟨hlookups, hput⟩ := saveProfile_ok hsave hrow
  have hrowl : s₃.lookups.get? l.operationId = some l := by
    rw [hlookups, hop]
    exact hcurrent.lookup
  obtain ⟨hprofiles, hputl⟩ := saveLookup_ok hsavel hrowl
  rw [publishedProfile_revision, hlookups] at hputl
  rw [← hprofiles] at hput
  cases hx : snapshot (publishedProfile k v avatar now p) with
  | none =>
    simp only [hx] at h₁₁
    cases h₁₁
  | some y =>
    simp only [hx] at h₁₁
    cases h₁₁
    exact ⟨p, l, hcurrent, of_decide_eq_true hpending, hput, hputl, hx⟩

theorem markFailed_ok {code : String} {now : Time} {a : Unit}
    (h : markFailed host k code now s = (.ok a, t)) :
    ∃ p l, IsCurrent host s k p l ∧ l.state = .pending ∧ t.profiles = s.profiles ∧
      Table.Put s.lookups (failedLookup code now l) t.lookups := by
  obtain ⟨⟨p, l⟩, s₂, h₁, h₂⟩ := Tx.run_bind_ok h
  obtain ⟨hs, hcurrent⟩ := current_ok h₁
  rw [hs] at h₂
  obtain ⟨hpending, h₃⟩ := Tx.run_bind_require h₂
  have hop : l.operationId = k.operationId := Table.get?_key hcurrent.lookup
  have hrow : s.lookups.get? (failedLookup code now l).operationId = some l := by
    rw [← hcurrent.lookup, ← hop]
    rfl
  obtain ⟨hprofiles, hput⟩ := saveLookup_ok h₃ hrow
  exact ⟨p, l, hcurrent, of_decide_eq_true hpending, hprofiles, hput⟩

/-- What a receipt was compared with. -/
structure IsAccepted (host : ProfileHost δ) (s : ProfileStore δ) (operationId accountId : String)
    (p : CreatorProfile δ) (l : CreatorProfileLookup δ) (x : ProfileSnapshot) : Prop where
  lookup : s.lookups.get? operationId = some l
  profile : s.profiles.get? l.profileId = some p
  owner : p.accountId = accountId
  succeeded : l.state = .succeeded
  revision : l.resultRevision = some p.revision
  latest : p.latestOperationId = some operationId
  generation : p.generation = l.generation
  result : snapshot p = some x
  credentials : ∃ a, s.accounts.get? accountId = some a ∧
    host.credentialDigest a.credentials = l.credentialSnapshotDigest

theorem requireReceipt_ok {operationId accountId platform creatorRemoteId : String} {now : Time}
    {ttlSeconds : Int} {x : ProfileSnapshot}
    (h : requireReceipt host operationId accountId platform creatorRemoteId now ttlSeconds s =
      (.ok x, t)) : t = s ∧ ∃ p l, IsAccepted host s operationId accountId p l x := by
  obtain ⟨_, h₁⟩ := Tx.run_bind_require h
  obtain ⟨_, h₂⟩ := Tx.run_bind_require h₁
  rw [Tx.run_read_bind] at h₂
  obtain ⟨_, h₃⟩ := Tx.run_bind_require h₂
  obtain ⟨a, s₁, h₄, h₅⟩ := Tx.run_bind_ok h₃
  obtain ⟨hs₁, ha⟩ := account_ok h₄
  rw [hs₁] at h₅
  obtain ⟨found, s₂, h₆, h₇⟩ := Tx.run_bind_ok h₅
  obtain ⟨hs₂, hfound⟩ := readLookup_ok h₆
  rw [hs₂] at h₇
  cases found with
  | none => cases h₇
  | some y =>
    obtain ⟨p, l, hl, hp, hticket, hstate, -, hresult⟩ := hfound y rfl
    cases hy : y.profile with
    | none =>
      simp only [hy] at h₇
      cases h₇
    | some result =>
      simp only [hy] at h₇
      obtain ⟨hreceipt, h₈⟩ := Tx.run_bind_require h₇
      rw [Tx.run_read_bind] at h₈
      obtain ⟨hprofile, h₉⟩ := Tx.run_bind_require h₈
      obtain ⟨_, h₁₀⟩ := Tx.run_bind_require h₉
      cases h₁₀
      simp only [isReceipt, hstate, hticket, Bool.and_eq_true, decide_eq_true_eq] at hreceipt
      have hid : p.id = l.profileId := Table.get?_key hp
      have hfind : s.profiles.get? y.ticket.profileId = some p := by
        rw [hticket, ← hp, ← hid]
        rfl
      rw [hfind] at hprofile
      simp only [Option.any_some, hticket, Bool.and_eq_true, decide_eq_true_eq] at hprofile
      rw [hy] at hresult
      split at hresult
      · cases hresult
      · rename_i hrevision
        refine ⟨rfl, p, l, hl, hp, hreceipt.1.1.1.1.2, hreceipt.1.1.1.1.1, ?_, hprofile.1,
          hprofile.2, hresult.symm, a, ha, hreceipt.1.2.symm⟩
        by_contra hne
        exact hrevision ⟨hreceipt.1.1.1.1.1, hne⟩

/-- What a step does, with the ticket that it gives out or publishes. -/
inductive ProfileMove (host : ProfileHost δ) (s : ProfileStore δ) (e : ProfileEvent δ)
    (t : ProfileStore δ) : Prop
  | still : begunTicket e = none → publishedResult e = none → t.profiles = s.profiles →
      t.lookups = s.lookups → ProfileMove host s e t
  | repeated (p : CreatorProfile δ) (l : CreatorProfileLookup δ) :
      s.lookups.get? l.operationId = some l → s.profiles.get? l.profileId = some p →
      begunTicket e = some (ticket p l) → publishedResult e = none → t = s →
      ProfileMove host s e t
  | began (p : CreatorProfile δ) (l : CreatorProfileLookup δ) : NewLookup s p l t →
      begunTicket e = some (ticket p l) → publishedResult e = none → ProfileMove host s e t
  | failed (k : LookupTicket δ) (p : CreatorProfile δ) (l : CreatorProfileLookup δ)
      (code : String) (now : Time) :
      IsCurrent host s k p l → l.state = .pending → t.profiles = s.profiles →
      Table.Put s.lookups (failedLookup code now l) t.lookups → begunTicket e = none →
      publishedResult e = none → ProfileMove host s e t
  | published (k : LookupTicket δ) (p : CreatorProfile δ) (l : CreatorProfileLookup δ)
      (v : ProfileValue) (avatar : Option Bytes) (now : Time) (x : ProfileSnapshot) :
      IsCurrent host s k p l → l.state = .pending →
      Table.Put s.profiles (publishedProfile k v avatar now p) t.profiles →
      Table.Put s.lookups (succeededLookup (p.revision + 1) now l) t.lookups →
      snapshot (publishedProfile k v avatar now p) = some x → begunTicket e = none →
      publishedResult e = some (k, x) → ProfileMove host s e t

theorem ProfileCall.run_error {c : ProfileCall δ} {e : ProfileError}
    (h : c.run host s = (.error e, t)) : t = s := by
  cases c with
  | change accounts operations => cases h
  | _ => exact Tx.commit_error h

theorem profileStep_move {e : ProfileEvent δ} (h : profileStep host s e t) :
    ProfileMove host s e t := by
  obtain ⟨c, r⟩ := e
  cases r with
  | error err =>
    have hsame := ProfileCall.run_error h
    refine .still ?_ ?_ (by rw [hsame]) (by rw [hsame])
    · cases c <;> rfl
    · cases c <;> rfl
  | ok y =>
    cases c with
    | beginLookup newId r now =>
      obtain ⟨k, hrun, rfl⟩ := commit_answer h
      obtain ⟨-, ⟨p, l, hl, hp, -, rfl, hs⟩ | ⟨p, l, hnew, -, rfl⟩⟩ := beginLookup_ok hrun
      · exact .repeated p l hl hp rfl rfl hs
      · exact .began p l hnew rfl rfl
    | publish k v avatar now =>
      obtain ⟨x, hrun, rfl⟩ := commit_answer h
      obtain ⟨p, l, hcurrent, hpending, hput, hputl, hx⟩ := publish_ok hrun
      exact .published k p l v avatar now x hcurrent hpending hput hputl hx rfl rfl
    | markFailed k code now =>
      obtain ⟨_, hrun, rfl⟩ := commit_answer h
      obtain ⟨p, l, hcurrent, hpending, hsame, hput⟩ := markFailed_ok hrun
      exact .failed k p l code now hcurrent hpending hsame hput rfl rfl
    | requireReceipt operationId accountId platform creatorRemoteId now ttlSeconds =>
      obtain ⟨x, hrun, rfl⟩ := commit_answer h
      have hsame := (requireReceipt_ok hrun).1
      exact .still rfl rfl (by rw [hsame]) (by rw [hsame])
    | change accounts operations =>
      cases h
      exact .still rfl rfl rfl rfl

end Specs

end MediaSync.Accounts
