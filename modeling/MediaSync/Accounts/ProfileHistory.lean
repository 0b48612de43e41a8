import MediaSync.Accounts.ProfileLookups

/-!
# Stale results

Rows only move forward: a profile counts its generation and its revision up,
and a lookup that has left pending is never written again. Beside that, the
tables are the record of the run, which turns the fences that a result passes
into statements about every request made before it.
-/

namespace MediaSync.Accounts

open Python Transaction Transition CreatorProfileRepository

variable {δ : Type} {s t u : ProfileStore δ} {p q : CreatorProfile δ}
  {l m : CreatorProfileLookup δ} {k k' : LookupTicket δ} {h : List (ProfileEvent δ)}
  {e : ProfileEvent δ} {host : ProfileHost δ}

/-! ## Rows over a step -/

structure LaterProfile (p q : CreatorProfile δ) : Prop where
  id : q.id = p.id
  accountId : q.accountId = p.accountId
  platform : q.platform = p.platform
  creatorRemoteId : q.creatorRemoteId = p.creatorRemoteId
  generation : p.generation ≤ q.generation
  revision : p.revision ≤ q.revision
  content : q.revision = p.revision → snapshot q = snapshot p ∧ q.avatarPng = p.avatarPng

structure LaterLookup (l m : CreatorProfileLookup δ) : Prop where
  operationId : m.operationId = l.operationId
  profileId : m.profileId = l.profileId
  generation : m.generation = l.generation
  frontendGeneration : m.frontendGeneration = l.frontendGeneration
  digest : m.credentialSnapshotDigest = l.credentialSnapshotDigest
  settled : l.state ≠ .pending → m = l

structure Later (s t : ProfileStore δ) : Prop where
  profiles : ∀ id p, s.profiles.get? id = some p →
    ∃ q, t.profiles.get? id = some q ∧ LaterProfile p q
  lookups : ∀ op l, s.lookups.get? op = some l →
    ∃ m, t.lookups.get? op = some m ∧ LaterLookup l m

theorem LaterProfile.refl (p : CreatorProfile δ) : LaterProfile p p :=
  ⟨rfl, rfl, rfl, rfl, Nat.le_refl _, Nat.le_refl _, fun _ => ⟨rfl, rfl⟩⟩

theorem LaterProfile.trans {r : CreatorProfile δ} (hpq : LaterProfile p q)
    (hqr : LaterProfile q r) : LaterProfile p r where
  id := hqr.id.trans hpq.id
  accountId := hqr.accountId.trans hpq.accountId
  platform := hqr.platform.trans hpq.platform
  creatorRemoteId := hqr.creatorRemoteId.trans hpq.creatorRemoteId
  generation := hpq.generation.trans hqr.generation
  revision := hpq.revision.trans hqr.revision
  content hrevision := by
    have hle := hpq.revision
    have hle' := hqr.revision
    obtain ⟨hx, hpng⟩ := hqr.content (by omega)
    obtain ⟨hx', hpng'⟩ := hpq.content (by omega)
    exact ⟨hx.trans hx', hpng.trans hpng'⟩

theorem LaterLookup.refl (l : CreatorProfileLookup δ) : LaterLookup l l :=
  ⟨rfl, rfl, rfl, rfl, rfl, fun _ => rfl⟩

theorem LaterLookup.trans {n : CreatorProfileLookup δ} (hlm : LaterLookup l m)
    (hmn : LaterLookup m n) : LaterLookup l n where
  operationId := hmn.operationId.trans hlm.operationId
  profileId := hmn.profileId.trans hlm.profileId
  generation := hmn.generation.trans hlm.generation
  frontendGeneration := hmn.frontendGeneration.trans hlm.frontendGeneration
  digest := hmn.digest.trans hlm.digest
  settled hstate := by
    have hm := hlm.settled hstate
    rw [hm] at hmn
    exact hmn.settled hstate

theorem Later.refl (s : ProfileStore δ) : Later s s :=
  ⟨fun _ p hp => ⟨p, hp, .refl p⟩, fun _ l hl => ⟨l, hl, .refl l⟩⟩

theorem Later.trans (hst : Later s t) (htu : Later t u) : Later s u where
  profiles id p hp := by
    obtain ⟨q, hq, hpq⟩ := hst.profiles id p hp
    obtain ⟨r, hr, hqr⟩ := htu.profiles id q hq
    exact ⟨r, hr, hpq.trans hqr⟩
  lookups op l hl := by
    obtain ⟨m, hm, hlm⟩ := hst.lookups op l hl
    obtain ⟨n, hn, hmn⟩ := htu.lookups op m hm
    exact ⟨n, hn, hlm.trans hmn⟩

theorem ticket_later (hp : LaterProfile p q) (hl : LaterLookup l m) : ticket q m = ticket p l := by
  simp only [ticket, hp.id, hp.accountId, hp.platform, hp.creatorRemoteId, hl.generation,
    hl.operationId, hl.frontendGeneration, hl.digest]

theorem later_begunProfile (r : LookupRequest δ) (digest : δ) (now : Time)
    (p : CreatorProfile δ) : LaterProfile p (begunProfile r digest now p) :=
  ⟨rfl, rfl, rfl, rfl, Nat.le_succ _, Nat.le_refl _, fun _ => ⟨rfl, rfl⟩⟩

theorem later_publishedProfile (k : LookupTicket δ) (v : ProfileValue) (avatar : Option Bytes)
    (now : Time) (p : CreatorProfile δ) :
    LaterProfile p (publishedProfile k v avatar now p) where
  id := publishedProfile_id k v avatar now p
  accountId := by cases avatar <;> rfl
  platform := by cases avatar <;> rfl
  creatorRemoteId := by cases avatar <;> rfl
  generation := by cases avatar <;> exact Nat.le_refl _
  revision := by
    rw [publishedProfile_revision]
    exact Nat.le_succ _
  content hrevision := by
    rw [publishedProfile_revision] at hrevision
    omega

theorem later_put_profiles {t' : Table (CreatorProfile.id : CreatorProfile δ → String)}
    (hput : Table.Put s.profiles q t')
    (hbefore : s.profiles.get? q.id = none ∨ ∃ p, s.profiles.get? q.id = some p ∧ LaterProfile p q)
    (id : String) (p : CreatorProfile δ) (hp : s.profiles.get? id = some p) :
    ∃ q', t'.get? id = some q' ∧ LaterProfile p q' := by
  by_cases hid : id = q.id
  · subst hid
    rcases hbefore with hnone | ⟨p₀, hp₀, hlater⟩
    · rw [hnone] at hp
      cases hp
    · rw [hp₀] at hp
      cases hp
      exact ⟨q, hput.row, hlater⟩
  · exact ⟨p, by rw [hput.other hid, hp], .refl p⟩

theorem later_put_lookups {t' : Table (CreatorProfileLookup.operationId :
      CreatorProfileLookup δ → String)} (hput : Table.Put s.lookups m t')
    (hbefore : s.lookups.get? m.operationId = none ∨
      ∃ l, s.lookups.get? m.operationId = some l ∧ LaterLookup l m)
    (op : String) (l : CreatorProfileLookup δ) (hl : s.lookups.get? op = some l) :
    ∃ m', t'.get? op = some m' ∧ LaterLookup l m' := by
  by_cases hop : op = m.operationId
  · subst hop
    rcases hbefore with hnone | ⟨l₀, hl₀, hlater⟩
    · rw [hnone] at hl
      cases hl
    · rw [hl₀] at hl
      cases hl
      exact ⟨m, hput.row, hlater⟩
  · exact ⟨l, by rw [hput.other hop, hl], .refl l⟩

theorem IsCurrent.operationId (hc : IsCurrent host s k p l) : l.operationId = k.operationId :=
  Table.get?_key hc.lookup

theorem IsCurrent.id (hc : IsCurrent host s k p l) : p.id = k.profileId :=
  Table.get?_key hc.profile

theorem ProfileMove.later (hm : ProfileMove host s e t) : Later s t := by
  cases hm with
  | still _ _ hprofiles hlookups =>
    constructor
    · intro id p hp
      exact ⟨p, by rw [hprofiles, hp], .refl p⟩
    · intro op l hl
      exact ⟨l, by rw [hlookups, hl], .refl l⟩
  | repeated p l _ _ _ _ hs =>
    rw [hs]
    exact .refl s
  | began p l hnew =>
    refine ⟨later_put_profiles hnew.profiles ?_, later_put_lookups hnew.lookups (.inl hnew.fresh)⟩
    rcases hnew.before with hnone | ⟨r, digest, now, p₀, hp₀, hp⟩
    · exact .inl hnone
    · refine .inr ⟨p₀, hp₀, ?_⟩
      rw [hp]
      exact later_begunProfile r digest now p₀
  | failed k p l code now hc hpending hprofiles hput =>
    constructor
    · intro id p hp
      exact ⟨p, by rw [hprofiles, hp], .refl p⟩
    · refine later_put_lookups hput (.inr ⟨l, ?_, rfl, rfl, rfl, rfl, rfl, fun hne => ?_⟩)
      · rw [← hc.lookup, ← hc.operationId]
        rfl
      · exact absurd hpending hne
  | published k p l v avatar now x hc hpending hput hputl =>
    constructor
    · refine later_put_profiles hput (.inr ⟨p, ?_, later_publishedProfile k v avatar now p⟩)
      rw [publishedProfile_id, hc.id]
      exact hc.profile
    · refine later_put_lookups hputl (.inr ⟨l, ?_, rfl, rfl, rfl, rfl, rfl, fun hne => ?_⟩)
      · rw [← hc.lookup, ← hc.operationId]
        rfl
      · exact absurd hpending hne

theorem put_before {ρ κ : Type} [DecidableEq κ] {key : ρ → κ} {tb tb' : Table key} {r : ρ}
    (hput : Table.Put tb r tb') {i : κ} {r' : ρ} (hr : tb'.get? i = some r') :
    (i = key r ∧ r' = r) ∨ (i ≠ key r ∧ tb.get? i = some r') := by
  by_cases hi : i = key r
  · subst hi
    rw [hput.row] at hr
    cases hr
    exact .inl ⟨rfl, rfl⟩
  · rw [hput.other hi] at hr
    exact .inr ⟨hi, hr⟩

/-- Only a publication of the profile counts its revision. -/
theorem ProfileMove.revision (hm : ProfileMove host s e t) {id : String}
    (hp : s.profiles.get? id = some p) (hq : t.profiles.get? id = some q)
    (hother : ∀ k x, publishedResult e = some (k, x) → k.profileId ≠ id) :
    q.revision = p.revision := by
  cases hm with
  | still _ _ hprofiles =>
    rw [hprofiles, hp] at hq
    cases hq
    rfl
  | repeated _ _ _ _ _ _ hs =>
    rw [hs, hp] at hq
    cases hq
    rfl
  | began p' l hnew =>
    rcases put_before hnew.profiles hq with ⟨rfl, rfl⟩ | ⟨_, hq₀⟩
    · rcases hnew.before with hnone | ⟨r, digest, now, p₀, hp₀, hq'⟩
      · rw [hnone] at hp
        cases hp
      · rw [hp₀] at hp
        cases hp
        rw [hq']
        rfl
    · rw [hp] at hq₀
      cases hq₀
      rfl
  | failed _ _ _ _ _ _ _ hprofiles =>
    rw [hprofiles, hp] at hq
    cases hq
    rfl
  | published k p' l v avatar now x hc _ hput _ _ _ hresult =>
    rcases put_before hput hq with ⟨hid, -⟩ | ⟨_, hq₀⟩
    · rw [publishedProfile_id, hc.id] at hid
      exact absurd hid.symm (hother k x hresult)
    · rw [hp] at hq₀
      cases hq₀
      rfl

/-! ## The record of a run -/

/-- Every request that was given a ticket is a row, in the order of its profile's generations. -/
structure Requests (h : List (ProfileEvent δ)) (s : ProfileStore δ) : Prop where
  rows : ∀ op l, s.lookups.get? op = some l →
    ∃ p, s.profiles.get? l.profileId = some p ∧ l.generation ≤ p.generation
  single : ∀ op op' l l', s.lookups.get? op = some l → s.lookups.get? op' = some l' →
    l.profileId = l'.profileId → l.generation = l'.generation → op = op'
  latest : ∀ id p op, s.profiles.get? id = some p → p.latestOperationId = some op →
    ∃ l, s.lookups.get? op = some l ∧ l.profileId = id ∧ l.generation = p.generation
  begun : ∀ k, Begun h k → ∃ p l, s.lookups.get? k.operationId = some l ∧
    s.profiles.get? l.profileId = some p ∧ ticket p l = k
  issued : ∀ op l p, s.lookups.get? op = some l → s.profiles.get? l.profileId = some p →
    Begun h (ticket p l)

/-- Every result that was published is a row that succeeded, and the profile shows the last. -/
structure Results (h : List (ProfileEvent δ)) (s : ProfileStore δ) : Prop where
  published : ∀ op l p, s.lookups.get? op = some l → s.profiles.get? l.profileId = some p →
    l.state = .succeeded → ∃ x, Published h (ticket p l) x
  settled : ∀ k x, Published h k x → ∃ p l, s.lookups.get? k.operationId = some l ∧
    s.profiles.get? l.profileId = some p ∧ ticket p l = k ∧ l.state = .succeeded ∧
    l.resultRevision = some x.revision ∧ x.revision ≤ p.revision ∧
    (p.revision = x.revision → snapshot p = some x)

/-- The requests of the two states are the same ones. -/
structure SameRequests (s t : ProfileStore δ) : Prop where
  later : Later s t
  lookups : ∀ op m, t.lookups.get? op = some m →
    ∃ l, s.lookups.get? op = some l ∧ LaterLookup l m
  profiles : ∀ id q, t.profiles.get? id = some q → ∃ p, s.profiles.get? id = some p ∧
    LaterProfile p q ∧ q.generation = p.generation ∧ q.latestOperationId = p.latestOperationId

theorem publishedProfile_generation (k : LookupTicket δ) (v : ProfileValue)
    (avatar : Option Bytes) (now : Time) (p : CreatorProfile δ) :
    (publishedProfile k v avatar now p).generation = p.generation ∧
      (publishedProfile k v avatar now p).latestOperationId = p.latestOperationId := by
  cases avatar <;> exact ⟨rfl, rfl⟩

theorem ProfileMove.sameRequests (hm : ProfileMove host s e t) :
    (∃ p l, NewLookup s p l t ∧ begunTicket e = some (ticket p l)) ∨
      SameRequests s t ∧ ∀ k, begunTicket e = some k → ∃ p l,
        s.lookups.get? k.operationId = some l ∧ s.profiles.get? l.profileId = some p ∧
          ticket p l = k := by
  have hlater := hm.later
  have hnone : begunTicket e = none → ∀ k, begunTicket e = some k → ∃ p l,
      s.lookups.get? k.operationId = some l ∧ s.profiles.get? l.profileId = some p ∧
        ticket p l = k := by
    intro hnone k hk
    rw [hnone] at hk
    cases hk
  cases hm with
  | still hbegun _ hprofiles hlookups =>
    refine .inr ⟨⟨hlater, fun op m hm => ?_, fun id q hq => ?_⟩, hnone hbegun⟩
    · exact ⟨m, by rw [← hlookups, hm], .refl m⟩
    · exact ⟨q, by rw [← hprofiles, hq], .refl q, rfl, rfl⟩
  | repeated p l hl hp hbegun _ hs =>
    refine .inr ⟨⟨hlater, fun op m hm => ?_, fun id q hq => ?_⟩, fun k hk => ?_⟩
    · exact ⟨m, by rw [← hs, hm], .refl m⟩
    · exact ⟨q, by rw [← hs, hq], .refl q, rfl, rfl⟩
    · rw [hbegun] at hk
      cases hk
      exact ⟨p, l, hl, hp, rfl⟩
  | began p l hnew hbegun => exact .inl ⟨p, l, hnew, hbegun⟩
  | failed k p l code now hc hpending hprofiles hput hbegun =>
    refine .inr ⟨⟨hlater, fun op m hm => ?_, fun id q hq => ?_⟩, hnone hbegun⟩
    · rcases put_before hput hm with ⟨rfl, rfl⟩ | ⟨_, hm₀⟩
      · refine ⟨l, ?_, rfl, rfl, rfl, rfl, rfl, fun hne => absurd hpending hne⟩
        rw [← hc.lookup, ← hc.operationId]
        rfl
      · exact ⟨m, hm₀, .refl m⟩
    · exact ⟨q, by rw [← hprofiles, hq], .refl q, rfl, rfl⟩
  | published k p l v avatar now x hc hpending hput hputl _ hbegun =>
    refine .inr ⟨⟨hlater, fun op m hm => ?_, fun id q hq => ?_⟩, hnone hbegun⟩
    · rcases put_before hputl hm with ⟨rfl, rfl⟩ | ⟨_, hm₀⟩
      · refine ⟨l, ?_, rfl, rfl, rfl, rfl, rfl, fun hne => absurd hpending hne⟩
        rw [← hc.lookup, ← hc.operationId]
        rfl
      · exact ⟨m, hm₀, .refl m⟩
    · rcases put_before hput hq with ⟨rfl, rfl⟩ | ⟨_, hq₀⟩
      · refine ⟨p, ?_, later_publishedProfile k v avatar now p,
          publishedProfile_generation k v avatar now p⟩
        rw [publishedProfile_id, hc.id]
        exact hc.profile
      · exact ⟨q, hq₀, .refl q, rfl, rfl⟩

/-- The row of a ticket after a step. -/
theorem Later.row (hst : Later s t) (hl : s.lookups.get? k.operationId = some l)
    (hp : s.profiles.get? l.profileId = some p) (hk : ticket p l = k) :
    ∃ q m, t.lookups.get? k.operationId = some m ∧ t.profiles.get? m.profileId = some q ∧
      ticket q m = k ∧ LaterProfile p q ∧ LaterLookup l m := by
  obtain ⟨m, hm, hlm⟩ := hst.lookups _ l hl
  obtain ⟨q, hq, hpq⟩ := hst.profiles _ p hp
  refine ⟨q, m, hm, ?_, (ticket_later hpq hlm).trans hk, hpq, hlm⟩
  rw [hlm.profileId, hq]

theorem Requests.keep (hr : Requests h s) (hsame : SameRequests s t)
    (hbegun : ∀ k, begunTicket e = some k → ∃ p l, s.lookups.get? k.operationId = some l ∧
      s.profiles.get? l.profileId = some p ∧ ticket p l = k) : Requests (h ++ [e]) t where
  rows op m hm := by
    obtain ⟨l, hl, hlm⟩ := hsame.lookups op m hm
    obtain ⟨p, hp, hle⟩ := hr.rows op l hl
    obtain ⟨q, hq, hpq⟩ := hsame.later.profiles _ p hp
    refine ⟨q, by rw [hlm.profileId, hq], ?_⟩
    rw [hlm.generation]
    exact hle.trans hpq.generation
  single op op' m m' hm hm' hprofile hgeneration := by
    obtain ⟨l, hl, hlm⟩ := hsame.lookups op m hm
    obtain ⟨l', hl', hlm'⟩ := hsame.lookups op' m' hm'
    rw [hlm.profileId, hlm'.profileId] at hprofile
    rw [hlm.generation, hlm'.generation] at hgeneration
    exact hr.single op op' l l' hl hl' hprofile hgeneration
  latest id q op hq hop := by
    obtain ⟨p, hp, _, hgeneration, hlatest⟩ := hsame.profiles id q hq
    obtain ⟨l, hl, hid, hgen⟩ := hr.latest id p op hp (hlatest ▸ hop)
    obtain ⟨m, hm, hlm⟩ := hsame.later.lookups op l hl
    refine ⟨m, hm, hlm.profileId.trans hid, ?_⟩
    rw [hlm.generation, hgen, hgeneration]
  begun k hk := by
    have hrow : ∃ p l, s.lookups.get? k.operationId = some l ∧
        s.profiles.get? l.profileId = some p ∧ ticket p l = k := by
      rcases begun_append.1 hk with hold | hnew
      · exact hr.begun k hold
      · exact hbegun k hnew
    obtain ⟨p, l, hl, hp, hticket⟩ := hrow
    obtain ⟨q, m, hm, hq, hticket', -, -⟩ := hsame.later.row hl hp hticket
    exact ⟨q, m, hm, hq, hticket'⟩
  issued op m q hm hq := by
    obtain ⟨l, hl, hlm⟩ := hsame.lookups op m hm
    obtain ⟨p, hp, hpq, -, -⟩ := hsame.profiles _ q hq
    rw [ticket_later hpq hlm]
    rw [hlm.profileId] at hp
    exact begun_append.2 (.inl (hr.issued op l p hl hp))

theorem NewLookup.lookup_other (hnew : NewLookup s p l t) {op : String}
    {l₀ : CreatorProfileLookup δ} (hl₀ : s.lookups.get? op = some l₀) :
    op ≠ l.operationId := by
  rintro rfl
  rw [hnew.fresh] at hl₀
  cases hl₀

theorem Requests.begin (hr : Requests h s) (hlater : Later s t) (hnew : NewLookup s p l t)
    (hbegun : begunTicket e = some (ticket p l)) : Requests (h ++ [e]) t where
  rows op m hm := by
    rcases put_before hnew.lookups hm with ⟨rfl, rfl⟩ | ⟨_, hm₀⟩
    · refine ⟨p, ?_, Nat.le_of_eq hnew.generation⟩
      rw [hnew.profile]
      exact hnew.profiles.row
    · obtain ⟨p₀, hp₀, hle⟩ := hr.rows op m hm₀
      obtain ⟨q, hq, hpq⟩ := hlater.profiles _ p₀ hp₀
      exact ⟨q, hq, hle.trans hpq.generation⟩
  single op op' m m' hm hm' hprofile hgeneration := by
    rcases put_before hnew.lookups hm with ⟨rfl, rfl⟩ | ⟨_, hm₀⟩
    · rcases put_before hnew.lookups hm' with ⟨rfl, rfl⟩ | ⟨_, hm₀'⟩
      · rfl
      · exact absurd hgeneration.symm (hnew.free op' m' hm₀' hprofile.symm)
    · rcases put_before hnew.lookups hm' with ⟨rfl, rfl⟩ | ⟨_, hm₀'⟩
      · exact absurd hgeneration (hnew.free op m hm₀ hprofile)
      · exact hr.single op op' m m' hm₀ hm₀' hprofile hgeneration
  latest id q op hq hop := by
    rcases put_before hnew.profiles hq with ⟨rfl, rfl⟩ | ⟨_, hq₀⟩
    · rw [hnew.latest] at hop
      cases hop
      exact ⟨l, hnew.lookups.row, hnew.profile, hnew.generation⟩
    · obtain ⟨l₀, hl₀, hid, hgen⟩ := hr.latest id q op hq₀ hop
      exact ⟨l₀, by rw [hnew.lookups.other (hnew.lookup_other hl₀), hl₀], hid, hgen⟩
  begun k hk := by
    rcases begun_append.1 hk with hold | hthis
    · obtain ⟨p₀, l₀, hl₀, hp₀, hticket⟩ := hr.begun k hold
      obtain ⟨q, m, hm, hq, hticket', -, -⟩ := hlater.row hl₀ hp₀ hticket
      exact ⟨q, m, hm, hq, hticket'⟩
    · rw [hbegun] at hthis
      cases hthis
      refine ⟨p, l, hnew.lookups.row, ?_, rfl⟩
      rw [hnew.profile]
      exact hnew.profiles.row
  issued op m q hm hq := by
    rcases put_before hnew.lookups hm with ⟨rfl, rfl⟩ | ⟨_, hm₀⟩
    · rw [hnew.profile, hnew.profiles.row] at hq
      cases hq
      exact begun_append.2 (.inr hbegun)
    · obtain ⟨p₀, hp₀, -⟩ := hr.rows op m hm₀
      obtain ⟨q', hq', hpq⟩ := hlater.profiles _ p₀ hp₀
      rw [hq] at hq'
      cases hq'
      rw [ticket_later hpq (.refl m)]
      exact begun_append.2 (.inl (hr.issued op m p₀ hm₀ hp₀))

theorem Requests.step (hr : Requests h s) (hm : ProfileMove host s e t) :
    Requests (h ++ [e]) t := by
  rcases hm.sameRequests with ⟨p, l, hnew, hbegun⟩ | ⟨hsame, hbegun⟩
  · exact hr.begin hm.later hnew hbegun
  · exact hr.keep hsame hbegun

/-- The lookup of a ticket that is still current belongs to its profile. -/
theorem IsCurrent.profileId (hc : IsCurrent host s k p l) (hr : Requests h s) :
    l.profileId = k.profileId := by
  obtain ⟨l', hl', hid, -⟩ := hr.latest _ p _ hc.profile hc.operation
  rw [hc.lookup] at hl'
  cases hl'
  exact hid

/-- Without a publication no lookup succeeds. -/
theorem ProfileMove.succeeded_before (hm : ProfileMove host s e t)
    (hnone : publishedResult e = none) {op : String} (hl : t.lookups.get? op = some m)
    (hstate : m.state = .succeeded) : s.lookups.get? op = some m := by
  cases hm with
  | still _ _ _ hlookups => rw [← hlookups, hl]
  | repeated _ _ _ _ _ _ hs => rw [← hs, hl]
  | began p l hnew =>
    rcases put_before hnew.lookups hl with ⟨rfl, rfl⟩ | ⟨_, hl₀⟩
    · rw [hnew.pending] at hstate
      cases hstate
    · exact hl₀
  | failed k p l code now _ _ _ hput =>
    rcases put_before hput hl with ⟨rfl, rfl⟩ | ⟨_, hl₀⟩
    · cases hstate
    · exact hl₀
  | published _ _ _ _ _ _ _ _ _ _ _ _ _ hresult =>
    rw [hresult] at hnone
    cases hnone

theorem snapshot_revision {x : ProfileSnapshot} (hx : snapshot p = some x) :
    x.revision = p.revision := by
  unfold snapshot at hx
  split at hx
  · split at hx
    · cases hx
    · cases hx
      rfl
  · cases hx

theorem Results.step (hres : Results h s) (hr : Requests h s) (hm : ProfileMove host s e t) :
    Results (h ++ [e]) t := by
  have hlater := hm.later
  -- a result that was published before this step
  have hold : ∀ k x, Published h k x → ∃ p l, t.lookups.get? k.operationId = some l ∧
      t.profiles.get? l.profileId = some p ∧ ticket p l = k ∧ l.state = .succeeded ∧
      l.resultRevision = some x.revision ∧ x.revision ≤ p.revision ∧
      (p.revision = x.revision → snapshot p = some x) := by
    intro k x hk
    obtain ⟨p, l, hl, hp, hticket, hstate, hresult, hle, hlast⟩ := hres.settled k x hk
    obtain ⟨q, m, hm', hq, hticket', hpq, hlm⟩ := hlater.row hl hp hticket
    have hml : m = l := hlm.settled (by rw [hstate]; decide)
    subst hml
    refine ⟨q, m, hm', hq, hticket', hstate, hresult, hle.trans hpq.revision, fun hrev => ?_⟩
    have hpr := hpq.revision
    rw [(hpq.content (by omega)).1]
    exact hlast (by omega)
  cases hpub : publishedResult e with
  | none =>
    refine ⟨fun op m q hl hq hstate => ?_, fun k x hk => ?_⟩
    · have hl₀ := hm.succeeded_before hpub hl hstate
      obtain ⟨p, hp, -⟩ := hr.rows op m hl₀
      obtain ⟨q', hq', hpq⟩ := hlater.profiles _ p hp
      rw [hq] at hq'
      cases hq'
      obtain ⟨x, hx⟩ := hres.published op m p hl₀ hp hstate
      rw [ticket_later hpq (.refl m)]
      exact ⟨x, published_append.2 (.inl hx)⟩
    · rcases published_append.1 hk with hk | hk
      · exact hold k x hk
      · rw [hpub] at hk
        cases hk
  | some r =>
    cases hm with
    | still _ hnone => rw [hnone] at hpub; cases hpub
    | repeated _ _ _ _ _ hnone => rw [hnone] at hpub; cases hpub
    | began _ _ _ _ hnone => rw [hnone] at hpub; cases hpub
    | failed _ _ _ _ _ _ _ _ _ _ hnone => rw [hnone] at hpub; cases hpub
    | published k p l v avatar now x hc hpending hput hputl hx _ hresult =>
      have hid := hc.profileId hr
      have hp : s.profiles.get? l.profileId = some p := by
        rw [hid]
        exact hc.profile
      have hl : t.lookups.get? k.operationId = some (succeededLookup (p.revision + 1) now l) := by
        rw [← hc.operationId]
        exact hputl.row
      have hq : t.profiles.get? l.profileId = some (publishedProfile k v avatar now p) := by
        rw [hid, ← hc.id, ← publishedProfile_id k v avatar now p]
        exact hput.row
      have hsettled : LaterLookup l (succeededLookup (p.revision + 1) now l) :=
        ⟨rfl, rfl, rfl, rfl, rfl, fun hne => absurd hpending hne⟩
      have hticket : ticket (publishedProfile k v avatar now p)
          (succeededLookup (p.revision + 1) now l) = k :=
        (ticket_later (later_publishedProfile k v avatar now p) hsettled).trans hc.same
      have hxrev : x.revision = p.revision + 1 := by
        rw [snapshot_revision hx, publishedProfile_revision]
      refine ⟨fun op m q hm' hq' hstate => ?_, fun k' y hk => ?_⟩
      · rcases put_before hputl hm' with ⟨rfl, rfl⟩ | ⟨_, hm₀⟩
        · rw [show (succeededLookup (p.revision + 1) now l).profileId = l.profileId from rfl,
            hq] at hq'
          cases hq'
          rw [hticket]
          exact ⟨x, published_append.2 (.inr hresult)⟩
        · obtain ⟨p₀, hp₀, -⟩ := hr.rows op m hm₀
          obtain ⟨q₀, hq₀, hpq⟩ := hlater.profiles _ p₀ hp₀
          rw [hq'] at hq₀
          cases hq₀
          obtain ⟨y, hy⟩ := hres.published op m p₀ hm₀ hp₀ hstate
          rw [ticket_later hpq (.refl m)]
          exact ⟨y, published_append.2 (.inl hy)⟩
      · rcases published_append.1 hk with hk | hk
        · exact hold k' y hk
        · rw [hresult] at hk
          cases hk
          refine ⟨_, _, hl, hq, hticket, rfl, ?_, ?_, fun _ => hx⟩
          · rw [hxrev]
            rfl
          · rw [hxrev, publishedProfile_revision]

theorem begunTicket_some (he : begunTicket e = some k) :
    ∃ newId r now, e = (.beginLookup newId r now, .ok (.ticket k)) := by
  unfold begunTicket at he
  split at he
  · cases he
    exact ⟨_, _, _, rfl⟩
  · cases he

theorem publishedResult_some {x : ProfileSnapshot} (he : publishedResult e = some (k, x)) :
    ∃ v avatar now, e = (.publish k v avatar now, .ok (.snapshot x)) := by
  unfold publishedResult at he
  split at he
  · cases he
    exact ⟨_, _, _, rfl⟩
  · cases he

theorem Requests.begun_of_published (hr : Requests h s) (hres : Results h s)
    {x : ProfileSnapshot} (hk : Published h k x) : Begun h k := by
  obtain ⟨p, l, hl, hp, hticket, -⟩ := hres.settled k x hk
  rw [← hticket]
  exact hr.issued _ l p hl hp

/-- No ticket of the profile is newer than its row. -/
theorem Requests.newest (hr : Requests h s) (hp : s.profiles.get? l.profileId = some p)
    (hl : s.lookups.get? l.operationId = some l) (hgeneration : p.generation = l.generation)
    (hk : Begun h k) (hprofile : k.profileId = l.profileId) :
    k = ticket p l ∨ k.generation < l.generation := by
  obtain ⟨p', l', hl', hp', rfl⟩ := hr.begun k hk
  have hid : p'.id = l'.profileId := Table.get?_key hp'
  have hsame : l'.profileId = l.profileId := hid.symm.trans hprofile
  obtain ⟨p₀, hp₀, hle⟩ := hr.rows _ l' hl'
  rw [hsame, hp] at hp₀
  cases hp₀
  rw [hsame, hp] at hp'
  cases hp'
  rcases Nat.lt_or_eq_of_le (hgeneration ▸ hle) with hlt | heq
  · exact .inr hlt
  · have hop := hr.single _ _ l' l hl' hl hsame heq
    rw [hop, hl] at hl'
    cases hl'
    exact .inl rfl

/-- The result that a receipt returns is the one that was published. -/
theorem IsAccepted.published {op accountId : String} {x : ProfileSnapshot}
    (hacc : IsAccepted host s op accountId p l x) (hres : Results h s)
    (hl : s.lookups.get? l.operationId = some l) : Published h (ticket p l) x := by
  obtain ⟨x', hx'⟩ := hres.published _ l p hl hacc.profile hacc.succeeded
  obtain ⟨p', l', hl', hp', -, -, hrevision, -, hlast⟩ := hres.settled _ x' hx'
  rw [show (ticket p l).operationId = l.operationId from rfl, hl] at hl'
  cases hl'
  rw [hacc.profile] at hp'
  cases hp'
  rw [hacc.revision] at hrevision
  have hsnap := hlast (Option.some.inj hrevision)
  rw [hacc.result] at hsnap
  cases hsnap
  exact hx'

/-! ## Runs -/

section Runs

variable [DecidableEq δ]

theorem later_of_trace (ht : Trace (profileStep host) s h t) : Later s t :=
  ht.relates Later.refl (fun _ _ _ => Later.trans) fun _ _ _ hstep =>
    (profileStep_move hstep).later

/-- No profile has been looked up yet. -/
structure ProfileStore.Unused (s : ProfileStore δ) : Prop where
  profiles : s.profiles = .empty
  lookups : s.lookups = .empty

theorem recorded_of_trace (hs : s.Unused) (ht : Trace (profileStep host) s h t) :
    Requests h t ∧ Results h t := by
  induction ht with
  | nil =>
    constructor
    · constructor
      · intro op l hl
        rw [hs.lookups] at hl
        cases hl
      · intro op op' l l' hl
        rw [hs.lookups] at hl
        cases hl
      · intro id p op hp
        rw [hs.profiles] at hp
        cases hp
      · rintro k ⟨e, he, -⟩
        cases he
      · intro op l p hl
        rw [hs.lookups] at hl
        cases hl
    · constructor
      · intro op l p hl
        rw [hs.lookups] at hl
        cases hl
      · rintro k x ⟨e, he, -⟩
        cases he
  | snoc _ hstep ih =>
    have hm := profileStep_move hstep
    exact ⟨ih.1.step hm, ih.2.step ih.1 hm⟩

/-- A publication is of the newest ticket and under the credentials of its begin. -/
theorem publish_newest (hr : Requests h s) {v : ProfileValue} {avatar : Option Bytes} {now : Time}
    {x : ProfileSnapshot}
    (hstep : profileStep host s (.publish k v avatar now, .ok (.snapshot x)) t) :
    Begun h k ∧ (∀ k', Begun h k' → k'.profileId = k.profileId →
      k' = k ∨ k'.generation < k.generation) := by
  obtain ⟨y, hrun, -⟩ := commit_answer hstep
  obtain ⟨p, l, hc, -⟩ := publish_ok hrun
  have hid := hc.profileId hr
  have hp : s.profiles.get? l.profileId = some p := by
    rw [hid]
    exact hc.profile
  have hl : s.lookups.get? l.operationId = some l := by
    rw [hc.operationId]
    exact hc.lookup
  have hgen : k.generation = l.generation := by
    rw [← hc.same]
    rfl
  constructor
  · rw [← hc.same]
    exact hr.issued _ l p hl hp
  · intro k' hk' hprofile
    rw [← hc.same, show (ticket p l).generation = l.generation from rfl]
    exact hr.newest hp hl (hc.generation.trans hgen) hk' (hprofile.trans hid.symm)

/-- Two publications of a profile come in the order of their generations. -/
theorem publish_ordered (hs : s.Unused) {pre mid post : List (ProfileEvent δ)}
    {e' : ProfileEvent δ} {x x' : ProfileSnapshot}
    (ht : Trace (profileStep host) s (pre ++ e :: mid ++ e' :: post) t)
    (he : publishedResult e = some (k, x)) (he' : publishedResult e' = some (k', x'))
    (hprofile : k.profileId = k'.profileId) : k.generation < k'.generation := by
  obtain ⟨a, b, hpre, hstep, -⟩ := ht.at_label
  obtain ⟨hr, hres⟩ := recorded_of_trace hs hpre
  have hk : Published (pre ++ e :: mid) k x := ⟨e, by simp, he⟩
  obtain ⟨v, avatar, now, rfl⟩ := publishedResult_some he'
  rcases (publish_newest hr hstep).2 k (hr.begun_of_published hres hk) hprofile with rfl | hlt
  · obtain ⟨y, hrun, -⟩ := commit_answer hstep
    obtain ⟨p, l, hc, hpending, -⟩ := publish_ok hrun
    obtain ⟨p', l', hl', -, -, hstate, -⟩ := hres.settled k x hk
    rw [hc.lookup] at hl'
    cases hl'
    rw [hpending] at hstate
    cases hstate
  · exact hlt

/-- The account's credentials at a begin are those in the ticket. -/
theorem begin_credentials {pre post : List (ProfileEvent δ)}
    (ht : Trace (profileStep host) s (pre ++ e :: post) t) (he : begunTicket e = some k) :
    ∃ a, Trace (profileStep host) s pre a ∧ ∃ c, a.accounts.get? k.accountId = some c ∧
      host.credentialDigest c.credentials = k.credentialSnapshotDigest := by
  obtain ⟨a, b, hpre, hstep, -⟩ := ht.at_label
  obtain ⟨newId, r, now, rfl⟩ := begunTicket_some he
  obtain ⟨y, hrun, heq⟩ := commit_answer hstep
  cases heq
  exact ⟨a, hpre, (beginLookup_ok hrun).1⟩

/-- Two credentials that the digest does not tell apart. -/
def Collision (host : ProfileHost δ) (c c' : Credentials) : Prop :=
  c ≠ c' ∧ host.credentialDigest c = host.credentialDigest c'

/-- What holds where a run has led, and of the next step from there. -/
structure LatestWins (host : ProfileHost δ) (s : ProfileStore δ) (h : List (ProfileEvent δ))
    (t : ProfileStore δ) : Prop where
  /-- Generations and revisions never decrease, and no profile is lost. -/
  rises : ∀ e u, profileStep host t e u → ∀ id p, t.profiles.get? id = some p →
    ∃ q, u.profiles.get? id = some q ∧ p.generation ≤ q.generation ∧ p.revision ≤ q.revision
  /-- A begin for an operation that has a ticket returns that ticket and writes nothing. -/
  repeats : ∀ k, Begun h k → ∀ newId r now k' u, r.operationId = k.operationId →
    profileStep host t (.beginLookup newId r now, .ok (.ticket k')) u → k' = k ∧ u = t
  /-- A ticket that is new is newer than every ticket of its profile. -/
  newer : ∀ e u k', profileStep host t e u → begunTicket e = some k' → ¬ Begun h k' →
    ∀ k, Begun h k → k.profileId = k'.profileId → k.generation < k'.generation
  /-- A lookup that has left pending stays as it is. -/
  once : ∀ op l, t.lookups.get? op = some l → l.state ≠ .pending →
    ∀ h' u, Trace (profileStep host) t h' u → u.lookups.get? op = some l
  /-- A begin gives out a ticket under the credentials of that moment. -/
  begins : ∀ pre e post k, h = pre ++ e :: post → begunTicket e = some k →
    ∃ a, Trace (profileStep host) s pre a ∧ ∃ c, a.accounts.get? k.accountId = some c ∧
      host.credentialDigest c.credentials = k.credentialSnapshotDigest
  /-- A result is published for the newest ticket, under the digest of its begin, and counts the
  revision up by one. -/
  publishes : ∀ k v avatar now x u,
    profileStep host t (.publish k v avatar now, .ok (.snapshot x)) u →
    Begun h k ∧
    (∀ k', Begun h k' → k'.profileId = k.profileId → k' = k ∨ k'.generation < k.generation) ∧
    (∃ c, t.accounts.get? k.accountId = some c ∧
      host.credentialDigest c.credentials = k.credentialSnapshotDigest) ∧
    ∃ p q, t.profiles.get? k.profileId = some p ∧ u.profiles.get? k.profileId = some q ∧
      q.revision = p.revision + 1 ∧ q.nickname = some v.nickname ∧
      q.avatarPng = (avatar <|> p.avatarPng)
  /-- Every other step leaves the revision and what was published. -/
  keeps : ∀ e u, profileStep host t e u → ∀ id p, t.profiles.get? id = some p →
    (∀ k x, publishedResult e = some (k, x) → k.profileId ≠ id) →
    ∃ q, u.profiles.get? id = some q ∧ q.revision = p.revision ∧ snapshot q = snapshot p ∧
      q.avatarPng = p.avatarPng
  /-- The results of a profile are published in the order of their requests. -/
  ordered : ∀ pre e mid e' post k x k' x', h = pre ++ e :: mid ++ e' :: post →
    publishedResult e = some (k, x) → publishedResult e' = some (k', x') →
    k.profileId = k'.profileId → k.generation < k'.generation
  /-- A receipt is of the last publication, of the newest ticket, under the credentials of its
  begin. -/
  accepts : ∀ op accountId platform creatorRemoteId now ttlSeconds x u,
    profileStep host t
      (.requireReceipt op accountId platform creatorRemoteId now ttlSeconds,
        .ok (.snapshot x)) u →
    ∃ k, k.operationId = op ∧ k.accountId = accountId ∧
      (∃ pre e post, h = pre ++ e :: post ∧ publishedResult e = some (k, x) ∧
        ∀ mid e' rest, post = mid ++ e' :: rest →
          (∀ k' x', publishedResult e' = some (k', x') → k'.profileId ≠ k.profileId) ∧
          ∀ k', begunTicket e' = some k' → k'.profileId = k.profileId →
            Begun (pre ++ e :: mid) k') ∧
      (∀ k', Begun h k' → k'.profileId = k.profileId → k' = k ∨ k'.generation < k.generation) ∧
      ∀ pre e post, h = pre ++ e :: post → begunTicket e = some k →
        ∃ a c c', Trace (profileStep host) s pre a ∧ a.accounts.get? accountId = some c ∧
          t.accounts.get? accountId = some c' ∧
          (c'.credentials = c.credentials ∨ Collision host c'.credentials c.credentials)

theorem begin_newer (hr : Requests h s) (hstep : profileStep host s e t)
    (he : begunTicket e = some k') (hfresh : ¬ Begun h k') (hk : Begun h k)
    (hprofile : k.profileId = k'.profileId) : k.generation < k'.generation := by
  rcases (profileStep_move hstep).sameRequests with ⟨p, l, hnew, hbegun⟩ | ⟨-, hrow⟩
  · rw [he] at hbegun
    cases hbegun
    obtain ⟨p₀, l₀, hl₀, hp₀, rfl⟩ := hr.begun k hk
    have hid : p₀.id = l₀.profileId := Table.get?_key hp₀
    have hsame : l₀.profileId = p.id := hid.symm.trans hprofile
    obtain ⟨p₁, hp₁, hle⟩ := hr.rows _ l₀ hl₀
    rw [hsame] at hp₁
    rcases hnew.before with hnone | ⟨r, digest, now, p₂, hp₂, hp⟩
    · rw [hnone] at hp₁
      cases hp₁
    · rw [hp₂] at hp₁
      cases hp₁
      have hgen : p.generation = p₁.generation + 1 := by
        rw [hp]
        rfl
      calc l₀.generation ≤ p₁.generation := hle
        _ < p.generation := by omega
        _ = l.generation := hnew.generation.symm
  · obtain ⟨p, l, hl, hp, hticket⟩ := hrow k' he
    rw [← hticket] at hfresh
    exact absurd (hr.issued _ l p hl hp) hfresh

section Last

variable {pre mid rest : List (ProfileEvent δ)} {e' : ProfileEvent δ} {x x' : ProfileSnapshot}

/-- After the publication of the newest ticket there is no other one. -/
theorem last_publication (hs : s.Unused)
    (ht : Trace (profileStep host) s (pre ++ e :: mid ++ e' :: rest) t)
    (he : publishedResult e = some (k, x))
    (hnewest : ∀ k', Begun (pre ++ e :: mid ++ e' :: rest) k' → k'.profileId = k.profileId →
      k' = k ∨ k'.generation < k.generation)
    (he' : publishedResult e' = some (k', x')) : k'.profileId ≠ k.profileId := by
  intro hprofile
  obtain ⟨hr, hres⟩ := recorded_of_trace hs ht
  have hlt := publish_ordered hs ht he he' hprofile.symm
  have hpublished : Published (pre ++ e :: mid ++ e' :: rest) k' x' := ⟨e', by simp, he'⟩
  rcases hnewest k' (hr.begun_of_published hres hpublished) hprofile with rfl | hgt
  · exact absurd hlt (Nat.lt_irrefl _)
  · exact absurd hlt (Nat.not_lt.2 hgt.le)

/-- After the publication of the newest ticket no new one is given out. -/
theorem last_begin (hs : s.Unused)
    (ht : Trace (profileStep host) s (pre ++ e :: mid ++ e' :: rest) t)
    (he : publishedResult e = some (k, x))
    (hnewest : ∀ k', Begun (pre ++ e :: mid ++ e' :: rest) k' → k'.profileId = k.profileId →
      k' = k ∨ k'.generation < k.generation)
    (he' : begunTicket e' = some k') (hprofile : k'.profileId = k.profileId) :
    Begun (pre ++ e :: mid) k' := by
  by_contra hfresh
  obtain ⟨a, b, hpre, hat, -⟩ := ht.at_label
  obtain ⟨hr, hres⟩ := recorded_of_trace hs hpre
  have hpublished : Published (pre ++ e :: mid) k x := ⟨e, by simp, he⟩
  have hbegun := hr.begun_of_published hres hpublished
  have hlt := begin_newer hr hat he' hfresh hbegun hprofile.symm
  rcases hnewest k' ⟨e', by simp, he'⟩ hprofile with rfl | hgt
  · exact absurd hlt (Nat.lt_irrefl _)
  · exact absurd hlt (Nat.not_lt.2 hgt.le)

end Last

/-- The stored profile is the result of the latest request, at every point of every run. -/
theorem latest_request_wins (hs : s.Unused) (ht : Trace (profileStep host) s h t) :
    LatestWins host s h t := by
  obtain ⟨hr, hres⟩ := recorded_of_trace hs ht
  have hnewer : ∀ e u k', profileStep host t e u → begunTicket e = some k' → ¬ Begun h k' →
      ∀ k, Begun h k → k.profileId = k'.profileId → k.generation < k'.generation :=
    fun e u k' hstep he hfresh k hk hprofile => begin_newer hr hstep he hfresh hk hprofile
  refine ⟨?_, ?_, hnewer, ?_, ?_, ?_, ?_, ?_, ?_⟩
  · intro e u hstep id p hp
    obtain ⟨q, hq, hpq⟩ := (profileStep_move hstep).later.profiles id p hp
    exact ⟨q, hq, hpq.generation, hpq.revision⟩
  · intro k hk newId r now k' u hop hstep
    obtain ⟨p₀, l₀, hl₀, hp₀, hticket⟩ := hr.begun k hk
    obtain ⟨y, hrun, heq⟩ := commit_answer hstep
    cases heq
    obtain ⟨-, ⟨p, l, hl, hp, hlop, hk', hu⟩ | ⟨p, l, hnew, hlop, -⟩⟩ := beginLookup_ok hrun
    · rw [hlop, hop, hl₀] at hl
      cases hl
      rw [hp₀] at hp
      cases hp
      exact ⟨hk'.trans hticket, hu⟩
    · have hfresh := hnew.fresh
      rw [hlop, hop, hl₀] at hfresh
      cases hfresh
  · intro op l hl hstate h' u hrun
    obtain ⟨m, hm, hlm⟩ := (later_of_trace hrun).lookups op l hl
    rw [hm, hlm.settled hstate]
  · intro pre e post k hsplit he
    subst hsplit
    exact begin_credentials ht he
  · intro k v avatar now x u hstep
    obtain ⟨hbegun, hnewest⟩ := publish_newest hr hstep
    obtain ⟨y, hrun, heq⟩ := commit_answer hstep
    obtain ⟨p, l, hc, -, hput, -, -⟩ := publish_ok hrun
    refine ⟨hbegun, hnewest, hc.credentials, p, _, hc.profile, ?_,
      publishedProfile_revision k v avatar now p, ?_, ?_⟩
    · rw [← hc.id, ← publishedProfile_id k v avatar now p]
      exact hput.row
    · cases avatar <;> rfl
    · cases avatar <;> rfl
  · intro e u hstep id p hp hother
    have hm := profileStep_move hstep
    obtain ⟨q, hq, hpq⟩ := hm.later.profiles id p hp
    have hrevision := hm.revision hp hq hother
    exact ⟨q, hq, hrevision, hpq.content hrevision⟩
  · intro pre e mid e' post k x k' x' hsplit he he' hprofile
    subst hsplit
    exact publish_ordered hs ht he he' hprofile
  · intro op accountId platform creatorRemoteId now ttlSeconds x u hstep
    obtain ⟨y, hrun, heq⟩ := commit_answer hstep
    cases heq
    obtain ⟨-, p, l, hacc⟩ := requireReceipt_ok hrun
    have hlop : l.operationId = op := Table.get?_key hacc.lookup
    have hl : t.lookups.get? l.operationId = some l := by
      rw [hlop]
      exact hacc.lookup
    have hnewest : ∀ k', Begun h k' → k'.profileId = (ticket p l).profileId →
        k' = ticket p l ∨ k'.generation < (ticket p l).generation := by
      intro k' hk' hprofile
      have hid : p.id = l.profileId := Table.get?_key hacc.profile
      exact hr.newest hacc.profile hl hacc.generation hk' (hprofile.trans hid)
    refine ⟨ticket p l, hlop, hacc.owner, ?_, hnewest, ?_⟩
    · obtain ⟨e, he, hresult⟩ := hacc.published hres hl
      obtain ⟨pre, post, hsplit⟩ := List.append_of_mem he
      subst hsplit
      refine ⟨pre, e, post, rfl, hresult, fun mid e' rest hpost => ?_⟩
      subst hpost
      rw [← List.cons_append, ← List.append_assoc] at ht hnewest hr hres
      exact ⟨fun k' y' => last_publication hs ht hresult hnewest,
        fun k' => last_begin hs ht hresult hnewest⟩
    · intro pre e post hsplit he
      subst hsplit
      obtain ⟨a, hpre, c, hc, hdigest⟩ := begin_credentials ht he
      obtain ⟨c', hc', hdigest'⟩ := hacc.credentials
      refine ⟨a, c, c', hpre, ?_, hc', ?_⟩
      · rw [← hacc.owner]
        exact hc
      · by_cases heq : c'.credentials = c.credentials
        · exact .inl heq
        · exact .inr ⟨heq, hdigest'.trans hdigest.symm⟩

end Runs

def profileRun [DecidableEq δ] (host : ProfileHost δ) :
    List (ProfileCall δ) → ProfileStore δ → List (ProfileEvent δ) × ProfileStore δ
  | [], s => ([], s)
  | c :: rest, s =>
    let next := profileRun host rest (c.run host s).2
    ((c, (c.run host s).1) :: next.1, next.2)

theorem trace_profileRun [DecidableEq δ] (calls : List (ProfileCall δ)) (s : ProfileStore δ) :
    Trace (profileStep host) s (profileRun host calls s).1 (profileRun host calls s).2 := by
  induction calls generalizing s with
  | nil => exact .nil
  | cons c rest ih => exact Trace.cons rfl (ih _)

/-- A digest that keeps the credentials themselves. -/
def sampleHost : ProfileHost Credentials := ⟨id, fun c => 32 ≤ c.toNat && c.toNat < 127⟩

def sampleOwner : LoginAccount :=
  ⟨"00000000-0000-0000-0000-00000000000a", "wb", "mediacrawler", some .savedSession, none, none,
    .authenticated, none, 3, 0⟩

def firstId : String := "00000000-0000-0000-0000-00000000000b"

def secondId : String := "00000000-0000-0000-0000-00000000000c"

def sampleOperation (operationId : String) (state : OperationState) : ProfileOperation :=
  ⟨operationId, "creator-profile", some "account", some sampleOwner.id, state, none, some 100⟩

theorem sampleOperations_nodup (state state' : OperationState) :
    ([sampleOperation firstId state, sampleOperation secondId state'].map
      ProfileOperation.id).Nodup := by
  show [firstId, secondId].Nodup
  decide

/-- The two operations, in these states. -/
def operations (state state' : OperationState) : Table ProfileOperation.id :=
  ⟨[sampleOperation firstId state, sampleOperation secondId state'],
    sampleOperations_nodup state state'⟩

def owners : Table LoginAccount.id := ⟨[sampleOwner], List.nodup_singleton _⟩

def sampleProfiles : ProfileStore Credentials :=
  ⟨owners, operations .running .running, .empty, .empty⟩

def sampleRequest (operationId : String) : LookupRequest Credentials :=
  ⟨sampleOwner.id, "wb", "123", operationId, "00000000-0000-0000-0000-00000000000d", none⟩

def sampleTicket (operationId : String) (generation : Nat) : LookupTicket Credentials :=
  ⟨"profile", sampleOwner.id, "wb", "123", generation, operationId,
    "00000000-0000-0000-0000-00000000000d", sampleOwner.credentials⟩

def sampleValue : ProfileValue :=
  ⟨"wb", "123", "author", "https://weibo.com/u/123", "0123456789012345678901234567890123456789"⟩

/-- The second lookup is begun before the first one has its result. -/
def sampleLookups : List (ProfileCall Credentials) :=
  [.beginLookup "profile" (sampleRequest firstId) 10,
    .beginLookup "another" (sampleRequest secondId) 20,
    .publish (sampleTicket firstId 1) sampleValue none 30,
    .publish (sampleTicket secondId 2) sampleValue none 40,
    .change owners (operations .failedTerminal .succeeded),
    .requireReceipt secondId sampleOwner.id "wb" "123" 50 900]

/-- The late result of the first lookup is refused. -/
theorem latest_request_wins_sample :
    LatestWins sampleHost sampleProfiles (profileRun sampleHost sampleLookups sampleProfiles).1
      (profileRun sampleHost sampleLookups sampleProfiles).2 ∧
    (profileRun sampleHost sampleLookups sampleProfiles).1.map (fun e => e.2.isOk) =
      [true, true, false, true, true, true] :=
  ⟨latest_request_wins ⟨rfl, rfl⟩ (trace_profileRun sampleLookups sampleProfiles),
    by decide +kernel⟩

end MediaSync.Accounts
