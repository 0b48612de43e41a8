import MediaSync.Library.OutputPolicy

/-!
# Roots that do not move

A binding repeats the root that the policy had when it was made. No later
policy may give the platform of a binding another root, so every binding agrees
with the policy of the day, whatever was created in between.
-/

namespace MediaSync.Library

open Python Posix Scheduler Transaction OutputDirectoryService

variable {host : OutputHost} {disk : Disk} {p q : Policy} {s t u : LibraryStore} {a : Author}
  {b : AuthorOutputBinding} {root : Path} {authorId : String}

theorem readPolicy_ok (h : readPolicy host disk s = (.ok p, t)) :
    t = s ∧ policyOf host disk s = .ok p := by
  unfold readPolicy at h
  rw [Tx.run_read_bind] at h
  obtain ⟨hread, hs⟩ := Tx.run_ofExcept_ok h
  exact ⟨hs, hread⟩

theorem initialPolicy_ok (h : initialPolicy host disk s = .ok p) :
    p.Lawful host ∧ p.revision = 0 ∧ p.initialized = false ∧ ∀ x, p.overrides x = none := by
  unfold initialPolicy at h
  obtain ⟨c, hc, hrest⟩ := except_bind_ok h
  obtain ⟨_, _, hpure⟩ := except_bind_ok hrest
  cases hpure
  obtain ⟨-, hrevision, hinitialized, -, -, hoverrides, -, -⟩ := policy_ok.1 hc
  refine ⟨policy_lawful hc, hrevision, hinitialized, fun x => ?_⟩
  exact (Except.ok.inj (hoverrides x)).symm

theorem initialRow_eq (h : initialPolicy host disk s = .ok p) : initialRow p = policyRow p := by
  obtain ⟨-, hrevision, -, hoverrides⟩ := initialPolicy_ok h
  rw [initialRow, policyRow, hrevision, LibraryOutputPolicy.mk.injEq]
  refine ⟨rfl, rfl, rfl, ?_⟩
  funext x
  rw [hoverrides x]
  rfl

/-- Every binding is of its author's platform and has the root that the policy gives it. -/
def Bound (s : LibraryStore) (p : Policy) : Prop :=
  ∀ id b, s.bindings.get? id = some b → ∃ a, s.authors.get? id = some a ∧
    b.platform = a.platform ∧ b.canonicalRoot = (p.root a.platform).str ∧
    b.policyRevision ≤ p.revision

/-- The policy is the row of the store and agrees with the bindings. -/
structure Stored (host : OutputHost) (s : LibraryStore) (p : Policy) : Prop where
  row : s.policy = some (policyRow p)
  initialized : p.initialized = true
  lawful : p.Lawful host
  bound : Bound s p

/-- Before there is a policy there is no binding. -/
structure Untouched (s : LibraryStore) : Prop where
  policy : s.policy = none
  bindings : ∀ id, s.bindings.get? id = none

def LibraryInvariant (host : OutputHost) (s : LibraryStore) : Prop :=
  Untouched s ∨ ∃ p, Stored host s p

theorem Stored.unique (hp : Stored host s p) (hrow : s.policy = some (policyRow q))
    (hinit : q.initialized = true) : q = p := by
  rw [hp.row, Option.some.injEq] at hrow
  have hsame := policyRow_injective hrow
  rw [stored_eq hp.initialized, stored_eq hinit] at hsame
  exact hsame.symm

theorem Stored.read_eq (hp : Stored host s p) (hread : policyOf host disk s = .ok q) :
    q = p ∧ Kept p.sharedRoot := by
  rw [policyOf, hp.row] at hread
  obtain ⟨hq, hkept⟩ := rowPolicy_eq hread
  exact ⟨hq.trans (stored_eq hp.initialized), hkept⟩

/-- The policy can be read while its places are open. -/
theorem Stored.read_ok (hp : Stored host s p) (hkept : Kept p.sharedRoot)
    (hopen : p.Open disk) : policyOf host disk s = .ok p := by
  rw [policyOf, hp.row]
  exact (rowPolicy_policyRow hp.lawful hkept hopen).trans
    (by rw [stored_eq hp.initialized])

/-- What `_locked` returns, and the row that it may have inserted for it. -/
structure Locked (host : OutputHost) (disk : Disk) (s : LibraryStore) (p : Policy)
    (t : LibraryStore) : Prop where
  stored : Stored host t p
  read : policyOf host disk t = .ok p
  kept : Kept p.sharedRoot
  authors : t.authors = s.authors
  bindings : t.bindings = s.bindings
  before : (Stored host s p ∧ t = s) ∨ (Untouched s ∧ p.revision = 0)

theorem locked_ok (hinv : LibraryInvariant host s) (h : locked host disk s = (.ok p, t)) :
    Locked host disk s p t := by
  obtain ⟨c, s₁, h₁, h₂⟩ := Tx.run_bind_ok h
  obtain ⟨hs, hread⟩ := readPolicy_ok h₁
  rw [hs] at h₂
  rcases hinv with hnone | ⟨q, hq⟩
  · rw [policyOf, hnone.policy] at hread
    obtain ⟨hlawful, hrevision, hinit, -⟩ := initialPolicy_ok hread
    simp only [hinit, Bool.false_eq_true, if_false] at h₂
    obtain ⟨_, s₂, h₃, h₄⟩ := Tx.run_bind_ok h₂
    cases h₃
    obtain ⟨rfl, hread'⟩ := readPolicy_ok h₄
    have hrow : (s.policy.getD (initialRow c)) = policyRow c := by
      rw [hnone.policy]
      exact initialRow_eq hread
    simp only [hrow] at hread' ⊢
    obtain ⟨hp, hkept⟩ := rowPolicy_eq hread'
    subst hp
    refine ⟨⟨rfl, rfl, hlawful.stored, fun id b hb => ?_⟩, hread', hkept, rfl, rfl,
      .inr ⟨hnone, hrevision⟩⟩
    have hid := hnone.bindings id
    rw [show s.bindings.get? id = some b from hb] at hid
    cases hid
  · obtain ⟨rfl, hkept⟩ := hq.read_eq hread
    simp only [hq.initialized, if_true] at h₂
    cases h₂
    exact ⟨hq, hread, hkept, rfl, rfl, .inl ⟨hq, rfl⟩⟩

theorem author_ok (h : author authorId s = (.ok a, t)) :
    t = s ∧ s.authors.get? authorId = some a ∧ isCanonicalUuid authorId = true := by
  obtain ⟨huuid, h₁⟩ := Tx.run_bind_require h
  rw [Tx.run_read_bind] at h₁
  cases hfound : s.authors.get? authorId with
  | none =>
    simp only [hfound] at h₁
    cases h₁
  | some a' =>
    simp only [hfound] at h₁
    cases h₁
    exact ⟨rfl, rfl, huuid⟩

/-- The root of an author is the root that the policy gives its platform. -/
theorem authorRoot_ok (h : authorRoot host disk p a s = (.ok root, t)) :
    t = s ∧ root = p.root a.platform := by
  unfold authorRoot at h
  rw [Tx.run_read_bind] at h
  cases hb : s.bindings.get? a.id with
  | none =>
    simp only [hb] at h
    obtain ⟨hroot, hs⟩ := Tx.run_ofExcept_ok h
    have hsame := (nativeRoot_ok.1 (safeRoot_ok.1 hroot).1).2
    rw [Path.of_str] at hsame
    exact ⟨hs, hsame.symm⟩
  | some b =>
    simp only [hb] at h
    obtain ⟨hbinding, h₁⟩ := Tx.run_bind_require h
    obtain ⟨hroot, hs⟩ := Tx.run_ofExcept_ok h₁
    simp only [isBinding, Bool.and_eq_true, decide_eq_true_eq] at hbinding
    rw [hbinding.2] at hroot
    have hsame := (nativeRoot_ok.1 (safeRoot_ok.1 hroot).1).2
    rw [Path.of_str] at hsame
    exact ⟨hs, hsame.symm⟩

theorem authorRoot_run (hp : Stored host s p) (hopen : p.Open disk)
    (ha : s.authors.get? a.id = some a) :
    authorRoot host disk p a s = (.ok (p.root a.platform), s) := by
  have hsafe : safeRoot host disk (p.root a.platform).str = .ok (p.root a.platform) :=
    safeRoot_ok.2 ⟨hp.lawful.roots _, hp.lawful.safe _, hopen.2 _⟩
  unfold authorRoot
  rw [Tx.run_read_bind]
  cases hb : s.bindings.get? a.id with
  | none =>
    simp only [hsafe]
    rfl
  | some b =>
    obtain ⟨a', ha', hplatform, hroot, hrevision⟩ := hp.bound a.id b hb
    rw [ha] at ha'
    cases ha'
    have hbinding : isBinding p a b = true := by
      simp [isBinding, hp.initialized, hplatform, hroot, hrevision]
    simp only [hbinding, hroot, hsafe]
    rfl

/-- What a successful binding did. -/
structure BoundBy (host : OutputHost) (s : LibraryStore) (authorId : String)
    (root : Path) (t : LibraryStore) (p : Policy) (a : Author) : Prop where
  stored : Stored host t p
  kept : Kept p.sharedRoot
  before : (Stored host s p) ∨ (Untouched s ∧ p.revision = 0)
  authors : t.authors = s.authors
  author : s.authors.get? authorId = some a
  uuid : isCanonicalUuid authorId = true
  root : root = p.root a.platform
  binding : ∃ b, t.bindings.get? authorId = some b
  grows : ∀ id b, s.bindings.get? id = some b → t.bindings.get? id = some b

theorem bindAuthorRoot_ok (hinv : LibraryInvariant host s)
    (h : bindAuthorRoot host disk authorId s = (.ok root, t)) :
    ∃ p a, BoundBy host s authorId root t p a := by
  obtain ⟨p, s₁, h₁, h₂⟩ := Tx.run_bind_ok (Tx.commit_ok h)
  have hlocked := locked_ok hinv h₁
  obtain ⟨a, s₂, h₃, h₄⟩ := Tx.run_bind_ok h₂
  obtain ⟨hs₂, ha, huuid⟩ := author_ok h₃
  rw [hs₂] at h₄
  obtain ⟨root', s₃, h₅, h₆⟩ := Tx.run_bind_ok h₄
  obtain ⟨hs₃, hroot⟩ := authorRoot_ok h₅
  rw [hs₃] at h₆
  obtain ⟨_, s₄, h₇, h₈⟩ := Tx.run_bind_ok h₆
  cases h₈
  have haid : a.id = authorId := Table.get?_key ha
  have hbefore : Stored host s p ∨ (Untouched s ∧ p.revision = 0) :=
    hlocked.before.imp_left And.left
  unfold bindOnce at h₇
  rw [Tx.run_read_bind] at h₇
  refine ⟨p, a, ?_⟩
  cases hb : s₁.bindings.get? a.id with
  | some b =>
    simp only [hb, Option.isNone_some, Bool.false_eq_true, if_false] at h₇
    cases h₇
    refine ⟨hlocked.stored, hlocked.kept, hbefore, hlocked.authors, hlocked.authors ▸ ha, huuid,
      hroot, ⟨b, haid ▸ hb⟩, fun id b' hb' => ?_⟩
    rw [hlocked.bindings]
    exact hb'
  | none =>
    simp only [hb, Option.isNone_none, if_true] at h₇
    unfold insertBinding at h₇
    split at h₇
    · rename_i bindings hins
      cases h₇
      have hget := Table.get?_insert? hins
      refine ⟨⟨hlocked.stored.row, hlocked.stored.initialized, hlocked.stored.lawful, ?_⟩,
        hlocked.kept, hbefore, hlocked.authors, hlocked.authors ▸ ha, huuid, hroot, ?_,
        fun id b hb' => ?_⟩
      · intro id b hb'
        rw [show ({ s₁ with bindings := bindings } : LibraryStore).bindings.get? id =
          bindings.get? id from rfl, hget] at hb'
        split at hb'
        · rename_i hid
          cases hb'
          refine ⟨a, ?_, rfl, ?_, Nat.le_refl _⟩
          · rw [← hid, haid]
            exact ha
          · rw [hroot]
        · exact hlocked.stored.bound id b hb'
      · refine ⟨_, (hget authorId).trans (if_pos haid)⟩
      · refine (hget id).trans ?_
        rw [if_neg]
        · rw [hlocked.bindings]
          exact hb'
        · rintro rfl
          rw [hlocked.bindings] at hb
          rw [show s.bindings.get? a.id = some b from hb'] at hb
          cases hb
    · cases h₇

/-- An author that is bound gets its root again, and nothing is written. -/
theorem bindAuthorRoot_again (hp : Stored host s p) (hkept : Kept p.sharedRoot)
    (hopen : p.Open disk) (ha : s.authors.get? authorId = some a)
    (huuid : isCanonicalUuid authorId = true) (hb : s.bindings.get? authorId = some b) :
    bindAuthorRoot host disk authorId s = (.ok (p.root a.platform), s) := by
  have haid : a.id = authorId := Table.get?_key ha
  subst haid
  have hread : readPolicy host disk s = (.ok p, s) := by
    rw [readPolicy, Tx.run_read_bind, hp.read_ok hkept hopen]
    rfl
  have hlocked : locked host disk s = (.ok p, s) := by
    rw [locked, Tx.run_bind, hread]
    simp [hp.initialized]
  have hauthor : author a.id s = (.ok a, s) := by
    simp [author, Tx.run_bind, huuid, ha]
  unfold bindAuthorRoot
  simp [Tx.commit, Tx.run_bind, hlocked, hauthor, authorRoot_run hp hopen ha, bindOnce, hb]

theorem resolveAuthorRoot_again (hp : Stored host s p) (hkept : Kept p.sharedRoot)
    (hopen : p.Open disk) (ha : s.authors.get? authorId = some a)
    (huuid : isCanonicalUuid authorId = true) :
    resolveAuthorRoot host disk authorId s = (.ok (p.root a.platform), s) := by
  have haid : a.id = authorId := Table.get?_key ha
  subst haid
  have hread : readPolicy host disk s = (.ok p, s) := by
    rw [readPolicy, Tx.run_read_bind, hp.read_ok hkept hopen]
    rfl
  have hauthor : author a.id s = (.ok a, s) := by
    simp [author, Tx.run_bind, huuid, ha]
  unfold resolveAuthorRoot
  simp [Tx.run_bind, hread, hauthor, authorRoot_run hp hopen ha]

theorem checkChange_ok {l : List Platform} (h : checkChange p q l = .ok ()) (x : Platform)
    (hx : x ∈ l) : q.root x = p.root x := by
  unfold checkChange at h
  dsimp only at h
  split at h
  · rename_i hempty
    by_contra hne
    have hmem : x ∈ l.filter (fun y => p.root y ≠ q.root y) :=
      List.mem_filter.2 ⟨hx, by simpa using Ne.symm hne⟩
    rw [List.isEmpty_iff.1 hempty] at hmem
    cases hmem
  · cases h

theorem mem_protectedPlatforms (hb : s.bindings.get? authorId = some b) :
    b.platform ∈ protectedPlatforms s := by
  refine List.mem_filter.2 ⟨mem_platforms _, ?_⟩
  simp only [isProtected, Bool.or_eq_true, List.any_eq_true, decide_eq_true_eq]
  exact .inl (.inl ⟨b, Table.get?_mem hb, rfl⟩)

/-- What a successful update did. -/
structure UpdatedBy (host : OutputHost) (s : LibraryStore) (expectedRevision : Int)
    (sharedRoot : String) (t : LibraryStore) (p q : Policy) : Prop where
  before : Stored host s p ∨ (Untouched s ∧ p.revision = 0)
  kept : Kept p.sharedRoot
  expected : (p.revision : Int) = expectedRevision
  revision : q.revision = p.revision + 1
  stored : Stored host t q
  shared : nativeRoot sharedRoot = .ok q.sharedRoot
  authors : t.authors = s.authors
  bindings : t.bindings = s.bindings
  same : ∀ id b, s.bindings.get? id = some b → q.root b.platform = p.root b.platform

theorem update_ok {expectedRevision : Int} {sharedRoot layout : String}
    {overrides : List (String × Option String)} {x : Payload} (hinv : LibraryInvariant host s)
    (h : update host disk expectedRevision sharedRoot overrides layout s = (.ok x, t)) :
    ∃ p q, UpdatedBy host s expectedRevision sharedRoot t p q := by
  obtain ⟨hrange, h₁⟩ := Tx.run_bind_require h
  obtain ⟨p, u, h₂, h₃⟩ := Tx.run_bind_ok (Tx.commit_ok h₁)
  have hlocked := locked_ok hinv h₂
  obtain ⟨hrevision, h₄⟩ := Tx.run_bind_require h₃
  obtain ⟨q, hq, h₅⟩ := Tx.run_bind_ofExcept h₄
  rw [Tx.run_read_bind] at h₅
  obtain ⟨_, hchange, h₆⟩ := Tx.run_bind_ofExcept h₅
  obtain ⟨changed, u', h₇, h₈⟩ := Tx.run_bind_ok h₆
  obtain ⟨hchanged, h₉⟩ := Tx.run_bind_require h₈
  cases h₉
  simp only [Bool.and_eq_true, decide_eq_true_eq] at hrange hrevision
  have hrow := hlocked.stored.row
  have ht : t = { u with policy := some (policyRow q) } := by
    unfold replaceRow at h₇
    rw [Tx.run_modifyGet, hrow] at h₇
    have hsame : (policyRow p).revision = expectedRevision.toNat := hrevision
    simp only [hsame, if_true] at h₇
    exact (Prod.mk.inj h₇).2.symm
  obtain ⟨-, hqrev, hqinit, -, hshared, -⟩ := policy_ok.1 hq
  have hroots : ∀ id b, u.bindings.get? id = some b → q.root b.platform = p.root b.platform :=
    fun id b hb => checkChange_ok hchange _ (mem_protectedPlatforms hb)
  have hqrev' : q.revision = p.revision + 1 := by
    rw [hqrev, hrevision]
  refine ⟨p, q, hlocked.before.imp_left And.left, hlocked.kept, ?_, hqrev', ?_, (safeRoot_ok.1 hshared).1, ?_,
    ?_, fun id b hb => hroots id b (hlocked.bindings ▸ hb)⟩
  · rw [hrevision]
    exact Int.toNat_of_nonneg hrange.1
  · rw [ht]
    refine ⟨rfl, hqinit, policy_lawful hq, fun id b hb => ?_⟩
    obtain ⟨a, ha, hplatform, hroot, hle⟩ := hlocked.stored.bound id b hb
    refine ⟨a, ha, hplatform, ?_, by omega⟩
    rw [hroot, ← hplatform, hroots id b hb]
  · rw [ht]
    exact hlocked.authors
  · rw [ht]
    exact hlocked.bindings

end MediaSync.Library
