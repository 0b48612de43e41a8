import MediaSync.Library.OutputRoots
import MediaSync.Foundation.Transition

/-!
# Runs of the output directories

Updates, bindings and queries of any callers, one after another, with the rows
that other components create in between. A root that was returned for an author
is returned for it again, as long as the stored policy can be read; a shared
root that loses its end closes the policy for every caller.
-/

namespace MediaSync.Library

open Python Posix Scheduler Transaction Transition OutputDirectoryService

variable {host : OutputHost} {disk : Disk} {p q : Policy} {s t u : LibraryStore} {a : Author}
  {b : AuthorOutputBinding} {root : Path} {authorId : String}

/-! ## Calls -/

/-- One call of the service, or a row that another component creates. -/
inductive LibraryCall where
  | update (expectedRevision : Int) (sharedRoot : String)
      (overrides : List (String × Option String)) (layout : String)
  | bindAuthorRoot (authorId : String)
  | resolveAuthorRoot (authorId : String)
  | getPolicy
  | preview (sharedRoot : String) (overrides : List (String × Option String)) (layout : String)
  | addAuthor (author : Author)
  | addContent (content : Content)
  | addExportRecord (record : ExportRecord)
  | addJob (job : LibraryJob)

inductive LibraryAnswer where
  | root (path : Path)
  | payload (x : Payload)
  | done

/-- A row whose key is taken is not created. -/
def create {α : Type} (f : LibraryStore → Option α) (g : LibraryStore → α → LibraryStore) :
    LibraryTx LibraryAnswer := fun db =>
  match f db with
  | some rows => (.ok .done, g db rows)
  | none => (.error unavailableError, db)

def LibraryCall.run (host : OutputHost) (disk : Disk) : LibraryCall → LibraryTx LibraryAnswer
  | update expectedRevision sharedRoot overrides layout => do
    let x ← OutputDirectoryService.update host disk expectedRevision sharedRoot overrides layout
    pure (.payload x)
  | bindAuthorRoot authorId => do
    let path ← OutputDirectoryService.bindAuthorRoot host disk authorId
    pure (.root path)
  | resolveAuthorRoot authorId => do
    let path ← OutputDirectoryService.resolveAuthorRoot host disk authorId
    pure (.root path)
  | getPolicy => do
    let x ← OutputDirectoryService.getPolicy host disk
    pure (.payload x)
  | preview sharedRoot overrides layout => do
    let x ← OutputDirectoryService.preview host disk sharedRoot overrides layout
    pure (.payload x)
  | addAuthor a => create (·.authors.insert? a) fun db rows => { db with authors := rows }
  | addContent c => create (·.contents.insert? c) fun db rows => { db with contents := rows }
  | addExportRecord r =>
    create (·.exportRecords.insert? r) fun db rows => { db with exportRecords := rows }
  | addJob j => create (·.jobs.insert? j) fun db rows => { db with jobs := rows }

structure LibraryEvent where
  call : LibraryCall
  disk : Disk
  result : Except OutputDirectoryError LibraryAnswer

/-- The shared root, the roots of all platforms and their ancestors are directories
that can be looked at, as far as they exist. -/
def RootsOpen (disk : Disk) (s : LibraryStore) : Prop :=
  ∀ p, s.policy = some (policyRow p) → p.Open disk

/-- One call, on whatever file system it finds. -/
def libraryStep (host : OutputHost) (s : LibraryStore) (e : LibraryEvent) (t : LibraryStore) :
    Prop :=
  e.call.run host e.disk s = (e.result, t)

/-- The author that a call bound, with the root that it returned. -/
def LibraryEvent.bound? (e : LibraryEvent) : Option (String × Path) :=
  match e.call, e.result with
  | .bindAuthorRoot authorId, .ok (.root path) => some (authorId, path)
  | _, _ => none

/-- The revision that a successful update expected. -/
def LibraryEvent.updated? (e : LibraryEvent) : Option Int :=
  match e.call, e.result with
  | .update expectedRevision _ _ _, .ok _ => some expectedRevision
  | _, _ => none

/-- The shared root of an update keeps its end once it is normalised. -/
def LibraryCall.KeepsEnd : LibraryCall → Prop
  | .update _ sharedRoot _ _ => ∀ path, nativeRoot sharedRoot = .ok path → Kept path
  | _ => True

/-- What a step does. -/
inductive LibraryMove (host : OutputHost) (s : LibraryStore) (e : LibraryEvent)
    (t : LibraryStore) : Prop
  | other : e.bound? = none → e.updated? = none → t.policy = s.policy →
      t.bindings = s.bindings →
      (∀ id a, s.authors.get? id = some a → t.authors.get? id = some a) → LibraryMove host s e t
  | bound (authorId : String) (root : Path) (p : Policy) (a : Author) :
      e.bound? = some (authorId, root) → e.updated? = none →
      BoundBy host s authorId root t p a → LibraryMove host s e t
  | updated (expectedRevision : Int) (sharedRoot layout : String)
      (overrides : List (String × Option String)) (p q : Policy) :
      e.bound? = none → e.updated? = some expectedRevision →
      e.call = .update expectedRevision sharedRoot overrides layout →
      UpdatedBy host s expectedRevision sharedRoot t p q → LibraryMove host s e t

theorem readPolicy_readOnly (host : OutputHost) (disk : Disk) :
    Tx.ReadOnly (readPolicy host disk) :=
  Tx.Within.bind Tx.ReadOnly.chains (Tx.Within.read Tx.ReadOnly.chains _)
    fun _ => Tx.Within.ofExcept Tx.ReadOnly.chains _

theorem author_readOnly (authorId : String) : Tx.ReadOnly (author authorId) := by
  refine Tx.Within.bind Tx.ReadOnly.chains (Tx.Within.require Tx.ReadOnly.chains _ _) fun _ => ?_
  refine Tx.Within.bind Tx.ReadOnly.chains (Tx.Within.read Tx.ReadOnly.chains _) fun found => ?_
  cases found with
  | none => exact Tx.Within.throw Tx.ReadOnly.chains _
  | some a => exact Tx.Within.pure Tx.ReadOnly.chains a

theorem authorRoot_readOnly (host : OutputHost) (disk : Disk) (p : Policy) (a : Author) :
    Tx.ReadOnly (authorRoot host disk p a) := by
  refine Tx.Within.bind Tx.ReadOnly.chains (Tx.Within.read Tx.ReadOnly.chains _) fun found => ?_
  cases found with
  | none => exact Tx.Within.ofExcept Tx.ReadOnly.chains _
  | some b =>
    exact Tx.Within.bind Tx.ReadOnly.chains (Tx.Within.require Tx.ReadOnly.chains _ _)
      fun _ => Tx.Within.ofExcept Tx.ReadOnly.chains _

theorem resolveAuthorRoot_readOnly (host : OutputHost) (disk : Disk) (authorId : String) :
    Tx.ReadOnly (resolveAuthorRoot host disk authorId) :=
  Tx.Within.bind Tx.ReadOnly.chains (readPolicy_readOnly host disk) fun p =>
    Tx.Within.bind Tx.ReadOnly.chains (author_readOnly authorId) fun a =>
      authorRoot_readOnly host disk p a

theorem getPolicy_readOnly (host : OutputHost) (disk : Disk) :
    Tx.ReadOnly (getPolicy host disk) :=
  Tx.Within.bind Tx.ReadOnly.chains (readPolicy_readOnly host disk) fun _ =>
    Tx.Within.bind Tx.ReadOnly.chains (Tx.Within.read Tx.ReadOnly.chains _) fun _ =>
      Tx.Within.pure Tx.ReadOnly.chains _

theorem preview_readOnly (host : OutputHost) (disk : Disk) (sharedRoot : String)
    (overrides : List (String × Option String)) (layout : String) :
    Tx.ReadOnly (preview host disk sharedRoot overrides layout) :=
  Tx.Within.bind Tx.ReadOnly.chains (readPolicy_readOnly host disk) fun _ =>
    Tx.Within.bind Tx.ReadOnly.chains (Tx.Within.ofExcept Tx.ReadOnly.chains _) fun _ =>
      Tx.Within.bind Tx.ReadOnly.chains (Tx.Within.read Tx.ReadOnly.chains _) fun _ =>
        Tx.Within.bind Tx.ReadOnly.chains (Tx.Within.ofExcept Tx.ReadOnly.chains _) fun _ =>
          Tx.Within.pure Tx.ReadOnly.chains _

/-- A call whose result is wrapped. -/
theorem wrapped_ok {α : Type} {m : LibraryTx α} {f : α → LibraryAnswer} {y : LibraryAnswer}
    (h : (do let x ← m; pure (f x)) s = (.ok y, t)) : ∃ x, m s = (.ok x, t) ∧ y = f x := by
  obtain ⟨x, u, hm, hy⟩ := Tx.run_bind_ok h
  cases hy
  exact ⟨x, hm, rfl⟩

theorem wrapped_error {α : Type} {m : LibraryTx α} {f : α → LibraryAnswer}
    {e : OutputDirectoryError} (h : (do let x ← m; pure (f x)) s = (.error e, t)) :
    m s = (.error e, t) := by
  rcases Tx.run_bind_ends h with ⟨e', hm, he⟩ | ⟨x, u, _, hy⟩
  · cases he
    exact hm
  · cases hy

theorem update_error {expectedRevision : Int} {sharedRoot layout : String}
    {overrides : List (String × Option String)} {e : OutputDirectoryError}
    (h : update host disk expectedRevision sharedRoot overrides layout s = (.error e, t)) :
    t = s := by
  rcases Tx.run_bind_ends h with ⟨e', hm, _⟩ | ⟨_, u, hm, hrest⟩
  · exact Tx.ReadOnly.state (Tx.Within.require Tx.ReadOnly.chains _ _) hm
  · rw [(Tx.run_require_ok hm).2] at hrest
    exact Tx.commit_error hrest

theorem create_cases {α : Type} {f : LibraryStore → Option α}
    {g : LibraryStore → α → LibraryStore} {r : Except OutputDirectoryError LibraryAnswer}
    (h : create f g s = (r, t)) : t = s ∨ ∃ rows, f s = some rows ∧ t = g s rows := by
  unfold create at h
  cases hf : f s with
  | none =>
    rw [hf] at h
    exact .inl (Prod.mk.inj h).2.symm
  | some rows =>
    rw [hf] at h
    exact .inr ⟨rows, rfl, (Prod.mk.inj h).2.symm⟩

theorem libraryStep_unchanged {e : LibraryEvent} (hsame : t = s) (hbound : e.bound? = none)
    (hupdated : e.updated? = none) : LibraryMove host s e t := by
  subst hsame
  exact .other hbound hupdated rfl rfl fun _ _ ha => ha

theorem libraryStep_move {e : LibraryEvent} (hinv : LibraryInvariant host s)
    (h : libraryStep host s e t) : LibraryMove host s e t := by
  obtain ⟨call, disk, result⟩ := e
  unfold libraryStep at h
  cases call with
  | update expectedRevision sharedRoot overrides layout =>
    cases result with
    | error err => exact libraryStep_unchanged (update_error (wrapped_error h)) rfl rfl
    | ok y =>
      obtain ⟨x, hrun, rfl⟩ := wrapped_ok h
      obtain ⟨p, q, hupdated⟩ := update_ok hinv hrun
      exact .updated expectedRevision sharedRoot layout overrides p q rfl rfl rfl hupdated
  | bindAuthorRoot authorId =>
    cases result with
    | error err => exact libraryStep_unchanged (Tx.commit_error (wrapped_error h)) rfl rfl
    | ok y =>
      obtain ⟨path, hrun, rfl⟩ := wrapped_ok h
      obtain ⟨p, a, hbound⟩ := bindAuthorRoot_ok hinv hrun
      exact .bound authorId path p a rfl rfl hbound
  | resolveAuthorRoot authorId =>
    have hread : Tx.ReadOnly (LibraryCall.run host disk (.resolveAuthorRoot authorId)) :=
      Tx.Within.bind Tx.ReadOnly.chains (resolveAuthorRoot_readOnly host disk authorId)
        fun path => Tx.Within.pure Tx.ReadOnly.chains (LibraryAnswer.root path)
    exact libraryStep_unchanged (Tx.ReadOnly.state hread h) (by cases result <;> rfl) (by cases result <;> rfl)
  | getPolicy =>
    have hread : Tx.ReadOnly (LibraryCall.run host disk .getPolicy) :=
      Tx.Within.bind Tx.ReadOnly.chains (getPolicy_readOnly host disk)
        fun x => Tx.Within.pure Tx.ReadOnly.chains (LibraryAnswer.payload x)
    exact libraryStep_unchanged (Tx.ReadOnly.state hread h) (by cases result <;> rfl) (by cases result <;> rfl)
  | preview sharedRoot overrides layout =>
    have hread : Tx.ReadOnly (LibraryCall.run host disk (.preview sharedRoot overrides layout)) :=
      Tx.Within.bind Tx.ReadOnly.chains (preview_readOnly host disk sharedRoot overrides layout)
        fun x => Tx.Within.pure Tx.ReadOnly.chains (LibraryAnswer.payload x)
    exact libraryStep_unchanged (Tx.ReadOnly.state hread h) (by cases result <;> rfl) (by cases result <;> rfl)
  | addAuthor a =>
    dsimp only [LibraryCall.run] at h
    rcases create_cases h with hsame | ⟨rows, hins, rfl⟩
    · exact libraryStep_unchanged hsame (by cases result <;> rfl) (by cases result <;> rfl)
    · refine .other (by cases result <;> rfl) (by cases result <;> rfl) rfl rfl fun id a' ha' => ?_
      refine (Table.get?_insert? hins id).trans ?_
      rw [if_neg]
      · exact ha'
      · rintro rfl
        rw [Table.insert?_fresh hins] at ha'
        cases ha'
  | _ =>
    dsimp only [LibraryCall.run] at h
    rcases create_cases h with hsame | ⟨rows, -, rfl⟩
    · exact libraryStep_unchanged hsame (by cases result <;> rfl) (by cases result <;> rfl)
    · exact .other (by cases result <;> rfl) (by cases result <;> rfl) rfl rfl fun _ _ ha => ha

/-! ## Runs -/

theorem LibraryMove.invariant {e : LibraryEvent} (h : LibraryMove host s e t)
    (hinv : LibraryInvariant host s) : LibraryInvariant host t := by
  cases h with
  | other _ _ hpolicy hbindings hauthors =>
    rcases hinv with hnone | ⟨p, hp⟩
    · refine .inl ⟨hpolicy.trans hnone.policy, fun id => ?_⟩
      rw [hbindings]
      exact hnone.bindings id
    · refine .inr ⟨p, hpolicy.trans hp.row, hp.initialized, hp.lawful, fun id b hb => ?_⟩
      rw [hbindings] at hb
      obtain ⟨a, ha, hrest⟩ := hp.bound id b hb
      exact ⟨a, hauthors id a ha, hrest⟩
  | bound authorId root p a _ _ hbound => exact .inr ⟨p, hbound.stored⟩
  | updated _ _ _ _ p q _ _ _ hupdated => exact .inr ⟨q, hupdated.stored⟩

/-- An author that has been given a root: it is bound, and the policy still gives it that root. -/
structure HasRoot (host : OutputHost) (s : LibraryStore) (authorId : String) (root : Path)
    (p : Policy) (a : Author) : Prop where
  stored : Stored host s p
  author : s.authors.get? authorId = some a
  uuid : isCanonicalUuid authorId = true
  binding : ∃ b, s.bindings.get? authorId = some b
  root : root = p.root a.platform

theorem HasRoot.step {e : LibraryEvent} (hroot : HasRoot host s authorId root p a)
    (h : LibraryMove host s e t) : ∃ q, HasRoot host t authorId root q a := by
  obtain ⟨b, hb⟩ := hroot.binding
  cases h with
  | other _ _ hpolicy hbindings hauthors =>
    refine ⟨p, ⟨hpolicy.trans hroot.stored.row, hroot.stored.initialized, hroot.stored.lawful,
      fun id b hb => ?_⟩, hauthors _ a hroot.author, hroot.uuid, ⟨b, ?_⟩, hroot.root⟩
    · rw [hbindings] at hb
      obtain ⟨a', ha', hrest⟩ := hroot.stored.bound id b hb
      exact ⟨a', hauthors id a' ha', hrest⟩
    · rw [hbindings]
      exact hb
  | bound authorId' root' q a' _ _ hbound =>
    rcases hbound.before with hq | ⟨hnone, -⟩
    · have hqp : q = p := hroot.stored.unique hq.row hq.initialized
      subst hqp
      exact ⟨q, hbound.stored, hbound.authors ▸ hroot.author, hroot.uuid,
        ⟨b, hbound.grows _ b hb⟩, hroot.root⟩
    · rw [hnone.bindings authorId] at hb
      cases hb
  | updated _ _ _ _ p' q _ _ _ hupdated =>
    rcases hupdated.before with hp' | ⟨hnone, -⟩
    · have hpp : p' = p := hroot.stored.unique hp'.row hp'.initialized
      subst hpp
      obtain ⟨a', ha', hplatform, -⟩ := hroot.stored.bound _ b hb
      rw [hroot.author] at ha'
      cases ha'
      refine ⟨q, hupdated.stored, hupdated.authors ▸ hroot.author, hroot.uuid,
        ⟨b, hupdated.bindings ▸ hb⟩, ?_⟩
      rw [hroot.root, ← hplatform, hupdated.same _ b hb]
    · rw [hnone.bindings authorId] at hb
      cases hb

section Trace

variable {h : List LibraryEvent}

theorem invariant_of_trace (hs : Untouched s) (ht : Trace (libraryStep host) s h t) :
    LibraryInvariant host t :=
  ht.invariant (fun _ _ _ hinv hstep => (libraryStep_move hinv hstep).invariant hinv) (.inl hs)

/-- Every root that was returned is still the root of its author. -/
theorem hasRoot_of_trace (hs : Untouched s) (ht : Trace (libraryStep host) s h t)
    {e : LibraryEvent} (he : e ∈ h) (hbound : e.bound? = some (authorId, root)) :
    ∃ p a, HasRoot host t authorId root p a := by
  induction ht with
  | nil => cases he
  | snoc htr hstep ih =>
    have hmove := libraryStep_move (invariant_of_trace hs htr) hstep
    rcases List.mem_append.1 he with hold | hthis
    · obtain ⟨p, a, hroot⟩ := ih hold
      obtain ⟨q, hroot'⟩ := hroot.step hmove
      exact ⟨q, a, hroot'⟩
    · rw [List.mem_singleton] at hthis
      subst hthis
      cases hmove with
      | other hnone => rw [hnone] at hbound; cases hbound
      | updated _ _ _ _ _ _ hnone => rw [hnone] at hbound; cases hbound
      | bound authorId' root' p a hbound' _ hb =>
        rw [hbound'] at hbound
        cases hbound
        exact ⟨p, a, hb.stored, hb.authors ▸ hb.author, hb.uuid, hb.binding, hb.root⟩

/-- The revision of the policy, before the first one is stored too. -/
def revisionOf (s : LibraryStore) : Nat := (s.policy.map LibraryOutputPolicy.revision).getD 0

theorem Stored.revision (hp : Stored host s p) : revisionOf s = p.revision := by
  rw [revisionOf, hp.row]
  rfl

theorem Untouched.revision (hs : Untouched s) : revisionOf s = 0 := by
  rw [revisionOf, hs.policy]
  rfl

/-- A successful update found the revision that it expected and counts it up by one; every other
step leaves the revision. -/
theorem LibraryMove.revision {e : LibraryEvent} (hmove : LibraryMove host s e t) :
    (∀ r, e.updated? = some r → (revisionOf s : Int) = r ∧ revisionOf t = revisionOf s + 1) ∧
      (e.updated? = none → revisionOf t = revisionOf s) := by
  cases hmove with
  | other _ hnone hpolicy =>
    refine ⟨fun r hr => ?_, fun _ => by rw [revisionOf, revisionOf, hpolicy]⟩
    rw [hnone] at hr
    cases hr
  | bound _ _ p a _ hnone hb =>
    refine ⟨fun r hr => ?_, fun _ => ?_⟩
    · rw [hnone] at hr
      cases hr
    · rw [hb.stored.revision]
      rcases hb.before with hp | ⟨huntouched, hzero⟩
      · rw [hp.revision]
      · rw [huntouched.revision, hzero]
  | updated r _ _ _ p q _ hsome _ hu =>
    have hbefore : revisionOf s = p.revision := by
      rcases hu.before with hp | ⟨huntouched, hzero⟩
      · exact hp.revision
      · rw [huntouched.revision, hzero]
    refine ⟨fun r' hr' => ?_, fun hnone => ?_⟩
    · rw [hsome] at hr'
      cases hr'
      rw [hbefore, hu.stored.revision]
      exact ⟨hu.expected, hu.revision⟩
    · rw [hsome] at hnone
      cases hnone

theorem revision_mono (hs : Untouched s) (ht : Trace (libraryStep host) s h t) {k : List LibraryEvent}
    (htu : Trace (libraryStep host) t k u) : revisionOf t ≤ revisionOf u := by
  induction htu with
  | nil => exact Nat.le_refl _
  | @snoc k' v w e htr hstep ih =>
    have hinv := invariant_of_trace hs (ht.append htr)
    obtain ⟨hsome, hnone⟩ := (libraryStep_move hinv hstep).revision
    cases hu : e.updated? with
    | none => exact ih.trans (Nat.le_of_eq (hnone hu).symm)
    | some r =>
      have hnext := (hsome r hu).2
      omega

/-- While every update keeps the end of its root, the stored policy can be read. -/
theorem kept_of_trace (hs : Untouched s) (ht : Trace (libraryStep host) s h t)
    (hkeeps : ∀ e ∈ h, e.call.KeepsEnd) (hp : Stored host t p) : Kept p.sharedRoot := by
  induction ht generalizing p with
  | nil =>
    have hrow := hp.row
    rw [hs.policy] at hrow
    cases hrow
  | @snoc h' v w e htr hstep ih =>
    have hinv := invariant_of_trace hs htr
    have hkeep := fun e he => hkeeps e (List.mem_append_left _ he)
    cases libraryStep_move hinv hstep with
    | other _ _ hpolicy =>
      rcases hinv with hnone | ⟨q, hq⟩
      · have hrow := hp.row
        rw [hpolicy, hnone.policy] at hrow
        cases hrow
      · have hqp : p = q := hq.unique (hpolicy.symm.trans hp.row) hp.initialized
        subst hqp
        exact ih hkeep hq
    | bound _ _ q a _ _ hb =>
      have hqp : q = p := hp.unique hb.stored.row hb.stored.initialized
      subst hqp
      exact hb.kept
    | updated r sharedRoot layout overrides p' q _ _ hcall hu =>
      have hqp : q = p := hp.unique hu.stored.row hu.stored.initialized
      subst hqp
      have hend := hkeeps e (List.mem_append_right _ (List.mem_singleton.2 rfl))
      rw [hcall] at hend
      exact hend _ hu.shared

end Trace

theorem mem_platformPairs {x y : Platform} (hne : x ≠ y) :
    (x, y) ∈ platformPairs ∨ (y, x) ∈ platformPairs := by
  cases x <;> cases y <;> first | exact absurd rfl hne | decide

/-- Two platforms share one flat root or have roots that do not overlap. -/
theorem roots_apart {f : Platform → Path} {layout : String} (h : overlap f layout = none)
    {x y : Platform} (hne : x ≠ y) :
    (f x = f y ∧ layout = "legacy_flat") ∨ (f x).overlaps (f y) = false := by
  have hpair : ∀ z ∈ platformPairs, (f z.1 = f z.2 ∧ layout = "legacy_flat") ∨
      (f z.1).overlaps (f z.2) = false := by
    intro z hz
    have hz' := List.find?_eq_none.1 h z hz
    simp only [Bool.and_eq_true, Bool.not_eq_true', Bool.and_eq_false_imp, decide_eq_true_eq,
      decide_eq_false_iff_not, not_and, Bool.not_eq_true] at hz'
    by_cases hflat : f z.1 = f z.2 ∧ layout = "legacy_flat"
    · exact .inl hflat
    · exact .inr (hz' fun hsame hlayout => hflat ⟨hsame, hlayout⟩)
  rcases mem_platformPairs hne with hmem | hmem
  · exact hpair _ hmem
  · rcases hpair _ hmem with ⟨hsame, hlayout⟩ | hapart
    · exact .inl ⟨hsame.symm, hlayout⟩
    · rw [Path.overlaps_comm] at hapart
      exact .inr hapart

/-- What holds where a run has led, and of the next step from there. -/
structure RootsStay (host : OutputHost) (h : List LibraryEvent) (t : LibraryStore) : Prop where
  /-- Every successful update counts the revision up by one, and nothing else changes it. -/
  revisions : ∀ e u, libraryStep host t e u →
    (∀ r, e.updated? = some r → (revisionOf t : Int) = r ∧ revisionOf u = revisionOf t + 1) ∧
      (e.updated? = none → revisionOf u = revisionOf t)
  /-- No two updates succeed with one expected revision. -/
  once : ∀ pre e mid e' post r r', h = pre ++ e :: mid ++ e' :: post → e.updated? = some r →
    e'.updated? = some r' → r < r'
  /-- The roots of the stored policy avoid every private place and each other. -/
  policies : ∀ row, t.policy = some row → ∃ p, row = policyRow p ∧
    (∀ x, host.isPrivate (p.root x) = false) ∧
    ∀ x y, x ≠ y → (p.root x = p.root y ∧ p.layout = "legacy_flat") ∨
      (p.root x).overlaps (p.root y) = false
  /-- An author that was given a root is given that root again. -/
  stays : ∀ e ∈ h, ∀ authorId root, e.bound? = some (authorId, root) →
    ∀ disk, RootsOpen disk t → bindAuthorRoot host disk authorId t = (.ok root, t) ∧
      resolveAuthorRoot host disk authorId t = (.ok root, t)
  /-- The roots of authors on different platforms are one flat root or do not overlap. -/
  libraries : ∀ e ∈ h, ∀ e' ∈ h, ∀ i root i' root', e.bound? = some (i, root) →
    e'.bound? = some (i', root') → ∀ a a', t.authors.get? i = some a →
      t.authors.get? i' = some a' → a.platform ≠ a'.platform →
      root = root' ∨ root.overlaps root' = false

/-- In a run whose updates keep the end of their shared root, no author's root moves. -/
theorem author_roots_never_move {h : List LibraryEvent} (hs : Untouched s)
    (ht : Trace (libraryStep host) s h t) (hkeeps : ∀ e ∈ h, e.call.KeepsEnd) :
    RootsStay host h t := by
  have hinv := invariant_of_trace hs ht
  refine ⟨fun e u hstep => (libraryStep_move hinv hstep).revision, ?_, ?_, ?_, ?_⟩
  · intro pre e mid e' post r r' hsplit he he'
    subst hsplit
    rw [List.append_assoc] at ht
    obtain ⟨v, w, hpre, hstep, hrest⟩ := ht.at_label
    obtain ⟨x, y, hmid, hstep', -⟩ := hrest.at_label
    have hfirst := ((libraryStep_move (invariant_of_trace hs hpre) hstep).revision).1 r he
    have hto := (hpre.snoc hstep).append hmid
    have hsecond := ((libraryStep_move (invariant_of_trace hs hto) hstep').revision).1 r' he'
    have hle := revision_mono hs (hpre.snoc hstep) hmid
    omega
  · intro row hrow
    rcases hinv with hnone | ⟨p, hp⟩
    · rw [hnone.policy] at hrow
      cases hrow
    · rw [hp.row, Option.some.injEq] at hrow
      exact ⟨p, hrow.symm, hp.lawful.safe, fun x y hne => roots_apart hp.lawful.apart hne⟩
  · intro e he authorId root hbound disk hopen
    obtain ⟨p, a, hroot⟩ := hasRoot_of_trace hs ht he hbound
    have hkept := kept_of_trace hs ht hkeeps hroot.stored
    have hplaces := hopen p hroot.stored.row
    obtain ⟨b, hb⟩ := hroot.binding
    rw [hroot.root]
    exact ⟨bindAuthorRoot_again hroot.stored hkept hplaces hroot.author hroot.uuid hb,
      resolveAuthorRoot_again hroot.stored hkept hplaces hroot.author hroot.uuid⟩
  · intro e he e' he' i root i' root' hbound hbound' a a' ha ha' hne
    obtain ⟨p, c, hroot⟩ := hasRoot_of_trace hs ht he hbound
    obtain ⟨p', c', hroot'⟩ := hasRoot_of_trace hs ht he' hbound'
    have hpp : p' = p := hroot.stored.unique hroot'.stored.row hroot'.stored.initialized
    subst hpp
    rw [hroot.author, Option.some.injEq] at ha
    rw [hroot'.author, Option.some.injEq] at ha'
    subst ha ha'
    rw [hroot.root, hroot'.root]
    exact (roots_apart hroot.stored.lawful.apart hne).imp_left And.left

theorem readPolicy_lost (disk : Disk) (hp : Stored host s p) (hlost : ¬ Kept p.sharedRoot) :
    readPolicy host disk s = (.error invalidError, s) := by
  rw [readPolicy, Tx.run_read_bind, policyOf, hp.row]
  simp only [rowPolicy_lost hp.lawful hlost]
  rfl

/-- No caller gets past a policy that cannot be read. -/
theorem service_closed (hp : Stored host s p) (hlost : ¬ Kept p.sharedRoot) :
    bindAuthorRoot host disk authorId s = (.error invalidError, s) ∧
      resolveAuthorRoot host disk authorId s = (.error invalidError, s) := by
  have hread := readPolicy_lost disk hp hlost
  constructor
  · simp [bindAuthorRoot, Tx.commit, Tx.run_bind, locked, hread]
  · simp [resolveAuthorRoot, Tx.run_bind, hread]

/-- And none of them can repair it. -/
theorem policy_stays_lost {h : List LibraryEvent} (hp : Stored host s p)
    (hlost : ¬ Kept p.sharedRoot) (ht : Trace (libraryStep host) s h t) : Stored host t p := by
  induction ht with
  | nil => exact hp
  | snoc _ hstep ih =>
    cases libraryStep_move (.inr ⟨p, ih⟩) hstep with
    | other _ _ hpolicy hbindings hauthors =>
      refine ⟨hpolicy.trans ih.row, ih.initialized, ih.lawful, fun id b hb => ?_⟩
      rw [hbindings] at hb
      obtain ⟨a, ha, hrest⟩ := ih.bound id b hb
      exact ⟨a, hauthors id a ha, hrest⟩
    | bound _ _ q _ _ _ hb =>
      rcases hb.before with hq | ⟨hnone, -⟩
      · have hqp : q = p := ih.unique hq.row hq.initialized
        exact absurd (hqp ▸ hb.kept) hlost
      · have hrow := ih.row
        rw [hnone.policy] at hrow
        cases hrow
    | updated _ _ _ _ q _ _ _ _ hu =>
      rcases hu.before with hq | ⟨hnone, -⟩
      · have hqp : q = p := ih.unique hq.row hq.initialized
        exact absurd (hqp ▸ hu.kept) hlost
      · have hrow := ih.row
        rw [hnone.policy] at hrow
        cases hrow

def libraryRun (host : OutputHost) (disk : Disk) :
    List LibraryCall → LibraryStore → List LibraryEvent × LibraryStore
  | [], s => ([], s)
  | c :: rest, s =>
    let next := libraryRun host disk rest (c.run host disk s).2
    (⟨c, disk, (c.run host disk s).1⟩ :: next.1, next.2)

/-- A disk on which every name is a directory. -/
def sampleDisk : Disk := fun _ => .directory

theorem trace_libraryRun (calls : List LibraryCall) (s : LibraryStore) :
    Trace (libraryStep host) s (libraryRun host disk calls s).1
      (libraryRun host disk calls s).2 := by
  induction calls generalizing s with
  | nil => exact .nil
  | cons c rest ih => exact Trace.cons rfl (ih _)

theorem mem_libraryRun {calls : List LibraryCall} {e : LibraryEvent}
    (he : e ∈ (libraryRun host disk calls s).1) : e.call ∈ calls := by
  induction calls generalizing s with
  | nil => cases he
  | cons c rest ih =>
    rcases List.mem_cons.1 he with rfl | he
    · exact List.mem_cons_self
    · exact List.mem_cons_of_mem c (ih he)

def sampleHost : OutputHost where
  stateDir := Path.of "/data/state"
  archiveDir := Path.of "/data/archive"
  jobDir := Path.of "/data/jobs"
  exportDir := "/library"
  secretFileDir := none
  mediacrawlerRuntimeDir := none
  mediacrawlerLockPath := Path.of "/app/upstream.lock"
  database := none
  package := Path.of "/app/package"
  resolve := id
  coordinationScope := Path.str

def sampleAuthor : Author := ⟨"00000000-0000-0000-0000-00000000000a", .bili⟩

def sampleLibrary : LibraryStore :=
  ⟨none, .empty, ⟨[sampleAuthor], List.nodup_singleton _⟩, .empty, .empty, .empty⟩

theorem sampleLibrary_untouched : Untouched sampleLibrary := ⟨rfl, fun _ => rfl⟩

/-- The author is bound, and the other platforms get another place. -/
def sampleUpdates (sharedRoot : String) : List LibraryCall :=
  [.bindAuthorRoot sampleAuthor.id,
    .update 0 sharedRoot [("bili", some "/library/bili")] "platform_subdirectories"]

/-- The code of the answer to one more call. -/
def answerCode (r : Except OutputDirectoryError Path × LibraryStore) : String :=
  match r.1 with
  | .ok path => path.str
  | .error e => e.code

theorem author_roots_never_move_sample :
    RootsStay sampleHost (libraryRun sampleHost sampleDisk (sampleUpdates "/media") sampleLibrary).1
      (libraryRun sampleHost sampleDisk (sampleUpdates "/media") sampleLibrary).2 := by
  refine author_roots_never_move sampleLibrary_untouched (trace_libraryRun _ _) ?_
  intro e he
  rcases List.mem_cons.1 (mem_libraryRun he) with hcall | hcall
  · rw [hcall]
    trivial
  · rw [List.mem_singleton.1 hcall]
    intro path hpath
    have hpath' := (nativeRoot_ok.1 hpath).2
    subst hpath'
    decide +kernel

/-- The shared root ends in a blank before its slash: the author's root was returned and is then
refused for ever. -/
theorem bound_root_refused :
    ∃ h t, Trace (libraryStep sampleHost) sampleLibrary h t ∧
      (h.map fun e => (e.bound?.map fun x => (x.1, x.2.str), e.updated?)) =
        [(some (sampleAuthor.id, "/library/bili"), none), (none, some 0)] ∧
      answerCode (bindAuthorRoot sampleHost sampleDisk sampleAuthor.id t) =
        "output_directory_invalid" :=
  ⟨(libraryRun sampleHost sampleDisk (sampleUpdates "/media /") sampleLibrary).1, _,
    trace_libraryRun _ _, by decide +kernel⟩

end MediaSync.Library
