import MediaSync.Media.ArchiveDiscipline

/-!
# Archive operations keep the discipline

Looking at a file leaves every assertion alone; validation may only clear the
write bits of a blob under its lock. A publication owns its temporary until it
links it, holding the blob lock, to a name that is free.
-/

namespace MediaSync.Media

open Program

section

variable {sha256Of : Bytes → String} {size : String → Nat} {p : Nat}

abbrev ArchiveTriple (sha256Of : Bytes → String) (size : String → Nat) (p : Nat) {α : Type}
    (A : Archive → Prop) (m : ArchiveProg α) (Q : Except ArchiveError α → Archive → Prop) : Prop :=
  Triple (archiveDiscipline sha256Of size) p A m Q

abbrev ArchiveStays (sha256Of : Bytes → String) (size : String → Nat) (p : Nat)
    (A : Archive → Prop) (s : Archive) : Prop :=
  Stays (archiveDiscipline sha256Of size) p A s

/-! ## Looking -/

section Looking

variable {A : Archive → Prop}

/-- A call that changes nothing. -/
theorem triple_read (c : ArchiveCall) {F : c.Reply → Prop} {E : ArchiveError → Prop}
    (hread : ∀ s, (perform p c s).2 = s)
    (hF : ∀ s, ArchiveInv sha256Of size s → A s → F (perform p c s).1) :
    ArchiveTriple sha256Of size p A c.make (Framed F E A) := by
  refine Triple.ask (fun s hs hA r t hact => ?_)
  have hr : (perform p c s).1 = r := congrArg Prod.fst hact
  have ht : (perform p c s).2 = t := congrArg Prod.snd hact
  rw [hread] at ht
  subst ht
  exact ⟨Keeps.refl hs, hA.mono (fun u hu hAu => ⟨hr ▸ hF s hs (hA.here hs), hAu⟩)⟩

theorem assertRegularFile_spec {path : ArchivePath} {single : Bool} {F : Stat → Prop}
    (hF : ∀ s st, ArchiveInv sha256Of size s → A s → s.files.stat path = some st → F st) :
    ArchiveTriple sha256Of size p A (assertRegularFile path single)
      (Framed (fun st => F st ∧ (single = true → st.links = 1)) (· = .pathSecurity) A) := by
  unfold assertRegularFile
  refine Triple.framed_bind (E := fun _ => False)
    (triple_read (.lstat path) (F := fun st => ∀ st', st = some st' → F st') (fun _ => rfl)
      (fun s hs hA st' hst => hF s st' hs hA hst)) (fun details hdetails => ?_) (fun _ _ h => h.elim)
  cases details with
  | none => exact Triple.throw (fun _ _ hA => ⟨rfl, hA⟩)
  | some details =>
    refine Triple.ite (fun _ => Triple.throw (fun _ _ hA => ⟨rfl, hA⟩)) (fun hlinks => ?_)
    refine Triple.pure (fun _ _ hA => ⟨⟨hdetails details rfl, fun hs => ?_⟩, hA⟩)
    rw [not_and_or, not_not] at hlinks
    exact hlinks.resolve_left (not_not_intro hs)

theorem assertRegularFile_any {path : ArchivePath} {single : Bool} :
    ArchiveTriple sha256Of size p A (assertRegularFile path single)
      (Framed (fun _ => True) (· = .pathSecurity) A) :=
  (assertRegularFile_spec (F := fun _ => True) (fun _ _ _ _ _ => trivial)).framed_weaken
    (fun _ _ => trivial) (fun _ h => h)

theorem exists?_spec {path : ArchivePath} {F : Bool → Prop} {E : ArchiveError → Prop}
    (hF : ∀ s, ArchiveInv sha256Of size s → A s → F (s.files.stat path).isSome) :
    ArchiveTriple sha256Of size p A (exists? path) (Framed F E A) := by
  unfold exists?
  refine Triple.framed_bind (E := fun _ => False)
    (triple_read (.lstat path) (F := fun st => F st.isSome) (fun _ => rfl) hF)
    (fun details hdetails => ?_) (fun _ _ h => h.elim)
  exact Triple.pure (fun _ _ hA => ⟨hdetails, hA⟩)

theorem confinedFile_spec {path : ArchivePath} :
    ArchiveTriple sha256Of size p A (confinedFile path)
      (Framed (fun _ => True) (· = .pathSecurity) A) := by
  unfold confinedFile
  refine Triple.framed_bind (F := fun _ => True) (E := fun _ => False)
    (exists?_spec (fun _ _ _ => trivial)) (fun present _ => ?_) (fun _ _ h => h.elim)
  refine Triple.ite (fun _ => ?_) (fun _ => Triple.pure (fun _ _ hA => ⟨trivial, hA⟩))
  exact Triple.framed_bind assertRegularFile_any
    (fun _ _ => Triple.pure (fun _ _ hA => ⟨trivial, hA⟩)) (fun _ _ h _ hA => ⟨h, hA⟩)

theorem asMediaErrors_spec {α : Type} {m : ArchiveProg α} {F : α → Prop}
    {E E' : ArchiveError → Prop} (hm : ArchiveTriple sha256Of size p A m (Framed F E A))
    (hconfined : E' (.media .filesystemUnsafe)) (hfailed : E' (.media .filesystemWriteFailed))
    (hother : ∀ e, E e → e ≠ .pathSecurity → e ≠ .os → E' e) :
    ArchiveTriple sha256Of size p A (asMediaErrors m) (Framed F E' A) := by
  refine Triple.framed_catching hm (fun a s hF _ hA => ⟨hF, hA⟩) (fun e he => ?_)
  cases e with
  | pathSecurity => exact Triple.throw (fun _ _ hA => ⟨hconfined, hA⟩)
  | os => exact Triple.throw (fun _ _ hA => ⟨hfailed, hA⟩)
  | media code => exact Triple.throw (fun _ _ hA => ⟨hother _ he nofun nofun, hA⟩)
  | raised code => exact Triple.throw (fun _ _ hA => ⟨hother _ he nofun nofun, hA⟩)

/-- The name leads to the inode for as long as the process looks at it. -/
def Pinned (sha256Of : Bytes → String) (size : String → Nat) (p : Nat) (A : Archive → Prop)
    (path : ArchivePath) : Prop :=
  ∀ s t i, ArchiveInv sha256Of size s → A s → ArchiveRely p s t →
    s.files.at? path = some i → t.files.at? path = some i

theorem pinned_blob (d e : String) : Pinned sha256Of size p A (.blob d e) := by
  intro s t i hs _ hst hi
  obtain ⟨n, hn, _⟩ := hs.content d e i hi
  exact (hst.blobs d e i n hi hn).1

theorem pinned_own {path : ArchivePath} (h : path.owner = some p) :
    Pinned sha256Of size p A path := by
  intro s t i _ _ hst hi
  exact (hst.names path h).trans hi

theorem openRegularReadFile_spec {path : ArchivePath} (hpin : Pinned sha256Of size p A path) :
    ArchiveTriple sha256Of size p A (openRegularReadFile path)
      (fun r s => match r with
        | .ok i => s.files.at? path = some i ∧ A s
        | .error e => e = .pathSecurity ∧ A s) := by
  unfold openRegularReadFile
  refine Triple.framed_bind assertRegularFile_any (fun _ _ => ?_) (fun _ _ h _ hA => ⟨h, hA⟩)
  refine Triple.bind (Q := fun r s => match r with
      | .ok opened => (∀ i, opened = some i → s.files.at? path = some i) ∧ A s
      | .error _ => False) ?_ (fun opened => ?_) (fun _ _ _ h => h.elim)
  · refine Triple.ask (fun s hs hA r t hact => ?_)
    cases hact
    refine ⟨Keeps.refl hs, fun u hsu hu => ⟨fun i hi => ?_, hA u hsu hu⟩⟩
    exact hpin s u i hs (hA.here hs) hsu hi
  · cases opened with
    | none => exact Triple.throw (fun _ _ h => ⟨rfl, h.2⟩)
    | some inode =>
      refine Triple.framed_bind (F := fun _ => True) (E := fun _ => False)
        (triple_read (.links inode) (fun _ => rfl) (fun _ _ _ => trivial)) (fun links _ => ?_)
        (fun _ _ h => h.elim)
      exact Triple.ite (fun _ => Triple.throw (fun _ _ h => ⟨rfl, h.2⟩))
        (fun _ => Triple.pure (fun _ _ h => ⟨h.1 inode rfl, h.2⟩))

/-- The digest and size of a pinned file are those of its bytes. -/
theorem hashFile_spec {path : ArchivePath} {F : Bytes → Prop}
    (hpin : Pinned sha256Of size p A path)
    (hF : ∀ s i n, ArchiveInv sha256Of size s → A s → s.files.at? path = some i →
      s.files.inode? i = some n → F n.bytes) :
    ArchiveTriple sha256Of size p A (hashFile sha256Of path)
      (Framed (fun r => ∃ bytes, F bytes ∧ r = (sha256Of bytes, bytes.length))
        (fun e => e = .media .filesystemUnsafe ∨ e = .media .filesystemWriteFailed) A) := by
  refine asMediaErrors_spec (E := (· = .pathSecurity)) ?_ (.inl rfl) (.inr rfl) ?_
  · refine Triple.framed_bind assertRegularFile_any (fun _ _ => ?_) (fun _ _ h _ hA => ⟨h, hA⟩)
    refine Triple.bind (openRegularReadFile_spec hpin) (fun inode => ?_) (fun _ _ _ h => h)
    refine Triple.framed_bind (A := fun s => s.files.at? path = some inode ∧ A s)
      (E := fun _ => False)
      (triple_read (.read inode) (F := F) (fun _ => rfl) (fun s hs h => ?_)) (fun bytes hbytes => ?_)
      (fun _ _ h => h.elim)
    · obtain ⟨n, hn⟩ := Files.inode?_of_at? h.1
      have hread : (perform p (.read inode) s).1 = n.bytes := by
        simp only [perform, hn, Option.map_some, Option.getD_some]
      rw [hread]
      exact hF s inode n hs h.2 h.1 hn
    · refine Triple.strengthen (A := A) ?_ (fun _ _ h => h.2)
      refine Triple.framed_bind assertRegularFile_any (fun current _ => ?_)
        (fun _ _ h _ hA => ⟨h, hA⟩)
      exact Triple.ite (fun _ => Triple.throw (fun _ _ hA => ⟨rfl, hA⟩))
        (fun _ => Triple.pure (fun _ _ hA => ⟨⟨bytes, hbytes, rfl⟩, hA⟩))
  · rintro e rfl hne
    exact (hne rfl).elim

theorem awaitSingleLink_spec {path : ArchivePath} {F : Stat → Prop} (n : Nat) {details : Stat}
    (hdetails : F details)
    (hF : ∀ s st, ArchiveInv sha256Of size s → A s → s.files.stat path = some st → F st) :
    ArchiveTriple sha256Of size p A (awaitSingleLink path n details)
      (Framed F (· = .pathSecurity) A) := by
  induction n generalizing details with
  | zero =>
    exact Triple.ite (fun _ => Triple.throw (fun _ _ hA => ⟨rfl, hA⟩))
      (fun _ => Triple.pure (fun _ _ hA => ⟨hdetails, hA⟩))
  | succ n ih =>
    refine Triple.ite (fun _ => Triple.pure (fun _ _ hA => ⟨hdetails, hA⟩)) (fun _ => ?_)
    refine Triple.ite (fun _ => Triple.throw (fun _ _ hA => ⟨rfl, hA⟩)) (fun _ => ?_)
    exact Triple.framed_bind (assertRegularFile_spec hF) (fun details h => ih h.1)
      (fun _ _ h _ hA => ⟨h, hA⟩)

/-- Bytes that a pinned file must have if the presented digest and size fit. -/
theorem requireBytes_spec {path : ArchivePath} {F : Bytes → Prop} {sha256 : String}
    {sizeBytes : Int} (hpin : Pinned sha256Of size p A path)
    (hF : ∀ s i n, ArchiveInv sha256Of size s → A s → s.files.at? path = some i →
      s.files.inode? i = some n → F n.bytes) :
    ArchiveTriple sha256Of size p A (requireBytes sha256Of path sha256 sizeBytes)
      (Framed (fun _ => ∃ bytes, F bytes ∧ sha256Of bytes = sha256 ∧
          (bytes.length : Int) = sizeBytes)
        (fun e => e = .media .archiveBlobInvalid →
          ∃ bytes, F bytes ∧ (sha256Of bytes ≠ sha256 ∨ (bytes.length : Int) ≠ sizeBytes)) A) := by
  unfold requireBytes
  refine Triple.framed_bind (hashFile_spec hpin hF) (fun r hr => ?_) (fun e s he _ hA => ?_)
  · obtain ⟨bytes, hbytes, rfl⟩ := hr
    refine Triple.ite (fun hne => ?_) (fun heq => ?_)
    · exact Triple.throw (fun _ _ hA => ⟨fun _ => ⟨bytes, hbytes, hne⟩, hA⟩)
    · rw [not_or, not_not, not_not] at heq
      exact Triple.pure (fun _ _ hA => ⟨⟨bytes, hbytes, heq⟩, hA⟩)
  · refine ⟨fun heq => ?_, hA⟩
    rcases he with rfl | rfl
    · cases heq
    · cases heq

end Looking

/-- The assertion allows the process to change the mode of the path. -/
def ChmodSafe (sha256Of : Bytes → String) (size : String → Nat) (p : Nat) (A : Archive → Prop)
    (path : ArchivePath) : Prop :=
  ∀ s writable, ArchiveInv sha256Of size s → ArchiveStays sha256Of size p A s →
    Keeps sha256Of size p s { s with files := (s.files.chmod path writable).2 } ∧
      ArchiveStays sha256Of size p A { s with files := (s.files.chmod path writable).2 }

theorem chmod_spec {A : Archive → Prop} {path : ArchivePath} {writable : Bool}
    (hchmod : ChmodSafe sha256Of size p A path) :
    ArchiveTriple sha256Of size p A (ArchiveCall.make (.chmod path writable))
      (Framed (fun _ => True) (fun _ => False) A) := by
  refine Triple.ask (fun s hs hA r t hact => ?_)
  cases hact
  obtain ⟨hkeeps, hstays⟩ := hchmod s writable hs hA
  exact ⟨hkeeps, hstays.mono (fun _ _ h => ⟨trivial, h⟩)⟩

theorem makeReadOnly_spec {A : Archive → Prop} {path : ArchivePath}
    (hchmod : ChmodSafe sha256Of size p A path) :
    ArchiveTriple sha256Of size p A (makeReadOnly path)
      (Framed (fun _ => True) (fun e => e ≠ .media .archiveBlobInvalid) A) := by
  unfold makeReadOnly
  refine Triple.framed_bind (F := fun _ => True) (E := fun e => e ≠ .media .archiveBlobInvalid)
    (asMediaErrors_spec (E := fun e => e = .pathSecurity ∨ e = .os) ?_ nofun nofun ?_)
    (fun r _ => ?_) (fun _ _ h _ hA => ⟨h, hA⟩)
  · refine Triple.framed_bind assertRegularFile_any (fun before _ => ?_)
      (fun _ _ h _ hA => ⟨.inl h, hA⟩)
    refine Triple.framed_bind (chmod_spec hchmod) (fun changed _ => ?_) (fun _ _ h => h.elim)
    refine Triple.framed_bind (F := fun _ => True) (E := (· = .os))
      (Triple.require (fun _ _ _ hA => ⟨trivial, hA⟩) (fun _ _ _ hA => ⟨rfl, hA⟩))
      (fun _ _ => ?_) (fun _ _ h _ hA => ⟨.inr h, hA⟩)
    exact Triple.framed_bind assertRegularFile_any
      (fun _ _ => Triple.pure (fun _ _ hA => ⟨trivial, hA⟩)) (fun _ _ h _ hA => ⟨.inl h, hA⟩)
  · rintro e (rfl | rfl) hne hne'
    · exact (hne rfl).elim
    · exact (hne' rfl).elim
  · refine Triple.ite (fun _ => Triple.throw (fun _ _ hA => ⟨nofun, hA⟩)) (fun _ => ?_)
    exact Triple.ite (fun _ => Triple.throw (fun _ _ hA => ⟨nofun, hA⟩))
      (fun _ => Triple.pure (fun _ _ hA => ⟨trivial, hA⟩))

section Validation

variable {A : Archive → Prop} {d e : String} {sizeBytes : Int}

theorem blob_bytes {s : Archive} {i : Nat} {n : Inode} (hs : ArchiveInv sha256Of size s)
    (hi : s.files.at? (.blob d e) = some i) (hn : s.files.inode? i = some n) :
    Publishes sha256Of size d n.bytes := by
  obtain ⟨m, hm, hbytes⟩ := hs.content d e i hi
  rw [hn] at hm
  cases hm
  exact hbytes

theorem blob_stat {s : Archive} {st : Stat} (hs : ArchiveInv sha256Of size s)
    (h : s.files.stat (.blob d e) = some st) : st.size = size d := by
  obtain ⟨n, hi, hn, _, hsize, _⟩ := Files.stat_some h
  rw [hsize]
  exact (blob_bytes hs hi hn).2

theorem requireBlobBytes_spec :
    ArchiveTriple sha256Of size p A (requireBytes sha256Of (.blob d e) d sizeBytes)
      (Framed (fun _ => True)
        (fun err => sizeBytes = size d → err ≠ .media .archiveBlobInvalid) A) := by
  refine (requireBytes_spec (F := Publishes sha256Of size d) (pinned_blob d e)
    (fun s i n hs _ hi hn => blob_bytes hs hi hn)).framed_weaken (fun _ _ => trivial) ?_
  intro err herr hsize heq
  obtain ⟨bytes, ⟨hdigest, hlength⟩, hne | hne⟩ := herr heq
  · exact hne hdigest
  · rw [hlength, hsize] at hne
    exact hne rfl

/-- A blob that is there is never found invalid for the size it was published with. -/
theorem validateExistingLocked_spec (hchmod : ChmodSafe sha256Of size p A (.blob d e)) :
    ArchiveTriple sha256Of size p A (validateExistingLocked sha256Of (.blob d e) d sizeBytes)
      (Framed (fun _ => True)
        (fun err => sizeBytes = size d → err ≠ .media .archiveBlobInvalid) A) := by
  have hstat : ∀ s st, ArchiveInv sha256Of size s → A s →
      s.files.stat (.blob d e) = some st → st.size = size d := fun s st hs _ h => blob_stat hs h
  unfold validateExistingLocked
  refine Triple.framed_bind (F := fun st => st.size = size d)
    (E := fun err => err ≠ .media .archiveBlobInvalid)
    (asMediaErrors_spec (E := (· = .pathSecurity)) ?_ nofun nofun ?_) (fun details hsize => ?_)
    (fun _ _ h _ hA => ⟨fun _ => h, hA⟩)
  · exact Triple.framed_bind (assertRegularFile_spec hstat)
      (fun details h => awaitSingleLink_spec 100 h.1 hstat) (fun _ _ h _ hA => ⟨h, hA⟩)
  · rintro err rfl hne
    exact (hne rfl).elim
  · refine Triple.ite (fun hne => ?_) (fun _ => ?_)
    · refine Triple.throw (fun _ _ hA => ⟨fun heq => ?_, hA⟩)
      rw [hsize, heq] at hne
      exact (hne rfl).elim
    · refine Triple.framed_bind requireBlobBytes_spec (fun _ _ => ?_) (fun _ _ h _ hA => ⟨h, hA⟩)
      refine Triple.ite (fun _ => ?_) (fun _ => Triple.pure (fun _ _ hA => ⟨trivial, hA⟩))
      refine Triple.framed_bind (makeReadOnly_spec hchmod) (fun _ _ => ?_)
        (fun _ _ h _ hA => ⟨fun _ => h, hA⟩)
      exact Triple.framed_bind requireBlobBytes_spec
        (fun _ _ => Triple.pure (fun _ _ hA => ⟨trivial, hA⟩)) (fun _ _ h _ hA => ⟨h, hA⟩)

theorem publishExistingLocked_spec {beforeCommit : BeforeCommit}
    (hchmod : ChmodSafe sha256Of size p A (.blob d e)) :
    ArchiveTriple sha256Of size p A
      (publishExistingLocked sha256Of (.blob d e) d sizeBytes beforeCommit)
      (Framed (fun _ => True) (fun _ => True) A) := by
  have hcommit : ∀ r : Except ArchiveError Unit, ArchiveTriple sha256Of size p A
      (Prog.ofExcept r) (Framed (fun _ => True) (fun _ => True) A) := by
    intro r
    refine Triple.done (fun _ _ hA => ?_)
    cases r with
    | ok _ => exact ⟨trivial, hA⟩
    | error _ => exact ⟨trivial, hA⟩
  unfold publishExistingLocked
  refine Triple.framed_bind (F := fun _ => True) (E := fun _ => False)
    (exists?_spec (fun _ _ _ => trivial)) (fun present _ => ?_) (fun _ _ h => h.elim)
  refine Triple.ite (fun _ => ?_) (fun _ => Triple.pure (fun _ _ hA => ⟨trivial, hA⟩))
  refine Triple.framed_bind (hcommit _) (fun _ _ => ?_) (fun _ _ _ _ hA => ⟨trivial, hA⟩)
  refine Triple.framed_bind (validateExistingLocked_spec hchmod) (fun _ _ => ?_)
    (fun _ _ _ _ hA => ⟨trivial, hA⟩)
  exact Triple.framed_bind (hcommit _) (fun _ _ => Triple.pure (fun _ _ hA => ⟨trivial, hA⟩))
    (fun _ _ _ _ hA => ⟨trivial, hA⟩)

end Validation

/-- Assertions about the process's own files, indexed by the lock it holds. -/
structure LockFamily (p : Nat) (A : Option String → Archive → Prop) : Prop where
  stable : ∀ held s t, ArchiveRely p s t → A held s → A held t
  locks : ∀ held s, A held s → ∀ d, s.locks d = some p ↔ held = some d
  relock : ∀ held held' s t, A held s → t.files = s.files →
    (∀ d, t.locks d = some p ↔ held' = some d) → A held' t
  free : ∀ held s, A held s → ¬ Linking p s

section Locks

variable {A : Option String → Archive → Prop} {d : String}

theorem LockFamily.stays (hA : LockFamily p A) {held : Option String} {s : Archive}
    (h : A held s) : ArchiveStays sha256Of size p (A held) s :=
  Stays.of_stable (hA.stable held) h

theorem tryLock_spec (hA : LockFamily p A) :
    ArchiveTriple sha256Of size p (A none) (ArchiveCall.make (.tryLock d)) (fun r s => match r with
      | .ok true => A (some d) s
      | .ok false => A none s
      | .error _ => False) := by
  refine Triple.ask (fun s hs hstays r t hact => ?_)
  have hnone := hstays.here hs
  simp only [archiveMachine, perform] at hact
  cases hlock : s.locks d with
  | some q =>
    rw [hlock] at hact
    cases hact
    exact ⟨Keeps.refl hs, hstays⟩
  | none =>
    rw [hlock] at hact
    cases hact
    refine ⟨keeps_lock hs hlock rfl (fun _ => rfl), hA.stays (hA.relock _ _ _ _ hnone rfl ?_)⟩
    intro d'
    dsimp only
    by_cases heq : d' = d
    · subst heq
      simp
    · rw [if_neg heq, hA.locks none s hnone d']
      simp [Ne.symm heq]

theorem blobLock_spec (hA : LockFamily p A) (polls : Nat) :
    ArchiveTriple sha256Of size p (A none) (blobLock d polls) (fun r s => match r with
      | .ok _ => A (some d) s
      | .error e => e = .media .archiveBlobBusy ∧ A none s) := by
  induction polls with
  | zero =>
    refine Triple.bind (tryLock_spec hA) (fun locked => ?_) (fun _ _ _ h => h.elim)
    cases locked with
    | true => exact Triple.pure (fun _ _ h => h)
    | false => exact Triple.throw (fun _ _ h => ⟨rfl, h⟩)
  | succ polls ih =>
    refine Triple.bind (tryLock_spec hA) (fun locked => ?_) (fun _ _ _ h => h.elim)
    cases locked with
    | true => exact Triple.pure (fun _ _ h => h)
    | false => exact ih

theorem unlock_spec {B : Option String → Archive → Prop} (hB : LockFamily p B) :
    ArchiveTriple sha256Of size p (B (some d)) (ArchiveCall.make (.unlock d))
      (fun r s => r = .ok () ∧ B none s) := by
  refine Triple.ask (fun s hs hstays r t hact => ?_)
  have hheld := hstays.here hs
  cases hact
  have hnone : B none { s with locks := fun d' => if d' = d then none else s.locks d' } := by
    refine hB.relock _ _ _ _ hheld rfl (fun d' => ?_)
    dsimp only
    by_cases heq : d' = d
    · subst heq
      simp
    · rw [if_neg heq, hB.locks _ _ hheld d']
      simp [Ne.symm heq]
  refine ⟨keeps_unlock hs ((hB.locks _ _ hheld d).mpr rfl) (hB.free _ _ hheld) rfl
    (fun _ => rfl), ?_⟩
  exact (hB.stays hnone).mono (fun _ _ h => ⟨rfl, h⟩)

theorem withBlobLock_spec {α : Type} {body : ArchiveProg α} {polls : Nat}
    {B : Except ArchiveError α → Option String → Archive → Prop} (hA : LockFamily p A)
    (hB : ∀ r, LockFamily p (B r))
    (hbody : ArchiveTriple sha256Of size p (A (some d)) body (fun r s => B r (some d) s))
    (hbusy : ∀ s, A none s → B (.error (.media .archiveBlobBusy)) none s) :
    ArchiveTriple sha256Of size p (A none) (withBlobLock d polls body)
      (fun r s => B r none s) := by
  refine Triple.bind (blobLock_spec hA polls) (fun _ => ?_) (fun e s _ h => ?_)
  · exact Triple.ensuring hbody (fun r => unlock_spec (hB r))
  · obtain ⟨rfl, hnone⟩ := h
    exact hbusy s hnone

/-- Under the blob's lock the process may clear the blob's write bits. -/
theorem LockFamily.chmodSafe (hA : LockFamily p A) (e : String) :
    ChmodSafe sha256Of size p (A (some d)) (.blob d e) := by
  intro s writable hs hstays
  have hheld := hstays.here hs
  have hlock := (hA.locks _ _ hheld d).mpr rfl
  unfold Files.chmod
  cases hblob : s.files.at? (.blob d e) with
  | none => exact ⟨Keeps.refl hs, hstays⟩
  | some i =>
    have hshared : ∀ q r, r.owner = some q → s.files.at? r ≠ some i := by
      intro q r hr hi
      obtain ⟨⟨n, rfl⟩, hq⟩ := hs.linking_locked hr hi hblob
      rw [hlock] at hq
      cases hq
      exact hA.free _ _ hheld ⟨d, e, n, i, Option.some.inj hr, hi, hblob⟩
    dsimp only
    constructor
    · exact keeps_setInode hs rfl (fun _ => rfl) (fun _ => Files.inode?_setInode _)
        (fun _ _ _ _ => rfl) (fun q r _ hr => hshared q r hr)
    · refine hstays.later ⟨fun _ _ => rfl, fun r j hr hj => ⟨?_, fun _ => Iff.rfl⟩,
        fun d' e' j n hj hn => ⟨hj, ?_⟩, fun _ => Iff.rfl⟩
      · change (s.files.setInode i _).inode? j = _
        rw [Files.inode?_setInode, if_neg]
        rintro rfl
        exact hshared p r hr hj
      · change ∃ m, (s.files.setInode i _).inode? j = some m ∧ _
        rw [Files.inode?_setInode]
        split
        · rw [hn]
          exact ⟨_, rfl, rfl⟩
        · exact ⟨n, hn, rfl⟩

end Locks

/-! ## Own files -/

/-- The process has no file, and holds the given lock only. -/
structure Idle (p : Nat) (held : Option String) (s : Archive) : Prop where
  names : ∀ q, q.owner = some p → s.files.at? q = none
  locks : ∀ d, s.locks d = some p ↔ held = some d

/-- The process has at most this file, under no other name. -/
structure Owns (p : Nat) (path : ArchivePath) (held : Option String) (s : Archive) : Prop where
  others : ∀ q, q.owner = some p → q ≠ path → s.files.at? q = none
  only : ∀ i q, s.files.at? path = some i → s.files.at? q = some i → q = path
  locks : ∀ d, s.locks d = some p ↔ held = some d

theorem Idle.owns {held : Option String} {s : Archive} (h : Idle p held s) {path : ArchivePath}
    (howner : path.owner = some p) : Owns p path held s where
  others q hq _ := h.names q hq
  only i q hi := by
    rw [h.names path howner] at hi
    cases hi
  locks := h.locks

theorem idle_family : LockFamily p (Idle p) where
  stable held s t hst h :=
    ⟨fun q hq => (hst.names q hq).trans (h.names q hq), fun d => (hst.locks d).trans (h.locks d)⟩
  locks _ _ h := h.locks
  relock _ _ _ _ h hfiles hlocks := ⟨by rw [hfiles]; exact h.names, hlocks⟩
  free held s h := by
    rintro ⟨d, e, n, i, rfl, hi, _⟩
    rw [h.names _ rfl] at hi
    cases hi

theorem Owns.rely {path : ArchivePath} {held : Option String} {s t : Archive}
    (howner : path.owner = some p) (h : Owns p path held s) (hst : ArchiveRely p s t) :
    Owns p path held t where
  others q hq hne := (hst.names q hq).trans (h.others q hq hne)
  only i q hi hq := by
    rw [hst.names path howner] at hi
    exact h.only i q hi (((hst.inodes path i howner hi).2 q).mp hq)
  locks d := (hst.locks d).trans (h.locks d)

theorem Owns.not_linking {path : ArchivePath} {held : Option String} {s : Archive}
    (howner : path.owner = some p) (h : Owns p path held s) : ¬ Linking p s := by
  rintro ⟨d, e, n, i, hn, hi, hblob⟩
  by_cases heq : ArchivePath.temporary d e n = path
  · rw [heq] at hi
    rw [← h.only i _ hi hblob] at howner
    cases howner
  · rw [h.others (.temporary d e n) (congrArg some hn) heq] at hi
    cases hi

theorem owns_family {path : ArchivePath} (howner : path.owner = some p) :
    LockFamily p (Owns p path) where
  stable _ _ _ hst h := h.rely howner hst
  locks _ _ h := h.locks
  relock _ _ _ _ h hfiles hlocks :=
    ⟨by rw [hfiles]; exact h.others, by rw [hfiles]; exact h.only, hlocks⟩
  free _ _ h := h.not_linking howner

/-- The process's file holds the publication of the digest. -/
structure Holds (sha256Of : Bytes → String) (size : String → Nat) (p : Nat) (path : ArchivePath)
    (d : String) (held : Option String) (s : Archive) : Prop where
  owns : Owns p path held s
  bytes : ∃ i n, s.files.at? path = some i ∧ s.files.inode? i = some n ∧
    Publishes sha256Of size d n.bytes

theorem holds_family {path : ArchivePath} {d : String} (howner : path.owner = some p) :
    LockFamily p (Holds sha256Of size p path d) where
  stable held s t hst h := by
    obtain ⟨i, n, hi, hn, hbytes⟩ := h.bytes
    refine ⟨h.owns.rely howner hst, i, n, (hst.names path howner).trans hi, ?_, hbytes⟩
    rw [(hst.inodes path i howner hi).1]
    exact hn
  locks _ _ h := h.owns.locks
  relock _ _ _ _ h hfiles hlocks :=
    ⟨(owns_family howner).relock _ _ _ _ h.owns hfiles hlocks, by rw [hfiles]; exact h.bytes⟩
  free _ _ h := h.owns.not_linking howner

section OwnFile

variable {path : ArchivePath} {held : Option String} (howner : path.owner = some p)

include howner

/-- Another process's name, or a blob's, never leads to the file. -/
theorem Owns.apart {s : Archive} {i : Nat} {r : ArchivePath} (h : Owns p path held s)
    (hi : s.files.at? path = some i) (hr : r.owner ≠ some p) : s.files.at? r ≠ some i := by
  intro hri
  rw [h.only i r hi hri] at hr
  exact hr howner

/-- The process may change its own file. -/
theorem Owns.keeps_setInode {s t : Archive} {i : Nat} {g : Inode → Inode}
    (hs : ArchiveInv sha256Of size s) (h : Owns p path held s) (hi : s.files.at? path = some i)
    (hlocks : t.locks = s.locks) (hat : ∀ r, t.files.at? r = s.files.at? r)
    (hinode : ∀ j, t.files.inode? j = if j = i then (s.files.inode? j).map g else s.files.inode? j) :
    Keeps sha256Of size p s t ∧ Owns p path held t := by
  constructor
  · refine MediaSync.Media.keeps_setInode hs hlocks hat hinode ?_ ?_
    · intro d e hblob
      exact (h.apart howner hi (by simp) hblob).elim
    · intro q r hne hr
      refine h.apart howner hi ?_
      rw [hr]
      exact fun heq => hne (Option.some.inj heq)
  · refine ⟨fun q hq hne => (hat q).trans (h.others q hq hne), fun j q hj hq => ?_,
      fun d => by rw [hlocks]; exact h.locks d⟩
    rw [hat] at hj hq
    exact h.only j q hj hq

theorem Owns.unlink_spec :
    ArchiveTriple sha256Of size p (Owns p path held) (ArchiveCall.make (.unlink path))
      (Framed (fun _ => True) (fun _ => False) (Owns p path held)) := by
  refine Triple.ask (fun s hs hstays r t hact => ?_)
  have h := hstays.here hs
  cases hact
  unfold Files.unlink
  cases hpath : s.files.at? path with
  | none => exact ⟨Keeps.refl hs, hstays.mono (fun _ _ h => ⟨trivial, h⟩)⟩
  | some i =>
    have howns : Owns p path held { s with files := s.files.unname path } := by
      refine ⟨fun q hq hne => ?_, fun j q hj => ?_, h.locks⟩
      · change (s.files.unname path).at? q = _
        rw [Files.at?_unname, if_neg hne]
        exact h.others q hq hne
      · change (s.files.unname path).at? path = _ at hj
        rw [Files.at?_unname, if_pos rfl] at hj
        cases hj
    refine ⟨keeps_unlink hs howner ?_ rfl (fun _ => Files.at?_unname) (fun _ => rfl),
      fun u hsu hu => ⟨trivial, (owns_family howner).stays howns u hsu hu⟩⟩
    intro q r j hne hr hj hpath'
    refine h.apart howner hpath' ?_ hj
    rw [hr]
    exact fun heq => hne (Option.some.inj heq)

theorem Owns.chmodSafe : ChmodSafe sha256Of size p (Owns p path held) path := by
  intro s writable hs hstays
  have h := hstays.here hs
  unfold Files.chmod
  cases hpath : s.files.at? path with
  | none => exact ⟨Keeps.refl hs, hstays⟩
  | some i =>
    obtain ⟨hkeeps, howns⟩ := h.keeps_setInode (t := { s with
        files := s.files.setInode i (fun n => { n with writable := writable }) }) howner hs hpath
      rfl (fun _ => rfl) (fun _ => Files.inode?_setInode _)
    exact ⟨hkeeps, (owns_family howner).stays howns⟩

theorem Holds.chmodSafe {d : String} :
    ChmodSafe sha256Of size p (Holds sha256Of size p path d held) path := by
  intro s writable hs hstays
  obtain ⟨h, i, n, hi, hn, hbytes⟩ := hstays.here hs
  unfold Files.chmod
  rw [show s.files.at? path = some i from hi]
  obtain ⟨hkeeps, howns⟩ := h.keeps_setInode (t := { s with
      files := s.files.setInode i (fun n => { n with writable := writable }) }) howner hs hi
    rfl (fun _ => rfl) (fun _ => Files.inode?_setInode _)
  refine ⟨hkeeps, (holds_family howner).stays ⟨howns, i, { n with writable := writable }, hi, ?_,
    hbytes⟩⟩
  change (s.files.setInode i _).inode? i = _
  rw [Files.inode?_setInode, if_pos rfl, hn]
  rfl

theorem safeUnlink_spec :
    ArchiveTriple sha256Of size p (Owns p path held) (safeUnlink path)
      (Framed (fun _ => True) (fun _ => True) (Owns p path held)) := by
  unfold safeUnlink
  refine Triple.framed_bind (F := fun _ => True) (E := fun _ => False)
    (exists?_spec (fun _ _ _ => trivial)) (fun present _ => ?_) (fun _ _ h => h.elim)
  refine Triple.ite (fun _ => ?_) (fun _ => Triple.pure (fun _ _ hA => ⟨trivial, hA⟩))
  refine Triple.framed_bind assertRegularFile_any (fun _ _ => ?_) (fun _ _ _ _ hA => ⟨trivial, hA⟩)
  refine Triple.framed_bind (Owns.unlink_spec howner) (fun removed _ => ?_) (fun _ _ h => h.elim)
  exact Triple.require (fun _ _ _ hA => ⟨trivial, hA⟩) (fun _ _ _ hA => ⟨trivial, hA⟩)

theorem discardTemporary_spec :
    ArchiveTriple sha256Of size p (Owns p path held) (discardTemporary path)
      (Framed (fun _ => True) (fun _ => True) (Owns p path held)) := by
  refine asMediaErrors_spec (E := fun _ => True) ?_ trivial trivial (fun _ _ _ _ => trivial)
  refine Triple.framed_bind assertRegularFile_any (fun before _ => ?_)
    (fun _ _ _ _ hA => ⟨trivial, hA⟩)
  refine Triple.ite (fun _ => ?_) (fun _ => safeUnlink_spec howner)
  refine Triple.framed_bind (chmod_spec (Owns.chmodSafe howner)) (fun changed _ => ?_)
    (fun _ _ h => h.elim)
  refine Triple.framed_bind (F := fun _ => True) (E := fun _ => True)
    (Triple.require (fun _ _ _ hA => ⟨trivial, hA⟩) (fun _ _ _ hA => ⟨trivial, hA⟩))
    (fun _ _ => ?_) (fun _ _ _ _ hA => ⟨trivial, hA⟩)
  refine Triple.framed_bind assertRegularFile_any (fun after _ => ?_)
    (fun _ _ _ _ hA => ⟨trivial, hA⟩)
  refine Triple.framed_bind (F := fun _ => True) (E := fun _ => True)
    (Triple.require (fun _ _ _ hA => ⟨trivial, hA⟩) (fun _ _ _ hA => ⟨trivial, hA⟩))
    (fun _ _ => ?_) (fun _ _ _ _ hA => ⟨trivial, hA⟩)
  exact safeUnlink_spec howner

theorem discardTemporaryBestEffort_spec :
    ArchiveTriple sha256Of size p (Owns p path held) (discardTemporaryBestEffort path)
      (Framed (fun _ => True) (fun _ => True) (Owns p path held)) := by
  refine Triple.framed_catching (discardTemporary_spec howner)
    (fun _ _ _ _ hA => ⟨trivial, hA⟩) (fun e _ => ?_)
  cases e with
  | media code => exact Triple.pure (fun _ _ hA => ⟨trivial, hA⟩)
  | pathSecurity => exact Triple.throw (fun _ _ hA => ⟨trivial, hA⟩)
  | os => exact Triple.throw (fun _ _ hA => ⟨trivial, hA⟩)
  | raised code => exact Triple.throw (fun _ _ hA => ⟨trivial, hA⟩)

theorem cleanupTemporaryAfterFailure_spec {destination : ArchivePath} :
    ArchiveTriple sha256Of size p (Owns p path held)
      (cleanupTemporaryAfterFailure path destination)
      (Framed (fun _ => True) (fun _ => True) (Owns p path held)) := by
  refine asMediaErrors_spec (E := fun _ => True) ?_ trivial trivial (fun _ _ _ _ => trivial)
  refine Triple.framed_bind assertRegularFile_any (fun details _ => ?_)
    (fun _ _ _ _ hA => ⟨trivial, hA⟩)
  refine Triple.ite (fun _ => discardTemporary_spec howner) (fun _ => ?_)
  refine Triple.ite (fun _ => Triple.throw (fun _ _ hA => ⟨trivial, hA⟩)) (fun _ => ?_)
  refine Triple.framed_bind (F := fun _ => True) (E := fun _ => False)
    (exists?_spec (fun _ _ _ => trivial)) (fun present _ => ?_) (fun _ _ h => h.elim)
  refine Triple.ite (fun _ => Triple.throw (fun _ _ hA => ⟨trivial, hA⟩)) (fun _ => ?_)
  refine Triple.framed_bind assertRegularFile_any (fun target _ => ?_)
    (fun _ _ _ _ hA => ⟨trivial, hA⟩)
  refine Triple.framed_bind (F := fun _ => True) (E := fun _ => True)
    (Triple.require (fun _ _ _ hA => ⟨trivial, hA⟩) (fun _ _ _ hA => ⟨trivial, hA⟩))
    (fun _ _ => ?_) (fun _ _ _ _ hA => ⟨trivial, hA⟩)
  refine Triple.framed_bind (Owns.unlink_spec howner) (fun removed _ => ?_) (fun _ _ h => h.elim)
  exact Triple.require (fun _ _ _ hA => ⟨trivial, hA⟩) (fun _ _ _ hA => ⟨trivial, hA⟩)

end OwnFile

end

end MediaSync.Media
