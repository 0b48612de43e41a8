import MediaSync.Media.ArchiveSafety

/-!
# Publications keep the discipline

A publication writes its own temporary, links it only after its bytes have been
verified and while the blob lock is held, and removes the temporary name before
it lets the lock go. Every operation ends without a lock.
-/

namespace MediaSync.Media

open Program

section

variable {sha256Of : Bytes → String} {size : String → Nat} {p : Nat}

section Temporary

variable {path : ArchivePath} (howner : path.owner = some p)

/-- The process's file, at an inode that its handle writes to. -/
structure Writes (p : Nat) (path : ArchivePath) (i : Nat) (s : Archive) : Prop where
  owns : Owns p path none s
  inode : s.files.at? path = some i

include howner

theorem Writes.stays {i : Nat} {s : Archive} (h : Writes p path i s) :
    ArchiveStays sha256Of size p (Writes p path i) s :=
  Stays.of_stable (fun _ _ hst h => ⟨h.owns.rely howner hst,
    (hst.names path howner).trans h.inode⟩) h

theorem create_spec :
    ArchiveTriple sha256Of size p (Idle p none) (ArchiveCall.make (.create path))
      (fun r s => match r with
        | .ok (some i) => Writes p path i s
        | .ok none => Idle p none s
        | .error _ => False) := by
  refine Triple.ask (fun s hs hstays r t hact => ?_)
  have h := hstays.here hs
  have hfree := h.names path howner
  simp only [archiveMachine, perform, Files.create] at hact
  rw [show s.files.at? path = none from hfree] at hact
  cases hact
  have hnew : ∀ r, s.files.at? r ≠ some s.files.inodes.length :=
    fun r hr => Nat.lt_irrefl _ (Files.at?_lt hr)
  have hat : ∀ r, ((s.files.grow ⟨[], true⟩).name path s.files.inodes.length
      (by simp [Files.grow])).at? r =
        if r = path then some s.files.inodes.length else s.files.at? r := fun _ => Files.at?_name
  refine ⟨keeps_create hs howner hfree hnew rfl hat (fun i hi => ?_), ?_⟩
  · change (s.files.grow ⟨[], true⟩).inode? i = _
    rw [Files.inode?_grow, if_neg hi]
  · refine Writes.stays howner ⟨⟨fun q hq hne => ?_, fun i q hi hq => ?_, h.locks⟩, ?_⟩
    · exact (hat q).trans ((if_neg hne).trans (h.names q hq))
    · have hi' := (hat path).symm.trans hi
      rw [if_pos rfl] at hi'
      cases hi'
      by_contra hne
      exact hnew q (((if_neg hne).symm.trans (hat q).symm).trans hq)
    · exact (hat path).trans (if_pos rfl)

theorem createRegularFile_spec :
    ArchiveTriple sha256Of size p (Idle p none) (createRegularFile path) (fun r s => match r with
      | .ok i => Writes p path i s
      | .error _ => Owns p path none s) := by
  unfold createRegularFile
  refine Triple.framed_bind confinedFile_spec (fun _ _ => ?_)
    (fun _ _ _ _ h => h.owns howner)
  refine Triple.bind (create_spec howner) (fun created => ?_) (fun _ _ _ h => h.elim)
  cases created with
  | none => exact Triple.throw (fun _ _ h => Idle.owns h howner)
  | some i =>
    refine Triple.framed_bind (F := fun _ => True) (E := fun _ => False)
      (triple_read (.links i) (fun _ => rfl) (fun _ _ _ => trivial)) (fun links _ => ?_)
      (fun _ _ h => h.elim)
    exact Triple.ite (fun _ => Triple.throw (fun _ _ h => h.owns))
      (fun _ => Triple.pure (fun _ _ h => h))

theorem write_spec {i : Nat} {chunk : Bytes} :
    ArchiveTriple sha256Of size p (Writes p path i) (ArchiveCall.make (.write i chunk))
      (fun _ s => Writes p path i s) := by
  refine Triple.ask (fun s hs hstays r t hact => ?_)
  obtain ⟨h, hi⟩ := hstays.here hs
  cases hact
  obtain ⟨hkeeps, howns⟩ := h.keeps_setInode (t := { s with
      files := s.files.append i chunk }) howner hs hi rfl (fun _ => rfl)
    (fun _ => Files.inode?_setInode _)
  exact ⟨hkeeps, Writes.stays howner ⟨howns, hi⟩⟩

theorem copySource_spec {i : Nat} {publication : Publication} :
    ArchiveTriple sha256Of size p (Writes p path i) (copySource i publication)
      (fun _ s => Writes p path i s) := by
  unfold copySource
  refine Triple.bind (Triple.forEach (fun _ _ => write_spec howner)) (fun _ => ?_)
    (fun _ _ _ h => h)
  cases publication.copyFailure with
  | none => exact Triple.pure (fun _ _ h => h)
  | some e => exact Triple.throw (fun _ _ h => h)

/-- Bytes found to be the presented ones stay so. -/
theorem requireTemporaryBytes_spec {i : Nat} {d : String} {sizeBytes : Int}
    (hsize : ∀ bytes : Bytes, sha256Of bytes = d → (bytes.length : Int) = sizeBytes →
      bytes.length = size d) :
    ArchiveTriple sha256Of size p (Writes p path i) (requireBytes sha256Of path d sizeBytes)
      (fun r s => match r with
        | .ok _ => Holds sha256Of size p path d none s
        | .error _ => Owns p path none s) := by
  -- the bytes are what they are when the program starts
  refine Triple.strengthen (A := fun s => ∃ n : Inode, Writes p path i s ∧
    s.files.inode? i = some n) ?_ (fun s _ h => ?_)
  · refine Triple.exists_stable (fun n s t hst h => ?_) (fun n => ?_)
    · refine ⟨⟨h.1.owns.rely howner hst, (hst.names path howner).trans h.1.inode⟩, ?_⟩
      rw [(hst.inodes path i howner h.1.inode).1]
      exact h.2
    · refine Triple.weaken (requireBytes_spec (F := fun bytes => bytes = n.bytes)
        (pinned_own howner) (fun s j m _ h hj hm => ?_)) (fun r s _ h => ?_)
      · rw [h.1.inode] at hj
        cases hj
        rw [h.2] at hm
        cases hm
        rfl
      · cases r with
        | error e => exact h.2.1.owns
        | ok _ =>
          obtain ⟨⟨bytes, rfl, hdigest, hlength⟩, hwrites, hn⟩ := h
          exact ⟨hwrites.owns, i, n, hwrites.inode, hn, hdigest, hsize _ hdigest hlength⟩
  · obtain ⟨n, hn⟩ := Files.inode?_of_at? h.inode
    exact ⟨n, h, hn⟩

end Temporary

/-- The process has linked its temporary to the blob whose lock it holds. -/
structure LinkedFile (p : Nat) (d e : String) (n : Nonce) (i : Nat) (s : Archive) : Prop where
  temporary : s.files.at? (.temporary d e n) = some i
  blob : s.files.at? (.blob d e) = some i
  only : ∀ q, s.files.at? q = some i → q = .temporary d e n ∨ q = .blob d e
  others : ∀ q, q.owner = some p → q ≠ .temporary d e n → s.files.at? q = none
  locks : ∀ d', s.locks d' = some p ↔ some d = some d'

section Window

variable {d e : String} {n : Nonce} (hn : n.process = p)

include hn

theorem LinkedFile.rely {i : Nat} {s t : Archive} (h : LinkedFile p d e n i s)
    (hst : ArchiveRely p s t) : LinkedFile p d e n i t := by
  have hnames := (hst.inodes (.temporary d e n) i (congrArg some hn) h.temporary).2
  exact ⟨(hnames _).mpr h.temporary, (hnames _).mpr h.blob, fun q hq => h.only q ((hnames q).mp hq),
    fun q hq hne => (hst.names q hq).trans (h.others q hq hne),
    fun d' => (hst.locks d').trans (h.locks d')⟩

theorem LinkedFile.stays {i : Nat} {s : Archive} (h : LinkedFile p d e n i s) :
    ArchiveStays sha256Of size p (LinkedFile p d e n i) s :=
  Stays.of_stable (fun _ _ hst h => h.rely hn hst) h

theorem linkBlob_spec :
    ArchiveTriple sha256Of size p (Holds sha256Of size p (.temporary d e n) d (some d))
      (linkBlob (.temporary d e n) (.blob d e)) (fun r s => match r with
        | .ok true => ∃ i, LinkedFile p d e n i s
        | .ok false => Owns p (.temporary d e n) (some d) s
        | .error _ => Owns p (.temporary d e n) (some d) s) := by
  have howner : (ArchivePath.temporary d e n).owner = some p := congrArg some hn
  unfold linkBlob
  refine Triple.bind (Q := fun r s => match r with
      | .ok .linked => ∃ i, LinkedFile p d e n i s
      | .ok _ => Owns p (.temporary d e n) (some d) s
      | .error _ => False) ?_ (fun reply => ?_) (fun _ _ _ h => h.elim)
  · refine Triple.ask (fun s hs hstays r t hact => ?_)
    obtain ⟨howns, i, m, hi, hm, hbytes⟩ := hstays.here hs
    simp only [archiveMachine, perform] at hact
    unfold Files.link at hact
    split at hact
    · cases hact
      exact ⟨Keeps.refl hs, (owns_family howner).stays howns⟩
    · rename_i j hj
      split at hact
      · cases hact
        exact ⟨Keeps.refl hs, (owns_family howner).stays howns⟩
      · rename_i hfree
        cases hact
        rw [hi] at hj
        cases hj
        have hat : ∀ r, (s.files.name (.blob d e) i (Files.at?_lt hi)).at? r =
            if r = .blob d e then some i else s.files.at? r := fun _ => Files.at?_name
        refine ⟨keeps_link hs hn ((howns.locks d).mpr rfl) (fun q hq => howns.only i q hi hq) hm
          hbytes hfree rfl hat (fun _ => rfl), ?_⟩
        refine (LinkedFile.stays hn ⟨?_, ?_, fun q hq => ?_, fun q hq hne => ?_, fun d' => ?_⟩).mono
          (fun _ _ h => ⟨i, h⟩)
        · exact (hat _).trans hi
        · exact (hat _).trans (if_pos rfl)
        · have hq' := (hat q).symm.trans hq
          split at hq'
          · rename_i heq
            exact .inr heq
          · exact .inl (howns.only i q hi hq')
        · refine (hat q).trans ?_
          rw [if_neg (by rintro rfl; cases hq)]
          exact howns.others q hq hne
        · exact howns.locks d'
  · cases reply with
    | linked => exact Triple.pure (fun _ _ h => h)
    | «exists» => exact Triple.pure (fun _ _ h => h)
    | missing => exact Triple.throw (fun _ _ h => h)

omit hn in
theorem LinkedFile.links {i : Nat} {s : Archive} (h : LinkedFile p d e n i s) :
    s.files.links i = 2 := by
  refine Files.links_two (p := .temporary d e n) (q := .blob d e) nofun (fun r => ⟨h.only r, ?_⟩)
  rintro (rfl | rfl)
  · exact h.temporary
  · exact h.blob

omit hn in
theorem LinkedFile.stat {i : Nat} {s : Archive} {q : ArchivePath} (h : LinkedFile p d e n i s)
    (hq : s.files.at? q = some i) : ∃ st, s.files.stat q = some st ∧ st.inode = i ∧ st.links = 2 := by
  obtain ⟨m, hm⟩ := Files.inode?_of_at? hq
  exact ⟨_, Files.stat_of_at? hq hm, rfl, h.links⟩

/-- Both names are seen with two links, so the temporary name goes. -/
theorem unlinkTemporary_spec {i : Nat} :
    ArchiveTriple sha256Of size p (LinkedFile p d e n i)
      (unlinkTemporary (.temporary d e n) (.blob d e))
      (fun _ s => Owns p (.temporary d e n) (some d) s) := by
  have howner : (ArchivePath.temporary d e n).owner = some p := congrArg some hn
  unfold unlinkTemporary
  refine Triple.framed_bind (E := fun _ => False)
    (triple_read (.lstat (.temporary d e n))
      (F := fun r => ∃ st, r = some st ∧ st.inode = i ∧ st.links = 2) (fun _ => rfl)
      (fun s _ h => h.stat h.temporary)) (fun details hdetails => ?_) (fun _ _ h => h.elim)
  refine Triple.framed_bind (E := fun _ => False)
    (triple_read (.lstat (.blob d e))
      (F := fun r => ∃ st, r = some st ∧ st.inode = i ∧ st.links = 2) (fun _ => rfl)
      (fun s _ h => h.stat h.blob)) (fun target htarget => ?_) (fun _ _ h => h.elim)
  obtain ⟨details, rfl, hinode, hlinks⟩ := hdetails
  obtain ⟨target, rfl, hinode', hlinks'⟩ := htarget
  refine Triple.ite (fun hbad => ?_) (fun _ => ?_)
  · rw [hinode, hinode', hlinks, hlinks'] at hbad
    simp at hbad
  · refine Triple.bind (Q := fun r s => r = .ok true ∧ Owns p (.temporary d e n) (some d) s) ?_
      (fun removed => ?_) (fun _ _ _ h => h.2)
    · refine Triple.ask (fun s hs hstays r t hact => ?_)
      have h := hstays.here hs
      simp only [archiveMachine, perform, Files.unlink] at hact
      rw [show s.files.at? (.temporary d e n) = some i from h.temporary] at hact
      cases hact
      have hat : ∀ r, (s.files.unname (.temporary d e n)).at? r =
          if r = .temporary d e n then none else s.files.at? r := fun _ => Files.at?_unname
      have howns : Owns p (.temporary d e n) (some d)
          { s with files := s.files.unname (.temporary d e n) } := by
        refine ⟨fun q hq hne => ?_, fun j q hj => ?_, h.locks⟩
        · exact (hat q).trans ((if_neg hne).trans (h.others q hq hne))
        · have hj' := (hat (.temporary d e n)).symm.trans hj
          rw [if_pos rfl] at hj'
          cases hj'
      refine ⟨keeps_unlink hs howner ?_ rfl hat (fun _ => rfl),
        fun u hsu hu => ⟨rfl, (owns_family howner).stays howns u hsu hu⟩⟩
      intro q r j hne hr hj hpath
      rw [h.temporary] at hpath
      cases hpath
      rcases h.only r hj with rfl | rfl
      · rw [howner] at hr
        exact hne (Option.some.inj hr).symm
      · cases hr
    · exact Triple.fact (fun _ => Triple.require (fun _ _ _ h => h) (fun _ _ _ h => h))

end Window

/-! ## The three operations -/

section Operations

variable {d e : String} {n : Nonce}

theorem commitTemporary_spec {publication : Publication} (hn : n.process = p)
    (hd : publication.sha256 = d) :
    ArchiveTriple sha256Of size p (Holds sha256Of size p (.temporary d e n) d (some d))
      (commitTemporary sha256Of publication (.temporary d e n) (.blob d e))
      (fun _ s => Owns p (.temporary d e n) (some d) s) := by
  have howner : (ArchivePath.temporary d e n).owner = some p := congrArg some hn
  have hholds : LockFamily p (Holds sha256Of size p (.temporary d e n) d) := holds_family howner
  have howns := owns_family howner
  have hcommit : ∀ (r : Except ArchiveError Unit) (A : Archive → Prop),
      ArchiveTriple sha256Of size p A (Prog.ofExcept r)
        (Framed (fun _ => True) (fun _ => True) A) := by
    intro r A
    refine Triple.done (fun _ _ hA => ?_)
    cases r with
    | ok _ => exact ⟨trivial, hA⟩
    | error _ => exact ⟨trivial, hA⟩
  subst hd
  unfold commitTemporary
  refine Triple.framed_bind (publishExistingLocked_spec (hholds.chmodSafe e)) (fun existing _ => ?_)
    (fun _ _ _ _ h => h.owns)
  cases existing with
  | some archived =>
    refine Triple.strengthen (A := Owns p (.temporary publication.sha256 e n)
      (some publication.sha256)) ?_ (fun _ _ h => h.owns)
    exact Triple.framed_bind (discardTemporaryBestEffort_spec howner)
      (fun _ _ => Triple.pure (fun _ _ h => h)) (fun _ _ _ _ h => h)
  | none =>
    refine Triple.framed_bind (hcommit _ _) (fun _ _ => ?_) (fun _ _ _ _ h => h.owns)
    refine Triple.bind (linkBlob_spec hn) (fun committed => ?_) (fun _ _ _ h => h)
    cases committed with
    | true =>
      refine Triple.bind (Q := fun _ s =>
        Owns p (.temporary publication.sha256 e n) (some publication.sha256) s)
        (Triple.exists_stable (fun i s t hst h => ?_) (fun i => unlinkTemporary_spec hn))
        (fun _ => ?_) (fun _ _ _ h => h)
      · exact h.rely hn hst
      · exact Triple.weaken (validateExistingLocked_spec (howns.chmodSafe e))
          (fun _ _ _ h => h.holds)
    | false =>
      refine Triple.framed_bind (validateExistingLocked_spec (howns.chmodSafe e)) (fun _ _ => ?_)
        (fun _ _ _ _ h => h)
      refine Triple.framed_bind (hcommit _ _) (fun _ _ => ?_) (fun _ _ _ _ h => h)
      exact Triple.framed_bind (discardTemporaryBestEffort_spec howner)
        (fun _ _ => Triple.pure (fun _ _ h => h)) (fun _ _ _ _ h => h)

/-- Whatever ends the copy, the temporary goes or stays the process's own. -/
theorem publishTemporary_spec {publication : Publication} {i : Nat} (hn : n.process = p)
    (hd : publication.sha256 = d)
    (hsize : ∀ bytes : Bytes, sha256Of bytes = d →
      (bytes.length : Int) = publication.sizeBytes → bytes.length = size d) :
    ArchiveTriple sha256Of size p (Writes p (.temporary d e n) i)
      (publishTemporary sha256Of publication i (.temporary d e n) (.blob d e))
      (fun _ s => Owns p (.temporary d e n) none s) := by
  have howner : (ArchivePath.temporary d e n).owner = some p := congrArg some hn
  unfold publishTemporary
  refine Triple.catching (Q := fun _ s => Owns p (.temporary d e n) none s) ?_
    (fun _ _ _ h => h) (fun err => ?_)
  · refine Triple.bind (copySource_spec howner) (fun _ => ?_) (fun _ _ _ h => h.owns)
    subst hd
    refine Triple.bind (requireTemporaryBytes_spec howner hsize) (fun _ => ?_) (fun _ _ _ h => h)
    refine Triple.framed_bind (makeReadOnly_spec (Holds.chmodSafe howner)) (fun _ _ => ?_)
      (fun _ _ _ _ h => h.owns)
    exact withBlobLock_spec (B := fun _ => Owns p (.temporary publication.sha256 e n))
      (holds_family howner) (fun _ => owns_family howner) (commitTemporary_spec hn rfl)
      (fun _ h => h.owns)
  · refine Triple.framed_bind (F := fun _ => True) (E := fun _ => True) ?_
      (fun _ _ => Triple.throw (fun _ _ h => h)) (fun _ _ _ _ h => h)
    refine Triple.framed_bind (F := fun _ => True) (E := fun _ => False)
      (exists?_spec (fun _ _ _ => trivial)) (fun present _ => ?_) (fun _ _ h => h.elim)
    exact Triple.ite (fun _ => cleanupTemporaryAfterFailure_spec howner)
      (fun _ => Triple.pure (fun _ _ h => ⟨trivial, h⟩))

theorem Idle.unlocked {s : Archive} (h : Idle p none s) : Unlocked p s := by
  intro d hd
  cases (h.locks d).mp hd

theorem Owns.unlocked {path : ArchivePath} {s : Archive} (h : Owns p path none s) :
    Unlocked p s := by
  intro d hd
  cases (h.locks d).mp hd

theorem asMediaErrors_unlocked {α : Type} {m : ArchiveProg α} {A : Archive → Prop}
    (hm : ArchiveTriple sha256Of size p A m (fun _ s => Unlocked p s)) :
    ArchiveTriple sha256Of size p A (asMediaErrors m) (fun _ s => Unlocked p s) := by
  refine Triple.catching hm (fun _ _ _ h => h) (fun e => ?_)
  cases e with
  | pathSecurity => exact Triple.throw (fun _ _ h => h)
  | os => exact Triple.throw (fun _ _ h => h)
  | media code => exact Triple.throw (fun _ _ h => h)
  | raised code => exact Triple.throw (fun _ _ h => h)

theorem urandom_spec {A : Archive → Prop} :
    ArchiveTriple sha256Of size p A (ArchiveCall.make .urandom)
      (Framed (fun n => n.process = p) (fun _ => False) A) := by
  refine Triple.ask (fun s hs hstays r t hact => ?_)
  cases hact
  have hrely : ∀ q, ArchiveRely q s { s with draws := s.draws + 1 } := fun q =>
    ⟨fun _ _ => rfl, fun _ _ _ _ => ⟨rfl, fun _ => Iff.rfl⟩, fun _ _ _ m hi hm => ⟨hi, m, hm, rfl⟩,
      fun _ => Iff.rfl⟩
  refine ⟨⟨⟨hs.content, hs.apart⟩, fun q _ => hrely q⟩, ?_⟩
  exact (hstays.later (hrely p)).mono (fun _ _ h => ⟨rfl, h⟩)

theorem canonicalBlobPath_ok {presented : Presented} {extension : String}
    (h : canonicalBlobPath presented = .ok extension) :
    ∃ e, presented.path = .blob presented.sha256 e := by
  unfold canonicalBlobPath at h
  split at h
  · cases h
  · cases hpath : presented.path with
    | blob sha256 e =>
      rw [hpath] at h
      dsimp only at h
      split at h
      · rename_i hvalid
        exact ⟨e, by rw [hvalid.1]⟩
      · cases h
    | temporary _ _ _ =>
      rw [hpath] at h
      cases h
    | quarantined _ _ _ =>
      rw [hpath] at h
      cases h

/-- The publications whose verified bytes have the size of their digest. -/
def Publication.Agrees (sha256Of : Bytes → String) (size : String → Nat)
    (publication : Publication) : Prop :=
  ∀ source, publication.hashed = .ok source → sha256Of source = publication.sha256 →
    (source.length : Int) = publication.sizeBytes → source.length = size publication.sha256

theorem publish_spec {publication : Publication} (hagree : publication.Agrees sha256Of size) :
    ArchiveTriple sha256Of size p (Idle p none) (publish sha256Of publication)
      (fun _ s => Unlocked p s) := by
  unfold publish
  refine Triple.ite (fun _ => Triple.throw (fun _ _ h => h.unlocked)) (fun _ => ?_)
  refine Triple.framed_bind (F := fun source => publication.hashed = .ok source)
    (E := fun _ => True)
    (asMediaErrors_spec (E := fun _ => True) (Triple.done (fun _ _ h => ?_)) trivial trivial
      (fun _ _ _ _ => trivial)) (fun source hsource => ?_) (fun _ _ _ _ h => h.unlocked)
  · cases publication.hashed with
    | ok source => exact ⟨rfl, h⟩
    | error e => exact ⟨trivial, h⟩
  · refine Triple.ite (fun _ => Triple.throw (fun _ _ h => h.unlocked)) (fun hverified => ?_)
    rw [not_or, not_not, not_not] at hverified
    refine asMediaErrors_unlocked ?_
    refine Triple.framed_bind confinedFile_spec (fun _ _ => ?_) (fun _ _ _ _ h => h.unlocked)
    refine Triple.bind (withBlobLock_spec (B := fun _ => Idle p) idle_family
      (fun _ => idle_family) (Triple.weaken
        (publishExistingLocked_spec (idle_family.chmodSafe publication.extension))
        (fun _ _ _ h => h.holds)) (fun _ h => h)) (fun existing => ?_) (fun _ _ _ h => h.unlocked)
    cases existing with
    | some archived => exact Triple.pure (fun _ _ h => h.unlocked)
    | none =>
      refine Triple.framed_bind urandom_spec (fun n hn => ?_)
        (fun _ _ h => h.elim)
      refine Triple.bind (createRegularFile_spec (congrArg some hn)) (fun i => ?_)
        (fun _ _ _ h => h.unlocked)
      refine Triple.weaken (publishTemporary_spec hn rfl (fun bytes hdigest hlength => ?_))
        (fun _ _ _ h => h.unlocked)
      have hsize := hagree source hsource hverified.1 hverified.2
      have heq : (bytes.length : Int) = (source.length : Int) := hlength.trans hverified.2.symm
      omega

theorem validateExisting_spec {presented : Presented} :
    ArchiveTriple sha256Of size p (Idle p none) (validateExisting sha256Of presented)
      (fun _ s => Unlocked p s) := by
  unfold validateExisting
  refine Triple.framed_bind (F := fun _ => ∃ e, presented.path = .blob presented.sha256 e)
    (E := fun _ => True) (Triple.done (fun _ _ h => ?_)) (fun _ hpath => ?_)
    (fun _ _ _ _ h => h.unlocked)
  · cases hcanonical : canonicalBlobPath presented with
    | error e => exact ⟨trivial, h⟩
    | ok e => exact ⟨canonicalBlobPath_ok hcanonical, h⟩
  · obtain ⟨e, hpath⟩ := hpath
    refine Triple.catching (Q := fun _ s => Idle p none s) (withBlobLock_spec
      (B := fun _ => Idle p) idle_family (fun _ => idle_family) ?_ (fun _ h => h))
      (fun _ _ _ h => h.unlocked) (fun err => ?_)
    · unfold revalidateLocked
      rw [hpath]
      refine Triple.framed_bind (F := fun _ => True) (E := fun _ => False)
        (exists?_spec (fun _ _ _ => trivial)) (fun present _ => ?_) (fun _ _ h => h.elim)
      exact Triple.ite
        (fun _ => Triple.weaken (validateExistingLocked_spec (idle_family.chmodSafe e))
          (fun _ _ _ h => h.holds))
        (fun _ => Triple.throw (fun _ _ h => h))
    · refine Triple.ite (fun _ => ?_) (fun _ => Triple.throw (fun _ _ h => h.unlocked))
      exact Triple.framed_bind (F := fun _ => True) (E := fun _ => False)
        (exists?_spec (fun _ _ _ => trivial))
        (fun _ _ => Triple.throw (fun _ _ h => h.unlocked)) (fun _ _ h => h.elim)

/-- The path check fails, or the size presented is the one of the digest. -/
def Presented.Agrees (size : String → Nat) (presented : Presented) : Prop :=
  ∀ extension, canonicalBlobPath presented = .ok extension →
    presented.sizeBytes = size presented.sha256

/-- A blob of the size that is presented is never moved away. -/
theorem quarantineInvalid_spec {presented : Presented} (hagree : presented.Agrees size) :
    ArchiveTriple sha256Of size p (Idle p none) (quarantineInvalid sha256Of presented)
      (fun _ s => Unlocked p s) := by
  unfold quarantineInvalid
  refine Triple.framed_bind
    (F := fun extension => canonicalBlobPath presented = .ok extension)
    (E := fun _ => True) (Triple.done (fun _ _ h => ?_)) (fun extension hcanonical => ?_)
    (fun _ _ _ _ h => h.unlocked)
  · cases hcanonical : canonicalBlobPath presented with
    | error e => exact ⟨trivial, h⟩
    | ok e => exact ⟨rfl, h⟩
  · have hsize := hagree extension hcanonical
    obtain ⟨e, hpath⟩ := canonicalBlobPath_ok hcanonical
    refine asMediaErrors_unlocked (Triple.weaken (withBlobLock_spec
      (B := fun _ => Idle p) idle_family (fun _ => idle_family) ?_ (fun _ h => h))
      (fun _ _ _ h => h.unlocked))
    unfold quarantineInvalidLocked isValidLocked
    rw [hpath]
    refine Triple.framed_bind (F := fun _ => True) (E := fun _ => False)
      (exists?_spec (fun _ _ _ => trivial)) (fun present _ => ?_) (fun _ _ h => h.elim)
    refine Triple.ite (fun _ => ?_) (fun _ => Triple.throw (fun _ _ h => h))
    refine Triple.framed_bind (F := fun valid => valid = true) (E := fun _ => True)
      (Triple.framed_catching (F := fun valid => valid = true)
        (E := fun err => err ≠ .media .archiveBlobInvalid)
        (Triple.framed_bind (validateExistingLocked_spec (idle_family.chmodSafe e))
          (fun _ _ => Triple.pure (fun _ _ h => ⟨rfl, h⟩)) (fun _ _ h _ hA => ⟨h hsize, hA⟩))
        (fun _ _ h _ hA => ⟨h, hA⟩) (fun err herr => ?_)) (fun valid hvalid => ?_)
      (fun _ _ _ _ h => h)
    · exact Triple.ite (fun heq => (herr heq).elim)
        (fun _ => Triple.throw (fun _ _ h => ⟨trivial, h⟩))
    · exact Triple.ite (fun _ => Triple.pure (fun _ _ h => h)) (fun hnot => (hnot hvalid).elim)

/-- The calls of the archive whose sizes agree with the publications: a
quarantine presents the size of the digest, a publication has it. -/
def Operation.Agrees (sha256Of : Bytes → String) (size : String → Nat) : Operation → Prop
  | .publish publication => publication.Agrees sha256Of size
  | .validate _ => True
  | .quarantine presented => presented.Agrees size

theorem program_safe {op : Operation} (hagree : op.Agrees sha256Of size) {s : Archive}
    (hs : ArchiveInv sha256Of size s) (hfresh : Untouched p s) :
    Safe (archiveDiscipline sha256Of size) p (fun _ s => Unlocked p s) (op.program sha256Of) s := by
  have hidle : Idle p none s :=
    ⟨hfresh.names, fun d => ⟨fun hd => (hfresh.locks d hd).elim, nofun⟩⟩
  have hstays : ArchiveStays sha256Of size p (Idle p none) s := idle_family.stays hidle
  cases op with
  | publish publication =>
    exact Triple.bind (publish_spec hagree) (fun _ => Triple.pure (fun _ _ h => h))
      (fun _ _ _ h => h) s hs hstays
  | validate presented =>
    exact Triple.bind validateExisting_spec (fun _ => Triple.pure (fun _ _ h => h))
      (fun _ _ _ h => h) s hs hstays
  | quarantine presented =>
    exact Triple.bind (quarantineInvalid_spec hagree) (fun _ => Triple.pure (fun _ _ h => h))
      (fun _ _ _ h => h) s hs hstays

end Operations

end

end MediaSync.Media
