import MediaSync.Media.ArchivePublication

/-!
# Crash safety of the archive

After any history of archive processes that die outside the link window, blobs
hold what their names say, no blob has been touched, and once the processes
have come to rest a publication of verified bytes succeeds and so does the
revalidation after it. A death inside the window leaves a blob with two names,
which every later publication and revalidation refuses.
-/

namespace MediaSync.Media

open Program Transition

/-! ## Operations that run alone -/

section Alone

variable {sha256Of : Bytes → String} {size : String → Nat} {p : Nat}

/-- The path has one inode and the inode one name. -/
structure Sole (f : Files ArchivePath) (path : ArchivePath) (i : Nat) (n : Inode) : Prop where
  at? : f.at? path = some i
  only : ∀ q, f.at? q = some i → q = path
  inode : f.inode? i = some n

theorem Sole.links {f : Files ArchivePath} {path : ArchivePath} {i : Nat} {n : Inode}
    (h : Sole f path i n) : f.links i = 1 := by
  refine Files.links_one (p := path) (fun q => ⟨h.only q, ?_⟩)
  rintro rfl
  exact h.at?

theorem Sole.stat {f : Files ArchivePath} {path : ArchivePath} {i : Nat} {n : Inode}
    (h : Sole f path i n) : f.stat path = some ⟨i, 1, n.bytes.length, n.writable⟩ := by
  rw [Files.stat_of_at? h.at? h.inode, h.links]

variable {s t : Archive} {path : ArchivePath} {i : Nat} {n : Inode} {α β : Type}

theorem run_assertRegularFile {single : Bool} {st : Stat} (h : s.files.stat path = some st)
    (hlinks : st.links = 1) :
    run (perform p) (assertRegularFile path single) s = (.ok st, s) := by
  unfold assertRegularFile
  have hstat : run (perform p) (ArchiveCall.make (.lstat path)) s = (.ok (some st), s) := by
    rw [← h]
    rfl
  rw [run_bind_ok _ hstat]
  simp [hlinks]

theorem run_exists? : run (perform p) (exists? path) s = (.ok (s.files.stat path).isSome, s) := rfl

theorem run_confinedFile_absent (h : s.files.at? path = none) :
    run (perform p) (confinedFile path) s = (.ok (), s) := by
  unfold confinedFile
  rw [run_bind_ok _ run_exists?, Files.stat_none.mpr h]
  rfl

theorem run_confinedFile_sole (h : Sole s.files path i n) :
    run (perform p) (confinedFile path) s = (.ok (), s) := by
  unfold confinedFile
  rw [run_bind_ok _ run_exists?, h.stat]
  exact run_bind_ok _ (run_assertRegularFile h.stat rfl)

theorem run_asMediaErrors {m : ArchiveProg α} {a : α} (h : run (perform p) m s = (.ok a, t)) :
    run (perform p) (asMediaErrors m) s = (.ok a, t) :=
  run_catching_ok _ h

theorem run_hashFile (h : Sole s.files path i n) :
    run (perform p) (hashFile sha256Of path) s = (.ok (sha256Of n.bytes, n.bytes.length), s) := by
  refine run_asMediaErrors ?_
  have hopen : run (perform p) (openRegularReadFile path) s = (.ok i, s) := by
    unfold openRegularReadFile
    rw [run_bind_ok _ (run_assertRegularFile h.stat rfl)]
    have hat : run (perform p) (ArchiveCall.make (.openRead path)) s = (.ok (some i), s) := by
      rw [← h.at?]
      rfl
    rw [run_bind_ok _ hat]
    have hlinks : run (perform p) (ArchiveCall.make (.links i)) s = (.ok 1, s) := by
      rw [← h.links]
      rfl
    rw [run_bind_ok _ hlinks]
    rfl
  have hread : run (perform p) (ArchiveCall.make (.read i)) s = (.ok n.bytes, s) := by
    change ((.ok (((s.files.inode? i).map Inode.bytes).getD []), s) :
      Except ArchiveError Bytes × Archive) = _
    rw [h.inode]
    rfl
  rw [run_bind_ok _ (run_assertRegularFile h.stat rfl), run_bind_ok _ hopen, run_bind_ok _ hread,
    run_bind_ok _ (run_assertRegularFile h.stat rfl)]
  simp

theorem run_requireBytes {sizeBytes : Int} (h : Sole s.files path i n)
    (hsize : (n.bytes.length : Int) = sizeBytes) :
    run (perform p) (requireBytes sha256Of path (sha256Of n.bytes) sizeBytes) s =
      (.ok n.bytes.length, s) := by
  unfold requireBytes
  rw [run_bind_ok _ (run_hashFile h)]
  simp [hsize]

/-- The state after a `chmod` of the inode. -/
def modeSet (s : Archive) (i : Nat) (writable : Bool) : Archive :=
  { s with files := s.files.setInode i (fun n => { n with writable := writable }) }

theorem Sole.modeSet (h : Sole s.files path i n) (writable : Bool) :
    Sole (modeSet s i writable).files path i { n with writable := writable } where
  at? := h.at?
  only := h.only
  inode := by
    change (s.files.setInode i _).inode? i = _
    rw [Files.inode?_setInode, if_pos rfl, h.inode]
    rfl

theorem run_chmod (h : s.files.at? path = some i) (writable : Bool) :
    run (perform p) (ArchiveCall.make (.chmod path writable)) s =
      (.ok true, modeSet s i writable) := by
  change ((.ok (s.files.chmod path writable).1,
    { s with files := (s.files.chmod path writable).2 }) : Except ArchiveError Bool × Archive) = _
  unfold Files.chmod
  rw [h]
  rfl

theorem run_makeReadOnly (h : Sole s.files path i n) :
    run (perform p) (makeReadOnly path) s = (.ok (), modeSet s i false) := by
  unfold makeReadOnly
  have hpair : run (perform p) (asMediaErrors (do
      let before ← assertRegularFile path true
      let changed ← ArchiveCall.make (.chmod path false)
      Prog.require changed .os
      let after ← assertRegularFile path true
      pure (before, after))) s =
        (.ok (⟨i, 1, n.bytes.length, n.writable⟩, ⟨i, 1, n.bytes.length, false⟩),
          modeSet s i false) := by
    refine run_asMediaErrors ?_
    rw [run_bind_ok _ (run_assertRegularFile h.stat rfl), run_bind_ok _ (run_chmod h.at? false)]
    exact run_bind_ok _ (run_assertRegularFile (h.modeSet false).stat rfl)
  rw [run_bind_ok _ hpair]
  simp

/-- Validation of a blob with its own bytes succeeds; at most its mode changes. -/
theorem run_validateExistingLocked (sha256Of : Bytes → String) (p : Nat) {sizeBytes : Int} (h : Sole s.files path i n)
    (hsize : (n.bytes.length : Int) = sizeBytes) :
    ∃ m t, run (perform p)
        (validateExistingLocked sha256Of path (sha256Of n.bytes) sizeBytes) s =
          (.ok ⟨path, sha256Of n.bytes, n.bytes.length⟩, t) ∧
      t.locks = s.locks ∧ Sole t.files path i m ∧ m.bytes = n.bytes := by
  unfold validateExistingLocked
  have hdetails : run (perform p) (asMediaErrors (do
      let details ← assertRegularFile path false
      awaitSingleLink path 100 details)) s =
        (.ok ⟨i, 1, n.bytes.length, n.writable⟩, s) :=
    run_asMediaErrors (run_bind_ok _ (run_assertRegularFile h.stat rfl))
  rw [run_bind_ok _ hdetails]
  simp only [hsize, ne_eq, not_true_eq_false, if_false]
  rw [run_bind_ok _ (run_requireBytes h hsize)]
  cases hw : n.writable with
  | false => exact ⟨n, s, rfl, rfl, h, rfl⟩
  | true =>
    have h' := h.modeSet false
    refine ⟨_, modeSet s i false, ?_, rfl, h', rfl⟩
    simp only [if_true]
    rw [run_bind_ok _ (run_makeReadOnly h)]
    exact run_bind_ok _ (run_requireBytes (n := { n with writable := false }) h' hsize)

def locked (s : Archive) (p : Nat) (d : String) : Archive :=
  { s with locks := fun d' => if d' = d then some p else s.locks d' }

def unlocked (s : Archive) (d : String) : Archive :=
  { s with locks := fun d' => if d' = d then none else s.locks d' }

theorem run_withBlobLock {d : String} {polls : Nat} {body : ArchiveProg α}
    {r : Except ArchiveError α} (hfree : s.locks d = none)
    (hbody : run (perform p) body (locked s p d) = (r, t)) :
    run (perform p) (withBlobLock d polls body) s = (r, unlocked t d) := by
  unfold withBlobLock
  have hlock : run (perform p) (ArchiveCall.make (.tryLock d)) s = (.ok true, locked s p d) := by
    change run (perform p) (Prog.call (.tryLock d) _) s = _
    rw [run_call]
    simp only [perform, hfree]
    rfl
  have hblob : run (perform p) (blobLock d polls) s = (.ok (), locked s p d) := by
    cases polls with
    | zero => exact run_bind_ok _ hlock
    | succ polls => exact run_bind_ok _ hlock
  rw [run_bind_ok _ hblob]
  exact run_ensuring_ok _ hbody rfl

theorem unlocked_locks {d : String} (hs : ∀ d', s.locks d' = none)
    (ht : t.locks = (locked s p d).locks) (d' : String) : (unlocked t d).locks d' = none := by
  simp only [unlocked, ht, locked]
  split
  · rfl
  · exact hs d'

/-- A publication of bytes that are what it presents. -/
structure Publication.Verified (sha256Of : Bytes → String) (publication : Publication) (source : Bytes) :
    Prop where
  digest : validDigest publication.sha256 = true
  extension : validExtension publication.extension = true
  hashed : publication.hashed = .ok source
  sha256 : sha256Of source = publication.sha256
  length : (source.length : Int) = publication.sizeBytes
  copied : publication.copied.flatten = source
  copyFailure : publication.copyFailure = none
  beforeCommit : publication.beforeCommit = .none

/-- The blob of the publication is there, under one name. -/
def Archived (s : Archive) (path : ArchivePath) (source : Bytes) : Prop :=
  ∃ i n, Sole s.files path i n ∧ n.bytes = source

theorem run_publishExistingLocked_present (sha256Of : Bytes → String) (p : Nat) {sizeBytes : Int} (h : Sole s.files path i n)
    (hsize : (n.bytes.length : Int) = sizeBytes) :
    ∃ m t, run (perform p)
        (publishExistingLocked sha256Of path (sha256Of n.bytes) sizeBytes .none) s =
          (.ok (some ⟨path, sha256Of n.bytes, n.bytes.length⟩), t) ∧
      t.locks = s.locks ∧ Sole t.files path i m ∧ m.bytes = n.bytes := by
  obtain ⟨m, t, hrun, hlocks, hsole, hbytes⟩ :=
    run_validateExistingLocked sha256Of p h hsize
  refine ⟨m, t, ?_, hlocks, hsole, hbytes⟩
  unfold publishExistingLocked
  rw [run_bind_ok _ run_exists?, h.stat]
  simp only [Option.isSome_some, if_true]
  have hfirst : run (perform p) (Prog.ofExcept BeforeCommit.none.first) s = (.ok (), s) := rfl
  rw [run_bind_ok _ hfirst, run_bind_ok _ hrun]
  rfl

theorem run_publishExistingLocked_absent {d : String} {sizeBytes : Int}
    {beforeCommit : BeforeCommit} (h : s.files.at? path = none) :
    run (perform p) (publishExistingLocked sha256Of path d sizeBytes beforeCommit) s =
      (.ok none, s) := by
  unfold publishExistingLocked
  rw [run_bind_ok _ run_exists?, Files.stat_none.mpr h]
  rfl

theorem run_create (h : s.files.at? path = none) :
    ∃ j t, run (perform p) (ArchiveCall.make (.create path)) s = (.ok (some j), t) ∧
      t.locks = s.locks ∧ Sole t.files path j ⟨[], true⟩ ∧
      ∀ q, q ≠ path → t.files.at? q = s.files.at? q := by
  refine ⟨s.files.inodes.length, { s with files := (s.files.create path).2 }, ?_, rfl,
    ⟨?_, fun q hq => ?_, ?_⟩, fun q hq => ?_⟩
  · change ((.ok (s.files.create path).1, { s with files := (s.files.create path).2 }) :
      Except ArchiveError (Option Nat) × Archive) = _
    rw [Files.create_free h]
  · exact (Files.at?_create h).trans (if_pos rfl)
  · by_contra hne
    have hq' := (Files.at?_create h).symm.trans hq
    rw [if_neg hne] at hq'
    exact Nat.lt_irrefl _ (Files.at?_lt hq')
  · exact (Files.inode?_create h).trans (if_pos rfl)
  · exact (Files.at?_create h).trans (if_neg hq)

theorem run_createRegularFile (h : s.files.at? path = none) :
    ∃ j t, run (perform p) (createRegularFile path) s = (.ok j, t) ∧ t.locks = s.locks ∧
      Sole t.files path j ⟨[], true⟩ ∧ ∀ q, q ≠ path → t.files.at? q = s.files.at? q := by
  obtain ⟨j, t, hcreate, hlocks, hsole, hnames⟩ := run_create (p := p) h
  refine ⟨j, t, ?_, hlocks, hsole, hnames⟩
  unfold createRegularFile
  rw [run_bind_ok _ (run_confinedFile_absent h), run_bind_ok _ hcreate]
  have hlinks : run (perform p) (ArchiveCall.make (.links j)) t = (.ok 1, t) := by
    rw [← hsole.links]
    rfl
  dsimp only
  rw [run_bind_ok _ hlinks]
  rfl

theorem run_write (h : Sole s.files path i n) (chunk : Bytes) :
    ∃ t, run (perform p) (ArchiveCall.make (.write i chunk)) s = (.ok (), t) ∧
      t.locks = s.locks ∧ Sole t.files path i { n with bytes := n.bytes ++ chunk } ∧
      ∀ q, t.files.at? q = s.files.at? q := by
  refine ⟨{ s with files := s.files.append i chunk }, rfl, rfl, ⟨h.at?, h.only, ?_⟩,
    fun _ => rfl⟩
  change (s.files.setInode i _).inode? i = _
  rw [Files.inode?_setInode, if_pos rfl, h.inode]
  rfl

theorem run_copyChunks (chunks : List Bytes) (h : Sole s.files path i n) :
    ∃ t, run (perform p) (Prog.forEach (fun chunk => ArchiveCall.make (.write i chunk)) chunks) s =
        (.ok (), t) ∧
      t.locks = s.locks ∧ Sole t.files path i { n with bytes := n.bytes ++ chunks.flatten } ∧
      ∀ q, t.files.at? q = s.files.at? q := by
  induction chunks generalizing s n with
  | nil => exact ⟨s, rfl, rfl, by simpa using h, fun _ => rfl⟩
  | cons chunk chunks ih =>
    obtain ⟨u, hwrite, hlocks, hsole, hnames⟩ := run_write (p := p) h chunk
    obtain ⟨t, hrest, hlocks', hsole', hnames'⟩ := ih hsole
    refine ⟨t, ?_, hlocks'.trans hlocks, by simpa using hsole',
      fun q => (hnames' q).trans (hnames q)⟩
    exact (run_bind_ok _ hwrite).trans hrest

theorem run_link {target : ArchivePath} (h : s.files.at? path = some i)
    (hfree : s.files.at? target = none) :
    ∃ f, run (perform p) (ArchiveCall.make (.link path target)) s =
        (.ok .linked, { s with files := f }) ∧
      (∀ r, f.at? r = if r = target then some i else s.files.at? r) ∧
      ∀ j, f.inode? j = s.files.inode? j := by
  refine ⟨s.files.name target i (Files.at?_lt h), ?_, fun _ => Files.at?_name, fun _ => rfl⟩
  change ((.ok (s.files.link path target).1, { s with files := (s.files.link path target).2 }) :
    Except ArchiveError Files.LinkReply × Archive) = _
  unfold Files.link
  split
  · rename_i hnone
    rw [h] at hnone
    cases hnone
  · rename_i j hj
    have hj' := h.symm.trans hj
    cases hj'
    rw [hfree]

theorem run_unlink (h : s.files.at? path = some i) :
    ∃ f, run (perform p) (ArchiveCall.make (.unlink path)) s = (.ok true, { s with files := f }) ∧
      (∀ r, f.at? r = if r = path then none else s.files.at? r) ∧
      ∀ j, f.inode? j = s.files.inode? j := by
  refine ⟨s.files.unname path, ?_, fun _ => Files.at?_unname, fun _ => rfl⟩
  change ((.ok (s.files.unlink path).1, { s with files := (s.files.unlink path).2 }) :
    Except ArchiveError Bool × Archive) = _
  unfold Files.unlink
  rw [h]

theorem run_lstat {st : Stat} (h : s.files.stat path = some st) :
    run (perform p) (ArchiveCall.make (.lstat path)) s = (.ok (some st), s) := by
  rw [← h]
  rfl

/-- The link of a sole temporary to a free name, and the removal of the temporary. -/
theorem run_linkAndUnlink {target : ArchivePath} (h : Sole s.files path i n)
    (hfree : s.files.at? target = none) :
    ∃ t u, run (perform p) (linkBlob path target) s = (.ok true, t) ∧
      run (perform p) (unlinkTemporary path target) t = (.ok (), u) ∧
      u.locks = s.locks ∧ Sole u.files target i n := by
  have hne : target ≠ path := by
    rintro rfl
    rw [h.at?] at hfree
    cases hfree
  obtain ⟨f, hlink, hat, hinode⟩ := run_link (p := p) h.at? hfree
  have hpath : f.at? path = some i := (hat path).trans ((if_neg (Ne.symm hne)).trans h.at?)
  have htarget : f.at? target = some i := (hat target).trans (if_pos rfl)
  have hlinks : f.links i = 2 := by
    refine Files.links_two (p := path) (q := target) (Ne.symm hne) (fun r => ⟨fun hr => ?_, ?_⟩)
    · rw [hat] at hr
      split at hr
      · rename_i heq
        exact .inr heq
      · exact .inl (h.only r hr)
    · rintro (rfl | rfl)
      · exact hpath
      · exact htarget
  have hstat : ∀ q, f.at? q = some i → f.stat q = some ⟨i, 2, n.bytes.length, n.writable⟩ := by
    intro q hq
    rw [Files.stat_of_at? hq ((hinode i).trans h.inode), hlinks]
  obtain ⟨g, hunlink, hat', hinode'⟩ := run_unlink (p := p) (s := { s with files := f }) hpath
  refine ⟨{ s with files := f }, { s with files := g }, ?_, ?_, rfl, ?_, fun q hq => ?_, ?_⟩
  · unfold linkBlob
    rw [run_bind_ok _ hlink]
    rfl
  · unfold unlinkTemporary
    rw [run_bind_ok _ (run_lstat (hstat path hpath)),
      run_bind_ok _ (run_lstat (hstat target htarget))]
    simp only [ne_eq, not_true_eq_false, or_self, if_false]
    rw [run_bind_ok _ hunlink]
    rfl
  · exact (hat' target).trans ((if_neg hne).trans htarget)
  · have hq' := (hat' q).symm.trans hq
    split at hq'
    · cases hq'
    · rename_i hqp
      have hq'' := (hat q).symm.trans hq'
      split at hq''
      · rename_i heq
        exact heq
      · exact (hqp (h.only q hq'')).elim
  · exact (hinode' i).trans ((hinode i).trans h.inode)

variable {publication : Publication} {source : Bytes}

/-- The temporary of verified bytes becomes the blob. -/
theorem run_publishTemporary {temporary destination : ArchivePath}
    (hverified : publication.Verified sha256Of source) (hlocks : ∀ d, s.locks d = none)
    (h : Sole s.files temporary i ⟨[], true⟩) (hfree : s.files.at? destination = none) :
    ∃ t, run (perform p) (publishTemporary sha256Of publication i temporary destination) s =
        (.ok ⟨destination, publication.sha256, source.length⟩, t) ∧
      (∀ d, t.locks d = none) ∧ Archived t destination source := by
  obtain ⟨u, hcopy, hulocks, husole, hunames⟩ := run_copyChunks (p := p) publication.copied h
  rw [hverified.copied, List.nil_append] at husole
  have hreadOnly := husole.modeSet false
  have hdestination : (modeSet u i false).files.at? destination = none :=
    (hunames destination).trans hfree
  obtain ⟨v, w, hlink, hunlink, hwlocks, hwsole⟩ := run_linkAndUnlink (p := p)
    (s := locked (modeSet u i false) p publication.sha256) hreadOnly hdestination
  obtain ⟨m, x, hvalid, hxlocks, hxsole, hxbytes⟩ := run_validateExistingLocked
    sha256Of p hwsole hverified.length
  have hlocked : ∀ d, (modeSet u i false).locks d = none := by
    intro d
    change u.locks d = none
    rw [hulocks]
    exact hlocks d
  have hcommit : run (perform p) (commitTemporary sha256Of publication temporary destination)
      (locked (modeSet u i false) p publication.sha256) =
        (.ok ⟨destination, publication.sha256, source.length⟩, x) := by
    unfold commitTemporary
    rw [run_bind_ok _ (run_publishExistingLocked_absent
      (s := locked (modeSet u i false) p publication.sha256) hdestination)]
    have hfirst : run (perform p) (Prog.ofExcept publication.beforeCommit.first)
        (locked (modeSet u i false) p publication.sha256) =
          (.ok (), locked (modeSet u i false) p publication.sha256) := by
      rw [hverified.beforeCommit]
      rfl
    dsimp only
    rw [run_bind_ok _ hfirst, run_bind_ok _ hlink]
    simp only [if_true]
    rw [run_bind_ok _ hunlink, ← hverified.sha256]
    exact hvalid
  refine ⟨unlocked x publication.sha256, ?_, unlocked_locks (p := p) hlocked
    (hxlocks.trans hwlocks), i, m, hxsole, hxbytes⟩
  unfold publishTemporary
  refine run_catching_ok _ ?_
  have hcopySource : run (perform p) (copySource i publication) s = (.ok (), u) := by
    unfold copySource
    rw [run_bind_ok _ hcopy, hverified.copyFailure]
    rfl
  have hbytes : run (perform p) (requireBytes sha256Of temporary publication.sha256
      publication.sizeBytes) u = (.ok source.length, u) := by
    rw [← hverified.sha256]
    exact run_requireBytes husole hverified.length
  rw [run_bind_ok _ hcopySource, run_bind_ok _ hbytes, run_bind_ok _ (run_makeReadOnly husole)]
  exact run_withBlobLock (hlocked _) hcommit

theorem ArchiveInv.sole {d e : String} (hs : ArchiveInv sha256Of size s)
    (hlocks : ∀ d, s.locks d = none) (hi : s.files.at? (.blob d e) = some i) :
    ∃ n, Sole s.files (.blob d e) i n ∧ Publishes sha256Of size d n.bytes := by
  obtain ⟨n, hn, hbytes⟩ := hs.content d e i hi
  refine ⟨n, ⟨hi, fun q hq => ?_, hn⟩, hbytes⟩
  rcases hs.apart q (.blob d e) i hq hi with heq | ⟨_, _, _, _, _, hlock⟩ | ⟨_, _, _, _, _, hlock⟩
  · exact heq
  · rw [hlocks] at hlock
    cases hlock
  · rw [hlocks] at hlock
    cases hlock

/-- A publication of verified bytes by a new process, when no lock is held. -/
theorem run_publish (hs : ArchiveInv sha256Of size s) (hlocks : ∀ d, s.locks d = none)
    (hnew : Untouched p s) (hverified : publication.Verified sha256Of source)
    (hagree : publication.Agrees sha256Of size) :
    ∃ t bytes, run (perform p) (publish sha256Of publication) s =
        (.ok ⟨.blob publication.sha256 publication.extension, publication.sha256,
          source.length⟩, t) ∧
      (∀ d, t.locks d = none) ∧
      Archived t (.blob publication.sha256 publication.extension) bytes ∧
      sha256Of bytes = publication.sha256 ∧ bytes.length = source.length := by
  unfold publish
  have hsize : publication.sizeBytes = source.length := hverified.length.symm
  have hagreed := hagree source hverified.hashed hverified.sha256 hverified.length
  rw [if_neg (by rw [hverified.digest, hverified.extension, hsize]; simp)]
  have hsource : run (perform p) (asMediaErrors (Prog.ofExcept publication.hashed)) s =
      (.ok source, s) := by
    rw [hverified.hashed]
    rfl
  rw [run_bind_ok _ hsource, if_neg (by rw [hverified.sha256, hverified.length]; simp)]
  cases hblob : s.files.at? (.blob publication.sha256 publication.extension) with
  | some i =>
    obtain ⟨n, hsole, hdigest, hlength⟩ := hs.sole hlocks hblob
    have hsame : n.bytes.length = source.length := by omega
    have hlength' : (n.bytes.length : Int) = publication.sizeBytes := by omega
    obtain ⟨m, t, hrun, htlocks, htsole, htbytes⟩ := run_publishExistingLocked_present
      sha256Of p (s := locked s p publication.sha256) hsole hlength'
    refine ⟨unlocked t publication.sha256, n.bytes, ?_,
      unlocked_locks (p := p) hlocks htlocks, ⟨i, m, htsole, htbytes⟩, hdigest, hsame⟩
    refine run_asMediaErrors ?_
    rw [run_bind_ok _ (run_confinedFile_sole hsole)]
    rw [hdigest, ← hverified.beforeCommit, hsame] at hrun
    rw [run_bind_ok _ (run_withBlobLock (hlocks _) hrun)]
    rfl
  | none =>
    have hnonce : run (perform p) (ArchiveCall.make .urandom)
        (unlocked (locked s p publication.sha256) publication.sha256) =
          (.ok ⟨p, s.draws⟩,
            { unlocked (locked s p publication.sha256) publication.sha256 with
              draws := s.draws + 1 }) := rfl
    have htemporary := hnew.names
      (.temporary publication.sha256 publication.extension ⟨p, s.draws⟩) rfl
    obtain ⟨j, u, hcreate, hulocks, husole, hunames⟩ := run_createRegularFile (p := p)
      (s := { unlocked (locked s p publication.sha256) publication.sha256 with
        draws := s.draws + 1 }) htemporary
    have hulocks' : ∀ d, u.locks d = none := by
      intro d
      rw [hulocks]
      exact unlocked_locks (p := p) hlocks rfl d
    obtain ⟨t, hrun, htlocks, harchived⟩ := run_publishTemporary (p := p) hverified hulocks' husole
      ((hunames (.blob publication.sha256 publication.extension) nofun).trans hblob)
    refine ⟨t, source, ?_, htlocks, harchived, hverified.sha256, rfl⟩
    refine run_asMediaErrors ?_
    rw [run_bind_ok _ (run_confinedFile_absent hblob),
      run_bind_ok _ (run_withBlobLock (hlocks _) (run_publishExistingLocked_absent hblob))]
    dsimp only
    rw [run_bind_ok _ hnonce, run_bind_ok _ hcreate]
    exact hrun

/-- The revalidation of an archived blob. -/
theorem run_validateExisting {presented : Presented} {e : String} (hlocks : ∀ d, s.locks d = none)
    (hcanonical : canonicalBlobPath presented = .ok e)
    (harchived : Archived s presented.path source) (hsha256 : sha256Of source = presented.sha256)
    (hlength : (source.length : Int) = presented.sizeBytes) :
    ∃ t, run (perform p) (validateExisting sha256Of presented) s =
      (.ok ⟨presented.path, presented.sha256, source.length⟩, t) := by
  obtain ⟨i, n, hsole, rfl⟩ := harchived
  obtain ⟨m, t, hrun, _⟩ := run_validateExistingLocked sha256Of p
    (s := locked s p presented.sha256) hsole hlength
  refine ⟨unlocked t presented.sha256, ?_⟩
  unfold validateExisting
  have hpath : run (perform p) (Prog.ofExcept (canonicalBlobPath presented)) s = (.ok e, s) := by
    rw [hcanonical]
    rfl
  rw [run_bind_ok _ hpath]
  refine run_catching_ok _ (run_withBlobLock (hlocks _) ?_)
  unfold revalidateLocked
  have hstat : (locked s p presented.sha256).files.stat presented.path =
      some ⟨i, 1, n.bytes.length, n.writable⟩ := hsole.stat
  rw [run_bind_ok _ run_exists?, hstat]
  rw [hsha256] at hrun
  exact hrun

end Alone

section Histories

variable (sha256Of : Bytes → String) (size : String → Nat)

abbrev ArchiveWorld := World ArchiveCall ArchiveCall.Reply ArchiveError Outcome Archive

/-- A call of one of the three operations. -/
def AnyOperation (m : ArchiveProg Outcome) : Prop := ∃ op : Operation, m = op.program sha256Of

/-- A call whose sizes agree with the publications. -/
def AgreedOperation (m : ArchiveProg Outcome) : Prop :=
  ∃ op : Operation, op.Agrees sha256Of size ∧ m = op.program sha256Of

/-- Processes come, make their calls one at a time and die anywhere. -/
abbrev ArchiveHappens : ArchiveWorld → Happening → ArchiveWorld → Prop :=
  Happens archiveMachine (AnyOperation sha256Of) (fun _ _ => True)

/-- The sizes agree, and no process dies between linking its temporary and
removing it. -/
abbrev DisciplinedHappens : ArchiveWorld → Happening → ArchiveWorld → Prop :=
  Happens archiveMachine (AgreedOperation sha256Of size) (fun p s => ¬ Linking p s)

def FirstArchiveWorld (w : ArchiveWorld) : Prop := w = World.initial Archive.empty

/-- No process holds a blob lock. -/
def Archive.Unheld (s : Archive) : Prop := ∀ d, s.locks d = none

/-- Every later publication of verified bytes succeeds, and so does the
revalidation of what it returned. -/
def Serves (w : ArchiveWorld) : Prop :=
  ∀ p publication source, w.started ≤ p → publication.Verified sha256Of source →
    publication.Agrees sha256Of size →
    ∃ blob t, run (perform p) (publish sha256Of publication) w.state = (.ok blob, t) ∧
      blob = ⟨.blob publication.sha256 publication.extension, publication.sha256,
        source.length⟩ ∧
      ∀ q polls, ∃ u, run (perform q)
        (validateExisting sha256Of ⟨blob.path, blob.sha256, blob.sizeBytes, polls⟩) t =
          (.ok blob, u)

/-- What the archive is for: blobs are what their names say, processes that have
come to rest hold nothing, and while no lock is held it serves. -/
structure ArchiveSound (w : ArchiveWorld) : Prop where
  intact : ∀ d e bytes, w.state.files.bytes? (.blob d e) = some bytes →
    sha256Of bytes = d ∧ bytes.length = size d
  released : w.Quiet → w.state.Unheld
  serves : w.state.Unheld → Serves sha256Of size w

/-- No blob is overwritten, moved or removed. -/
def BlobsKept (w v : ArchiveWorld) : Prop :=
  ∀ d e bytes, w.state.files.bytes? (.blob d e) = some bytes →
    v.state.files.bytes? (.blob d e) = some bytes

variable {sha256Of size}

theorem firstArchiveWorld_safe {w : ArchiveWorld} (hw : FirstArchiveWorld w) :
    WorldSafe (archiveDiscipline sha256Of size) w := by
  subst hw
  refine ⟨⟨fun d e i hi => ?_, fun q r i hq => ?_⟩, fun p m hm => (nomatch hm),
    fun p _ d hd => (nomatch hd),
    fun p _ => ⟨rfl, ⟨fun q _ => Files.at?_empty q, fun d hd => (nomatch hd)⟩⟩⟩
  · cases (Files.at?_empty (ArchivePath.blob d e)).symm.trans hi
  · cases (Files.at?_empty q).symm.trans hq

theorem agreedOperation_safe {m : ArchiveProg Outcome} (hm : AgreedOperation sha256Of size m)
    (p : Nat) (s : Archive) (hs : ArchiveInv sha256Of size s) (hfresh : Untouched p s) :
    Safe (archiveDiscipline sha256Of size) p (fun _ s => Unlocked p s) m s := by
  obtain ⟨op, hagree, rfl⟩ := hm
  exact program_safe hagree hs hfresh

theorem worldSafe_of_archive {w : ArchiveWorld}
    (hw : Reachable (DisciplinedHappens sha256Of size) FirstArchiveWorld w) :
    WorldSafe (archiveDiscipline sha256Of size) w :=
  worldSafe_of_reachable (fun _ => firstArchiveWorld_safe) (fun _ => agreedOperation_safe) hw

theorem ArchiveRely.blobsKept {p : Nat} {w v : ArchiveWorld}
    (h : ArchiveRely p w.state v.state) : BlobsKept w v := by
  intro d e bytes hbytes
  unfold Files.bytes? at hbytes ⊢
  cases hi : w.state.files.at? (.blob d e) with
  | none =>
    rw [hi] at hbytes
    cases hbytes
  | some i =>
    obtain ⟨n, hn⟩ := Files.inode?_of_at? hi
    rw [hi, Option.bind_some, hn] at hbytes
    obtain ⟨hi', m, hm, hsame⟩ := h.blobs d e i n hi hn
    rw [hi', Option.bind_some, hm, ← hbytes, Option.map_some, Option.map_some, hsame]

theorem archiveSound_of_worldSafe {w : ArchiveWorld}
    (hw : WorldSafe (archiveDiscipline sha256Of size) w) : ArchiveSound sha256Of size w where
  intact d e bytes hbytes := by
    unfold Files.bytes? at hbytes
    cases hi : w.state.files.at? (.blob d e) with
    | none =>
      rw [hi] at hbytes
      cases hbytes
    | some i =>
      obtain ⟨n, hn, hpublishes⟩ := hw.inv.content d e i hi
      rw [hi, Option.bind_some, hn] at hbytes
      cases hbytes
      exact hpublishes
  released hquiet d := by
    cases hd : w.state.locks d with
    | none => rfl
    | some p => exact (hw.all_gone hquiet p d hd).elim
  serves hunheld p publication source hp hverified hagree := by
    obtain ⟨t, bytes, hrun, hlocks, harchived, hsha256, hlength⟩ :=
      run_publish hw.inv hunheld (hw.unstarted p hp).2 hverified hagree
    refine ⟨_, t, hrun, rfl, fun q polls => ?_⟩
    have hcanonical : canonicalBlobPath ⟨.blob publication.sha256 publication.extension,
        publication.sha256, source.length, polls⟩ = .ok publication.extension := by
      unfold canonicalBlobPath
      simp [hverified.digest, hverified.extension]
    obtain ⟨u, hvalid⟩ := run_validateExisting (p := q) hlocks hcanonical harchived hsha256
      (congrArg _ hlength)
    rw [hlength] at hvalid
    exact ⟨u, hvalid⟩

theorem DisciplinedHappens.blobsKept {w v : ArchiveWorld} {h : Happening}
    (hw : WorldSafe (archiveDiscipline sha256Of size) w)
    (hstep : DisciplinedHappens sha256Of size w h v) : BlobsKept w v :=
  ArchiveRely.blobsKept (hstep.bystander hw (Nat.le_refl _))

/-- While no process dies in the link window, the archive is sound in every world
and no blob is ever touched again. -/
theorem archive_crash_safe {w : ArchiveWorld}
    (hw : Reachable (DisciplinedHappens sha256Of size) FirstArchiveWorld w) :
    ArchiveSound sha256Of size w ∧
      ∀ l v, Trace (DisciplinedHappens sha256Of size) w l v → BlobsKept w v := by
  have hsafe := worldSafe_of_archive hw
  refine ⟨archiveSound_of_worldSafe hsafe, fun l v htrace => ?_⟩
  have hkept : BlobsKept w v ∧ WorldSafe (archiveDiscipline sha256Of size) v := by
    refine htrace.invariant
      (I := fun v => BlobsKept w v ∧ WorldSafe (archiveDiscipline sha256Of size) v)
      (fun u e v hu hstep => ⟨fun d e bytes hbytes => ?_, ?_⟩) ⟨fun _ _ _ h => h, hsafe⟩
    · exact hstep.blobsKept hu.2 d e bytes (hu.1 d e bytes hbytes)
    · exact hstep.safe (fun _ => agreedOperation_safe) hu.2
  exact hkept.1

end Histories

section Death

def abc : Bytes := [0x61, 0x62, 0x63]

def abcDigest : String := "ba7816bf8f01cfea414140de5dae2223b00361a396177a9cb410ff61f20015ad"

/-- SHA-256 on the one file of the sample. -/
def abcSha256 (bytes : Bytes) : String := if bytes = abc then abcDigest else ""

def abcSize (_ : String) : Nat := 3

def abcPublication : Publication := ⟨abcDigest, 3, "jpg", .ok abc, [abc], none, .none, 0⟩

def abcProgram : ArchiveProg Outcome := (Operation.publish abcPublication).program abcSha256

/-- The first process has started the publication. -/
def abcStarted : ArchiveWorld :=
  { (World.initial Archive.empty).put 0 (some abcProgram) with started := 1 }

/-- It has made so many of its calls. -/
def abcWorld (n : Nat) : ArchiveWorld :=
  abcStarted.after 0 (runFor (perform 0) n abcProgram Archive.empty).1
    (runFor (perform 0) n abcProgram Archive.empty).2

theorem abcWorld_reachable {programs : ArchiveProg Outcome → Prop}
    {mayDie : Nat → Archive → Prop} (hprogram : programs abcProgram) (n : Nat) :
    Reachable (Happens archiveMachine programs mayDie) FirstArchiveWorld (abcWorld n) := by
  obtain ⟨h, ht⟩ : ∃ h, Trace (Happens archiveMachine programs mayDie) abcStarted h
      (abcWorld n) := Happens.runFor (fun _ _ => rfl) n rfl
  exact ⟨_, _, rfl, Trace.cons (.starts hprogram) ht⟩

/-- The process dies after the link. -/
def abcDead : ArchiveWorld :=
  { (abcWorld 21).put 0 none with state := (abcWorld 21).state.release 0 }

def failure? {ε α : Type} : Except ε α → Option ε
  | .ok _ => none
  | .error e => some e

theorem abcProgram_agreed : AgreedOperation abcSha256 abcSize abcProgram := by
  refine ⟨.publish abcPublication, fun source hsource _ _ => ?_, rfl⟩
  cases hsource
  rfl

example : ((abcWorld 32).state.files.bytes? (.blob abcDigest "jpg")) = some abc := by
  decide +kernel

theorem archive_crash_safe_sample :
    ArchiveSound abcSha256 abcSize (abcWorld 32) ∧
      ∀ l v, Trace (DisciplinedHappens abcSha256 abcSize) (abcWorld 32) l v →
        BlobsKept (abcWorld 32) v :=
  archive_crash_safe (abcWorld_reachable abcProgram_agreed 32)

/-- A publisher that dies between the link and the removal of the temporary
leaves a blob that no publication and no revalidation accepts. -/
theorem archive_link_death :
    ∃ w, Reachable (ArchiveHappens abcSha256) FirstArchiveWorld w ∧ w.Quiet ∧
      failure? (run (perform 1) (publish abcSha256 abcPublication) w.state).1 =
        some (.media .filesystemUnsafe) ∧
      failure? (run (perform 1)
          (validateExisting abcSha256 ⟨.blob abcDigest "jpg", abcDigest, 3, 0⟩) w.state).1 =
        some (.media .filesystemUnsafe) ∧
      ¬ ArchiveSound abcSha256 abcSize w := by
  have hfails : failure? (run (perform 1) (publish abcSha256 abcPublication) abcDead.state).1 =
      some (.media .filesystemUnsafe) := by decide +kernel
  have hquiet : abcDead.Quiet := by
    intro p m hm
    by_cases hp : p = 0
    · subst hp
      cases hm
    · have hnone : abcDead.rest p = none := by
        simp [abcDead, abcWorld, abcStarted, World.after, World.put, World.initial, hp]
      rw [hnone] at hm
      cases hm
  refine ⟨abcDead, ?_, hquiet, hfails, by decide +kernel, fun hsound => ?_⟩
  · have hreach : Reachable (ArchiveHappens abcSha256) FirstArchiveWorld (abcWorld 21) :=
      abcWorld_reachable ⟨.publish abcPublication, rfl⟩ 21
    obtain ⟨w, l, hw, htrace⟩ := hreach
    have hpending : (runFor (perform 0) 21 abcProgram Archive.empty).1.isDone = false := by
      decide +kernel
    obtain ⟨c, k, hcall⟩ := Prog.exists_call_of_not_done hpending
    exact ⟨w, _, hw, htrace.snoc (.dies (p := 0) (congrArg some hcall) trivial)⟩
  · have hverified : abcPublication.Verified abcSha256 abc :=
      ⟨by decide +kernel, by decide +kernel, rfl, rfl, rfl, rfl, rfl, rfl⟩
    obtain ⟨blob, t, hrun, _⟩ := hsound.serves (hsound.released hquiet) 1 abcPublication abc
      (by decide) hverified (fun source hsource _ _ => by cases hsource; rfl)
    rw [hrun] at hfails
    cases hfails

end Death

end MediaSync.Media
