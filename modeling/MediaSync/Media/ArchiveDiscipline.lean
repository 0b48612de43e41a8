import MediaSync.Media.Archive

/-!
# What archive processes rely on

Blobs hold the bytes of their names and no one changes them; temporaries belong
to the process that named them. Two names share an inode only while a process
that holds the blob lock is between linking its temporary and removing it, so a
process may die anywhere else without harm.
-/

namespace MediaSync.Media

open Program

/-- The process that drew the random part of a name. -/
def ArchivePath.owner : ArchivePath → Option Nat
  | blob _ _ => none
  | temporary _ _ nonce => some nonce.process
  | quarantined _ _ nonce => some nonce.process

@[simp] theorem ArchivePath.owner_blob (d e : String) : (blob d e).owner = none := rfl

@[simp] theorem ArchivePath.owner_temporary (d e : String) (n : Nonce) :
    (temporary d e n).owner = some n.process := rfl

/-- The first path is a temporary of the second, linked under the blob's lock. -/
def LinkedUnderLock (locks : String → Option Nat) (p q : ArchivePath) : Prop :=
  ∃ d e n, p = .temporary d e n ∧ q = .blob d e ∧ locks d = some n.process

/-- The process is between linking a temporary to its blob and removing it. -/
def Linking (p : Nat) (s : Archive) : Prop :=
  ∃ d e n i, n.process = p ∧ s.files.at? (.temporary d e n) = some i ∧
    s.files.at? (.blob d e) = some i

section

variable (sha256Of : Bytes → String) (size : String → Nat)

/-- The bytes are the publication of the digest. -/
def Publishes (d : String) (bytes : Bytes) : Prop := sha256Of bytes = d ∧ bytes.length = size d

structure ArchiveInv (s : Archive) : Prop where
  content : ∀ d e i, s.files.at? (.blob d e) = some i →
    ∃ n, s.files.inode? i = some n ∧ Publishes sha256Of size d n.bytes
  apart : ∀ p q i, s.files.at? p = some i → s.files.at? q = some i →
    p = q ∨ LinkedUnderLock s.locks p q ∨ LinkedUnderLock s.locks q p

end

/-- What the others leave to a process: its names and their inodes, the blobs,
and the locks it holds or does not hold. -/
structure ArchiveRely (p : Nat) (s t : Archive) : Prop where
  names : ∀ q, q.owner = some p → t.files.at? q = s.files.at? q
  inodes : ∀ q i, q.owner = some p → s.files.at? q = some i →
    t.files.inode? i = s.files.inode? i ∧ ∀ r, t.files.at? r = some i ↔ s.files.at? r = some i
  blobs : ∀ d e i n, s.files.at? (.blob d e) = some i → s.files.inode? i = some n →
    t.files.at? (.blob d e) = some i ∧ ∃ m, t.files.inode? i = some m ∧ m.bytes = n.bytes
  locks : ∀ d, t.locks d = some p ↔ s.locks d = some p

theorem ArchiveRely.refl (p : Nat) (s : Archive) : ArchiveRely p s s :=
  ⟨fun _ _ => rfl, fun _ _ _ _ => ⟨rfl, fun _ => Iff.rfl⟩, fun _ _ _ n h k => ⟨h, n, k, rfl⟩,
    fun _ => Iff.rfl⟩

theorem ArchiveRely.trans {p : Nat} {s t u : Archive} (h : ArchiveRely p s t)
    (k : ArchiveRely p t u) : ArchiveRely p s u where
  names q hq := (k.names q hq).trans (h.names q hq)
  inodes q i hq hi := by
    obtain ⟨hinode, hnames⟩ := h.inodes q i hq hi
    obtain ⟨kinode, knames⟩ := k.inodes q i hq ((h.names q hq).trans hi)
    exact ⟨kinode.trans hinode, fun r => (knames r).trans (hnames r)⟩
  blobs d e i n hi hn := by
    obtain ⟨hi', m, hm, hbytes⟩ := h.blobs d e i n hi hn
    obtain ⟨hi'', m', hm', hbytes'⟩ := k.blobs d e i m hi' hm
    exact ⟨hi'', m', hm', hbytes'.trans hbytes⟩
  locks d := (k.locks d).trans (h.locks d)

/-- Nothing in the archive is of the process. -/
structure Untouched (p : Nat) (s : Archive) : Prop where
  names : ∀ q, q.owner = some p → s.files.at? q = none
  locks : ∀ d, s.locks d ≠ some p

def Unlocked (p : Nat) (s : Archive) : Prop := ∀ d, s.locks d ≠ some p

theorem ArchiveInv.linking_locked {sha256Of : Bytes → String} {size : String → Nat} {s : Archive}
    (h : ArchiveInv sha256Of size s) {q : ArchivePath} {d e : String} {i p : Nat}
    (hq : q.owner = some p) (hi : s.files.at? q = some i)
    (hblob : s.files.at? (.blob d e) = some i) :
    (∃ n, q = .temporary d e n) ∧ s.locks d = some p := by
  rcases h.apart q (.blob d e) i hi hblob with rfl | ⟨d', e', n, rfl, heq, hlock⟩ |
    ⟨_, _, _, hne, _⟩
  · cases hq
  · cases heq
    cases hq
    exact ⟨⟨n, rfl⟩, hlock⟩
  · cases hne

theorem release_inv {sha256Of : Bytes → String} {size : String → Nat} {p : Nat} {s : Archive}
    (h : ArchiveInv sha256Of size s) (hp : ¬ Linking p s) :
    ArchiveInv sha256Of size (s.release p) where
  content := h.content
  apart q r i hq hr := by
    have hkept : ∀ q r, s.files.at? q = some i → s.files.at? r = some i →
        LinkedUnderLock s.locks q r → LinkedUnderLock (s.release p).locks q r := by
      rintro _ _ hq hr ⟨d, e, n, rfl, rfl, hlock⟩
      refine ⟨d, e, n, rfl, rfl, ?_⟩
      have hne : s.locks d ≠ some p := by
        intro hlock'
        rw [hlock] at hlock'
        exact hp ⟨d, e, n, i, Option.some.inj hlock', hq, hr⟩
      simp only [Archive.release, if_neg hne]
      exact hlock
    rcases h.apart q r i hq hr with heq | hl | hl
    · exact .inl heq
    · exact .inr (.inl (hkept q r hq hr hl))
    · exact .inr (.inr (hkept r q hr hq hl))

theorem release_rely {p q : Nat} {s : Archive} (hne : q ≠ p) : ArchiveRely q s (s.release p) where
  names _ _ := rfl
  inodes _ _ _ _ := ⟨rfl, fun _ => Iff.rfl⟩
  blobs _ _ _ n hi hn := ⟨hi, n, hn, rfl⟩
  locks d := by
    simp only [Archive.release]
    by_cases hd : s.locks d = some p
    · rw [if_pos hd, hd]
      constructor
      · nofun
      · intro h
        exact (hne (Option.some.inj h).symm).elim
    · rw [if_neg hd]

/-- The discipline of the archive: processes die outside the link window only. -/
def archiveDiscipline (sha256Of : Bytes → String) (size : String → Nat) :
    Discipline archiveMachine where
  Inv := ArchiveInv sha256Of size
  Rely := ArchiveRely
  Fresh := Untouched
  Gone := Unlocked
  MayDie p s := ¬ Linking p s
  rely_refl := ArchiveRely.refl
  rely_trans _ _ _ _ h k := h.trans k
  fresh_rely _ _ _ h hs :=
    ⟨fun q hq => (h.names q hq).trans (hs.names q hq), fun d hd => hs.locks d ((h.locks d).mp hd)⟩
  gone_rely _ _ _ h hs d hd := hs d ((h.locks d).mp hd)
  fresh_gone _ _ hs := hs.locks
  dies_gone p s d hd := by
    simp only [archiveMachine, Archive.release] at hd
    split at hd
    · cases hd
    · rename_i hne
      exact hne hd
  dies_inv _ _ h hp := release_inv h hp
  dies_rely _ _ _ _ _ hne := release_rely hne

/-! ## Steps -/

section Steps

variable {sha256Of : Bytes → String} {size : String → Nat} {p : Nat} {s t : Archive}

abbrev Keeps (sha256Of : Bytes → String) (size : String → Nat) (p : Nat) (s t : Archive) : Prop :=
  (archiveDiscipline sha256Of size).Keeps p s t

theorem Keeps.refl (h : ArchiveInv sha256Of size s) : Keeps sha256Of size p s s :=
  ⟨h, fun q _ => ArchiveRely.refl q s⟩

/-- A change of one inode that no other process owns and that leaves the bytes
of blobs alone. -/
theorem keeps_setInode {i : Nat} {g : Inode → Inode} (h : ArchiveInv sha256Of size s)
    (hlocks : t.locks = s.locks) (hat : ∀ r, t.files.at? r = s.files.at? r)
    (hinode : ∀ j, t.files.inode? j = if j = i then (s.files.inode? j).map g else s.files.inode? j)
    (hblob : ∀ d e, s.files.at? (.blob d e) = some i → ∀ n, (g n).bytes = n.bytes)
    (hown : ∀ q r, q ≠ p → r.owner = some q → s.files.at? r ≠ some i) :
    Keeps sha256Of size p s t where
  inv := by
    refine ⟨fun d e j hj => ?_, fun q r j hq hr => ?_⟩
    · rw [hat] at hj
      obtain ⟨n, hn, hbytes⟩ := h.content d e j hj
      rw [hinode]
      by_cases heq : j = i
      · subst heq
        rw [if_pos rfl, hn]
        refine ⟨g n, rfl, ?_⟩
        rw [hblob d e hj n]
        exact hbytes
      · rw [if_neg heq]
        exact ⟨n, hn, hbytes⟩
    · rw [hat] at hq hr
      rw [hlocks]
      exact h.apart q r j hq hr
  rely q hq := by
    refine ⟨fun r _ => hat r, fun r j hr hj => ⟨?_, fun r' => by rw [hat]⟩,
      fun d e j n hj hn => ⟨(hat _).trans hj, ?_⟩, fun d => by rw [hlocks]⟩
    · rw [hinode, if_neg]
      rintro rfl
      exact hown q r hq hr hj
    · rw [hinode]
      by_cases heq : j = i
      · subst heq
        rw [if_pos rfl, hn]
        exact ⟨g n, rfl, hblob d e hj n⟩
      · rw [if_neg heq]
        exact ⟨n, hn, rfl⟩

/-- Taking a free lock. -/
theorem keeps_lock {d : String} (h : ArchiveInv sha256Of size s) (hfree : s.locks d = none)
    (hfiles : t.files = s.files)
    (hlocks : ∀ d', t.locks d' = if d' = d then some p else s.locks d') :
    Keeps sha256Of size p s t where
  inv := by
    refine ⟨by rw [hfiles]; exact h.content, fun q r i hq hr => ?_⟩
    have hkept : ∀ q r, LinkedUnderLock s.locks q r → LinkedUnderLock t.locks q r := by
      rintro _ _ ⟨d', e, n, rfl, rfl, hlock⟩
      refine ⟨d', e, n, rfl, rfl, ?_⟩
      rw [hlocks, if_neg]
      · exact hlock
      · rintro rfl
        rw [hfree] at hlock
        cases hlock
    rw [hfiles] at hq hr
    rcases h.apart q r i hq hr with heq | hl | hl
    · exact .inl heq
    · exact .inr (.inl (hkept _ _ hl))
    · exact .inr (.inr (hkept _ _ hl))
  rely q hq := by
    refine ⟨fun _ _ => by rw [hfiles], fun _ _ _ _ => ⟨by rw [hfiles], fun _ => by rw [hfiles]⟩,
      fun _ _ _ n hi hn => ⟨hfiles ▸ hi, n, hfiles ▸ hn, rfl⟩, fun d' => ?_⟩
    rw [hlocks]
    by_cases heq : d' = d
    · subst heq
      rw [if_pos rfl, hfree]
      constructor
      · intro hp
        exact (hq (Option.some.inj hp).symm).elim
      · nofun
    · rw [if_neg heq]

/-- Dropping a held lock outside the link window. -/
theorem keeps_unlock {d : String} (h : ArchiveInv sha256Of size s) (hheld : s.locks d = some p)
    (hlinking : ¬ Linking p s) (hfiles : t.files = s.files)
    (hlocks : ∀ d', t.locks d' = if d' = d then none else s.locks d') :
    Keeps sha256Of size p s t where
  inv := by
    refine ⟨by rw [hfiles]; exact h.content, fun q r i hq hr => ?_⟩
    have hkept : ∀ q r, s.files.at? q = some i → s.files.at? r = some i →
        LinkedUnderLock s.locks q r → LinkedUnderLock t.locks q r := by
      rintro _ _ hq hr ⟨d', e, n, rfl, rfl, hlock⟩
      refine ⟨d', e, n, rfl, rfl, ?_⟩
      rw [hlocks, if_neg]
      · exact hlock
      · rintro rfl
        rw [hheld] at hlock
        exact hlinking ⟨d', e, n, i, (Option.some.inj hlock).symm, hq, hr⟩
    rw [hfiles] at hq hr
    rcases h.apart q r i hq hr with heq | hl | hl
    · exact .inl heq
    · exact .inr (.inl (hkept _ _ hq hr hl))
    · exact .inr (.inr (hkept _ _ hr hq hl))
  rely q hq := by
    refine ⟨fun _ _ => by rw [hfiles], fun _ _ _ _ => ⟨by rw [hfiles], fun _ => by rw [hfiles]⟩,
      fun _ _ _ n hi hn => ⟨hfiles ▸ hi, n, hfiles ▸ hn, rfl⟩, fun d' => ?_⟩
    rw [hlocks]
    by_cases heq : d' = d
    · subst heq
      rw [if_pos rfl, hheld]
      constructor
      · nofun
      · intro hp
        exact (hq (Option.some.inj hp).symm).elim
    · rw [if_neg heq]

/-- A new inode under a name of the process's own. -/
theorem keeps_create {path : ArchivePath} {j : Nat} (h : ArchiveInv sha256Of size s)
    (howner : path.owner = some p) (hfree : s.files.at? path = none)
    (hnew : ∀ r, s.files.at? r ≠ some j) (hlocks : t.locks = s.locks)
    (hat : ∀ r, t.files.at? r = if r = path then some j else s.files.at? r)
    (hinode : ∀ i, i ≠ j → t.files.inode? i = s.files.inode? i) :
    Keeps sha256Of size p s t where
  inv := by
    refine ⟨fun d e i hi => ?_, fun q r i hq hr => ?_⟩
    · rw [hat, if_neg (by rintro rfl; cases howner)] at hi
      obtain ⟨n, hn, hbytes⟩ := h.content d e i hi
      exact ⟨n, (hinode i (fun heq => hnew _ (heq ▸ hi))).trans hn, hbytes⟩
    · rw [hat] at hq hr
      rw [hlocks]
      by_cases hqp : q = path
      · by_cases hrp : r = path
        · exact .inl (hqp.trans hrp.symm)
        · rw [if_pos hqp] at hq
          rw [if_neg hrp] at hr
          cases hq
          exact (hnew r hr).elim
      · rw [if_neg hqp] at hq
        by_cases hrp : r = path
        · rw [if_pos hrp] at hr
          cases hr
          exact (hnew q hq).elim
        · rw [if_neg hrp] at hr
          exact h.apart q r i hq hr
  rely q hne := by
    have hold : ∀ {r i}, s.files.at? r = some i → t.files.inode? i = s.files.inode? i :=
      fun hi => hinode _ (fun heq => hnew _ (heq ▸ hi))
    refine ⟨fun r hr => ?_, fun r i hr hi => ⟨hold hi, fun r' => ?_⟩,
      fun d e i n hi hn => ⟨?_, n, (hold hi).trans hn, rfl⟩, fun _ => by rw [hlocks]⟩
    · rw [hat, if_neg]
      rintro rfl
      rw [howner] at hr
      exact hne (Option.some.inj hr).symm
    · rw [hat]
      by_cases hr' : r' = path
      · subst hr'
        rw [if_pos rfl, hfree]
        constructor
        · intro heq
          cases heq
          exact (hnew _ hi).elim
        · nofun
      · rw [if_neg hr']
    · rw [hat, if_neg (by rintro rfl; cases howner)]
      exact hi

/-- Removing a name of the process's own. -/
theorem keeps_unlink {path : ArchivePath} (h : ArchiveInv sha256Of size s)
    (howner : path.owner = some p)
    (hothers : ∀ q r i, q ≠ p → r.owner = some q → s.files.at? r = some i →
      s.files.at? path ≠ some i)
    (hlocks : t.locks = s.locks)
    (hat : ∀ r, t.files.at? r = if r = path then none else s.files.at? r)
    (hinode : ∀ i, t.files.inode? i = s.files.inode? i) :
    Keeps sha256Of size p s t where
  inv := by
    refine ⟨fun d e i hi => ?_, fun q r i hq hr => ?_⟩
    · rw [hat, if_neg (by rintro rfl; cases howner)] at hi
      rw [hinode]
      exact h.content d e i hi
    · rw [hat] at hq hr
      rw [hlocks]
      split at hq
      · cases hq
      · split at hr
        · cases hr
        · exact h.apart q r i hq hr
  rely q hne := by
    refine ⟨fun r hr => ?_, fun r i hr hi => ⟨hinode i, fun r' => ?_⟩,
      fun d e i n hi hn => ⟨?_, n, (hinode i).trans hn, rfl⟩, fun _ => by rw [hlocks]⟩
    · rw [hat, if_neg]
      rintro rfl
      rw [howner] at hr
      exact hne (Option.some.inj hr).symm
    · rw [hat]
      by_cases hr' : r' = path
      · subst hr'
        rw [if_pos rfl]
        constructor
        · nofun
        · intro hi'
          exact (hothers q r i hne hr hi hi').elim
      · rw [if_neg hr']
    · rw [hat, if_neg (by rintro rfl; cases howner)]
      exact hi

/-- Linking a temporary of the process's own, that holds the publication, to its
blob under the lock. -/
theorem keeps_link {i : Nat} {d e : String} {n : Nonce} {m : Inode}
    (h : ArchiveInv sha256Of size s) (hprocess : n.process = p) (hlock : s.locks d = some p)
    (honly : ∀ q, s.files.at? q = some i → q = .temporary d e n)
    (hm : s.files.inode? i = some m) (hbytes : Publishes sha256Of size d m.bytes)
    (hfree : s.files.at? (.blob d e) = none) (hlocks : t.locks = s.locks)
    (hat : ∀ r, t.files.at? r = if r = .blob d e then some i else s.files.at? r)
    (hinode : ∀ i, t.files.inode? i = s.files.inode? i) :
    Keeps sha256Of size p s t where
  inv := by
    refine ⟨fun d' e' j hj => ?_, fun q r j hq hr => ?_⟩
    · rw [hat] at hj
      rw [hinode]
      split at hj
      · rename_i heq
        cases heq
        cases hj
        exact ⟨m, hm, hbytes⟩
      · exact h.content d' e' j hj
    · rw [hat] at hq hr
      rw [hlocks]
      have hpair : LinkedUnderLock s.locks (.temporary d e n) (.blob d e) :=
        ⟨d, e, n, rfl, rfl, hprocess ▸ hlock⟩
      by_cases hqb : q = .blob d e
      · by_cases hrb : r = .blob d e
        · exact .inl (hqb.trans hrb.symm)
        · rw [if_pos hqb] at hq
          rw [if_neg hrb] at hr
          cases hq
          cases honly r hr
          cases hqb
          exact .inr (.inr hpair)
      · rw [if_neg hqb] at hq
        by_cases hrb : r = .blob d e
        · rw [if_pos hrb] at hr
          cases hr
          cases honly q hq
          cases hrb
          exact .inr (.inl hpair)
        · rw [if_neg hrb] at hr
          exact h.apart q r j hq hr
  rely q hne := by
    refine ⟨fun r hr => ?_, fun r j hr hj => ⟨hinode j, fun r' => ?_⟩,
      fun d' e' j n' hj hn => ⟨?_, n', (hinode j).trans hn, rfl⟩, fun _ => by rw [hlocks]⟩
    · rw [hat, if_neg (by rintro rfl; cases hr)]
    · rw [hat]
      by_cases hr' : r' = .blob d e
      · subst hr'
        rw [if_pos rfl, hfree]
        constructor
        · intro heq
          cases heq
          cases honly r hj
          cases hr
          exact (hne hprocess).elim
        · nofun
      · rw [if_neg hr']
    · rw [hat, if_neg]
      · exact hj
      · intro heq
        cases heq
        rw [hfree] at hj
        cases hj

end Steps

end MediaSync.Media
