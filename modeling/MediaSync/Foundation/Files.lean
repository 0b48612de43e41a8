import Mathlib.Data.List.AList
import Mathlib.Data.Finset.Card

/-!
# Files with hard links

Names point to inodes; an inode carries bytes and a mode, and its link count is
the number of its names. Every operation is one system call: it sees the names
as they are and changes at most two of them.
-/

namespace MediaSync

abbrev Bytes := List UInt8

structure Inode where
  bytes : Bytes
  writable : Bool
  deriving DecidableEq, Repr

/-- Names point to inodes that exist. -/
structure Files (P : Type) [DecidableEq P] where
  names : AList (fun _ : P => Nat)
  inodes : List Inode
  bounded : ∀ p i, names.lookup p = some i → i < inodes.length

structure Stat where
  inode : Nat
  links : Nat
  size : Nat
  writable : Bool
  deriving DecidableEq, Repr

namespace Files

variable {P : Type} [DecidableEq P]

def empty : Files P := ⟨∅, [], fun p i h => by simp at h⟩

def at? (f : Files P) (p : P) : Option Nat := f.names.lookup p

def inode? (f : Files P) (i : Nat) : Option Inode := f.inodes[i]?

/-- The bytes that a name leads to. -/
def bytes? (f : Files P) (p : P) : Option Bytes :=
  (f.at? p).bind (fun i => (f.inode? i).map Inode.bytes)

/-- The link count. -/
def links (f : Files P) (i : Nat) : Nat :=
  (f.names.keys.filter (fun p => f.at? p = some i)).length

def stat (f : Files P) (p : P) : Option Stat :=
  (f.at? p).bind (fun i => (f.inode? i).map (fun n =>
    ⟨i, f.links i, n.bytes.length, n.writable⟩))

/-- The name, old or new, leads to an inode that exists. -/
def name (f : Files P) (p : P) (i : Nat) (h : i < f.inodes.length) : Files P where
  names := f.names.insert p i
  inodes := f.inodes
  bounded q j hq := by
    by_cases hp : q = p
    · subst hp
      rw [AList.lookup_insert] at hq
      cases hq
      exact h
    · rw [AList.lookup_insert_ne hp] at hq
      exact f.bounded q j hq

def unname (f : Files P) (p : P) : Files P where
  names := f.names.erase p
  inodes := f.inodes
  bounded q j hq := by
    by_cases hp : q = p
    · subst hp
      rw [AList.lookup_erase] at hq
      cases hq
    · rw [AList.lookup_erase_ne hp] at hq
      exact f.bounded q j hq

/-- A new inode under no name. -/
def grow (f : Files P) (n : Inode) : Files P where
  names := f.names
  inodes := f.inodes ++ [n]
  bounded p i h := by
    rw [List.length_append]
    exact Nat.lt_of_lt_of_le (f.bounded p i h) (Nat.le_add_right _ _)

def setInode (f : Files P) (i : Nat) (g : Inode → Inode) : Files P where
  names := f.names
  inodes := f.inodes.modify i g
  bounded p j h := by
    rw [List.length_modify]
    exact f.bounded p j h

theorem length_lt_grow (f : Files P) (n : Inode) : f.inodes.length < (f.grow n).inodes.length := by
  simp [grow]

/-- `open(p, O_CREAT | O_EXCL)`: the new inode, or none where the name is taken. -/
def create (f : Files P) (p : P) : Option Nat × Files P :=
  match f.at? p with
  | some _ => (none, f)
  | none =>
    (some f.inodes.length,
      (f.grow ⟨[], true⟩).name p f.inodes.length (f.length_lt_grow _))

def append (f : Files P) (i : Nat) (chunk : Bytes) : Files P :=
  f.setInode i (fun n => { n with bytes := n.bytes ++ chunk })

/-- `chmod`, on the write bits. -/
def chmod (f : Files P) (p : P) (writable : Bool) : Bool × Files P :=
  match f.at? p with
  | none => (false, f)
  | some i => (true, f.setInode i (fun n => { n with writable := writable }))

inductive LinkReply where
  | linked | exists | missing
  deriving DecidableEq, Repr

def link (f : Files P) (source target : P) : LinkReply × Files P :=
  match h : f.at? source with
  | none => (.missing, f)
  | some i =>
    match f.at? target with
    | some _ => (.exists, f)
    | none => (.linked, f.name target i (f.bounded source i h))

def unlink (f : Files P) (p : P) : Bool × Files P :=
  match f.at? p with
  | none => (false, f)
  | some _ => (true, f.unname p)

/-- `rename` over the target; two names of one inode stay as they are. -/
def rename (f : Files P) (source target : P) : Bool × Files P :=
  match h : f.at? source with
  | none => (false, f)
  | some i =>
    if f.at? target = some i then (true, f)
    else (true, (f.name target i (f.bounded source i h)).unname source)

section

variable {f : Files P} {p q : P} {i j : Nat}

theorem at?_lt (h : f.at? p = some i) : i < f.inodes.length := f.bounded p i h

theorem inode?_of_at? (h : f.at? p = some i) : ∃ n, f.inode? i = some n :=
  ⟨f.inodes.get ⟨i, at?_lt h⟩, List.getElem?_eq_getElem (at?_lt h)⟩

@[simp] theorem at?_empty (p : P) : (empty : Files P).at? p = none := AList.lookup_empty p

theorem at?_name {h : i < f.inodes.length} :
    (f.name p i h).at? q = if q = p then some i else f.at? q := by
  by_cases hq : q = p
  · subst hq
    rw [if_pos rfl]
    exact AList.lookup_insert _
  · rw [if_neg hq]
    exact AList.lookup_insert_ne hq

theorem at?_unname : (f.unname p).at? q = if q = p then none else f.at? q := by
  by_cases hq : q = p
  · subst hq
    rw [if_pos rfl]
    exact AList.lookup_erase _ _
  · rw [if_neg hq]
    exact AList.lookup_erase_ne hq

@[simp] theorem at?_setInode (g : Inode → Inode) : (f.setInode i g).at? p = f.at? p := rfl

@[simp] theorem at?_grow (n : Inode) : (f.grow n).at? p = f.at? p := rfl

@[simp] theorem inode?_name {h : i < f.inodes.length} : (f.name p i h).inode? j = f.inode? j := rfl

@[simp] theorem inode?_unname : (f.unname p).inode? j = f.inode? j := rfl

theorem inode?_setInode (g : Inode → Inode) :
    (f.setInode i g).inode? j = if j = i then (f.inode? j).map g else f.inode? j := by
  unfold inode? setInode
  dsimp only
  rw [List.getElem?_modify]
  by_cases hj : j = i
  · subst hj
    simp
  · rw [if_neg hj]
    simp [Ne.symm hj]

theorem inode?_grow (n : Inode) :
    (f.grow n).inode? j = if j = f.inodes.length then some n else f.inode? j := by
  unfold inode? grow
  dsimp only
  by_cases hj : j = f.inodes.length
  · subst hj
    simp
  · rw [if_neg hj]
    rcases Nat.lt_or_gt_of_ne hj with hlt | hgt
    · exact List.getElem?_append_left hlt
    · rw [List.getElem?_eq_none (by simp; omega), List.getElem?_eq_none (by omega)]

/-- A free name leads to the new inode. -/
theorem create_free (h : f.at? p = none) :
    f.create p = (some f.inodes.length,
      (f.grow ⟨[], true⟩).name p f.inodes.length (f.length_lt_grow _)) := by
  unfold create
  rw [h]

theorem at?_create (h : f.at? p = none) :
    (f.create p).2.at? q = if q = p then some f.inodes.length else f.at? q := by
  rw [create_free h]
  by_cases hq : q = p
  · rw [at?_name, if_pos hq, if_pos hq]
  · rw [at?_name, if_neg hq, if_neg hq, at?_grow]

theorem inode?_create (h : f.at? p = none) :
    (f.create p).2.inode? j = if j = f.inodes.length then some ⟨[], true⟩ else f.inode? j := by
  rw [create_free h, inode?_name, inode?_grow]

theorem mem_keys_of_at? (h : f.at? p = some i) : p ∈ f.names.keys := by
  rw [← AList.mem_keys, ← AList.lookup_isSome]
  change (f.at? p).isSome = true
  rw [h]
  rfl

/-- The names of an inode, counted. -/
theorem links_eq_card (f : Files P) (i : Nat) (s : Finset P)
    (h : ∀ p, f.at? p = some i ↔ p ∈ s) : f.links i = s.card := by
  unfold links
  rw [← List.toFinset_card_of_nodup (f.names.keys_nodup.filter _)]
  congr 1
  ext p
  rw [List.mem_toFinset, List.mem_filter, decide_eq_true_eq, h]
  exact ⟨fun hp => hp.2, fun hp => ⟨mem_keys_of_at? ((h p).mpr hp), hp⟩⟩

theorem links_one (h : ∀ q, f.at? q = some i ↔ q = p) : f.links i = 1 := by
  rw [links_eq_card f i {p} (fun q => by rw [h, Finset.mem_singleton])]
  exact Finset.card_singleton p

theorem links_two {q : P} (hpq : p ≠ q) (h : ∀ r, f.at? r = some i ↔ r = p ∨ r = q) :
    f.links i = 2 := by
  rw [links_eq_card f i {p, q} (fun r => by rw [h, Finset.mem_insert, Finset.mem_singleton])]
  exact Finset.card_pair hpq

theorem stat_some {s : Stat} (h : f.stat p = some s) :
    ∃ n, f.at? p = some s.inode ∧ f.inode? s.inode = some n ∧ s.links = f.links s.inode ∧
      s.size = n.bytes.length ∧ s.writable = n.writable := by
  unfold stat at h
  cases hp : f.at? p with
  | none =>
    rw [hp] at h
    cases h
  | some i =>
    rw [hp] at h
    obtain ⟨n, hn⟩ := inode?_of_at? hp
    dsimp only [Option.bind_some] at h
    rw [hn] at h
    cases h
    exact ⟨n, rfl, hn, rfl, rfl, rfl⟩

theorem stat_of_at? {n : Inode} (hp : f.at? p = some i) (hn : f.inode? i = some n) :
    f.stat p = some ⟨i, f.links i, n.bytes.length, n.writable⟩ := by
  unfold stat
  rw [hp]
  dsimp only [Option.bind_some]
  rw [hn]
  rfl

theorem stat_none : f.stat p = none ↔ f.at? p = none := by
  constructor
  · intro h
    cases hp : f.at? p with
    | none => rfl
    | some i =>
      obtain ⟨n, hn⟩ := inode?_of_at? hp
      rw [stat_of_at? hp hn] at h
      cases h
  · intro h
    unfold stat
    rw [h]
    rfl

end

end Files

end MediaSync
