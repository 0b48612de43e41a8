import Mathlib.Data.List.AList
import MediaSync.Foundation.Files

/-!
# Trees of files

A path is the list of its names and a tree says what stands at each path. A
directory is an entry of its own; what is in it are the paths below it, so that
moving a directory moves every one of them. What stands below a path is the
content of that path: two paths apart from each other have contents that one
call does not mix.
-/

namespace MediaSync

abbrev TreePath := List String

/-- A link is a symbolic link or a reparse point. It is never followed: what it leads to, if it
leads anywhere, is not part of the tree. -/
inductive Entry where
  | file (inode : Nat) (bytes : Bytes)
  | dir
  | link (leads : Bool)
  | special
  deriving DecidableEq

structure FileTree where
  entries : AList (fun _ : TreePath => Entry)
  nextInode : Nat

namespace FileTree

def find (t : FileTree) (p : TreePath) : Option Entry := t.entries.lookup p

/-- What stands at a path and below it, by the way from there. -/
def below (t : FileTree) (p : TreePath) : TreePath → Option Entry := fun rel => t.find (p ++ rel)

def put (t : FileTree) (p : TreePath) (e : Entry) : FileTree :=
  { t with entries := t.entries.insert p e }

def remove (t : FileTree) (p : TreePath) : FileTree := { t with entries := t.entries.erase p }

/-- The root of every path is there. -/
def isDir (t : FileTree) (p : TreePath) : Bool := p = [] || t.find p = some .dir

/-- The names in a directory. -/
def names (t : FileTree) (p : TreePath) : List String :=
  t.entries.keys.filterMap (fun k => if k.dropLast = p then k.getLast? else none)

/-- Where a path below `source` goes. -/
def rebase (source target p : TreePath) : TreePath :=
  if source <+: p then target ++ p.drop source.length else p

theorem rebase_append (source target rel : TreePath) :
    rebase source target (source ++ rel) = target ++ rel := by
  rw [rebase, if_pos (List.prefix_append _ _), List.drop_left]

theorem rebase_of_not {source target p : TreePath} (h : ¬ source <+: p) :
    rebase source target p = p :=
  if_neg h

theorem rebase_inj {source target p q : TreePath} (hp : ¬ target <+: p) (hq : ¬ target <+: q)
    (h : rebase source target p = rebase source target q) : p = q := by
  by_cases hsp : source <+: p
  · obtain ⟨r, rfl⟩ := hsp
    rw [rebase_append] at h
    by_cases hsq : source <+: q
    · obtain ⟨r', rfl⟩ := hsq
      rw [rebase_append] at h
      rw [List.append_cancel_left h]
    · rw [rebase_of_not hsq] at h
      exact absurd (h ▸ List.prefix_append target r) hq
  · rw [rebase_of_not hsp] at h
    by_cases hsq : source <+: q
    · obtain ⟨r', rfl⟩ := hsq
      rw [rebase_append] at h
      exact absurd (h ▸ List.prefix_append target r') hp
    · rwa [rebase_of_not hsq] at h

abbrev Entries := List (Sigma (fun _ : TreePath => Entry))

/-- The entries that `target` does not cover, those below `source` at their new places. -/
def rebased (entries : Entries) (source target : TreePath) : Entries :=
  (entries.filter (fun e => !decide (target <+: e.1))).map
    (fun e => ⟨rebase source target e.1, e.2⟩)

theorem mem_rebased {entries : Entries} {source target p : TreePath} {e : Entry} :
    ⟨p, e⟩ ∈ rebased entries source target ↔
      ∃ q, ⟨q, e⟩ ∈ entries ∧ ¬ target <+: q ∧ rebase source target q = p := by
  simp only [rebased, List.mem_map, List.mem_filter, Bool.not_eq_true', decide_eq_false_iff_not]
  constructor
  · rintro ⟨⟨q, f⟩, ⟨hmem, hq⟩, h⟩
    cases h
    exact ⟨q, hmem, hq, rfl⟩
  · rintro ⟨q, hmem, hq, rfl⟩
    exact ⟨⟨q, e⟩, ⟨hmem, hq⟩, rfl⟩

theorem rebased_nodup {entries : Entries} (source target : TreePath) (h : entries.NodupKeys) :
    (rebased entries source target).NodupKeys := by
  have hkept : ((entries.filter (fun e => !decide (target <+: e.1))).map Sigma.fst).Nodup :=
    List.Nodup.sublist (List.filter_sublist.map Sigma.fst) h
  have hkeys : (rebased entries source target).keys =
      ((entries.filter (fun e => !decide (target <+: e.1))).map Sigma.fst).map
        (rebase source target) := by
    simp [rebased, List.keys]
  rw [List.NodupKeys, hkeys]
  refine hkept.map_on fun p hp q hq heq => ?_
  obtain ⟨e, he, rfl⟩ := List.mem_map.1 hp
  obtain ⟨f, hf, rfl⟩ := List.mem_map.1 hq
  exact rebase_inj (by simpa using (List.mem_filter.1 he).2)
    (by simpa using (List.mem_filter.1 hf).2) heq

/-- Everything below `source` goes below `target`, and what was there is gone. -/
def move (t : FileTree) (source target : TreePath) : FileTree where
  entries := ⟨rebased t.entries.entries source target, rebased_nodup source target t.entries.nodupKeys⟩
  nextInode := t.nextInode

/-- Neither path leads to the other. -/
def Apart (p q : TreePath) : Prop := ¬ p <+: q ∧ ¬ q <+: p

theorem Apart.symm {p q : TreePath} (h : Apart p q) : Apart q p := ⟨h.2, h.1⟩

theorem Apart.not_both {p q r : TreePath} (h : Apart p q) (hp : p <+: r) : ¬ q <+: r := by
  intro hq
  rcases List.prefix_or_prefix_of_prefix hp hq with hpq | hqp
  · exact h.1 hpq
  · exact h.2 hqp

theorem Apart.append {p q : TreePath} (h : Apart p q) (rel : TreePath) : ¬ q <+: p ++ rel :=
  h.not_both (List.prefix_append p rel)

variable {t : FileTree} {p q source target : TreePath} {e : Entry}

theorem find_eq_some : t.find p = some e ↔ ⟨p, e⟩ ∈ t.entries.entries :=
  AList.mem_lookup_iff

theorem find_put : (t.put p e).find q = if q = p then some e else t.find q := by
  by_cases h : q = p
  · rw [if_pos h, h]
    exact AList.lookup_insert t.entries
  · rw [if_neg h]
    exact AList.lookup_insert_ne h

theorem find_remove : (t.remove p).find q = if q = p then none else t.find q := by
  by_cases h : q = p
  · rw [if_pos h, h]
    exact AList.lookup_erase p t.entries
  · rw [if_neg h]
    exact AList.lookup_erase_ne h

theorem find_move (h : Apart source target) :
    (t.move source target).find p =
      if target <+: p then t.find (source ++ p.drop target.length)
      else if source <+: p then none else t.find p := by
  have hmoved : ∀ e, (t.move source target).find p = some e ↔
      ∃ q, t.find q = some e ∧ ¬ target <+: q ∧ rebase source target q = p := by
    intro e
    simp only [find_eq_some]
    exact mem_rebased
  refine Option.ext fun e => ?_
  rw [hmoved]
  by_cases ht : target <+: p
  · obtain ⟨rel, rfl⟩ := ht
    rw [if_pos (List.prefix_append _ _), List.drop_left]
    constructor
    · rintro ⟨q, hq, hnot, hp⟩
      by_cases hs : source <+: q
      · obtain ⟨rel', rfl⟩ := hs
        rw [rebase_append] at hp
        rw [← List.append_cancel_left hp]
        exact hq
      · rw [rebase_of_not hs] at hp
        exact absurd (hp ▸ List.prefix_append target rel) hnot
    · intro hfound
      exact ⟨source ++ rel, hfound, h.append rel, rebase_append source target rel⟩
  · rw [if_neg ht]
    by_cases hs : source <+: p
    · rw [if_pos hs]
      constructor
      · rintro ⟨q, _, _, hp⟩
        by_cases hsq : source <+: q
        · obtain ⟨rel, rfl⟩ := hsq
          rw [rebase_append] at hp
          exact absurd (hp ▸ List.prefix_append target rel) ht
        · rw [rebase_of_not hsq] at hp
          exact absurd (hp ▸ hs) hsq
      · intro hnone
        cases hnone
    · rw [if_neg hs]
      constructor
      · rintro ⟨q, hq, _, hp⟩
        by_cases hsq : source <+: q
        · obtain ⟨rel, rfl⟩ := hsq
          rw [rebase_append] at hp
          exact absurd (hp ▸ List.prefix_append target rel) ht
        · rw [rebase_of_not hsq] at hp
          exact hp ▸ hq
      · intro hfound
        exact ⟨p, hfound, ht, rebase_of_not hs⟩

theorem below_put (h : ¬ q <+: p) : (t.put p e).below q = t.below q := by
  funext rel
  have hne : q ++ rel ≠ p := fun heq => h (heq ▸ List.prefix_append q rel)
  rw [below, find_put, if_neg hne]
  rfl

theorem below_remove (h : ¬ q <+: p) : (t.remove p).below q = t.below q := by
  funext rel
  have hne : q ++ rel ≠ p := fun heq => h (heq ▸ List.prefix_append q rel)
  rw [below, find_remove, if_neg hne]
  rfl

theorem below_move_target (h : Apart source target) :
    (t.move source target).below target = t.below source := by
  funext rel
  rw [below, find_move h, if_pos (List.prefix_append _ _), List.drop_left]
  rfl

theorem below_move_source (h : Apart source target) :
    (t.move source target).below source = fun _ => none := by
  funext rel
  rw [below, find_move h, if_neg (h.append rel), if_pos (List.prefix_append _ _)]

theorem below_move_apart (h : Apart source target) (hs : Apart q source) (ht : Apart q target) :
    (t.move source target).below q = t.below q := by
  funext rel
  rw [below, find_move h, if_neg (ht.append rel), if_neg (hs.append rel)]
  rfl

/-- What is apart from a directory is apart from everything in it. -/
theorem Apart.inside {root : TreePath} (h : Apart q root) (hp : root <+: p) : Apart q p :=
  ⟨fun hqp => h.not_both hqp hp, fun hpq => h.2 (hp.trans hpq)⟩

theorem find_eq_below (t : FileTree) (p : TreePath) : t.find p = t.below p [] := by
  rw [below, List.append_nil]

/-- What stands somewhere stands in a directory. -/
def Closed (t : FileTree) : Prop :=
  ∀ p e, t.find p = some e → p.dropLast ≠ [] → t.find p.dropLast = some .dir

/-- Where a path is missing, so is everything below it. -/
theorem Closed.below_missing (h : t.Closed) (hp : p ≠ []) (hfind : t.find p = none) :
    t.below p = fun _ => none := by
  funext rel
  rw [below]
  induction rel using List.reverseRecOn with
  | nil => rw [List.append_nil, hfind]
  | append_singleton rel name ih =>
    cases hfound : t.find (p ++ (rel ++ [name])) with
    | none => rfl
    | some e =>
      have hparent : (p ++ (rel ++ [name])).dropLast = p ++ rel := by
        rw [← List.append_assoc, List.dropLast_concat]
      have hdir := h _ _ hfound (by rw [hparent]; simp [hp])
      rw [hparent, ih] at hdir
      cases hdir

end FileTree

end MediaSync
