import MediaSync.Foundation.FileTree

/-!
# System calls on a tree of files

What each call does where it does not fail. An error is one of the exceptions
that programs tell apart, and says of the tree only what is so: a path that is
missing or is there already. A call that raises leaves the tree as it was.
-/

namespace MediaSync

inductive OsError where
  | fileNotFound | fileExists | permission | other
  deriving DecidableEq, Repr

inductive FileKind where
  | file | dir | link | special
  deriving DecidableEq, Repr

/-- The fields of an `os.stat_result` that are read. -/
structure FileStat where
  kind : FileKind
  inode : Nat
  size : Nat
  deriving DecidableEq

def statOf : Entry → FileStat
  | .file inode bytes => ⟨.file, inode, bytes.length⟩
  | .dir => ⟨.dir, 0, 0⟩
  | .link _ => ⟨.link, 0, 0⟩
  | .special => ⟨.special, 0, 0⟩

inductive FileCall where
  | mkdir (p : TreePath)
  | chmod (p : TreePath)
  | lstat (p : TreePath)
  | resolve (p : TreePath)
  | openRead (p : TreePath)
  | openNew (p : TreePath)
  | openLock (p : TreePath)
  | fstat (p : TreePath)
  | read (p : TreePath) (offset : Nat)
  | write (p : TreePath) (view : Bytes)
  | flock (p : TreePath)
  | close (p : TreePath)
  | scandir (p : TreePath)
  | unlink (p : TreePath)
  | rmdir (p : TreePath)
  | replace (source target : TreePath)
  deriving DecidableEq

abbrev FileCall.Reply : FileCall → Type
  | .lstat _ | .fstat _ => FileStat
  | .resolve _ => Bool
  | .read _ _ => Bytes
  | .write _ _ => Nat
  | .scandir _ => List String
  | _ => Unit

/-- The outcome of a call: what it answers and the tree it leaves. -/
abbrev FileOutcome (α : Type) := Except OsError α × FileTree

namespace FileTree

/-- `os.lstat`; the root of all paths is a directory. -/
def stat (t : FileTree) (p : TreePath) : Except OsError FileStat :=
  if p = [] then .ok ⟨.dir, 0, 0⟩
  else match t.find p with
    | none => .error .fileNotFound
    | some e => .ok (statOf e)

/-- A directory to put a name into. -/
def parent (t : FileTree) (p : TreePath) : Except OsError Unit :=
  if t.isDir p.dropLast then .ok ()
  else if t.find p.dropLast = none then .error .fileNotFound else .error .other

def make (t : FileTree) (p : TreePath) (e : Entry) : FileOutcome Unit :=
  if p = [] ∨ t.find p ≠ none then (.error .fileExists, t)
  else match t.parent p with
    | .error e => (.error e, t)
    | .ok () => (.ok (), t.put p e)

/-- `os.open` with `O_CREAT | O_EXCL`. -/
def create (t : FileTree) (p : TreePath) : FileOutcome Unit :=
  match t.make p (.file t.nextInode []) with
  | (.ok (), t') => (.ok (), { t' with nextInode := t.nextInode + 1 })
  | failed => failed

/-- `os.open` with `O_CREAT | O_NOFOLLOW`. -/
def openOrCreate (t : FileTree) (p : TreePath) : FileOutcome Unit :=
  match t.find p with
  | none => t.create p
  | some (.file _ _) | some .special => (.ok (), t)
  | some _ => (.error .other, t)

/-- `os.open` with `O_RDONLY | O_NOFOLLOW`. -/
def openable (t : FileTree) (p : TreePath) : Except OsError Unit :=
  match t.find p with
  | none => .error .fileNotFound
  | some (.link _) => .error .other
  | some _ => .ok ()

/-- `path.resolve(strict=True) == path.absolute()`. -/
def isResolved (t : FileTree) (p : TreePath) : Except OsError Bool :=
  match t.find p with
  | none | some (.link false) => .error .fileNotFound
  | some (.link true) => .ok false
  | some _ => .ok true

def readFrom (t : FileTree) (p : TreePath) (offset limit : Nat) : Except OsError Bytes :=
  match t.find p with
  | some (.file _ bytes) => .ok ((bytes.drop offset).take limit)
  | _ => .error .other

def appendTo (t : FileTree) (p : TreePath) (view : Bytes) : FileOutcome Nat :=
  match t.find p with
  | some (.file inode bytes) => (.ok view.length, t.put p (.file inode (bytes ++ view)))
  | _ => (.error .other, t)

def list (t : FileTree) (p : TreePath) : Except OsError (List String) :=
  if t.isDir p then .ok (t.names p)
  else if t.find p = none then .error .fileNotFound else .error .other

def unlink (t : FileTree) (p : TreePath) : FileOutcome Unit :=
  match t.find p with
  | none => (.error .fileNotFound, t)
  | some .dir => (.error .other, t)
  | some _ => (.ok (), t.remove p)

def rmdir (t : FileTree) (p : TreePath) : FileOutcome Unit :=
  match t.find p with
  | none => (.error .fileNotFound, t)
  | some .dir => if t.names p = [] then (.ok (), t.remove p) else (.error .other, t)
  | some _ => (.error .other, t)

/-- What `rename` may put in the place of `target`: a directory over an empty one only, anything
else over anything else. -/
def replaceable (t : FileTree) (e : Entry) (target : TreePath) : Bool :=
  match t.find target with
  | none => true
  | some .dir => e = .dir && t.names target = []
  | some _ => e ≠ .dir

/-- `os.replace`; neither path may lead to the other. -/
def replace (t : FileTree) (source target : TreePath) : FileOutcome Unit :=
  match t.find source with
  | none => (.error .fileNotFound, t)
  | some e =>
    match t.parent target with
    | .error e => (.error e, t)
    | .ok () =>
      if ¬ source <+: target ∧ ¬ target <+: source ∧ t.replaceable e target = true then
        (.ok (), t.move source target)
      else (.error .other, t)

end FileTree

/-- What a call does that does not fail; `limit` is the most bytes that one transfer moves. -/
def FileCall.effect (limit : Nat) : (c : FileCall) → FileTree → FileOutcome c.Reply
  | .mkdir p, t => t.make p .dir
  | .chmod p, t => ((t.stat p).map (fun _ => ()), t)
  | .lstat p, t => (t.stat p, t)
  | .resolve p, t => (t.isResolved p, t)
  | .openRead p, t => (t.openable p, t)
  | .openNew p, t => t.create p
  | .openLock p, t => t.openOrCreate p
  | .fstat p, t => (t.stat p, t)
  | .read p offset, t => (t.readFrom p offset (max limit 1), t)
  | .write p view, t => t.appendTo p (view.take limit)
  | .flock _, t => (.ok (), t)
  | .close _, t => (.ok (), t)
  | .scandir p, t => (t.list p, t)
  | .unlink p, t => t.unlink p
  | .rmdir p, t => t.rmdir p
  | .replace source target, t => t.replace source target

/-- The call changes nothing at the path nor below it. -/
def FileCall.Spares (q : TreePath) : FileCall → Prop
  | .mkdir p | .openNew p | .openLock p | .write p _ | .unlink p | .rmdir p => ¬ q <+: p
  | .replace source target => FileTree.Apart q source ∧ FileTree.Apart q target
  | _ => True

namespace FileTree

variable {t t' : FileTree} {p q source target : TreePath} {e : Entry}

theorem below_make (h : ¬ q <+: p) : (t.make p e).2.below q = t.below q := by
  unfold make
  split
  · rfl
  · split
    · rfl
    · exact below_put h

theorem below_create (h : ¬ q <+: p) : (t.create p).2.below q = t.below q := by
  have hmake := below_make (t := t) (e := .file t.nextInode []) h
  unfold create
  split
  · rename_i t' heq
    rw [heq] at hmake
    exact hmake
  · exact hmake

theorem below_openOrCreate (h : ¬ q <+: p) : (t.openOrCreate p).2.below q = t.below q := by
  unfold openOrCreate
  split
  · exact below_create h
  · rfl
  · rfl
  · rfl

theorem below_appendTo {view : Bytes} (h : ¬ q <+: p) :
    (t.appendTo p view).2.below q = t.below q := by
  unfold appendTo
  split
  · exact below_put h
  · rfl

theorem below_unlink (h : ¬ q <+: p) : (t.unlink p).2.below q = t.below q := by
  unfold unlink
  split
  · rfl
  · rfl
  · exact below_remove h

theorem below_rmdir (h : ¬ q <+: p) : (t.rmdir p).2.below q = t.below q := by
  unfold rmdir
  split
  · rfl
  · split
    · exact below_remove h
    · rfl
  · rfl

/-- A renaming that succeeds moves what was there, and one that does not does nothing. -/
theorem replace_cases (t : FileTree) (source target : TreePath) :
    (∃ e, t.replace source target = (.error e, t)) ∨
      Apart source target ∧ (∃ e, t.find source = some e) ∧
        t.replace source target = (.ok (), t.move source target) := by
  unfold replace
  cases hsource : t.find source with
  | none => exact .inl ⟨_, rfl⟩
  | some e =>
    cases hparent : t.parent target with
    | error e => exact .inl ⟨_, rfl⟩
    | ok u =>
      dsimp only
      by_cases h : ¬ source <+: target ∧ ¬ target <+: source ∧ t.replaceable e target = true
      · rw [if_pos h]
        exact .inr ⟨⟨h.1, h.2.1⟩, ⟨e, rfl⟩, rfl⟩
      · rw [if_neg h]
        exact .inl ⟨_, rfl⟩

theorem below_replace (hs : Apart q source) (ht : Apart q target) :
    (t.replace source target).2.below q = t.below q := by
  rcases replace_cases t source target with ⟨e, h⟩ | ⟨hapart, _, h⟩
  · rw [h]
  · rw [h]
    exact below_move_apart hapart hs ht

theorem stat_of_find (hp : p ≠ []) :
    t.stat p = match t.find p with
      | none => .error .fileNotFound
      | some e => .ok (statOf e) := by
  rw [stat, if_neg hp]

end FileTree

theorem FileCall.below_effect {c : FileCall} {limit : Nat} {t : FileTree} {q : TreePath}
    (h : c.Spares q) : (c.effect limit t).2.below q = t.below q := by
  cases c with
  | mkdir p => exact FileTree.below_make h
  | openNew p => exact FileTree.below_create h
  | openLock p => exact FileTree.below_openOrCreate h
  | write p view => exact FileTree.below_appendTo h
  | unlink p => exact FileTree.below_unlink h
  | rmdir p => exact FileTree.below_rmdir h
  | replace source target => exact FileTree.below_replace h.1 h.2
  | chmod | lstat | resolve | openRead | fstat | read | flock | close | scandir => rfl

end MediaSync
