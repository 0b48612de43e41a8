import MediaSync.Foundation.ProgramRuns
import MediaSync.Accounts.ProfileAdoption

/-!
# What an adoption leaves alone

Copying, probing, preparing directories and removing temporary ones keep to
paths of their own. The calls that such a part of the adoption can make are
found once, whatever the answers are; what they leave alone, any run of them
leaves alone.
-/

namespace MediaSync.Accounts.ProfileAdoption

open Python Transaction Program

/-- A call that changes none of the contents, and is neither the probe nor the publication. -/
def Spares (ps : List TreePath) : AdoptionCall → Prop
  | .file c => ∀ p ∈ ps, c.Spares p
  | .probe _ | .publish _ _ => False
  | _ => True

/-- What calls that spare the contents leave as it was. -/
structure Spared (host : AdoptionHost) (db : AdoptionDb) (ps : List TreePath)
    (w w' : AdoptionWorld) : Prop where
  contents : ∀ p ∈ ps, w'.files.below p = w.files.below p
  commits : w'.commits = w.commits
  probed : w'.probed = w.probed
  drifts : w.db = host.drift db w.tick → w'.db = host.drift db w'.tick
  raised : w.raised <+: w'.raised

variable {host : AdoptionHost} {db : AdoptionDb} {ps : List TreePath} {w w' w'' : AdoptionWorld}

theorem Spared.refl (w : AdoptionWorld) : Spared host db ps w w :=
  ⟨fun _ _ => rfl, rfl, rfl, id, List.prefix_rfl⟩

theorem Spared.trans (h : Spared host db ps w w') (h' : Spared host db ps w' w'') :
    Spared host db ps w w'' where
  contents p hp := (h'.contents p hp).trans (h.contents p hp)
  commits := h'.commits.trans h.commits
  probed := h'.probed.trans h.probed
  drifts hw := h'.drifts (h.drifts hw)
  raised := h.raised.trans h'.raised

theorem arrive_spared (ps : List TreePath) (w : AdoptionWorld) : Spared host db ps w (host.arrive w) where
  contents _ _ := rfl
  commits := rfl
  probed := rfl
  drifts h := by
    rw [AdoptionHost.arrive, h]
    rfl
  raised := List.prefix_rfl

/-- A call on the file system, whether it fails or not. -/
theorem performFile_spared {c : FileCall} (h : ∀ p ∈ ps, c.Spares p) (w : AdoptionWorld) :
    Spared host db ps w (host.performFile c w).2 where
  contents p hp := by
    change (host.outcome c w).2.below p = w.files.below p
    unfold AdoptionHost.outcome
    split
    · rfl
    · exact FileCall.below_effect (h p hp)
  commits := rfl
  probed := rfl
  drifts hw := (arrive_spared ps w).drifts hw
  raised := List.prefix_append _ _

theorem performSnapshot_world (accountId : String) (revision : Nat) (w : AdoptionWorld) :
    (host.performSnapshot accountId revision w).2 = host.arrive w := by
  unfold AdoptionHost.performSnapshot
  split <;> rfl

/-- Any call that spares the contents. -/
theorem perform_spared {c : AdoptionCall} (h : Spares ps c) (w : AdoptionWorld) :
    Spared host db ps w (host.perform c w).2 := by
  cases c with
  | file c => exact performFile_spared h w
  | isSet | now | release => exact arrive_spared ps w
  | snapshot accountId revision =>
    have hworld : (host.perform (.snapshot accountId revision) w).2 = host.arrive w :=
      performSnapshot_world accountId revision w
    rw [hworld]
    exact arrive_spared ps w
  | probe | publish => exact h.elim

/-- What holds before the exchange begins: no rows were written by it, and the exceptions are not
those of taking it back or of clearing it away. -/
def Early (e : Raised) : Prop := e ≠ .adoption .cleanupFailed ∧ e ≠ .adoption .rollbackFailed

instance (e : Raised) : Decidable (Early e) := inferInstanceAs (Decidable (_ ∧ _))

theorem early_os (e : OsError) : Early (.os e) := ⟨nofun, nofun⟩

abbrev Modest (ps : List TreePath) {α : Type} (m : Adoption α) : Prop := Only (Spares ps) Early m

/-- A program that keeps to such calls. -/
theorem upholds_spared (host : AdoptionHost) (db : AdoptionDb) {α : Type} {m : Adoption α}
    {raises : Raised → Prop} (h : Only (Spares ps) raises m) (w : AdoptionWorld) :
    Upholds host.perform (Spared host db ps w)
      (fun r t => Spared host db ps w t ∧ ∀ e, r = .error e → raises e) m w :=
  Upholds.of_only h Spared.refl (fun _ _ _ h h' => h.trans h') (fun _ t h => perform_spared h t)

section Handlers

variable {α : Type} {code : AdoptionCode} {raises : Raised → Prop}

/-- An error of the system is the only exception of a call. -/
theorem only_file {c : FileCall} (hos : ∀ e, raises (.os e)) (h : ∀ p ∈ ps, c.Spares p) :
    Only (Spares ps) raises (file c) := by
  refine Only.bind (Only.ask h) fun r => ?_
  cases r with
  | ok a => exact Only.pure a
  | error e => exact Only.throw (hos e)

/-- An error of the system is exchanged for a code. -/
theorem only_onOsError {m : Adoption α} (hm : Only (Spares ps) raises m)
    (hcode : raises (.adoption code)) : Only (Spares ps) raises (onOsError code m) := by
  refine hm.catching fun e he => ?_
  cases e with
  | os e => exact Only.throw hcode
  | adoption | db | other => exact Only.throw he

def IsOs (e : Raised) : Prop := ∃ o, e = .os o

/-- What raises nothing but errors of the system raises nothing when they are suppressed. -/
theorem only_suppress {m : Adoption Unit} (hm : Only (Spares ps) (fun e => IsOs e ∨ raises e) m) :
    Only (Spares ps) raises (suppress m) := by
  refine hm.catching fun e he => ?_
  cases e with
  | os e => exact Only.pure ()
  | adoption | db | other =>
    rcases he with ⟨o, ho⟩ | he
    · cases ho
    · exact Only.throw he

theorem only_orMissing {m : Adoption α} {missing : α} (hm : Only (Spares ps) raises m) :
    Only (Spares ps) raises (orMissing m missing) := by
  refine hm.catching fun e he => ?_
  cases e with
  | os e =>
    cases e with
    | fileNotFound => exact Only.pure missing
    | fileExists | permission | other => exact Only.throw he
  | adoption | db | other => exact Only.throw he

theorem only_lstatIfThere (hos : ∀ e, raises (.os e)) (path : TreePath) :
    Only (Spares ps) raises (lstatIfThere path) :=
  only_orMissing ((only_file (c := .lstat path) hos fun _ _ => trivial).bind fun _ => Only.pure _)

theorem only_pathExists (hos : ∀ e, raises (.os e)) (path : TreePath) :
    Only (Spares ps) raises (pathExists path) :=
  only_orMissing ((only_file (c := .lstat path) hos fun _ _ => trivial).bind fun _ => Only.pure _)

theorem modest_file {c : FileCall} (h : ∀ p ∈ ps, c.Spares p) : Modest ps (file c) :=
  only_file early_os h

theorem modest_onOsError {m : Adoption α} (hm : Modest ps m)
    (hcode : Early (.adoption code) := by decide) : Modest ps (onOsError code m) :=
  only_onOsError hm hcode

theorem modest_suppress {m : Adoption Unit} (hm : Modest ps m) : Modest ps (suppress m) :=
  only_suppress (hm.mono (fun _ h => h) fun _ h => .inr h)

end Handlers

/-- Nothing that is to be spared contains the path. -/
def Clear (ps : List TreePath) (path : TreePath) : Prop := ∀ q ∈ ps, ¬ q <+: path

/-- Nothing that is to be spared has anything to do with the directory. -/
def ClearBelow (ps : List TreePath) (root : TreePath) : Prop := ∀ q ∈ ps, FileTree.Apart q root

theorem ClearBelow.clear {root : TreePath} (h : ClearBelow ps root) : Clear ps root :=
  fun q hq => (h q hq).1

theorem ClearBelow.inside {root : TreePath} (h : ClearBelow ps root) (rel : TreePath) :
    ClearBelow ps (root ++ rel) :=
  fun q hq => (h q hq).inside (List.prefix_append root rel)

theorem modest_requireRealDirectory (path : TreePath) {missingCode invalidCode : AdoptionCode}
    (hmissing : Early (.adoption missingCode) := by decide)
    (hinvalid : Early (.adoption invalidCode) := by decide) :
    Modest ps (requireRealDirectory path missingCode invalidCode) := by
  have hinspect : Modest ps (inspect path) :=
    (modest_file (c := .lstat path) fun _ _ => trivial).bind fun _ =>
      (modest_file (c := .resolve path) fun _ _ => trivial).bind fun _ => Only.pure _
  refine (hinspect.catching fun e he => ?_).bind fun r =>
    (Only.require fun _ => hinvalid).bind fun _ => Only.pure _
  cases e with
  | os e =>
    cases e with
    | fileNotFound => exact Only.throw hmissing
    | fileExists | permission | other => exact Only.throw hinvalid
  | adoption | db | other => exact Only.throw he

theorem modest_ensureRealDirectory {path : TreePath} (h : Clear ps path) :
    Modest ps (ensureRealDirectory path) := by
  refine Only.bind (Only.catching (modest_file h) fun e he => ?_) fun _ =>
    (modest_requireRealDirectory path).bind fun _ =>
      modest_suppress (modest_file (c := .chmod path) fun _ _ => trivial)
  cases e with
  | os e =>
    cases e with
    | fileExists => exact Only.pure ()
    | fileNotFound | permission | other => exact Only.throw (by decide)
  | adoption | db | other => exact Only.throw he

section Copying

variable {source destination : TreePath}

theorem modest_writeView (h : Clear ps destination) (n : Nat) (view : MediaSync.Bytes) (copied : Nat) :
    Modest ps (writeView destination n view copied) := by
  induction n generalizing view copied with
  | zero => exact Only.pure copied
  | succ n ih =>
    unfold writeView
    by_cases hview : view = []
    · rw [if_pos hview]
      exact Only.pure copied
    · rw [if_neg hview]
      exact (modest_file (c := .write destination view) h).bind fun written =>
        (Only.require fun _ => early_os _).bind fun _ => ih _ _

theorem modest_copyBlocks (h : Clear ps destination) (n copied : Nat) :
    Modest ps (copyBlocks source destination n copied) := by
  induction n generalizing copied with
  | zero => exact Only.pure copied
  | succ n ih =>
    refine (modest_file (c := .read source copied) fun _ _ => trivial).bind fun block => ?_
    by_cases hblock : block.take copyChunkBytes = []
    · rw [if_pos hblock]
      exact Only.pure copied
    · rw [if_neg hblock]
      exact (modest_writeView h _ _ _).bind fun _ => ih _

theorem modest_copyRegularFile {expected : FileStat} (h : Clear ps destination) :
    Modest ps (copyRegularFile source destination expected) := by
  have hopen : Modest ps (openCopy source destination expected) :=
    (modest_file (c := .fstat source) fun _ _ => trivial).bind fun _ =>
      (Only.require fun _ => early_os _).bind fun _ => modest_file (c := .openNew destination) h
  have hcopy : Modest ps (copyOpened source destination expected) :=
    (modest_copyBlocks h _ _).bind fun _ =>
      (modest_file (c := .fstat source) fun _ _ => trivial).bind fun _ =>
        (modest_file (c := .lstat source) fun _ _ => trivial).bind fun _ =>
          (Only.require fun _ => early_os _).bind fun _ => Only.pure _
  have hclose : ∀ path, Modest ps (file (.close path)) :=
    fun path => modest_file (c := .close path) fun _ _ => trivial
  refine (modest_file (c := .openRead source) fun _ _ => trivial).bind fun _ => ?_
  refine (hopen.catching fun e he => (hclose source).bind fun _ => Only.throw he).bind fun _ => ?_
  exact hcopy.ensuring ((hclose destination).bind fun _ => hclose source)

theorem modest_makeCopy (h : Clear ps destination) : Modest ps (makeCopy source destination) :=
  (modest_file (c := .lstat source) fun _ _ => trivial).bind fun _ =>
    (Only.require fun _ => early_os _).bind fun _ => modest_file (c := .mkdir destination) h

theorem modest_copyEntry {copyDirectory : TreePath → TreePath → Adoption CopyStats} {name : String}
    (h : ClearBelow ps destination)
    (hcopy : Modest ps (copyDirectory (source ++ [name]) (destination ++ [name]))) :
    Modest ps (copyEntry copyDirectory source destination name) := by
  have hname := (h.inside [name]).clear
  refine (modest_onOsError (modest_file (c := .lstat _) fun _ _ => trivial)).bind fun info => ?_
  cases info.kind with
  | link => exact Only.pure _
  | special => exact Only.pure _
  | dir => exact (modest_onOsError (modest_makeCopy hname)).bind fun _ => hcopy
  | file => exact (modest_onOsError (modest_copyRegularFile hname)).bind fun _ => Only.pure _

theorem modest_forEntries {copyEntry : String → Adoption CopyStats}
    (h : ∀ name, Modest ps (copyEntry name)) (names : List String) (result : CopyStats) :
    Modest ps (forEntries copyEntry names result) := by
  induction names generalizing result with
  | nil => exact Only.pure result
  | cons name rest ih => exact (h name).bind fun _ => ih _

/-- A copy is made below its destination only. -/
theorem modest_copyDirectory (depth : Nat) (h : ClearBelow ps destination) :
    Modest ps (copyDirectory depth source destination) := by
  induction depth generalizing source destination with
  | zero => exact Only.throw (by decide)
  | succ depth ih =>
    exact (modest_onOsError (modest_file (c := .scandir source) fun _ _ => trivial)).bind fun _ =>
      modest_forEntries (fun name => modest_copyEntry h (ih (h.inside [name]))) _ _

theorem modest_copyProfileTree (depth : Nat) (h : ClearBelow ps destination) :
    Modest ps (copyProfileTree depth source destination) :=
  (modest_requireRealDirectory source).bind fun _ =>
    (modest_onOsError (modest_file (c := .mkdir destination) h.clear)).bind fun _ =>
      (modest_copyDirectory depth h).bind fun _ =>
        (Only.require fun _ => by decide).bind fun _ => Only.pure _

end Copying

section Removing

variable {path : TreePath} {raises : Raised → Prop} (hos : ∀ e, raises (.os e))

include hos

theorem only_insisting {c : FileCall} (h : ∀ p ∈ ps, c.Spares p) :
    Only (Spares ps) raises (insisting path c) := by
  have hcall : Only (Spares ps) raises (file c) := only_file hos h
  have hchmod : Only (Spares ps) raises (suppress (file (.chmod path))) :=
    only_suppress (only_file (fun e => .inl ⟨e, rfl⟩) fun _ _ => trivial)
  refine (hcall.bind fun _ => Only.pure ()).catching fun e he => ?_
  cases e with
  | os e =>
    cases e with
    | permission => exact hchmod.bind fun _ => hcall.bind fun _ => Only.pure ()
    | fileNotFound | fileExists | other => exact Only.throw he
  | adoption | db | other => exact Only.throw he

theorem only_removeEntry {removeTree : TreePath → Adoption Unit} {name : String}
    (h : ClearBelow ps path) (hremove : Only (Spares ps) raises (removeTree (path ++ [name]))) :
    Only (Spares ps) raises (removeEntry removeTree path name) := by
  refine (only_lstatIfThere hos _).bind fun info => ?_
  cases info with
  | none => exact Only.pure ()
  | some info =>
    dsimp only
    by_cases hdir : info.kind = .dir
    · rw [if_pos hdir]
      exact hremove
    · rw [if_neg hdir]
      exact only_insisting hos (h.inside [name]).clear

/-- A tree is removed below its root only. -/
theorem only_removeTree (depth : Nat) (h : ClearBelow ps path) :
    Only (Spares ps) raises (removeTree depth path) := by
  induction depth generalizing path with
  | zero => exact Only.throw (hos _)
  | succ depth ih =>
    refine (only_lstatIfThere hos path).bind fun info => ?_
    cases info with
    | none => exact Only.pure ()
    | some info =>
      dsimp only
      by_cases hdir : info.kind ≠ .dir
      · rw [if_pos hdir]
        exact only_insisting hos h.clear
      · rw [if_neg hdir]
        refine Only.bind (only_orMissing
          ((only_file (c := .scandir path) hos fun _ _ => trivial).bind fun _ => Only.pure _))
          fun listed => ?_
        cases listed with
        | none => exact Only.pure ()
        | some names =>
          exact (Only.forEach fun name => only_removeEntry hos h (ih (h.inside [name]))).bind
            fun _ => only_insisting hos h.clear

end Removing

theorem modest_checkCancelled : Modest ps checkCancelled :=
  (Only.ask trivial).bind fun _ => Only.require fun _ => by decide

theorem modest_now : Modest ps now := by
  refine Only.bind (Only.ask trivial) fun value => ?_
  cases value with
  | none => exact Only.throw (by decide)
  | some value => exact Only.pure value

theorem early_code (code : AccountCode) : Early (.adoption code.code) := by
  cases code <;> decide

/-- The staging directory is inside the account root. -/
theorem modest_prepareStaging (depth : Nat) {paths : RunPaths}
    (hroot : Clear ps paths.integrationRoot)
    (haccounts : Clear ps (paths.integrationRoot ++ ["accounts"]))
    (hparent : Clear ps paths.accountRoot.dropLast) (h : ClearBelow ps paths.accountRoot) :
    Modest ps (prepareStaging depth paths) := by
  refine (modest_ensureRealDirectory hroot).bind fun _ =>
    (modest_ensureRealDirectory haccounts).bind fun _ =>
    (modest_ensureRealDirectory hparent).bind fun _ =>
    (modest_onOsError (modest_file (c := .mkdir _) h.clear)).bind fun _ => ?_
  refine Only.catching ((modest_requireRealDirectory paths.accountRoot).bind fun _ =>
    modest_ensureRealDirectory (h.inside ["browser_data"]).clear) fun e he => ?_
  exact (modest_suppress (only_removeTree early_os depth h)).bind fun _ => Only.throw he

theorem modest_prepareTarget {paths : RunPaths} (hroot : Clear ps paths.integrationRoot)
    (haccounts : Clear ps (paths.integrationRoot ++ ["accounts"]))
    (hparent : Clear ps paths.accountRoot.dropLast) (haccount : Clear ps paths.accountRoot)
    (hprofiles : Clear ps paths.profileRoot.dropLast) : Modest ps (prepareTarget paths) :=
  (modest_ensureRealDirectory hroot).bind fun _ =>
    (modest_ensureRealDirectory haccounts).bind fun _ =>
    (modest_ensureRealDirectory hparent).bind fun _ =>
    (modest_ensureRealDirectory haccount).bind fun _ => modest_ensureRealDirectory hprofiles

theorem modest_acquire {lock : TreePath} (h : Clear ps lock) : Modest ps (acquire lock) := by
  have hmark : ∀ opened, Modest ps (markLock lock opened) := by
    intro opened
    unfold markLock
    split
    · exact (modest_file (c := .write lock _) h).bind fun _ => Only.pure ()
    · exact Only.pure ()
  have hopen : Modest ps (openAndLock lock) := by
    refine (modest_file (c := .openLock lock) h).bind fun _ =>
      (modest_file (c := .fstat lock) fun _ _ => trivial).bind fun opened => ?_
    by_cases hkind : opened.kind ≠ .file
    · rw [if_pos hkind]
      exact (modest_file (c := .close lock) fun _ _ => trivial).bind fun _ => Only.pure false
    · rw [if_neg hkind]
      exact (hmark opened).bind fun _ =>
        (modest_file (c := .flock lock) fun _ _ => trivial).bind fun _ => Only.pure true
  have htry : Modest ps (tryLock lock) := by
    refine (only_lstatIfThere early_os lock).bind fun info => ?_
    by_cases hlink : info.any (fun i => i.kind = .link)
    · rw [if_pos hlink]
      exact Only.pure false
    · rw [if_neg hlink]
      exact hopen
  refine htry.catching fun e he => ?_
  cases e with
  | os e =>
    exact (modest_suppress (modest_file (c := .close lock) fun _ _ => trivial)).bind fun _ =>
      Only.pure false
  | adoption | db | other => exact Only.throw he

end MediaSync.Accounts.ProfileAdoption
