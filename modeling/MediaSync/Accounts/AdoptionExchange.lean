import MediaSync.Accounts.AdoptionFrames

/-!
# The exchange of two profiles

Where the former profile is while the new one takes its place, renaming by
renaming. Until the account is published the former profile stands whole at the
target or at the backup; once it is published the staged copy stands at the
target, whatever fails afterwards.
-/

namespace MediaSync.Accounts.ProfileAdoption

open Python Transaction Program FileTree

/-- Paths that have nothing to do with each other. -/
structure Laid (p : AdoptionPaths) : Prop where
  targetBackup : Apart p.target.profileRoot p.backup
  targetStaging : Apart p.target.profileRoot p.staging.accountRoot
  backupStaging : Apart p.backup p.staging.accountRoot
  staged : p.staging.accountRoot <+: p.staging.profileRoot
  target : p.target.profileRoot ≠ []

namespace Laid

variable {p : AdoptionPaths}

theorem targetCandidate (h : Laid p) : Apart p.target.profileRoot p.staging.profileRoot :=
  h.targetStaging.inside h.staged

theorem backupCandidate (h : Laid p) : Apart p.backup p.staging.profileRoot :=
  h.backupStaging.inside h.staged

end Laid

/-- After a renaming back had failed, the look at what it left failed as well. -/
def LookLost (p : AdoptionPaths) (raised : List (FileCall × OsError)) : Prop :=
  ∃ undo look o o',
    (undo = .replace p.target.profileRoot p.staging.profileRoot ∨
      undo = .replace p.backup p.target.profileRoot) ∧
    (look = .lstat p.target.profileRoot ∨ look = .lstat p.staging.profileRoot) ∧
    o' ≠ .fileNotFound ∧ [(undo, o), (look, o')].Sublist raised

theorem LookLost.later {p : AdoptionPaths} {raised raised' : List (FileCall × OsError)}
    (h : LookLost p raised) (hlater : raised <+: raised') : LookLost p raised' := by
  obtain ⟨undo, look, o, o', hundo, hlook, ho, hsub⟩ := h
  exact ⟨undo, look, o, o', hundo, hlook, ho, hsub.trans hlater.sublist⟩

section Phases

variable (host : AdoptionHost) (db : AdoptionDb) (p : AdoptionPaths)
  (was : TreePath → Option Entry) (s : AccountSnapshot)

/-- No transaction was committed; the rows are as the others left them. -/
structure Unpublished (w : AdoptionWorld) : Prop where
  commits : w.commits = []
  rows : w.db = host.drift db w.tick

/-- The copy that the probe answered about. -/
structure Probed (answer : ProbeAnswer) (content : TreePath → Option Entry) (w : AdoptionWorld) :
    Prop where
  staged : ∃ tree, w.probed = some (answer, tree) ∧ content = tree.below p.staging.profileRoot

/-- The account and what the transaction says of it, with the copy at its target. -/
structure Published (answer : ProbeAnswer) (content : TreePath → Option Entry)
    (published : Nat × Nat) (w : AdoptionWorld) : Prop where
  committed : ∃ before after current, w.commits = [(before, after)] ∧
    publishing host.repo s current before = (.ok published, after)
  probed : Probed p answer content w
  target : w.files.below p.target.profileRoot = content

/-- An account that had a profile has it still, at the target or at the backup. -/
structure Recoverable (w : AdoptionWorld) : Prop where
  unpublished : Unpublished host db w
  kept : was [] ≠ none →
    w.files.below p.target.profileRoot = was ∨ w.files.below p.backup = was

/-- What holds at every moment of the exchange. -/
def Safe (answer : ProbeAnswer) (content : TreePath → Option Entry) (w : AdoptionWorld) : Prop :=
  Recoverable host db p was w ∨ ∃ published, Published host p s answer content published w

/-- The exchange has not begun. -/
structure Ready (answer : ProbeAnswer) (content : TreePath → Option Entry) (w : AdoptionWorld) :
    Prop where
  unpublished : Unpublished host db w
  probed : Probed p answer content w
  target : w.files.below p.target.profileRoot = was
  candidate : w.files.below p.staging.profileRoot = content

/-- The former profile is out of the way. -/
structure Aside (had : Bool) (answer : ProbeAnswer) (content : TreePath → Option Entry)
    (w : AdoptionWorld) : Prop where
  unpublished : Unpublished host db w
  probed : Probed p answer content w
  backup : had = true → w.files.below p.backup = was
  absent : had = false → was = fun _ => none

/-- The copy stands at the target. -/
structure Installed (had : Bool) (answer : ProbeAnswer) (content : TreePath → Option Entry)
    (w : AdoptionWorld) : Prop where
  aside : Aside host db p was had answer content w
  target : w.files.below p.target.profileRoot = content

end Phases

variable {host : AdoptionHost} {db : AdoptionDb} {p : AdoptionPaths}
  {was : TreePath → Option Entry} {s : AccountSnapshot} {had : Bool} {answer : ProbeAnswer}
  {content : TreePath → Option Entry} {published : Nat × Nat} {ps : List TreePath}
  {w w' : AdoptionWorld}

theorem Unpublished.spared (h : Unpublished host db w) (hs : Spared host db ps w w') :
    Unpublished host db w' :=
  ⟨hs.commits.trans h.commits, hs.drifts h.rows⟩

theorem Probed.spared (h : Probed p answer content w) (hs : Spared host db ps w w') :
    Probed p answer content w' := by
  obtain ⟨tree, htree, hcontent⟩ := h.staged
  exact ⟨tree, hs.probed.trans htree, hcontent⟩

theorem Published.spared (h : Published host p s answer content published w)
    (hs : Spared host db ps w w') (hp : p.target.profileRoot ∈ ps) :
    Published host p s answer content published w' where
  committed := by
    rw [hs.commits]
    exact h.committed
  probed := h.probed.spared hs
  target := (hs.contents _ hp).trans h.target

theorem Recoverable.spared (h : Recoverable host db p was w) (hs : Spared host db ps w w')
    (hp : p.target.profileRoot ∈ ps) (hb : p.backup ∈ ps) : Recoverable host db p was w' where
  unpublished := h.unpublished.spared hs
  kept hwas := by
    rw [hs.contents _ hp, hs.contents _ hb]
    exact h.kept hwas

theorem Safe.spared (h : Safe host db p was s answer content w) (hs : Spared host db ps w w')
    (hp : p.target.profileRoot ∈ ps) (hb : p.backup ∈ ps) :
    Safe host db p was s answer content w' := by
  rcases h with h | ⟨published, h⟩
  · exact .inl (h.spared hs hp hb)
  · exact .inr ⟨published, h.spared hs hp⟩

theorem Ready.spared (h : Ready host db p was answer content w) (hs : Spared host db ps w w')
    (hp : p.target.profileRoot ∈ ps) (hc : p.staging.profileRoot ∈ ps) :
    Ready host db p was answer content w' where
  unpublished := h.unpublished.spared hs
  probed := h.probed.spared hs
  target := (hs.contents _ hp).trans h.target
  candidate := (hs.contents _ hc).trans h.candidate

theorem Aside.spared (h : Aside host db p was had answer content w)
    (hs : Spared host db ps w w') (hb : p.backup ∈ ps) :
    Aside host db p was had answer content w' where
  unpublished := h.unpublished.spared hs
  probed := h.probed.spared hs
  backup hhad := (hs.contents _ hb).trans (h.backup hhad)
  absent := h.absent

theorem Installed.spared (h : Installed host db p was had answer content w)
    (hs : Spared host db ps w w') (hp : p.target.profileRoot ∈ ps) (hb : p.backup ∈ ps) :
    Installed host db p was had answer content w' where
  aside := h.aside.spared hs hb
  target := (hs.contents _ hp).trans h.target

theorem Ready.safe (h : Ready host db p was answer content w) :
    Safe host db p was s answer content w :=
  .inl ⟨h.unpublished, fun _ => .inl h.target⟩

theorem Aside.safe (h : Aside host db p was had answer content w) :
    Safe host db p was s answer content w := by
  refine .inl ⟨h.unpublished, fun hwas => ?_⟩
  cases had with
  | true => exact .inr (h.backup rfl)
  | false =>
    rw [h.absent rfl] at hwas
    exact absurd rfl hwas

/-- A part that keeps to other paths goes on from a phase that such parts keep. -/
theorem Modest.keeps {α : Type} {m : Adoption α} {I J : AdoptionWorld → Prop} (h : Modest ps m)
    (hJ : ∀ t, Spared host db ps w t → J t) (hI : ∀ t, J t → I t) :
    Upholds host.perform I (fun r t => J t ∧ ∀ e, r = .error e → Early e) m w :=
  (upholds_spared host db h w).mono (fun t ht => hI t (hJ t ht)) (fun _ t _ hpost => ⟨hJ t hpost.1, hpost.2⟩)

theorem upholds_file {c : FileCall} {I : AdoptionWorld → Prop}
    {post : Except Raised c.Reply → AdoptionWorld → Prop} (hI : I w)
    (hok : ∀ a, (host.outcome c w).1 = .ok a →
      I (host.performFile c w).2 ∧ post (.ok a) (host.performFile c w).2)
    (herror : ∀ e, (host.outcome c w).1 = .error e →
      I (host.performFile c w).2 ∧ post (.error (.os e)) (host.performFile c w).2) :
    Upholds host.perform I post (file c) w := by
  refine ⟨hI, ?_⟩
  change Upholds host.perform I post
    (match (host.outcome c w).1 with
      | .ok a => pure a
      | .error e => Prog.throw (.os e)) (host.performFile c w).2
  cases hanswer : (host.outcome c w).1 with
  | ok a => exact hok a hanswer
  | error e => exact herror e hanswer

theorem upholds_ask (host : AdoptionHost) (c : AdoptionCall) {I : AdoptionWorld → Prop} (hI : I w)
    (hafter : I (host.perform c w).2) :
    Upholds host.perform I (fun r t => r = .ok (host.perform c w).1 ∧ t = (host.perform c w).2)
      (Prog.ask c : Adoption c.Reply) w :=
  Upholds.ask hI hafter ⟨rfl, rfl⟩

theorem performFile_files (c : FileCall) (w : AdoptionWorld) :
    (host.performFile c w).2.files = (host.outcome c w).2 := rfl

theorem performFile_raised {c : FileCall} {e : OsError} (h : (host.outcome c w).1 = .error e) :
    (host.performFile c w).2.raised = w.raised ++ [(c, e)] := by
  change w.raised ++ AdoptionHost.recorded c (host.outcome c w).1 = _
  rw [h]
  rfl

/-- A step changes the files, the record of what was raised, and what the others write. -/
theorem Unpublished.file {c : FileCall} (h : Unpublished host db w) :
    Unpublished host db (host.performFile c w).2 where
  commits := h.commits
  rows := by
    change host.others w.tick w.db = host.drift db (w.tick + 1)
    rw [h.rows]
    rfl

theorem Probed.file {c : FileCall} (h : Probed p answer content w) :
    Probed p answer content (host.performFile c w).2 :=
  ⟨h.staged⟩

/-- A renaming moves what it names or does nothing at all. -/
theorem outcome_replace (host : AdoptionHost) (source target : TreePath) (w : AdoptionWorld) :
    (∃ e, host.outcome (.replace source target) w = (.error e, w.files)) ∨
      Apart source target ∧
        host.outcome (.replace source target) w = (.ok (), w.files.move source target) := by
  unfold AdoptionHost.outcome
  cases host.faults w.tick with
  | some fault => exact .inl ⟨_, rfl⟩
  | none =>
    rcases replace_cases w.files source target with ⟨e, h⟩ | ⟨hapart, _, h⟩
    · exact .inl ⟨e, h⟩
    · exact .inr ⟨hapart, h⟩

theorem upholds_replace {source target : TreePath} {I : AdoptionWorld → Prop}
    {post : Except Raised Unit → AdoptionWorld → Prop} (hI : I w)
    (hok : Apart source target →
      (host.performFile (.replace source target) w).2.files = w.files.move source target →
      I (host.performFile (.replace source target) w).2 ∧
        post (.ok ()) (host.performFile (.replace source target) w).2)
    (herror : ∀ e, (host.performFile (.replace source target) w).2.files = w.files →
      (host.performFile (.replace source target) w).2.raised =
        w.raised ++ [(.replace source target, e)] →
      I (host.performFile (.replace source target) w).2 ∧
        post (.error (.os e)) (host.performFile (.replace source target) w).2) :
    Upholds host.perform I post (file (.replace source target)) w := by
  rcases outcome_replace host source target w with ⟨e, h⟩ | ⟨hapart, h⟩
  · refine upholds_file (c := .replace source target) hI (fun a ha => ?_) (fun e' he => ?_)
    · rw [h] at ha
      cases ha
    · refine herror e' ?_ (performFile_raised he)
      rw [performFile_files, h]
  · refine upholds_file (c := .replace source target) hI (fun a _ => ?_) (fun e' he => ?_)
    · refine hok hapart ?_
      rw [performFile_files, h]
    · rw [h] at he
      cases he

/-- What a look finds: the path is missing, or it is there, or the look fails. -/
theorem upholds_pathExists {path : TreePath} {I : AdoptionWorld → Prop}
    {post : Except Raised Bool → AdoptionWorld → Prop} (hpath : path ≠ []) (hI : I w)
    (hI' : I (host.performFile (.lstat path) w).2)
    (hok : ∀ b, (host.performFile (.lstat path) w).2.files = w.files →
      (b = false → w.files.find path = none) →
      post (.ok b) (host.performFile (.lstat path) w).2)
    (herror : ∀ e, e ≠ .fileNotFound →
      (host.performFile (.lstat path) w).2.raised = w.raised ++ [(.lstat path, e)] →
      post (.error (.os e)) (host.performFile (.lstat path) w).2) :
    Upholds host.perform I post (pathExists path) w := by
  have hfiles : (host.outcome (.lstat path) w).2 = w.files := by
    unfold AdoptionHost.outcome
    split <;> rfl
  have hmissing : (host.outcome (.lstat path) w).1 = .error .fileNotFound →
      w.files.find path = none := by
    unfold AdoptionHost.outcome
    cases host.faults w.tick with
    | some fault =>
      intro h
      cases fault <;> cases h
    | none =>
      intro h
      change w.files.stat path = _ at h
      rw [stat_of_find hpath] at h
      cases hfound : w.files.find path with
      | none => rfl
      | some e =>
        rw [hfound] at h
        cases h
  have hlook : Upholds host.perform I
      (fun r t => t = (host.performFile (.lstat path) w).2 ∧ match r with
        | .ok _ => True
        | .error e => ∃ o, e = .os o ∧ (host.outcome (.lstat path) w).1 = .error o)
      (file (.lstat path)) w :=
    upholds_file hI (fun _ _ => ⟨hI', rfl, trivial⟩) (fun e he => ⟨hI', rfl, e, rfl, he⟩)
  have hthere : Upholds host.perform I
      (fun r t => t = (host.performFile (.lstat path) w).2 ∧ match r with
        | .ok b => b = true
        | .error e => ∃ o, e = .os o ∧ (host.outcome (.lstat path) w).1 = .error o)
      (do
        let _ ← file (.lstat path)
        pure true) w :=
    hlook.bind (fun _ t ht h => Upholds.pure ht ⟨h.1, rfl⟩) (fun _ _ _ h => h)
  refine hthere.catching (fun b t _ h => ?_) (fun e t ht h => ?_)
  · obtain ⟨rfl, rfl⟩ := h
    exact hok true hfiles nofun
  · obtain ⟨rfl, o, rfl, ho⟩ := h
    by_cases hnot : o = .fileNotFound
    · subst hnot
      exact Upholds.pure ht (hok false hfiles fun _ => hmissing ho)
    · cases o with
      | fileNotFound => exact absurd rfl hnot
      | fileExists | permission | other =>
        exact Upholds.throw ht (herror _ nofun (performFile_raised ho))

/-! ## The two renamings -/

/-- The contents that the exchange moves. -/
def AdoptionPaths.contents (p : AdoptionPaths) : List TreePath :=
  [p.target.profileRoot, p.backup, p.staging.profileRoot]

theorem target_mem (p : AdoptionPaths) : p.target.profileRoot ∈ p.contents :=
  List.mem_cons_self

theorem backup_mem (p : AdoptionPaths) : p.backup ∈ p.contents :=
  List.mem_cons_of_mem _ List.mem_cons_self

theorem candidate_mem (p : AdoptionPaths) : p.staging.profileRoot ∈ p.contents :=
  List.mem_cons_of_mem _ (List.mem_cons_of_mem _ List.mem_cons_self)

/-- An exception before the account is published: the former profile is where it was, unless the
exception says otherwise or a look at a failed restoration failed as well. -/
structure Refused (host : AdoptionHost) (db : AdoptionDb) (p : AdoptionPaths)
    (was : TreePath → Option Entry) (e : Raised) (w : AdoptionWorld) : Prop where
  unpublished : Unpublished host db w
  early : e ≠ .adoption .cleanupFailed
  restored : e = .adoption .rollbackFailed ∨ w.files.below p.target.profileRoot = was ∨
    IsOs e ∧ LookLost p w.raised

theorem Ready.refused {e : Raised} (h : Ready host db p was answer content w) (he : Early e) :
    Refused host db p was e w :=
  ⟨h.unpublished, he.1, .inr (.inl h.target)⟩

/-- The profile is set aside, if there is one. -/
theorem setAside_upholds (hp : Laid p) (hwas : was [] = none → was = fun _ => none)
    (h : Ready host db p was answer content w) :
    Upholds host.perform (Safe host db p was s answer content) (fun r t => match r with
      | .ok had => Aside host db p was had answer content t ∧
          t.files.below p.staging.profileRoot = content ∧
          (had = false → t.files.below p.target.profileRoot = was)
      | .error e => Refused host db p was e t)
      p.replacement.setAside w := by
  have hlooked : ∀ t, Spared host db p.contents w t → Ready host db p was answer content t :=
    fun t ht => h.spared ht (target_mem p) (candidate_mem p)
  have hlook : Spared host db p.contents w
      (host.performFile (.lstat p.target.profileRoot) w).2 :=
    performFile_spared (c := .lstat _) (fun _ _ => trivial) w
  have hthere : Upholds host.perform (Safe host db p was s answer content)
      (fun r t => match r with
        | .ok b => Ready host db p was answer content t ∧
            (b = false → t.files.find p.target.profileRoot = none)
        | .error e => Refused host db p was e t)
      (pathExists p.target.profileRoot) w := by
    refine upholds_pathExists hp.target h.safe (hlooked _ hlook).safe (fun b hfiles hmissing => ?_)
      (fun e _ _ => (hlooked _ hlook).refused (early_os e))
    refine ⟨hlooked _ hlook, fun hb => ?_⟩
    rw [hfiles]
    exact hmissing hb
  refine hthere.bind (fun b t _ ht => ?_) (fun e t _ ht => ht)
  obtain ⟨hready, hmissing⟩ := ht
  cases b with
  | false =>
    refine Upholds.pure hready.safe ⟨⟨hready.unpublished, hready.probed, nofun, fun _ => hwas ?_⟩,
      hready.candidate, fun _ => hready.target⟩
    rw [← hready.target, ← find_eq_below]
    exact hmissing rfl
  | true =>
    rw [if_pos rfl]
    have hreal : Modest p.contents
        (requireRealDirectory p.target.profileRoot .filesystemFailed .filesystemFailed) :=
      modest_requireRealDirectory _
    refine (hreal.keeps (J := Ready host db p was answer content)
      (fun u hu => hready.spared hu (target_mem p) (candidate_mem p)) (fun u hu => hu.safe)).bind
      (fun _ u _ hu => ?_) (fun e u _ hu => hu.1.refused (hu.2 e rfl))
    have hmove : Upholds host.perform (Safe host db p was s answer content)
        (fun r v => match r with
          | .ok _ => Aside host db p was true answer content v ∧
              v.files.below p.staging.profileRoot = content
          | .error e => Refused host db p was e v)
        (onOsError .filesystemFailed (file (.replace p.target.profileRoot p.backup))) u := by
      have hrename : Upholds host.perform (Safe host db p was s answer content)
          (fun r v => match r with
            | .ok _ => Aside host db p was true answer content v ∧
                v.files.below p.staging.profileRoot = content
            | .error e => IsOs e ∧ Ready host db p was answer content v)
          (file (.replace p.target.profileRoot p.backup)) u := by
        refine upholds_replace hu.1.safe (fun hapart hfiles => ?_) (fun e hfiles _ => ?_)
        · have haside : Aside host db p was true answer content
              (host.performFile (.replace p.target.profileRoot p.backup) u).2 := by
            refine ⟨hu.1.unpublished.file, hu.1.probed.file, fun _ => ?_, nofun⟩
            rw [hfiles, below_move_target hapart]
            exact hu.1.target
          refine ⟨haside.safe, haside, ?_⟩
          rw [hfiles, below_move_apart hapart hp.targetCandidate.symm hp.backupCandidate.symm]
          exact hu.1.candidate
        · have hsame : Ready host db p was answer content
              (host.performFile (.replace p.target.profileRoot p.backup) u).2 := by
            refine ⟨hu.1.unpublished.file, hu.1.probed.file, ?_, ?_⟩
            · rw [hfiles]
              exact hu.1.target
            · rw [hfiles]
              exact hu.1.candidate
          exact ⟨hsame.safe, ⟨e, rfl⟩, hsame⟩
      refine hrename.catching (fun _ v _ hv => hv) (fun e v hsafe hv => ?_)
      obtain ⟨⟨o, rfl⟩, hv⟩ := hv
      exact Upholds.throw hsafe (hv.refused (by decide))
    refine hmove.bind (fun _ v hsafe hv => Upholds.pure hsafe ⟨hv.1, hv.2, nofun⟩)
      (fun e v _ hv => hv)

/-- What was set aside goes back, if the copy could not take its place. -/
theorem putBack_upholds (h : Aside host db p was had answer content w)
    (htarget : had = false → w.files.below p.target.profileRoot = was) :
    Upholds host.perform (Safe host db p was s answer content)
      (fun r t => match r with
        | .ok _ => Unpublished host db t ∧ t.files.below p.target.profileRoot = was
        | .error e => Refused host db p was e t)
      (p.replacement.putBack had) w := by
  cases had with
  | false => exact Upholds.pure h.safe ⟨h.unpublished, htarget rfl⟩
  | true =>
    have hrename : Upholds host.perform (Safe host db p was s answer content)
        (fun r t => match r with
          | .ok _ => Unpublished host db t ∧ t.files.below p.target.profileRoot = was
          | .error e => IsOs e ∧ Unpublished host db t)
        (file (.replace p.backup p.target.profileRoot)) w := by
      refine upholds_replace h.safe (fun hapart hfiles => ?_) (fun e hfiles _ => ?_)
      · have hback : (host.performFile (.replace p.backup p.target.profileRoot) w).2.files.below
            p.target.profileRoot = was := by
          rw [hfiles, below_move_target hapart]
          exact h.backup rfl
        exact ⟨.inl ⟨h.unpublished.file, fun _ => .inl hback⟩, h.unpublished.file, hback⟩
      · have hsame : Aside host db p was true answer content
            (host.performFile (.replace p.backup p.target.profileRoot) w).2 := by
          refine ⟨h.unpublished.file, h.probed.file, fun _ => ?_, nofun⟩
          rw [hfiles]
          exact h.backup rfl
        exact ⟨hsame.safe, ⟨e, rfl⟩, hsame.unpublished⟩
    refine hrename.catching (fun _ t _ ht => ht) (fun e t hsafe ht => ?_)
    obtain ⟨⟨o, rfl⟩, ht⟩ := ht
    exact Upholds.throw hsafe ⟨ht, by decide, .inl rfl⟩

/-- What `install` does when the candidate does not take its place. -/
def putBackAfter (r : ProfileReplacement) (had : Bool) : Raised → Adoption Unit
  | .os _ => do
    r.putBack had
    Prog.throw (.adoption .filesystemFailed)
  | e => Prog.throw e

/-- `install` puts the copy at the target or leaves the former profile there. -/
theorem install_upholds (hp : Laid p) (hwas : was [] = none → was = fun _ => none)
    (h : Ready host db p was answer content w) :
    Upholds host.perform (Safe host db p was s answer content) (fun r t => match r with
      | .ok r => ∃ had, r = { p.replacement with hadTarget := had, installed := true } ∧
          Installed host db p was had answer content t
      | .error e => Refused host db p was e t)
      p.replacement.install w := by
  have hkeep : ∀ {t u}, Ready host db p was answer content t → Spared host db p.contents t u →
      Ready host db p was answer content u :=
    fun ht hs => ht.spared hs (target_mem p) (candidate_mem p)
  have hreal : Modest p.contents
      (requireRealDirectory p.staging.profileRoot .filesystemFailed .filesystemFailed) :=
    modest_requireRealDirectory _
  have hlook : Modest p.contents (pathExists p.backup) := only_pathExists early_os _
  have hfree : ∀ occupied, Modest p.contents
      (Prog.require (!occupied) (.adoption .filesystemFailed)) :=
    fun _ => Only.require fun _ => by decide
  refine (hreal.keeps (J := Ready host db p was answer content) (fun t => hkeep h)
    (fun t ht => ht.safe)).bind (fun _ t _ ht => ?_) (fun e t _ ht => ht.1.refused (ht.2 e rfl))
  refine (hlook.keeps (J := Ready host db p was answer content) (fun u => hkeep ht.1)
    (fun u hu => hu.safe)).bind (fun occupied u _ hu => ?_)
    (fun e u _ hu => hu.1.refused (hu.2 e rfl))
  refine ((hfree occupied).keeps (J := Ready host db p was answer content) (fun v => hkeep hu.1)
    (fun v hv => hv.safe)).bind (fun _ v _ hv => ?_) (fun e v _ hv => hv.1.refused (hv.2 e rfl))
  refine (setAside_upholds hp hwas hv.1).bind (fun had v' _ hv' => ?_) (fun e v' _ hv' => hv')
  obtain ⟨haside, hcandidate, htarget⟩ := hv'
  have hrename : Upholds host.perform (Safe host db p was s answer content)
      (fun r t => match r with
        | .ok _ => Installed host db p was had answer content t
        | .error e => IsOs e ∧ Aside host db p was had answer content t ∧
            (had = false → t.files.below p.target.profileRoot = was))
      (file (.replace p.staging.profileRoot p.target.profileRoot)) v' := by
    refine upholds_replace haside.safe (fun hapart hfiles => ?_) (fun e hfiles _ => ?_)
    · have hinstalled : Installed host db p was had answer content
          (host.performFile (.replace p.staging.profileRoot p.target.profileRoot) v').2 := by
        refine ⟨⟨haside.unpublished.file, haside.probed.file, fun hhad => ?_, haside.absent⟩, ?_⟩
        · rw [hfiles, below_move_apart hapart hp.backupCandidate hp.targetBackup.symm]
          exact haside.backup hhad
        · rw [hfiles, below_move_target hapart]
          exact hcandidate
      exact ⟨hinstalled.aside.safe, hinstalled⟩
    · have hsame : Aside host db p was had answer content
          (host.performFile (.replace p.staging.profileRoot p.target.profileRoot) v').2 := by
        refine ⟨haside.unpublished.file, haside.probed.file, fun hhad => ?_, haside.absent⟩
        rw [hfiles]
        exact haside.backup hhad
      refine ⟨hsame.safe, ⟨e, rfl⟩, hsame, fun hhad => ?_⟩
      rw [hfiles]
      exact htarget hhad
  have hplace : Upholds host.perform (Safe host db p was s answer content)
      (fun r t => match r with
        | .ok _ => Installed host db p was had answer content t
        | .error e => Refused host db p was e t)
      ((file (.replace p.staging.profileRoot p.target.profileRoot)).catching
        (putBackAfter p.replacement had)) v' := by
    refine hrename.catching (fun _ t _ ht => ht) (fun e t _ ht => ?_)
    obtain ⟨⟨o, rfl⟩, hstill, hthere⟩ := ht
    refine (putBack_upholds hstill hthere).bind (fun _ u hsafe hu => ?_) (fun e u _ hu => hu)
    exact Upholds.throw hsafe ⟨hu.1, by decide, .inr (.inl hu.2)⟩
  exact hplace.bind (fun _ t hsafe ht => Upholds.pure hsafe ⟨had, rfl, ht⟩)
    (fun e t _ ht => ht)

/-- A renaming back has failed. -/
def Stuck (p : AdoptionPaths) (raised : List (FileCall × OsError)) : Prop :=
  ∃ undo o, (undo = .replace p.target.profileRoot p.staging.profileRoot ∨
    undo = .replace p.backup p.target.profileRoot) ∧ (undo, o) ∈ raised

/-- A look that fails after that is lost. -/
theorem Stuck.lookLost {raised : List (FileCall × OsError)} {look : FileCall} {e : OsError}
    (h : Stuck p raised) (he : e ≠ .fileNotFound)
    (hlook : look = .lstat p.target.profileRoot ∨ look = .lstat p.staging.profileRoot) :
    LookLost p (raised ++ [(look, e)]) := by
  obtain ⟨undo, o, hundo, hmem⟩ := h
  refine ⟨undo, look, o, e, hundo, hlook, he, ?_⟩
  exact (List.singleton_sublist.2 hmem).append (List.Sublist.refl [(look, e)])

theorem Stuck.later {raised raised' : List (FileCall × OsError)} (h : Stuck p raised)
    (hlater : raised <+: raised') : Stuck p raised' := by
  obtain ⟨undo, o, hundo, hmem⟩ := h
  exact ⟨undo, o, hundo, hlater.subset hmem⟩

/-- The former profile may not be restored, but what was set aside is still there. -/
structure Halfway (host : AdoptionHost) (db : AdoptionDb) (p : AdoptionPaths)
    (was : TreePath → Option Entry) (had : Bool) (answer : ProbeAnswer)
    (content : TreePath → Option Entry) (w : AdoptionWorld) : Prop where
  aside : Aside host db p was had answer content w
  stuck : Stuck p w.raised

theorem Halfway.spared (h : Halfway host db p was had answer content w)
    (hs : Spared host db ps w w') (hb : p.backup ∈ ps) :
    Halfway host db p was had answer content w' :=
  ⟨h.aside.spared hs hb, h.stuck.later hs.raised⟩

/-- A look at one of the two paths. -/
theorem look_upholds {path : TreePath} (hpath : path ≠ [])
    (hlook : path = p.target.profileRoot ∨ path = p.staging.profileRoot)
    (h : Halfway host db p was had answer content w) :
    Upholds host.perform (Safe host db p was s answer content) (fun r t => match r with
      | .ok _ => Halfway host db p was had answer content t
      | .error e => Refused host db p was e t) (pathExists path) w := by
  have hspared : Spared host db p.contents w (host.performFile (.lstat path) w).2 :=
    performFile_spared (c := .lstat _) (fun _ _ => trivial) w
  have hstill := h.spared hspared (backup_mem p)
  refine upholds_pathExists hpath h.aside.safe hstill.aside.safe (fun _ _ _ => hstill)
    (fun e he hraised => ?_)
  refine ⟨hstill.aside.unpublished, nofun, .inr (.inr ⟨⟨e, rfl⟩, ?_⟩)⟩
  rw [hraised]
  refine h.stuck.lookLost he ?_
  rcases hlook with rfl | rfl
  · exact .inl rfl
  · exact .inr rfl

theorem keepUsable_upholds (hp : Laid p) (hcandidate : p.staging.profileRoot ≠ [])
    (h : Halfway host db p was had answer content w) :
    Upholds host.perform (Safe host db p was s answer content) (fun r t => match r with
      | .ok _ => Halfway host db p was had answer content t
      | .error e => Refused host db p was e t)
      (ProfileReplacement.keepUsable p.replacement) w := by
  refine (look_upholds hp.target (.inl rfl) h).bind (fun there t hsafe ht => ?_)
    (fun e t _ ht => ht)
  cases there with
  | true => exact Upholds.pure hsafe ht
  | false =>
    refine (look_upholds hcandidate (.inr rfl) ht).bind (fun movedBack u hsafe hu => ?_)
      (fun e u _ hu => hu)
    cases movedBack with
    | false => exact Upholds.pure hsafe hu
    | true =>
      have hback : Only (Spares [p.backup]) (fun _ => False)
          (suppress (file (.replace p.staging.profileRoot p.target.profileRoot))) := by
        refine only_suppress (only_file (fun e => .inl ⟨e, rfl⟩) fun q hq => ?_)
        rw [List.mem_singleton.1 hq]
        exact ⟨hp.backupCandidate, hp.targetBackup.symm⟩
      have hmem := List.mem_singleton_self p.backup
      refine (upholds_spared host db hback u).mono
        (fun t ht => (hu.spared ht hmem).aside.safe) (fun r t _ ht => ?_)
      cases r with
      | ok _ => exact hu.spared ht.1 hmem
      | error e => exact (ht.2 e rfl).elim

/-- The replacement after it was installed. -/
def AdoptionPaths.installed (p : AdoptionPaths) (had : Bool) : ProfileReplacement :=
  { p.replacement with hadTarget := had, installed := true }

theorem Stuck.of_raised {raised : List (FileCall × OsError)} {undo : FileCall} (e : OsError)
    (hundo : undo = .replace p.target.profileRoot p.staging.profileRoot ∨
      undo = .replace p.backup p.target.profileRoot) : Stuck p (raised ++ [(undo, e)]) :=
  ⟨undo, e, hundo, List.mem_append_right _ (List.mem_singleton_self _)⟩

/-- The backup is renamed to the target that the copy has left. -/
theorem returnBackup_upholds (h : Aside host db p was had answer content w)
    (hempty : w.files.below p.target.profileRoot = fun _ => none) :
    Upholds host.perform (Safe host db p was s answer content) (fun r t => match r with
      | .ok _ => Unpublished host db t ∧ t.files.below p.target.profileRoot = was
      | .error e => IsOs e ∧ Halfway host db p was had answer content t)
      (if had then file (.replace p.backup p.target.profileRoot) else pure () : Adoption Unit) w := by
  cases had with
  | false =>
    refine Upholds.pure h.safe ⟨h.unpublished, ?_⟩
    rw [hempty, h.absent rfl]
  | true =>
    rw [if_pos rfl]
    refine upholds_replace h.safe (fun hapart hfiles => ?_) (fun e hfiles hraised => ?_)
    · have hback : (host.performFile (.replace p.backup p.target.profileRoot) w).2.files.below
          p.target.profileRoot = was := by
        rw [hfiles, below_move_target hapart]
        exact h.backup rfl
      exact ⟨.inl ⟨h.unpublished.file, fun _ => .inl hback⟩, h.unpublished.file, hback⟩
    · have hstill : Aside host db p was true answer content
          (host.performFile (.replace p.backup p.target.profileRoot) w).2 := by
        refine ⟨h.unpublished.file, h.probed.file, fun _ => ?_, nofun⟩
        rw [hfiles]
        exact h.backup rfl
      refine ⟨hstill.safe, ⟨e, rfl⟩, hstill, ?_⟩
      rw [hraised]
      exact Stuck.of_raised e (.inr rfl)

theorem restore_upholds (hp : Laid p) (h : Installed host db p was had answer content w) :
    Upholds host.perform (Safe host db p was s answer content) (fun r t => match r with
      | .ok _ => Unpublished host db t ∧ t.files.below p.target.profileRoot = was
      | .error e => IsOs e ∧ Halfway host db p was had answer content t)
      (p.installed had).restore w := by
  have hmoved : Upholds host.perform (Safe host db p was s answer content) (fun r t => match r with
      | .ok _ => Aside host db p was had answer content t ∧
          t.files.below p.target.profileRoot = fun _ => none
      | .error e => IsOs e ∧ Halfway host db p was had answer content t)
      (file (.replace p.target.profileRoot p.staging.profileRoot)) w := by
    refine upholds_replace h.aside.safe (fun hapart hfiles => ?_) (fun e hfiles hraised => ?_)
    · have haside : Aside host db p was had answer content
          (host.performFile (.replace p.target.profileRoot p.staging.profileRoot) w).2 := by
        refine ⟨h.aside.unpublished.file, h.aside.probed.file, fun hhad => ?_, h.aside.absent⟩
        rw [hfiles, below_move_apart hapart hp.targetBackup.symm hp.backupCandidate]
        exact h.aside.backup hhad
      refine ⟨haside.safe, haside, ?_⟩
      rw [hfiles, below_move_source hapart]
    · have hstill : Aside host db p was had answer content
          (host.performFile (.replace p.target.profileRoot p.staging.profileRoot) w).2 := by
        refine ⟨h.aside.unpublished.file, h.aside.probed.file, fun hhad => ?_, h.aside.absent⟩
        rw [hfiles]
        exact h.aside.backup hhad
      refine ⟨hstill.safe, ⟨e, rfl⟩, hstill, ?_⟩
      rw [hraised]
      exact Stuck.of_raised e (.inl rfl)
  exact hmoved.bind (fun _ t _ ht => returnBackup_upholds (s := s) ht.1 ht.2) (fun e t _ ht => ht)

/-- `rollback` restores the former profile, or says that it could not. -/
theorem rollback_upholds (hp : Laid p) (hcandidate : p.staging.profileRoot ≠ [])
    (h : Installed host db p was had answer content w) :
    Upholds host.perform (Safe host db p was s answer content) (fun r t => match r with
      | .ok _ => Unpublished host db t ∧ t.files.below p.target.profileRoot = was
      | .error e => Refused host db p was e t)
      (p.installed had).rollback w := by
  refine (restore_upholds hp h).catching (fun _ t _ ht => ht) (fun e t _ ht => ?_)
  obtain ⟨⟨o, rfl⟩, hhalf⟩ := ht
  refine (keepUsable_upholds hp hcandidate hhalf).bind (fun _ u hsafe hu => ?_)
    (fun e u _ hu => hu)
  exact Upholds.throw hsafe ⟨hu.aside.unpublished, by decide, .inl rfl⟩

/-- The transaction commits as a whole or leaves the rows to the others. -/
theorem performPublish_cases (host : AdoptionHost) (s : AccountSnapshot) (current : Time)
    (w : AdoptionWorld) :
    (∃ e, host.performPublish s current w = (.error e, host.arrive w)) ∨
      ∃ published after, publishing host.repo s current (host.arrive w).db = (.ok published, after) ∧
        host.performPublish s current w = (.ok published,
          { host.arrive w with
            db := after, commits := w.commits ++ [((host.arrive w).db, after)] }) := by
  unfold AdoptionHost.performPublish
  cases host.faults w.tick with
  | some fault => exact .inl ⟨_, rfl⟩
  | none =>
    rcases hrun : publishing host.repo s current (host.arrive w).db with ⟨r, after⟩
    cases r with
    | error e => exact .inl ⟨e, rfl⟩
    | ok published => exact .inr ⟨published, after, rfl, rfl⟩

theorem publishSnapshot_upholds (h : Installed host db p was had answer content w) :
    Upholds host.perform (Safe host db p was s answer content) (fun r t => match r with
      | .ok published => Published host p s answer content published t
      | .error e => Installed host db p was had answer content t ∧ Early e)
      (publishSnapshot s) w := by
  have hkeep : ∀ {t u}, Installed host db p was had answer content t →
      Spared host db p.contents t u → Installed host db p was had answer content u :=
    fun ht hs => ht.spared hs (target_mem p) (backup_mem p)
  have hchecked : Modest p.contents checkCancelled := modest_checkCancelled
  have hnow : Modest p.contents now := modest_now
  refine (hchecked.keeps (J := Installed host db p was had answer content) (fun t => hkeep h)
    (fun t ht => ht.aside.safe)).bind (fun _ t _ ht => ?_) (fun e t _ ht => ⟨ht.1, ht.2 e rfl⟩)
  refine (hnow.keeps (J := Installed host db p was had answer content) (fun u => hkeep ht.1)
    (fun u hu => hu.aside.safe)).bind (fun current u _ hu => ?_)
    (fun e u _ hu => ⟨hu.1, hu.2 e rfl⟩)
  have harrived : Installed host db p was had answer content (host.arrive u) :=
    hkeep hu.1 (arrive_spared _ u)
  rcases performPublish_cases host s current u with ⟨e, hpublish⟩ | ⟨published, after, hrun, hpublish⟩
  · have hask := upholds_ask host (.publish s current)
      (I := Safe host db p was s answer content) hu.1.aside.safe
    rw [show host.perform (.publish s current) u = (.error e, host.arrive u) from hpublish] at hask
    refine (hask harrived.aside.safe).bind (fun r v _ hr => ?_) (fun e v _ hr => nomatch hr.1)
    obtain ⟨hr, rfl⟩ := hr
    cases hr
    exact Upholds.throw harrived.aside.safe ⟨harrived, nofun, nofun⟩
  · have hdone : Published host p s answer content published
        { host.arrive u with
          db := after, commits := u.commits ++ [((host.arrive u).db, after)] } := by
      refine ⟨⟨(host.arrive u).db, after, current, ?_, hrun⟩, ⟨harrived.aside.probed.staged⟩,
        harrived.target⟩
      rw [hu.1.aside.unpublished.commits]
      rfl
    have hask := upholds_ask host (.publish s current)
      (I := Safe host db p was s answer content) hu.1.aside.safe
    rw [show host.perform (.publish s current) u = (.ok published, _) from hpublish] at hask
    refine (hask (.inr ⟨published, hdone⟩)).bind (fun r v hsafe hr => ?_)
      (fun e v _ hr => nomatch hr.1)
    obtain ⟨hr, rfl⟩ := hr
    cases hr
    exact Upholds.pure hsafe hdone

/-- A profile that is not published is taken back. -/
theorem publishOrRollback_upholds (hp : Laid p) (hcandidate : p.staging.profileRoot ≠ [])
    (h : Installed host db p was had answer content w) :
    Upholds host.perform (Safe host db p was s answer content) (fun r t => match r with
      | .ok published => Published host p s answer content published t
      | .error e => Refused host db p was e t)
      ((publishSnapshot s).catching (fun e => do
        (p.installed had).rollback
        Prog.throw e)) w := by
  refine (publishSnapshot_upholds h).catching (fun _ t _ ht => ht) (fun e t _ ht => ?_)
  refine (rollback_upholds hp hcandidate ht.1).bind (fun _ u hsafe hu => ?_) (fun e u _ hu => hu)
  exact Upholds.throw hsafe ⟨hu.1, ht.2.1, .inr (.inl hu.2)⟩

/-- Clearing the backup away changes nothing that was published. -/
theorem commit_upholds (hp : Laid p) (depth : Nat)
    (h : Published host p s answer content published w) :
    Upholds host.perform (Safe host db p was s answer content) (fun r t =>
      Published host p s answer content published t ∧
        ∀ e, r = .error e → e = .adoption .cleanupFailed) ((p.installed had).commit depth) w := by
  have hremove : Only (Spares [p.target.profileRoot]) (fun e => e = .adoption .cleanupFailed)
      ((p.installed had).commit depth) := by
    unfold ProfileReplacement.commit
    split
    · have htree : Only (Spares [p.target.profileRoot]) IsOs (removeTree depth p.backup) := by
        refine only_removeTree (fun e => ⟨e, rfl⟩) depth fun q hq => ?_
        rw [List.mem_singleton.1 hq]
        exact hp.targetBackup
      refine htree.catching fun e he => ?_
      obtain ⟨o, rfl⟩ := he
      exact Only.throw rfl
    · exact Only.pure ()
  have hmem := List.mem_singleton_self p.target.profileRoot
  exact (upholds_spared host db hremove w).mono
    (fun t ht => .inr ⟨published, h.spared ht hmem⟩)
    (fun r t _ ht => ⟨h.spared ht.1 hmem, ht.2⟩)

/-- The exchange under the lock of the account. -/
theorem exchange_upholds (hp : Laid p) (hcandidate : p.staging.profileRoot ≠ [])
    (hlock : Clear p.contents p.lock) (hwas : was [] = none → was = fun _ => none) (depth : Nat)
    (h : Ready host db p was answer content w) :
    Upholds host.perform (Safe host db p was s answer content) (fun r t => match r with
      | .ok published => Published host p s answer content published t
      | .error e => Refused host db p was e t ∨ e = .adoption .cleanupFailed ∧
          ∃ published, Published host p s answer content published t)
      (exchange depth p.replacement p.lock s) w := by
  have hkeep : ∀ {t u}, Ready host db p was answer content t → Spared host db p.contents t u →
      Ready host db p was answer content u :=
    fun ht hs => ht.spared hs (target_mem p) (candidate_mem p)
  have hbusy : ∀ acquired, Modest p.contents (Prog.require acquired (.adoption .busy)) :=
    fun _ => Only.require fun _ => by decide
  refine ((modest_acquire hlock).keeps (J := Ready host db p was answer content)
    (fun t => hkeep h) (fun t ht => ht.safe)).bind (fun acquired t _ ht => ?_)
    (fun e t _ ht => .inl (ht.1.refused (ht.2 e rfl)))
  refine ((hbusy acquired).keeps (J := Ready host db p was answer content) (fun u => hkeep ht.1)
    (fun u hu => hu.safe)).bind (fun _ u _ hu => ?_)
    (fun e u _ hu => .inl (hu.1.refused (hu.2 e rfl)))
  refine (install_upholds hp hwas hu.1).bind (fun installed v _ hv => ?_) (fun e v _ hv => .inl hv)
  obtain ⟨had, rfl, hinstalled⟩ := hv
  refine (publishOrRollback_upholds hp hcandidate hinstalled).bind (fun published v' _ hv' => ?_)
    (fun e v' _ hv' => .inl hv')
  exact (commit_upholds hp depth hv').bind (fun _ t hsafe ht => Upholds.pure hsafe ht.1)
    (fun e t _ ht => .inr ⟨ht.2 e rfl, published, ht.1⟩)

end MediaSync.Accounts.ProfileAdoption
