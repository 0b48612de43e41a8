import MediaSync.Accounts.AdoptionExchange
import MediaSync.Scheduler.History

/-!
# Adoption as a whole

Where the parts of an adoption leave the profile and the account: after a
return, after an exception, and at every moment at which the process may die.
-/

namespace MediaSync.Accounts.ProfileAdoption

open Python Transaction Program FileTree

theorem apart_append {root xs ys : TreePath} (h : Apart xs ys) : Apart (root ++ xs) (root ++ ys) :=
  ⟨fun hx => h.1 ((List.prefix_append_right_inj root).1 hx),
    fun hy => h.2 ((List.prefix_append_right_inj root).1 hy)⟩

theorem not_prefix_append {root xs ys : TreePath} (h : ¬ xs <+: ys) : ¬ root ++ xs <+: root ++ ys :=
  fun hx => h ((List.prefix_append_right_inj root).1 hx)

variable {root : TreePath} {platform accountId stagingId : String}

/-- The name of a backup begins with a dot, that of a profile does not. -/
theorem profile_ne_backup (h : platform ∈ platforms) (name : String) :
    platform ++ "_user_data_dir" ≠ ".profile-adoption-backup-" ++ name := by
  intro heq
  have hhead := congrArg (fun t => t.toList.head?) heq
  simp only [platforms, List.mem_cons, List.not_mem_nil, or_false] at h
  rcases h with rfl | rfl | rfl | rfl | rfl | rfl | rfl <;>
    simp [String.toList_append] at hhead

theorem adoptionPaths_backup :
    (adoptionPaths root platform accountId stagingId).backup =
      root ++ ["accounts", platform, accountId, "browser_data",
        ".profile-adoption-backup-" ++ hex stagingId] := by
  simp [adoptionPaths, buildRunPaths]

theorem adoptionPaths_laid (hplatform : platform ∈ platforms) (hid : stagingId ≠ accountId) :
    Laid (adoptionPaths root platform accountId stagingId) where
  targetBackup := by
    rw [adoptionPaths_backup]
    have hname := profile_ne_backup hplatform (hex stagingId)
    refine apart_append ⟨?_, ?_⟩
    · simp [hname]
    · simp [hname.symm]
  targetStaging := by
    refine apart_append ⟨?_, ?_⟩
    · simp
    · simp [hid]
  backupStaging := by
    rw [adoptionPaths_backup]
    refine apart_append ⟨?_, ?_⟩
    · simp
    · simp [hid]
  staged := (List.prefix_append_right_inj root).2 (by simp)
  target := by simp [adoptionPaths, buildRunPaths]

/-- The contents of an adoption stand five names below the root. -/
theorem adoptionPaths_clear {rel : TreePath} (h : rel.length ≤ 4) :
    Clear (adoptionPaths root platform accountId stagingId).contents (root ++ rel) := by
  have hshort : ∀ xs : TreePath, xs.length = 5 → ¬ root ++ xs <+: root ++ rel := by
    intro xs hxs
    refine not_prefix_append fun hx => ?_
    have hlen := hx.length_le
    omega
  intro q hq
  simp only [AdoptionPaths.contents, adoptionPaths_backup, List.mem_cons, List.not_mem_nil,
    or_false] at hq
  rcases hq with rfl | rfl | rfl
  · exact hshort _ rfl
  · exact hshort _ rfl
  · exact hshort _ rfl

/-! ## The parts of an adoption -/

section Parts

variable (host : AdoptionHost) (db : AdoptionDb) (p : AdoptionPaths)
  (was : TreePath → Option Entry) (s : AccountSnapshot)

/-- The profile has not been touched. -/
structure Begun (w : AdoptionWorld) : Prop where
  unpublished : Unpublished host db w
  target : w.files.below p.target.profileRoot = was

/-- What holds at every moment, whatever the probe answered. -/
def Sound (w : AdoptionWorld) : Prop :=
  Recoverable host db p was w ∨
    ∃ answer content published, Published host p s answer content published w

/-- How a part of the adoption ends that does not return. -/
def Stopped (e : Raised) (w : AdoptionWorld) : Prop :=
  Refused host db p was e w ∨ e = .adoption .cleanupFailed ∧
    ∃ answer content published, Published host p s answer content published w

end Parts

variable {host : AdoptionHost} {db : AdoptionDb} {p : AdoptionPaths}
  {was : TreePath → Option Entry} {s : AccountSnapshot} {answer : ProbeAnswer}
  {content : TreePath → Option Entry} {ps : List TreePath} {w w' : AdoptionWorld}

theorem Safe.sound (h : Safe host db p was s answer content w) : Sound host db p was s w := by
  rcases h with h | ⟨published, h⟩
  · exact .inl h
  · exact .inr ⟨answer, content, published, h⟩

theorem Begun.sound (h : Begun host db p was w) : Sound host db p was s w :=
  .inl ⟨h.unpublished, fun _ => .inl h.target⟩

theorem Begun.spared (h : Begun host db p was w) (hs : Spared host db ps w w')
    (hp : p.target.profileRoot ∈ ps) : Begun host db p was w' :=
  ⟨h.unpublished.spared hs, (hs.contents _ hp).trans h.target⟩

theorem Begun.stopped {e : Raised} (h : Begun host db p was w) (he : Early e) :
    Stopped host db p was s e w :=
  .inl ⟨h.unpublished, he.1, .inr (.inl h.target)⟩

theorem Sound.spared (h : Sound host db p was s w) (hs : Spared host db ps w w')
    (hp : p.target.profileRoot ∈ ps) (hb : p.backup ∈ ps) : Sound host db p was s w' := by
  rcases h with h | ⟨answer, content, published, h⟩
  · exact .inl (h.spared hs hp hb)
  · exact .inr ⟨answer, content, published, h.spared hs hp⟩

theorem below_edits {root q : TreePath} (h : Apart q root) (edits : List Edit) (t : FileTree) :
    (edits.foldl (Edit.apply root) t).below q = t.below q := by
  induction edits generalizing t with
  | nil => rfl
  | cons edit edits ih =>
    rw [List.foldl_cons, ih]
    unfold Edit.apply
    split
    · exact below_remove (h.symm.append edit.1)
    · exact below_put (h.symm.append edit.1)

/-- A part that touches nothing of the exchange, before the probe. -/
theorem Modest.begun {α : Type} {m : Adoption α} (hm : Modest ps m) (h : Begun host db p was w)
    (hp : p.target.profileRoot ∈ ps) :
    Upholds host.perform (Sound host db p was s)
      (fun r t => Begun host db p was t ∧ ∀ e, r = .error e → Early e) m w :=
  hm.keeps (J := Begun host db p was) (fun _ ht => h.spared ht hp) (fun _ ht => ht.sound)

/-- The same between the probe and the exchange. -/
theorem Modest.ready {α : Type} {m : Adoption α} (hm : Modest p.contents m)
    (h : Ready host db p was answer content w) :
    Upholds host.perform (Sound host db p was s)
      (fun r t => Ready host db p was answer content t ∧ ∀ e, r = .error e → Early e) m w :=
  hm.keeps (J := Ready host db p was answer content)
    (fun _ ht => h.spared ht (target_mem p) (candidate_mem p))
    (fun _ ht => (ht.safe (s := s)).sound)

/-- The probe answers about the copy that stands in the staging directory then. -/
theorem probe_upholds (hp : Laid p) (h : Begun host db p was w) :
    Upholds host.perform (Sound host db p was s) (fun r t => match r with
      | .ok sha => ∃ content,
          Ready host db p was (.loginResult .authenticated (some sha)) content t
      | .error e => Begun host db p was t ∧ Early e) (probe p.staging.accountRoot) w := by
  have hafter : ∀ answer, (host.perform (.probe p.staging.accountRoot) w).1 = answer →
      ∃ content, Ready host db p was answer content
        (host.perform (.probe p.staging.accountRoot) w).2 := by
    rintro answer rfl
    refine ⟨_, ⟨⟨h.unpublished.commits, ?_⟩, ⟨_, rfl, rfl⟩, ?_, rfl⟩⟩
    · exact (arrive_spared p.contents w).drifts h.unpublished.rows
    · exact (below_edits hp.targetStaging _ _).trans h.target
  have hbegun : Begun host db p was (host.perform (.probe p.staging.accountRoot) w).2 := by
    obtain ⟨content, hready⟩ := hafter _ rfl
    exact ⟨hready.unpublished, hready.target⟩
  have hask := upholds_ask host (.probe p.staging.accountRoot) (I := Sound host db p was s)
    h.sound hbegun.sound
  refine hask.bind (fun r t ht hr => ?_) (fun e t _ hr => nomatch hr.1)
  obtain ⟨hr, rfl⟩ := hr
  cases hr
  cases hanswer : (host.perform (.probe p.staging.accountRoot) w).1 with
  | raisedException => exact Upholds.throw ht ⟨hbegun, by decide⟩
  | raisedOther => exact Upholds.throw ht ⟨hbegun, by decide⟩
  | noLoginResult => exact Upholds.throw ht ⟨hbegun, by decide⟩
  | loginResult status upstreamSha =>
    dsimp only
    by_cases hstatus : status ≠ .authenticated
    · rw [if_pos hstatus]
      refine Upholds.throw ht ⟨hbegun, ?_⟩
      cases status <;> decide
    · rw [if_neg hstatus]
      rw [not_not] at hstatus
      subst hstatus
      cases upstreamSha with
      | none => exact Upholds.throw ht ⟨hbegun, by decide⟩
      | some sha => exact Upholds.pure ht (hafter _ hanswer)

/-- What a result says of the account and of the profile. -/
structure Adopted (host : AdoptionHost) (p : AdoptionPaths) (s : AccountSnapshot)
    (result : AdoptionResult) (w : AdoptionWorld) : Prop where
  published : ∃ content, Published host p s
    (.loginResult .authenticated (some result.upstreamSha)) content
    (result.authRevision, result.resumedJobCount) w
  accountId : result.accountId = s.accountId
  platform : result.platform = s.platform

theorem Adopted.spared {result : AdoptionResult} (h : Adopted host p s result w)
    (hs : Spared host db ps w w') (hp : p.target.profileRoot ∈ ps) :
    Adopted host p s result w' := by
  obtain ⟨content, hpublished⟩ := h.published
  exact ⟨⟨content, hpublished.spared hs hp⟩, h.accountId, h.platform⟩

/-- The exchange and the release of the lock after it. -/
theorem released_upholds (hp : Laid p) (hcandidate : p.staging.profileRoot ≠ [])
    (hlock : Clear p.contents p.lock) (hwas : was [] = none → was = fun _ => none) (depth : Nat)
    (h : Ready host db p was answer content w) :
    Upholds host.perform (Sound host db p was s) (fun r t => match r with
      | .ok published => Published host p s answer content published t
      | .error e => Stopped host db p was s e t)
      ((exchange depth p.replacement p.lock s).ensuring (do
        let _ ← Prog.ask (AdoptionCall.release p.lock))) w := by
  have hexchange := (exchange_upholds (s := s) hp hcandidate hlock hwas depth h).mono
    (fun _ ht => ht.sound) (fun _ _ _ ht => ht)
  refine hexchange.ensuring fun r t ht hr => ?_
  have hrelease : Spared host db p.contents t (host.perform (.release p.lock) t).2 :=
    arrive_spared _ t
  have hafter := ht.spared hrelease (target_mem p) (backup_mem p)
  refine (upholds_ask host (.release p.lock) ht hafter).bind (fun _ u hu h => ?_)
    (fun _ _ _ h => nomatch h.1)
  obtain ⟨_, rfl⟩ := h
  refine Upholds.pure hu ⟨rfl, ?_⟩
  cases r with
  | ok published => exact hr.spared hrelease (target_mem p)
  | error e =>
    rcases hr with hr | ⟨he, published, hr⟩
    · refine .inl ⟨hr.unpublished.spared hrelease, hr.early, ?_⟩
      rw [hrelease.contents _ (target_mem p)]
      rcases hr.restored with he | hback | ⟨hos, hlost⟩
      · exact .inl he
      · exact .inr (.inl hback)
      · exact .inr (.inr ⟨hos, hlost.later hrelease.raised⟩)
    · exact .inr ⟨he, answer, content, published, hr.spared hrelease (target_mem p)⟩

/-- From the copy to the publication. -/
theorem adoptStaged_upholds (hp : Laid p) (hcandidate : p.staging.profileRoot ≠ [])
    (hlock : Clear p.contents p.lock) (hprepare : Modest p.contents (prepareTarget p.target))
    (hwas : was [] = none → was = fun _ => none) (depth : Nat) (h : Begun host db p was w) :
    Upholds host.perform (Sound host db p was s) (fun r t => match r with
      | .ok result => Adopted host p s result t
      | .error e => Stopped host db p was s e t) (adoptStaged depth p s) w := by
  have hmem := List.mem_singleton_self p.target.profileRoot
  have hcopy : Modest [p.target.profileRoot]
      (copyProfileTree depth p.source p.staging.profileRoot) := by
    refine modest_copyProfileTree depth fun q hq => ?_
    rw [List.mem_singleton.1 hq]
    exact hp.targetCandidate
  have hcheck : Modest [p.target.profileRoot] checkCancelled := modest_checkCancelled
  have hcheck' : Modest p.contents checkCancelled := modest_checkCancelled
  refine (hcopy.begun h hmem).bind (fun stats t _ ht => ?_) (fun e t _ ht => ht.1.stopped (ht.2 e rfl))
  refine (hcheck.begun ht.1 hmem).bind (fun _ u _ hu => ?_) (fun e u _ hu => hu.1.stopped (hu.2 e rfl))
  refine (probe_upholds hp hu.1).bind (fun sha v _ hv => ?_) (fun e v _ hv => hv.1.stopped hv.2)
  obtain ⟨content, hready⟩ := hv
  refine (hcheck'.ready hready).bind (fun _ v₁ _ hv₁ => ?_)
    (fun e v₁ _ hv₁ => .inl (hv₁.1.refused (hv₁.2 e rfl)))
  refine (hprepare.ready hv₁.1).bind (fun _ v₂ _ hv₂ => ?_)
    (fun e v₂ _ hv₂ => .inl (hv₂.1.refused (hv₂.2 e rfl)))
  exact (released_upholds hp hcandidate hlock hwas depth hv₂.1).bind
    (fun published t hsound ht => Upholds.pure hsound ⟨⟨content, ht⟩, rfl, rfl⟩)
    (fun e t _ ht => ht)

/-- An exception that leaves the adoption before the account was published. -/
structure Left (host : AdoptionHost) (db : AdoptionDb) (p : AdoptionPaths)
    (was : TreePath → Option Entry) (e : Raised) (w : AdoptionWorld) : Prop where
  unpublished : Unpublished host db w
  early : e ≠ .adoption .cleanupFailed
  restored : e = .adoption .rollbackFailed ∨ w.files.below p.target.profileRoot = was ∨
    LookLost p w.raised

theorem Left.spared {e : Raised} (h : Left host db p was e w) (hs : Spared host db ps w w')
    (hp : p.target.profileRoot ∈ ps) : Left host db p was e w' where
  unpublished := h.unpublished.spared hs
  early := h.early
  restored := by
    rw [hs.contents _ hp]
    rcases h.restored with he | hback | hlost
    · exact .inl he
    · exact .inr (.inl hback)
    · exact .inr (.inr (hlost.later hs.raised))

/-- Only the exceptions themselves become what they are. -/
theorem translated_eq {e : Raised} {code : AdoptionCode} (hcode : code = .cleanupFailed ∨
    code = .rollbackFailed) : translated e = .adoption code ↔ e = .adoption code := by
  have hfilesystem : code ≠ .filesystemFailed := by
    rcases hcode with rfl | rfl <;> decide
  cases e with
  | adoption c => exact Iff.rfl
  | os o => simp [translated, Ne.symm hfilesystem]
  | other => exact Iff.rfl
  | db error =>
    cases error with
    | account c =>
      rcases hcode with rfl | rfl <;> cases c <;> simp [translated, AccountCode.code]
    | sqlAlchemy => simp [translated, Ne.symm hfilesystem]
    | scheduler error =>
      rw [translated]
      split
      · simp [Ne.symm hfilesystem]
      · exact Iff.rfl

theorem Refused.left {e : Raised} (h : Refused host db p was e w) :
    Left host db p was (translated e) w where
  unpublished := h.unpublished
  early he := h.early ((translated_eq (.inl rfl)).1 he)
  restored := by
    rcases h.restored with rfl | hback | ⟨_, hlost⟩
    · exact .inl rfl
    · exact .inr (.inl hback)
    · exact .inr (.inr hlost)

/-- A part whose exceptions are translated. -/
theorem translate_upholds {α : Type} {m : Adoption α} {I : AdoptionWorld → Prop}
    {post post' : Except Raised α → AdoptionWorld → Prop} (hm : Upholds host.perform I post m w)
    (hok : ∀ a t, post (.ok a) t → post' (.ok a) t)
    (herror : ∀ e t, post (.error e) t → post' (.error (translated e)) t) :
    Upholds host.perform I post' (translate m) w :=
  hm.catching (fun a t _ ht => hok a t ht) (fun e _ hI ht => Upholds.throw hI (herror e _ ht))

/-- The staged part with its exceptions and the removal of what it staged. -/
theorem adoptBody_upholds (hp : Laid p) (hcandidate : p.staging.profileRoot ≠ [])
    (hlock : Clear p.contents p.lock) (hprepare : Modest p.contents (prepareTarget p.target))
    (hwas : was [] = none → was = fun _ => none) (depth : Nat) (h : Begun host db p was w) :
    Upholds host.perform (Sound host db p was s) (fun r t => match r with
      | .ok result => Adopted host p s result t
      | .error e => Left host db p was e t ∨ e = .adoption .cleanupFailed ∧
          ∃ answer content published, Published host p s answer content published t)
      ((translate (adoptStaged depth p s)).ensuring
        (suppress (removeTree depth p.staging.accountRoot))) w := by
  have hbody : Upholds host.perform (Sound host db p was s) (fun r t => match r with
      | .ok result => Adopted host p s result t
      | .error e => Left host db p was e t ∨ e = .adoption .cleanupFailed ∧
          ∃ answer content published, Published host p s answer content published t)
      (translate (adoptStaged depth p s)) w := by
    refine translate_upholds (adoptStaged_upholds hp hcandidate hlock hprepare hwas depth h)
      (fun _ _ ht => ht) (fun e t ht => ?_)
    rcases ht with ht | ⟨rfl, ht⟩
    · exact .inl ht.left
    · exact .inr ⟨rfl, ht⟩
  let kept := [p.target.profileRoot, p.backup]
  have htarget : p.target.profileRoot ∈ kept := List.mem_cons_self
  have hbackup : p.backup ∈ kept := List.mem_cons_of_mem _ List.mem_cons_self
  have hremove : Only (Spares kept) (fun _ => False)
      (suppress (removeTree depth p.staging.accountRoot)) := by
    refine only_suppress (only_removeTree (fun e => .inl ⟨e, rfl⟩) depth fun q hq => ?_)
    rcases List.mem_cons.1 hq with rfl | hq
    · exact hp.targetStaging
    · rw [List.mem_singleton.1 hq]
      exact hp.backupStaging
  refine hbody.ensuring fun r t ht hr => ?_
  refine (upholds_spared host db hremove t).mono
    (fun u hu => ht.spared hu htarget hbackup) (fun q u _ hu => ?_)
  cases q with
  | error e => exact (hu.2 e rfl).elim
  | ok _ =>
    refine ⟨rfl, ?_⟩
    cases r with
    | ok result => exact hr.spared hu.1 htarget
    | error e =>
      rcases hr with hr | ⟨he, answer, content, published, hr⟩
      · exact .inl (hr.spared hu.1 htarget)
      · exact .inr ⟨he, answer, content, published, hr.spared hu.1 htarget⟩

/-! ## The beginning -/

theorem checkCancelled_upholds {I : AdoptionWorld → Prop} (hI : I w) (hI' : I (host.arrive w)) :
    Upholds host.perform I (fun r t => t = host.arrive w ∧ ∀ e, r = .error e → Early e)
      checkCancelled w := by
  refine (upholds_ask host .isSet hI hI').bind (fun cancelled t ht h => ?_)
    (fun e t _ h => nomatch h.1)
  obtain ⟨_, rfl⟩ := h
  cases cancelled with
  | false => exact ⟨ht, rfl, fun e he => nomatch he⟩
  | true =>
    refine ⟨ht, rfl, fun e he => ?_⟩
    cases he
    decide

theorem observe_upholds {request : AdoptionRequest} {I : AdoptionWorld → Prop} (hI : I w)
    (hI' : I (host.arrive w)) :
    Upholds host.perform I (fun r t => t = host.arrive w ∧ match r with
      | .ok s => (host.performSnapshot request.accountId request.expectedAuthRevision w).1 = .ok s
      | .error e => Early e) (observe request) w := by
  have hworld : (host.perform (.snapshot request.accountId request.expectedAuthRevision) w).2 =
      host.arrive w := performSnapshot_world _ _ w
  have hask := upholds_ask host (.snapshot request.accountId request.expectedAuthRevision)
    (I := I) hI (by rw [hworld]; exact hI')
  rw [hworld] at hask
  refine hask.bind (fun r t ht h => ?_) (fun e t _ h => nomatch h.1)
  obtain ⟨hr, rfl⟩ := h
  cases hr
  cases hanswer : (host.performSnapshot request.accountId request.expectedAuthRevision w).1 with
  | ok s =>
    rw [show (host.perform (.snapshot request.accountId request.expectedAuthRevision) w).1 = .ok s
      from hanswer]
    exact Upholds.pure ht ⟨rfl, rfl⟩
  | error e =>
    rw [show (host.perform (.snapshot request.accountId request.expectedAuthRevision) w).1 =
      .error e from hanswer]
    cases e with
    | account code => exact Upholds.throw ht ⟨rfl, early_code code⟩
    | sqlAlchemy => exact Upholds.throw ht ⟨rfl, by decide⟩
    | scheduler e => exact Upholds.throw ht ⟨rfl, nofun, nofun⟩

/-- The account as the adoption sees it, one step after its beginning. -/
def AdoptionHost.sight (host : AdoptionHost) (request : AdoptionRequest) (w : AdoptionWorld) :
    Except DbError AccountSnapshot :=
  (host.performSnapshot request.accountId request.expectedAuthRevision (host.arrive w)).1

/-- The paths of an adoption of the account that was seen. -/
def AdoptionService.paths (service : AdoptionService) (request : AdoptionRequest)
    (s : AccountSnapshot) (stagingId : String) : AdoptionPaths :=
  adoptionPaths service.integrationRoot s.platform request.accountId stagingId

def AdoptionService.profile (service : AdoptionService) (request : AdoptionRequest)
    (s : AccountSnapshot) : TreePath :=
  (buildRunPaths service.integrationRoot s.platform request.accountId).profileRoot

/-- Nothing was done to the files. -/
structure Untouched (host : AdoptionHost) (db : AdoptionDb) (files : FileTree)
    (w : AdoptionWorld) : Prop where
  unpublished : Unpublished host db w
  files : w.files = files

theorem Untouched.arrive {files : FileTree} (h : Untouched host db files w) :
    Untouched host db files (host.arrive w) :=
  ⟨h.unpublished.spared (arrive_spared [] w), h.files⟩

variable {service : AdoptionService} {request : AdoptionRequest} {stagingId : String}

/-- An adoption without an account or without a place to stage it does nothing. -/
theorem adopt_refused {files : FileTree} (h : Untouched host db files w)
    (hnone : ∀ s stagingId, host.sight request w = .ok s → s.platform ∈ platforms →
      service.uuidFactory = some stagingId → stagingId = request.accountId) :
    Upholds host.perform (Untouched host db files)
      (fun r _ => ∃ e, r = .error e ∧ Early e) (adopt service request) w := by
  refine (checkCancelled_upholds h h.arrive).bind (fun _ t _ ht => ?_)
    (fun e t _ ht => ⟨e, rfl, ht.2 e rfl⟩)
  obtain ⟨rfl, _⟩ := ht
  refine (observe_upholds h.arrive h.arrive.arrive).bind (fun s t ht hs => ?_)
    (fun e t _ he => ⟨e, rfl, he.2⟩)
  obtain ⟨rfl, hs⟩ := hs
  by_cases hplatform : s.platform ∈ platforms
  · rw [decide_eq_true hplatform, require_true_bind]
    cases hid : service.uuidFactory with
    | none => exact Upholds.throw ht ⟨_, rfl, by decide⟩
    | some stagingId =>
      have hsame := hnone s stagingId hs hplatform hid
      have hfalse : decide (stagingId ≠ request.accountId) = false := by simp [hsame]
      dsimp only
      rw [hfalse, require_false_bind]
      exact Upholds.throw ht ⟨_, rfl, by decide⟩
  · rw [decide_eq_false hplatform, require_false_bind]
    exact Upholds.throw ht ⟨_, rfl, by decide⟩

/-- How the preparation of the staging directories ends. -/
def Staged (host : AdoptionHost) (db : AdoptionDb) (p : AdoptionPaths)
    (was : TreePath → Option Entry) : Except Raised Unit → AdoptionWorld → Prop
  | .ok _, t => Begun host db p was t
  | .error e, t => Left host db p was e t

/-- An adoption that has an account and a place to stage it. -/
theorem adopt_upholds (hs : host.sight request w = .ok s) (hplatform : s.platform ∈ platforms)
    (hid : service.uuidFactory = some stagingId) (hne : stagingId ≠ request.accountId)
    (hwas : was [] = none → was = fun _ => none)
    (h : Begun host db (service.paths request s stagingId) was w) :
    Upholds host.perform (Sound host db (service.paths request s stagingId) was s)
      (fun r t => match r with
        | .ok result => Adopted host (service.paths request s stagingId) s result t
        | .error e => Left host db (service.paths request s stagingId) was e t ∨
            e = .adoption .cleanupFailed ∧ ∃ answer content published,
              Published host (service.paths request s stagingId) s answer content published t)
      (adopt service request) w := by
  let q := service.paths request s stagingId
  have hlaid : Laid q := adoptionPaths_laid hplatform hne
  have hcandidate : q.staging.profileRoot ≠ [] := by
    simp [q, AdoptionService.paths, adoptionPaths, buildRunPaths]
  have hclear : ∀ rel : TreePath, rel.length ≤ 4 → Clear q.contents (service.integrationRoot ++ rel) :=
    fun rel hrel => adoptionPaths_clear hrel
  have hroot : Clear q.contents service.integrationRoot := by
    have hnil := hclear [] (by simp)
    rwa [List.append_nil] at hnil
  have hplatformDir : ∀ account : String,
      (service.integrationRoot ++ ["accounts", s.platform, account]).dropLast =
        service.integrationRoot ++ ["accounts", s.platform] := by
    intro account
    simp
  have hprofiles : q.target.profileRoot.dropLast =
      service.integrationRoot ++ ["accounts", s.platform, request.accountId, "browser_data"] := by
    simp [q, AdoptionService.paths, adoptionPaths, buildRunPaths]
  have hlock : Clear q.contents q.lock := by
    have hpath : q.lock = service.integrationRoot ++
        ["accounts", s.platform, request.accountId, ".mediacrawler-run.lock"] := by
      simp [q, AdoptionPaths.lock, AdoptionService.paths, adoptionPaths, buildRunPaths]
    rw [hpath]
    exact hclear _ (by simp)
  have hprepare : Modest q.contents (prepareTarget q.target) := by
    refine modest_prepareTarget hroot (hclear _ (by simp)) ?_ (hclear _ (by simp)) ?_
    · rw [show q.target.accountRoot.dropLast = _ from hplatformDir request.accountId]
      exact hclear _ (by simp)
    · rw [hprofiles]
      exact hclear _ (by simp)
  have hmem := List.mem_singleton_self q.target.profileRoot
  have hsub : ∀ path, Clear q.contents path → Clear [q.target.profileRoot] path := by
    intro path hpath x hx
    rw [List.mem_singleton.1 hx]
    exact hpath _ (target_mem q)
  have hstaging : Modest [q.target.profileRoot] (prepareStaging service.depth q.staging) := by
    refine modest_prepareStaging _ (hsub _ hroot) (hsub _ (hclear _ (by simp))) ?_ fun x hx => ?_
    · rw [show q.staging.accountRoot.dropLast = _ from hplatformDir stagingId]
      exact hsub _ (hclear _ (by simp))
    · rw [List.mem_singleton.1 hx]
      exact hlaid.targetStaging
  have harrive : ∀ {t}, Begun host db q was t → Begun host db q was (host.arrive t) :=
    fun ht => ht.spared (arrive_spared [q.target.profileRoot] _) hmem
  have hleft : ∀ {e t}, Begun host db q was t → Early e → Left host db q was e t :=
    fun ht he => ⟨ht.unpublished, he.1, .inr (.inl ht.target)⟩
  refine (checkCancelled_upholds h.sound (harrive h).sound).bind (fun _ t _ ht => ?_)
    (fun e t _ ht => .inl (hleft (ht.1 ▸ harrive h) (ht.2 e rfl)))
  obtain ⟨rfl, _⟩ := ht
  refine (observe_upholds (harrive h).sound (harrive (harrive h)).sound).bind (fun s' t hsound ht => ?_)
    (fun e t _ ht => .inl (hleft (ht.1 ▸ harrive (harrive h)) ht.2))
  obtain ⟨rfl, hs'⟩ := ht
  have hseen : s' = s := by
    rw [AdoptionHost.sight, hs'] at hs
    exact Except.ok.inj hs
  subst hseen
  rw [decide_eq_true hplatform, require_true_bind, hid]
  dsimp only
  rw [decide_eq_true hne, require_true_bind]
  have hbegun : Begun host db q was (host.arrive (host.arrive w)) := harrive (harrive h)
  have hstaged : Upholds host.perform (Sound host db q was s') (Staged host db q was)
      (translate (prepareStaging service.depth q.staging)) (host.arrive (host.arrive w)) :=
    translate_upholds (hstaging.begun hbegun hmem) (fun _ _ ht => ht.1)
      (fun e t ht => Refused.left ⟨ht.1.unpublished, (ht.2 e rfl).1, .inr (.inl ht.1.target)⟩)
  exact hstaged.bind
    (fun _ t _ ht => adoptBody_upholds hlaid hcandidate hlock hprepare hwas service.depth ht)
    (fun e t _ ht => .inl ht)

/-- The profile of the account that was seen is exactly what it was. -/
def Undisturbed (service : AdoptionService) (request : AdoptionRequest)
    (seen : Except DbError AccountSnapshot) (files after : FileTree) : Prop :=
  match seen with
  | .error _ => after = files
  | .ok s => after.below (service.profile request s) = files.below (service.profile request s)

/-- The new authentication is committed and the copy that was probed stands at the target. -/
structure Exchanged (host : AdoptionHost) (service : AdoptionService) (request : AdoptionRequest)
    (seen : Except DbError AccountSnapshot) (t : AdoptionWorld) : Prop where
  published : ∃ s stagingId answer content published, seen = .ok s ∧
    service.uuidFactory = some stagingId ∧
    Published host (service.paths request s stagingId) s answer content published t

/-- What an adoption of any account comes to. -/
structure AllOrNothing (host : AdoptionHost) (service : AdoptionService)
    (request : AdoptionRequest) (files : FileTree) (db : AdoptionDb) : Prop where
  /-- After a return the target is the probed copy and the account is authenticated anew. -/
  returns : ∀ result t,
    run host.perform (adopt service request) (AdoptionHost.begin files db) = (.ok result, t) →
    ∃ s stagingId, host.sight request (AdoptionHost.begin files db) = .ok s ∧
      service.uuidFactory = some stagingId ∧
      Adopted host (service.paths request s stagingId) s result t ∧
      ∃ before after a, t.commits = [(before, after)] ∧
        after.login.accounts.get? s.accountId = some a ∧ a.authRevision = result.authRevision ∧
        a.authStatus = .authenticated
  /-- So they are if only the former profile could not be cleared away. -/
  cleanup : ∀ t, run host.perform (adopt service request) (AdoptionHost.begin files db) =
      (.error (.adoption .cleanupFailed), t) →
    Exchanged host service request (host.sight request (AdoptionHost.begin files db)) t
  /-- After any other exception nothing was published, and the profile is what it was unless the
  exception is that of the rollback. -/
  raises : ∀ e t,
    run host.perform (adopt service request) (AdoptionHost.begin files db) = (.error e, t) →
    e ≠ .adoption .cleanupFailed → Unpublished host db t ∧
      (e ≠ .adoption .rollbackFailed →
        (∀ s stagingId, host.sight request (AdoptionHost.begin files db) = .ok s →
          service.uuidFactory = some stagingId →
          ¬ LookLost (service.paths request s stagingId) t.raised) →
        Undisturbed service request (host.sight request (AdoptionHost.begin files db)) files t.files)
  /-- A death at any step leaves the former profile at the target or at the backup, or the copy at
  the target and the account authenticated. -/
  dies : ∀ n, let t := (runFor host.perform n (adopt service request)
      (AdoptionHost.begin files db)).2
    (t.commits = [] → ∀ s, host.sight request (AdoptionHost.begin files db) = .ok s →
      files.find (service.profile request s) ≠ none →
      t.files.below (service.profile request s) = files.below (service.profile request s) ∨
        ∃ stagingId, service.uuidFactory = some stagingId ∧
          t.files.below (service.paths request s stagingId).backup =
            files.below (service.profile request s)) ∧
    (t.commits ≠ [] →
      Exchanged host service request (host.sight request (AdoptionHost.begin files db)) t)

/-- An adoption that does nothing. -/
theorem allOrNothing_refused {files : FileTree}
    (hnone : ∀ s stagingId, host.sight request (AdoptionHost.begin files db) = .ok s →
      s.platform ∈ platforms → service.uuidFactory = some stagingId →
      stagingId = request.accountId) : AllOrNothing host service request files db := by
  have hbegin : Untouched host db files (AdoptionHost.begin files db) := ⟨⟨rfl, rfl⟩, rfl⟩
  have hupholds := adopt_refused hbegin hnone
  have hsame : ∀ {t : AdoptionWorld}, t.files = files →
      Undisturbed service request (host.sight request (AdoptionHost.begin files db)) files
        t.files := by
    intro t ht
    rw [ht]
    unfold Undisturbed
    split <;> rfl
  refine ⟨fun result t h => ?_, fun t h => ?_, fun e t h _ => ?_, fun n => ⟨fun _ s _ _ => ?_, ?_⟩⟩
  · obtain ⟨e, he, _⟩ := hupholds.run
    rw [h] at he
    cases he
  · obtain ⟨e, he, hearly⟩ := hupholds.run
    rw [h] at he
    cases he
    exact absurd rfl hearly.1
  · have hstill := hupholds.mono (fun _ ht => ht)
      (fun _ _ ht _ => (ht : Untouched host db files _))
    have hend := hstill.run
    rw [h] at hend
    exact ⟨hend.unpublished, fun _ _ => hsame hend.files⟩
  · rw [(hupholds.runFor n).files]
    exact .inl rfl
  · intro hcommits
    exact absurd (hupholds.runFor n).unpublished.commits hcommits

/-- Adoption is all or nothing. -/
theorem adoption_all_or_nothing (host : AdoptionHost) (service : AdoptionService)
    (request : AdoptionRequest) (files : FileTree) (db : AdoptionDb) (hclosed : files.Closed) :
    AllOrNothing host service request files db := by
  by_cases husable : ∃ s stagingId, host.sight request (AdoptionHost.begin files db) = .ok s ∧
      s.platform ∈ platforms ∧ service.uuidFactory = some stagingId ∧
      stagingId ≠ request.accountId
  · obtain ⟨s, stagingId, hs, hplatform, hid, hne⟩ := husable
    let q := service.paths request s stagingId
    have hprofile : service.profile request s ≠ [] := by
      simp [AdoptionService.profile, buildRunPaths]
    have hwas : files.below (service.profile request s) [] = none →
        files.below (service.profile request s) = fun _ => none := by
      intro hmissing
      rw [← find_eq_below] at hmissing
      exact hclosed.below_missing hprofile hmissing
    have hbegin : Begun host db q (files.below (service.profile request s))
        (AdoptionHost.begin files db) := ⟨⟨rfl, rfl⟩, rfl⟩
    have hupholds := adopt_upholds hs hplatform hid hne hwas hbegin
    have hexchanged : ∀ {t}, (∃ answer content published,
        Published host q s answer content published t) →
        Exchanged host service request (host.sight request (AdoptionHost.begin files db)) t := by
      rintro t ⟨answer, content, published, h⟩
      exact ⟨s, stagingId, answer, content, published, hs, hid, h⟩
    refine ⟨fun result t h => ?_, fun t h => ?_, fun e t h he => ?_, fun n => ⟨fun hcommits => ?_, ?_⟩⟩
    · have hend := hupholds.run
      rw [h] at hend
      obtain ⟨content, hpublished⟩ := hend.published
      obtain ⟨before, after, current, hcommits, hrun⟩ := hpublished.committed
      obtain ⟨a, _, hsame, hrevision, hafter⟩ := publishing_ok hrun
      refine ⟨s, stagingId, hs, hid, hend, before, after, _, hcommits, hafter, ?_, rfl⟩
      have hsnapshot : a.authRevision = s.authRevision := by
        rw [← hsame]
        rfl
      change a.authRevision + 1 = result.authRevision
      rw [hsnapshot]
      exact hrevision.symm
    · have hend := hupholds.run
      rw [h] at hend
      rcases hend with hend | ⟨_, hend⟩
      · exact absurd rfl hend.early
      · exact hexchanged hend
    · have hend := hupholds.run
      rw [h] at hend
      rcases hend with hend | ⟨hcleanup, _⟩
      · refine ⟨hend.unpublished, fun hrollback hlooks => ?_⟩
        rw [hs]
        rcases hend.restored with hfailed | hback | hlost
        · exact absurd hfailed hrollback
        · exact hback
        · exact absurd hlost (hlooks s stagingId hs hid)
      · exact absurd hcleanup he
    · intro s' hs' hthere
      rw [hs] at hs'
      cases hs'
      rcases hupholds.runFor n with hkept | ⟨_, _, _, hpublished⟩
      · rw [find_eq_below] at hthere
        rcases hkept.kept hthere with htarget | hbackup
        · exact .inl htarget
        · exact .inr ⟨stagingId, hid, hbackup⟩
      · obtain ⟨before, after, _, hcommitted, _⟩ := hpublished.committed
        rw [hcommitted] at hcommits
        cases hcommits
    · intro hcommits
      rcases hupholds.runFor n with hkept | hpublished
      · exact absurd hkept.unpublished.commits hcommits
      · exact hexchanged hpublished
  · refine allOrNothing_refused fun s stagingId hs hplatform hid => ?_
    by_contra hne
    exact husable ⟨s, stagingId, hs, hplatform, hid, hne⟩

def sampleAccountId : String := "20000000-0000-4000-8000-000000000000"

def sampleStagingId : String := "30000000-0000-4000-8000-000000000000"

/-- A saved profile of one file, and an account with an empty profile. -/
def sampleFiles : FileTree where
  entries := [
    (⟨["rt"], .dir⟩ : Sigma (fun _ : TreePath => Entry)),
    ⟨["rt", "webui-profiles"], .dir⟩,
    ⟨["rt", "webui-profiles", "bili_user_data_dir"], .dir⟩,
    ⟨["rt", "webui-profiles", "bili_user_data_dir", "Cookies"], .file 1 [7, 8]⟩,
    ⟨["rt", "accounts"], .dir⟩,
    ⟨["rt", "accounts", "bili"], .dir⟩,
    ⟨["rt", "accounts", "bili", sampleAccountId], .dir⟩,
    ⟨["rt", "accounts", "bili", sampleAccountId, "browser_data"], .dir⟩,
    ⟨["rt", "accounts", "bili", sampleAccountId, "browser_data", "bili_user_data_dir"], .dir⟩].toAList
  nextInode := 2

def sampleDb : AdoptionDb where
  login :=
    { accounts := ⟨[{
        id := sampleAccountId
        platform := "bili"
        adapter := "mediacrawler"
        loginMethod := some .qr
        credentialRef := none
        profilePath := none
        authStatus := .required
        authUpdatedAt := none
        authRevision := 0
        updatedAt := 0 }], List.nodup_singleton _⟩
      sessions := .empty }
  scheduler := { Scheduler.sampleDb with accounts := .empty }

def sampleHost (faults : Nat → Option OsFault) : AdoptionHost where
  repo := Scheduler.sampleRepository
  faults := faults
  moves := fun _ => 4096
  cancelled := fun _ => false
  clock := fun n => some n
  others := fun _ db => db
  probe := fun _ => (.loginResult .authenticated (some "d6f7c5bb"), [])

def sampleService : AdoptionService := ⟨["rt"], some sampleStagingId, 16⟩

def sampleRequest : AdoptionRequest := ⟨sampleAccountId, 0⟩

def sampleWorld : AdoptionWorld := AdoptionHost.begin sampleFiles sampleDb

/-- The end of the adoption under the given failures. -/
def sampleEnd (faults : Nat → Option OsFault) : Except Raised AdoptionResult × AdoptionWorld :=
  run (sampleHost faults).perform (adopt sampleService sampleRequest) sampleWorld

def failsAt (ticks : List Nat) (n : Nat) : Option OsFault := if n ∈ ticks then some .other else none

def sampleProfile : TreePath := (buildRunPaths ["rt"] "bili" sampleAccountId).profileRoot

def raisedCode : Except Raised AdoptionResult → Option AdoptionCode
  | .error (.adoption code) => some code
  | _ => none

/-- The world after so many steps without a failure. -/
def sampleDeath (n : Nat) : AdoptionWorld :=
  (runFor (sampleHost (failsAt [])).perform n (adopt sampleService sampleRequest) sampleWorld).2

theorem sampleFiles_closed : sampleFiles.Closed := by
  have hall : sampleFiles.entries.entries.all (fun e => decide (e.1.dropLast = []) ||
      decide (sampleFiles.find e.1.dropLast = some .dir)) = true := by decide +kernel
  intro p e hfind hne
  have hparent := List.all_eq_true.1 hall _ (find_eq_some.1 hfind)
  simpa [hne] using hparent

theorem adoption_all_or_nothing_sample :
    AllOrNothing (sampleHost (failsAt [74])) sampleService sampleRequest sampleFiles sampleDb :=
  adoption_all_or_nothing (sampleHost (failsAt [74])) sampleService sampleRequest sampleFiles
    sampleDb sampleFiles_closed

/-- Between the two renamings the target is missing, a backup that cannot be cleared away is
reported after the publication, and a look that fails after a failed rollback hides it. -/
theorem adoption_not_all_or_nothing :
    sampleFiles.find sampleProfile = some .dir ∧
      sampleFiles.find (sampleProfile ++ ["Cookies"]) = none ∧
      ((sampleDeath 71).commits.length = 0 ∧ (sampleDeath 71).files.find sampleProfile = none) ∧
      (raisedCode (sampleEnd (failsAt [77])).1 = some .cleanupFailed ∧
        (sampleEnd (failsAt [77])).2.commits.length = 1) ∧
      (raisedCode (sampleEnd (failsAt [74, 75, 76])).1 = some .filesystemFailed ∧
        (sampleEnd (failsAt [74, 75, 76])).2.files.find (sampleProfile ++ ["Cookies"]) =
          some (.file 2 [7, 8])) := by decide +kernel

end MediaSync.Accounts.ProfileAdoption
