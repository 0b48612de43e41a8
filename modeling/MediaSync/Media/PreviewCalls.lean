import MediaSync.Media.ArchivePreview

/-!
# The calls of a preview

What the parts of a preview's programs establish where they succeed, and that
they leave the descriptor as open as it was. A check that succeeds saw one
version of the file between its two ends; a hash that no change interrupts is
of what the file holds.
-/

namespace MediaSync.Preview

open JsonText (Text)
open Program

variable {history : Nat → FileVersion} {service : ArchivePreviewService}
  {s t u : Disk} {h : List (Exchange PreviewCall PreviewCall.Reply)}

theorem Disk.Moves.refl (s : Disk) : s.Moves s := ⟨Nat.le_refl _, rfl, rfl⟩

theorem Disk.Moves.trans (hst : s.Moves t) (htu : t.Moves u) : s.Moves u :=
  ⟨Nat.le_trans hst.version htu.version, htu.offset.trans hst.offset,
    htu.isOpen.trans hst.isOpen⟩

theorem executes_make {c : PreviewCall} {x : Except PreviewFailure c.Reply} :
    Executes (answers history) c.make s h x t ↔
      ∃ r, h = [⟨c, r⟩] ∧ x = .ok r ∧ answers history c s r t :=
  executes_ask

theorem check_ok {b : Bool} {v : Unit} :
    Executes (answers history) (check b) s h (.ok v) t ↔ h = [] ∧ b = true ∧ t = s :=
  executes_require_ok

theorem fail_not_ok {α : Type} {e : ArchivePreviewError} {a : α} :
    ¬ Executes (answers history) (fail e) s h (.ok a) t := by
  intro he
  have herror := (executes_throw.1 he).2.1
  cases herror

theorem orInvalid_ok {α : Type} {value : Option α} {a : α} :
    Executes (answers history) (orInvalid value) s h (.ok a) t ↔
      h = [] ∧ value = some a ∧ t = s := by
  cases value with
  | none =>
    refine ⟨fun he => absurd he fail_not_ok, ?_⟩
    rintro ⟨_, hnone, _⟩
    cases hnone
  | some b =>
    refine executes_pure.trans ?_
    simp [eq_comm]

/-- What a stability check saw: the descriptor as it was when it was verified,
and a name that shows the same file. -/
structure SawUnchanged (service : ArchivePreviewService) (path : PurePath) (size : Nat)
    (snapshot : FileSnapshot) (calls : List (Exchange PreviewCall PreviewCall.Reply)) : Prop where
  saw : ∃ opened named, calls = [⟨.fstat, some opened⟩, ⟨.named path, some named⟩] ∧
    isSafeFileStat opened size = true ∧ isSafeFileStat named size = true ∧
    FileSnapshot.fromStat opened = snapshot ∧
    sameNamedSnapshot service.windows snapshot (FileSnapshot.fromStat named) = true

/-- A check that succeeds saw the snapshot, in some version of the file that the
check went through. -/
theorem checkStats_ok {path : PurePath} {size : Nat} {snapshot : FileSnapshot} {v : Unit}
    (he : Executes (answers history) (service.checkStats path size snapshot) s h (.ok v) t) :
    s.Moves t ∧ s.isOpen = true ∧ SawUnchanged service path size snapshot h ∧
      ∃ w, s.version ≤ w ∧ w ≤ t.version ∧
        FileSnapshot.fromStat (history w).stat = snapshot := by
  obtain ⟨_, s₁, h₁, k₁, rfl, hfstat, he₁⟩ := executes_bind_ok.1 he
  obtain ⟨_, s₂, h₂, k₂, rfl, hopened, he₂⟩ := executes_bind_ok.1 he₁
  obtain ⟨_, s₃, h₃, k₃, rfl, hname, he₃⟩ := executes_bind_ok.1 he₂
  obtain ⟨_, s₄, h₄, k₄, rfl, hnamed, he₄⟩ := executes_bind_ok.1 he₃
  obtain ⟨_, s₅, h₅, k₅, rfl, hsafe, he₅⟩ := executes_bind_ok.1 he₄
  obtain ⟨_, s₆, h₆, k₆, rfl, hsafe', he₆⟩ := executes_bind_ok.1 he₅
  obtain ⟨reply, rfl, hreply, hmoves, hopen⟩ := executes_make.1 hfstat
  cases hreply
  obtain ⟨rfl, rfl, rfl⟩ := orInvalid_ok.1 hopened
  obtain ⟨reply', rfl, hreply', hmoves'⟩ := executes_make.1 hname
  cases hreply'
  obtain ⟨rfl, rfl, rfl⟩ := orInvalid_ok.1 hnamed
  obtain ⟨rfl, hgood, rfl⟩ := check_ok.1 hsafe
  obtain ⟨rfl, hgood', rfl⟩ := check_ok.1 hsafe'
  obtain ⟨rfl, hsame, rfl⟩ := check_ok.1 he₆
  obtain ⟨hisOpen, hstat⟩ := hopen.resolve_left (by simp)
  cases hstat
  rw [Bool.and_eq_true, decide_eq_true_eq] at hsame
  exact ⟨hmoves.trans hmoves', hisOpen, ⟨_, _, rfl, hgood, hgood', hsame.1, hsame.2⟩,
    _, hmoves.version, hmoves'.version, hsame.1⟩

/-- A chunk is never empty and never longer than what was asked for. -/
theorem readChunk_ok {requested : Nat} {chunk : Bytes}
    (he : Executes (answers history) (readChunk requested) s h (.ok chunk) t) :
    chunk ≠ [] ∧ chunk.length ≤ requested ∧ answers history (.read requested) s (.bytes chunk) t := by
  obtain ⟨reply, s₁, h₁, h₂, hh, hread, hrest⟩ := executes_bind_ok.1 he
  obtain ⟨reply', _, hreply, hans⟩ := executes_make.1 hread
  cases hreply
  cases reply with
  | raised =>
    have herror := (executes_throw.1 hrest).2.1
    cases herror
  | other => exact absurd hrest fail_not_ok
  | bytes chunk' =>
    dsimp only at hrest
    split at hrest
    · exact absurd hrest fail_not_ok
    · rename_i hgood
      obtain ⟨_, hchunk, rfl⟩ := executes_pure.1 hrest
      cases hchunk
      rw [not_or, Nat.not_lt] at hgood
      exact ⟨hgood.1, hgood.2, hans⟩

theorem seekTo_ok {start : Int} {v : Unit}
    (he : Executes (answers history) (seekTo start) s h (.ok v) t) :
    s.version ≤ t.version ∧ t.isOpen = s.isOpen ∧ t.offset = start := by
  obtain ⟨reply, s₁, h₁, h₂, hh, hseek, hrest⟩ := executes_bind_ok.1 he
  obtain ⟨reply', _, hreply, hans⟩ := executes_make.1 hseek
  cases hreply
  cases reply with
  | none =>
    have herror := (executes_throw.1 hrest).2.1
    cases herror
  | some reached =>
    obtain ⟨_, hreached, rfl⟩ := check_ok.1 hrest
    obtain ⟨hversion, hopen, hoffset⟩ := hans
    exact ⟨hversion, hopen, (hoffset reached rfl).2.trans (of_decide_eq_true hreached)⟩

/-- Of a file that does not change, the bytes from the offset on are hashed. -/
theorem hashRemaining_ok {turns remaining : Nat} {seen out : Bytes} (hturns : remaining ≤ turns)
    (he : Executes (answers history) (ArchivePreviewService.hashRemaining turns remaining seen)
      s h (.ok out) t) (hoffset : 0 ≤ s.offset) :
    s.version ≤ t.version ∧ t.isOpen = s.isOpen ∧ t.offset = s.offset + remaining ∧
      ∃ more, out = seen ++ more ∧ more.length = remaining ∧
        (s.version = t.version → more <+: (history s.version).bytes.drop s.offset.toNat) := by
  induction turns generalizing s h remaining seen with
  | zero =>
    obtain rfl : remaining = 0 := by omega
    obtain ⟨rfl, hout, rfl⟩ := executes_pure.1 he
    cases hout
    exact ⟨Nat.le_refl _, rfl, by simp, [], by simp, rfl, fun _ => List.nil_prefix⟩
  | succ turns ih =>
    rw [ArchivePreviewService.hashRemaining] at he
    split at he
    · rename_i hzero
      subst hzero
      obtain ⟨rfl, hout, rfl⟩ := executes_pure.1 he
      cases hout
      exact ⟨Nat.le_refl _, rfl, by simp, [], by simp, rfl, fun _ => List.nil_prefix⟩
    · obtain ⟨chunk, s₁, h₁, h₂, _, hchunk, he₁⟩ := executes_bind_ok.1 he
      obtain ⟨hne, hle, hversion, hopen, hbytes⟩ := readChunk_ok hchunk
      obtain ⟨_, hoffset₁, hread⟩ := hbytes chunk rfl
      have hpos : 0 < chunk.length := List.length_pos_iff.2 hne
      have hle' : chunk.length ≤ remaining := hle.trans (Nat.min_le_left _ _)
      obtain ⟨hversion', hopen', hoffset', more, rfl, hlength, hmore⟩ :=
        ih (by omega) he₁ (by omega)
      refine ⟨hversion.trans hversion', hopen'.trans hopen, by omega, chunk ++ more,
        by rw [List.append_assoc], by rw [List.length_append]; omega, fun hsame => ?_⟩
      have hfirst := hread (by omega)
      have hrest := hmore (by omega)
      have hdrop : (history s₁.version).bytes.drop s₁.offset.toNat =
          ((history s.version).bytes.drop s.offset.toNat).drop chunk.length := by
        rw [List.drop_drop, show s₁.version = s.version by omega,
          show s₁.offset.toNat = s.offset.toNat + chunk.length by omega]
      rw [hdrop] at hrest
      obtain ⟨rest, hrest'⟩ := hfirst
      rw [← hrest', List.drop_left] at hrest
      rw [← hrest']
      exact List.prefix_append_right_inj chunk |>.2 hrest

/-- The calls that leave the descriptor as open as it is. -/
def PreviewCall.IsInside : PreviewCall → Prop
  | openRead _ => False
  | close => False
  | _ => True

/-- The descriptor is as open as it was. -/
structure Disk.Kept (s t : Disk) : Prop where
  version : s.version ≤ t.version
  isOpen : t.isOpen = s.isOpen

theorem Disk.Moves.kept (hst : s.Moves t) : s.Kept t := ⟨hst.version, hst.isOpen⟩

theorem Disk.Kept.refl (s : Disk) : s.Kept s := ⟨Nat.le_refl _, rfl⟩

theorem Disk.Kept.trans (hst : s.Kept t) (htu : t.Kept u) : s.Kept u :=
  ⟨Nat.le_trans hst.version htu.version, htu.isOpen.trans hst.isOpen⟩

theorem PreviewCall.IsInside.kept {c : PreviewCall} {r : c.Reply} (hc : c.IsInside)
    (hans : answers history c s r t) : s.Kept t := by
  cases c with
  | lstat path => exact Disk.Moves.kept hans
  | openRead path => exact hc.elim
  | fstat => exact hans.1.kept
  | named path => exact Disk.Moves.kept hans
  | read count => exact ⟨hans.1, hans.2.1⟩
  | seek offset => exact ⟨hans.1, hans.2.1⟩
  | close => exact hc.elim

/-- A program that stays inside the open file, whatever it raises. -/
abbrev Inside {α : Type} (m : PreviewProg α) : Prop :=
  Only PreviewCall.IsInside (fun _ => True) m

theorem Inside.kept {α : Type} {m : PreviewProg α} {x : Except PreviewFailure α} (hm : Inside m)
    (he : Executes (answers history) m s h x t) : s.Kept t :=
  (he.of_only hm Disk.Kept.refl (fun _ _ _ => Disk.Kept.trans)
    (fun _ _ _ _ hc hans => hc.kept hans)).1

theorem inside_check (b : Bool) : Inside (check b) := Only.require fun _ => trivial

theorem inside_fail {α : Type} (e : ArchivePreviewError) : Inside (fail e : PreviewProg α) :=
  Only.throw trivial

theorem inside_make {c : PreviewCall} (hc : c.IsInside) : Inside c.make := Only.ask hc

theorem inside_orInvalid {α : Type} (value : Option α) : Inside (orInvalid value) := by
  cases value with
  | none => exact inside_fail _
  | some a => exact Only.pure a

theorem inside_checkStats (path : PurePath) (size : Nat) (snapshot : FileSnapshot) :
    Inside (service.checkStats path size snapshot) :=
  (inside_make (c := .fstat) trivial).bind fun _ => (inside_orInvalid _).bind fun _ =>
    (inside_make (c := .named path) trivial).bind fun _ => (inside_orInvalid _).bind fun _ =>
      (inside_check _).bind fun _ => (inside_check _).bind fun _ => inside_check _

theorem inside_readChunk (requested : Nat) : Inside (readChunk requested) := by
  refine (inside_make (c := .read requested) trivial).bind fun reply => ?_
  cases reply with
  | raised => exact Only.throw trivial
  | other => exact inside_fail _
  | bytes chunk =>
    dsimp only
    split
    · exact inside_fail _
    · exact Only.pure _

theorem inside_seekTo (start : Int) : Inside (seekTo start) := by
  refine (inside_make (c := .seek start) trivial).bind fun reply => ?_
  cases reply with
  | none => exact Only.throw trivial
  | some reached => exact inside_check _

theorem inside_turn (p : ArchivePreview) (remaining : Nat) : Inside (service.turn p remaining) := by
  unfold ArchivePreviewService.turn
  split
  · exact (inside_checkStats _ _ _).bind fun _ => Only.pure _
  · exact (inside_readChunk _).bind fun _ => (inside_checkStats _ _ _).bind fun _ => Only.pure _

theorem inside_asPreviewError {α : Type} {m : PreviewProg α} (hm : Inside m) :
    Inside (asPreviewError m) := by
  refine hm.catching fun failure _ => ?_
  cases failure with
  | error e => exact inside_fail _
  | other => exact inside_fail _

theorem asPreviewError_ok {α : Type} {m : PreviewProg α} {a : α}
    (he : Executes (answers history) (asPreviewError m) s h (.ok a) t) :
    Executes (answers history) m s h (.ok a) t := by
  rcases executes_catching.1 he with ⟨a', ha, hm⟩ | ⟨failure, u, h₁, h₂, _, _, hf⟩
  · cases ha
    exact hm
  · cases failure with
    | error e => exact absurd hf fail_not_ok
    | other => exact absurd hf fail_not_ok

/-- A close that raises has closed the descriptor all the same. -/
theorem close_ends {p : ArchivePreview} {x : Except PreviewFailure Unit}
    (hclosed : p.closed = !s.isOpen) (he : Executes (answers history) p.close s h x t) :
    s.version ≤ t.version ∧ t.isOpen = false := by
  unfold ArchivePreview.close at he
  split at he
  · rename_i hp
    obtain ⟨_, _, rfl⟩ := executes_pure.1 he
    rw [hp] at hclosed
    exact ⟨Nat.le_refl _, by simpa using hclosed.symm⟩
  · rcases executes_bind.1 he with ⟨_, u, h₁, h₂, _, hcall, hcheck⟩ | ⟨e, _, hcall⟩
    · obtain ⟨_, _, _, hans⟩ := executes_make.1 hcall
      obtain ⟨_, _, rfl⟩ := executes_require.1 hcheck
      exact hans
    · obtain ⟨_, _, hx, _⟩ := executes_make.1 hcall
      cases hx

theorem suppressedClose_ends {p : ArchivePreview} {x : Except PreviewFailure Unit}
    (hclosed : p.closed = !s.isOpen)
    (he : Executes (answers history) p.suppressedClose s h x t) :
    s.version ≤ t.version ∧ t.isOpen = false ∧ x = .ok () := by
  rcases executes_catching.1 he with ⟨_, rfl, hclose⟩ | ⟨e, u, h₁, h₂, _, hclose, hpure⟩
  · obtain ⟨hversion, hopen⟩ := close_ends hclosed hclose
    exact ⟨hversion, hopen, rfl⟩
  · obtain ⟨_, rfl, rfl⟩ := executes_pure.1 hpure
    obtain ⟨hversion, hopen⟩ := close_ends hclosed hclose
    exact ⟨hversion, hopen, rfl⟩

/-- An iteration ends closed, with its outcome unless closing raises. -/
theorem finishIteration_ends {p : ArchivePreview} {outcome : Outcome}
    {x : Except PreviewFailure Result} (hclosed : p.closed = !s.isOpen)
    (he : Executes (answers history) (finishIteration p outcome) s h x t) :
    s.version ≤ t.version ∧ t.isOpen = false ∧
      ∃ outcome', x = .ok (p.asClosed, .finished, outcome') ∧
        (outcome' = outcome ∨ ∃ failure, outcome' = .raised failure) := by
  rcases executes_catching.1 he with ⟨_, rfl, hbody⟩ | ⟨failure, u, h₁, h₂, _, hbody, hpure⟩
  · obtain ⟨_, u, h₁, h₂, _, hclose, hpure⟩ := executes_bind_ok.1 hbody
    obtain ⟨_, hresult, rfl⟩ := executes_pure.1 hpure
    obtain ⟨hversion, hopen⟩ := close_ends hclosed hclose
    exact ⟨hversion, hopen, outcome, by rw [hresult], .inl rfl⟩
  · obtain ⟨_, rfl, rfl⟩ := executes_pure.1 hpure
    rcases executes_bind.1 hbody with ⟨_, v, h₃, h₄, _, _, hpure'⟩ | ⟨e, _, hclose⟩
    · have herror := (executes_pure.1 hpure').2.1
      cases herror
    · obtain ⟨hversion, hopen⟩ := close_ends hclosed hclose
      exact ⟨hversion, hopen, _, rfl, .inr ⟨failure, rfl⟩⟩

end MediaSync.Preview
