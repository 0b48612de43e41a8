import MediaSync.Foundation.Transition
import MediaSync.Media.PreviewCalls

/-!
# What a preview hands out

A file whose snapshot is seen unchanged has not changed, since every change is
visible. So the bytes that were hashed are those that are read later, as long as
the check behind each read succeeds. `Serving` ties the position of the
descriptor to what has been handed out; it holds of a preview that was opened
and is kept by every operation.
-/

namespace MediaSync.Preview

open JsonText (Text)
open Program

variable {history : Nat → FileVersion} {service : ArchivePreviewService} {p q : ArchivePreview}
  {s t u : Disk} {h : List (Exchange PreviewCall PreviewCall.Reply)} {blob : Bytes} {v : Nat}

/-- The bytes of the inclusive range. -/
def slice (blob : Bytes) (start stop : Int) : Bytes :=
  (blob.drop start.toNat).take (rangeLength start stop)

/-- The preview is of the blob, which version `v` of the file holds. -/
structure Verified (history : Nat → FileVersion) (blob : Bytes) (v : Nat) (p : ArchivePreview) :
    Prop where
  snapshot : FileSnapshot.fromStat (history v).stat = p.snapshot
  content : blob <+: (history v).bytes
  size : p.expectedSize = blob.length
  lower : 0 ≤ p.start
  ordered : p.start ≤ p.stop + 1
  upper : p.stop < blob.length
  length : p.contentLength = rangeLength p.start p.stop

/-- The bytes of the selected range. -/
def ArchivePreview.slice (p : ArchivePreview) (blob : Bytes) : Bytes :=
  Preview.slice blob p.start p.stop

theorem rangeLength_of_le {start stop : Int} (h : start ≤ stop + 1) :
    (rangeLength start stop : Int) = stop - start + 1 := by
  unfold rangeLength
  split
  · omega
  · omega

theorem Verified.fits (hp : Verified history blob v p) :
    p.start.toNat + p.contentLength ≤ blob.length := by
  have hlength := rangeLength_of_le hp.ordered
  have hlower := hp.lower
  have hupper := hp.upper
  rw [← hp.length] at hlength
  omega

theorem Verified.slice_length (hp : Verified history blob v p) :
    (p.slice blob).length = p.contentLength := by
  have hfits := hp.fits
  rw [ArchivePreview.slice, slice, List.length_take, List.length_drop, ← hp.length]
  omega

theorem Verified.asClosed (hp : Verified history blob v p) : Verified history blob v p.asClosed :=
  ⟨hp.snapshot, hp.content, hp.size, hp.lower, hp.ordered, hp.upper, hp.length⟩

/-- What is read at the right place, while the file is the one that was verified,
is the next part of the slice. -/
theorem Verified.read (hp : Verified history blob v p) {sent : Nat} {chunk : Bytes}
    (hsent : sent + chunk.length ≤ p.contentLength)
    (hchunk : chunk <+: (history v).bytes.drop (p.start.toNat + sent)) :
    (p.slice blob).take sent ++ chunk = (p.slice blob).take (sent + chunk.length) := by
  obtain ⟨beyond, hbeyond⟩ := hp.content
  have hfits := hp.fits
  have hchunk' : chunk = (blob.drop (p.start.toNat + sent)).take chunk.length := by
    obtain ⟨rest, hrest⟩ := hchunk
    have htake := congrArg (List.take chunk.length) hrest
    rw [List.take_left, ← hbeyond, List.drop_append_of_le_length (by omega),
      List.take_append_of_le_length (by rw [List.length_drop]; omega)] at htake
    exact htake
  have hslice : (p.slice blob).drop sent = (blob.drop (p.start.toNat + sent)).take
      (p.contentLength - sent) := by
    rw [ArchivePreview.slice, slice, List.drop_take, List.drop_drop, ← hp.length]
  rw [List.take_add, hslice, List.take_take, Nat.min_eq_left (by omega), ← hchunk']

/-- A check that succeeds saw the version that was verified. -/
theorem Verified.seen (hvisible : Visible history) (hp : Verified history blob v p)
    {size : Nat} {x : Unit} (hv : v ≤ s.version)
    (he : Executes (answers history) (service.checkStats p.path size p.snapshot) s h (.ok x) t) :
    s.version = v ∧ s.isOpen = true ∧ s.Moves t ∧
      SawUnchanged service p.path size p.snapshot h := by
  obtain ⟨hmoves, hopen, hsaw, w, hle, _, hw⟩ := checkStats_ok he
  obtain rfl : w = v := hvisible w v (hw.trans hp.snapshot.symm)
  exact ⟨Nat.le_antisymm hle hv, hopen, hmoves, hsaw⟩

/-- How a turn of the loop ends with so many bytes to go. At the end nothing is
left to read; at the `yield` the chunk is the next part of the slice, and the
check before it saw nothing changed. -/
def TurnEnds (service : ArchivePreviewService) (blob : Bytes) (p : ArchivePreview)
    (remaining : Nat) (calls : List (Exchange PreviewCall PreviewCall.Reply)) (disk : Disk) :
    Option (Bytes × Nat) → Prop
  | none => remaining = 0
  | some (chunk, rest) => chunk.length + rest = remaining ∧
      (∃ h₁ h₂, calls = h₁ ++ h₂ ∧
        SawUnchanged service p.path p.expectedSize p.snapshot h₂) ∧
      disk.offset = p.start + (p.contentLength - rest : Nat) ∧
      (p.slice blob).take (p.contentLength - remaining) ++ chunk =
        (p.slice blob).take (p.contentLength - rest)

theorem turn_ok (hvisible : Visible history) (hp : Verified history blob v p)
    {remaining : Nat} {result : Option (Bytes × Nat)} (hv : v ≤ s.version)
    (hremaining : remaining ≤ p.contentLength)
    (hoffset : s.isOpen = true → s.offset = p.start + (p.contentLength - remaining : Nat))
    (he : Executes (answers history) (service.turn p remaining) s h (.ok result) t) :
    TurnEnds service blob p remaining h t result := by
  unfold ArchivePreviewService.turn at he
  split at he
  · rename_i hzero
    obtain ⟨_, s₁, h₁, h₂, _, _, hpure⟩ := executes_bind_ok.1 he
    have hresult := (executes_pure.1 hpure).2.1
    cases hresult
    exact hzero
  · obtain ⟨chunk, s₁, h₁, k₁, rfl, hread, he₁⟩ := executes_bind_ok.1 he
    obtain ⟨_, s₂, h₂, k₂, rfl, hstable, hpure⟩ := executes_bind_ok.1 he₁
    obtain ⟨rfl, hresult, rfl⟩ := executes_pure.1 hpure
    cases hresult
    obtain ⟨_, hchunk, hversion, _, hbytes⟩ := readChunk_ok hread
    obtain ⟨hisOpen, hnext, hstart⟩ := hbytes chunk rfl
    obtain ⟨hseen, _, hmoves, hsaw⟩ := hp.seen hvisible (hv.trans hversion) hstable
    have hs : s.version = v := by omega
    have hfew : chunk.length ≤ remaining := hchunk.trans (Nat.min_le_left _ _)
    have hlower := hp.lower
    have hat := hoffset hisOpen
    have hsame := hstart (by omega)
    rw [hs, show s.offset.toNat = p.start.toNat + (p.contentLength - remaining) by omega] at hsame
    refine ⟨by omega, ⟨h₁, h₂, by rw [List.append_nil], hsaw⟩, ?_, ?_⟩
    · rw [hmoves.offset, hnext, hat]
      omega
    · rw [hp.read (by omega) hsame]
      congr 1
      omega

/-- What an iterator has handed out, and where that leaves the descriptor. -/
def Generator.Sent (blob : Bytes) (p : ArchivePreview) (disk : Disk) (out : Bytes) :
    Generator → Prop
  | .absent => out = [] ∧ (disk.isOpen = true → disk.offset = p.start)
  | .fresh => out = [] ∧ (disk.isOpen = true → disk.offset = p.start)
  | .suspended remaining => remaining ≤ p.contentLength ∧
      out = (p.slice blob).take (p.contentLength - remaining) ∧
        (disk.isOpen = true → disk.offset = p.start + (p.contentLength - remaining : Nat))
  | .finished => out <+: p.slice blob

theorem Generator.Sent.out {generator : Generator} {disk : Disk} {out : Bytes}
    (hsent : generator.Sent blob p disk out) : out <+: p.slice blob := by
  cases generator with
  | absent => exact hsent.1 ▸ List.nil_prefix
  | fresh => exact hsent.1 ▸ List.nil_prefix
  | suspended remaining => exact hsent.2.1 ▸ List.take_prefix _ _
  | finished => exact hsent

/-- Closing changes nothing that was handed out. -/
theorem Generator.Sent.closed {generator : Generator} {disk disk' : Disk} {out : Bytes}
    (hsent : generator.Sent blob p disk out) (hclosed : disk'.isOpen = false) :
    generator.Sent blob p.asClosed disk' out := by
  have hopen : disk'.isOpen = true → False := fun h => by rw [hclosed] at h; cases h
  cases generator with
  | absent => exact ⟨hsent.1, fun h => (hopen h).elim⟩
  | fresh => exact ⟨hsent.1, fun h => (hopen h).elim⟩
  | suspended remaining => exact ⟨hsent.1, hsent.2.1, fun h => (hopen h).elim⟩
  | finished => exact hsent

structure Serving (history : Nat → FileVersion) (blob : Bytes) (v : Nat) (session : Session)
    (out : Bytes) : Prop where
  verified : Verified history blob v session.preview
  version : v ≤ session.disk.version
  closed : session.preview.closed = !session.disk.isOpen
  started : session.preview.started = true ↔ session.generator ≠ .absent
  sent : session.generator.Sent blob session.preview session.disk out

/-- What closes the preview serves on, with the same bytes handed out. -/
theorem Serving.closing {session session' : Session} {out : Bytes}
    (hs : Serving history blob v session out)
    (hpreview : session'.preview = session.preview.asClosed)
    (hversion : v ≤ session'.disk.version) (hopen : session'.disk.isOpen = false)
    (hgenerator : session'.generator = session.generator ∨
      session.generator ≠ .absent ∧ session'.generator = .finished) :
    Serving history blob v session' out where
  verified := hpreview ▸ hs.verified.asClosed
  version := hversion
  closed := by
    rw [hpreview, hopen]
    rfl
  started := by
    have hstarted : session'.preview.started = session.preview.started := by
      rw [hpreview]
      rfl
    rw [hstarted, hs.started]
    rcases hgenerator with h | ⟨hne, h⟩
    · rw [h]
    · rw [h]
      exact ⟨fun _ => (by simp), fun _ => hne⟩
  sent := by
    rw [hpreview]
    rcases hgenerator with h | ⟨_, h⟩
    · rw [h]
      exact hs.sent.closed hopen
    · rw [h]
      exact hs.sent.out

/-! ## Operations -/

/-- The operations after which the descriptor is closed: a refused selection, an
iteration that ends in any way, and the close of the preview. -/
def Event.Releases (event : Event) : Prop :=
  match event.operation, event.outcome with
  | .selectRange _ _, .raised _ => True
  | .next, .raised _ => True
  | .next, .exhausted => True
  | .abandon, .raised _ => True
  | .abandon, .abandoned => True
  | .close, _ => True
  | _, _ => False

/-- The iterator is handed to the caller. -/
def Event.HandsOut (event : Event) : Prop :=
  event.operation = .iterBytes ∧ event.outcome = .returned

/-- What one operation does, after `out` was handed out. -/
structure StepLaws (service : ArchivePreviewService) (blob : Bytes) (s : Session) (event : Event)
    (t : Session) (out : Bytes) : Prop where
  checked : ∀ chunk, event.outcome = .yielded chunk → ∃ h₁ h₂, event.calls = h₁ ++ h₂ ∧
    SawUnchanged service s.preview.path s.preview.expectedSize s.preview.snapshot h₂
  complete : event.outcome = .exhausted →
    t.generator = .finished ∧ out = t.preview.slice blob
  released : event.Releases → t.disk.isOpen = false
  stays : s.disk.isOpen = false → t.disk.isOpen = false
  handed : event.HandsOut → s.preview.started = false
  began : event.HandsOut ∨ s.preview.started = true → t.preview.started = true
  finished : s.generator = .finished → t.generator = .finished ∧ event.bytes = [] ∧
    t.preview.slice blob = s.preview.slice blob
  path : t.preview.path = s.preview.path
  snapshot : t.preview.snapshot = s.preview.snapshot
  expectedSize : t.preview.expectedSize = s.preview.expectedSize

/-- An operation that changes nothing but, at most, that the preview is closed. -/
theorem laws_closing {session : Session} {event : Event} {t' : Session} {out : Bytes}
    (hpreview : t'.preview = session.preview ∨ t'.preview = session.preview.asClosed)
    (hgenerator : session.generator = .finished → t'.generator = .finished)
    (hbytes : ∀ chunk, event.outcome ≠ .yielded chunk) (hend : event.outcome ≠ .exhausted)
    (hout : ¬ event.HandsOut) (hopen : t'.disk.isOpen = false ∨
      (t'.disk.isOpen = session.disk.isOpen ∧ ¬ event.Releases)) :
    StepLaws service blob session event t' out := by
  have hnone : event.bytes = [] := by
    unfold Event.bytes
    split
    · rename_i chunk hchunk
      exact absurd hchunk (hbytes chunk)
    · rfl
  have hstarted : t'.preview.started = session.preview.started := by
    rcases hpreview with h | h
    · rw [h]
    · rw [h]
      rfl
  have hslice : t'.preview.slice blob = session.preview.slice blob := by
    rcases hpreview with h | h
    · rw [h]
    · rw [h]
      rfl
  constructor
  · exact fun chunk hchunk => absurd hchunk (hbytes chunk)
  · exact fun h => absurd h hend
  · intro h
    rcases hopen with hopen | ⟨_, hkeeps⟩
    · exact hopen
    · exact absurd h hkeeps
  · intro h
    rcases hopen with hopen | ⟨hsame, _⟩
    · exact hopen
    · rw [hsame, h]
  · exact fun h => absurd h hout
  · rintro (h | h)
    · exact absurd h hout
    · rw [hstarted, h]
  · exact fun h => ⟨hgenerator h, hnone, hslice⟩
  · rcases hpreview with h | h
    · rw [h]
    · rw [h]
      rfl
  · rcases hpreview with h | h
    · rw [h]
    · rw [h]
      rfl
  · rcases hpreview with h | h
    · rw [h]
    · rw [h]
      rfl

/-- The preview that a selection leaves, on a descriptor that stands at the
start of the range, or else a closed one. -/
theorem selectRange_ends (hp : Verified history blob v p)
    (hv : v ≤ s.version) (hclosed : p.closed = !s.isOpen) {start stop : Int}
    {x : Except PreviewFailure ArchivePreview}
    (he : Executes (answers history) (service.selectRange p start stop) s h x t) :
    v ≤ t.version ∧
      (∀ selected, x = .ok selected → p.started = false ∧ selected.started = false ∧
        selected.closed = !t.isOpen ∧ t.isOpen = s.isOpen ∧ t.offset = selected.start ∧
        Verified history blob v selected ∧ selected.path = p.path ∧
        selected.snapshot = p.snapshot ∧ selected.expectedSize = p.expectedSize) ∧
      ∀ failure, x = .error failure → t.isOpen = false := by
  unfold ArchivePreviewService.selectRange at he
  split at he
  · rcases executes_bind.1 he with ⟨_, u, h₁, h₂, _, hclose, hfail⟩ | ⟨e, _, hclose⟩
    · obtain ⟨hversion, hopen, _⟩ := suppressedClose_ends hclosed hclose
      obtain ⟨_, rfl, rfl⟩ := executes_throw.1 hfail
      exact ⟨hv.trans hversion, fun _ hok => (by cases hok), fun _ _ => hopen⟩
    · have hok := (suppressedClose_ends hclosed hclose).2.2
      cases hok
  · rename_i hgood
    simp only [Bool.or_eq_true, decide_eq_true_eq, not_or, Bool.not_eq_true, Int.not_le,
      Int.not_lt] at hgood
    obtain ⟨⟨⟨⟨⟨⟨hstarted, hopened⟩, _⟩, _⟩, hstart⟩, hstop⟩, hsize⟩ := hgood
    rcases executes_catching.1 he with ⟨selected, rfl, hbody⟩ | ⟨failure, w, h₁, h₂, _, hbody, hend⟩
    · obtain ⟨_, s₁, _, _, _, hstable, he₁⟩ := executes_bind_ok.1 (asPreviewError_ok hbody)
      obtain ⟨_, s₂, _, _, _, hseek, he₂⟩ := executes_bind_ok.1 he₁
      obtain ⟨_, s₃, _, _, _, hstable', he₃⟩ := executes_bind_ok.1 he₂
      obtain ⟨_, hselected, rfl⟩ := executes_pure.1 he₃
      cases hselected
      obtain ⟨hversion, hkept, hoffset⟩ := seekTo_ok hseek
      obtain ⟨hmoves, _⟩ := checkStats_ok hstable
      obtain ⟨hmoves', _⟩ := checkStats_ok hstable'
      have hisOpen : t.isOpen = s.isOpen := by rw [hmoves'.isOpen, hkept, hmoves.isOpen]
      refine ⟨hv.trans ((hmoves.version.trans hversion).trans hmoves'.version), ?_,
        fun _ herror => (by cases herror)⟩
      rintro selected ⟨⟩
      refine ⟨hstarted, hstarted, ?_, hisOpen, hmoves'.offset.trans hoffset,
        ⟨hp.snapshot, hp.content, hp.size, hstart, Int.le_add_one hstop, ?_, rfl⟩, rfl, rfl, rfl⟩
      · rw [hisOpen]
        exact hclosed
      · rw [← hp.size]
        exact hsize
    · have hinside : Inside (asPreviewError do
          service.assertStable p
          seekTo start
          service.assertStable p
          pure { p with
            start := start, stop := stop, contentLength := rangeLength start stop,
            isPartial := true, rangeSelected := true }) :=
        inside_asPreviewError ((inside_checkStats _ _ _).bind fun _ =>
          (inside_seekTo _).bind fun _ => (inside_checkStats _ _ _).bind fun _ => Only.pure _)
      have hkept := hinside.kept hbody
      have hclosed' : p.closed = !w.isOpen := by rw [hkept.isOpen]; exact hclosed
      rcases executes_bind.1 hend with ⟨_, u, _, _, _, hclose, hfail⟩ | ⟨e, _, hclose⟩
      · obtain ⟨hversion, hopen, _⟩ := suppressedClose_ends hclosed' hclose
        obtain ⟨_, rfl, rfl⟩ := executes_throw.1 hfail
        exact ⟨hv.trans (hkept.version.trans hversion), fun _ hok => (by cases hok),
          fun _ _ => hopen⟩
      · have hok := (suppressedClose_ends hclosed' hclose).2.2
        cases hok

theorem selectRange_step {session t' : Session} {out : Bytes}
    (hs : Serving history blob v session out) {start stop : Int}
    {calls : List (Exchange PreviewCall PreviewCall.Reply)} {outcome : Outcome}
    (hstep : Steps service history session ⟨.selectRange start stop, calls, outcome⟩ t') :
    Serving history blob v t' out ∧ Event.bytes ⟨.selectRange start stop, calls, outcome⟩ = [] ∧
      StepLaws service blob session ⟨.selectRange start stop, calls, outcome⟩ t' out := by
  rcases executes_catching.1 hstep with ⟨_, hok, hbody⟩ | ⟨failure, w, h₁, h₂, _, hbody, hpure⟩
  · obtain ⟨selected, w, h₁, h₂, _, hselect, hpure⟩ := executes_bind_ok.1 hbody
    cases hok
    obtain ⟨_, hresult, hw⟩ := executes_pure.1 hpure
    injection hresult with hresult
    simp only [Prod.mk.injEq] at hresult
    obtain ⟨hpreview, hgenerator, houtcome⟩ := hresult
    obtain ⟨hversion, hselected, _⟩ :=
      selectRange_ends hs.verified hs.version hs.closed hselect
    obtain ⟨hstarted, hstarted', hclosed, hisOpen, hoffset, hverified, hpath, hsnapshot, hsize⟩ :=
      hselected selected rfl
    have habsent : session.generator = .absent := by
      by_contra hne
      rw [hs.started.2 hne] at hstarted
      cases hstarted
    have hsent := hs.sent
    rw [habsent] at hsent
    subst houtcome
    refine ⟨⟨hpreview ▸ hverified, hw ▸ hversion, ?_, ?_, ?_⟩, rfl, ?_⟩
    · rw [hpreview, hw]
      exact hclosed
    · rw [hpreview, hstarted', hgenerator, habsent]
      simp
    · rw [hgenerator, habsent, hpreview, hw]
      exact ⟨hsent.1, fun _ => hoffset⟩
    · constructor
      · exact fun chunk hchunk => (by cases hchunk)
      · exact fun h => (by cases h)
      · exact fun h => h.elim
      · intro h
        rw [hw, hisOpen, h]
      · exact fun h => (by cases h.1)
      · rintro (h | h)
        · cases h.1
        · rw [hstarted] at h
          cases h
      · intro h
        rw [habsent] at h
        cases h
      · rw [hpreview, hpath]
      · rw [hpreview, hsnapshot]
      · rw [hpreview, hsize]
  · obtain ⟨_, hresult, hw⟩ := executes_pure.1 hpure
    injection hresult with hresult
    simp only [Prod.mk.injEq] at hresult
    obtain ⟨hpreview, hgenerator, houtcome⟩ := hresult
    rcases executes_bind.1 hbody with ⟨_, u, _, _, _, _, hpure'⟩ | ⟨e, he, hselect⟩
    · have herror := (executes_pure.1 hpure').2.1
      cases herror
    · obtain ⟨hversion, _, hopen⟩ :=
        selectRange_ends hs.verified hs.version hs.closed hselect
      have hdisk : t'.disk.isOpen = false := by rw [hw]; exact hopen _ rfl
      refine ⟨hs.closing hpreview (hw ▸ hversion) hdisk (.inl hgenerator), ?_,
        laws_closing (.inr hpreview) (fun h => hgenerator.trans h) ?_ ?_ ?_ (.inl hdisk)⟩
      · subst houtcome
        rfl
      · intro chunk
        subst houtcome
        exact fun h => (by cases h)
      · subst houtcome
        exact fun h => (by cases h)
      · exact fun h => (by cases h.1)

/-- Where the iteration ends, its `finally` closes the preview. -/
theorem finished_step {session t' : Session} {out : Bytes} {w : Disk} {remaining : Nat}
    {k calls : List (Exchange PreviewCall PreviewCall.Reply)} {last outcome : Outcome}
    (hs : Serving history blob v session out) (hgenerator : session.generator ≠ .absent)
    (hunfinished : session.generator ≠ .finished)
    (hout : out = (session.preview.slice blob).take (session.preview.contentLength - remaining))
    (hkept : session.disk.Kept w) (hyield : ∀ chunk, last ≠ .yielded chunk)
    (hzero : last = .exhausted → remaining = 0)
    (hfinish : Executes (answers history) (finishIteration session.preview last) w k
      (.ok (t'.preview, t'.generator, outcome)) t'.disk) :
    Serving history blob v t' (out ++ Event.bytes ⟨.next, calls, outcome⟩) ∧
      StepLaws service blob session ⟨.next, calls, outcome⟩ t' out := by
  have hclosed : session.preview.closed = !w.isOpen := by
    rw [hkept.isOpen]
    exact hs.closed
  obtain ⟨hversion, hopen, outcome', hresult, houtcome⟩ := finishIteration_ends hclosed hfinish
  injection hresult with hresult
  simp only [Prod.mk.injEq] at hresult
  obtain ⟨hpreview, hfinished, rfl⟩ := hresult
  have hserving := hs.closing hpreview (hs.version.trans (hkept.version.trans hversion)) hopen
    (.inr ⟨hgenerator, hfinished⟩)
  have hnone : Event.bytes ⟨.next, calls, outcome⟩ = [] := by
    rcases houtcome with rfl | ⟨failure, rfl⟩
    · unfold Event.bytes
      split
      · rename_i chunk hchunk
        exact absurd hchunk (hyield chunk)
      · rfl
    · rfl
  have hslice : t'.preview.slice blob = session.preview.slice blob := by
    rw [hpreview]
    rfl
  refine ⟨by rw [hnone, List.append_nil]; exact hserving, ?_⟩
  constructor
  · intro chunk hchunk
    rcases houtcome with rfl | ⟨failure, rfl⟩
    · exact absurd hchunk (hyield chunk)
    · cases hchunk
  · intro hexhausted
    refine ⟨hfinished, ?_⟩
    rcases houtcome with rfl | ⟨failure, rfl⟩
    · rw [hslice, hout, hzero hexhausted, Nat.sub_zero, ← hs.verified.slice_length,
        List.take_length]
    · cases hexhausted
  · exact fun _ => hopen
  · exact fun _ => hopen
  · exact fun h => (by cases h.1)
  · rintro (h | h)
    · cases h.1
    · rw [hpreview]
      exact h
  · exact fun h => absurd h hunfinished
  · rw [hpreview]
    rfl
  · rw [hpreview]
    rfl
  · rw [hpreview]
    rfl

/-- A turn that reads a chunk leaves the iteration suspended behind it. -/
theorem yielded_step {session t' : Session} {out : Bytes} {w : Disk} {remaining rest : Nat}
    {chunk : Bytes} {calls : List (Exchange PreviewCall PreviewCall.Reply)}
    (hs : Serving history blob v session out) (hgenerator : session.generator ≠ .absent)
    (hunfinished : session.generator ≠ .finished)
    (hout : out = (session.preview.slice blob).take (session.preview.contentLength - remaining))
    (hremaining : remaining ≤ session.preview.contentLength) (hkept : session.disk.Kept w)
    (hturn : TurnEnds service blob session.preview remaining calls w (some (chunk, rest)))
    (hpreview : t'.preview = session.preview) (hsuspended : t'.generator = .suspended rest)
    (hw : t'.disk = w) :
    Serving history blob v t' (out ++ Event.bytes ⟨.next, calls, .yielded chunk⟩) ∧
      StepLaws service blob session ⟨.next, calls, .yielded chunk⟩ t' out := by
  obtain ⟨hlength, hsaw, hoffset, hnext⟩ := hturn
  have hyield : Event.bytes ⟨.next, calls, .yielded chunk⟩ = chunk := rfl
  refine ⟨⟨hpreview ▸ hs.verified, ?_, ?_, ?_, ?_⟩, ?_⟩
  · rw [hw]
    exact hs.version.trans hkept.version
  · rw [hpreview, hw, hkept.isOpen]
    exact hs.closed
  · rw [hpreview, hsuspended, hs.started]
    exact ⟨fun _ => (by simp), fun _ => hgenerator⟩
  · rw [hsuspended, hpreview, hw, hyield, hout]
    exact ⟨by omega, hnext, fun _ => hoffset⟩
  · constructor
    · intro chunk' hchunk'
      cases hchunk'
      exact hsaw
    · exact fun h => (by cases h)
    · exact fun h => h.elim
    · intro h
      rw [hw, hkept.isOpen, h]
    · exact fun h => (by cases h.1)
    · rintro (h | h)
      · cases h.1
      · rw [hpreview]
        exact h
    · exact fun h => absurd h hunfinished
    · rw [hpreview]
    · rw [hpreview]
    · rw [hpreview]

theorem advance_step {session t' : Session} {out : Bytes}
    {body : PreviewProg (Option (Bytes × Nat))}
    {calls : List (Exchange PreviewCall PreviewCall.Reply)} {outcome : Outcome}
    (hs : Serving history blob v session out) (remaining : Nat)
    (hgenerator : session.generator ≠ .absent) (hunfinished : session.generator ≠ .finished)
    (hout : out = (session.preview.slice blob).take (session.preview.contentLength - remaining))
    (hremaining : remaining ≤ session.preview.contentLength) (hinside : Inside body)
    (hbody : ∀ h result w, Executes (answers history) body session.disk h (.ok result) w →
      TurnEnds service blob session.preview remaining h w result)
    (he : Executes (answers history) (advance session.preview body) session.disk calls
      (.ok (t'.preview, t'.generator, outcome)) t'.disk) :
    Serving history blob v t' (out ++ Event.bytes ⟨.next, calls, outcome⟩) ∧
      StepLaws service blob session ⟨.next, calls, outcome⟩ t' out := by
  rcases executes_catching.1 he with ⟨_, hok, hbound⟩ | ⟨failure, w, k₁, k₂, _, hbound, hfinish⟩
  · cases hok
    obtain ⟨result, w, k₁, k₂, hk, hrun, hrest⟩ := executes_bind_ok.1 hbound
    have hkept := (inside_asPreviewError hinside).kept hrun
    have hturn := hbody _ _ _ (asPreviewError_ok hrun)
    rcases result with _ | ⟨chunk, rest⟩
    · exact finished_step hs hgenerator hunfinished hout hkept (fun _ h => (by cases h))
        (fun _ => hturn) hrest
    · dsimp only at hrest
      obtain ⟨rfl, hresult, hw⟩ := executes_pure.1 hrest
      injection hresult with hresult
      simp only [Prod.mk.injEq] at hresult
      obtain ⟨hpreview, hsuspended, rfl⟩ := hresult
      rw [List.append_nil] at hk
      rw [hk]
      exact yielded_step hs hgenerator hunfinished hout hremaining hkept hturn hpreview hsuspended hw
  · rcases executes_bind.1 hbound with ⟨result, u, _, _, _, hrun, hrest⟩ | ⟨e, _, hrun⟩
    · rcases result with _ | ⟨chunk, rest⟩
      · have hkept := (inside_asPreviewError hinside).kept hrun
        have hclosed : session.preview.closed = !u.isOpen := by
          rw [hkept.isOpen]
          exact hs.closed
        obtain ⟨_, _, _, herror, _⟩ := finishIteration_ends hclosed hrest
        cases herror
      · have herror := (executes_pure.1 hrest).2.1
        cases herror
    · exact finished_step hs hgenerator hunfinished hout
        ((inside_asPreviewError hinside).kept hrun) (fun _ h => (by cases h))
        (fun h => (by cases h)) hfinish

theorem TurnEnds.prepend {remaining : Nat} {calls : List (Exchange PreviewCall PreviewCall.Reply)}
    {result : Option (Bytes × Nat)} (hturn : TurnEnds service blob p remaining calls t result)
    (before : List (Exchange PreviewCall PreviewCall.Reply)) :
    TurnEnds service blob p remaining (before ++ calls) t result := by
  rcases result with _ | ⟨chunk, rest⟩
  · exact hturn
  · obtain ⟨hlength, ⟨h₁, h₂, hcalls, hsaw⟩, hrest⟩ := hturn
    exact ⟨hlength, ⟨before ++ h₁, h₂, by rw [hcalls, List.append_assoc], hsaw⟩, hrest⟩

/-- An operation that finds nothing to do. -/
theorem unchanged_step {session t' : Session} {out : Bytes} {event : Event} {outcome : Outcome}
    (hs : Serving history blob v session out)
    (he : Executes (answers history) (pure (session.preview, session.generator, outcome) :
      PreviewProg Result) session.disk event.calls
      (.ok (t'.preview, t'.generator, event.outcome)) t'.disk)
    (hyield : ∀ chunk, outcome ≠ .yielded chunk) (hend : outcome ≠ .exhausted)
    (hout : event.operation = .iterBytes → outcome ≠ .returned)
    (hreleases : ¬ Event.Releases ⟨event.operation, event.calls, outcome⟩) :
    Serving history blob v t' (out ++ event.bytes) ∧
      StepLaws service blob session event t' out := by
  obtain ⟨operation, calls, outcome'⟩ := event
  obtain ⟨rfl, hresult, hdisk⟩ := executes_pure.1 he
  injection hresult with hresult
  simp only [Prod.mk.injEq] at hresult
  obtain ⟨hpreview, hgenerator, rfl⟩ := hresult
  have hsession : t' = session := by
    cases t'
    cases session
    cases hpreview
    cases hgenerator
    cases hdisk
    rfl
  subst hsession
  have hlaws : StepLaws service blob t' ⟨operation, [], outcome'⟩ t' out :=
    laws_closing (.inl rfl) id hyield hend (fun h => hout h.1 h.2) (.inr ⟨rfl, hreleases⟩)
  have hnone : Event.bytes ⟨operation, [], outcome'⟩ = [] := by
    unfold Event.bytes
    split
    · rename_i chunk hchunk
      exact absurd hchunk (hyield chunk)
    · rfl
  rw [hnone, List.append_nil]
  exact ⟨hs, hlaws⟩

theorem next_step (hvisible : Visible history) {session t' : Session} {out : Bytes}
    (hs : Serving history blob v session out)
    {calls : List (Exchange PreviewCall PreviewCall.Reply)} {outcome : Outcome}
    (hstep : Steps service history session ⟨.next, calls, outcome⟩ t') :
    Serving history blob v t' (out ++ Event.bytes ⟨.next, calls, outcome⟩) ∧
      StepLaws service blob session ⟨.next, calls, outcome⟩ t' out := by
  have hsent := hs.sent
  unfold Steps ArchivePreviewService.operate at hstep
  cases hgenerator : session.generator with
  | absent =>
    rw [hgenerator] at hstep
    dsimp only at hstep
    rw [← hgenerator] at hstep
    exact unchanged_step hs hstep (fun _ h => (by cases h)) (fun h => (by cases h))
      (fun h => (by cases h)) (fun h => h.elim)
  | finished =>
    rw [hgenerator] at hstep
    dsimp only at hstep
    rw [← hgenerator] at hstep
    exact unchanged_step hs hstep (fun _ h => (by cases h)) (fun h => (by cases h))
      (fun h => (by cases h)) (fun h => h.elim)
  | fresh =>
    rw [hgenerator] at hstep hsent
    refine advance_step hs session.preview.contentLength (by rw [hgenerator]; simp)
      (by rw [hgenerator]; simp) ?_ (Nat.le_refl _)
      ((inside_checkStats _ _ _).bind fun _ => inside_turn _ _) ?_ hstep
    · rw [hsent.1, Nat.sub_self, List.take_zero]
    · intro h result w hrun
      obtain ⟨_, s₁, h₁, h₂, rfl, hstable, hturn⟩ := executes_bind_ok.1 hrun
      obtain ⟨_, _, hmoves, _⟩ := hs.verified.seen hvisible hs.version hstable
      refine (turn_ok hvisible hs.verified (hs.version.trans hmoves.version) (Nat.le_refl _) ?_
        hturn).prepend h₁
      intro hopen
      rw [hmoves.isOpen] at hopen
      rw [hmoves.offset, hsent.2 hopen]
      omega
  | suspended remaining =>
    rw [hgenerator] at hstep hsent
    refine advance_step hs remaining (by rw [hgenerator]; simp)
      (by rw [hgenerator]; simp) hsent.2.1 hsent.1 (inside_turn _ _) ?_ hstep
    exact fun h result w hturn =>
      turn_ok hvisible hs.verified hs.version hsent.1 hsent.2.2 hturn

theorem iterBytes_step {session t' : Session} {out : Bytes}
    (hs : Serving history blob v session out)
    {calls : List (Exchange PreviewCall PreviewCall.Reply)} {outcome : Outcome}
    (hstep : Steps service history session ⟨.iterBytes, calls, outcome⟩ t') :
    Serving history blob v t' (out ++ Event.bytes ⟨.iterBytes, calls, outcome⟩) ∧
      StepLaws service blob session ⟨.iterBytes, calls, outcome⟩ t' out := by
  have hsent := hs.sent
  unfold Steps ArchivePreviewService.operate at hstep
  dsimp only at hstep
  split at hstep
  · exact unchanged_step hs hstep (fun _ h => (by cases h)) (fun h => (by cases h))
      (fun _ h => (by cases h)) (fun h => h.elim)
  · rename_i hgood
    rw [Bool.or_eq_true, not_or, Bool.not_eq_true, Bool.not_eq_true] at hgood
    obtain ⟨rfl, hresult, hdisk⟩ := executes_pure.1 hstep
    injection hresult with hresult
    simp only [Prod.mk.injEq] at hresult
    obtain ⟨hpreview, hgenerator, rfl⟩ := hresult
    have habsent : session.generator = .absent := by
      by_contra hne
      have hstarted := hs.started.2 hne
      rw [hgood.1] at hstarted
      cases hstarted
    rw [habsent] at hsent
    have hnone : Event.bytes ⟨.iterBytes, [], .returned⟩ = [] := rfl
    rw [hnone, List.append_nil]
    refine ⟨⟨?_, ?_, ?_, ?_, ?_⟩, ?_⟩
    · rw [hpreview]
      exact ⟨hs.verified.snapshot, hs.verified.content, hs.verified.size, hs.verified.lower,
        hs.verified.ordered, hs.verified.upper, hs.verified.length⟩
    · rw [hdisk]
      exact hs.version
    · rw [hpreview, hdisk]
      exact hs.closed
    · rw [hpreview, hgenerator]
      simp
    · rw [hpreview, hgenerator, hdisk]
      exact hsent
    · constructor
      · exact fun chunk hchunk => (by cases hchunk)
      · exact fun h => (by cases h)
      · exact fun h => h.elim
      · intro h
        rw [hdisk, h]
      · exact fun _ => hgood.1
      · intro _
        rw [hpreview]
      · intro h
        rw [habsent] at h
        cases h
      · rw [hpreview]
      · rw [hpreview]
      · rw [hpreview]

theorem abandon_step {session t' : Session} {out : Bytes}
    (hs : Serving history blob v session out)
    {calls : List (Exchange PreviewCall PreviewCall.Reply)} {outcome : Outcome}
    (hstep : Steps service history session ⟨.abandon, calls, outcome⟩ t') :
    Serving history blob v t' (out ++ Event.bytes ⟨.abandon, calls, outcome⟩) ∧
      StepLaws service blob session ⟨.abandon, calls, outcome⟩ t' out := by
  have hsent := hs.sent
  unfold Steps ArchivePreviewService.operate at hstep
  cases hgenerator : session.generator with
  | absent =>
    rw [hgenerator] at hstep
    dsimp only at hstep
    rw [← hgenerator] at hstep
    exact unchanged_step hs hstep (fun _ h => (by cases h)) (fun h => (by cases h))
      (fun h => (by cases h)) (fun h => h.elim)
  | finished =>
    rw [hgenerator] at hstep
    dsimp only at hstep
    rw [← hgenerator] at hstep
    exact unchanged_step hs hstep (fun _ h => (by cases h)) (fun h => (by cases h))
      (fun h => (by cases h)) (fun h => h.elim)
  | fresh =>
    rw [hgenerator] at hstep hsent
    obtain ⟨rfl, hresult, hdisk⟩ := executes_pure.1 hstep
    injection hresult with hresult
    simp only [Prod.mk.injEq] at hresult
    obtain ⟨hpreview, hfinished, rfl⟩ := hresult
    rw [show Event.bytes ⟨.abandon, [], .returned⟩ = [] from rfl, List.append_nil]
    refine ⟨⟨hpreview ▸ hs.verified, hdisk ▸ hs.version, ?_, ?_, ?_⟩,
      laws_closing (.inl hpreview) (fun _ => hfinished) (fun _ h => (by cases h))
        (fun h => (by cases h)) (fun h => (by cases h.1)) (.inr ⟨?_, fun h => h.elim⟩)⟩
    · rw [hpreview, hdisk]
      exact hs.closed
    · rw [hpreview, hfinished, hs.started, hgenerator]
      simp
    · rw [hfinished, hsent.1]
      exact List.nil_prefix
    · rw [hdisk]
  | suspended remaining =>
    rw [hgenerator] at hstep
    obtain ⟨hversion, hopen, outcome', hresult, houtcome⟩ := finishIteration_ends hs.closed hstep
    injection hresult with hresult
    simp only [Prod.mk.injEq] at hresult
    obtain ⟨hpreview, hfinished, rfl⟩ := hresult
    have hnone : Event.bytes ⟨.abandon, calls, outcome⟩ = [] := by
      rcases houtcome with rfl | ⟨failure, rfl⟩
      · rfl
      · rfl
    rw [hnone, List.append_nil]
    refine ⟨hs.closing hpreview (hs.version.trans hversion) hopen
      (.inr ⟨by rw [hgenerator]; simp, hfinished⟩), laws_closing (.inr hpreview)
        (fun _ => hfinished) ?_ ?_ (fun h => (by cases h.1)) (.inl hopen)⟩
    · rcases houtcome with rfl | ⟨failure, rfl⟩
      · exact fun _ h => (by cases h)
      · exact fun _ h => (by cases h)
    · rcases houtcome with rfl | ⟨failure, rfl⟩
      · exact fun h => (by cases h)
      · exact fun h => (by cases h)

theorem close_step {session t' : Session} {out : Bytes}
    (hs : Serving history blob v session out)
    {calls : List (Exchange PreviewCall PreviewCall.Reply)} {outcome : Outcome}
    (hstep : Steps service history session ⟨.close, calls, outcome⟩ t') :
    Serving history blob v t' (out ++ Event.bytes ⟨.close, calls, outcome⟩) ∧
      StepLaws service blob session ⟨.close, calls, outcome⟩ t' out := by
  have hend : session.disk.version ≤ t'.disk.version ∧ t'.disk.isOpen = false ∧
      t'.preview = session.preview.asClosed ∧ t'.generator = session.generator ∧
      (outcome = .returned ∨ ∃ failure, outcome = .raised failure) := by
    rcases executes_catching.1 hstep with ⟨_, hok, hbody⟩ | ⟨failure, w, h₁, h₂, _, hbody, hpure⟩
    · cases hok
      obtain ⟨_, w, h₁, h₂, _, hclose, hpure⟩ := executes_bind_ok.1 hbody
      obtain ⟨_, hresult, hw⟩ := executes_pure.1 hpure
      injection hresult with hresult
      simp only [Prod.mk.injEq] at hresult
      obtain ⟨hversion, hopen⟩ := close_ends hs.closed hclose
      rw [hw]
      exact ⟨hversion, hopen, hresult.1, hresult.2.1, .inl hresult.2.2⟩
    · obtain ⟨_, hresult, hw⟩ := executes_pure.1 hpure
      injection hresult with hresult
      simp only [Prod.mk.injEq] at hresult
      rcases executes_bind.1 hbody with ⟨_, u, _, _, _, _, hpure'⟩ | ⟨e, _, hclose⟩
      · have herror := (executes_pure.1 hpure').2.1
        cases herror
      · obtain ⟨hversion, hopen⟩ := close_ends hs.closed hclose
        rw [hw]
        exact ⟨hversion, hopen, hresult.1, hresult.2.1, .inr ⟨failure, hresult.2.2⟩⟩
  obtain ⟨hversion, hopen, hpreview, hgenerator, houtcome⟩ := hend
  have hserving := hs.closing hpreview (hs.version.trans hversion) hopen (.inl hgenerator)
  rcases houtcome with rfl | ⟨failure, rfl⟩
  · rw [show Event.bytes ⟨.close, calls, .returned⟩ = [] from rfl, List.append_nil]
    exact ⟨hserving, laws_closing (.inr hpreview) (fun h => hgenerator.trans h)
      (fun _ h => (by cases h)) (fun h => (by cases h)) (fun h => (by cases h.1)) (.inl hopen)⟩
  · rw [show Event.bytes ⟨.close, calls, .raised failure⟩ = [] from rfl, List.append_nil]
    exact ⟨hserving, laws_closing (.inr hpreview) (fun h => hgenerator.trans h)
      (fun _ h => (by cases h)) (fun h => (by cases h)) (fun h => (by cases h.1)) (.inl hopen)⟩

/-- Every operation serves on. -/
theorem serving_step (hvisible : Visible history) {session t' : Session} {out : Bytes}
    {event : Event} (hs : Serving history blob v session out)
    (hstep : Steps service history session event t') :
    Serving history blob v t' (out ++ event.bytes) ∧
      StepLaws service blob session event t' out := by
  obtain ⟨operation, calls, outcome⟩ := event
  cases operation with
  | selectRange start stop =>
    obtain ⟨hserving, hnone, hlaws⟩ := selectRange_step hs hstep
    rw [hnone, List.append_nil]
    exact ⟨hserving, hlaws⟩
  | iterBytes => exact iterBytes_step hs hstep
  | next => exact next_step hvisible hs hstep
  | abandon => exact abandon_step hs hstep
  | close => exact close_step hs hstep

end MediaSync.Preview
