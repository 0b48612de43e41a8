import MediaSync.Media.PreviewStreams

/-!
# Previews from their opening to their end

A preview that `openPreview` returns stands at the start of its range, on a file
whose current bytes begin with the recorded blob. From there every sequence of
operations hands out a prefix of the range at most, all of it where the
iteration reaches its end, and leaves the descriptor closed where it should.
-/

namespace MediaSync.Preview

open JsonText (Text)
open Program
open Transition

variable {history : Nat → FileVersion} {service : ArchivePreviewService} {p : ArchivePreview}
  {s t : Disk} {h : List (Exchange PreviewCall PreviewCall.Reply)} {blob : Bytes}
  {source : ArchivePreviewSource} {byteRange : Option (Int × Int)}

/-! ## Opening -/

theorem metadata_ok {target : PurePath × Text × Nat}
    (he : Executes (answers history) (service.metadata source) s h (.ok target) t) :
    t = s ∧ source.checksumSha256 = some target.2.1 ∧
      source.sizeBytes = some (target.2.2 : Int) := by
  unfold ArchivePreviewService.metadata at he
  split at he
  · exact absurd he fail_not_ok
  · split at he
    · rename_i path checksum size hpath hchecksum hsize
      obtain ⟨_, s₁, _, _, _, hcheck, he₁⟩ := executes_bind_ok.1 he
      obtain ⟨_, s₂, _, _, _, habsolute, he₂⟩ := executes_bind_ok.1 he₁
      obtain ⟨_, s₃, _, _, _, hname, he₃⟩ := executes_bind_ok.1 he₂
      obtain ⟨_, hgood, rfl⟩ := check_ok.1 hcheck
      obtain ⟨_, _, rfl⟩ := check_ok.1 habsolute
      obtain ⟨_, _, rfl⟩ := check_ok.1 hname
      obtain ⟨_, htarget, rfl⟩ := executes_pure.1 he₃
      cases htarget
      rw [Bool.and_eq_true, decide_eq_true_eq] at hgood
      exact ⟨rfl, hchecksum, by rw [hsize, Int.toNat_of_nonneg hgood.2]⟩
    · exact absurd he fail_not_ok

/-- The range of a request without one is the whole blob. -/
def requestedRange (size : Nat) (byteRange : Option (Int × Int)) : Int × Int :=
  byteRange.getD (0, (size : Int) - 1)

theorem selectedRange_ok {size : Nat} {range : Int × Int × Bool}
    (he : Executes (answers history) (ArchivePreviewService.selectedRange size byteRange) s h
      (.ok range) t) :
    t = s ∧ (range.1, range.2.1) = requestedRange size byteRange ∧ 0 ≤ range.1 ∧
      range.1 ≤ range.2.1 + 1 ∧ range.2.1 < size := by
  cases byteRange with
  | none =>
    obtain ⟨_, hrange, rfl⟩ := executes_pure.1 he
    cases hrange
    exact ⟨rfl, rfl, Int.le_refl 0, by dsimp only; omega, by dsimp only; omega⟩
  | some requested =>
    unfold ArchivePreviewService.selectedRange at he
    dsimp only at he
    split at he
    · exact absurd he fail_not_ok
    · rename_i hgood
      simp only [Bool.or_eq_true, decide_eq_true_eq, not_or, Int.not_lt, Int.not_le] at hgood
      obtain ⟨_, hrange, rfl⟩ := executes_pure.1 he
      cases hrange
      exact ⟨rfl, rfl, hgood.1.1.2, Int.le_add_one hgood.1.2, hgood.2⟩

/-- What was hashed on a file that did not change is where the file begins. -/
theorem verify_ok (hvisible : Visible history) {path : PurePath} {checksum : Text} {size : Nat}
    {range : Int × Int × Bool} {mimeType : Option String} (hstart : s.offset = 0)
    (he : Executes (answers history) (service.verify path checksum size range mimeType) s h
      (.ok p) t) :
    ∃ v seen, v ≤ t.version ∧ service.sha256 seen = checksum ∧ seen.length = size ∧
      seen <+: (history v).bytes ∧ FileSnapshot.fromStat (history v).stat = p.snapshot ∧
      t.isOpen = true ∧ t.offset = p.start ∧ p.expectedSize = size ∧ p.started = false ∧
      p.closed = false ∧ (p.start, p.stop) = (range.1, range.2.1) ∧
      p.contentLength = rangeLength p.start p.stop := by
  obtain ⟨_, s₁, _, _, _, hfstat, he₁⟩ := executes_bind_ok.1 he
  obtain ⟨opened, s₂, _, _, _, hopened, he₂⟩ := executes_bind_ok.1 he₁
  obtain ⟨_, s₃, _, _, _, hname, he₃⟩ := executes_bind_ok.1 he₂
  obtain ⟨named, s₄, _, _, _, hnamed, he₄⟩ := executes_bind_ok.1 he₃
  obtain ⟨_, s₅, _, _, _, hsafe, he₅⟩ := executes_bind_ok.1 he₄
  obtain ⟨_, s₆, _, _, _, hsafe', he₆⟩ := executes_bind_ok.1 he₅
  obtain ⟨_, s₇, _, _, _, hsame, he₇⟩ := executes_bind_ok.1 he₆
  obtain ⟨seen, s₈, _, _, _, hhash, he₈⟩ := executes_bind_ok.1 he₇
  obtain ⟨reply, s₉, _, _, _, hmore, he₉⟩ := executes_bind_ok.1 he₈
  obtain ⟨_, s₁₀, _, _, _, hnothing, he₁₀⟩ := executes_bind_ok.1 he₉
  obtain ⟨_, s₁₁, _, _, _, hstable, he₁₁⟩ := executes_bind_ok.1 he₁₀
  obtain ⟨_, s₁₂, _, _, _, hdigest, he₁₂⟩ := executes_bind_ok.1 he₁₁
  obtain ⟨_, s₁₃, _, _, _, hseek, he₁₃⟩ := executes_bind_ok.1 he₁₂
  obtain ⟨_, s₁₄, _, _, _, hstable', hpure⟩ := executes_bind_ok.1 he₁₃
  obtain ⟨_, _, hreply, hmoves, hopen⟩ := executes_make.1 hfstat
  cases hreply
  obtain ⟨_, rfl, rfl⟩ := orInvalid_ok.1 hopened
  obtain ⟨_, _, hreply', hmoves'⟩ := executes_make.1 hname
  cases hreply'
  obtain ⟨_, rfl, rfl⟩ := orInvalid_ok.1 hnamed
  obtain ⟨_, _, rfl⟩ := check_ok.1 hsafe
  obtain ⟨_, _, rfl⟩ := check_ok.1 hsafe'
  obtain ⟨_, _, rfl⟩ := check_ok.1 hsame
  obtain ⟨_, _, hreply'', hread⟩ := executes_make.1 hmore
  cases hreply''
  obtain ⟨_, _, rfl⟩ := check_ok.1 hnothing
  obtain ⟨_, hsha, rfl⟩ := check_ok.1 hdigest
  obtain ⟨_, hp, rfl⟩ := executes_pure.1 hpure
  cases hp
  obtain ⟨hisOpen, hstat⟩ := hopen.resolve_left (by simp)
  cases hstat
  have hmoved : s.Moves s₇ := hmoves.trans hmoves'
  have hoffset : s₇.offset = 0 := hmoved.offset.trans hstart
  obtain ⟨hversion, hkept, _, more, hseen, hlength, hbytes⟩ :=
    hashRemaining_ok (Nat.le_refl _) hhash (by omega)
  obtain ⟨hstill, _, _, w, hlow, hhigh, hw⟩ := checkStats_ok hstable
  obtain rfl : w = s₂.version := hvisible _ _ hw
  obtain ⟨hversion', hkept', hat⟩ := seekTo_ok hseek
  obtain ⟨hstill', _⟩ := checkStats_ok hstable'
  have hnamed : s₂.version ≤ s₇.version := Disk.Moves.version hmoves'
  have hread' : s₈.version ≤ s₁₀.version := hread.1
  rw [List.nil_append] at hseen
  subst hseen
  have hcontent := hbytes (by omega)
  rw [hoffset, show s₇.version = s₂.version by omega] at hcontent
  refine ⟨s₂.version, seen, ?_, of_decide_eq_true hsha, hlength, hcontent, rfl, ?_, ?_, rfl, rfl,
    rfl, rfl, rfl⟩
  · exact hhigh.trans (hversion'.trans hstill'.version)
  · rw [hstill'.isOpen, hkept', hstill.isOpen, hread.2.1, hkept, hmoved.isOpen, hisOpen]
  · exact hstill'.offset.trans hat

/-- A preview that was opened is of the recorded blob, in the range that was asked for. -/
theorem openPreview_ok (hvisible : Visible history) (hsha : Function.Injective service.sha256)
    (hblob : source.checksumSha256 = some (service.sha256 blob))
    (he : Executes (answers history) (service.openPreview source byteRange) s h (.ok p) t) :
    ∃ v, Serving history blob v ⟨p, .absent, t⟩ [] ∧ source.sizeBytes = some (blob.length : Int) ∧
      (p.start, p.stop) = requestedRange blob.length byteRange := by
  obtain ⟨target, s₁, _, _, _, hmetadata, he₁⟩ := executes_bind_ok.1 he
  obtain ⟨range, s₂, _, _, _, hrange, he₂⟩ := executes_bind_ok.1 he₁
  obtain ⟨_, s₃, _, _, _, _, he₃⟩ := executes_bind_ok.1 he₂
  obtain ⟨reply, s₄, _, _, _, hopen, he₄⟩ := executes_bind_ok.1 he₃
  obtain ⟨_, hchecksum, hsize⟩ := metadata_ok hmetadata
  obtain ⟨_, hrequested, hlower, hordered, hupper⟩ := selectedRange_ok hrange
  obtain ⟨_, _, hreply, hans⟩ := executes_make.1 hopen
  cases hreply
  cases reply with
  | refused =>
    obtain ⟨_, s₅, _, _, _, _, hfail⟩ := executes_bind_ok.1 he₄
    exact absurd hfail fail_not_ok
  | failed => exact absurd he₄ fail_not_ok
  | opened =>
    rcases executes_catching.1 he₄ with ⟨_, hok, hbody⟩ | ⟨failure, w, _, _, _, _, hend⟩
    · cases hok
      have hoffset : s₄.offset = 0 := by
        rcases hans.2 with ⟨_, _, hoffset⟩ | ⟨hne, _⟩
        · exact hoffset
        · exact absurd rfl hne
      obtain ⟨v, seen, hversion, hdigest, hlength, hcontent, hsnapshot, hisOpen, hat, hexpected,
        hstarted, hclosed, hsame, hcount⟩ := verify_ok hvisible hoffset (asPreviewError_ok hbody)
      have hseen : seen = blob := by
        apply hsha
        rw [hdigest]
        exact Option.some.inj (hchecksum.symm.trans hblob)
      subst hseen
      obtain ⟨hstart, hstop⟩ := Prod.mk.injEq .. ▸ hsame
      refine ⟨v, ⟨⟨hsnapshot, hcontent, hexpected.trans hlength.symm, ?_, ?_, ?_, hcount⟩,
        hversion, ?_, ?_, rfl, fun _ => hat⟩, ?_, ?_⟩
      · dsimp only
        omega
      · dsimp only
        omega
      · dsimp only
        omega
      · dsimp only
        rw [hclosed, hisOpen]
        rfl
      · dsimp only
        rw [hstarted]
        simp
      · rw [hsize, hlength]
      · rw [hsame, hrequested, hlength]
    · obtain ⟨_, s₅, _, _, _, _, hthrow⟩ := executes_bind_ok.1 hend
      have herror := (executes_throw.1 hthrow).2.1
      cases herror

/-- The descriptors open after one more exchange: an opening that succeeds adds
one, a closing takes one away. -/
def heldAfter (n : Nat) : Exchange PreviewCall PreviewCall.Reply → Nat
  | ⟨.openRead _, .opened⟩ => n + 1
  | ⟨.close, _⟩ => n - 1
  | _ => n

/-- The descriptors that a trace opened and left open. -/
def held (h : List (Exchange PreviewCall PreviewCall.Reply)) : Nat := h.foldl heldAfter 0

theorem held_snoc (h : List (Exchange PreviewCall PreviewCall.Reply))
    (e : Exchange PreviewCall PreviewCall.Reply) : held (h ++ [e]) = heldAfter (held h) e := by
  rw [held, List.foldl_append]
  rfl

theorem heldAfter_inside {n : Nat} {e : Exchange PreviewCall PreviewCall.Reply}
    (he : e.call.IsInside) : heldAfter n e = n := by
  obtain ⟨call, reply⟩ := e
  cases call with
  | openRead path => exact he.elim
  | close => exact he.elim
  | _ => rfl

theorem held_inside (h₁ : List (Exchange PreviewCall PreviewCall.Reply))
    {h₂ : List (Exchange PreviewCall PreviewCall.Reply)} (hinside : ∀ e ∈ h₂, e.call.IsInside) : held (h₁ ++ h₂) = held h₁ := by
  induction h₂ using List.reverseRecOn with
  | nil => rw [List.append_nil]
  | append_singleton h₂ e ih =>
    rw [← List.append_assoc, held_snoc, heldAfter_inside (hinside e (by simp)),
      ih fun e' he' => hinside e' (List.mem_append_left _ he')]

theorem held_after_inside {h₁ h₂ : List (Exchange PreviewCall PreviewCall.Reply)}
    (hinside : ∀ e ∈ h₁, e.call.IsInside) : held (h₁ ++ h₂) = held h₂ := by
  have hnone : held h₁ = 0 := held_inside [] hinside
  rw [held] at hnone
  rw [held, held, List.foldl_append, hnone]

/-- Without a closing no fewer descriptors are open. -/
theorem held_of_no_close (h₁ : List (Exchange PreviewCall PreviewCall.Reply))
    {h₂ : List (Exchange PreviewCall PreviewCall.Reply)} (hnone : ∀ e ∈ h₂, e.call ≠ .close) : held h₁ ≤ held (h₁ ++ h₂) := by
  induction h₂ using List.reverseRecOn with
  | nil => rw [List.append_nil]
  | append_singleton h₂ e ih =>
    refine (ih fun e' he' => hnone e' (List.mem_append_left _ he')).trans ?_
    rw [← List.append_assoc, held_snoc]
    have hlast := hnone e (by simp)
    obtain ⟨call, reply⟩ := e
    cases call with
    | openRead path =>
      cases reply with
      | opened => exact Nat.le_succ _
      | refused => exact Nat.le_refl _
      | failed => exact Nat.le_refl _
    | close => exact absurd rfl hlast
    | _ => exact Nat.le_refl _

/-- A program that has closed every descriptor it opened where it raises, however
the machine answers: as many closings follow as there were openings. -/
def LeavesNone {α : Type} (m : PreviewProg α) : Prop :=
  ∀ {σ : Type} (machine : Answers PreviewCall PreviewCall.Reply σ) (s t : σ)
    (h : List (Exchange PreviewCall PreviewCall.Reply)) (failure : PreviewFailure),
    Executes machine m s h (.error failure) t →
      held h = 0 ∧ ∀ h₁ path h₂, h = h₁ ++ ⟨.openRead path, .opened⟩ :: h₂ →
        ∃ e ∈ h₂, e.call = .close

theorem LeavesNone.of_held {α : Type} {m : PreviewProg α}
    (hm : ∀ {σ : Type} (machine : Answers PreviewCall PreviewCall.Reply σ) (s t : σ)
      (h : List (Exchange PreviewCall PreviewCall.Reply)) (failure : PreviewFailure),
      Executes machine m s h (.error failure) t → held h = 0) : LeavesNone m := by
  intro σ machine s t h failure he
  have hheld := hm machine s t h failure he
  refine ⟨hheld, fun h₁ path h₂ hsplit => ?_⟩
  by_contra hnone
  push Not at hnone
  have hopened : held (h₁ ++ [⟨.openRead path, .opened⟩]) = held h₁ + 1 := held_snoc _ _
  have hmore := held_of_no_close (h₁ ++ [⟨.openRead path, .opened⟩]) hnone
  rw [List.append_assoc, List.singleton_append, ← hsplit, hheld, hopened] at hmore
  omega

theorem Inside.leavesNone {α : Type} {m : PreviewProg α} (hm : Inside m) : LeavesNone m :=
  LeavesNone.of_held fun _ _ _ _ _ he => held_inside [] (he.calls hm)

theorem LeavesNone.bind {α β : Type} {m : PreviewProg α} {f : α → PreviewProg β} (hm : Inside m)
    (hf : ∀ a, LeavesNone (f a)) : LeavesNone (m >>= f) := by
  refine LeavesNone.of_held fun machine s t h failure he => ?_
  rcases executes_bind.1 he with ⟨a, u, h₁, h₂, rfl, hrun, hrest⟩ | ⟨e, _, hrun⟩
  · rw [held_after_inside (hrun.calls hm)]
    exact (hf a machine u t h₂ failure hrest).1
  · exact (hm.leavesNone machine s t h e hrun).1

instance : DecidablePred Event.HandsOut := fun event =>
  inferInstanceAs (Decidable (event.operation = .iterBytes ∧ event.outcome = .returned))

/-- What a run of operations on a fresh preview of the blob has come to. -/
structure Streams (service : ArchivePreviewService) (blob : Bytes) (p : ArchivePreview)
    (events : List Event) (session : Session) : Prop where
  served : streamed events <+: session.preview.slice blob
  complete : ∀ event ∈ events, event.outcome = .exhausted →
    streamed events = session.preview.slice blob ∧
      (streamed events).length = session.preview.contentLength
  checked : ∀ event ∈ events, ∀ chunk, event.outcome = .yielded chunk →
    ∃ h₁ h₂, event.calls = h₁ ++ h₂ ∧ SawUnchanged service p.path p.expectedSize p.snapshot h₂
  once : events.countP (fun event => event.HandsOut) ≤ 1
  released : ∀ event ∈ events, event.Releases → session.disk.isOpen = false

/-- What carries `Streams` from step to step. -/
structure Running (history : Nat → FileVersion) (service : ArchivePreviewService) (blob : Bytes)
    (v : Nat) (p : ArchivePreview) (events : List Event) (session : Session) : Prop where
  serving : Serving history blob v session (streamed events)
  done : ∀ event ∈ events, event.outcome = .exhausted →
    session.generator = .finished ∧ streamed events = session.preview.slice blob
  streams : Streams service blob p events session
  unstarted : session.preview.started = false →
    events.countP (fun event => event.HandsOut) = 0
  path : session.preview.path = p.path
  snapshot : session.preview.snapshot = p.snapshot
  expectedSize : session.preview.expectedSize = p.expectedSize

theorem streamed_snoc (events : List Event) (event : Event) :
    streamed (events ++ [event]) = streamed events ++ event.bytes := by
  rw [streamed, streamed, List.flatMap_append, List.flatMap_singleton]

theorem Running.step (hvisible : Visible history) {v : Nat} {events : List Event}
    {event : Event} {session session' : Session}
    (hrun : Running history service blob v p events session)
    (hstep : Steps service history session event session') :
    Running history service blob v p (events ++ [event]) session' := by
  obtain ⟨hserving, hlaws⟩ := serving_step hvisible hrun.serving hstep
  rw [← streamed_snoc] at hserving
  have hdone : ∀ e ∈ events ++ [event], e.outcome = .exhausted →
      session'.generator = .finished ∧
        streamed (events ++ [event]) = session'.preview.slice blob := by
    intro e he hexhausted
    rw [streamed_snoc]
    rcases List.mem_append.1 he with hold | hnew
    · obtain ⟨hfinished, hall⟩ := hrun.done e hold hexhausted
      obtain ⟨hfinished', hnone, hsame⟩ := hlaws.finished hfinished
      exact ⟨hfinished', by rw [hnone, List.append_nil, hsame, hall]⟩
    · rw [List.mem_singleton] at hnew
      subst hnew
      obtain ⟨hfinished, hall⟩ := hlaws.complete hexhausted
      have hnone : e.bytes = [] := by
        unfold Event.bytes
        rw [hexhausted]
      exact ⟨hfinished, by rw [hnone, List.append_nil, hall]⟩
  have hcount : (events ++ [event]).countP (fun e => e.HandsOut) =
      events.countP (fun e => e.HandsOut) + if event.HandsOut then 1 else 0 := by
    rw [List.countP_append, List.countP_singleton]
    simp only [decide_eq_true_eq]
  refine ⟨hserving, hdone, ⟨hserving.sent.out, ?_, ?_, ?_, ?_⟩, ?_, hlaws.path.trans hrun.path,
    hlaws.snapshot.trans hrun.snapshot, hlaws.expectedSize.trans hrun.expectedSize⟩
  · intro e he hexhausted
    have hall := (hdone e he hexhausted).2
    exact ⟨hall, by rw [hall, hserving.verified.slice_length]⟩
  · intro e he chunk hchunk
    rcases List.mem_append.1 he with hold | hnew
    · exact hrun.streams.checked e hold chunk hchunk
    · rw [List.mem_singleton] at hnew
      subst hnew
      rw [← hrun.path, ← hrun.expectedSize, ← hrun.snapshot]
      exact hlaws.checked chunk hchunk
  · rw [hcount]
    split
    · rename_i hout
      rw [hrun.unstarted (hlaws.handed hout)]
    · exact hrun.streams.once
  · intro e he hreleases
    rcases List.mem_append.1 he with hold | hnew
    · exact hlaws.stays (hrun.streams.released e hold hreleases)
    · rw [List.mem_singleton] at hnew
      subst hnew
      exact hlaws.released hreleases
  · intro hunstarted
    have hbegan : ¬ (event.HandsOut ∨ session.preview.started = true) := by
      intro h
      rw [hlaws.began h] at hunstarted
      cases hunstarted
    rw [not_or, Bool.not_eq_true] at hbegan
    rw [hcount, if_neg hbegan.1, hrun.unstarted hbegan.2]

/-- A preview that was opened streams lawfully, whatever is done with it. -/
theorem running_of_trace (hvisible : Visible history) {v : Nat} {events : List Event}
    {session : Session} (hopened : Serving history blob v ⟨p, .absent, s⟩ [])
    (hrun : Trace (Steps service history) ⟨p, .absent, s⟩ events session) :
    Running history service blob v p events session := by
  induction hrun with
  | nil =>
    have hnil : ∀ event ∈ ([] : List Event), False := fun event h => absurd h List.not_mem_nil
    exact ⟨hopened, fun e he _ => (hnil e he).elim,
      ⟨List.nil_prefix, fun e he _ => (hnil e he).elim, fun e he _ _ => (hnil e he).elim,
        Nat.zero_le _, fun e he _ => (hnil e he).elim⟩, fun _ => rfl, rfl, rfl, rfl⟩
  | snoc _ hstep ih => exact ih.step hvisible hstep

/-- Previews hand out verified bytes only, in order and at most once, and the
headers that select a range are read as the grammar says. -/
theorem previews_serve_verified_bytes (hvisible : Visible history)
    (hsha : Function.Injective service.sha256) (blob : Bytes)
    (hblob : source.checksumSha256 = some (service.sha256 blob))
    (hopen : Executes (answers history) (service.openPreview source byteRange) s h (.ok p) t)
    {events : List Event} {session : Session}
    (hrun : Trace (Steps service history) ⟨p, .absent, t⟩ events session) :
    Streams service blob p events session ∧
      (∀ (value : Text) (sizeBytes : Int) (first last : Nat),
        parseSingleByteRange value sizeBytes = .ok (first, last) ↔
          0 ≤ sizeBytes ∧ value.length ≤ maxRangeHeaderBytes ∧
            ∃ range : ByteRange, range.Heads value ∧
              range.select sizeBytes.toNat = some (first, last)) ∧
      ∀ (value : Text) (sizeBytes : Int) (first last : Nat),
        parseSingleByteRange value sizeBytes = .ok (first, last) →
          first ≤ last ∧ (last : Int) < sizeBytes := by
  obtain ⟨v, hserving, _⟩ := openPreview_ok hvisible hsha hblob hopen
  refine ⟨(running_of_trace hvisible hserving hrun).streams,
    fun _ _ _ _ => parseSingleByteRange_ok_iff, ?_⟩
  intro value sizeBytes first last hparse
  obtain ⟨hsize, _, range, _, hselect⟩ := parseSingleByteRange_ok_iff.1 hparse
  have hbounds := ByteRange.select_bounds hselect
  omega

/-! ## A run -/

/-- The three bytes of `abc`. -/
def sampleBlob : Bytes := [97, 98, 99]

def sampleDigest : Text :=
  "ba7816bf8f01cfea414140de5dae2223b00361a396177a9cb410ff61f20015ad".toList

/-- The digest of `abc` is the real one; the others start with no hexadecimal digit. -/
def sampleService : ArchivePreviewService where
  root := ["srv".toList]
  windows := false
  sha256 bytes :=
    if bytes = sampleBlob then sampleDigest else 'x' :: bytes.map fun b => Char.ofNat b.toNat

theorem sampleService_injective : Function.Injective sampleService.sha256 := by
  intro a b hab
  have hbyte : Function.Injective fun b : UInt8 => Char.ofNat b.toNat := by
    intro x y hxy
    have hval : ∀ z : UInt8, (Char.ofNat z.toNat).toNat = z.toNat := by
      intro z
      have hz : z.toNat.isValidChar := .inl (by have hlt := z.toNat_lt; omega)
      rw [Char.ofNat, dif_pos hz]
      rfl
    exact UInt8.toNat_inj.1 (by rw [← hval x, ← hval y]; exact congrArg Char.toNat hxy)
  have hhead : sampleDigest.head? = some 'b' := rfl
  simp only [sampleService] at hab
  split at hab
  · rename_i ha
    split at hab
    · rename_i hb
      rw [ha, hb]
    · rw [hab] at hhead
      cases hhead
  · split at hab
    · rw [← hab] at hhead
      cases hhead
    · exact List.map_injective_iff.2 hbyte (List.cons_inj_right 'x' |>.1 hab)

def sampleStat (version : Nat) : FileStat :=
  ⟨true, false, false, false, 1, false, 1, 2, 3, 4, version⟩

/-- A file whose change time is its version. -/
def sampleHistory (version : Nat) : FileVersion := ⟨sampleBlob, sampleStat version⟩

theorem sampleHistory_visible : Visible sampleHistory :=
  fun _ _ h => congrArg FileSnapshot.changedNs h

def samplePath : PurePath :=
  ⟨true, ["srv".toList, "sha256".toList, "ba".toList], sampleDigest ++ ".png".toList⟩

/-- Nothing fails, and the file stays what it is. -/
def samplePerform : Performs PreviewCall PreviewCall.Reply Disk
  | .lstat path, s =>
    (.found (if path = samplePath.parent ++ [samplePath.name] then sampleStat 0
      else { sampleStat 0 with directory := true, regular := false }), s)
  | .openRead _, s => (.opened, { s with isOpen := true, offset := 0 })
  | .fstat, s => (if s.isOpen then some (sampleHistory s.version).stat else none, s)
  | .named _, s => (some (sampleHistory s.version).stat, s)
  | .read count, s =>
    if s.isOpen then
      let chunk := ((sampleHistory s.version).bytes.drop s.offset.toNat).take count
      (.bytes chunk, { s with offset := s.offset + chunk.length })
    else (.raised, s)
  | .seek offset, s => if s.isOpen then (some offset, { s with offset := offset }) else (none, s)
  | .close, s => (true, { s with isOpen := false })

theorem samplePerform_answers (c : PreviewCall) (s : Disk) :
    answers sampleHistory c s (samplePerform c s).1 (samplePerform c s).2 := by
  obtain ⟨version, offset, isOpen⟩ := s
  cases c with
  | lstat path => exact Disk.Moves.refl _
  | openRead path => exact ⟨Nat.le_refl _, .inl ⟨rfl, rfl, rfl⟩⟩
  | fstat =>
    cases isOpen with
    | true => exact ⟨Disk.Moves.refl _, .inr ⟨rfl, rfl⟩⟩
    | false => exact ⟨Disk.Moves.refl _, .inl rfl⟩
  | named path => exact Disk.Moves.refl _
  | read count =>
    cases isOpen with
    | true =>
      refine ⟨Nat.le_refl _, rfl, fun chunk hchunk => ?_⟩
      cases hchunk
      exact ⟨rfl, rfl, fun _ => List.take_prefix _ _⟩
    | false => exact ⟨Nat.le_refl _, rfl, fun chunk hchunk => (by cases hchunk)⟩
  | seek target =>
    cases isOpen with
    | true =>
      refine ⟨Nat.le_refl _, rfl, fun reached hreached => ?_⟩
      cases hreached
      exact ⟨rfl, rfl⟩
    | false => exact ⟨Nat.le_refl _, rfl, fun reached hreached => (by cases hreached)⟩
  | close => exact ⟨Nat.le_refl _, rfl⟩

def sampleSource : ArchivePreviewSource :=
  ⟨some "verified", some samplePath, some sampleDigest, some 3, some "image/png"⟩

/-- The preview of the last two bytes. -/
def samplePreview (started closed : Bool) : ArchivePreview where
  path := samplePath
  snapshot := FileSnapshot.fromStat (sampleStat 0)
  expectedSize := 3
  started := started
  closed := closed
  rangeSelected := true
  start := 1
  stop := 2
  contentLength := 2
  isPartial := true
  etag := '"' :: sampleDigest ++ ['"']
  mediaType := "image/png"

theorem sampleSteps {s t : Session} (operation : Operation) (outcome : Outcome)
    (hrun : run samplePerform (sampleService.operate s.preview s.generator operation) s.disk =
      (.ok (t.preview, t.generator, outcome), t.disk)) :
    ∃ calls, Steps sampleService sampleHistory s ⟨operation, calls, outcome⟩ t := by
  have he := executes_run samplePerform_answers
    (sampleService.operate s.preview s.generator operation) s.disk
  rw [hrun] at he
  exact ⟨_, he⟩

/-- The last two bytes of `abc` are asked for, and come in one chunk. -/
theorem previews_serve_verified_bytes_sample :
    ∃ calls events,
      Executes (answers sampleHistory) (sampleService.openPreview sampleSource (some (1, 2)))
        ⟨0, 0, false⟩ calls (.ok (samplePreview false false)) ⟨0, 1, true⟩ ∧
      Trace (Steps sampleService sampleHistory) ⟨samplePreview false false, .absent, ⟨0, 1, true⟩⟩
        events ⟨samplePreview true true, .finished, ⟨0, 3, false⟩⟩ ∧
      streamed events = [98, 99] ∧
      Streams sampleService sampleBlob (samplePreview false false) events
        ⟨samplePreview true true, .finished, ⟨0, 3, false⟩⟩ := by
  have hopen := executes_run samplePerform_answers
    (sampleService.openPreview sampleSource (some (1, 2))) ⟨0, 0, false⟩
  rw [show run samplePerform (sampleService.openPreview sampleSource (some (1, 2))) ⟨0, 0, false⟩ =
    (.ok (samplePreview false false), ⟨0, 1, true⟩) from rfl] at hopen
  obtain ⟨calls₁, hstep₁⟩ := sampleSteps .iterBytes .returned
    (s := ⟨samplePreview false false, .absent, ⟨0, 1, true⟩⟩)
    (t := ⟨samplePreview true false, .fresh, ⟨0, 1, true⟩⟩) rfl
  obtain ⟨calls₂, hstep₂⟩ := sampleSteps .next (.yielded [98, 99])
    (s := ⟨samplePreview true false, .fresh, ⟨0, 1, true⟩⟩)
    (t := ⟨samplePreview true false, .suspended 0, ⟨0, 3, true⟩⟩) rfl
  obtain ⟨calls₃, hstep₃⟩ := sampleSteps .next .exhausted
    (s := ⟨samplePreview true false, .suspended 0, ⟨0, 3, true⟩⟩)
    (t := ⟨samplePreview true true, .finished, ⟨0, 3, false⟩⟩) rfl
  have hrun := ((Trace.nil.snoc hstep₁).snoc hstep₂).snoc hstep₃
  exact ⟨_, _, hopen, hrun, rfl, (previews_serve_verified_bytes sampleHistory_visible
    sampleService_injective sampleBlob rfl hopen hrun).1⟩

/-- A spelling of the first byte with leading zeros, longer than what is read. -/
def longRange : Text := "bytes=".toList ++ (List.replicate 130 '0' ++ ['-'])

theorem ofDigitChars_zeros (n : Nat) : Nat.ofDigitChars 10 (List.replicate n '0') 0 = 0 := by
  induction n with
  | zero => rfl
  | succ n ih =>
    rw [List.replicate_succ, Nat.ofDigitChars_cons]
    exact ih

theorem long_range_refused :
    (∃ range : ByteRange, range.Heads longRange ∧ range.select 1 = some (0, 0)) ∧
      parseSingleByteRange longRange 1 = .error .rangeUnsatisfiable := by
  constructor
  · refine ⟨.since 0, ⟨[], "bytes=".toList, _, [], (List.append_nil _).symm,
      fun _ h => absurd h List.not_mem_nil, fun _ h => absurd h List.not_mem_nil, rfl,
      .since ⟨by simp, fun c hc => ?_, ofDigitChars_zeros 130⟩⟩, rfl⟩
    rw [List.eq_of_mem_replicate hc]
    rfl
  · have hlength : longRange.length = 137 := by simp [longRange]
    unfold parseSingleByteRange
    rw [Checks.require_false (by simp [hlength, maxRangeHeaderBytes])]

end MediaSync.Preview
