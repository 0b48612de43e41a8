import MediaSync.Observability.LogShelf

/-!
# Taking stock while writers seal

What a query finds in the directory. A segment that is sealed between two of the
calls that look at it counts as unavailable. Where none does and the directory was
listed with every segment, the query has found them all, in their order, and what
it knows of each of them stays true.
-/

namespace MediaSync.Observability

open Python JsonText Events
open Program

variable {host : QueryHost} {marker : Marker} {shelf : Shelf host.toLogHost marker}

namespace Shelf

/-- The segment as it was found since `t₀`; what follows its events stays what it was or goes on. -/
structure View (t₀ t : shelf.State) (s : StoredSegment host.toLogHost marker)
    (v : LogSegment × Nat) : Prop where
  ident : v.2 = s.ident
  name : ∃ w, Later t₀ w ∧ Later w t ∧ v.1.name = (s.file (w.stageOf s)).name
  header : v.1.header = s.header
  start : v.1.start = s.position 0
  stop : ∃ seen, (seen = [] ∨ seen = s.tail ∨ seen = s.footer) ∧
    v.1.stop = s.body.length + seen.length ∧
    ∀ u, Later t u → ∃ more, s.ending (u.stageOf s) = seen ++ more

theorem View.later {t₀ t u : shelf.State} {s : StoredSegment host.toLogHost marker}
    {v : LogSegment × Nat} (h : View t₀ t s v) (htu : Later t u) : View t₀ u s v := by
  obtain ⟨w, h0w, hwt, hname⟩ := h.name
  obtain ⟨seen, hseen, hstop, hmore⟩ := h.stop
  exact ⟨h.ident, ⟨w, h0w, hwt.trans htu, hname⟩, h.header, h.start, seen, hseen, hstop,
    fun w hw => hmore w (htu.trans hw)⟩

theorem View.earlier {t₀ t₁ t : shelf.State} {s : StoredSegment host.toLogHost marker}
    {v : LogSegment × Nat} (h : View t₁ t s v) (h01 : Later t₀ t₁) : View t₀ t s v := by
  obtain ⟨w, h1w, hwt, hname⟩ := h.name
  exact ⟨h.ident, ⟨w, h01.trans h1w, hwt, hname⟩, h.header, h.start, h.stop⟩

theorem ending_later {t u : shelf.State} {s : StoredSegment host.toLogHost marker}
    (hs : s ∈ shelf.segments) (htu : Later t u) :
    ∃ more, s.ending (u.stageOf s) = s.ending (t.stageOf s) ++ more := by
  have hrank := htu s.ident
  cases ht : t.stageOf s with
  | written =>
    by_cases htail : s.tail = []
    · exact ⟨s.ending (u.stageOf s), by simp [StoredSegment.ending, htail]⟩
    · rw [State.stageOf, u.torn s hs htail]
      exact ⟨[], by simp⟩
  | footed =>
    rw [State.stageOf] at ht
    rw [ht] at hrank
    cases hu : u.stageOf s with
    | written =>
      rw [State.stageOf] at hu
      rw [hu] at hrank
      exact absurd hrank (by decide)
    | footed => exact ⟨[], by simp⟩
    | sealed => exact ⟨[], by simp [StoredSegment.ending]⟩
  | sealed =>
    rw [State.stageOf] at ht
    rw [ht] at hrank
    cases hu : u.stageOf s with
    | written =>
      rw [State.stageOf] at hu
      rw [hu] at hrank
      exact absurd hrank (by decide)
    | footed => exact ⟨[], by simp [StoredSegment.ending]⟩
    | sealed => exact ⟨[], by simp⟩

theorem sealed_later {t u : shelf.State} {s : StoredSegment host.toLogHost marker}
    (ht : t.stageOf s = .sealed) (htu : Later t u) : u.stageOf s = .sealed := by
  have hrank := htu s.ident
  rw [State.stageOf] at ht ⊢
  rw [ht] at hrank
  cases hu : u.stage s.ident with
  | written =>
    rw [hu] at hrank
    exact absurd hrank (by decide)
  | footed =>
    rw [hu] at hrank
    exact absurd hrank (by decide)
  | sealed => rfl

theorem ending_seen (s : StoredSegment host.toLogHost marker) (stage : Stage) :
    s.ending stage = [] ∨ s.ending stage = s.tail ∨ s.ending stage = s.footer := by
  cases stage with
  | written => exact .inr (.inl rfl)
  | footed => exact .inr (.inr rfl)
  | sealed => exact .inr (.inr rfl)

theorem later_of_executes {α : Type} {m : QueryProg α} {t u : shelf.State}
    {h : List (Exchange QueryCall QueryCall.Reply)} {x : Except QueryError α}
    (hrun : Executes shelf.answers m t h x u) : Later t u := by
  induction hrun with
  | done => exact .refl _
  | call hans _ ih => exact hans.1.trans ih

section

variable {α : Type} {t u : shelf.State} {h : List (Exchange QueryCall QueryCall.Reply)}
  {A : Answers QueryCall QueryCall.Reply shelf.State}

theorem executes_orOther {v : Option α} {x : Except QueryError α} :
    Executes A (LogQuery.orOther v) t h x u ↔
      h = [] ∧ x = v.elim (.error .other) .ok ∧ u = t := executes_done

theorem executes_orOther_ok {v : Option α} {a : α} :
    Executes A (LogQuery.orOther v) t h (.ok a) u ↔ h = [] ∧ v = some a ∧ u = t := by
  rw [executes_orOther]
  cases v with
  | none => simp
  | some b => simp [eq_comm]

/-- A call that gives a value was answered. -/
theorem executes_told (c : QueryCall) (value : c.Reply → Option α) {a : α}
    (hrun : Executes shelf.answers (LogQuery.ask c >>= fun r => LogQuery.orOther (value r)) t h
      (.ok a) u) (hfails : ∀ r, Fails c r → value r = none) :
    ∃ r, h = [⟨c, r⟩] ∧ value r = some a ∧ Later t u ∧ Told t u c r := by
  obtain ⟨r, v, h₁, h₂, rfl, hask, hor⟩ := executes_bind_ok.1 hrun
  obtain ⟨r', rfl, hr, hlater, hans⟩ := executes_ask.1 hask
  cases hr
  obtain ⟨rfl, hr, rfl⟩ := executes_orOther_ok.1 hor
  refine ⟨r, by simp, hr, hlater, ?_⟩
  rcases hans with htold | hfail
  · exact htold
  · rw [hfails r hfail] at hr
    cases hr

variable {s : StoredSegment host.toLogHost marker} {isSealed : Bool}

theorem executes_details (hs : s ∈ shelf.segments) {d : LogDetails}
    (hrun : Executes shelf.answers
      (LogQuery.ask (.details (s.header.name isSealed)) >>= LogQuery.orOther) t h (.ok d) u) :
    Later t u ∧ (isSealed = true ↔ u.stageOf s = .sealed) ∧
      d = ⟨(s.body ++ s.ending (u.stageOf s)).length, s.ident⟩ := by
  obtain ⟨r, -, hr, hlater, htold⟩ := executes_told (.details (s.header.name isSealed)) (fun r => r) hrun
    fun _ hr => hr
  have hfile : r = (u.named (s.header.name isSealed)).map
    (fun f => ⟨f.content.length, f.ident⟩) := htold
  obtain ⟨f, hf, rfl⟩ := Option.map_eq_some_iff.1 (hfile.symm.trans hr)
  obtain ⟨rfl, hsealed⟩ := named_segment hs hf
  exact ⟨hlater, hsealed, rfl⟩

theorem executes_load (hs : s ∈ shelf.segments) {content : Text}
    (hrun : Executes shelf.answers
      (LogQuery.ask (.load (s.header.name isSealed)) >>= LogQuery.orOther) t h (.ok content) u) :
    Later t u ∧ (isSealed = true ↔ u.stageOf s = .sealed) ∧
      content = s.body ++ s.ending (u.stageOf s) := by
  obtain ⟨r, -, hr, hlater, htold⟩ := executes_told (.load (s.header.name isSealed)) (fun r => r) hrun
    fun _ hr => hr
  have hfile : r = (u.named (s.header.name isSealed)).map ShelfFile.content := htold
  obtain ⟨f, hf, rfl⟩ := Option.map_eq_some_iff.1 (hfile.symm.trans hr)
  obtain ⟨rfl, hsealed⟩ := named_segment hs hf
  exact ⟨hlater, hsealed, rfl⟩

theorem executes_line (hs : s ∈ shelf.segments) {offset limit : Nat} {line : Text}
    (hrun : Executes shelf.answers
      (LogQuery.ask (.readLine s.ident offset limit) >>= LogQuery.orOther) t h (.ok line) u) :
    Later t u ∧ line = readLine limit ((s.body ++ s.ending (u.stageOf s)).drop offset) ∧
      ∃ r, h = [⟨.readLine s.ident offset limit, r⟩] := by
  obtain ⟨r, hh, hr, hlater, htold⟩ := executes_told (.readLine s.ident offset limit) (fun r => r) hrun
    fun _ hr => hr
  have hfile : r = (u.withIdent s.ident).map
    (fun f => readLine limit (f.content.drop offset)) := htold
  rw [withIdent_segment hs] at hfile
  exact ⟨hlater, Option.some.inj (hr.symm.trans hfile), r, hh⟩

end

theorem endsLine_flatten {lines : List Text} (h : ∀ line ∈ lines, IsLine line) :
    EndsLine lines.flatten := by
  induction lines with
  | nil => exact .inl rfl
  | cons line lines ih =>
    rw [List.flatten_cons]
    exact EndsLine.append (.inr (h line List.mem_cons_self).ends)
      (ih fun l hl => h l (List.mem_cons_of_mem _ hl))

theorem readLine_header (hhost : host.toLogHost.Lawful)
    (s : StoredSegment host.toLogHost marker) (rest : Text) :
    readLine (footerReserve + 1) (s.body ++ rest) = s.headerLine := by
  have hfits := fits_header hhost s.valid marker.key
  rw [StoredSegment.body, StoredSegment.headerLine, SegmentHeader.line, List.append_assoc,
    List.append_assoc]
  refine readLine_line (fun c hc => ne_lineFeed (hfits.printable c hc)) ?_
  exact Nat.lt_of_le_of_lt hfits.length (by decide)

/-- The header is read back, whatever comes after it. -/
theorem readHeader_body (hhost : host.toLogHost.Lawful)
    (s : StoredSegment host.toLogHost marker) (rest : Text) :
    readHeader host.toLogHost marker.storeId marker.key (stamp s.header.createdAt)
      s.header.writerId s.header.segmentId (readLine (footerReserve + 1) (s.body ++ rest)) =
        some s.header := by
  have h := readHeader_line hhost s.valid marker.key
  rw [s.ofStore] at h
  rw [readLine_header hhost s]
  exact h

theorem readFooter_body (hhost : host.toLogHost.Lawful)
    (s : StoredSegment host.toLogHost marker) :
    readFooter host.toLogHost marker.key s.header.segmentId s.headerLine.length
      (s.body ++ s.footer) = some s.body.length := by
  have hstart : s.headerLine.length ≤ s.body.length := by simp [StoredSegment.body]
  have hends : EndsLine s.body :=
    (endsLine_header s.header marker.key).append (endsLine_flatten s.whole)
  exact readFooter_line hhost _ hstart hends s.fits

/-- A segment that is read is there under this name, and is what it is. -/
theorem segment_view (hhost : host.toLogHost.Lawful) {t u : shelf.State}
    {h : List (Exchange QueryCall QueryCall.Reply)}
    {s : StoredSegment host.toLogHost marker} (hs : s ∈ shelf.segments) {isSealed : Bool}
    {found : Option (LogSegment × Nat)}
    (hrun : Executes shelf.answers (LogQuery.segment host marker (s.header.name isSealed)) t h
      (.ok found) u) :
    (t.stageOf s = .sealed → isSealed = true) ∧ ∃ v, found = some v ∧ View t u s v := by
  rw [LogQuery.segment.eq_def, SegmentHeader.name] at hrun
  dsimp only at hrun
  obtain ⟨d, t₁, h₁, h₂, -, hd, hrun⟩ := executes_bind_ok.1 hrun
  obtain ⟨h01, hsealed, rfl⟩ := executes_details hs hd
  obtain ⟨content, t₂, h₃, h₄, -, hc, hrun⟩ := executes_bind_ok.1 hrun
  obtain ⟨h12, -, rfl⟩ := executes_load hs hc
  obtain ⟨header, t₃, h₅, h₆, -, hh, hrun⟩ := executes_bind_ok.1 hrun
  obtain ⟨-, hheader, rfl⟩ := executes_orOther_ok.1 hh
  obtain ⟨stop, t₄, h₇, h₈, -, hstop, hrun⟩ := executes_bind_ok.1 hrun
  obtain ⟨-, hstop, rfl⟩ := executes_orOther_ok.1 hstop
  obtain ⟨d', t₅, h₉, h₁₀, -, hd', hrun⟩ := executes_bind_ok.1 hrun
  obtain ⟨h25, -, rfl⟩ := executes_details hs hd'
  obtain ⟨_, t₆, h₁₁, h₁₂, -, hreq, hend⟩ := executes_bind_ok.1 hrun
  obtain ⟨-, -, rfl⟩ := executes_require_ok.1 hreq
  obtain ⟨-, hfound, rfl⟩ := executes_pure.1 hend
  cases hfound
  obtain rfl : header = s.header :=
    Option.some.inj (hheader.symm.trans (readHeader_body hhost s _))
  rw [readLine_header hhost s] at hstop ⊢
  have hname : s.header.name isSealed = (s.file (t₁.stageOf s)).name :=
    congrArg s.header.name (Bool.eq_iff_iff.2 (hsealed.trans decide_eq_true_iff.symm))
  refine ⟨fun ht => hsealed.2 (sealed_later ht h01), _, rfl, rfl, ⟨t₁, h01, h12.trans h25, hname⟩,
    rfl, (s.position_zero).symm, ?_⟩
  cases isSealed with
  | false =>
    rw [if_neg Bool.false_ne_true] at hstop
    cases hstop
    exact ⟨s.ending (t₁.stageOf s), ending_seen s _, List.length_append,
      fun w hw => ending_later hs (h12.trans (h25.trans hw))⟩
  | true =>
    refine ⟨[], .inl rfl, ?_, fun w _ => ⟨_, (List.nil_append _).symm⟩⟩
    have h1 : t₁.stageOf s = .sealed := hsealed.1 rfl
    have h2 := sealed_later h1 h12
    have hending : s.ending .sealed = s.footer := rfl
    rw [if_pos rfl, h1, h2, List.take_length, hending, readFooter_body hhost s] at hstop
    rw [List.length_nil, Nat.add_zero]
    exact (Option.some.inj hstop).symm

/-- A file without a header is not a segment. -/
theorem segment_stub {t u : shelf.State} {h : List (Exchange QueryCall QueryCall.Reply)}
    {b : StubSegment host.toLogHost marker} (hb : b ∈ shelf.stubs)
    {found : Option (LogSegment × Nat)} :
    ¬ Executes shelf.answers (LogQuery.segment host marker (b.header.name false)) t h
      (.ok found) u := by
  intro hrun
  rw [LogQuery.segment.eq_def, SegmentHeader.name] at hrun
  dsimp only at hrun
  obtain ⟨d, t₁, h₁, h₂, -, -, hrun⟩ := executes_bind_ok.1 hrun
  obtain ⟨content, t₂, h₃, h₄, -, hc, hrun⟩ := executes_bind_ok.1 hrun
  obtain ⟨header, t₃, h₅, h₆, -, hh, -⟩ := executes_bind_ok.1 hrun
  obtain ⟨-, hheader, -⟩ := executes_orOther_ok.1 hh
  obtain ⟨r, -, hr, -, htold⟩ := executes_told (.load (b.header.name false)) (fun r => r) hc
    fun _ hr => hr
  have hfile : r = (t₂.named (b.header.name false)).map ShelfFile.content := htold
  obtain ⟨f, hf, hcontent⟩ := Option.map_eq_some_iff.1 (hfile.symm.trans hr)
  obtain ⟨b', -, rfl, hname⟩ := named_stub hb hf
  simp only [SegmentHeader.name, LogName.segment.injEq] at hname
  obtain ⟨htime, hwriter, hsegment, -⟩ := hname
  have hnone := b'.unreadable
  rw [htime, hwriter, hsegment] at hnone
  rw [← hcontent, StubSegment.file, hnone] at hheader
  cases hheader

theorem executes_attempt {α : Type} {A : Answers QueryCall QueryCall.Reply shelf.State}
    {m : QueryProg α} {t u : shelf.State} {h : List (Exchange QueryCall QueryCall.Reply)}
    {v : Option α} (hrun : Executes A (LogQuery.attempt m) t h (.ok v) u) :
    (∃ a, v = some a ∧ Executes A m t h (.ok a) u) ∨
      (v = none ∧ ∃ e, Executes A m t h (.error e) u) := by
  rcases executes_catching.1 hrun with ⟨a, ha, hm⟩ | ⟨e, w, h₁, h₂, rfl, hm, hend⟩
  · cases ha
    obtain ⟨a, t₁, h₁, h₂, rfl, hfirst, hend⟩ := executes_bind_ok.1 hm
    obtain ⟨rfl, hv, rfl⟩ := executes_pure.1 hend
    cases hv
    rw [List.append_nil]
    exact .inl ⟨a, rfl, hfirst⟩
  · obtain ⟨rfl, hv, rfl⟩ := executes_pure.1 hend
    cases hv
    rw [List.append_nil]
    rcases executes_bind.1 hm with ⟨a, t₁, h₁, h₂, rfl, -, hend⟩ | ⟨e', he, hm⟩
    · exact absurd (executes_pure.1 hend).2.1 (by simp)
    · exact .inr ⟨rfl, e', hm⟩

section

variable {t u : shelf.State} {h : List (Exchange QueryCall QueryCall.Reply)}
  {found next : LogInventory}

/-- A segment is found under the name it has, or it counts as unavailable. -/
theorem inspect_segment (hhost : host.toLogHost.Lawful)
    {s : StoredSegment host.toLogHost marker} (hs : s ∈ shelf.segments) {isSealed : Bool}
    (hrun : Executes shelf.answers
      (LogQuery.inspect host marker found (s.header.name isSealed)) t h (.ok next) u) :
    found.unavailable < next.unavailable ∨ (found.unavailable = next.unavailable ∧
      (t.stageOf s = .sealed → isSealed = true) ∧
      ∃ v, View t u s v ∧ next.segments = found.segments ++ [v]) := by
  rw [LogQuery.inspect] at hrun
  obtain ⟨late, t₁, h₁, h₂, -, hlate, hrun⟩ := executes_bind_ok.1 hrun
  obtain ⟨_, t₂, h₃, h₄, -, hreq, hrun⟩ := executes_bind_ok.1 hrun
  obtain ⟨d, t₃, h₅, h₆, -, hd, hrun⟩ := executes_bind_ok.1 hrun
  have hlater := (later_of_executes hlate).trans ((later_of_executes hreq).trans
    (later_of_executes hd))
  cases d with
  | none =>
    obtain ⟨-, hnext, -⟩ := executes_pure.1 hrun
    cases hnext
    exact .inl (Nat.lt_succ_self _)
  | some d =>
    obtain ⟨v, t₄, h₇, h₈, -, hsegment, hrun⟩ := executes_bind_ok.1 hrun
    rcases executes_attempt hsegment with ⟨v, rfl, hfound⟩ | ⟨rfl, -⟩
    · obtain ⟨hsealed, v, rfl, hview⟩ := segment_view hhost hs hfound
      obtain ⟨-, hnext, rfl⟩ := executes_pure.1 hrun
      cases hnext
      exact .inr ⟨rfl, fun ht => hsealed (sealed_later ht hlater), v, hview.earlier hlater, rfl⟩
    · obtain ⟨-, hnext, -⟩ := executes_pure.1 hrun
      cases hnext
      exact .inl (Nat.lt_succ_self _)

/-- A stub counts as unavailable. -/
theorem inspect_stub {b : StubSegment host.toLogHost marker} (hb : b ∈ shelf.stubs)
    (hrun : Executes shelf.answers
      (LogQuery.inspect host marker found (b.header.name false)) t h (.ok next) u) :
    next.unavailable = found.unavailable + 1 ∧ next.segments = found.segments := by
  rw [LogQuery.inspect] at hrun
  obtain ⟨late, t₁, h₁, h₂, -, -, hrun⟩ := executes_bind_ok.1 hrun
  obtain ⟨_, t₂, h₃, h₄, -, -, hrun⟩ := executes_bind_ok.1 hrun
  obtain ⟨d, t₃, h₅, h₆, -, -, hrun⟩ := executes_bind_ok.1 hrun
  cases d with
  | none =>
    obtain ⟨-, hnext, -⟩ := executes_pure.1 hrun
    cases hnext
    exact ⟨rfl, rfl⟩
  | some d =>
    obtain ⟨v, t₄, h₇, h₈, -, hsegment, hrun⟩ := executes_bind_ok.1 hrun
    rcases executes_attempt hsegment with ⟨v, rfl, hfound⟩ | ⟨rfl, -⟩
    · exact absurd hfound (segment_stub hb)
    · obtain ⟨-, hnext, -⟩ := executes_pure.1 hrun
      cases hnext
      exact ⟨rfl, rfl⟩

end

/-- What a name of the directory stands for: a segment under one of its two names, or a stub. -/
abbrev ShelfEntry (host : QueryHost) (marker : Marker) : Type :=
  StoredSegment host.toLogHost marker × Bool ⊕ StubSegment host.toLogHost marker

def entryName : ShelfEntry host marker → LogName
  | .inl (s, isSealed) => s.header.name isSealed
  | .inr b => b.header.name false

variable (shelf) in
def OfShelf : ShelfEntry host marker → Prop
  | .inl (s, _) => s ∈ shelf.segments
  | .inr b => b ∈ shelf.stubs

/-- The segments among the entries. -/
def wholes (es : List (ShelfEntry host marker)) : List (StoredSegment host.toLogHost marker) :=
  es.filterMap fun e => e.getLeft?.map Prod.fst

def stubsOf (es : List (ShelfEntry host marker)) : List (StubSegment host.toLogHost marker) :=
  es.filterMap Sum.getRight?

/-- At least the stubs are unavailable, and if nothing else is then every entry was found, under the
name its segment had. -/
theorem inspectAll_views (hhost : host.toLogHost.Lawful) (es : List (ShelfEntry host marker))
    (hes : ∀ e ∈ es, OfShelf shelf e) {t u : shelf.State}
    {h : List (Exchange QueryCall QueryCall.Reply)} {found last : LogInventory}
    (hrun : Executes shelf.answers (LogQuery.inspectAll host marker found (es.map entryName)) t h
      (.ok last) u) :
    found.unavailable + (stubsOf es).length ≤ last.unavailable ∧
      (last.unavailable = found.unavailable + (stubsOf es).length →
        (∀ s isSealed, .inl (s, isSealed) ∈ es → t.stageOf s = .sealed → isSealed = true) ∧
        ∃ vs, List.Forall₂ (View t u) (wholes es) vs ∧ last.segments = found.segments ++ vs) := by
  induction es generalizing t h found with
  | nil =>
    obtain ⟨-, hlast, rfl⟩ := executes_pure.1 hrun
    cases hlast
    refine ⟨Nat.le_refl _, fun _ => ⟨fun s isSealed hs => ?_, [], .nil, (List.append_nil _).symm⟩⟩
    cases hs
  | cons e es ih =>
    rw [List.map_cons, LogQuery.inspectAll] at hrun
    obtain ⟨next, t₁, h₁, h₂, -, hone, hrest⟩ := executes_bind_ok.1 hrun
    obtain ⟨hle, hall⟩ := ih (fun e he => hes e (List.mem_cons_of_mem _ he)) hrest
    have hmem := hes e List.mem_cons_self
    cases e with
    | inl e =>
      obtain ⟨s, isSealed⟩ := e
      have hstubs : stubsOf (.inl (s, isSealed) :: es : List (ShelfEntry host marker)) =
          stubsOf es := List.filterMap_cons_none rfl
      have hwholes : wholes (.inl (s, isSealed) :: es : List (ShelfEntry host marker)) =
          s :: wholes es := List.filterMap_cons_some rfl
      rw [hstubs, hwholes]
      rcases inspect_segment hhost hmem hone with hlt | ⟨heq, hname, v, hview, hsegments⟩
      · exact ⟨by omega, fun hlast => by omega⟩
      · refine ⟨by omega, fun hlast => ?_⟩
        obtain ⟨hnames, vs, hvs, hall⟩ := hall (by omega)
        refine ⟨fun s' b hs' ht => ?_, v :: vs, .cons (hview.later (later_of_executes hrest))
          (hvs.imp fun _ _ hv => hv.earlier (later_of_executes hone)), ?_⟩
        · rcases List.mem_cons.1 hs' with heq | hs'
          · cases heq
            exact hname ht
          · exact hnames s' b hs' (sealed_later ht (later_of_executes hone))
        · rw [hall, hsegments, List.append_assoc, List.singleton_append]
    | inr b =>
      have hstubs : stubsOf (.inr b :: es : List (ShelfEntry host marker)) = b :: stubsOf es :=
        List.filterMap_cons_some rfl
      have hwholes : wholes (.inr b :: es : List (ShelfEntry host marker)) = wholes es :=
        List.filterMap_cons_none rfl
      rw [hstubs, hwholes, List.length_cons]
      obtain ⟨heq, hsegments⟩ := inspect_stub hmem hone
      refine ⟨by omega, fun hlast => ?_⟩
      obtain ⟨hnames, vs, hvs, hall⟩ := hall (by omega)
      refine ⟨fun s isSealed hs ht => ?_, vs,
        hvs.imp fun _ _ hv => hv.earlier (later_of_executes hone), by rw [hall, hsegments]⟩
      rcases List.mem_cons.1 hs with heq | hs
      · cases heq
      · exact hnames s isSealed hs (sealed_later ht (later_of_executes hone))

theorem text_antisymm {t t' : Text} (h : ¬ t' < t) (h' : ¬ t < t') : t = t' :=
  List.le_antisymm (List.not_lt.1 h) (List.not_lt.1 h')

/-- Views are put into the order of their segments. -/
theorem byName_views {t₀ t : shelf.State} {ss : List (StoredSegment host.toLogHost marker)}
    {vs : List (LogSegment × Nat)} (h : List.Forall₂ (View t₀ t) ss vs)
    (hperm : ss.Perm shelf.segments) : List.Forall₂ (View t₀ t) shelf.segments (byName vs) := by
  have hlen := h.length_eq
  generalize hzs : (ss.zip vs).insertionSort (fun p q => p.2.1.name.text ≤ q.2.1.name.text) = zs
  have hmem : zs.Perm (ss.zip vs) := by
    rw [← hzs]
    exact List.perm_insertionSort _ _
  have hview : ∀ p ∈ zs, View t₀ t p.1 p.2 := fun p hp =>
    (List.forall₂_iff_zip.1 h).2 (hmem.mem_iff.1 hp)
  have hsnd : zs.map Prod.snd = byName vs := by
    have hmap := List.map_insertionSort (fun p q => p.2.1.name.text ≤ q.2.1.name.text)
      (fun a b : LogSegment × Nat => a.1.name.text ≤ b.1.name.text) Prod.snd (ss.zip vs)
      fun _ _ _ _ => Iff.rfl
    rw [hzs, List.map_snd_zip (Nat.le_of_eq hlen.symm)] at hmap
    exact hmap
  have hsorted : zs.Pairwise (fun p q => p.2.1.name.text ≤ q.2.1.name.text) := by
    rw [← hzs]
    exact List.pairwise_insertionSort _ _
  have hfst : zs.map Prod.fst = shelf.segments := by
    have hsame : (zs.map Prod.fst).Perm shelf.segments := by
      have h := hmem.map Prod.fst
      rw [List.map_fst_zip (Nat.le_of_eq hlen)] at h
      exact h.trans hperm
    have hanti : ∀ s s', s ∈ zs.map Prod.fst → s' ∈ shelf.segments →
        ¬ s'.header.stemText < s.header.stemText → ¬ s.header.stemText < s'.header.stemText →
          s = s' :=
      fun s s' hs hs' hle hge =>
        eq_of_stem (hsame.mem_iff.1 hs) hs' (text_antisymm hle hge)
    refine List.Perm.eq_of_pairwise hanti ?_ ?_ hsame
    · rw [List.pairwise_map]
      refine hsorted.imp_of_mem fun {p q} hp hq hle hlt => ?_
      obtain ⟨w, -, -, hw⟩ := (hview p hp).name
      obtain ⟨w', -, -, hw'⟩ := (hview q hq).name
      rw [hw, hw'] at hle
      exact absurd (q.1.valid.name_lt p.1.valid hlt _ _) hle
    · exact shelf.ordered.imp fun hlt hgt => List.lt_irrefl _ (List.lt_trans hlt hgt)
  rw [← hsnd, ← hfst, List.forall₂_map_left_iff, List.forall₂_map_right_iff, List.forall₂_same]
  exact hview

/-! ## The inventory -/

variable (shelf) in
/-- The entries stand for the names in the list, but for the marker and the lock. -/
structure Entries (ns : List LogName) (es : List (ShelfEntry host marker)) : Prop where
  ofShelf : ∀ e ∈ es, OfShelf shelf e
  names : ns.filter (fun n => n ≠ .marker ∧ n ≠ .lock) = es.map entryName

theorem listed_entries {t u : shelf.State} {ns : List LogName} (h : Listed t u ns) :
    ∃ es : List (ShelfEntry host marker), Entries shelf ns es := by
  have hone : ∀ n ∈ ns.filter (fun n => n ≠ .marker ∧ n ≠ .lock),
      ∃ e : ShelfEntry host marker, OfShelf shelf e ∧ entryName e = n := by
    intro n hn
    obtain ⟨hmem, hkind⟩ := List.mem_filter.1 hn
    have hkind : n ≠ .marker ∧ n ≠ .lock := of_decide_eq_true hkind
    have hnamed : ∀ v : shelf.State, n ∈ v.names →
        ∃ e : ShelfEntry host marker, OfShelf shelf e ∧ entryName e = n := by
      intro v hv
      rcases mem_names.1 hv with rfl | rfl | ⟨s, hs, hname⟩ | ⟨b, hb, hname⟩
      · exact absurd rfl hkind.1
      · exact absurd rfl hkind.2
      · exact ⟨.inl (s, _), hs, hname⟩
      · exact ⟨.inr b, hb, hname⟩
    exact (h.known n hmem).elim (hnamed t) (hnamed u)
  choose f hf using hone
  refine ⟨(ns.filter _).attach.map fun n => f n.1 n.2, fun e he => ?_, ?_⟩
  · obtain ⟨n, -, rfl⟩ := List.mem_map.1 he
    exact (hf n.1 n.2).1
  · have hnames : (ns.filter _).attach.map (fun n => entryName (f n.1 n.2)) =
        (ns.filter _).attach.map Subtype.val :=
      List.map_congr_left fun n _ => (hf n.1 n.2).2
    rw [List.map_map]
    exact (hnames.trans (List.attach_map_subtype_val _)).symm

section

variable {t u : shelf.State} {ns : List LogName} {es : List (ShelfEntry host marker)}

theorem Entries.nodup (h : Entries shelf ns es) (hlisted : Listed t u ns) : es.Nodup := by
  have hnames := hlisted.once.filter (fun n => decide (n ≠ .marker ∧ n ≠ .lock))
  rw [h.names] at hnames
  exact hnames.of_map _

theorem Entries.mem (h : Entries shelf ns es) {e : ShelfEntry host marker}
    (he : OfShelf shelf e) (hname : entryName e ∈ ns) : e ∈ es := by
  have hkind : entryName e ≠ .marker ∧ entryName e ≠ .lock := by
    cases e <;> simp [entryName, SegmentHeader.name]
  have hmem : entryName e ∈ ns.filter (fun n => n ≠ .marker ∧ n ≠ .lock) :=
    List.mem_filter.2 ⟨hname, decide_eq_true hkind⟩
  rw [h.names] at hmem
  obtain ⟨e', he', heq⟩ := List.mem_map.1 hmem
  have hshelf := h.ofShelf e' he'
  cases e with
  | inl e =>
    obtain ⟨s, isSealed⟩ := e
    cases e' with
    | inl e' =>
      obtain ⟨hstem, hsealed⟩ := stem_of_name heq
      rw [show (s, isSealed) = e' from Prod.ext (eq_of_stem he hshelf hstem.symm) hsealed.symm]
      exact he'
    | inr b => exact absurd (stem_of_name heq).1.symm (shelf.apart s he b hshelf)
  | inr b =>
    cases e' with
    | inl e' => exact absurd (stem_of_name heq).1 (shelf.apart e'.1 hshelf b he)
    | inr b' =>
      have hnodup : (shelf.stubs.map fun b => b.header.stemText).Nodup :=
        List.pairwise_map.2 shelf.distinct
      rw [List.inj_on_of_nodup_map hnodup he hshelf (stem_of_name heq).1.symm]
      exact he'

theorem Entries.name_mem (h : Entries shelf ns es) {e : ShelfEntry host marker} (he : e ∈ es) :
    entryName e ∈ ns := by
  have hmem := List.mem_map_of_mem (f := entryName) he
  rw [← h.names] at hmem
  exact (List.mem_filter.1 hmem).1

/-- Every stub is listed once. -/
theorem Entries.stubs (h : Entries shelf ns es) (hlisted : Listed t u ns) :
    (stubsOf es).Perm shelf.stubs := by
  have hnodup : (stubsOf es).Nodup := by
    rw [stubsOf, List.Nodup, List.pairwise_filterMap]
    refine (h.nodup hlisted).imp fun {e e'} hne b hb b' hb' heq => hne ?_
    rw [Sum.getRight?_eq_some_iff.1 hb, Sum.getRight?_eq_some_iff.1 hb', heq]
  refine (List.perm_ext_iff_of_nodup hnodup stub_nodup).2 fun b => ?_
  rw [stubsOf, List.mem_filterMap]
  constructor
  · rintro ⟨e, he, hb⟩
    rw [Sum.getRight?_eq_some_iff.1 hb] at he
    exact h.ofShelf _ he
  · intro hb
    have hname := hlisted.stays _ (stub_mem_names t hb) (stub_mem_names u hb)
    exact ⟨.inr b, h.mem (e := .inr b) hb hname, rfl⟩

/-- Every segment is listed once, if each is listed and none under a name it has no more. -/
theorem Entries.segments (h : Entries shelf ns es) (hlisted : Listed t u ns) (htu : Later t u)
    (hall : ∀ s ∈ shelf.segments, ∃ isSealed, s.header.name isSealed ∈ ns)
    (hnames : ∀ s isSealed, .inl (s, isSealed) ∈ es → u.stageOf s = .sealed → isSealed = true) :
    (wholes es).Perm shelf.segments := by
  have hvalue : ∀ s isSealed, .inl (s, isSealed) ∈ es →
      (isSealed = true ↔ u.stageOf s = .sealed) := by
    intro s isSealed he
    refine ⟨fun hsealed => ?_, hnames s isSealed he⟩
    subst hsealed
    have hs := h.ofShelf _ he
    rcases hlisted.known _ (h.name_mem he) with ht | hu
    · exact sealed_later (((segment_mem_names hs).1 ht).1 rfl) htu
    · exact ((segment_mem_names hs).1 hu).1 rfl
  have hwhole : ∀ {e : ShelfEntry host marker} {s}, e.getLeft?.map Prod.fst = some s →
      ∃ isSealed, e = .inl (s, isSealed) := by
    intro e s he
    obtain ⟨⟨s', isSealed⟩, hleft, rfl⟩ := Option.map_eq_some_iff.1 he
    exact ⟨isSealed, Sum.getLeft?_eq_some_iff.1 hleft⟩
  have hnodup : (wholes es).Nodup := by
    rw [wholes, List.Nodup, List.pairwise_filterMap]
    refine (h.nodup hlisted).imp_of_mem fun {e e'} he he' hne s hs s' hs' heq => hne ?_
    obtain ⟨b, rfl⟩ := hwhole hs
    obtain ⟨b', rfl⟩ := hwhole hs'
    cases heq
    rw [Bool.eq_iff_iff.2 ((hvalue s b he).trans (hvalue s b' he').symm)]
  refine (List.perm_ext_iff_of_nodup hnodup segment_nodup).2 fun s => ?_
  rw [wholes, List.mem_filterMap]
  constructor
  · rintro ⟨e, he, hs⟩
    obtain ⟨b, rfl⟩ := hwhole hs
    exact h.ofShelf _ he
  · intro hs
    obtain ⟨isSealed, hname⟩ := hall s hs
    exact ⟨.inl (s, isSealed), h.mem (e := .inl (s, isSealed)) hs hname, rfl⟩

end

/-- A call that gives the names has listed them. -/
theorem executes_names {t u : shelf.State} {h : List (Exchange QueryCall QueryCall.Reply)}
    {ns : List LogName}
    (hrun : Executes shelf.answers (LogQuery.ask .names >>= Prog.ofExcept) t h (.ok ns) u) :
    h = [⟨.names, .ok ns⟩] ∧ Listed t u ns := by
  obtain ⟨r, v, h₁, h₂, rfl, hask, hof⟩ := executes_bind_ok.1 hrun
  obtain ⟨r', rfl, hr, hlater, hans⟩ := executes_ask.1 hask
  cases hr
  obtain ⟨rfl, hr, rfl⟩ := executes_done.1 hof
  rcases hans with htold | hfail
  · rcases htold with he | ⟨ns', hns, hlisted⟩
    · cases hr.trans he
    · cases hr.trans hns
      rw [hns]
      exact ⟨rfl, hlisted⟩
  · obtain ⟨e, he⟩ := hfail
    cases hr.trans he

variable (shelf) in
/-- Where the directory was listed, every segment was listed under one of its names. -/
def Lists (h : List (Exchange QueryCall QueryCall.Reply)) : Prop :=
  ∀ ns, ⟨.names, .ok ns⟩ ∈ h → ∀ s ∈ shelf.segments, ∃ isSealed, s.header.name isSealed ∈ ns

/-- Where no more than the stubs are unavailable and every segment was listed, the query has found
every segment. -/
theorem inventory_views (hhost : host.toLogHost.Lawful) {t u : shelf.State}
    {h : List (Exchange QueryCall QueryCall.Reply)} {found : LogInventory}
    (hrun : Executes shelf.answers (LogQuery.inventory host marker) t h (.ok found) u) :
    shelf.stubs.length ≤ found.unavailable ∧ (Lists shelf h →
      found.unavailable = shelf.stubs.length →
        List.Forall₂ (View t u) shelf.segments found.segments) := by
  rw [LogQuery.inventory] at hrun
  obtain ⟨d, t₁, h₁, h₂, rfl, hd, hrun⟩ := executes_bind_ok.1 hrun
  obtain ⟨d', t₂, h₃, h₄, rfl, hd', hrun⟩ := executes_bind_ok.1 hrun
  obtain ⟨ns, t₃, h₅, h₆, rfl, hnames, hrun⟩ := executes_bind_ok.1 hrun
  obtain ⟨all, t₄, h₇, h₈, -, hall, hrun⟩ := executes_bind_ok.1 hrun
  obtain ⟨-, hfound, rfl⟩ := executes_pure.1 hrun
  cases hfound
  obtain ⟨rfl, hlisted⟩ := executes_names hnames
  obtain ⟨es, hes⟩ := listed_entries hlisted
  rw [hes.names] at hall
  obtain ⟨hle, hviews⟩ := inspectAll_views hhost es hes.ofShelf hall
  rw [(hes.stubs hlisted).length_eq, Nat.zero_add] at hle hviews
  refine ⟨hle, fun hlists heq => ?_⟩
  obtain ⟨hcurrent, vs, hvs, hsegments⟩ := hviews heq
  rw [hsegments, List.nil_append]
  have h23 := later_of_executes hnames
  have h03 := (later_of_executes hd).trans ((later_of_executes hd').trans h23)
  exact byName_views (hvs.imp fun _ _ hv => hv.earlier h03)
    (hes.segments hlisted h23 (hlists ns (by simp)) hcurrent)

end Shelf

end MediaSync.Observability
