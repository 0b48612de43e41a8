import MediaSync.Observability.LogStock

/-!
# Reading the segments

What a page takes from the segments that were found. Its events, and what comes
after the place where it ends, are what came after the place where it began: a
line is read once, and neither a torn end nor a footer is an event.
-/

namespace MediaSync.Observability

open Python JsonText Events
open Program Observability.Shelf

variable {host : QueryHost} {marker : Marker} {shelf : Shelf host.toLogHost marker}

section

variable (selected : Filters)

/-- The events of a segment from a line on that the filters select. -/
def StoredSegment.events (s : StoredSegment host.toLogHost marker) (i : Nat) : List LogRecord :=
  ((s.lines.drop i).filterMap (LogQuery.readRecord host s.header)).filter
    (LogQuery.selects selected)

/-- The events from a line of the first segment on. -/
def remaining : List (StoredSegment host.toLogHost marker) → Nat → List LogRecord
  | [], _ => []
  | s :: rest, i => s.events selected i ++ rest.flatMap (fun s => s.events selected 0)

/-- The events that the filters select, in the order of the segments. -/
def Shelf.events (shelf : Shelf host.toLogHost marker) : List LogRecord :=
  shelf.segments.flatMap (fun s => s.events selected 0)

end

/-- How many reads there can be from a line of the first segment on. -/
def readsLeft : List (StoredSegment host.toLogHost marker) → Nat → Nat
  | [], _ => 0
  | s :: rest, i => (s.lines.length + 1 - i) + (rest.map fun s => s.lines.length + 1).sum

def QueryCall.isRead : QueryCall → Bool
  | .readLine _ _ _ => true
  | _ => false

/-- How many lines were read. -/
def reads (h : List (Exchange QueryCall QueryCall.Reply)) : Nat :=
  h.countP (fun e => e.call.isRead)

theorem reads_append (h₁ h₂ : List (Exchange QueryCall QueryCall.Reply)) :
    reads (h₁ ++ h₂) = reads h₁ + reads h₂ := List.countP_append

theorem StoredSegment.drop_eq_nil {s : StoredSegment host.toLogHost marker} {i : Nat}
    (h : s.body.length ≤ s.position i) : s.lines.drop i = [] := by
  rw [s.body_length i] at h
  cases hdrop : s.lines.drop i with
  | nil => rfl
  | cons line rest =>
    have hmem : line ∈ s.lines := List.mem_of_mem_drop (hdrop ▸ List.mem_cons_self)
    have hpos := (s.whole line hmem).length_pos
    rw [hdrop, List.flatten_cons, List.length_append] at h
    omega

theorem StoredSegment.events_cons {selected : Filters} {s : StoredSegment host.toLogHost marker}
    {i : Nat} (hi : i < s.lines.length) (scan : LogQuery.Scan) :
    (scan.take selected (LogQuery.readRecord host s.header s.lines[i])).events ++
      s.events selected (i + 1) = scan.events ++ s.events selected i := by
  rw [StoredSegment.events, StoredSegment.events, List.drop_eq_getElem_cons hi]
  cases hr : LogQuery.readRecord host s.header s.lines[i] with
  | none =>
    rw [List.filterMap_cons_none hr]
    rfl
  | some record =>
    rw [List.filterMap_cons_some hr, LogQuery.Scan.take]
    cases hsel : LogQuery.selects selected record with
    | true => simp [hsel]
    | false => simp [hsel]

theorem readRecord_footer (hhost : host.toLogHost.Lawful)
    (s : StoredSegment host.toLogHost marker) :
    LogQuery.readRecord host s.header s.footer = none := by
  have hloads : host.loads s.footer = some (Doc.object (signed host.toLogHost marker.key
      (footerPayload s.header.segmentId s.body.length s.lines.length))).json :=
    hhost.loads_line _ (signed_keysOnce (signable_footer _ _ _))
  have hversion : Json.get? (sortedFields ((signed host.toLogHost marker.key
      (footerPayload s.header.segmentId s.body.length s.lines.length)).map
        fun f => (f.1, f.2.json))) "schema_version" = none := by
    rw [Json.get?, Option.map_eq_none_iff, List.find?_eq_none]
    intro f hf
    obtain ⟨g, hg, rfl⟩ := List.mem_map.1 ((sortedFields_perm _).mem_iff.1 hf)
    have hkey : g.1 ∈ ["type", "segment_id", "end", "count", "mac"] :=
      List.mem_map_of_mem (f := Prod.fst) hg
    intro heq
    rw [of_decide_eq_true heq] at hkey
    exact absurd hkey (by decide)
  have hnone : validateRecord host.policy (Doc.object (signed host.toLogHost marker.key
      (footerPayload s.header.segmentId s.body.length s.lines.length))).json = none := by
    rw [Doc.json_object]
    simp only [validateRecord, readField, hversion, Option.bind_eq_bind, Option.bind_some,
      Option.bind_none]
  rw [LogQuery.readRecord, if_neg (Nat.not_lt.2 s.footer_isLine.fits), hloads, Option.bind_some,
    hnone]
  rfl

/-! ## The lines of one segment -/

section

variable {selected : Filters} {limit : Nat} {s : StoredSegment host.toLogHost marker}
  {v : LogSegment × Nat} {t₀ t u : shelf.State} {h : List (Exchange QueryCall QueryCall.Reply)}
  {scan next : LogQuery.Scan} {stopped : Option Nat}

theorem executes_isFull {A : Answers QueryCall QueryCall.Reply shelf.State}
    {x : Except QueryError Bool} (hrun : Executes A (LogQuery.isFull limit scan) t h x u) :
    (∃ full, x = .ok full) ∧ reads h = 0 := by
  by_cases hdone : limit ≤ scan.events.length ∨ LogQuery.maxScanBytes ≤ scan.scanned
  · have hfull : LogQuery.isFull limit scan = pure true := if_pos hdone
    rw [hfull] at hrun
    obtain ⟨rfl, rfl, -⟩ := executes_pure.1 hrun
    exact ⟨⟨_, rfl⟩, rfl⟩
  · have hfull : LogQuery.isFull limit scan = LogQuery.ask .late := if_neg hdone
    rw [hfull] at hrun
    obtain ⟨r, rfl, rfl, -⟩ := executes_ask.1 hrun
    exact ⟨⟨_, rfl⟩, rfl⟩

/-- What has become of the segment from its line `i` on: all of it was read, or the page ends at a
line. -/
def Scanned (selected : Filters) (s : StoredSegment host.toLogHost marker) (i : Nat)
    (scan next : LogQuery.Scan) (read : Nat) : Option Nat → Prop
  | none => next.events = scan.events ++ s.events selected i ∧ read ≤ s.lines.length + 1 - i
  | some p => ∃ j, i ≤ j ∧ j ≤ s.lines.length ∧ p = s.position j ∧ read = j - i ∧
    next.events ++ s.events selected j = scan.events ++ s.events selected i

theorem scanLines_end (hstop : v.1.stop ≤ i) (rounds : Nat)
    (hrun : Executes shelf.answers (LogQuery.scanLines host limit selected v.1 v.2 rounds i scan)
      t h (.ok (next, stopped)) u) : h = [] ∧ next = scan ∧ stopped = none := by
  cases rounds with
  | zero =>
    obtain ⟨rfl, hr, -⟩ := executes_pure.1 hrun
    cases hr
    exact ⟨rfl, rfl, rfl⟩
  | succ rounds =>
    rw [LogQuery.scanLines, if_pos hstop] at hrun
    obtain ⟨rfl, hr, -⟩ := executes_pure.1 hrun
    cases hr
    exact ⟨rfl, rfl, rfl⟩

theorem take_unavailable (scan : LogQuery.Scan) (selected : Filters) (record : Option LogRecord) :
    (scan.take selected record).coverage.unavailableSegments =
      scan.coverage.unavailableSegments := by
  cases record with
  | none => rfl
  | some record =>
    rw [LogQuery.Scan.take]
    split
    · rfl
    · rfl

/-- A read that stays within a text does not see what follows it. -/
theorem readLine_within {t more : Text} {n : Nat} (hn : n ≤ t.length) :
    readLine n (t ++ more) = readLine n t := by
  by_cases ht : '\n' ∈ t
  · have hshort : ¬ (t.takeWhile (· ≠ '\n')).length = t.length := by
      intro hlen
      have hself := (List.takeWhile_prefix (· ≠ '\n')).eq_of_length hlen
      have hall := List.takeWhile_eq_self_iff.1 hself _ ht
      exact absurd rfl (of_decide_eq_true hall)
    rw [readLine, readLine, List.takeWhile_append, if_neg hshort, if_pos ht,
      if_pos (List.mem_append_left _ ht)]
  · have hall : ∀ c ∈ t, decide (c ≠ '\n') = true := by
      intro c hc
      refine decide_eq_true ?_
      rintro rfl
      exact ht hc
    have hself := List.takeWhile_eq_self_iff.2 hall
    rw [readLine, readLine, List.takeWhile_append_of_pos hall, hself, if_neg ht, List.append_nil,
      List.append_assoc, List.take_append_of_le_length hn]

/-- Where the segment has no line any more, all of it was read. -/
theorem scanned_end {i : Nat} (hdrop : s.lines.drop i = []) {read : Nat}
    (hread : read ≤ s.lines.length + 1 - i) (hevents : next.events = scan.events) :
    Scanned selected s i scan next read none := by
  refine ⟨?_, hread⟩
  rw [StoredSegment.events, hdrop, hevents]
  exact (List.append_nil _).symm

/-- The line at `i` is read and the rest is scanned. -/
theorem scanned_line {i : Nat} (hi : i < s.lines.length) {read : Nat}
    (h : Scanned selected s (i + 1)
      ((scan.read s.lines[i]).take selected (LogQuery.readRecord host s.header s.lines[i]))
      next read stopped) : Scanned selected s i scan next (read + 1) stopped := by
  have hevents := @StoredSegment.events_cons host marker selected s i hi (scan.read s.lines[i])
  cases stopped with
  | none =>
    obtain ⟨hnext, hread⟩ := h
    exact ⟨hnext.trans hevents, by omega⟩
  | some p =>
    obtain ⟨j, hij, hj, hp, hread, hnext⟩ := h
    exact ⟨j, by omega, hj, hp, by omega, hnext.trans hevents⟩

/-- Lines that are read make nothing unavailable. -/
theorem scanLines_unavailable {A : Answers QueryCall QueryCall.Reply shelf.State} {w : LogSegment}
    {ident position : Nat} (rounds : Nat)
    (hrun : Executes A (LogQuery.scanLines host limit selected w ident rounds position scan)
      t h (.ok (next, stopped)) u) :
    next.coverage.unavailableSegments = scan.coverage.unavailableSegments := by
  induction rounds generalizing position scan t h with
  | zero =>
    obtain ⟨-, hr, -⟩ := executes_pure.1 hrun
    cases hr
    rfl
  | succ rounds ih =>
    rw [LogQuery.scanLines] at hrun
    by_cases hend : w.stop ≤ position
    · rw [if_pos hend] at hrun
      obtain ⟨-, hr, -⟩ := executes_pure.1 hrun
      cases hr
      rfl
    rw [if_neg hend] at hrun
    obtain ⟨full, t₁, h₁, h₂, -, -, hafter⟩ := executes_bind_ok.1 hrun
    cases full with
    | true =>
      obtain ⟨-, hr, -⟩ := executes_pure.1 hafter
      cases hr
      rfl
    | false =>
      rw [if_neg Bool.false_ne_true] at hafter
      obtain ⟨line, t₂, h₃, h₄, -, -, hrest⟩ := executes_bind_ok.1 hafter
      dsimp only at hrest
      by_cases hends : line.getLast? ≠ some '\n'
      · rw [if_pos hends] at hrest
        obtain ⟨-, hr, -⟩ := executes_pure.1 hrest
        cases hr
        rfl
      · rw [if_neg hends] at hrest
        exact (ih hrest).trans (take_unavailable _ _ _)

/-- What comes after the events is the line that was torn or the footer, and neither is an event. -/
theorem scanned_ending (hhost : host.toLogHost.Lawful) {w : LogSegment} {rounds i : Nat}
    {line seen more : Text} (hheader : w.header = s.header)
    (hseen : seen = [] ∨ seen = s.tail ∨ seen = s.footer)
    (hstop : w.stop = s.body.length + seen.length) (hi : i ≤ s.lines.length)
    (hdrop : s.lines.drop i = []) (hend : ¬ w.stop ≤ s.position i)
    (hread : line = readLine (min (maxEventBytes + 1) (w.stop - s.position i)) (seen ++ more))
    (hrun : Executes shelf.answers
      (if line.getLast? ≠ some '\n' then pure ((scan.read line).truncated, none)
        else LogQuery.scanLines host limit selected w v.2 rounds (s.position i + line.length)
          ((scan.read line).take selected (LogQuery.readRecord host w.header line)))
      t h (.ok (next, stopped)) u) :
    Scanned selected s i scan next (reads h + 1) stopped := by
  have hbody := s.body_length i
  rw [hdrop, List.flatten_nil, List.length_nil, Nat.add_zero] at hbody
  rw [readLine_within (by omega)] at hread
  rcases hseen with rfl | rfl | rfl
  · rw [List.length_nil] at hstop
    omega
  · have hends : line.getLast? ≠ some '\n' := by
      rw [hread]
      exact readLine_torn s.torn _
    rw [if_pos hends] at hrun
    obtain ⟨rfl, hr, -⟩ := executes_pure.1 hrun
    cases hr
    exact scanned_end hdrop (by simp only [reads, List.countP_nil]; omega) rfl
  · have hfits := s.footer_isLine.fits
    have hfooter : readLine (min (maxEventBytes + 1) (w.stop - s.position i))
        (s.footer ++ []) = s.footer := s.footer_isLine.read [] (by omega)
    rw [List.append_nil] at hfooter
    rw [hfooter] at hread
    subst hread
    rw [if_neg (not_not_intro s.footer_isLine.ends), hheader, readRecord_footer hhost] at hrun
    have hpast : w.stop ≤ s.position i + s.footer.length := by omega
    obtain ⟨rfl, rfl, rfl⟩ := scanLines_end (v := (w, v.2)) hpast _ hrun
    exact scanned_end hdrop (by simp only [reads, List.countP_nil]; omega) rfl

theorem scanLines_scanned (hhost : host.toLogHost.Lawful) (hs : s ∈ shelf.segments)
    (rounds i : Nat) (hi : i ≤ s.lines.length) (hrounds : v.1.stop - s.position i ≤ rounds)
    (hview : View t₀ t s v)
    (hrun : Executes shelf.answers
      (LogQuery.scanLines host limit selected v.1 v.2 rounds (s.position i) scan)
      t h (.ok (next, stopped)) u) :
    Scanned selected s i scan next (reads h) stopped := by
  obtain ⟨seen, hseen, hstop, hmore⟩ := hview.stop
  induction rounds generalizing i scan t h with
  | zero =>
    obtain ⟨rfl, rfl, rfl⟩ := scanLines_end (by omega) 0 hrun
    exact scanned_end (s.drop_eq_nil (by omega)) (Nat.zero_le _) rfl
  | succ rounds ih =>
    by_cases hend : v.1.stop ≤ s.position i
    · obtain ⟨rfl, rfl, rfl⟩ := scanLines_end hend _ hrun
      exact scanned_end (s.drop_eq_nil (by omega)) (Nat.zero_le _) rfl
    rw [LogQuery.scanLines, if_neg hend] at hrun
    obtain ⟨full, t₁, h₁, h₂, rfl, hfull, hrun⟩ := executes_bind_ok.1 hrun
    obtain ⟨-, hnone⟩ := executes_isFull hfull
    rw [reads_append, hnone, Nat.zero_add]
    cases full with
    | true =>
      obtain ⟨rfl, hr, -⟩ := executes_pure.1 hrun
      cases hr
      exact ⟨i, Nat.le_refl _, hi, rfl, (Nat.sub_self i).symm, rfl⟩
    | false =>
      rw [if_neg Bool.false_ne_true] at hrun
      obtain ⟨line, t₂, h₃, h₄, rfl, hline, hafter⟩ := executes_bind_ok.1 hrun
      dsimp only at hafter
      rw [hview.ident] at hline
      obtain ⟨h12, hread, r, rfl⟩ := executes_line hs hline
      have htu := (later_of_executes hfull).trans h12
      have hone : reads ([⟨.readLine s.ident (s.position i) (min (maxEventBytes + 1)
          (v.1.stop - s.position i)), r⟩] ++ h₄) = reads h₄ + 1 := by
        rw [reads_append, Nat.add_comm]
        rfl
      rw [hone]
      rw [s.drop_position] at hread
      by_cases hlast : i < s.lines.length
      · -- a line of an event
        have hbody := s.body_length i
        have hwhole := s.whole _ (List.getElem_mem hlast)
        rw [List.drop_eq_getElem_cons hlast, List.flatten_cons] at hread hbody
        rw [List.length_append] at hbody
        have hfits := hwhole.fits
        have hpos := hwhole.length_pos
        rw [List.append_assoc, hwhole.read _ (by omega)] at hread
        subst hread
        rw [if_neg (not_not_intro hwhole.ends), hview.header, ← s.position_succ hlast] at hafter
        exact scanned_line hlast (ih (i + 1) hlast (by rw [s.position_succ hlast]; omega)
          (hview.later htu) hafter (fun w hw => hmore w (htu.trans hw)))
      · -- what comes after the events
        have hdrop : s.lines.drop i = [] := List.drop_eq_nil_of_le (Nat.not_lt.1 hlast)
        obtain ⟨more, hending⟩ := hmore _ htu
        rw [hdrop, List.flatten_nil, List.nil_append, hending] at hread
        exact scanned_ending hhost hview.header hseen hstop hi hdrop hend hread hafter

/-- A segment is as available after it was scanned as before, or less. -/
theorem scanSegment_unavailable {A : Answers QueryCall QueryCall.Reply shelf.State}
    {w : LogSegment} {ident offset : Nat}
    (hrun : Executes A (LogQuery.scanSegment host limit selected w ident offset scan)
      t h (.ok (next, stopped)) u) :
    scan.coverage.unavailableSegments ≤ next.coverage.unavailableSegments := by
  rw [LogQuery.scanSegment] at hrun
  obtain ⟨_, t₁, h₁, h₂, -, -, hafter⟩ := executes_bind_ok.1 hrun
  obtain ⟨opened, t₂, h₃, h₄, -, -, hrest⟩ := executes_bind_ok.1 hafter
  by_cases hident : opened = some ident
  · rw [if_pos hident] at hrest
    exact Nat.le_of_eq (scanLines_unavailable _ hrest).symm
  · rw [if_neg hident] at hrest
    obtain ⟨-, hr, -⟩ := executes_pure.1 hrest
    cases hr
    exact Nat.le_succ _

theorem scanSegment_scanned (hhost : host.toLogHost.Lawful) (hs : s ∈ shelf.segments) {i : Nat}
    (hi : i ≤ s.lines.length) (hview : View t₀ t s v)
    (hrun : Executes shelf.answers
      (LogQuery.scanSegment host limit selected v.1 v.2 (s.position i) scan)
      t h (.ok (next, stopped)) u) :
    scan.coverage.unavailableSegments < next.coverage.unavailableSegments ∨
      (Scanned selected s i scan next (reads h) stopped ∧
        next.coverage.unavailableSegments = scan.coverage.unavailableSegments) := by
  rw [LogQuery.scanSegment] at hrun
  obtain ⟨_, t₁, h₁, h₂, rfl, hreq, hafter⟩ := executes_bind_ok.1 hrun
  obtain ⟨rfl, -, rfl⟩ := executes_require_ok.1 hreq
  obtain ⟨opened, t₂, h₃, h₄, rfl, hopen, hrest⟩ := executes_bind_ok.1 hafter
  obtain ⟨r, rfl, -, -⟩ := executes_ask.1 hopen
  have hnone : reads ([] ++ ([⟨.openRead v.1.name, r⟩] ++ h₄)) = reads h₄ := by
    rw [List.nil_append, reads_append]
    exact Nat.zero_add _
  rw [hnone]
  by_cases hident : opened = some v.2
  · rw [if_pos hident] at hrest
    exact .inr ⟨scanLines_scanned hhost hs _ i hi (Nat.le_refl _)
      (hview.later (later_of_executes hopen)) hrest, scanLines_unavailable _ hrest⟩
  · rw [if_neg hident] at hrest
    obtain ⟨-, hr, -⟩ := executes_pure.1 hrest
    cases hr
    exact .inl (Nat.lt_succ_self _)

end

section

variable {selected : Filters} {limit : Nat} {t₀ t u : shelf.State}
  {h : List (Exchange QueryCall QueryCall.Reply)} {scan next : LogQuery.Scan}
  {stopped : Option (LogSegment × Nat)}

/-- What has become of the segments from a line of the first one on: everything was read, or the
page ends at a line of one of them, and what is left comes from there. -/
def Reached (selected : Filters) (ss : List (StoredSegment host.toLogHost marker)) (i : Nat)
    (scan next : LogQuery.Scan) (read : Nat) : Option (LogSegment × Nat) → Prop
  | none => next.events = scan.events ++ remaining selected ss i ∧ read ≤ readsLeft ss i
  | some (w, p) => ∃ front s rest j, ss = front ++ s :: rest ∧ j ≤ s.lines.length ∧
    (∃ isSealed, w.name = s.header.name isSealed) ∧ p = s.position j ∧
    next.events ++ remaining selected (s :: rest) j = scan.events ++ remaining selected ss i ∧
    readsLeft (s :: rest) j + read ≤ readsLeft ss i

theorem remaining_zero (ss : List (StoredSegment host.toLogHost marker)) :
    remaining selected ss 0 = ss.flatMap (fun s => s.events selected 0) := by
  cases ss with
  | nil => rfl
  | cons s ss => rfl

theorem readsLeft_zero (ss : List (StoredSegment host.toLogHost marker)) :
    readsLeft ss 0 = (ss.map fun s => s.lines.length + 1).sum := by
  cases ss with
  | nil => rfl
  | cons s ss => rfl

/-- The first segment was read to its end, and the page goes on with the next one. -/
theorem Reached.cons {s : StoredSegment host.toLogHost marker}
    {ss : List (StoredSegment host.toLogHost marker)} {i read read' : Nat} {mid : LogQuery.Scan}
    (hfirst : Scanned selected s i scan mid read none)
    (hrest : Reached selected ss 0 mid next read' stopped) :
    Reached selected (s :: ss) i scan next (read + read') stopped := by
  obtain ⟨hmid, hread⟩ := hfirst
  have hremaining : mid.events ++ remaining selected ss 0 =
      scan.events ++ remaining selected (s :: ss) i := by
    rw [hmid, remaining_zero, List.append_assoc]
    rfl
  have hleft : readsLeft (s :: ss) i = (s.lines.length + 1 - i) + readsLeft ss 0 := by
    rw [readsLeft_zero]
    rfl
  cases stopped with
  | none =>
    obtain ⟨hnext, hread'⟩ := hrest
    exact ⟨hnext.trans hremaining, by omega⟩
  | some w =>
    obtain ⟨front, s', rest, j, rfl, hj, hname, hp, hnext, hread'⟩ := hrest
    exact ⟨s :: front, s', rest, j, rfl, hj, hname, hp, hnext.trans hremaining, by omega⟩

theorem Reached.here {s : StoredSegment host.toLogHost marker}
    {ss : List (StoredSegment host.toLogHost marker)} {i read p : Nat} {w : LogSegment}
    (hname : ∃ isSealed, w.name = s.header.name isSealed)
    (hscanned : Scanned selected s i scan next read (some p)) :
    Reached selected (s :: ss) i scan next read (some (w, p)) := by
  obtain ⟨j, hij, hj, hp, hread, hnext⟩ := hscanned
  refine ⟨[], s, ss, j, rfl, hj, hname, hp, ?_, ?_⟩
  · rw [remaining, remaining, ← List.append_assoc, hnext, List.append_assoc]
  · simp only [readsLeft]
    omega

/-- Where a page begins: at the start, or at a line of the first segment. -/
def Begins (resume : Option Nat) (ss : List (StoredSegment host.toLogHost marker)) (i : Nat) :
    Prop :=
  (resume = none ∧ i = 0) ∨
    ∃ s rest, ss = s :: rest ∧ resume = some (s.position i) ∧ i ≤ s.lines.length

theorem Begins.place {s : StoredSegment host.toLogHost marker}
    {ss : List (StoredSegment host.toLogHost marker)} {v : LogSegment × Nat} {resume : Option Nat}
    {i : Nat} (h : Begins resume (s :: ss) i) (hview : View t₀ t s v) :
    resume.getD v.1.start = s.position i ∧ i ≤ s.lines.length := by
  rcases h with ⟨rfl, rfl⟩ | ⟨s', rest, hss', rfl, hi⟩
  · exact ⟨hview.start, Nat.zero_le _⟩
  · cases hss'
    exact ⟨rfl, hi⟩

theorem scanSegments_unavailable {A : Answers QueryCall QueryCall.Reply shelf.State}
    {vs : List (LogSegment × Nat)} {resume : Option Nat}
    (hrun : Executes A (LogQuery.scanSegments host limit selected resume vs scan) t h
      (.ok (next, stopped)) u) :
    scan.coverage.unavailableSegments ≤ next.coverage.unavailableSegments := by
  induction vs generalizing resume scan t h with
  | nil =>
    obtain ⟨-, hr, -⟩ := executes_pure.1 hrun
    cases hr
    exact Nat.le_refl _
  | cons v vs ih =>
    rw [LogQuery.scanSegments] at hrun
    obtain ⟨⟨mid, stop⟩, t₁, h₁, h₂, -, hfirst, hrest⟩ := executes_bind_ok.1 hrun
    have hle := scanSegment_unavailable hfirst
    cases stop with
    | some p =>
      obtain ⟨-, hr, -⟩ := executes_pure.1 hrest
      cases hr
      exact hle
    | none => exact Nat.le_trans hle (ih hrest)

theorem scanSegments_reached (hhost : host.toLogHost.Lawful)
    {ss : List (StoredSegment host.toLogHost marker)} {vs : List (LogSegment × Nat)}
    (hss : ∀ s ∈ ss, s ∈ shelf.segments) (hviews : List.Forall₂ (View t₀ t) ss vs)
    {resume : Option Nat} {i : Nat} (hbegins : Begins resume ss i)
    (hrun : Executes shelf.answers
      (LogQuery.scanSegments host limit selected resume vs scan) t h (.ok (next, stopped)) u) :
    next.coverage.unavailableSegments = scan.coverage.unavailableSegments →
      Reached selected ss i scan next (reads h) stopped := by
  induction ss generalizing vs resume i scan t h with
  | nil =>
    cases hviews
    obtain ⟨rfl, hr, -⟩ := executes_pure.1 hrun
    cases hr
    exact fun _ => ⟨(List.append_nil _).symm, Nat.le_refl _⟩
  | cons s ss ih =>
    obtain ⟨v, vs, hview, hothers, rfl⟩ := List.forall₂_cons_left_iff.1 hviews
    have hplace := hbegins.place hview
    rw [LogQuery.scanSegments, hplace.1] at hrun
    obtain ⟨⟨mid, stop⟩, t₁, h₁, h₂, rfl, hfirst, hrest⟩ := executes_bind_ok.1 hrun
    have hscanned := scanSegment_scanned hhost (hss s List.mem_cons_self) hplace.2 hview hfirst
    have hlater := later_of_executes hfirst
    rw [reads_append]
    cases stop with
    | some p =>
      obtain ⟨rfl, hr, -⟩ := executes_pure.1 hrest
      cases hr
      rcases hscanned with hlt | ⟨hscanned, heq⟩
      · exact fun heq => absurd heq (Nat.ne_of_gt hlt)
      · obtain ⟨w, -, -, hname⟩ := hview.name
        exact fun _ => .here ⟨_, hname⟩ hscanned
    | none =>
      have hle := scanSegments_unavailable hrest
      have hreached := ih (fun s hs => hss s (List.mem_cons_of_mem _ hs))
        (hothers.imp fun _ _ hv => hv.later hlater) (.inl ⟨rfl, rfl⟩) hrest
      rcases hscanned with hlt | ⟨hscanned, heq⟩
      · intro heq
        omega
      · exact fun heq' => .cons hscanned (hreached (by omega))

end

end MediaSync.Observability
