import MediaSync.Observability.LogNames
import MediaSync.Observability.LogQuery

/-!
# Segments while they are read

What writers have left in the directory of the store when they only seal any
more. A segment is its header and the lines of its events; after them comes what
a write left that did not get to its end, or the footer. A writer that seals a
segment puts the footer to its end and then changes its name, and it does so at
any time: between two queries, between two calls of a query, and while the
directory is listed. A segment whose last write was torn is never sealed.
-/

namespace MediaSync.Observability

open Python JsonText Events
open Program (Answers)

/-- How far its writer has got with a segment. -/
inductive Stage where
  | written | footed | sealed
  deriving DecidableEq

def Stage.rank : Stage → Nat
  | written => 0
  | footed => 1
  | sealed => 2

/-- The line of an event, with its line feed. -/
def IsLine (line : Text) : Prop :=
  ∃ t, line = t ++ ['\n'] ∧ '\n' ∉ t ∧ line.length ≤ maxEventBytes

section

variable (host : LogHost) (marker : Marker)

structure StoredSegment where
  header : SegmentHeader
  lines : List Text
  /-- What a write left that did not get to its end. -/
  tail : Text
  ident : Nat
  valid : header.Valid
  ofStore : header.storeId = marker.storeId
  whole : ∀ line ∈ lines, IsLine line
  torn : '\n' ∉ tail
  fits : (footerLine host marker.key header.segmentId
    (header.line host marker.key ++ lines.flatten).length lines.length).length ≤ footerReserve
  /-- No file is larger than the file system lets it be. -/
  size : (header.line host marker.key ++ lines.flatten).length < 2 ^ 63

/-- A segment whose header was not written to its end. -/
structure StubSegment where
  header : SegmentHeader
  content : Text
  ident : Nat
  unreadable : readHeader host marker.storeId marker.key (stamp header.createdAt) header.writerId
    header.segmentId (readLine (footerReserve + 1) content) = none

structure Shelf where
  /-- In the order of their names. -/
  segments : List (StoredSegment host marker)
  stubs : List (StubSegment host marker)
  ordered : segments.Pairwise (fun s t => s.header.stemText < t.header.stemText)
  apart : ∀ s ∈ segments, ∀ b ∈ stubs, s.header.stemText ≠ b.header.stemText
  distinct : stubs.Pairwise (fun b c => b.header.stemText ≠ c.header.stemText)
  idents : (segments.map StoredSegment.ident ++ stubs.map StubSegment.ident).Nodup

end

variable {host : LogHost} {marker : Marker}

namespace StoredSegment

variable (s : StoredSegment host marker)

def headerLine : Text := s.header.line host marker.key

/-- What was written of the segment before anything else came after it. -/
def body : Text := s.headerLine ++ s.lines.flatten

def footer : Text :=
  footerLine host marker.key s.header.segmentId s.body.length s.lines.length

/-- What comes after the events. -/
def ending : Stage → Text
  | .written => s.tail
  | _ => s.footer

/-- Where the line with this index starts. -/
def position (i : Nat) : Nat := (s.headerLine ++ (s.lines.take i).flatten).length

end StoredSegment

section

variable (s : StoredSegment host marker)

@[simp] theorem StoredSegment.position_zero : s.position 0 = s.headerLine.length := by
  simp [StoredSegment.position]

theorem StoredSegment.position_succ {i : Nat} (hi : i < s.lines.length) :
    s.position (i + 1) = s.position i + s.lines[i].length := by
  simp only [StoredSegment.position, List.take_succ_eq_append_getElem hi, List.flatten_append,
    List.length_append, List.flatten_singleton, Nat.add_assoc]

theorem StoredSegment.drop_position (i : Nat) (rest : Text) :
    (s.body ++ rest).drop (s.position i) = (s.lines.drop i).flatten ++ rest := by
  have hbody : s.body ++ rest =
      (s.headerLine ++ (s.lines.take i).flatten) ++ ((s.lines.drop i).flatten ++ rest) := by
    rw [StoredSegment.body, List.append_assoc, List.append_assoc, ← List.append_assoc
      (s.lines.take i).flatten, ← List.flatten_append, List.take_append_drop]
  rw [hbody, StoredSegment.position, List.drop_left]

theorem StoredSegment.body_length (i : Nat) :
    s.body.length = s.position i + (s.lines.drop i).flatten.length := by
  have hbody : s.body = (s.headerLine ++ (s.lines.take i).flatten) ++ (s.lines.drop i).flatten := by
    rw [StoredSegment.body, List.append_assoc, ← List.flatten_append, List.take_append_drop]
  rw [hbody, List.length_append, StoredSegment.position]

theorem StoredSegment.position_le (i : Nat) : s.position i ≤ s.body.length := by
  rw [s.body_length i]
  exact Nat.le_add_right _ _

theorem IsLine.read {line : Text} (h : IsLine line) (rest : Text) {limit : Nat}
    (hlimit : line.length ≤ limit) : readLine limit (line ++ rest) = line := by
  obtain ⟨t, rfl, ht, -⟩ := h
  rw [List.append_assoc, List.singleton_append]
  refine readLine_line (fun c hc => ?_) ?_
  · rintro rfl
    exact ht hc
  · rw [List.length_append, List.length_singleton] at hlimit
    exact hlimit

theorem IsLine.ends {line : Text} (h : IsLine line) : line.getLast? = some '\n' := by
  obtain ⟨t, rfl, -, -⟩ := h
  simp

theorem IsLine.length_pos {line : Text} (h : IsLine line) : 0 < line.length := by
  obtain ⟨t, rfl, -, -⟩ := h
  simp

theorem IsLine.fits {line : Text} (h : IsLine line) : line.length ≤ maxEventBytes := by
  obtain ⟨t, -, -, hlen⟩ := h
  exact hlen

/-- Where there is no line feed, no line is read to its end. -/
theorem readLine_torn {t : Text} (ht : '\n' ∉ t) (limit : Nat) :
    (readLine limit t).getLast? ≠ some '\n' := by
  intro hlast
  have hmem := List.mem_of_mem_take (List.mem_of_getLast? hlast)
  rw [if_neg ht, List.append_nil] at hmem
  exact ht ((List.takeWhile_prefix _).subset hmem)

theorem StoredSegment.footer_isLine : IsLine s.footer := by
  refine ⟨signedText host marker.key
    (footerPayload s.header.segmentId s.body.length s.lines.length), rfl, fun h => ?_, ?_⟩
  · exact ne_lineFeed (signedText_printable _ _ _ h) rfl
  · exact Nat.le_trans s.fits (by decide)

end

/-- A file of the directory. -/
structure ShelfFile where
  name : LogName
  ident : Nat
  content : Text

def StoredSegment.file (s : StoredSegment host marker) (stage : Stage) : ShelfFile :=
  ⟨s.header.name (stage = .sealed), s.ident, s.body ++ s.ending stage⟩

def StubSegment.file (b : StubSegment host marker) : ShelfFile :=
  ⟨b.header.name false, b.ident, b.content⟩

namespace Shelf

variable (shelf : Shelf host marker)

/-- How far the writers have got. -/
structure State where
  stage : Nat → Stage
  torn : ∀ s ∈ shelf.segments, s.tail ≠ [] → stage s.ident = .written

variable {shelf}

def State.stageOf (t : shelf.State) (s : StoredSegment host marker) : Stage := t.stage s.ident

/-- What writers do to it: they seal their segments. -/
def Later (t u : shelf.State) : Prop := ∀ i, (t.stage i).rank ≤ (u.stage i).rank

theorem Later.refl (t : shelf.State) : Later t t := fun _ => Nat.le_refl _

theorem Later.trans {t u v : shelf.State} (h : Later t u) (h' : Later u v) : Later t v :=
  fun i => Nat.le_trans (h i) (h' i)

namespace State

variable (t : shelf.State)

def files : List ShelfFile :=
  shelf.segments.map (fun s => s.file (t.stageOf s)) ++ shelf.stubs.map StubSegment.file

def names : List LogName := .marker :: .lock :: t.files.map ShelfFile.name

def named (name : LogName) : Option ShelfFile := t.files.find? (fun f => f.name = name)

def withIdent (ident : Nat) : Option ShelfFile := t.files.find? (fun f => f.ident = ident)

end State

/-- What `os.scandir` lists while the directory changes: the names that stay, and of the others any
that were there before or after. So a segment that gets its other name meanwhile may be listed under
one of the two, under both or under none. -/
structure Listed (t u : shelf.State) (ns : List LogName) : Prop where
  once : ns.Nodup
  few : ns.length ≤ maxEntries
  stays : ∀ n ∈ t.names, n ∈ u.names → n ∈ ns
  known : ∀ n ∈ ns, n ∈ t.names ∨ n ∈ u.names

/-- What a call returns when it is answered, with the directory before and after it. The names come
in any order, unless there are too many of them or the time is up. -/
def Told (t u : shelf.State) : (c : QueryCall) → c.Reply → Prop
  | .prepare => fun r => r = .ok marker
  | .names => fun r => r = .error (.code .scanLimited) ∨ ∃ ns, r = .ok ns ∧ Listed t u ns
  | .details .marker => fun r => r.isSome
  | .details .lock => fun r => r.isSome
  | .details name => fun r => r = (u.named name).map (fun f => ⟨f.content.length, f.ident⟩)
  | .load name => fun r => r = (u.named name).map ShelfFile.content
  | .openRead name => fun r => r = (u.named name).map ShelfFile.ident
  | .readLine ident offset limit => fun r =>
    r = (u.withIdent ident).map (fun f => readLine limit (f.content.drop offset))
  | .late => fun _ => True

/-- What a call returns that is not answered. -/
def Fails : (c : QueryCall) → c.Reply → Prop
  | .prepare => fun r => ∃ e, r = .error e
  | .names => fun r => ∃ e, r = .error e
  | .details _ => fun r => r = none
  | .load _ => fun r => r = none
  | .openRead _ => fun r => r = none
  | .readLine _ _ _ => fun r => r = none
  | .late => fun _ => False

/-- Writers go on sealing, and a call may fail. -/
def answers (shelf : Shelf host marker) : Answers QueryCall QueryCall.Reply shelf.State :=
  fun c t r u => Later t u ∧ (Told t u c r ∨ Fails c r)

theorem mem_files {t : shelf.State} {f : ShelfFile} :
    f ∈ t.files ↔ (∃ s ∈ shelf.segments, s.file (t.stageOf s) = f) ∨
      ∃ b ∈ shelf.stubs, b.file = f := by
  simp only [State.files, List.mem_append, List.mem_map]

theorem stem_of_name {g h : SegmentHeader} {b c : Bool} (heq : g.name b = h.name c) :
    g.stemText = h.stemText ∧ b = c := by
  simp only [SegmentHeader.name, LogName.segment.injEq] at heq
  obtain ⟨htime, hwriter, hsegment, hsealed⟩ := heq
  exact ⟨by rw [SegmentHeader.stemText, SegmentHeader.stemText, htime, hwriter, hsegment], hsealed⟩

theorem eq_of_stem {s s' : StoredSegment host marker} (hs : s ∈ shelf.segments)
    (hs' : s' ∈ shelf.segments) (h : s.header.stemText = s'.header.stemText) : s = s' := by
  have hnodup : (shelf.segments.map fun s => s.header.stemText).Nodup := by
    rw [List.Nodup, List.pairwise_map]
    refine shelf.ordered.imp fun hlt heq => ?_
    rw [heq] at hlt
    exact List.lt_irrefl _ hlt
  exact List.inj_on_of_nodup_map hnodup hs hs' h

/-- The file with a name that a segment has had is the segment, if it still has the name. -/
theorem named_segment {t : shelf.State} {s : StoredSegment host marker} (hs : s ∈ shelf.segments)
    {b : Bool} {f : ShelfFile} (hf : t.named (s.header.name b) = some f) :
    f = s.file (t.stageOf s) ∧ (b = true ↔ t.stageOf s = .sealed) := by
  have hname : f.name = s.header.name b := by simpa using List.find?_some hf
  rcases mem_files.1 (List.mem_of_find?_eq_some hf) with ⟨s', hs', rfl⟩ | ⟨b', hb', rfl⟩
  · obtain ⟨hstem, hsealed⟩ := stem_of_name hname
    cases eq_of_stem hs' hs hstem
    refine ⟨rfl, ?_⟩
    rw [← hsealed]
    exact decide_eq_true_iff
  · exact absurd (stem_of_name hname).1.symm (shelf.apart s hs b' hb')

/-- The file with a name that a stub has is a stub. -/
theorem named_stub {t : shelf.State} {b : StubSegment host marker} (hb : b ∈ shelf.stubs)
    {f : ShelfFile} (hf : t.named (b.header.name false) = some f) :
    ∃ b' ∈ shelf.stubs, f = b'.file ∧ b'.header.name false = b.header.name false := by
  have hname : f.name = b.header.name false := by simpa using List.find?_some hf
  rcases mem_files.1 (List.mem_of_find?_eq_some hf) with ⟨s, hs, rfl⟩ | ⟨b', hb', rfl⟩
  · exact absurd (stem_of_name hname).1 (shelf.apart s hs b hb)
  · exact ⟨b', hb', rfl, hname⟩

theorem file_name (s : StoredSegment host marker) (stage : Stage) :
    (s.file stage).name = s.header.name (stage = .sealed) := rfl

theorem mem_names {t : shelf.State} {n : LogName} :
    n ∈ t.names ↔ n = .marker ∨ n = .lock ∨
      (∃ s ∈ shelf.segments, s.header.name (t.stageOf s = .sealed) = n) ∨
        ∃ b ∈ shelf.stubs, b.header.name false = n := by
  simp only [State.names, List.mem_cons, State.files, List.map_append, List.map_map,
    List.mem_append, List.mem_map, Function.comp_apply, file_name]
  rfl

/-- The name of a segment that is listed is the one it has. -/
theorem segment_mem_names {t : shelf.State} {s : StoredSegment host marker}
    (hs : s ∈ shelf.segments) {b : Bool} :
    s.header.name b ∈ t.names ↔ (b = true ↔ t.stageOf s = .sealed) := by
  rw [mem_names]
  constructor
  · rintro (h | h | ⟨s', hs', h⟩ | ⟨b', hb', h⟩)
    · cases h
    · cases h
    · obtain ⟨hstem, rfl⟩ := stem_of_name h
      cases eq_of_stem hs' hs hstem
      exact decide_eq_true_iff
    · exact absurd (stem_of_name h).1.symm (shelf.apart s hs b' hb')
  · intro h
    have hb : decide (t.stageOf s = .sealed) = b :=
      Bool.eq_iff_iff.2 (decide_eq_true_iff.trans h.symm)
    exact .inr (.inr (.inl ⟨s, hs, congrArg s.header.name hb⟩))

theorem stub_mem_names (t : shelf.State) {b : StubSegment host marker} (hb : b ∈ shelf.stubs) :
    b.header.name false ∈ t.names :=
  mem_names.2 (.inr (.inr (.inr ⟨b, hb, rfl⟩)))

theorem segment_nodup : shelf.segments.Nodup := by
  refine shelf.ordered.imp fun hlt heq => ?_
  rw [heq] at hlt
  exact List.lt_irrefl _ hlt

theorem stub_nodup : shelf.stubs.Nodup :=
  shelf.distinct.imp fun hne heq => hne (congrArg (fun b => b.header.stemText) heq)

theorem idents_files (t : shelf.State) : (t.files.map ShelfFile.ident).Nodup := by
  have h := shelf.idents
  simp only [State.files, List.map_append, List.map_map]
  exact h

theorem withIdent_segment {t : shelf.State} {s : StoredSegment host marker}
    (hs : s ∈ shelf.segments) : t.withIdent s.ident = some (s.file (t.stageOf s)) := by
  have hmem : s.file (t.stageOf s) ∈ t.files := mem_files.2 (.inl ⟨s, hs, rfl⟩)
  cases hf : t.withIdent s.ident with
  | none =>
    have hident : (s.file (t.stageOf s)).ident = s.ident := rfl
    exact absurd (decide_eq_true hident) (List.find?_eq_none.1 hf _ hmem)
  | some f =>
    have hident : f.ident = s.ident := by simpa using List.find?_some hf
    exact congrArg some (List.inj_on_of_nodup_map (idents_files t) (List.mem_of_find?_eq_some hf)
      hmem hident)

end Shelf

end MediaSync.Observability
