import MediaSync.Observability.LogRuns

/-!
# Paging to the end

Queries in a row, each with the cursor of the one before, any limits, and
segments that are sealed meanwhile. Where the directory was listed with every
segment and each of them could be read, the events of their pages are the events
that the filters select, once and in order; there are no more pages than lines to
read; and a query that nothing disturbs always gives the next page.
-/

namespace MediaSync.Observability

open Python JsonText Events
open Program Observability.Shelf

variable {host : QueryHost} {marker : Marker} {shelf : Shelf host.toLogHost marker}

section

variable {key : Text} {values : Fields} {selected : Filters} {limit i : Nat}
  {cursor : Option Text} {rest : List (StoredSegment host.toLogHost marker)}
  {t u : shelf.State} {h : List (Exchange QueryCall QueryCall.Reply)}

theorem asUnavailable_fails {A : Answers QueryCall QueryCall.Reply shelf.State} (e : QueryError)
    (page : LogQuery.Page) : ¬ Executes A (LogQuery.asUnavailable e) t h (.ok page) u := by
  intro hrun
  cases e with
  | other => cases (executes_throw.1 hrun).2.1
  | code which => cases (executes_throw.1 hrun).2.1
  | queryInvalid => cases (executes_throw.1 hrun).2.1
  | cursorInvalid => cases (executes_throw.1 hrun).2.1
  | cursorStale => cases (executes_throw.1 hrun).2.1

/-- A query that gives a page has read it. -/
theorem query_readPage {A : Answers QueryCall QueryCall.Reply shelf.State} {page : LogQuery.Page}
    (hvalues : filters values = some selected)
    (hrun : Executes A (LogQuery.query host key limit cursor values) t h (.ok page) u) :
    Executes A (LogQuery.readPage host limit selected key cursor) t h (.ok page) u := by
  rw [LogQuery.query, hvalues] at hrun
  obtain ⟨_, t₁, h₁, h₂, rfl, hreq, hafter⟩ := executes_bind_ok.1 hrun
  obtain ⟨rfl, -, rfl⟩ := executes_require_ok.1 hreq
  obtain ⟨found, t₂, h₃, h₄, rfl, hfilters, hpage⟩ := executes_bind_ok.1 hafter
  obtain ⟨rfl, hfound, rfl⟩ := executes_done.1 hfilters
  cases hfound
  exact (executes_catching_ok fun e _ _ _ => asUnavailable_fails e page).1 hpage

theorem query_turned (hhost : host.toCursorHost.Lawful) (hselected : Selected selected)
    (hvalues : filters values = some selected)
    (hstands : Stands shelf key selected rest i cursor) {page : LogQuery.Page}
    (hrun : Executes shelf.answers (LogQuery.query host key limit cursor values) t h (.ok page) u)
    (hlists : Lists shelf h) (hall : page.coverage.unavailableSegments = shelf.stubs.length) :
    Turned shelf key selected rest i page (reads h) :=
  readPage_turned hhost hselected hstands (query_readPage hvalues hrun) hlists hall

end

/-! ## Pages -/

/-- A page with the calls that were made for it. -/
abbrev PageRead := LogQuery.Page × List (Exchange QueryCall QueryCall.Reply)

/-- Queries in a row with the same filters: the first without a cursor, each of the others with
the cursor of the one before. Writers go on sealing during them and between them. -/
inductive Pages (shelf : Shelf host.toLogHost marker) (key : Text) (values : Fields) :
    Option Text → List PageRead → shelf.State → Prop
  | start (t : shelf.State) : Pages shelf key values none [] t
  | next {cursor : Option Text} {ps : List PageRead} {t t' u : shelf.State} {limit : Nat}
      {page : LogQuery.Page} {h : List (Exchange QueryCall QueryCall.Reply)} :
      Pages shelf key values cursor ps t → (ps = [] ∨ cursor.isSome = true) → Later t t' →
      Executes shelf.answers (LogQuery.query host key limit cursor values) t' h (.ok page) u →
      Pages shelf key values page.nextCursor (ps ++ [(page, h)]) u

/-- The events of the pages, in their order. -/
def pagedEvents (ps : List PageRead) : List LogRecord := ps.flatMap fun p => p.1.events

def pagedReads (ps : List PageRead) : Nat := (ps.map fun p => reads p.2).sum

/-- Every page that is not the last has read a line. -/
def Advances (ps : List PageRead) : Prop :=
  ∀ p ∈ ps, p.1.nextCursor.isSome = true → 0 < reads p.2

/-- No page has found more unavailable than the files without a header. -/
def FindsAll (shelf : Shelf host.toLogHost marker) (ps : List PageRead) : Prop :=
  ∀ p ∈ ps, p.1.coverage.unavailableSegments = shelf.stubs.length

/-- For every page the directory was listed with every segment. -/
def ListsAll (shelf : Shelf host.toLogHost marker) (ps : List PageRead) : Prop :=
  ∀ p ∈ ps, Lists shelf p.2

/-- How many reads there are in all segments. -/
def Shelf.allReads (shelf : Shelf host.toLogHost marker) : Nat :=
  (shelf.segments.map fun s => s.lines.length + 1).sum

section

variable {key : Text} {values : Fields} {selected : Filters} {cursor : Option Text}
  {ps : List PageRead} {t : shelf.State}

/-- What the pages have come to: the cursor stands for what is left, or nothing is. -/
inductive PagesAccounted (shelf : Shelf host.toLogHost marker) (key : Text) (selected : Filters)
    (cursor : Option Text) (ps : List PageRead) : Prop
  | going (rest : List (StoredSegment host.toLogHost marker)) (i : Nat)
      (stands : Stands shelf key selected rest i cursor)
      (more : ps = [] ∨ cursor.isSome = true)
      (events : pagedEvents ps ++ remaining selected rest i = shelf.events selected)
      (left : readsLeft rest i + pagedReads ps ≤ shelf.allReads)
      (count : Advances ps → ps.length ≤ pagedReads ps)
  | ended (finished : ps ≠ [] ∧ cursor = none)
      (events : pagedEvents ps = shelf.events selected)
      (count : Advances ps → ps.length ≤ shelf.allReads + 1)

theorem FindsAll.snoc {page : LogQuery.Page} {h : List (Exchange QueryCall QueryCall.Reply)}
    (hall : FindsAll shelf ps) (hpage : page.coverage.unavailableSegments = shelf.stubs.length) :
    FindsAll shelf (ps ++ [(page, h)]) := by
  intro p hp
  rcases List.mem_append.1 hp with hp | hp
  · exact hall p hp
  · rw [List.mem_singleton.1 hp]
    exact hpage

theorem ListsAll.snoc {page : LogQuery.Page} {h : List (Exchange QueryCall QueryCall.Reply)}
    (hlists : ListsAll shelf ps) (hpage : Lists shelf h) :
    ListsAll shelf (ps ++ [(page, h)]) := by
  intro p hp
  rcases List.mem_append.1 hp with hp | hp
  · exact hlists p hp
  · rw [List.mem_singleton.1 hp]
    exact hpage

theorem pagedEvents_snoc (ps : List PageRead) (p : PageRead) :
    pagedEvents (ps ++ [p]) = pagedEvents ps ++ p.1.events := by
  simp [pagedEvents]

theorem pagedReads_snoc (ps : List PageRead) (p : PageRead) :
    pagedReads (ps ++ [p]) = pagedReads ps + reads p.2 := by
  simp [pagedReads]

theorem accounted_start : PagesAccounted shelf key selected none [] := by
  refine .going shelf.segments 0 ⟨rfl, rfl⟩ (.inl rfl) ?_ ?_ fun _ => Nat.zero_le _
  · exact remaining_zero shelf.segments
  · rw [readsLeft_zero]
    exact Nat.le_refl _

/-- A page keeps the account. -/
theorem PagesAccounted.next {page : LogQuery.Page} {h : List (Exchange QueryCall QueryCall.Reply)}
    {rest : List (StoredSegment host.toLogHost marker)} {i : Nat}
    (hevents : pagedEvents ps ++ remaining selected rest i = shelf.events selected)
    (hleft : readsLeft rest i + pagedReads ps ≤ shelf.allReads)
    (hcount : Advances ps → ps.length ≤ pagedReads ps)
    (hturned : Turned shelf key selected rest i page (reads h)) :
    PagesAccounted shelf key selected page.nextCursor (ps ++ [(page, h)]) := by
  have hadvances : Advances (ps ++ [(page, h)]) → Advances ps := fun hadv p hp =>
    hadv p (List.mem_append_left _ hp)
  rcases hturned with ⟨hnone, hpage⟩ | ⟨rest', j, hsome, hstands, hpage, hreads⟩
  · refine .ended ⟨by simp, hnone⟩ ?_ fun hadv => ?_
    · rw [pagedEvents_snoc, hpage, hevents]
    · have := hcount (hadvances hadv)
      rw [List.length_append, List.length_singleton]
      omega
  · refine .going rest' j hstands (.inr hsome) ?_ ?_ fun hadv => ?_
    · rw [pagedEvents_snoc, List.append_assoc, hpage, hevents]
    · rw [pagedReads_snoc]
      dsimp only
      omega
    · have hlast : 0 < reads h := hadv (page, h) (by simp) hsome
      have := hcount (hadvances hadv)
      rw [List.length_append, List.length_singleton, pagedReads_snoc]
      dsimp only
      omega

theorem Pages.accounted (hhost : host.toCursorHost.Lawful) (hselected : Selected selected)
    (hvalues : filters values = some selected) (hpages : Pages shelf key values cursor ps t)
    (hlists : ListsAll shelf ps) (hall : FindsAll shelf ps) :
    PagesAccounted shelf key selected cursor ps := by
  induction hpages with
  | start t => exact accounted_start
  | @next cursor ps t t' u limit page h _ hmore _ hrun ih =>
    have hbefore := ih (fun p hp => hlists p (List.mem_append_left _ hp))
      fun p hp => hall p (List.mem_append_left _ hp)
    have hlast : (page, h) ∈ ps ++ [(page, h)] :=
      List.mem_append_right _ (List.mem_singleton_self _)
    cases hbefore with
    | going rest i hstands _ hevents hleft hcount =>
      exact .next hevents hleft hcount
        (query_turned hhost hselected hvalues hstands hrun (hlists _ hlast) (hall _ hlast))
    | ended hover _ _ =>
      rcases hmore with rfl | hsome
      · exact absurd rfl hover.1
      · rw [hover.2] at hsome
        cases hsome

end

/-- What a call returns that is answered, in the order of the shelf; the directory changes from the
one state to the other. -/
def Shelf.State.reply (t u : shelf.State) : (c : QueryCall) → c.Reply
  | .prepare => .ok marker
  | .names =>
    if t.names.length ≤ maxEntries then .ok (t.names.filter (· ∈ u.names))
    else .error (.code .scanLimited)
  | .details .marker => some ⟨0, 0⟩
  | .details .lock => some ⟨0, 0⟩
  | .details name => (u.named name).map fun f => ⟨f.content.length, f.ident⟩
  | .load name => (u.named name).map ShelfFile.content
  | .openRead name => (u.named name).map ShelfFile.ident
  | .readLine ident offset limit =>
    (u.withIdent ident).map fun f => readLine limit (f.content.drop offset)
  | .late => false

namespace PagingSample

/-- As long as base64, with the text at its start and its length at its end. -/
def encode (t : Text) : Text :=
  if t = [] then []
  else t ++ List.replicate (4 * ((t.length + 2) / 3) - t.length - 1) '=' ++
    [if 3 * ((t.length + 2) / 3) - t.length = 0 then '0'
      else if 3 * ((t.length + 2) / 3) - t.length = 1 then '1' else '2']

def decode (t : Text) : Option Text :=
  some (t.take (3 * (t.length / 4) -
    if t.getLast? = some '0' then 0 else if t.getLast? = some '1' then 1 else 2))

def mac : String := "0123456789abcdef0123456789abcdef0123456789abcdef0123456789abcdef"

theorem mac_isHexKey : isHexKey mac = true := by decide +kernel

def sampleHost : QueryHost where
  loads := parser.load
  sign _ _ := mac
  digest _ _ := List.replicate 32 '#'
  encode64 := encode
  decode64 := decode
  policy := ⟨fun _ => true, fun _ => true⟩

theorem encode_length (t : Text) : (encode t).length = 4 * ((t.length + 2) / 3) := by
  by_cases ht : t = []
  · subst ht
    rfl
  · have hpos : 0 < t.length := List.length_pos_iff.2 ht
    rw [encode, if_neg ht]
    simp only [List.length_append, List.length_replicate, List.length_singleton]
    omega

theorem decode_encode (t : Text) : decode (encode t) = some t := by
  by_cases ht : t = []
  · subst ht
    rfl
  · have hpos : 0 < t.length := List.length_pos_iff.2 ht
    have hlast : (encode t).getLast? =
        some (if 3 * ((t.length + 2) / 3) - t.length = 0 then '0'
          else if 3 * ((t.length + 2) / 3) - t.length = 1 then '1' else '2') := by
      rw [encode, if_neg ht, List.getLast?_append]
      rfl
    have htake : 3 * ((encode t).length / 4) -
        (if (encode t).getLast? = some '0' then 0
          else if (encode t).getLast? = some '1' then 1 else 2) = t.length := by
      rw [encode_length, hlast]
      split_ifs <;> simp_all <;> omega
    rw [decode, htake, encode, if_neg ht, List.append_assoc, List.take_left]

theorem sampleHost_lawful : sampleHost.toCursorHost.Lawful where
  log :=
    { loads_text := parser.load_text
      loads_line := parser.load_line
      sign_hex := fun _ _ => mac_isHexKey }
  decode_encode := decode_encode
  encode_length := encode_length
  digest_length _ _ := List.length_replicate

def sampleMarker : Marker := ⟨"11111111-1111-4111-8111-111111111111", mac⟩

/-- The header of a segment that was begun in this minute. -/
def sampleHeader (minute : String) : SegmentHeader :=
  ⟨"11111111-1111-4111-8111-111111111111", "22222222-2222-4222-8222-222222222222",
    "33333333-3333-4333-8333-333333333333", "2026-01-02T03:" ++ minute ++ ":05.000006Z"⟩

/-- A line of one of the two segments. -/
def sampleLine (level : String) (sequence : Nat) : Text :=
  (Doc.object [("event_code", .string "service_started".toList), ("module", .string "api".toList),
    ("level", .string level.toList), ("schema_version", .number 1),
    ("timestamp", .string "2026-01-02T03:04:05.000007Z".toList),
    ("writer_id", .string "22222222-2222-4222-8222-222222222222".toList),
    ("sequence", .number sequence)]).text ++ ['\n']

theorem sampleLine_isLine {level : String} {sequence : Nat}
    (hlength : (sampleLine level sequence).length ≤ maxEventBytes) :
    IsLine (sampleLine level sequence) :=
  ⟨_, rfl, fun h => ne_lineFeed (Doc.printable _ _ h) rfl, hlength⟩

def sampleLines (ls : List (String × Nat)) : List Text := ls.map fun l => sampleLine l.1 l.2

theorem whole_lines {ls : List (String × Nat)}
    (hlength : ∀ l ∈ ls, (sampleLine l.1 l.2).length ≤ maxEventBytes) :
    ∀ line ∈ sampleLines ls, IsLine line := by
  intro line hline
  obtain ⟨l, hl, rfl⟩ := List.mem_map.1 hline
  exact sampleLine_isLine (hlength l hl)

/-- The second of its events is none that the filter selects. -/
def firstSegment : StoredSegment sampleHost.toLogHost sampleMarker where
  header := sampleHeader "04"
  lines := sampleLines [("info", 1), ("debug", 2)]
  tail := []
  ident := 7
  valid := ⟨by decide +kernel, by decide +kernel, by decide +kernel, by decide +kernel⟩
  ofStore := rfl
  whole := whole_lines (by decide +kernel)
  torn := by simp
  fits := by decide +kernel
  size := by decide +kernel

/-- A second event was not written to its end. -/
def secondSegment : StoredSegment sampleHost.toLogHost sampleMarker where
  header := sampleHeader "05"
  lines := sampleLines [("info", 3)]
  tail := ['\x7b']
  ident := 8
  valid := ⟨by decide +kernel, by decide +kernel, by decide +kernel, by decide +kernel⟩
  ofStore := rfl
  whole := whole_lines (by decide +kernel)
  torn := by decide
  fits := by decide +kernel
  size := by decide +kernel

def stub : StubSegment sampleHost.toLogHost sampleMarker where
  header := sampleHeader "06"
  content := ['\x7b']
  ident := 9
  unreadable := by decide +kernel

def sampleShelf : Shelf sampleHost.toLogHost sampleMarker where
  segments := [firstSegment, secondSegment]
  stubs := [stub]
  ordered := by
    refine List.pairwise_pair.2 ?_
    decide +kernel
  apart := by decide +kernel
  distinct := List.pairwise_singleton _ _
  idents := by decide

/-- The first segment is in this stage. -/
def sampleState (stage : Stage) : sampleShelf.State where
  stage ident := if ident = 7 then stage else .written
  torn s hs htail := by
    rcases List.mem_cons.1 hs with rfl | hs
    · exact absurd rfl htail
    · rw [List.mem_singleton.1 hs]
      rfl

def sampleFilter : Fields := [("level", .str "info")]

def selected : Filters := [("level", "info")]

/-- What the pages show: how many events, whether there is a cursor, and what was unavailable. -/
def shown (page : LogQuery.Page) : Nat × Bool × Nat :=
  (page.events.length, page.nextCursor.isSome, page.coverage.unavailableSegments)

/-- Nothing happens during the query. -/
def calmly {shelf : Shelf sampleHost.toLogHost sampleMarker} (c : QueryCall) (t : shelf.State) :
    c.Reply × shelf.State :=
  (t.reply t c, t)

/-- Queries in a row, each with its limit, while the first segment is in this stage. -/
def turn : List (Nat × Stage) → Option Text → List LogQuery.Page
  | [], _ => []
  | (limit, stage) :: rest, cursor =>
    match (run calmly (LogQuery.query sampleHost [] limit cursor sampleFilter)
      (sampleState stage)).1 with
    | .error _ => []
    | .ok page => page :: if page.nextCursor.isSome then turn rest page.nextCursor else []

end PagingSample

namespace PagingSample

def smallShelf : Shelf sampleHost.toLogHost sampleMarker where
  segments := [firstSegment]
  stubs := []
  ordered := List.pairwise_singleton _ _
  apart := by simp
  distinct := .nil
  idents := by simp

def smallState (stage : Stage) : smallShelf.State where
  stage _ := stage
  torn s hs htail := by
    rw [List.mem_singleton.1 hs] at htail
    exact absurd rfl htail

/-- During these calls the writer puts the footer to the segment and seals it. -/
def sealing (during : QueryCall → Bool) (c : QueryCall) (t : smallShelf.State) :
    smallShelf.State :=
  if during c then smallState .sealed else t

def answer (during : QueryCall → Bool) (c : QueryCall) (t : smallShelf.State) :
    c.Reply × smallShelf.State :=
  (t.reply (sealing during c t) c, sealing during c t)

end PagingSample

end MediaSync.Observability
