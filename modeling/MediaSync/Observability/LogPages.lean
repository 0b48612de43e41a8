import MediaSync.Observability.LogScan
import MediaSync.Observability.LogTokens

/-!
# Pages one after the other

A query goes on where the one before it has ended, also when the segment that the
cursor names has been sealed since. While the directory is listed with every segment
and no page finds more unavailable than the files without a header, the pages
together are the events that the filters select, in the order of the segments, each
once.
-/

namespace MediaSync.Observability

open Python JsonText Events
open Program Observability.Shelf

variable {host : QueryHost} {marker : Marker} {shelf : Shelf host.toLogHost marker}

section

variable (shelf) in
/-- The cursor stands for what is left of the segments, from a line of the first one on. -/
def Stands (key : Text) (selected : Filters) (rest : List (StoredSegment host.toLogHost marker))
    (i : Nat) : Option Text → Prop
  | none => rest = shelf.segments ∧ i = 0
  | some token => ∃ front s more isSealed, shelf.segments = front ++ s :: more ∧
    rest = s :: more ∧ i ≤ s.lines.length ∧ token = LogCursor.token host.toCursorHost key
      ⟨(s.header.name isSealed).text, s.position i, selected, marker.storeId⟩

variable {t₀ t : shelf.State}

/-- The names that are before the segment in the list are not its own. -/
theorem resumeAt_views {s : StoredSegment host.toLogHost marker}
    {front more : List (StoredSegment host.toLogHost marker)} {vs : List (LogSegment × Nat)}
    (hviews : List.Forall₂ (View t₀ t) (front ++ s :: more) vs)
    (hfront : ∀ f ∈ front, f.header.stemText ≠ s.header.stemText) (isSealed : Bool) :
    ∃ left, LogQuery.resumeAt (s.header.name isSealed).text vs = some left ∧
      List.Forall₂ (View t₀ t) (s :: more) left := by
  induction front generalizing vs with
  | nil =>
    rw [List.nil_append] at hviews
    obtain ⟨v, vs, hview, -, rfl⟩ := List.forall₂_cons_left_iff.1 hviews
    obtain ⟨w, -, -, hname⟩ := hview.name
    refine ⟨v :: vs, ?_, hviews⟩
    rw [LogQuery.resumeAt, if_pos]
    rw [hname, StoredSegment.file, SegmentHeader.stem_name, SegmentHeader.stem_name]
  | cons f front ih =>
    rw [List.cons_append] at hviews
    obtain ⟨v, vs, hview, hothers, rfl⟩ := List.forall₂_cons_left_iff.1 hviews
    obtain ⟨w, -, -, hname⟩ := hview.name
    obtain ⟨left, hleft, hrest⟩ := ih hothers fun f hf => hfront f (List.mem_cons_of_mem _ hf)
    refine ⟨left, ?_, hrest⟩
    rw [LogQuery.resumeAt, if_neg, hleft]
    rw [hname, StoredSegment.file, SegmentHeader.stem_name, SegmentHeader.stem_name]
    exact hfront f List.mem_cons_self

variable {key : Text} {selected : Filters} {rest : List (StoredSegment host.toLogHost marker)}
  {i : Nat} {cursor : Option Text}

theorem made_cursor (hselected : Selected selected) (s : StoredSegment host.toLogHost marker)
    (isSealed : Bool) (i : Nat) : LogCursor.Made
      ⟨(s.header.name isSealed).text, s.position i, selected, marker.storeId⟩ where
  header := ⟨s.header, s.valid, isSealed, rfl⟩
  offset := Nat.lt_of_le_of_lt (s.position_le i) s.size
  filters := hselected
  storeId := by
    have h := s.valid.store
    rw [s.ofStore] at h
    exact h

/-- The query goes on where the cursor says. -/
theorem resume_views (hhost : host.toCursorHost.Lawful) (hselected : Selected selected)
    (hstands : Stands shelf key selected rest i cursor) {vs : List (LogSegment × Nat)}
    (hviews : List.Forall₂ (View t₀ t) shelf.segments vs) :
    ∃ offset left, LogQuery.resume host selected key marker vs cursor = .ok (offset, left) ∧
      Begins offset rest i ∧ List.Forall₂ (View t₀ t) rest left := by
  cases cursor with
  | none =>
    obtain ⟨rfl, rfl⟩ := hstands
    exact ⟨none, vs, rfl, .inl ⟨rfl, rfl⟩, hviews⟩
  | some token =>
    obtain ⟨front, s, more, isSealed, hsegments, rfl, hi, rfl⟩ := hstands
    have hordered := shelf.ordered
    rw [hsegments] at hordered hviews
    obtain ⟨left, hleft, hrest⟩ := resumeAt_views hviews (fun f hf heq => by
      have hlt := (List.pairwise_append.1 hordered).2.2 f hf s List.mem_cons_self
      rw [heq] at hlt
      exact List.lt_irrefl _ hlt) isSealed
    refine ⟨some (s.position i), left, ?_, .inr ⟨s, more, rfl, rfl, hi⟩, hrest⟩
    have hdecode := LogCursor.decode_token hhost key (made_cursor hselected s isSealed i)
    rw [LogQuery.resume, hdecode]
    dsimp only
    rw [hleft]

end

/-- The program reads no line of an event. -/
def Unread {α : Type} (m : QueryProg α) : Prop :=
  Yields (fun c => c.isRead = false) (fun _ => True) m

theorem Unread.bind {α β : Type} {m : QueryProg α} {f : α → QueryProg β} (hm : Unread m)
    (hf : ∀ a, Unread (f a)) : Unread (m >>= f) :=
  Yields.bind hm (fun a _ => hf a) fun _ _ => trivial

theorem unread_done {α : Type} (r : Except QueryError α) : Unread (.done r) := trivial

theorem unread_require (b : Bool) (e : QueryError) : Unread (Prog.require b e) := by
  cases b with
  | true => exact trivial
  | false => exact trivial

theorem unread_ask {c : QueryCall} (hc : c.isRead = false) : Unread (LogQuery.ask c) :=
  Yields.ask hc fun _ => trivial

theorem unread_attempt {α : Type} {m : QueryProg α} (hm : Unread m) :
    Unread (LogQuery.attempt m) :=
  Yields.catching (hm.bind fun _ => unread_done _) (fun _ _ => trivial)
    fun _ _ => unread_done _

theorem Unread.reads_eq {α : Type} {m : QueryProg α} (hm : Unread m)
    {A : Answers QueryCall QueryCall.Reply shelf.State} {t u : shelf.State}
    {h : List (Exchange QueryCall QueryCall.Reply)} {x : Except QueryError α}
    (hrun : Executes A m t h x u) : reads h = 0 := by
  refine List.countP_eq_zero.2 fun e he => ?_
  rw [(hrun.yields hm).2 e he]
  exact Bool.false_ne_true

theorem unread_segment (host : QueryHost) (marker : Marker) (name : LogName) :
    Unread (LogQuery.segment host marker name) := by
  cases name with
  | segment time writerId segmentId isSealed =>
    rw [LogQuery.segment.eq_def]
    exact ((unread_ask rfl).bind fun _ => unread_done _).bind fun _ =>
      ((unread_ask rfl).bind fun _ => unread_done _).bind fun _ =>
      (unread_done _).bind fun _ => (unread_done _).bind fun _ =>
      ((unread_ask rfl).bind fun _ => unread_done _).bind fun _ =>
      (unread_require _ _).bind fun _ => unread_done _
  | marker => exact unread_done _
  | lock => exact unread_done _
  | foreign name => exact unread_done _

theorem unread_inspect (host : QueryHost) (marker : Marker) (found : LogInventory)
    (name : LogName) : Unread (LogQuery.inspect host marker found name) := by
  rw [LogQuery.inspect]
  refine (unread_ask rfl).bind fun late => (unread_require _ _).bind fun _ =>
    (unread_attempt ((unread_ask rfl).bind fun _ => unread_done _)).bind fun d => ?_
  cases d with
  | none => exact unread_done _
  | some d =>
    refine (unread_attempt (unread_segment host marker name)).bind fun v => ?_
    cases v with
    | none => exact unread_done _
    | some v =>
      cases v with
      | none => exact unread_done _
      | some v => exact unread_done _

theorem unread_inspectAll (host : QueryHost) (marker : Marker) (names : List LogName)
    (found : LogInventory) : Unread (LogQuery.inspectAll host marker found names) := by
  induction names generalizing found with
  | nil => exact unread_done _
  | cons name names ih =>
    rw [LogQuery.inspectAll]
    exact (unread_inspect host marker found name).bind fun next => ih next

theorem unread_inventory (host : QueryHost) (marker : Marker) :
    Unread (LogQuery.inventory host marker) := by
  rw [LogQuery.inventory]
  exact ((unread_ask rfl).bind fun _ => unread_done _).bind fun _ =>
    ((unread_ask rfl).bind fun _ => unread_done _).bind fun _ =>
    ((unread_ask rfl).bind fun _ => unread_done _).bind fun _ =>
    (unread_inspectAll host marker _ _).bind fun _ => unread_done _

section

variable {key : Text} {selected : Filters} {limit i : Nat} {cursor : Option Text}
  {rest : List (StoredSegment host.toLogHost marker)} {t u : shelf.State}
  {h : List (Exchange QueryCall QueryCall.Reply)} {page : LogQuery.Page}

/-- What a page has made of what was left: all of it, or it comes with a cursor for the rest. -/
def Turned (shelf : Shelf host.toLogHost marker) (key : Text) (selected : Filters)
    (rest : List (StoredSegment host.toLogHost marker)) (i : Nat) (page : LogQuery.Page)
    (read : Nat) : Prop :=
  (page.nextCursor = none ∧ page.events = remaining selected rest i) ∨
    ∃ rest' j, page.nextCursor.isSome = true ∧ Stands shelf key selected rest' j page.nextCursor ∧
      page.events ++ remaining selected rest' j = remaining selected rest i ∧
      readsLeft rest' j + read ≤ readsLeft rest i

theorem executes_prepare
    {m : Marker} (hrun : Executes shelf.answers (LogQuery.ask .prepare >>= Prog.ofExcept) t h
      (.ok m) u) : m = marker ∧ reads h = 0 := by
  obtain ⟨r, v, h₁, h₂, rfl, hask, hof⟩ := executes_bind_ok.1 hrun
  obtain ⟨r', rfl, hr, hlater, hans⟩ := executes_ask.1 hask
  cases hr
  obtain ⟨rfl, hr, rfl⟩ := executes_done.1 hof
  refine ⟨?_, rfl⟩
  rcases hans with htold | hfail
  · have hmarker : r = .ok marker := htold
    cases hr.trans hmarker
    rfl
  · obtain ⟨e, he⟩ := hfail
    cases hr.trans he

theorem stands_of_sublist {front more : List (StoredSegment host.toLogHost marker)}
    {s : StoredSegment host.toLogHost marker} {j : Nat} {token : Option Text}
    (hstands : Stands shelf key selected rest i token) (hrest : rest = front ++ s :: more)
    (hj : j ≤ s.lines.length) (isSealed : Bool) :
    Stands shelf key selected (s :: more) j (some (LogCursor.token host.toCursorHost key
      ⟨(s.header.name isSealed).text, s.position j, selected, marker.storeId⟩)) := by
  subst hrest
  cases token with
  | none =>
    obtain ⟨hsegments, -⟩ := hstands
    exact ⟨front, s, more, isSealed, hsegments.symm, rfl, hj, rfl⟩
  | some token =>
    obtain ⟨front', s', more', -, hsegments, hrest, -, -⟩ := hstands
    refine ⟨front' ++ front, s, more, isSealed, ?_, rfl, hj, rfl⟩
    rw [hsegments, ← hrest, List.append_assoc]

theorem stands_mem {token : Option Text} (hstands : Stands shelf key selected rest i token) :
    ∀ s ∈ rest, s ∈ shelf.segments := by
  intro s hs
  cases token with
  | none =>
    obtain ⟨rfl, -⟩ := hstands
    exact hs
  | some token =>
    obtain ⟨front, s', more, -, hsegments, rfl, -, -⟩ := hstands
    rw [hsegments]
    exact List.mem_append_right _ hs

/-- What a page is when every segment was listed and no more than the stubs are unavailable. -/
theorem readPage_turned (hhost : host.toCursorHost.Lawful) (hselected : Selected selected)
    (hstands : Stands shelf key selected rest i cursor)
    (hrun : Executes shelf.answers (LogQuery.readPage host limit selected key cursor) t h
      (.ok page) u) (hlists : Lists shelf h)
    (hall : page.coverage.unavailableSegments = shelf.stubs.length) :
    Turned shelf key selected rest i page (reads h) := by
  rw [LogQuery.readPage] at hrun
  obtain ⟨m, t₁, h₁, h₂, rfl, hprepare, hrun⟩ := executes_bind_ok.1 hrun
  obtain ⟨rfl, hzero⟩ := executes_prepare hprepare
  obtain ⟨found, t₂, h₃, h₄, rfl, hinventory, hrun⟩ := executes_bind_ok.1 hrun
  have hunread := (unread_inventory host m).reads_eq hinventory
  obtain ⟨hle, hviews⟩ := inventory_views hhost.log hinventory
  obtain ⟨⟨offset, left⟩, t₃, h₅, h₆, rfl, hresume, hafter⟩ := executes_bind_ok.1 hrun
  obtain ⟨rfl, hresumed, rfl⟩ := executes_done.1 hresume
  obtain ⟨⟨scan, stopped⟩, t₄, h₇, h₈, rfl, hscan, hpage⟩ := executes_bind_ok.1 hafter
  obtain ⟨rfl, hresult, rfl⟩ := executes_pure.1 hpage
  cases hresult
  have hcount : reads (h₁ ++ (h₃ ++ ([] ++ (h₇ ++ [])))) = reads h₇ := by
    rw [reads_append, reads_append, reads_append, reads_append, hzero, hunread]
    simp [reads]
  rw [hcount]
  have hstubs : found.unavailable = shelf.stubs.length :=
    Nat.le_antisymm (Nat.le_trans (scanSegments_unavailable hscan) (Nat.le_of_eq hall)) hle
  have hlisted : Lists shelf h₃ := fun ns hns =>
    hlists ns (List.mem_append_right _ (List.mem_append_left _ hns))
  obtain ⟨offset', left', hresume', hbegins, hlefts⟩ :=
    resume_views hhost hselected hstands (hviews hlisted hstubs)
  cases hresumed.trans hresume'
  have hreached := scanSegments_reached hhost.log (stands_mem hstands) hlefts hbegins hscan
    (hall.trans hstubs.symm)
  cases stopped with
  | none =>
    obtain ⟨hevents, -⟩ := hreached
    exact .inl ⟨rfl, hevents⟩
  | some stop =>
    obtain ⟨w, p⟩ := stop
    obtain ⟨front, s, more, j, hrest, hj, ⟨isSealed, hname⟩, rfl, hevents, hreads⟩ := hreached
    refine .inr ⟨s :: more, j, rfl, ?_, hevents, hreads⟩
    have hnext := stands_of_sublist hstands hrest hj isSealed
    rw [← hname] at hnext
    exact hnext

end

end MediaSync.Observability
