import MediaSync.Scan.CreatorLimits

/-!
# The cursors that a creator unit carries on

A unit, after any calls that it accepted, has its page cursors from the state
it began with and from the page it was shown. Where those take up to some 18,000
characters as JSON, the state that it proposes is encodable.

At the other end of the scale are cursors of the greatest length that are all
emoji: a page kept as the witness then has no cursor of its own, and a record
can come out exactly at the limit of its writer.
-/

namespace MediaSync.Scan

open JsonText

open BiliScanUnit (bind_ok)

variable {p : CreatorPlatform}

/-- Every cursor of the fields satisfies the predicate; a witness begins at the page cursor. -/
structure CreatorScanFields.Meets (ok : String → Prop) (f : CreatorScanFields p) : Prop where
  page : ok f.pageCursor
  next : ∀ w ∈ f.witness, ok w.nextCursor

theorem CreatorScanState.fields_of_make {f : CreatorScanFields p} {s : CreatorScanState p}
    (h : make f = .ok s) : s.toCreatorScanFields = f := by
  unfold make at h
  split at h
  · cases h
    rfl
  · cases h

namespace CreatorScanUnit

/-- The units that accepted calls lead to from a state, in any order. -/
inductive Reached (s : CreatorScanState p) : CreatorScanUnit p → Prop
  | new {maxItems : Nat} {u : CreatorScanUnit p} : new s maxItems = .ok u → Reached s u
  | act {u v : CreatorScanUnit p} {a : CreatorScanAction p} :
      Reached s u → u.nextAction = .ok (a, v) → Reached s v
  | observe {u v : CreatorScanUnit p} {page : CreatorPage p} :
      Reached s u → u.observePage page = .ok v → Reached s v
  | restrict {u v : CreatorScanUnit p} :
      Reached s u → u.observeAccessRestricted = .ok v → Reached s v
  | store {u v : CreatorScanUnit p} {i : CreatorIdentity p} :
      Reached s u → u.store i = .ok v → Reached s v
  | skip {u v : CreatorScanUnit p} {i : CreatorIdentity p} :
      Reached s u → u.skipUnchanged i = .ok v → Reached s v
  | fail {u v : CreatorScanUnit p} {i : CreatorIdentity p} {accessRestricted : Bool} :
      Reached s u → u.fail i accessRestricted = .ok v → Reached s v

/-- A call that shows no page: the cursors come from before it, or from the unit's page. -/
structure Carried (u v : CreatorScanUnit p) : Prop where
  input : v.inputState = u.inputState
  page : v.page = u.page
  meets : ∀ ok : String → Prop, ok "" → (∀ q ∈ u.page, ok q.nextCursor) →
    u.state.Meets ok → v.state.Meets ok

variable {u v w : CreatorScanUnit p} {page : CreatorPage p}

theorem Carried.refl (u : CreatorScanUnit p) : Carried u u :=
  ⟨rfl, rfl, fun _ _ _ h => h⟩

theorem Carried.trans (h : Carried u v) (k : Carried v w) : Carried u w where
  input := k.input.trans h.input
  page := k.page.trans h.page
  meets ok hempty hpage hu := k.meets ok hempty (h.page ▸ hpage) (h.meets ok hempty hpage hu)

theorem carried_stopped (u : CreatorScanUnit p) (reason : CreatorReason) :
    Carried u (u.stopped reason) :=
  ⟨rfl, rfl, fun _ _ _ h => h⟩

/-- A new state whose cursors come from the old one or from the page. -/
theorem carried_replace {f : CreatorScanFields p} (h : u.replace f = .ok v)
    (hf : ∀ ok : String → Prop, ok "" → (∀ q ∈ u.page, ok q.nextCursor) →
      u.state.Meets ok → f.Meets ok) : Carried u v := by
  obtain ⟨state, hstate, h⟩ := bind_ok h
  cases h
  refine ⟨rfl, rfl, fun ok hempty hpage hu => ?_⟩
  have hmeets := hf ok hempty hpage hu
  rw [← CreatorScanState.fields_of_make hstate] at hmeets
  exact hmeets

/-- A state with the cursors of the one before. -/
theorem carried_same {f : CreatorScanFields p} (h : u.replace f = .ok v)
    (hcursor : f.pageCursor = u.state.pageCursor) (hwitness : f.witness = u.state.witness) :
    Carried u v :=
  carried_replace h fun _ _ _ hu => ⟨hcursor ▸ hu.page, hwitness ▸ hu.next⟩

theorem carried_leaving {cursor : String} (h : u.replace (u.leaving cursor) = .ok v)
    (hcursor : ∃ q ∈ u.page, cursor = q.nextCursor) : Carried u v := by
  obtain ⟨q, hq, rfl⟩ := hcursor
  exact carried_replace h fun ok _ hpage _ => ⟨hpage q hq, nofun⟩

theorem carried_finishPage (hpage : page ∈ u.page) (h : u.finishPage page = .ok v) :
    Carried u v := by
  have stop {reason : CreatorReason} (h : Carried (u.stopped reason) v) : Carried u v :=
    (carried_stopped u reason).trans h
  have hnext : ∃ q ∈ u.page, page.nextCursor = q.nextCursor := ⟨page, hpage, rfl⟩
  unfold finishPage at h
  split at h
  · exact stop (carried_same h rfl rfl)
  · split at h
    · split at h
      · exact stop (carried_leaving h hnext)
      · split at h
        · cases h
          exact carried_stopped u _
        · exact stop (carried_leaving h hnext)
    · exact stop (carried_replace h fun ok hempty _ _ => ⟨hempty, nofun⟩)

theorem carried_nextAction {a : CreatorScanAction p} (h : u.nextAction = .ok (a, v)) :
    Carried u v := by
  unfold nextAction at h
  split at h
  · cases h
    exact .refl u
  · split at h
    · cases h
      exact .refl u
    · rename_i page hpage
      obtain ⟨x, hskip, h⟩ := bind_ok h
      have hskipped : Carried u x := carried_same hskip rfl rfl
      refine hskipped.trans ?_
      split at h
      · obtain ⟨y, hfinish, h⟩ := bind_ok h
        cases h
        exact carried_finishPage (by rw [hskipped.page, hpage]; rfl) hfinish
      · split at h
        · cases h
          exact carried_stopped x _
        · split at h <;> · cases h; exact .refl _

/-- Where a unit lists a page, it has not been shown one yet. -/
theorem page_of_list {cursor : String} (h : u.nextAction = .ok (.list cursor, v)) :
    u.page = none := by
  unfold nextAction at h
  split at h
  · cases h
  · split at h
    · assumption
    · obtain ⟨x, -, h⟩ := bind_ok h
      split at h
      · obtain ⟨y, -, h⟩ := bind_ok h
        cases h
      · split at h
        · cases h
        · split at h <;> cases h

/-- The call that shows a page: its next cursor joins those of the unit. -/
structure Shown (page : CreatorPage p) (u v : CreatorScanUnit p) : Prop where
  input : v.inputState = u.inputState
  unlisted : u.page = none
  listed : v.page = some page
  meets : ∀ ok : String → Prop, ok page.nextCursor → u.state.Meets ok → v.state.Meets ok

theorem witnessed_shown (h : u.witnessed page = .ok v) :
    v.inputState = u.inputState ∧ ∀ ok : String → Prop, ok page.nextCursor →
      u.state.Meets ok → v.state.Meets ok := by
  have shown {f : CreatorScanFields p} (h : u.replace f = .ok v)
      (hcursor : f.pageCursor = u.state.pageCursor) (hwitness : f.witness = some page.witness) :
      v.inputState = u.inputState ∧ ∀ ok : String → Prop, ok page.nextCursor →
        u.state.Meets ok → v.state.Meets ok := by
    obtain ⟨state, hstate, h⟩ := bind_ok h
    cases h
    refine ⟨rfl, fun ok hnext hu => ?_⟩
    constructor
    · rw [CreatorScanState.fields_of_make hstate, hcursor]
      exact hu.page
    · rw [CreatorScanState.fields_of_make hstate, hwitness]
      rintro _ ⟨⟩
      exact hnext
  unfold witnessed at h
  split at h
  · split at h
    · exact shown h rfl rfl
    · cases h
  · exact shown h rfl rfl

theorem shown_observePage (h : u.observePage page = .ok v) : Shown page u v := by
  obtain ⟨⟨a, x⟩, hnext, h⟩ := bind_ok h
  have hasked := carried_nextAction hnext
  dsimp only at h
  split at h
  · rename_i hlist
    have hunlisted : u.page = none := page_of_list (hlist ▸ hnext)
    obtain ⟨y, hwitnessed, h⟩ := bind_ok h
    obtain ⟨hinput, hmeets⟩ := witnessed_shown hwitnessed
    have hkept : Carried { y with page := some page } v := by
      unfold bounded at h
      split at h
      · exact carried_same h rfl rfl
      · cases h
        exact .refl _
    refine ⟨(hkept.input.trans hinput).trans hasked.input, hunlisted, hkept.page, ?_⟩
    intro ok hcursor hu
    have hx : x.state.Meets ok := by
      have hstate : x.state = u.state := by
        have hlisted := hnext
        unfold nextAction at hlisted
        split at hlisted
        · cases hlisted
          rfl
        · rw [hunlisted] at hlisted
          cases hlisted
          rfl
      rw [hstate]
      exact hu
    have hy := hmeets ok hcursor hx
    have hsame : v.state.pageCursor = y.state.pageCursor ∧ v.state.witness = y.state.witness := by
      unfold bounded at h
      split at h
      · obtain ⟨state, hstate, h⟩ := bind_ok h
        cases h
        rw [CreatorScanState.fields_of_make hstate]
        exact ⟨rfl, rfl⟩
      · cases h
        exact ⟨rfl, rfl⟩
    exact ⟨hsame.1 ▸ hy.page, hsame.2 ▸ hy.next⟩
  · cases h

theorem carried_observeAccessRestricted (h : u.observeAccessRestricted = .ok v) :
    Carried u v := by
  obtain ⟨⟨a, x⟩, hnext, h⟩ := bind_ok h
  refine (carried_nextAction hnext).trans ?_
  dsimp only at h
  split at h
  · cases h
    exact carried_stopped x _
  · cases h

theorem carried_record {i : CreatorIdentity p} {status : CreatorStatus}
    (h : u.record i status = .ok v) : Carried u v := by
  obtain ⟨⟨a, x⟩, hnext, h⟩ := bind_ok h
  refine (carried_nextAction hnext).trans ?_
  dsimp only at h
  split at h
  · have hrecorded : Carried x { x with outcomes := x.outcomes ++ [⟨i, status⟩] } :=
      ⟨rfl, rfl, fun _ _ _ h => h⟩
    exact hrecorded.trans (carried_same h rfl rfl)
  · cases h

theorem carried_fail {i : CreatorIdentity p} {accessRestricted : Bool}
    (h : u.fail i accessRestricted = .ok v) : Carried u v := by
  unfold fail at h
  dsimp only at h
  split at h
  · obtain ⟨x, hrecord, h⟩ := bind_ok h
    exact (carried_record hrecord).trans ((carried_stopped x .accessRestricted).trans
      (carried_same h rfl rfl))
  · exact carried_record h

/-- A unit's cursors come from the state it began with and from its page. -/
structure CarriedFrom (s : CreatorScanState p) (u : CreatorScanUnit p) : Prop where
  input : u.inputState = s
  meets : ∀ ok : String → Prop, ok "" → (∀ q ∈ u.page, ok q.nextCursor) →
    s.Meets ok → u.state.Meets ok

theorem CarriedFrom.carry {s : CreatorScanState p} (h : CarriedFrom s u) (k : Carried u v) : CarriedFrom s v where
  input := k.input.trans h.input
  meets ok hempty hpage hs := by
    rw [k.page] at hpage
    exact k.meets ok hempty hpage (h.meets ok hempty hpage hs)

theorem CarriedFrom.shown {s : CreatorScanState p} (h : CarriedFrom s u) (k : Shown page u v) : CarriedFrom s v where
  input := k.input.trans h.input
  meets ok hempty hpage hs := by
    refine k.meets ok (hpage page k.listed) (h.meets ok hempty ?_ hs)
    rw [k.unlisted]
    exact nofun

theorem Reached.carriedFrom {s : CreatorScanState p} (h : Reached s u) : CarriedFrom s u := by
  induction h with
  | new h =>
    unfold CreatorScanUnit.new at h
    split at h
    · cases h
      exact ⟨rfl, fun _ _ _ hs => hs⟩
    · cases h
  | act _ h ih => exact ih.carry (carried_nextAction h)
  | observe _ h ih => exact ih.shown (shown_observePage h)
  | restrict _ h ih => exact ih.carry (carried_observeAccessRestricted h)
  | store _ h ih => exact ih.carry (carried_record h)
  | skip _ h ih => exact ih.carry (carried_record h)
  | fail _ h ih => exact ih.carry (carried_fail h)

/-- What a record proposes has its cursors from the state and the page of the record. -/
theorem coverage_carried {s : CreatorScanState p} {c : CreatorScanCoverage p}
    (hu : Reached s u) (h : u.coverage = .ok c) :
    c.inputState = s ∧ ∀ ok : String → Prop, ok "" → (∀ q ∈ c.page, ok q.nextCursor) →
      s.Meets ok → c.nextState.Meets ok := by
  obtain ⟨⟨a, v⟩, hnext, h⟩ := bind_ok h
  obtain ⟨hinput, hmeets⟩ := (Reached.act hu hnext).carriedFrom
  dsimp only at h
  split at h
  · split at h
    · obtain ⟨nextState, hstate, h⟩ := bind_ok h
      cases h
      refine ⟨hinput, fun ok hempty hpage hs => ?_⟩
      have hv := hmeets ok hempty hpage hs
      have hfields := CreatorScanState.fields_of_make hstate
      constructor
      · rw [hfields]
        exact hv.page
      · rw [hfields]
        exact hv.next
    · cases h
  · cases h

end CreatorScanUnit

/-- A cursor that takes at most 18,792 characters as JSON; three of them fit in a state. -/
def ShortCursor (cursor : String) : Prop := (string cursor.toList).length ≤ 18792

theorem shortCursor_empty : ShortCursor "" := by
  unfold ShortCursor
  decide

/-- A cursor of printable ASCII is short, whatever its quotes and backslashes. -/
theorem shortCursor_of_printable {cursor : String} (hvalid : validCursor cursor = true)
    (hprintable : ∀ c ∈ cursor.toList, isPrintable c = true) : ShortCursor cursor := by
  simp only [validCursor, Bool.and_eq_true, decide_eq_true_eq] at hvalid
  have hfits : Fits 4096 cursor.toList := ⟨hprintable, hvalid.1⟩
  exact hfits.string.length.trans (by omega)

theorem CreatorScanState.encodable_of_short {s : CreatorScanState p} (h : s.Meets ShortCursor) :
    s.Encodable := by
  have hwithin : s.CursorsWithin 18792 := ⟨h.page, h.next⟩
  have hlength := (fits_cursor hwithin).length
  rw [← s.text_doc] at hlength
  rw [Encodable, ← s.length_cursorText]
  exact hlength.trans (by omega)

/-! ## Cursors of the greatest length -/

/-- A history scan that stands at the given cursor. -/
def standingAt (cursor : String) (h : validCursor cursor = true) : CreatorScanState .xhs :=
  ⟨_, (CreatorScanState.initial .xhs sampleBinding).valid.leaving h⟩

/-- A page without items that promises more behind the next cursor. -/
def emptyPage (cursor next : String) (h : validCursor cursor = true)
    (hnext : validCursor next = true) : CreatorPage .xhs :=
  ⟨cursor, next, true, [], h, hnext, Nat.zero_le _, List.nodup_nil, fun _ hne => absurd rfl hne⟩

/-- The summary of a unit that met no item. -/
def idleSummary (reason : CreatorReason) (complete : Bool) : CreatorUnitSummary .xhs :=
  ⟨.history, reason, 0, 0, 0, 1, 0, complete, rfl, rfl, Nat.zero_le _⟩

/-- The record of a history unit that stopped without an outcome. -/
theorem coverage_idle {u v : CreatorScanUnit .xhs} {reason : CreatorReason}
    (hstop : u.nextAction = .ok (.stop, v)) (hreason : v.reason = some reason)
    (hidle : v.outcomes = []) (hlane : v.inputState.lane = .history) :
    u.coverage = .ok ⟨v.inputState,
      ⟨_, v.state.valid.lastUnit (idleSummary reason (v.page.isSome && v.state.witness.isNone))⟩,
      v.page, [], idleSummary reason (v.page.isSome && v.state.witness.isNone)⟩ := by
  obtain ⟨limit, inputState, state, page, outcomes, stopped⟩ := v
  obtain rfl : stopped = some reason := hreason
  obtain rfl : outcomes = [] := hidle
  have hsummary : CreatorUnitSummary.Valid .xhs 0 0 0 1 0 := ⟨rfl, rfl, Nat.zero_le _⟩
  have hcoverage := CreatorScanUnit.coverage_eq hstop rfl hsummary
  rw [hcoverage]
  dsimp only at hlane
  simp only [hlane]
  rfl

theorem validCursor_empty : validCursor "" = true := by decide

section

open CreatorScanUnit

variable {cursor next : String} (h : validCursor cursor = true) (hnext : validCursor next = true)

/-- The unit that has been shown an empty page. -/
def shownEmpty : CreatorScanUnit .xhs :=
  { fresh (standingAt cursor h) 30 with
    state := ⟨_, (standingAt cursor h).valid.witnessed (w := (emptyPage cursor next h hnext).witness)
      rfl List.nodup_nil nofun⟩
    page := some (emptyPage cursor next h hnext) }

theorem observe_emptyPage (hne : cursor ≠ "") :
    (fresh (standingAt cursor h) 30).observePage (emptyPage cursor next h hnext) =
      .ok (shownEmpty h hnext) := by
  have hlist : (fresh (standingAt cursor h) 30).nextAction =
      .ok (.list cursor, fresh (standingAt cursor h) 30) := rfl
  have hwitnessed : (fresh (standingAt cursor h) 30).witnessed (emptyPage cursor next h hnext) =
      .ok { shownEmpty h hnext with page := none } := replace_ok _ _
  unfold observePage
  rw [hlist]
  have hasked : CreatorScanAction.list (p := .xhs) cursor =
      .list (emptyPage cursor next h hnext).inputCursor := rfl
  simp only [bind, Except.bind]
  rw [if_pos hasked, hwitnessed]
  simp only [bounded]
  rw [if_neg]
  · rfl
  · rintro ⟨-, hempty, -⟩
    exact hne hempty

theorem reached_shownEmpty (hne : cursor ≠ "") :
    CreatorScanUnit.Reached (standingAt cursor h) (shownEmpty h hnext) :=
  .observe (.new (show CreatorScanUnit.new (standingAt cursor h) 30 = .ok _ from rfl))
    (observe_emptyPage h hnext hne)

/-- Past an empty page the unit goes straight to its end. -/
theorem nextAction_shownEmpty :
    (shownEmpty h hnext).nextAction =
      ((shownEmpty h hnext).finishPage (emptyPage cursor next h hnext)).map
        fun v => (.stop, v) := by
  have hunderway : Underway (fun _ => false) (emptyPage cursor next h hnext)
      (shownEmpty h hnext) :=
    ⟨rfl, rfl, rfl, le_rfl, Nat.zero_le _, nofun⟩
  rw [nextAction_eq hunderway]
  rfl

/-- The record of a unit that went on to the next cursor. -/
def passedEmpty : CreatorScanCoverage .xhs where
  inputState := standingAt cursor h
  nextState := ⟨_, (standingAt next hnext).valid.lastUnit (idleSummary .unitCapReached true)⟩
  page := some (emptyPage cursor next h hnext)
  outcomes := []
  summary := idleSummary .unitCapReached true

theorem coverage_passedEmpty (hmoves : next ≠ cursor) :
    (shownEmpty h hnext).coverage = .ok (passedEmpty h hnext) := by
  have hfinish : (shownEmpty h hnext).finishPage (emptyPage cursor next h hnext) =
      .ok { (shownEmpty h hnext).stopped .unitCapReached with
        state := ⟨_, (shownEmpty h hnext).state.valid.leaving hnext⟩ } := by
    unfold finishPage
    rw [if_neg (by simp [shownEmpty, emptyPage])]
    have hstays : ¬((emptyPage cursor next h hnext).identities = [] ∧
        (emptyPage cursor next h hnext).nextCursor =
          (emptyPage cursor next h hnext).inputCursor) := fun hand => hmoves hand.2
    simp only [hstays, if_false]
    exact replace_ok _ _
  have hstop := nextAction_shownEmpty h hnext
  rw [hfinish] at hstop
  exact coverage_idle hstop rfl rfl rfl

/-- The record of a unit whose page leads to its own cursor again; the page stays
in the next state as its witness. -/
def stalledEmpty : CreatorScanCoverage .xhs where
  inputState := standingAt cursor h
  nextState := ⟨_, (shownEmpty h h).state.valid.lastUnit (idleSummary .emptyPageStalled false)⟩
  page := some (emptyPage cursor cursor h h)
  outcomes := []
  summary := idleSummary .emptyPageStalled false

theorem coverage_stalledEmpty : (shownEmpty h h).coverage = .ok (stalledEmpty h) := by
  have hfinish : (shownEmpty h h).finishPage (emptyPage cursor cursor h h) =
      .ok ((shownEmpty h h).stopped .emptyPageStalled) := by
    have hstays : (emptyPage cursor cursor h h).identities = [] ∧
        (emptyPage cursor cursor h h).nextCursor = (emptyPage cursor cursor h h).inputCursor :=
      ⟨rfl, rfl⟩
    unfold finishPage
    rw [if_neg (by simp [shownEmpty, emptyPage])]
    simp only [hstays, and_self, if_true]
    rfl
  have hstop := nextAction_shownEmpty h h
  rw [hfinish] at hstop
  exact coverage_idle hstop rfl rfl rfl

/-- Such a state holds its cursor three times. -/
theorem stalledEmpty_weight :
    3 * stringWeight plain cursor.toList ≤ (stalledEmpty h).nextState.cursorWeight plain := by
  simp only [CreatorScanState.cursorWeight, CreatorScanState.doc, CreatorScanState.docs,
    stalledEmpty, shownEmpty, standingAt, CreatorPage.witness, emptyPage, Doc.orNull,
    PageWitness.doc, pageDocs, List.cons_append, List.nil_append, Doc.weight, Doc.fieldWeights,
    Doc.fieldWeights_append, fieldWeight]
  omega

/-- A cursor without a witness takes the place of another one. -/
theorem cursorWeight_standing (m : Char → Nat) (lastUnit : Option (CreatorUnitSummary .xhs))
    {s t : CreatorScanState .xhs}
    (hs : s.toCreatorScanFields = { (standingAt cursor h).toCreatorScanFields with
      lastUnit := lastUnit })
    (ht : t.toCreatorScanFields = { (standingAt next hnext).toCreatorScanFields with
      lastUnit := lastUnit }) :
    s.cursorWeight m + stringWeight m next.toList =
      t.cursorWeight m + stringWeight m cursor.toList := by
  obtain ⟨fields, hfields⟩ := s
  obtain ⟨others, hothers⟩ := t
  obtain rfl : fields = _ := hs
  obtain rfl : others = _ := ht
  simp only [CreatorScanState.cursorWeight, CreatorScanState.doc, CreatorScanState.docs,
    standingAt, List.cons_append, List.nil_append, Doc.weight, Doc.fieldWeights,
    Doc.fieldWeights_append, fieldWeight, List.length_cons, List.length_append, List.length_nil]
  omega

theorem emptyPage_weight (m : Char → Nat) :
    (emptyPage cursor next h hnext).doc.weight m + 2 * stringWeight m [] =
      (Doc.object (pageDocs "" "" true [])).weight m + stringWeight m cursor.toList +
        stringWeight m next.toList := by
  have hnil : "".toList = [] := rfl
  simp only [emptyPage, CreatorPage.doc, pageDocs, List.map_nil, Doc.weight, Doc.weights,
    Doc.fieldWeights, fieldWeight, List.length_cons, List.length_nil, hnil]
  omega

theorem passedEmpty_weight_empty :
    (passedEmpty validCursor_empty validCursor_empty).recordWeight = 1558 := by
  decide +kernel

theorem passedEmpty_page :
    (Doc.object ((passedEmpty h hnext).docs [] [])).weight plain +
        (emptyPage "" "" validCursor_empty validCursor_empty).doc.weight plain =
      (Doc.object ((passedEmpty validCursor_empty validCursor_empty).docs [] [])).weight plain +
        (emptyPage cursor next h hnext).doc.weight plain := by
  simp only [CreatorScanCoverage.docs, passedEmpty, Doc.orNull, List.cons_append, List.nil_append,
    Doc.weight, Doc.fieldWeights, fieldWeight, List.length_cons]
  omega

/-- The record's length depends on its two cursors alone. -/
theorem passedEmpty_weight :
    (passedEmpty h hnext).recordWeight + 12 = 1558 + stringWeight plain cursor.toList +
      stringWeight plain next.toList + stringWeight escaped cursor.toList +
      stringWeight escaped next.toList := by
  have hescaped : stringWeight escaped "".toList = 4 := by decide
  have hplain : stringWeight plain [] = 2 := by decide
  have hrecord := passedEmpty_page h hnext
  have hpage := emptyPage_weight h hnext plain
  have hbase := emptyPage_weight validCursor_empty validCursor_empty plain
  have hinput := cursorWeight_standing h validCursor_empty escaped none
    (s := (passedEmpty h hnext).inputState) (t := standingAt "" validCursor_empty) rfl rfl
  have hoverall := cursorWeight_standing hnext validCursor_empty escaped
    (some (idleSummary .unitCapReached true)) (s := (passedEmpty h hnext).nextState)
    (t := (passedEmpty validCursor_empty validCursor_empty).nextState) rfl rfl
  have hempty := passedEmpty_weight_empty
  have hnil : stringWeight plain "".toList = 2 := by decide
  simp only [CreatorScanCoverage.recordWeight] at hempty ⊢
  rw [show (passedEmpty validCursor_empty validCursor_empty).inputState =
    standingAt "" validCursor_empty from rfl] at hempty
  omega

end

end MediaSync.Scan
