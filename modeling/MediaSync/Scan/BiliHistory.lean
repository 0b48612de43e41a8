import MediaSync.Scan.BiliSteps

/-!
# A history sweep is complete

Over a feed that does not change a lane stands at a position: so many items of
the feed come before it, and its witness is the page there. A unit consumes the
items from its position on and leaves the lane after them. A history unit that
does not end the sweep consumes something, so the sweep ends.
-/

namespace MediaSync.Scan

namespace BiliScanUnit

variable {f : BiliFeed}

theorem BiliFeed.page_ok {p : Nat} (h : 1 ≤ p ∧ p ≤ 10000000) : ∃ page, f.page p = .ok page := by
  have hsublist : ((f.items.drop ((p - 1) * biliScanPageSize)).take biliScanPageSize).Sublist
      f.items := (List.take_sublist _ _).trans (List.drop_sublist _ _)
  have hvalid : BiliPage.Valid p f.items.length
      ((f.items.drop ((p - 1) * biliScanPageSize)).take biliScanPageSize) := by
    refine ⟨h, f.bounded, by simp, f.aids.sublist (hsublist.map _), f.bvids.sublist (hsublist.map _),
      List.isChain_iff_pairwise.mpr (f.sorted.sublist hsublist)⟩
  exact ⟨⟨_, _, _, hvalid⟩, dif_pos hvalid⟩

theorem BiliFeed.page_fields {p : Nat} {page : BiliPage} (h : f.page p = .ok page) :
    page.page = p ∧ page.total = f.items.length ∧
      page.identities = (f.items.drop ((p - 1) * biliScanPageSize)).take biliScanPageSize :=
  BiliPage.make_page h

theorem BiliFeed.page_item {p i : Nat} {page : BiliPage} {x : BiliIdentity}
    (h : f.page p = .ok page) (hx : page.identities[i]? = some x) :
    f.items[(p - 1) * biliScanPageSize + i]? = some x := by
  rw [(BiliFeed.page_fields h).2.2] at hx
  have hlt : i < biliScanPageSize := by
    by_contra hge
    rw [List.getElem?_eq_none (by simp; omega)] at hx
    cases hx
  rw [List.getElem?_take_of_lt hlt, List.getElem?_drop] at hx
  exact hx

/-- A page that is not the last is full. -/
theorem BiliFeed.page_full {p : Nat} {page : BiliPage} (h : f.page p = .ok page)
    (hend : page.sourceEnd = false) :
    page.identities.length = biliScanPageSize ∧ p * biliScanPageSize < f.items.length := by
  obtain ⟨hpage, htotal, _⟩ := BiliFeed.page_fields h
  have hlength := page.valid.length
  have hrange := page.valid.pageRange.1
  unfold BiliPage.sourceEnd at hend
  rw [decide_eq_false_iff_not, not_le, hpage, htotal] at hend
  rw [hpage, htotal] at hlength
  rw [hpage] at hrange
  unfold biliScanPageSize at *
  omega

theorem BiliFeed.page_end {p : Nat} {page : BiliPage} (h : f.page p = .ok page)
    (hend : page.sourceEnd = true) : f.items.length ≤ p * biliScanPageSize := by
  obtain ⟨hpage, htotal, _⟩ := BiliFeed.page_fields h
  unfold BiliPage.sourceEnd at hend
  rw [decide_eq_true_iff, hpage, htotal] at hend
  exact hend

/-! ## Positions -/

/-- The lane stands after the first `m` items of the feed. -/
structure Position (f : BiliFeed) (lane : BiliLane) (m : Nat) : Prop where
  count : m = (lane.page - 1) * biliScanPageSize + lane.index
  within : m ≤ f.items.length
  witness : ∀ w, lane.witness = some w → f.page lane.page = .ok w
  reached : lane.page ≠ 1 → (lane.page - 1) * biliScanPageSize < f.items.length
  previous : ∀ d, lane.previousPubdate = some d → ∀ x,
    f.items[(lane.page - 1) * biliScanPageSize]? = some x → x.pubdate ≤ d

theorem position_start : Position f .start 0 := by
  refine ⟨rfl, Nat.zero_le _, ?_, ?_, ?_⟩
  · nofun
  · intro h
    exact (h rfl).elim
  · nofun

/-- The unit has consumed the items after its first position, and has one more
before it unless it still may list. -/
structure Driving (f : BiliFeed) (m : Nat) (u : BiliScanUnit) : Prop where
  running : u.reason = none
  position : Position f u.current (m + u.consumed.length)
  taken : u.consumed = (f.items.drop m).take u.consumed.length
  confirmed : u.verified = true → u.current.witness.isSome
  once : u.consumed = [] → u.pages.length = 1 → u.pending.isSome ∨ u.verified = true
  twice : u.consumed = [] → u.pages.length = 2 → u.pending.isSome

theorem pending_item {u : BiliScanUnit} {m : Nat} {x : BiliIdentity}
    (h : Position f u.current m) (hx : u.pending = some x) : f.items[m]? = some x := by
  unfold pending at hx
  cases hwitness : u.current.witness with
  | none =>
    rw [hwitness] at hx
    cases hx
  | some w =>
    rw [hwitness] at hx
    rw [h.count]
    exact BiliFeed.page_item (h.witness w hwitness) hx

theorem pending_none {u : BiliScanUnit} {w : BiliPage} (hwitness : u.current.witness = some w)
    (h : u.pending = none) : u.current.index = w.identities.length := by
  unfold pending at h
  rw [hwitness, Option.bind_some, List.getElem?_eq_none_iff] at h
  exact Nat.le_antisymm (u.current.valid.fits w hwitness).2 h

/-- The page that a list action asks for, seen from the position of the unit. -/
theorem Asks.list_position {u v : BiliScanUnit} {p m : Nat} (h : Asks u (.list p) v)
    (hu : Position f u.current m) :
    p = v.current.page ∧ Position f v.current m ∧
      (v.current.witness = none → v.current.index = 0) := by
  cases h with
  | list => exact ⟨rfl, hu, u.current.valid.unseen⟩
  | nextPage w last lane hopen hpages hleaves hlast hpage hwitness hindex hprevious =>
    have hcurrent : ({ u.setLane lane with verified := false } : BiliScanUnit).current = lane :=
      current_setLane u lane
    have hfeed := hu.witness w hleaves.witness
    obtain ⟨hfull, hmore⟩ := BiliFeed.page_full hfeed hleaves.more
    have hthrough := pending_none hleaves.witness hleaves.through
    have hrange := u.current.valid.pageRange.1
    have hcount := hu.count
    rw [hthrough, hfull] at hcount
    rw [hcurrent]
    refine ⟨rfl, ⟨?_, hu.within, ?_, ?_, ?_⟩, fun _ => hindex⟩
    · rw [hpage, hindex, hcount]
      unfold biliScanPageSize
      omega
    · intro w' hw'
      rw [hwitness] at hw'
      cases hw'
    · intro _
      rw [hpage]
      exact hmore
    · intro d hd x hx
      rw [hprevious] at hd
      cases hd
      rw [hpage] at hx
      rw [List.getLast?_eq_getElem?, hfull] at hlast
      have hbefore := BiliFeed.page_item hfeed hlast
      rw [List.getElem?_eq_some_iff] at hbefore hx
      obtain ⟨hi, hbefore⟩ := hbefore
      obtain ⟨hj, hx⟩ := hx
      have hsorted := List.pairwise_iff_getElem.mp f.sorted _ _ hi hj
        (by unfold biliScanPageSize; omega)
      rw [hbefore, hx] at hsorted
      exact hsorted

/-- What is left to list when a page is asked for before anything was consumed:
the first request of the unit, or one for a page after the first. -/
theorem Driving.asks_first {u v : BiliScanUnit} {p m : Nat} (hu : Driving f m u)
    (hasks : Asks u (.list p) v) (hnil : u.consumed = []) (hpages : u.pages.length = 1)
    (hwitness : v.current.witness = none) : v.current.page ≠ 1 := by
  cases hasks with
  | list hopen hne hunconfirmed =>
    have hpending : u.pending = none := by
      unfold pending
      rw [hwitness]
      rfl
    rcases hu.once hnil hpages with hsome | hconfirmed
    · rw [hpending] at hsome
      cases hsome
    · have hsome := hu.confirmed hconfirmed
      rw [hwitness] at hsome
      cases hsome
  | nextPage _ last lane _ _ _ _ hpage =>
    have hcurrent : ({ u.setLane lane with verified := false } : BiliScanUnit).current = lane :=
      current_setLane u lane
    have := u.current.valid.pageRange.1
    rw [hcurrent, hpage]
    omega

/-- The confirmation of a page leaves an item before the unit. -/
theorem Driving.asks_again {u v : BiliScanUnit} {p m : Nat} {w : BiliPage} (hu : Driving f m u)
    (hasks : Asks u (.list p) v) (hnil : u.consumed = []) (hpages : u.pages.length = 1)
    (hwitness : v.current.witness = some w) : v.pending.isSome := by
  cases hasks with
  | list hopen hne hunconfirmed =>
    rcases hu.once hnil hpages with hsome | hverified
    · exact hsome
    · cases hunconfirmed with
      | below _ hpending => rw [hpending]; rfl
      | pageEnd _ _ _ hnot => rw [hverified] at hnot; cases hnot
      | new hnone => rw [hwitness] at hnone; cases hnone
  | nextPage _ last lane _ _ _ _ _ hlane =>
    have hcurrent : ({ u.setLane lane with verified := false } : BiliScanUnit).current = lane :=
      current_setLane u lane
    rw [hcurrent, hlane] at hwitness
    cases hwitness

theorem Asks.running {u v : BiliScanUnit} {p : Nat} (h : Asks u (.list p) v) : v.reason = none := by
  cases h with
  | list hopen => exact hopen.running
  | nextPage w last lane hopen => exact (reason_setLane u lane).trans hopen.running

theorem Position.ordered {u : BiliScanUnit} {page : BiliPage} {m : Nat}
    (h : Position f u.current m) (hpage : f.page u.current.page = .ok page) :
    u.disordered page = false := by
  unfold disordered
  cases hprevious : u.current.previousPubdate with
  | none => rfl
  | some d =>
    cases hnewest : page.identities with
    | nil => rfl
    | cons newest rest =>
      have hitem : page.identities[0]? = some newest := by rw [hnewest]; rfl
      have hfirst := BiliFeed.page_item hpage hitem
      rw [Nat.add_zero] at hfirst
      have hle := h.previous d hprevious newest hfirst
      exact decide_eq_false (not_lt.mpr hle)

theorem Position.page_nonempty {lane : BiliLane} {page : BiliPage} {m : Nat}
    (h : Position f lane m) (hpage : f.page lane.page = .ok page) (hne : lane.page ≠ 1) :
    page.identities ≠ [] := by
  intro hnil
  have hreached := h.reached hne
  have hlength := congrArg List.length (BiliFeed.page_fields hpage).2.2
  rw [hnil, List.length_take, List.length_drop, List.length_nil] at hlength
  unfold biliScanPageSize at hlength hreached
  omega

/-- A page served by the feed of the position keeps the unit driving. -/
theorem Driving.observed {u v : BiliScanUnit} {p m : Nat} (hu : Driving f m u)
    (hasks : Asks u (.list p) v) :
    ∃ page w, f.page p = .ok page ∧ v.observed page = .ok w ∧ Driving f m w := by
  obtain ⟨hp, hposition, hindex⟩ := hasks.list_position hu.position
  rw [← hasks.consumed] at hposition
  obtain ⟨page, hpage⟩ := BiliFeed.page_ok (f := f) v.current.valid.pageRange
  have htaken : v.consumed = (f.items.drop m).take v.consumed.length := by
    rw [hasks.consumed]
    exact hu.taken
  have hpages : ∀ {w : BiliScanUnit}, w.pages = v.pages ++ [page] → w.pages.length = 2 →
      u.pages.length = 1 := by
    intro w hw htwice
    rw [hw, List.length_append, hasks.pages] at htwice
    simpa using htwice
  rw [hp]
  cases hwitness : v.current.witness with
  | some w =>
    have hsame := hposition.witness w hwitness
    rw [hpage] at hsame
    cases hsame
    refine ⟨page, _, hpage, observed_confirms hwitness, hasks.running, hposition, htaken,
      fun _ => ?_, fun _ _ => .inr rfl, fun hnil htwice => ?_⟩
    · exact Option.isSome_iff_exists.mpr ⟨page, hwitness⟩
    · have hnil' : u.consumed = [] := hasks.consumed.symm.trans hnil
      have hpending : v.pending.isSome := hu.asks_again hasks hnil' (hpages rfl htwice) hwitness
      exact hpending
  | none =>
    obtain ⟨w, hnew⟩ := newPage_ok (u := v.listed page) hwitness (BiliFeed.page_fields hpage).1
    have hw := newPage_witnesses (u := v.listed page) hwitness hnew
    have hobserved : v.observed page = .ok w := by
      unfold BiliScanUnit.observed
      rw [hwitness]
      dsimp only
      rw [hposition.ordered hpage]
      exact hnew
    have hpending : w.pending.isSome ∨ w.verified = true ∧ page.identities = [] := by
      unfold pending
      rw [hw.witness, hw.index, hw.verified, Option.bind_some]
      cases page.identities with
      | nil => exact .inr ⟨rfl, rfl⟩
      | cons newest rest => exact .inl rfl
    have hnumber : w.current.page = v.current.page := hw.number
    have hconsumed : w.consumed = v.consumed := hw.consumed
    refine ⟨page, w, hpage, hobserved, hw.reason.trans hasks.running, ?_, ?_, fun _ => ?_,
      fun _ _ => hpending.imp_right And.left, fun hnil htwice => ?_⟩
    · rw [hconsumed]
      refine ⟨?_, hposition.within, fun w' hw' => ?_, ?_, fun d hd => ?_⟩
      · rw [hnumber, hw.index]
        exact hposition.count.trans (by rw [hindex hwitness])
      · rw [hw.witness] at hw'
        cases hw'
        rw [hnumber]
        exact hpage
      · rw [hnumber]
        exact hposition.reached
      · rw [hnumber]
        exact hposition.previous d (hw.previous ▸ hd)
    · rw [hconsumed]
      exact htaken
    · rw [hw.witness]
      rfl
    · rcases hpending with hsome | ⟨_, hempty⟩
      · exact hsome
      · have hnil' : u.consumed = [] := hasks.consumed.symm.trans (hconsumed.symm.trans hnil)
        have hlater := hu.asks_first hasks hnil' (hpages hw.pages htwice) hwitness
        exact (hposition.page_nonempty hpage hlater hempty).elim

/-- The item before the unit was not consumed by it, and is consumed next. -/
theorem Driving.consumed {u : BiliScanUnit} {x : BiliIdentity} {m : Nat} (hu : Driving f m u)
    (hasks : Asks u (.detail x) u) : ∃ v, u.consumeNext x = .ok v ∧ Driving f m v := by
  obtain ⟨_, hopen, hpending, _⟩ := hasks.detail_open
  have hitem := pending_item hu.position hpending
  have htaken : (f.items.drop m).take (u.consumed.length + 1) = u.consumed ++ [x] := by
    rw [List.take_add_one, List.getElem?_drop, hitem, ← hu.taken]
    rfl
  have hsublist : (u.consumed ++ [x]).Sublist f.items := by
    rw [← htaken]
    exact (List.take_sublist _ _).trans (List.drop_sublist _ _)
  have hnew : ∀ {g : BiliIdentity → String}, (f.items.map g).Nodup →
      g x ∉ u.consumed.map g := by
    intro g hg hmem
    have hnodup := hg.sublist (hsublist.map g)
    rw [List.map_append, List.nodup_append] at hnodup
    exact hnodup.2.2 _ hmem _ (by simp) rfl
  obtain ⟨v, hv⟩ := consumeNext_ok hpending (hnew f.aids) (hnew f.bvids)
  have hconsumes := consumeNext_consumes hv
  have hlength : v.consumed.length = u.consumed.length + 1 := by
    rw [hconsumes.consumed, List.length_append]
    rfl
  have hne : v.consumed ≠ [] := by
    rw [hconsumes.consumed]
    simp
  refine ⟨v, hv, hconsumes.reason.trans hu.running, ⟨?_, ?_, fun w hw => ?_, ?_, fun d hd => ?_⟩,
    ?_, fun h => ?_, fun h => (hne h).elim, fun h => (hne h).elim⟩
  · rw [hconsumes.number, hconsumes.index, hlength, ← Nat.add_assoc, hu.position.count]
    omega
  · rw [hlength]
    obtain ⟨hlt, _⟩ := List.getElem?_eq_some_iff.mp hitem
    omega
  · rw [hconsumes.number]
    exact hu.position.witness w (hconsumes.witness ▸ hw)
  · rw [hconsumes.number]
    exact hu.position.reached
  · rw [hconsumes.number]
    exact hu.position.previous d (hconsumes.previous ▸ hd)
  · rw [hlength, htaken, hconsumes.consumed]
  · rw [hconsumes.witness]
    exact hu.confirmed (hconsumes.verified ▸ h)

/-- How a unit over a still feed can end. -/
inductive Ends (f : BiliFeed) (m : Nat) (w : BiliScanUnit) : Prop
  | sourceEnd : w.reason = some .sourceEnd → w.current = .start →
      m + w.consumed.length = f.items.length → Ends f m w
  | headBoundary : w.reason = some .headBoundary → w.lane = .head → w.current = .start → Ends f m w
  | stays : w.reason = some .itemLimit ∨ w.reason = some .listLimit →
      Position f w.current (m + w.consumed.length) →
      (w.lane = .history → 1 ≤ w.limit → w.consumed ≠ []) → Ends f m w

theorem Driving.ends {u w : BiliScanUnit} {m : Nat} (hu : Driving f m u) (h : Asks u .stop w) :
    Ends f m w := by
  cases h with
  | stopped hreason =>
    rw [hu.running] at hreason
    cases hreason
  | itemLimit _ hlimit =>
    refine .stays (.inl rfl) hu.position (fun _ hone hnil => ?_)
    rw [show u.consumed = [] from hnil] at hlimit
    change 1 ≤ u.limit at hone
    rw [← hlimit] at hone
    cases hone
  | listLimit hopen hpages hwhy =>
    refine .stays (.inr rfl) hu.position (fun hlane _ hnil => ?_)
    have hsome := hu.twice hnil hpages
    rcases hwhy with hunconfirmed | ⟨w, hleaves⟩
    · cases hunconfirmed with
      | below x _ hbelow =>
        unfold belowBoundary at hbelow
        rw [show u.lane = .history from hlane] at hbelow
        cases hbelow
      | pageEnd _ hpending => rw [hpending] at hsome; cases hsome
      | new hwitness =>
        unfold pending at hsome
        rw [hwitness] at hsome
        cases hsome
    · rw [hleaves.through] at hsome
      cases hsome
  | headBoundary x hopen hpending hbelow hverified =>
    obtain ⟨hreason, hcurrent, _, _, hlane, _⟩ := finishSweep_fields u .headBoundary
    refine .headBoundary hreason (hlane.trans ?_) hcurrent
    unfold belowBoundary at hbelow
    split at hbelow
    · assumption
    · cases hbelow
  | sourceEnd page hopen hpending hwitness hverified hend =>
    obtain ⟨hreason, hcurrent, _, hconsumed, _⟩ := finishSweep_fields u .sourceEnd
    refine .sourceEnd hreason hcurrent ?_
    have hfeed := hu.position.witness page hwitness
    have hlast := BiliFeed.page_end hfeed hend
    have hthrough := pending_none hwitness hpending
    have hlength := page.valid.length
    have hcount := hu.position.count
    have hwithin := hu.position.within
    have hreached := hu.position.reached
    obtain ⟨hnumber, htotal, _⟩ := BiliFeed.page_fields hfeed
    have hrange := u.current.valid.pageRange.1
    rw [hnumber, htotal] at hlength
    rw [hconsumed]
    unfold biliScanPageSize at *
    by_cases hfirst : u.current.page = 1
    · rw [hfirst] at hcount hlength hlast
      omega
    · have := hreached hfirst
      omega

/-- What a unit does to its lane over a still feed, from the position `m`. -/
structure UnitOver (f : BiliFeed) (s : BiliScanState) (m : Nat) (c : BiliScanCoverage) : Prop where
  lane : c.summary.lane = s.nextLane
  taken : c.consumed = (f.items.drop m).take c.consumed.length
  next : c.nextState.nextLane = otherLane s.nextLane
  history : s.nextLane = .head → c.nextState.history = s.history
  head : s.nextLane = .history → c.nextState.head = s.head
  finished : c.summary.stopReason = .sourceEnd → m + c.consumed.length = f.items.length
  position : Position f (c.nextState.laneOf s.nextLane)
    (match c.summary.stopReason with
      | .sourceEnd | .headBoundary | .restarted => 0
      | .itemLimit | .listLimit => m + c.consumed.length)
  progress : s.nextLane = .history → c.summary.stopReason ≠ .sourceEnd →
    c.consumed ≠ [] ∧ Position f (c.nextState.laneOf s.nextLane) (m + c.consumed.length)

theorem runBiliUnit_over {s : BiliScanState} {m maxItems : Nat}
    (hs : Position f (s.laneOf s.nextLane) m) (hmax : 1 ≤ maxItems ∧ maxItems ≤ 2 ^ 63 - 1) :
    ∃ c, runBiliUnit (fun _ => f) s maxItems = .ok c ∧ UnitOver f s m c := by
  have hu : Driving f m (fresh s maxItems) :=
    ⟨rfl, hs, rfl, nofun, fun _ h => absurd h nofun, fun _ h => absurd h nofun⟩
  obtain ⟨v, w, hv, hstop, hdrive, hpages, hconsumed⟩ := drive_finishes (fun _ => f)
    (I := Driving f m) (fun u v p hu hasks => hu.observed hasks)
    (fun u x hu hasks => hu.consumed hasks) hu (Nat.zero_le _) (Nat.zero_le _)
    (n := (fresh s maxItems).turns)
    (by change (fresh s maxItems).limit - 0 + (2 - 0) < (fresh s maxItems).limit + 3; omega)
  obtain ⟨c, hrun, hcoverage⟩ := runBiliUnit_of_drive hmax hdrive hstop.reason hpages hconsumed
  obtain ⟨hreason, hlane, hcconsumed, _, _, hnext⟩ := coverage_ok hstop.reason hcoverage
  have hdrives := drives_of_drive hdrive
  have huntouched := hdrives.untouched
  have hwlane : w.lane = s.nextLane := huntouched.lane
  have hcurrent : c.nextState.laneOf s.nextLane = w.current := by
    rw [hnext]
    unfold current
    rw [hwlane]
    cases s.nextLane <;> rfl
  have hlimit : 1 ≤ w.limit := by
    rw [hdrives.frame.1]
    exact le_min hmax.1 (by decide)
  refine ⟨c, hrun, ⟨hlane.trans hwlane, ?_, ?_, ?_, ?_, ?_, ?_, ?_⟩⟩
  · rw [hcconsumed, hstop.consumed]
    exact hv.taken
  · rw [hnext, hwlane]
  · intro hhead
    rw [hnext]
    exact huntouched.history hhead
  · intro hhistory
    rw [hnext]
    exact (huntouched.head hhistory).1
  · intro hend
    rw [hend] at hreason
    rw [hcconsumed]
    cases hv.ends hstop with
    | sourceEnd _ _ hlength => exact hlength
    | headBoundary hr => rw [hr] at hreason; cases hreason
    | stays hr => rcases hr with hr | hr <;> rw [hr] at hreason <;> cases hreason
  · rw [hcurrent, hcconsumed]
    cases hv.ends hstop with
    | sourceEnd hr hstart =>
      rw [hr] at hreason
      rw [← Option.some.inj hreason, hstart]
      exact position_start
    | headBoundary hr _ hstart =>
      rw [hr] at hreason
      rw [← Option.some.inj hreason, hstart]
      exact position_start
    | stays hr hposition =>
      rcases hr with hr | hr
      · rw [hr] at hreason
        rw [← Option.some.inj hreason]
        exact hposition
      · rw [hr] at hreason
        rw [← Option.some.inj hreason]
        exact hposition
  · intro hhistory hne
    rw [hcurrent, hcconsumed]
    cases hv.ends hstop with
    | sourceEnd hr =>
      rw [hr] at hreason
      exact (hne (Option.some.inj hreason).symm).elim
    | headBoundary _ hhead =>
      rw [hwlane, hhistory] at hhead
      cases hhead
    | stays _ hposition hprogress =>
      exact ⟨hprogress (hwlane.trans hhistory) hlimit, hposition⟩

end BiliScanUnit

open BiliScanUnit

/-! ## Units one after another -/

/-- The first units of a scan, each from the state that the one before proposed. -/
def runBiliUnits (f : BiliFeed) (limits : Nat → Nat) (state : BiliScanState) :
    Nat → Except ScanError (List BiliScanCoverage × BiliScanState)
  | 0 => .ok ([], state)
  | n + 1 => do
    let (units, state) ← runBiliUnits f limits state n
    let unit ← runBiliUnit (fun _ => f) state (limits n)
    .ok (units ++ [unit], unit.nextState)

def InHistory (c : BiliScanCoverage) : Bool := c.summary.lane = .history

def EndsHistory (c : BiliScanCoverage) : Prop :=
  c.summary.lane = .history ∧ c.summary.stopReason = .sourceEnd

/-- The items that the history units consumed, in order. -/
def historyItems (units : List BiliScanCoverage) : List BiliIdentity :=
  (units.filter InHistory).flatMap BiliScanCoverage.consumed

/-- The last unit is the first to end the history sweep, and the history units
consumed the feed. -/
def CompletesHistory (f : BiliFeed) (units : List BiliScanCoverage) : Prop :=
  (∃ earlier last, units = earlier ++ [last] ∧ EndsHistory last ∧
    ∀ c ∈ earlier, ¬ EndsHistory c) ∧ historyItems units = f.items

/-- The state between two units: which lane is next, and where the lanes stand. -/
structure Between (f : BiliFeed) (n : Nat) (s : BiliScanState) : Prop where
  next : s.nextLane = if n % 2 = 0 then .head else .history
  head : ∃ m, Position f s.head m
  history : ∃ m, Position f s.history m

/-- The first history sweep is still going on. -/
structure Sweeping (f : BiliFeed) (n : Nat) (units : List BiliScanCoverage) (s : BiliScanState) :
    Prop where
  going : ∀ c ∈ units, ¬ EndsHistory c
  position : ∃ m, Position f s.history m ∧ historyItems units = f.items.take m ∧ n / 2 ≤ m

variable {f : BiliFeed} {limits : Nat → Nat} {binding : BiliBinding}

theorem historyItems_snoc (units : List BiliScanCoverage) (c : BiliScanCoverage) :
    historyItems (units ++ [c]) =
      historyItems units ++ if c.summary.lane = .history then c.consumed else [] := by
  unfold historyItems InHistory
  rw [List.filter_append, List.flatMap_append]
  by_cases h : c.summary.lane = .history
  · simp [h]
  · simp [h]

theorem runBiliUnits_between (f : BiliFeed) (binding : BiliBinding)
    (hlimits : ∀ n, 1 ≤ limits n ∧ limits n ≤ 2 ^ 63 - 1) (n : Nat) :
    ∃ units s, runBiliUnits f limits (.initial binding) n = .ok (units, s) ∧ Between f n s ∧
      ((∃ k units' s', k ≤ n ∧ runBiliUnits f limits (.initial binding) k = .ok (units', s') ∧
        CompletesHistory f units') ∨ Sweeping f n units s) := by
  induction n with
  | zero =>
    have hbetween : Between f 0 (.initial binding) :=
      ⟨rfl, ⟨0, position_start⟩, ⟨0, position_start⟩⟩
    have hsweeping : Sweeping f 0 [] (.initial binding) := by
      refine ⟨fun c hc => ?_, 0, position_start, ?_, Nat.le_refl _⟩
      · cases hc
      · rw [List.take_zero]
        rfl
    exact ⟨[], .initial binding, rfl, hbetween, .inr hsweeping⟩
  | succ n ih =>
    obtain ⟨units, s, hrun, hbetween, hhistory⟩ := ih
    have hrun' : ∀ {c : BiliScanCoverage}, runBiliUnit (fun _ => f) s (limits n) = .ok c →
        runBiliUnits f limits (.initial binding) (n + 1) = .ok (units ++ [c], c.nextState) := by
      intro c hc
      unfold runBiliUnits
      rw [hrun]
      change runBiliUnit _ s _ >>= _ = _
      rw [hc]
      rfl
    have hnext := hbetween.next
    by_cases heven : n % 2 = 0
    · -- a head unit leaves the history lane where it was
      rw [if_pos heven] at hnext
      obtain ⟨m, hm⟩ := hbetween.head
      obtain ⟨c, hc, hover⟩ := runBiliUnit_over (s := s) (by rw [hnext]; exact hm) (hlimits n)
      have hlane := hover.lane.trans hnext
      have hposition := hover.position
      rw [hnext] at hposition
      refine ⟨_, _, hrun' hc, ⟨?_, ⟨_, hposition⟩, ?_⟩, ?_⟩
      · rw [hover.next, hnext, if_neg (by omega)]
        rfl
      · rw [hover.history hnext]
        exact hbetween.history
      · rcases hhistory with ⟨k, units', s', hk, hdone⟩ | ⟨hopen, m', hm', hitems, hcount⟩
        · exact .inl ⟨k, units', s', Nat.le_succ_of_le hk, hdone⟩
        · refine .inr ⟨fun d hd => ?_, m', ?_, ?_, by omega⟩
          · rcases List.mem_append.mp hd with hd | hd
            · exact hopen d hd
            · rw [List.mem_singleton] at hd
              subst hd
              exact fun hends => absurd (hlane.symm.trans hends.1) nofun
          · rw [hover.history hnext]
            exact hm'
          · rw [historyItems_snoc, hlane, hitems]
            simp
    · rw [if_neg heven] at hnext
      obtain ⟨m, hm⟩ := hbetween.history
      obtain ⟨c, hc, hover⟩ := runBiliUnit_over (s := s) (by rw [hnext]; exact hm) (hlimits n)
      have hlane := hover.lane.trans hnext
      have hposition := hover.position
      rw [hnext] at hposition
      refine ⟨_, _, hrun' hc, ⟨?_, ?_, ⟨_, hposition⟩⟩, ?_⟩
      · rw [hover.next, hnext, if_pos (by omega)]
        rfl
      · rw [hover.head hnext]
        exact hbetween.head
      · rcases hhistory with ⟨k, units', s', hk, hdone⟩ | ⟨hopen, m', hm', hitems, hcount⟩
        · exact .inl ⟨k, units', s', Nat.le_succ_of_le hk, hdone⟩
        · have hmm : m = m' := hm.count.trans hm'.count.symm
          subst hmm
          have hsnoc : historyItems (units ++ [c]) = f.items.take (m + c.consumed.length) := by
            rw [historyItems_snoc, if_pos hlane, hitems, List.take_add, ← hover.taken]
          by_cases hend : c.summary.stopReason = .sourceEnd
          · refine .inl ⟨n + 1, _, _, Nat.le_refl _, hrun' hc, ⟨units, c, rfl, ⟨hlane, hend⟩, hopen⟩,
              ?_⟩
            rw [hsnoc, hover.finished hend, List.take_length]
          · obtain ⟨hne, hstays⟩ := hover.progress hnext hend
            rw [hnext] at hstays
            have hpos := List.length_pos_iff.mpr hne
            refine .inr ⟨fun d hd => ?_, _, hstays, hsnoc, by omega⟩
            rcases List.mem_append.mp hd with hd | hd
            · exact hopen d hd
            · rw [List.mem_singleton] at hd
              subst hd
              exact fun hends => hend hends.2

/-- Over a feed that does not change no unit is refused, and within two units
for each item and two more the history units have consumed exactly the feed. -/
theorem bili_history_complete (f : BiliFeed) (binding : BiliBinding) (limits : Nat → Nat)
    (hlimits : ∀ n, 1 ≤ limits n ∧ limits n ≤ 2 ^ 63 - 1) :
    (∀ n, ∃ units s, runBiliUnits f limits (.initial binding) n = .ok (units, s)) ∧
    ∃ n units s, n ≤ 2 * (f.items.length + 1) ∧
      runBiliUnits f limits (.initial binding) n = .ok (units, s) ∧ CompletesHistory f units := by
  refine ⟨fun n => ?_, ?_⟩
  · obtain ⟨units, s, hrun, _⟩ := runBiliUnits_between f binding hlimits n
    exact ⟨units, s, hrun⟩
  · obtain ⟨units, s, hrun, _, hhistory⟩ := runBiliUnits_between f binding
      hlimits (2 * (f.items.length + 1))
    rcases hhistory with ⟨k, units', s', hk, hdone⟩ | ⟨_, m, hm, _, hcount⟩
    · exact ⟨k, units', s', hk, hdone⟩
    · have hwithin := hm.within
      omega

def biliSampleItem (aid bvid : String) (pubdate : Nat) (hdate : 1 ≤ pubdate ∧ pubdate ≤ 253402300799)
    (h : validAid aid = true ∧ validBvid bvid = true) : BiliIdentity :=
  ⟨aid, bvid, ⟨pubdate, hdate⟩, h⟩

/-- Two uploads of one second. -/
def biliSampleFeed : BiliFeed where
  items := [biliSampleItem "7" "BV1xx411c7mD" 1700000000 (by decide) (by decide),
    biliSampleItem "5" "BV1xx411c7mQ" 1700000000 (by decide) (by decide)]
  aids := by decide
  bvids := by decide
  sorted := by decide
  bounded := by decide

theorem bili_history_complete_sample :
    (∀ n, ∃ units s,
      runBiliUnits biliSampleFeed (fun _ => 1) (.initial ⟨"a", "b", "c"⟩) n = .ok (units, s)) ∧
    ∃ n units s, n ≤ 6 ∧
      runBiliUnits biliSampleFeed (fun _ => 1) (.initial ⟨"a", "b", "c"⟩) n = .ok (units, s) ∧
      CompletesHistory biliSampleFeed units :=
  bili_history_complete biliSampleFeed ⟨"a", "b", "c"⟩ (fun _ => 1) (fun _ => by decide)

end MediaSync.Scan
