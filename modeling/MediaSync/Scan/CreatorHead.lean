import MediaSync.Scan.CreatorHistory

/-!
# What the head of a creator list misses

Once a subscription is incremental its units list the first page only: a complete
page becomes the boundary that the next listing is compared with, and the head
starts again at the empty cursor. A new item is stored if the first page still
shows it when a unit gets to list it and if the page stands still until it is
complete. An item that newer ones have pushed off the page is never asked for.
-/

namespace MediaSync.Scan

variable {p : CreatorPlatform}

namespace CreatorScanUnit

variable {u v : CreatorScanUnit p} {page : CreatorPage p}

/-- A head unit that has completed its page makes it the boundary. -/
theorem finishPage_head (hlane : u.state.lane = .head)
    (hcount : u.state.completedIds.length = page.identities.length)
    (h : u.finishPage page = .ok v) :
    v.state.toCreatorScanFields =
      { u.leaving "" with headBoundary := some page.witness.identities } := by
  unfold finishPage at h
  rw [if_neg (not_not_intro hcount), hlane] at h
  exact replace_fields h

end CreatorScanUnit

open CreatorScanUnit

/-- The scan lists the first page and compares it with the boundary. -/
structure AtHead (boundary : List (ListingIdentity p)) (s : CreatorScanState p) : Prop where
  lane : s.lane = .head
  cursor : s.pageCursor = ""
  boundary : s.headBoundary = some boundary

theorem ListingIdentity.ext_fields {x y : ListingIdentity p} (hid : x.id = y.id)
    (hsha : x.listingSha256 = y.listingSha256) : x = y := by
  cases x
  cases y
  cases hid
  cases hsha
  rfl

theorem AtHead.known_iff {boundary : List (ListingIdentity p)} {s : CreatorScanState p}
    (h : AtHead boundary s) (i : CreatorIdentity p) :
    s.known i = true ↔ i.toListingIdentity ∈ boundary := by
  have hnodup := (s.valid.boundary boundary h.boundary).2
  simp only [CreatorScanState.known, h.lane, h.boundary, decide_true, Bool.true_and,
    Option.getD_some, decide_eq_true_eq]
  refine ⟨fun hlisted => ?_, fun hmem => listedSha256_of_mem hnodup hmem⟩
  unfold listedSha256 at hlisted
  cases hfind : boundary.find? (fun j => j.id = i.id) with
  | none =>
    rw [hfind] at hlisted
    cases hlisted
  | some j =>
    rw [hfind] at hlisted
    have hid : j.id = i.id := by simpa using List.find?_some hfind
    have hsha : j.listingSha256 = i.listingSha256 := Option.some.inj hlisted
    rw [← ListingIdentity.ext_fields hid hsha]
    exact List.mem_of_find?_eq_some hfind

/-- The items of the page that no unit completed yet. -/
def CreatorScanState.unfinished (s : CreatorScanState p) (page : CreatorPage p) :
    List (CreatorIdentity p) :=
  page.identities.filter (fun i => !s.keeps i)

/-- Where a head unit leaves the scan: with a new boundary, or further into its page. -/
inductive HeadMoves (boundary : List (ListingIdentity p)) (s : CreatorScanState p)
    (page : CreatorPage p) (limit : Nat) (c : CreatorScanCoverage p) : Prop
  | completes : (s.unfinished page).length ≤ limit → c.summary.pageComplete = true →
      AtHead page.witness.identities c.nextState → c.nextState.witness = none →
      HeadMoves boundary s page limit c
  | stays : limit < (s.unfinished page).length → c.summary.pageComplete = false →
      AtHead boundary c.nextState → c.nextState.witness = some page.witness →
      (∀ i ∈ page.identities, i.id ∈ c.nextState.completedIds ↔
        s.keeps i = true ∨ i ∈ (s.unfinished page).take limit) →
      HeadMoves boundary s page limit c

structure HeadSettles (boundary : List (ListingIdentity p)) (s : CreatorScanState p)
    (page : CreatorPage p) (limit : Nat) (c : CreatorScanCoverage p) : Prop where
  lane : c.summary.lane = .head
  outcomes : c.outcomes = ((s.unfinished page).take limit).map (settled s.known)
  moves : HeadMoves boundary s page limit c

theorem observePage_boundary {s : CreatorScanState p} {maxItems : Nat} {page : CreatorPage p}
    {u : CreatorScanUnit p} (hcursor : page.inputCursor = s.pageCursor) (hlane : s.lane = .head)
    (h : (fresh s maxItems).observePage page = .ok u) :
    u.state.headBoundary = s.headBoundary := by
  have hulane := observePage_lane hcursor h
  rw [observePage_fresh s maxItems hcursor] at h
  cases hw : (fresh s maxItems).witnessed page with
  | error e =>
    rw [hw] at h
    cases h
  | ok w =>
    rw [hw] at h
    have hwboundary : w.state.headBoundary = s.headBoundary ∧ w.state.lane = s.lane := by
      unfold witnessed at hw
      split at hw
      · split_ifs at hw
        rw [replace_fields hw]
        exact ⟨rfl, rfl⟩
      · rw [replace_fields hw]
        exact ⟨rfl, rfl⟩
    have hbounded : bounded { w with page := some page } page = .ok u := h
    unfold bounded at hbounded
    rw [if_neg (by simp [hwboundary.2, hlane])] at hbounded
    obtain rfl := Except.ok.inj hbounded
    exact hwboundary.1

theorem head_unit {boundary : List (ListingIdentity p)} {s : CreatorScanState p}
    (h : AtHead boundary s) {page : CreatorPage p} (hcursor : page.inputCursor = "")
    (hwitness : ∀ w ∈ s.witness, w = page.witness) {maxItems : Nat}
    (hmax : 1 ≤ maxItems ∧ maxItems ≤ 1000) :
    ∃ c, captureCreatorUnit s maxItems (.page page) (fun _ => .stored) = .ok c ∧
      HeadSettles boundary s page (min maxItems p.pageSize) c := by
  have hcursor' : page.inputCursor = s.pageCursor := hcursor.trans h.cursor.symm
  have hshape : ∀ w ∈ s.witness, SameShape w page := by
    intro w hw
    obtain rfl := hwitness w hw
    exact ⟨rfl, rfl, rfl, rfl⟩
  obtain ⟨u, v, c, hrun, hc, hsettles⟩ := unit_settles hcursor' hshape hmax
  have hunder := hc.start.underway
  have hlane : u.state.lane = .head := (observePage_lane hcursor' hc.accepted).trans h.lane
  have hboundary : u.state.headBoundary = some boundary :=
    (observePage_boundary hcursor' h.lane hc.accepted).trans h.boundary
  have hroom : u.limit - u.outcomes.length = min maxItems p.pageSize := by
    rw [hc.start.outcomes, hc.start.limit]
    rfl
  have hasked : asked s.keeps page u = s.unfinished page := by
    unfold asked CreatorScanState.unfinished
    rw [hc.start.index, List.drop_zero]
  have hlisted : v.page.isSome = true := by
    rw [hc.closed.listed, hunder.listed]
    rfl
  have hcomplete := hc.covers.complete
  rw [hlisted, Bool.true_and] at hcomplete
  have hnext := hc.covers.nextState
  rw [hasked] at hsettles
  refine ⟨c, hrun, ?_, ?_, ?_⟩
  · rw [hc.covers.lane, hc.closed.inputState, hc.start.inputState]
    exact h.lane
  · rw [hc.covers.outcomes]
    cases hsettles with
    | leaves x hlen _ houtcomes =>
      rw [houtcomes, hc.start.outcomes, List.nil_append, List.take_of_length_le (hroom ▸ hlen)]
    | stays _ _ houtcomes => rw [houtcomes, hroom, hc.start.outcomes, List.nil_append]
  · cases hsettles with
    | leaves x hlen hfinish _ hfields =>
      have hcount := completed_of_asked hunder hc.start.index (hasked ▸ hfields)
      have hvfields := finishPage_head
        ((congrArg CreatorScanFields.lane hfields).trans hlane) hcount hfinish
      have hvwitness : v.state.witness = none := congrArg CreatorScanFields.witness hvfields
      rw [hvfields] at hnext
      refine .completes (hroom ▸ hlen) ?_ ⟨?_, ?_, ?_⟩ ?_
      · rw [hcomplete, hvwitness]
        rfl
      · rw [hnext]
        exact (congrArg CreatorScanFields.lane hfields).trans hlane
      all_goals rw [hnext]
      all_goals rfl
    | stays hlen _ _ hfields =>
      rw [hroom] at hlen
      rw [hfields, hroom] at hnext
      have hvwitness : v.state.witness = some page.witness :=
        (congrArg CreatorScanFields.witness hfields).trans hunder.witness
      refine .stays hlen ?_ ⟨?_, ?_, ?_⟩ ?_ ?_
      · rw [hcomplete, hvwitness]
        rfl
      · rw [hnext]
        exact hlane
      · rw [hnext, ← hcursor]
        exact hunder.pageCursor_eq
      · rw [hnext]
        exact hboundary
      · rw [hnext]
        exact hunder.witness
      · intro i hi
        have hahead := hunder.ahead i (by rwa [hc.start.index, List.drop_zero])
        rw [hnext]
        simp only [List.mem_append, hahead]
        refine or_congr_right ⟨fun hid => ?_, fun hmem => List.mem_map.2 ⟨i, hmem, rfl⟩⟩
        obtain ⟨j, hj, hid⟩ := List.mem_map.1 hid
        have hjpage : j ∈ page.identities := List.mem_of_mem_filter (List.mem_of_mem_take hj)
        rwa [← List.inj_on_of_nodup_map (page_ids_nodup page) hjpage hi hid]

/-- The first page that the platform shows of a list, newest items first. -/
structure ListHead (p : CreatorPlatform) where
  page : List (ListingIdentity p) → PageWitness p
  start : ∀ items, (page items).inputCursor = ""
  newest : ∀ items, (page items).identities <+: items

/-- The list as it is now, the scan state, and what units have stored so far. -/
structure HeadScan (p : CreatorPlatform) where
  items : List (ListingIdentity p)
  state : CreatorScanState p
  stored : List (ListingIdentity p)

/-- The state that delivery leaves behind an incremental unit: a complete head page
restarts the head. -/
def CreatorScanCoverage.continued (c : CreatorScanCoverage p) :
    Except ScanError (CreatorScanState p) :=
  if c.summary.lane = .head ∧ c.summary.pageComplete = true then c.nextState.forHead
  else .ok c.nextState

/-- A unit over the first page; all details succeed. -/
def HeadScan.unit (x : HeadScan p) (page : CreatorPage p) (maxItems : Nat) :
    Except ScanError (HeadScan p) := do
  let c ← captureCreatorUnit x.state maxItems (.page page) (fun _ => .stored)
  let state ← c.continued
  .ok { x with
    state := state
    stored := x.stored ++ c.successful.map CreatorIdentity.toListingIdentity }

/-- A unit runs; one that is refused changes nothing. -/
inductive UnitStep (head : ListHead p) : HeadScan p → HeadScan p → Prop
  | accepted {x y : HeadScan p} {page : CreatorPage p} {maxItems : Nat}
      (hpage : page.witness = head.page x.items) (hmax : 1 ≤ maxItems ∧ maxItems ≤ 1000)
      (hrun : x.unit page maxItems = .ok y) : UnitStep head x y
  | refused {x : HeadScan p} {page : CreatorPage p} {maxItems : Nat} {e : ScanError}
      (hpage : page.witness = head.page x.items) (hmax : 1 ≤ maxItems ∧ maxItems ≤ 1000)
      (hrun : x.unit page maxItems = .error e) : UnitStep head x x

/-- New items with fresh ids appear in front. -/
inductive Grows : HeadScan p → HeadScan p → Prop
  | grows (x : HeadScan p) (newer : List (ListingIdentity p))
      (hfresh : ((newer ++ x.items).map ListingIdentity.id).Nodup) :
      Grows x { x with items := newer ++ x.items }

/-- The subscription has just become incremental: the boundary is the first page. -/
structure StartsIncremental (head : ListHead p) (x : HeadScan p) : Prop where
  atHead : AtHead (head.page x.items).identities x.state
  unseen : x.state.witness = none
  ids : (x.items.map ListingIdentity.id).Nodup
  stored : x.stored = []

/-- The items in front of the boundary. -/
def HeadScan.newer (x : HeadScan p) : List (ListingIdentity p) :=
  x.items.takeWhile fun i => i ∉ x.state.headBoundary.getD []

/-- A page that a unit begins shows all items in front of the boundary. -/
def Reaches (head : ListHead p) (x : HeadScan p) : Prop :=
  x.state.witness = none → x.newer.length ≤ (head.page x.items).identities.length

/-- The list grows between pages only, and no item in front of the boundary is
pushed off the page before it is listed. -/
def Gentle (head : ListHead p) (x y : HeadScan p) : Prop :=
  (Grows x y ∧ x.state.witness = none) ∨ (UnitStep head x y ∧ Reaches head x)

/-- Units one after another, each from a state where `allowed` holds, while the list
stands still. -/
def Units (head : ListHead p) (allowed : HeadScan p → Prop) :
    Nat → HeadScan p → HeadScan p → Prop
  | 0, x, y => x = y
  | n + 1, x, z => ∃ y, UnitStep head x y ∧ allowed x ∧ Units head allowed n y z

variable {head : ListHead p} {start : List (ListingIdentity p)}

/-- The item was there from the start, or a unit has stored it. -/
def HeadScan.Handled (start : List (ListingIdentity p)) (x : HeadScan p)
    (i : ListingIdentity p) : Prop := i ∈ start ∨ i ∈ x.stored

/-- The invariant of a gentle run. -/
structure Tracked (head : ListHead p) (start : List (ListingIdentity p))
    (boundary : List (ListingIdentity p)) (x : HeadScan p) : Prop where
  atHead : AtHead boundary x.state
  ids : (x.items.map ListingIdentity.id).Nodup
  listed : ∀ i ∈ boundary, i ∈ x.items
  behind : ∀ i ∈ boundary, x.Handled start i
  passed : ∀ i ∈ x.items.dropWhile (fun i => i ∉ boundary), x.Handled start i
  shown : ∀ w ∈ x.state.witness, w = head.page x.items ∧
    (x.items.takeWhile fun i => i ∉ boundary).length ≤ w.identities.length ∧
    ∀ i ∈ w.identities, i.id ∈ x.state.completedIds → x.Handled start i

theorem StartsIncremental.tracked {x : HeadScan p} (h : StartsIncremental head x) :
    Tracked head x.items (head.page x.items).identities x where
  atHead := h.atHead
  ids := h.ids
  listed := fun i hi => (head.newest x.items).subset hi
  behind := fun i hi => .inl ((head.newest x.items).subset hi)
  passed := fun i hi => .inl ((List.dropWhile_sublist _).subset hi)
  shown := by
    rw [h.unseen]
    nofun

theorem Tracked.grows {boundary : List (ListingIdentity p)} {x y : HeadScan p}
    (h : Tracked head start boundary x) (hgrows : Grows x y) (hunseen : x.state.witness = none) :
    Tracked head start boundary y := by
  obtain ⟨newer, hfresh⟩ := hgrows
  have hapart : ∀ i ∈ newer, decide (i ∉ boundary) = true := by
    intro i hi
    rw [decide_eq_true_eq]
    intro hmem
    rw [List.map_append, List.nodup_append] at hfresh
    exact hfresh.2.2 _ (List.mem_map_of_mem hi) _ (List.mem_map_of_mem (h.listed i hmem)) rfl
  exact
    { atHead := h.atHead
      ids := hfresh
      listed := fun i hi => List.mem_append_right _ (h.listed i hi)
      behind := h.behind
      passed := by
        intro i hi
        rw [show (newer ++ x.items).dropWhile (fun i => decide (i ∉ boundary)) = _ from
          List.dropWhile_append_of_pos hapart] at hi
        exact h.passed i hi
      shown := by
        rw [show ({ x with items := newer ++ x.items } : HeadScan p).state.witness = none from
          hunseen]
        nofun }

/-! ## One unit of a gentle run -/

theorem forHead_ok {boundary : List (ListingIdentity p)} {s : CreatorScanState p}
    (hboundary : s.headBoundary = some boundary) :
    ∃ s', s.forHead = .ok s' ∧ AtHead boundary s' ∧ s'.witness = none := by
  have hvalid : ({ s.toCreatorScanFields with
      lane := .head, pageCursor := "", witness := none, index := 0, completedIds := [],
      lastUnit := none } : CreatorScanFields p).Valid :=
    { s.valid.leaving (show validCursor "" = true by decide) with }
  refine ⟨⟨_, hvalid⟩, ?_, ⟨rfl, rfl, hboundary⟩, rfl⟩
  unfold CreatorScanState.forHead
  rw [if_neg (by rw [hboundary]; simp), CreatorScanState.make_ok hvalid]

theorem unfinished_mem {s : CreatorScanState p} {page : CreatorPage p} {limit : Nat}
    {i : CreatorIdentity p} (hi : i ∈ (s.unfinished page).take limit) : i ∈ page.identities :=
  List.mem_of_mem_filter (List.mem_of_mem_take hi)

/-- What a unit settles is handled: it is stored, or the boundary shows it. -/
theorem Tracked.settled_handled {boundary : List (ListingIdentity p)} {x y : HeadScan p}
    (h : Tracked head start boundary x) {page : CreatorPage p} {limit : Nat}
    {c : CreatorScanCoverage p} (hc : HeadSettles boundary x.state page limit c)
    (hstored : y.stored = x.stored ++ c.successful.map CreatorIdentity.toListingIdentity)
    {i : CreatorIdentity p} (hi : i ∈ (x.state.unfinished page).take limit) :
    y.Handled start i.toListingIdentity := by
  rw [HeadScan.Handled, hstored]
  by_cases hknown : x.state.known i = true
  · exact (h.behind _ ((h.atHead.known_iff i).1 hknown)).imp_right (List.mem_append_left _)
  · refine .inr (List.mem_append_right _ (List.mem_map_of_mem ?_))
    unfold CreatorScanCoverage.successful
    refine List.mem_map.2 ⟨settled x.state.known i, List.mem_filter.2 ⟨?_, ?_⟩, rfl⟩
    · rw [hc.outcomes]
      exact List.mem_map_of_mem hi
    · simp [settled, statusOf, hknown]

/-- What the unit kept of its page is handled. -/
theorem Tracked.kept_handled {boundary : List (ListingIdentity p)} {x : HeadScan p}
    (h : Tracked head start boundary x) {page : CreatorPage p}
    (hpage : page.witness = head.page x.items) {i : CreatorIdentity p}
    (hi : i ∈ page.identities) (hkept : x.state.keeps i = true) :
    x.state.witness = some page.witness ∧ i.id ∈ x.state.completedIds ∧
      x.Handled start i.toListingIdentity := by
  unfold CreatorScanState.keeps at hkept
  cases hw : x.state.witness with
  | none =>
    rw [hw] at hkept
    cases hkept
  | some w =>
    obtain ⟨hwpage, -, hdone⟩ := h.shown w hw
    obtain rfl := hwpage.trans hpage.symm
    rw [hw, Bool.and_eq_true, decide_eq_true_eq] at hkept
    exact ⟨rfl, hkept.1, hdone _ (List.mem_map_of_mem hi) hkept.1⟩

/-- What a unit of a gentle run comes to. -/
structure UnitTracked (head : ListHead p) (start : List (ListingIdentity p))
    (boundary : List (ListingIdentity p)) (x y : HeadScan p) : Prop where
  items : y.items = x.items
  handled : ∀ i, x.Handled start i → y.Handled start i
  moves : (Tracked head start (head.page x.items).identities y ∧
      ∀ i ∈ y.items, y.Handled start i) ∨
    (Tracked head start boundary y ∧ y.state.witness = some (head.page x.items) ∧
      x.state.completedIds.length + 1 ≤ y.state.completedIds.length)

/-- The scan after a unit that left this coverage and this state. -/
def HeadScan.after (x : HeadScan p) (c : CreatorScanCoverage p) (state : CreatorScanState p) :
    HeadScan p :=
  { x with
    state := state
    stored := x.stored ++ c.successful.map CreatorIdentity.toListingIdentity }

theorem HeadScan.unit_ok {x : HeadScan p} {page : CreatorPage p} {maxItems : Nat}
    {c : CreatorScanCoverage p} {s' : CreatorScanState p}
    (hc : captureCreatorUnit x.state maxItems (.page page) (fun _ => .stored) = .ok c)
    (hcontinued : c.continued = .ok s') : x.unit page maxItems = .ok (x.after c s') := by
  unfold HeadScan.unit
  rw [hc]
  simp only [bind, Except.bind, hcontinued]
  rfl

theorem HeadScan.Handled.after {x : HeadScan p} {i : ListingIdentity p} (h : x.Handled start i)
    (c : CreatorScanCoverage p) (s' : CreatorScanState p) : (x.after c s').Handled start i :=
  h.imp_right (List.mem_append_left _)

/-- The items in front of the boundary are on the page. -/
theorem Tracked.newer_shown {boundary : List (ListingIdentity p)} {x : HeadScan p}
    (h : Tracked head start boundary x) (hreaches : Reaches head x) :
    (x.items.takeWhile fun i => i ∉ boundary) <+: (head.page x.items).identities := by
  refine List.prefix_of_prefix_length_le (List.takeWhile_prefix _) (head.newest x.items) ?_
  cases hw : x.state.witness with
  | none =>
    have hlen := hreaches hw
    unfold HeadScan.newer at hlen
    rw [h.atHead.boundary] at hlen
    exact hlen
  | some w => exact (h.shown w hw).1 ▸ (h.shown w hw).2.1

/-- A unit that completes its page has handled the whole list. -/
theorem Tracked.completed {boundary : List (ListingIdentity p)} {x : HeadScan p}
    (h : Tracked head start boundary x) (hreaches : Reaches head x) {page : CreatorPage p}
    (hpage : page.witness = head.page x.items) {limit : Nat} {c : CreatorScanCoverage p}
    (hunit : HeadSettles boundary x.state page limit c)
    (hlen : (x.state.unfinished page).length ≤ limit) {s' : CreatorScanState p}
    (hhead : AtHead page.witness.identities s') (hnone : s'.witness = none) :
    UnitTracked head start boundary x (x.after c s') := by
  have hpageHandled : ∀ i ∈ page.witness.identities, (x.after c s').Handled start i := by
    intro i hi
    obtain ⟨j, hj, rfl⟩ := List.mem_map.1 hi
    by_cases hkept : x.state.keeps j = true
    · exact (h.kept_handled hpage hj hkept).2.2.after c s'
    · refine h.settled_handled hunit rfl ?_
      rw [List.take_of_length_le hlen]
      exact List.mem_filter.2 ⟨hj, by simpa using hkept⟩
  have hall : ∀ i ∈ x.items, (x.after c s').Handled start i := by
    intro i hi
    rw [← List.takeWhile_append_dropWhile (p := fun i => decide (i ∉ boundary)) (l := x.items)]
      at hi
    rcases List.mem_append.1 hi with hi | hi
    · exact hpageHandled i (hpage ▸ (h.newer_shown hreaches).subset hi)
    · exact (h.passed i hi).after c s'
  refine ⟨rfl, fun i hi => hi.after c s', .inl ⟨?_, hall⟩⟩
  rw [← hpage]
  exact
    { atHead := hhead
      ids := h.ids
      listed := fun i hi => (head.newest x.items).subset (hpage ▸ hi)
      behind := hpageHandled
      passed := fun i hi => hall i ((List.dropWhile_sublist _).subset hi)
      shown := by
        rw [show (x.after c s').state.witness = none from hnone]
        nofun }

/-- A unit that stays on its page completes an item that was not completed before. -/
theorem completedIds_grow {s t : CreatorScanState p} {page : CreatorPage p} {limit : Nat}
    (hwitness : ∀ w ∈ s.witness, w = page.witness) (hlimit : 1 ≤ limit)
    (hlen : limit < (s.unfinished page).length)
    (hdone : ∀ i ∈ page.identities, i.id ∈ t.completedIds ↔
      s.keeps i = true ∨ i ∈ (s.unfinished page).take limit) :
    s.completedIds.length + 1 ≤ t.completedIds.length := by
  obtain ⟨i, rest, hrest⟩ : ∃ i rest, (s.unfinished page).take limit = i :: rest := by
    cases htake : (s.unfinished page).take limit with
    | nil =>
      have hzero := congrArg List.length htake
      rw [List.length_take, List.length_nil] at hzero
      omega
    | cons i rest => exact ⟨i, rest, rfl⟩
  have htaken : i ∈ (s.unfinished page).take limit := by
    rw [hrest]
    exact List.mem_cons_self ..
  have hi := unfinished_mem htaken
  have hnew : i.id ∉ s.completedIds := by
    rw [← keeps_iff_completed hwitness hi]
    simpa using (List.mem_filter.1 (List.mem_of_mem_take htaken)).2
  have hold : ∀ id ∈ s.completedIds, id ∈ t.completedIds := by
    intro id hid
    cases hw : s.witness with
    | none =>
      rw [(s.valid.unseen hw).2] at hid
      cases hid
    | some w =>
      obtain rfl := hwitness w hw
      have hshown := (s.valid.fits _ hw).2.2 id hid
      rw [witness_ids] at hshown
      obtain ⟨j, hj, rfl⟩ := List.mem_map.1 hshown
      exact (hdone j hj).2 (.inl ((keeps_iff_completed hwitness hj).2 hid))
  refine (List.subperm_of_subset (List.nodup_cons.2 ⟨hnew, s.valid.completedOnce⟩) ?_).length_le
  intro id hid
  rcases List.mem_cons.1 hid with rfl | hid
  · exact (hdone i hi).2 (.inr htaken)
  · exact hold id hid

/-- A unit that stays on its page keeps the boundary. -/
theorem Tracked.stayed {boundary : List (ListingIdentity p)} {x : HeadScan p}
    (h : Tracked head start boundary x) (hreaches : Reaches head x) {page : CreatorPage p}
    (hpage : page.witness = head.page x.items) {limit : Nat} {c : CreatorScanCoverage p}
    (hunit : HeadSettles boundary x.state page limit c) (hhead : AtHead boundary c.nextState)
    (hsome : c.nextState.witness = some page.witness)
    (hdone : ∀ i ∈ page.identities, i.id ∈ c.nextState.completedIds ↔
      x.state.keeps i = true ∨ i ∈ (x.state.unfinished page).take limit) :
    Tracked head start boundary (x.after c c.nextState) where
  atHead := hhead
  ids := h.ids
  listed := h.listed
  behind := fun i hi => (h.behind i hi).after c _
  passed := fun i hi => (h.passed i hi).after c _
  shown := by
    intro w hw
    obtain rfl : page.witness = w := Option.some.inj (hsome.symm.trans hw)
    refine ⟨hpage, hpage ▸ (h.newer_shown hreaches).length_le, ?_⟩
    intro i hi hid
    obtain ⟨j, hj, rfl⟩ := List.mem_map.1 hi
    rcases (hdone j hj).1 hid with hkept | htaken
    · exact (h.kept_handled hpage hj hkept).2.2.after c _
    · exact h.settled_handled hunit rfl htaken

theorem Tracked.unit {boundary : List (ListingIdentity p)} {x : HeadScan p}
    (h : Tracked head start boundary x) (hreaches : Reaches head x) {page : CreatorPage p}
    (hpage : page.witness = head.page x.items) {maxItems : Nat}
    (hmax : 1 ≤ maxItems ∧ maxItems ≤ 1000) :
    ∃ y, x.unit page maxItems = .ok y ∧ UnitTracked head start boundary x y := by
  have hcursor : page.inputCursor = "" :=
    (congrArg PageWitness.inputCursor hpage).trans (head.start x.items)
  have hwitness : ∀ w ∈ x.state.witness, w = page.witness :=
    fun w hw => (h.shown w hw).1.trans hpage.symm
  have hlimit : 1 ≤ min maxItems p.pageSize := le_min hmax.1 (by cases p <;> decide)
  obtain ⟨c, hc, hunit⟩ := head_unit h.atHead hcursor hwitness hmax
  cases hunit.moves with
  | completes hlen hcomplete hhead hnone =>
    obtain ⟨s', hforHead, hhead', hnone'⟩ := forHead_ok hhead.boundary
    have hcontinued : c.continued = .ok s' := by
      unfold CreatorScanCoverage.continued
      rw [if_pos ⟨hunit.lane, hcomplete⟩, hforHead]
    exact ⟨_, HeadScan.unit_ok hc hcontinued, h.completed hreaches hpage hunit hlen hhead' hnone'⟩
  | stays hlen hcomplete hhead hsome hdone =>
    have hcontinued : c.continued = .ok c.nextState := by
      unfold CreatorScanCoverage.continued
      rw [if_neg (by simp [hcomplete])]
    exact ⟨_, HeadScan.unit_ok hc hcontinued, rfl, fun i hi => hi.after c _,
      .inr ⟨h.stayed hreaches hpage hunit hhead hsome hdone, hpage ▸ hsome,
        completedIds_grow hwitness hlimit hlen hdone⟩⟩

theorem Tracked.unitStep {boundary : List (ListingIdentity p)} {x y : HeadScan p}
    (h : Tracked head start boundary x) (hreaches : Reaches head x) (hstep : UnitStep head x y) :
    UnitTracked head start boundary x y := by
  cases hstep with
  | accepted hpage hmax hrun =>
    obtain ⟨z, hz, htracked⟩ := h.unit hreaches hpage hmax
    obtain rfl : z = y := Except.ok.inj (hz.symm.trans hrun)
    exact htracked
  | refused hpage hmax hrun =>
    obtain ⟨z, hz, -⟩ := h.unit hreaches hpage hmax
    rw [hrun] at hz
    cases hz

theorem Tracked.gentle {boundary : List (ListingIdentity p)} {x y : HeadScan p}
    (h : Tracked head start boundary x) (hstep : Gentle head x y) :
    ∃ boundary', Tracked head start boundary' y := by
  rcases hstep with ⟨hgrows, hunseen⟩ | ⟨hunit, hreaches⟩
  · exact ⟨boundary, h.grows hgrows hunseen⟩
  · rcases (h.unitStep hreaches hunit).moves with ⟨hy, -⟩ | ⟨hy, -⟩
    · exact ⟨_, hy⟩
    · exact ⟨boundary, hy⟩

theorem Tracked.run {boundary : List (ListingIdentity p)} {x y : HeadScan p}
    (h : Tracked head start boundary x) (hrun : Relation.ReflTransGen (Gentle head) x y) :
    ∃ boundary', Tracked head start boundary' y := by
  induction hrun with
  | refl => exact ⟨boundary, h⟩
  | tail _ hstep ih =>
    obtain ⟨_, hy⟩ := ih
    exact hy.gentle hstep

/-- Once everything on the list is handled it stays so while units run. -/
theorem Tracked.units_handled {n : Nat} {boundary : List (ListingIdentity p)} {y z : HeadScan p}
    (h : Tracked head start boundary y) (hall : ∀ i ∈ y.items, y.Handled start i)
    (hunits : Units head (Reaches head) n y z) : ∀ i ∈ z.items, z.Handled start i := by
  induction n generalizing y boundary with
  | zero =>
    obtain rfl := hunits
    exact hall
  | succ n ih =>
    obtain ⟨w, hstep, hreaches, hunits⟩ := hunits
    have hw := h.unitStep hreaches hstep
    have hwall : ∀ i ∈ w.items, w.Handled start i :=
      fun i hi => hw.handled i (hall i (hw.items ▸ hi))
    rcases hw.moves with ⟨hy, -⟩ | ⟨hy, -⟩
    · exact ih hy hwall hunits
    · exact ih hy hwall hunits

/-- Each unit completes an item at least, until the page is complete. -/
theorem Tracked.units {n : Nat} {boundary : List (ListingIdentity p)} {y z : HeadScan p}
    (h : Tracked head start boundary y) (hunits : Units head (Reaches head) n y z) :
    (∀ i ∈ z.items, z.Handled start i) ∨
      y.state.completedIds.length + n ≤ z.state.completedIds.length := by
  induction n generalizing y boundary with
  | zero =>
    obtain rfl := hunits
    exact .inr (Nat.le_refl _)
  | succ n ih =>
    obtain ⟨w, hstep, hreaches, hunits⟩ := hunits
    rcases (h.unitStep hreaches hstep).moves with ⟨hw, hall⟩ | ⟨hw, -, hprogress⟩
    · exact .inl (hw.units_handled hall hunits)
    · rcases ih hw hunits with hall | hlen
      · exact .inl hall
      · exact .inr (by omega)

/-- In a run in which the list grows between pages only and no new item is pushed off
the first page before it is listed, every new item is stored within one unit more than
a page has items once the list stands still. -/
theorem head_stores_every_item (head : ListHead p) {x y z : HeadScan p}
    (hx : StartsIncremental head x) (hrun : Relation.ReflTransGen (Gentle head) x y)
    {n : Nat} (hn : p.pageSize < n) (hunits : Units head (Reaches head) n y z) :
    ∀ i ∈ z.items, i ∈ x.items ∨ i ∈ z.stored := by
  obtain ⟨_, hy⟩ := hx.tracked.run hrun
  rcases hy.units hunits with hall | hlen
  · exact hall
  · have hbound := z.state.valid.completedLength
    omega

/-- The scan is at the head and may be part-way through the page that is shown. -/
structure Listing (head : ListHead p) (x : HeadScan p) : Prop where
  atHead : ∃ boundary, AtHead boundary x.state
  witness : ∀ w ∈ x.state.witness, w = head.page x.items

theorem Listing.unitStep {x y : HeadScan p} (h : Listing head x) (hstep : UnitStep head x y) :
    Listing head y ∧ y.items = x.items ∧
      ∀ i ∈ y.stored, i ∈ x.stored ∨ i ∈ (head.page x.items).identities := by
  cases hstep with
  | refused => exact ⟨h, rfl, fun i hi => .inl hi⟩
  | @accepted _ page maxItems hpage hmax hrun =>
    obtain ⟨boundary, hhead⟩ := h.atHead
    have hcursor : page.inputCursor = "" :=
      (congrArg PageWitness.inputCursor hpage).trans (head.start x.items)
    obtain ⟨c, hc, hunit⟩ := head_unit hhead hcursor
      (fun w hw => (h.witness w hw).trans hpage.symm) hmax
    unfold HeadScan.unit at hrun
    rw [hc] at hrun
    simp only [bind, Except.bind] at hrun
    have hstored : ∀ i ∈ c.successful.map CreatorIdentity.toListingIdentity,
        i ∈ (head.page x.items).identities := by
      intro i hi
      obtain ⟨j, hj, rfl⟩ := List.mem_map.1 hi
      unfold CreatorScanCoverage.successful at hj
      obtain ⟨o, ho, rfl⟩ := List.mem_map.1 hj
      have ho := List.mem_of_mem_filter ho
      rw [hunit.outcomes] at ho
      obtain ⟨k, hk, rfl⟩ := List.mem_map.1 ho
      rw [← hpage]
      exact List.mem_map_of_mem (unfinished_mem hk)
    have hlists : ∀ {state : CreatorScanState p} {boundary' : List (ListingIdentity p)},
        c.continued = .ok state → AtHead boundary' state →
        (∀ w ∈ state.witness, w = head.page x.items) →
        Listing head y ∧ y.items = x.items ∧
          ∀ i ∈ y.stored, i ∈ x.stored ∨ i ∈ (head.page x.items).identities := by
      intro state boundary' hcontinued hat hw
      rw [hcontinued] at hrun
      obtain rfl := Except.ok.inj hrun
      refine ⟨⟨⟨boundary', hat⟩, hw⟩, rfl, fun i hi => ?_⟩
      exact (List.mem_append.1 hi).imp_right (hstored i)
    cases hunit.moves with
    | completes _ hcomplete hhead' _ =>
      obtain ⟨s', hforHead, hat, hnone⟩ := forHead_ok hhead'.boundary
      refine hlists (?_ : c.continued = .ok s') hat (by rw [hnone]; nofun)
      unfold CreatorScanCoverage.continued
      rw [if_pos ⟨hunit.lane, hcomplete⟩, hforHead]
    | stays _ hcomplete hat hsome _ =>
      refine hlists (?_ : c.continued = .ok c.nextState) hat fun w hw => ?_
      · unfold CreatorScanCoverage.continued
        rw [if_neg (by simp [hcomplete])]
      · rw [← hpage]
        exact Option.some.inj (hw.symm.trans hsome)

/-- No unit asks for an item that the first page does not show. -/
theorem Listing.units {n : Nat} {y z : HeadScan p} (h : Listing head y)
    (hunits : Units head (fun _ => True) n y z) :
    z.items = y.items ∧
      ∀ i ∈ z.stored, i ∈ y.stored ∨ i ∈ (head.page y.items).identities := by
  induction n generalizing y with
  | zero =>
    obtain rfl := hunits
    exact ⟨rfl, fun i hi => .inl hi⟩
  | succ n ih =>
    obtain ⟨w, hstep, -, hunits⟩ := hunits
    obtain ⟨hw, hitems, hstored⟩ := h.unitStep hstep
    obtain ⟨hzitems, hzstored⟩ := ih hw hunits
    rw [hitems] at hzitems hzstored
    refine ⟨hzitems, fun i hi => ?_⟩
    rcases hzstored i hi with hi | hi
    · exact hstored i hi
    · exact .inr hi

/-- Units can go on whatever they do. -/
theorem units_exist {page : CreatorPage p} (n : Nat) {y : HeadScan p} (h : Listing head y)
    (hpage : page.witness = head.page y.items) :
    ∃ z, Units head (fun _ => True) n y z := by
  induction n generalizing y with
  | zero => exact ⟨y, rfl⟩
  | succ n ih =>
    obtain ⟨w, hstep⟩ : ∃ w, UnitStep head y w := by
      cases hrun : y.unit page 1 with
      | ok w => exact ⟨w, .accepted hpage (by decide) hrun⟩
      | error e => exact ⟨y, .refused hpage (by decide) hrun⟩
    obtain ⟨hw, hitems, -⟩ := h.unitStep hstep
    obtain ⟨z, hz⟩ := ih hw (hitems ▸ hpage)
    exact ⟨z, w, hstep, trivial, hz⟩

/-- With a page that shows something a gentle run can go on. -/
theorem Tracked.units_exist {page : CreatorPage p} (n : Nat)
    {boundary : List (ListingIdentity p)} {y : HeadScan p} (h : Tracked head start boundary y)
    (hreaches : Reaches head y) (hpage : page.witness = head.page y.items)
    (hshows : (head.page y.items).identities ≠ []) :
    ∃ z, Units head (Reaches head) n y z := by
  induction n generalizing y boundary with
  | zero => exact ⟨y, rfl⟩
  | succ n ih =>
    obtain ⟨w, hrun, hw⟩ := h.unit hreaches hpage (show 1 ≤ 1 ∧ 1 ≤ 1000 by decide)
    have hwreaches : Reaches head w := by
      intro hnone
      rcases hw.moves with ⟨hw', -⟩ | ⟨-, hsome, -⟩
      · obtain ⟨i, rest, hrest⟩ := List.exists_cons_of_ne_nil hshows
        obtain ⟨tail, htail⟩ := head.newest y.items
        have hfirst : i ∈ (head.page y.items).identities := by rw [hrest]; simp
        have hitems : y.items = i :: (rest ++ tail) := by rw [← htail, hrest]; rfl
        unfold HeadScan.newer
        rw [hw'.atHead.boundary, hw.items, Option.getD_some]
        generalize (head.page y.items).identities = shown at hfirst
        rw [hitems, List.takeWhile_cons_of_neg (by simpa using hfirst)]
        exact Nat.zero_le _
      · rw [hnone] at hsome
        cases hsome
    obtain ⟨z, hz⟩ : ∃ z, Units head (Reaches head) n w z := by
      rcases hw.moves with ⟨hw', -⟩ | ⟨hw', -⟩
      · exact ih hw' hwreaches (hw.items ▸ hpage) (hw.items ▸ hshows)
      · exact ih hw' hwreaches (hw.items ▸ hpage) (hw.items ▸ hshows)
    exact ⟨z, w, .accepted hpage (by decide) hrun, hreaches, hz⟩

/-- A platform that shows the two newest items. -/
def twoNewest (p : CreatorPlatform) : ListHead p where
  page items :=
    if h : PageWitness.Valid "" "c1" true (items.take 2) then ⟨"", "c1", true, items.take 2, h⟩
    else ⟨"", "c1", true, [], by cases p <;> decide⟩
  start := by
    intro items
    split_ifs <;> rfl
  newest := by
    intro items
    split_ifs
    · exact List.take_prefix _ _
    · exact List.nil_prefix

/-- The `n`th item to appear. -/
def sampleListing (p : CreatorPlatform) : Fin 4 → ListingIdentity p
  | 0 => (sampleItem p 0 (sampleId_zero p)).toListingIdentity
  | 1 => (sampleItem p 1 (sampleId_one p)).toListingIdentity
  | 2 => (sampleItem p 2 (sampleId_two p)).toListingIdentity
  | 3 => (sampleItem p 3 (sampleId_three p)).toListingIdentity

/-- A page of the two newest items. -/
def samplePageOf (p : CreatorPlatform) (a b : Fin 4)
    (h : (sampleListing p a).id ≠ (sampleListing p b).id) : CreatorPage p :=
  ⟨"", "c1", true, [⟨sampleListing p a, sampleToken p⟩, ⟨sampleListing p b, sampleToken p⟩], by
    constructor
    · decide
    · decide
    · show 2 ≤ p.pageSize
      cases p <;> decide
    · simpa using h
    · exact fun _ _ => by decide⟩

/-- One item, which is the boundary. -/
def sampleHeadScan (p : CreatorPlatform) : HeadScan p where
  items := [sampleListing p 0]
  state := ⟨⟨sampleBinding, .head, "", none, 0, [], some [sampleListing p 0], none⟩, by
    cases p <;> decide⟩
  stored := []

/-- The scan after new items were published. -/
def sampleGrown (p : CreatorPlatform) (newer : List (Fin 4)) : HeadScan p :=
  { sampleHeadScan p with items := newer.map (sampleListing p) ++ (sampleHeadScan p).items }

theorem sampleHeadScan_starts (p : CreatorPlatform) :
    StartsIncremental (twoNewest p) (sampleHeadScan p) where
  atHead := ⟨rfl, rfl, by cases p <;> decide +kernel⟩
  unseen := rfl
  ids := by cases p <;> decide +kernel
  stored := rfl

theorem sampleGrown_grows (p : CreatorPlatform) {newer : List (Fin 4)}
    (hfresh : (((newer.map (sampleListing p)) ++ (sampleHeadScan p).items).map
      ListingIdentity.id).Nodup) : Grows (sampleHeadScan p) (sampleGrown p newer) :=
  .grows _ _ hfresh

theorem sampleListing_ne (p : CreatorPlatform) :
    (sampleListing p 3).id ≠ (sampleListing p 2).id := by
  cases p <;> decide +kernel

theorem samplePageOf_shown (p : CreatorPlatform) :
    (samplePageOf p 3 2 (sampleListing_ne p)).witness =
      (twoNewest p).page (sampleGrown p [3, 2, 1]).items := by
  cases p <;> decide +kernel

/-- A new item that is still on the page is stored. -/
theorem head_stores_every_item_sample :
    ∃ z, Units (twoNewest .xhs) (Reaches (twoNewest .xhs)) 31 (sampleGrown .xhs [1]) z ∧
      ∀ i ∈ z.items, i ∈ (sampleHeadScan .xhs).items ∨ i ∈ z.stored := by
  have hgentle : Gentle (twoNewest .xhs) (sampleHeadScan .xhs) (sampleGrown .xhs [1]) :=
    .inl ⟨sampleGrown_grows .xhs (by decide +kernel), rfl⟩
  obtain ⟨boundary, htracked⟩ := (sampleHeadScan_starts .xhs).tracked.gentle hgentle
  have hshown : (samplePageOf .xhs 1 0 (by decide +kernel)).witness =
      (twoNewest .xhs).page (sampleGrown .xhs [1]).items := by decide +kernel
  obtain ⟨z, hz⟩ := htracked.units_exist 31 (fun _ => by decide +kernel) hshown
    (by decide +kernel)
  exact ⟨z, hz, head_stores_every_item (twoNewest .xhs) (sampleHeadScan_starts .xhs)
    (.single hgentle) (by decide) hz⟩

/-- Three new items between two units: the oldest of them is never asked for, however
many units follow. -/
theorem head_misses_pushed_off :
    (∃ x y : HeadScan .xhs, StartsIncremental (twoNewest .xhs) x ∧ Grows x y ∧
      (∀ n, ∃ z, Units (twoNewest .xhs) (fun _ => True) n y z) ∧
      ∃ i ∈ y.items, i ∉ x.items ∧
        ∀ n z, Units (twoNewest .xhs) (fun _ => True) n y z → i ∈ z.items ∧ i ∉ z.stored) ∧
    ∃ x y : HeadScan .douyin, StartsIncremental (twoNewest .douyin) x ∧ Grows x y ∧
      (∀ n, ∃ z, Units (twoNewest .douyin) (fun _ => True) n y z) ∧
      ∃ i ∈ y.items, i ∉ x.items ∧
        ∀ n z, Units (twoNewest .douyin) (fun _ => True) n y z → i ∈ z.items ∧ i ∉ z.stored := by
  have missed (p : CreatorPlatform) : ∃ x y : HeadScan p, StartsIncremental (twoNewest p) x ∧
      Grows x y ∧ (∀ n, ∃ z, Units (twoNewest p) (fun _ => True) n y z) ∧
      ∃ i ∈ y.items, i ∉ x.items ∧
        ∀ n z, Units (twoNewest p) (fun _ => True) n y z → i ∈ z.items ∧ i ∉ z.stored := by
    have hlisting : Listing (twoNewest p) (sampleGrown p [3, 2, 1]) :=
      ⟨⟨_, (sampleHeadScan_starts p).atHead⟩, nofun⟩
    refine ⟨sampleHeadScan p, sampleGrown p [3, 2, 1], sampleHeadScan_starts p,
      sampleGrown_grows p (by cases p <;> decide +kernel), fun n => ?_, sampleListing p 1,
      by simp [sampleGrown], by cases p <;> decide +kernel, fun n z hunits => ?_⟩
    · exact units_exist n hlisting (samplePageOf_shown p)
    · obtain ⟨hitems, hstored⟩ := hlisting.units hunits
      refine ⟨hitems ▸ by simp [sampleGrown], fun hmem => ?_⟩
      rcases hstored _ hmem with hmem | hmem
      · cases hmem
      · revert hmem
        cases p <;> decide +kernel
  exact ⟨missed .xhs, missed .douyin⟩

end MediaSync.Scan
