import MediaSync.Scan.CreatorStores

/-!
# The history of a creator list is complete

A list that does not change is a chain of pages. When every detail succeeds, a
unit stores the items of its page that no unit stored before, up to its limit,
and leaves the page with the last of them. Units one after another store the
list in its order and end with the last page.
-/

namespace MediaSync.Scan

variable {p : CreatorPlatform}

namespace CreatorScanUnit

variable {u v : CreatorScanUnit p} {page : CreatorPage p}

/-- A history unit that has completed its page goes on to the next one. -/
theorem finishPage_history (hlane : u.state.lane = .history)
    (hcount : u.state.completedIds.length = page.identities.length)
    (hmoves : page.hasMore = true → page.nextCursor ≠ page.inputCursor)
    (h : u.finishPage page = .ok v) :
    v.reason = some (if page.hasMore = false then .hasMoreFalse else .unitCapReached) ∧
      v.state.toCreatorScanFields = u.leaving page.nextCursor := by
  have hvalid : (u.leaving page.nextCursor).Valid := u.state.valid.leaving page.valid.next
  unfold finishPage at h
  rw [if_neg (not_not_intro hcount), hlane] at h
  cases hmore : page.hasMore with
  | false =>
    simp only [hmore, if_true, replace_ok _ hvalid] at h
    obtain rfl := Except.ok.inj h
    exact ⟨rfl, rfl⟩
  | true =>
    simp only [hmore, hmoves hmore, and_false, Bool.true_eq_false, if_false,
      replace_ok _ hvalid] at h
    obtain rfl := Except.ok.inj h
    exact ⟨rfl, rfl⟩

end CreatorScanUnit

open CreatorScanUnit

/-- The pages of a list in their order, from the empty cursor on. -/
structure CreatorFeed (p : CreatorPlatform) where
  pages : List (PageWitness p)
  first : (pages.head?).map PageWitness.inputCursor = some ""
  linked : pages.IsChain (fun w next => next.inputCursor = w.nextCursor)
  ends : ∀ before w after, pages = before ++ w :: after → (w.hasMore = false ↔ after = [])
  ids : (pages.flatMap PageWitness.ids).Nodup

def CreatorFeed.items (f : CreatorFeed p) : List (ListingIdentity p) :=
  f.pages.flatMap PageWitness.identities

/-- What a unit is shown for a cursor: always the page of the list, with tokens
that may be new every time. -/
def Serves (f : CreatorFeed p) (serve : Nat → String → CreatorPage p) : Prop :=
  ∀ n, ∀ w ∈ f.pages, (serve n w.inputCursor).witness = w

variable {f : CreatorFeed p} {serve : Nat → String → CreatorPage p}

theorem Serves.injective (h : Serves f serve) {w w' : PageWitness p} (hw : w ∈ f.pages)
    (hw' : w' ∈ f.pages) (hcursor : w.inputCursor = w'.inputCursor) : w = w' := by
  rw [← h 0 w hw, ← h 0 w' hw', hcursor]

/-- The next page. -/
theorem CreatorFeed.next {before after : List (PageWitness p)} {w next : PageWitness p}
    (hpages : f.pages = before ++ w :: next :: after) : next.inputCursor = w.nextCursor := by
  have hlinked := f.linked
  rw [hpages, List.isChain_append] at hlinked
  exact (List.isChain_cons_cons.1 hlinked.2.1).1

/-- A page that is not the last leads away from its cursor: the list would never end. -/
theorem Serves.moves (h : Serves f serve) {before after : List (PageWitness p)}
    {w : PageWitness p} (hpages : f.pages = before ++ w :: after) (hafter : after ≠ []) :
    w.nextCursor ≠ w.inputCursor := by
  intro hstalled
  induction after generalizing before w with
  | nil => exact hafter rfl
  | cons next after ih =>
    have hnext := CreatorFeed.next hpages
    have hmore := mt (f.ends _ _ _ hpages).1 hafter
    have hsame : next = w := h.injective (by simp [hpages]) (by simp [hpages])
      (hnext.trans hstalled)
    have hpages' : f.pages = (before ++ [w]) ++ next :: after := by simp [hpages]
    rw [← hsame] at hmore hstalled
    exact ih hpages' (mt (f.ends _ _ _ hpages').2 hmore) hstalled

/-! ## One unit -/

/-- The state stands on the page `w`, of which the first `d` items are stored. -/
structure Standing (f : CreatorFeed p) (before : List (PageWitness p)) (w : PageWitness p)
    (after : List (PageWitness p)) (d : Nat) (s : CreatorScanState p) : Prop where
  pages : f.pages = before ++ w :: after
  lane : s.lane = .history
  cursor : s.pageCursor = w.inputCursor
  witness : ∀ v ∈ s.witness, v = w
  completed : ∀ x ∈ w.identities, x.id ∈ s.completedIds ↔ x ∈ w.identities.take d

/-- What an accepted unit stored. -/
def CreatorScanCoverage.successful (c : CreatorScanCoverage p) : List (CreatorIdentity p) :=
  (c.outcomes.filter fun o => o.status = .stored).map CreatorOutcome.identity

/-- Where a unit over a still list leaves the scan. -/
inductive MovesOn (f : CreatorFeed p) (before : List (PageWitness p)) (w : PageWitness p)
    (after : List (PageWitness p)) (d limit : Nat) (c : CreatorScanCoverage p) : Prop
  | ends : (w.identities.drop d).length ≤ limit → after = [] →
      c.summary.stopReason = .hasMoreFalse → MovesOn f before w after d limit c
  | leaves (next : PageWitness p) (later : List (PageWitness p)) :
      (w.identities.drop d).length ≤ limit → after = next :: later →
      c.summary.stopReason ≠ .hasMoreFalse →
      Standing f (before ++ [w]) next later 0 c.nextState → MovesOn f before w after d limit c
  | stays : limit < (w.identities.drop d).length → c.summary.stopReason ≠ .hasMoreFalse →
      Standing f before w after (d + limit) c.nextState → MovesOn f before w after d limit c

/-- A unit stores the next items of its page and moves on. -/
structure UnitStores (f : CreatorFeed p) (before : List (PageWitness p)) (w : PageWitness p)
    (after : List (PageWitness p)) (d limit : Nat) (c : CreatorScanCoverage p) : Prop where
  lane : c.summary.lane = .history
  stored : ∀ o ∈ c.outcomes, o.status = .stored
  items : c.successful.map CreatorIdentity.toListingIdentity =
    (w.identities.drop d).take limit
  moves : MovesOn f before w after d limit c

namespace Standing

variable {before after : List (PageWitness p)} {w : PageWitness p} {d : Nat}
  {s : CreatorScanState p} {page : CreatorPage p}

theorem listed_mem (hpage : page.witness = w) {i : CreatorIdentity p} (hi : i ∈ page.identities) :
    i.toListingIdentity ∈ w.identities := by
  rw [← hpage]
  exact List.mem_map_of_mem hi

theorem keeps_iff (h : Standing f before w after d s) (hpage : page.witness = w)
    {i : CreatorIdentity p} (hi : i ∈ page.identities) :
    s.keeps i = true ↔ i.toListingIdentity ∈ w.identities.take d :=
  (keeps_iff_completed (fun v hv => (h.witness v hv).trans hpage.symm) hi).trans
    (h.completed _ (listed_mem hpage hi))

/-- What is asked for is what is left of the page. -/
theorem asked_eq (h : Standing f before w after d s) (hpage : page.witness = w)
    {u : CreatorScanUnit p} (hindex : u.state.index = 0) :
    (asked s.keeps page u).map CreatorIdentity.toListingIdentity = w.identities.drop d := by
  have hfilter : asked s.keeps page u = page.identities.filter
      ((fun x => decide (x ∉ w.identities.take d)) ∘ CreatorIdentity.toListingIdentity) := by
    unfold asked
    rw [hindex, List.drop_zero]
    refine List.filter_congr fun i hi => ?_
    have hkeeps := h.keeps_iff hpage hi
    cases hk : s.keeps i <;> simp [hk] at hkeeps ⊢ <;> exact hkeeps
  have hall : page.identities.map CreatorIdentity.toListingIdentity = w.identities := by
    rw [← hpage]
    rfl
  have hnodup : w.identities.Nodup := List.Nodup.of_map _ w.valid.ids
  rw [hfilter, ← List.filter_map, hall]
  conv_lhs => rw [← List.take_append_drop d w.identities]
  rw [List.filter_append, List.filter_eq_nil_iff.2 (by simp), List.nil_append,
    List.filter_eq_self]
  intro x hx
  have hdisjoint := List.disjoint_take_drop hnodup (le_refl d)
  simpa using fun hmem => hdisjoint hmem hx

/-- The outcomes of a unit that stored some items. -/
theorem stored_outcomes (items : List (CreatorIdentity p)) :
    ((items.map (⟨·, .stored⟩)).filter fun o : CreatorOutcome p => o.status = .stored).map
      CreatorOutcome.identity = items := by
  induction items with
  | nil => rfl
  | cons i items ih => simpa using ih

/-- The items completed after a unit has stored `written` besides those it kept. -/
theorem completed_iff (h : Standing f before w after d s) (hpage : page.witness = w)
    {u : CreatorScanUnit p} (hu : Underway s.keeps page u) (hindex : u.state.index = 0)
    {written : List (CreatorIdentity p)} (hsub : ∀ i ∈ written, i ∈ page.identities)
    {i : CreatorIdentity p} (hi : i ∈ page.identities) :
    i.id ∈ u.state.completedIds ++ written.map (fun j => j.id) ↔
      i.toListingIdentity ∈ w.identities.take d ∨ i ∈ written := by
  have hkept := hu.ahead i (by rwa [hindex, List.drop_zero])
  rw [List.mem_append, hkept, h.keeps_iff hpage hi]
  refine or_congr_right ⟨fun hid => ?_, fun hmem => List.mem_map.2 ⟨i, hmem, rfl⟩⟩
  obtain ⟨j, hj, hid⟩ := List.mem_map.1 hid
  rwa [← List.inj_on_of_nodup_map (page_ids_nodup page) (hsub j hj) hi hid]

/-- A page whose items are all stored is left for the next one. -/
theorem leaves {next : PageWitness p} (h : Standing f before w (next :: after) d s)
    (hpage : page.witness = w) {u : CreatorScanUnit p} {t : CreatorScanState p}
    (hlane : u.state.lane = .history)
    {last : Option (CreatorUnitSummary p)}
    (ht : t.toCreatorScanFields = { u.leaving page.nextCursor with lastUnit := last }) :
    Standing f (before ++ [w]) next after 0 t := by
  refine ⟨by simp [h.pages], ?_, ?_, ?_, ?_⟩
  · rw [ht]
    exact hlane
  · rw [ht, f.next h.pages, ← hpage]
    rfl
  · intro w hw
    rw [ht] at hw
    cases hw
  · rw [ht]
    simp [leaving]

/-- A unit that stays on its page stores the next items of it. -/
theorem advances (h : Standing f before w after d s) (hpage : page.witness = w)
    (hcursor : page.inputCursor = s.pageCursor) {u : CreatorScanUnit p}
    (hu : Underway s.keeps page u) (hindex : u.state.index = 0) (hlane : u.state.lane = .history)
    {limit index : Nat} {t : CreatorScanState p} {last : Option (CreatorUnitSummary p)}
    (ht : t.toCreatorScanFields = { u.state.toCreatorScanFields with
      index := index
      completedIds := u.state.completedIds ++
        ((asked s.keeps page u).take limit).map fun i => i.id
      lastUnit := last }) :
    Standing f before w after (d + limit) t := by
  have htaken : ∀ i ∈ (asked s.keeps page u).take limit, i ∈ page.identities := fun i hi =>
    List.mem_of_mem_drop (List.mem_of_mem_filter (List.mem_of_mem_take hi))
  refine ⟨h.pages, ?_, ?_, ?_, ?_⟩
  · rw [ht]
    exact hlane
  · rw [ht, ← h.cursor, ← hcursor]
    exact hu.pageCursor_eq
  · rw [ht]
    intro w' hw'
    rw [← hpage]
    exact Option.some.inj (hw'.symm.trans hu.witness)
  · intro x hx
    obtain ⟨i, hi, rfl⟩ : ∃ i ∈ page.identities, i.toListingIdentity = x := by
      rw [← hpage] at hx
      exact List.mem_map.1 hx
    rw [ht, List.take_add, ← h.asked_eq hpage hindex, ← List.map_take]
    refine (h.completed_iff hpage hu hindex htaken hi).trans (Iff.trans
      (or_congr_right ⟨fun hmem => List.mem_map_of_mem hmem, fun hmem => ?_⟩)
      List.mem_append.symm)
    obtain ⟨j, hj, hsame⟩ := List.mem_map.1 hmem
    rwa [← List.inj_on_of_nodup_map (page_ids_nodup page) (htaken j hj) hi
      (congrArg ListingIdentity.id hsame)]

theorem unit (h : Standing f before w after d s) (hserve : Serves f serve)
    (hpage : page.witness = w) {maxItems : Nat} (hmax : 1 ≤ maxItems ∧ maxItems ≤ 1000) :
    ∃ c, captureCreatorUnit s maxItems (.page page) (fun _ => .stored) = .ok c ∧
      UnitStores f before w after d (min maxItems p.pageSize) c := by
  have hcursor : page.inputCursor = s.pageCursor := by
    rw [h.cursor, ← hpage]
    rfl
  have hshape : ∀ v ∈ s.witness, SameShape v page := by
    intro v hv
    obtain rfl := (h.witness v hv).trans hpage.symm
    exact ⟨rfl, rfl, rfl, rfl⟩
  obtain ⟨u, v, c, hrun, hc, hsettles⟩ := unit_settles hcursor hshape hmax
  have hunder := hc.start.underway
  have hlane : u.state.lane = .history := (observePage_lane hcursor hc.accepted).trans h.lane
  have hroom : u.limit - u.outcomes.length = min maxItems p.pageSize := by
    rw [hc.start.outcomes, hc.start.limit]
    rfl
  have hsettled : settled s.known = fun i => ⟨i, .stored⟩ := by
    funext i
    unfold settled
    rw [show s.known i = false by simp [CreatorScanState.known, h.lane]]
    rfl
  have hasked := h.asked_eq hpage hc.start.index
  have haskedLength : (asked s.keeps page u).length = (w.identities.drop d).length := by
    rw [← hasked, List.length_map]
  have hwritten : c.outcomes =
      ((asked s.keeps page u).take (min maxItems p.pageSize)).map (⟨·, .stored⟩) := by
    rw [hc.covers.outcomes]
    rw [← hsettled]
    cases hsettles with
    | leaves x hlen _ houtcomes =>
      rw [houtcomes, hc.start.outcomes, List.nil_append, List.take_of_length_le (hroom ▸ hlen)]
    | stays _ _ houtcomes => rw [houtcomes, hroom, hc.start.outcomes, List.nil_append]
  have hreason := hc.covers.reason
  have hnext := hc.covers.nextState
  refine ⟨c, hrun, ?_, ?_, ?_, ?_⟩
  · rw [hc.covers.lane, hc.closed.inputState, hc.start.inputState]
    exact h.lane
  · intro o ho
    rw [hwritten] at ho
    obtain ⟨i, -, rfl⟩ := List.mem_map.1 ho
    rfl
  · rw [CreatorScanCoverage.successful, hwritten, stored_outcomes, List.map_take, hasked]
  · cases hsettles with
    | leaves x hlen hfinish _ hfields =>
      rw [hroom, haskedLength] at hlen
      have hxlane : x.state.lane = .history := (congrArg CreatorScanFields.lane hfields).trans hlane
      have hcount := completed_of_asked hunder hc.start.index hfields
      have hmore : page.hasMore = w.hasMore := by rw [← hpage]; rfl
      have hpageNext : page.nextCursor = w.nextCursor := by rw [← hpage]; rfl
      have hends := f.ends _ _ _ h.pages
      have hmoves : page.hasMore = true → page.nextCursor ≠ page.inputCursor := by
        intro htrue
        rw [hpageNext, hcursor, h.cursor]
        refine hserve.moves h.pages fun hafter => ?_
        rw [hmore, hends.2 hafter] at htrue
        cases htrue
      obtain ⟨hvreason, hvfields⟩ := finishPage_history hxlane hcount hmoves hfinish
      rw [hvreason, hmore] at hreason
      rw [hvfields] at hnext
      cases hafter : after with
      | nil =>
        rw [if_pos (hends.2 hafter)] at hreason
        exact .ends hlen rfl (Option.some.inj hreason).symm
      | cons next later =>
        rw [if_neg (mt hends.1 (by rw [hafter]; simp))] at hreason
        refine .leaves next later hlen rfl ?_ ((hafter ▸ h).leaves hpage hxlane hnext)
        rw [← Option.some.inj hreason]
        decide
    | stays hlen hcap _ hfields =>
      rw [hroom, haskedLength] at hlen
      rw [hcap] at hreason
      rw [hfields, hroom] at hnext
      refine .stays hlen ?_ (h.advances hpage hcursor hunder hc.start.index hlane hnext)
      rw [← Option.some.inj hreason]
      decide

end Standing

/-! ## Units one after another -/

/-- The first units of a scan, each from the state that the one before proposed. -/
def runCreatorUnits (serve : Nat → String → CreatorPage p) (limits : Nat → Nat)
    (state : CreatorScanState p) :
    Nat → Except ScanError (List (CreatorScanCoverage p) × CreatorScanState p)
  | 0 => .ok ([], state)
  | n + 1 => do
    let (units, state) ← runCreatorUnits serve limits state n
    let unit ← captureCreatorUnit state (limits n) (.page (serve n state.pageCursor))
      (fun _ => .stored)
    .ok (units ++ [unit], unit.nextState)

def EndsList (c : CreatorScanCoverage p) : Prop :=
  c.summary.lane = .history ∧ c.summary.stopReason = .hasMoreFalse

/-- The items that units stored, in order. -/
def storedItems (units : List (CreatorScanCoverage p)) : List (ListingIdentity p) :=
  units.flatMap fun c => c.successful.map CreatorIdentity.toListingIdentity

/-- All units are history units, the last one is the first to end the list, and
they stored its items and met nothing else. -/
structure CompletesList (f : CreatorFeed p) (units : List (CreatorScanCoverage p)) : Prop where
  last : ∃ earlier last, units = earlier ++ [last] ∧ EndsList last ∧ ∀ c ∈ earlier, ¬ EndsList c
  lane : ∀ c ∈ units, c.summary.lane = .history
  stored : ∀ c ∈ units, ∀ o ∈ c.outcomes, o.status = .stored
  items : storedItems units = f.items
  once : ((storedItems units).map ListingIdentity.id).Nodup

/-- The units so far have stored what lies before the state, and each of them got on. -/
structure SweepingList (f : CreatorFeed p) (n : Nat) (units : List (CreatorScanCoverage p))
    (s : CreatorScanState p) (before : List (PageWitness p)) (w : PageWitness p)
    (after : List (PageWitness p)) (d : Nat) : Prop where
  standing : Standing f before w after d s
  going : ∀ c ∈ units, ¬ EndsList c
  lane : ∀ c ∈ units, c.summary.lane = .history
  stored : ∀ c ∈ units, ∀ o ∈ c.outcomes, o.status = .stored
  items : storedItems units = before.flatMap PageWitness.identities ++ w.identities.take d
  progress : n ≤ (storedItems units).length + before.length

theorem CreatorFeed.items_nodup (f : CreatorFeed p) :
    (f.items.map ListingIdentity.id).Nodup := by
  have hids := f.ids
  unfold CreatorFeed.items
  rw [List.map_flatMap]
  exact hids

theorem CreatorFeed.start (f : CreatorFeed p) (binding : CreatorBinding) :
    ∃ w after, SweepingList f 0 [] (.initial p binding) [] w after 0 := by
  have hfirst := f.first
  cases hpages : f.pages with
  | nil =>
    rw [hpages] at hfirst
    cases hfirst
  | cons w after =>
    rw [hpages] at hfirst
    refine ⟨w, after, ⟨hpages, rfl, ?_, nofun, ?_⟩, ?_, ?_, ?_, rfl, Nat.le_refl _⟩
    · exact (Option.some.inj hfirst).symm
    · simp [CreatorScanState.initial]
    all_goals simp

theorem forall_mem_snoc {α : Type} {P : α → Prop} {units : List α} {c : α}
    (hunits : ∀ c ∈ units, P c) (hc : P c) : ∀ d ∈ units ++ [c], P d := by
  intro d hd
  rcases List.mem_append.1 hd with hd | hd
  · exact hunits d hd
  · rwa [List.mem_singleton.1 hd]

/-- One unit more: the list is complete, or the sweep has got on. -/
theorem SweepingList.step {n : Nat} {units : List (CreatorScanCoverage p)}
    {s : CreatorScanState p} {before after : List (PageWitness p)} {w : PageWitness p} {d : Nat}
    (h : SweepingList f n units s before w after d) {limit : Nat} (hlimit : 1 ≤ limit)
    {c : CreatorScanCoverage p} (hc : UnitStores f before w after d limit c) :
    CompletesList f (units ++ [c]) ∨ ∃ before' w' after' d',
      SweepingList f (n + 1) (units ++ [c]) c.nextState before' w' after' d' := by
  have hlane := forall_mem_snoc h.lane hc.lane
  have hstored := forall_mem_snoc h.stored hc.stored
  have hitems : storedItems (units ++ [c]) = before.flatMap PageWitness.identities ++
      w.identities.take (d + limit) := by
    unfold storedItems
    rw [List.flatMap_append, List.flatMap_singleton, hc.items, List.take_add]
    have := h.items
    unfold storedItems at this
    rw [this, List.append_assoc]
  have hprogress := h.progress
  rw [h.items] at hprogress
  cases hc.moves with
  | ends hlen hafter hstop =>
    left
    have hall : storedItems (units ++ [c]) = f.items := by
      rw [hitems, CreatorFeed.items, h.standing.pages, hafter, List.take_of_length_le]
      · simp
      · rw [List.length_drop] at hlen
        omega
    exact
      { last := ⟨units, c, rfl, ⟨hc.lane, hstop⟩, h.going⟩
        lane := hlane
        stored := hstored
        items := hall
        once := hall ▸ f.items_nodup }
  | leaves next later hlen hafter hstop hstanding =>
    right
    have hfull : w.identities.take (d + limit) = w.identities := by
      refine List.take_of_length_le ?_
      rw [List.length_drop] at hlen
      omega
    refine ⟨_, _, _, _, hstanding, forall_mem_snoc h.going (fun hends => hstop hends.2), hlane,
      hstored, ?_, ?_⟩
    · rw [hitems, hfull]
      simp
    · rw [hitems, hfull]
      simp only [List.length_append, List.length_singleton, List.length_take] at hprogress ⊢
      omega
  | stays hlen hstop hstanding =>
    right
    refine ⟨_, _, _, _, hstanding, forall_mem_snoc h.going (fun hends => hstop hends.2), hlane,
      hstored, hitems, ?_⟩
    rw [hitems]
    rw [List.length_drop] at hlen
    simp only [List.length_append, List.length_take] at hprogress ⊢
    omega

theorem runCreatorUnits_sweeping (f : CreatorFeed p) (binding : CreatorBinding)
    (hserve : Serves f serve) {limits : Nat → Nat}
    (hlimits : ∀ n, 1 ≤ limits n ∧ limits n ≤ 1000) (n : Nat) :
    (∃ k units s, k ≤ n ∧ runCreatorUnits serve limits (.initial p binding) k = .ok (units, s) ∧
      CompletesList f units) ∨
    ∃ units s before w after d,
      runCreatorUnits serve limits (.initial p binding) n = .ok (units, s) ∧
      SweepingList f n units s before w after d := by
  induction n with
  | zero =>
    obtain ⟨w, after, hstart⟩ := f.start binding
    exact .inr ⟨[], _, [], w, after, 0, rfl, hstart⟩
  | succ n ih =>
    rcases ih with ⟨k, units, s, hk, hrun, hdone⟩ | ⟨units, s, before, w, after, d, hrun, hsweep⟩
    · exact .inl ⟨k, units, s, Nat.le_succ_of_le hk, hrun, hdone⟩
    · have hpage : (serve n s.pageCursor).witness = w := by
        rw [hsweep.standing.cursor]
        exact hserve n w (by simp [hsweep.standing.pages])
      obtain ⟨c, hc, hstores⟩ := hsweep.standing.unit hserve hpage (hlimits n)
      have hrun' : runCreatorUnits serve limits (.initial p binding) (n + 1) =
          .ok (units ++ [c], c.nextState) := by
        unfold runCreatorUnits
        rw [hrun]
        simp only [bind, Except.bind, hc]
      have hlimit : 1 ≤ min (limits n) p.pageSize :=
        le_min (hlimits n).1 (by cases p <;> decide)
      rcases hsweep.step hlimit hstores with hdone | ⟨before', w', after', d', hsweep'⟩
      · exact .inl ⟨n + 1, _, _, Nat.le_refl _, hrun', hdone⟩
      · exact .inr ⟨_, _, before', w', after', d', hrun', hsweep'⟩

/-- Over a list that does not change no unit is refused, and within as many units as
the list has items and pages they have stored exactly the list, in its order. -/
theorem creator_history_complete (f : CreatorFeed p) (binding : CreatorBinding)
    (hserve : Serves f serve) (limits : Nat → Nat)
    (hlimits : ∀ n, 1 ≤ limits n ∧ limits n ≤ 1000) :
    ∃ n units s, n ≤ f.items.length + f.pages.length ∧
      runCreatorUnits serve limits (.initial p binding) n = .ok (units, s) ∧
      CompletesList f units := by
  rcases runCreatorUnits_sweeping f binding hserve hlimits (f.items.length + f.pages.length) with
    ⟨k, units, s, hk, hrun, hdone⟩ | ⟨units, s, before, w, after, d, -, hsweep⟩
  · exact ⟨k, units, s, hk, hrun, hdone⟩
  · have hprogress := hsweep.progress
    rw [hsweep.items] at hprogress
    have htotal : f.items.length = (before.flatMap PageWitness.identities).length +
        w.identities.length + (after.flatMap PageWitness.identities).length := by
      unfold CreatorFeed.items
      rw [hsweep.standing.pages]
      simp [Nat.add_assoc]
    have hcount : f.pages.length = before.length + (after.length + 1) := by
      rw [hsweep.standing.pages]
      simp
    rw [List.length_append, List.length_take] at hprogress
    omega

/-- The oldest of three items. -/
def sampleLastPage (p : CreatorPlatform) : CreatorPage p :=
  ⟨"c1", "c2", false, [sampleItem p 0 (sampleId_zero p)], by cases p <;> decide⟩

def sampleServe (p : CreatorPlatform) (_ : Nat) (cursor : String) : CreatorPage p :=
  if cursor = "" then samplePage p else sampleLastPage p

def sampleFeed (p : CreatorPlatform) : CreatorFeed p where
  pages := [(samplePage p).witness, (sampleLastPage p).witness]
  first := rfl
  linked := List.isChain_pair.2 rfl
  ends := by
    intro before w after hpages
    rcases before with - | ⟨first, before⟩
    · obtain ⟨rfl, rfl⟩ := List.cons.inj hpages
      simp [samplePage, CreatorPage.witness]
    · obtain ⟨rfl, hrest⟩ := List.cons.inj hpages
      rcases before with - | ⟨second, before⟩
      · obtain ⟨rfl, rfl⟩ := List.cons.inj hrest
        simp [sampleLastPage, CreatorPage.witness]
      · simp at hrest
  ids := by cases p <;> decide +kernel

theorem sampleServe_serves (p : CreatorPlatform) : Serves (sampleFeed p) (sampleServe p) := by
  intro n w hw
  rcases List.mem_cons.1 hw with rfl | hw
  · rfl
  · rw [List.mem_singleton.1 hw]
    rfl

/-- Three items on two pages, one item a unit. -/
theorem creator_history_complete_sample :
    ∃ n units s, n ≤ (sampleFeed .xhs).items.length + (sampleFeed .xhs).pages.length ∧
      runCreatorUnits (sampleServe .xhs) (fun _ => 1) (.initial .xhs sampleBinding) n =
        .ok (units, s) ∧
      CompletesList (sampleFeed .xhs) units :=
  creator_history_complete (sampleFeed .xhs) sampleBinding (sampleServe_serves .xhs) (fun _ => 1)
    (fun _ => by decide)

end MediaSync.Scan
