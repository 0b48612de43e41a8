import MediaSync.Scan.Creator

/-!
# What one unit of a creator scan does

While a unit is underway on its page, every call succeeds: the items that are
completed are passed over, the next one is asked for, and an outcome moves the
unit past it. A record replays to the unit it came from, except that a restricted
item puts the index back to where the call found it, before or after the passing over.
-/

namespace MediaSync.Scan

variable {p : CreatorPlatform}

namespace CreatorScanFields.Valid

variable {f : CreatorScanFields p} {w : PageWitness p}

theorem witness_length (w : PageWitness p) : w.ids.length ≤ p.pageSize := by
  simpa [PageWitness.ids] using w.valid.length

theorem index (h : f.Valid) (hw : f.witness = some w) {n : Nat} (hn : n ≤ w.ids.length) :
    ({ f with index := n } : CreatorScanFields p).Valid where
  cursor := h.cursor
  indexRange := hn.trans (witness_length w)
  completedLength := h.completedLength
  completedShape := h.completedShape
  completedOnce := h.completedOnce
  fits := by
    intro v hv
    obtain rfl : w = v := Option.some.inj (hw.symm.trans hv)
    exact ⟨(h.fits w hw).1, hn, (h.fits w hw).2.2⟩
  unseen := fun hnone => by rw [show f.witness = none from hnone] at hw; cases hw
  boundary := h.boundary

/-- A list of ids that the witness shows, each once, may stand as completed. -/
theorem completed (h : f.Valid) (hw : f.witness = some w) {n : Nat} (hn : n ≤ w.ids.length)
    {ids : List String} (hids : ids.Nodup) (hshown : ∀ id ∈ ids, id ∈ w.ids) :
    ({ f with index := n, completedIds := ids } : CreatorScanFields p).Valid where
  cursor := h.cursor
  indexRange := hn.trans (witness_length w)
  completedLength := (List.subperm_of_subset hids hshown).length_le.trans (witness_length w)
  completedShape := by
    intro id hid
    obtain ⟨i, -, rfl⟩ := List.mem_map.1 (hshown id hid)
    exact i.valid.1
  completedOnce := hids
  fits := by
    intro v hv
    obtain rfl : w = v := Option.some.inj (hw.symm.trans hv)
    exact ⟨(h.fits w hw).1, hn, hshown⟩
  unseen := fun hnone => by rw [show f.witness = none from hnone] at hw; cases hw
  boundary := h.boundary

theorem leaving (h : f.Valid) {cursor : String} (hcursor : validCursor cursor = true) :
    ({ f with pageCursor := cursor, witness := none, index := 0, completedIds := [] } :
      CreatorScanFields p).Valid where
  cursor := hcursor
  indexRange := Nat.zero_le _
  completedLength := Nat.zero_le _
  completedShape := by simp
  completedOnce := List.nodup_nil
  fits := by simp
  unseen := fun _ => ⟨rfl, rfl⟩
  boundary := h.boundary

theorem witnessed (h : f.Valid) (hinput : w.inputCursor = f.pageCursor) {ids : List String}
    (hids : ids.Nodup) (hshown : ∀ id ∈ ids, id ∈ w.ids) :
    ({ f with witness := some w, index := 0, completedIds := ids } : CreatorScanFields p).Valid :=
  { cursor := h.cursor
    indexRange := Nat.zero_le _
    completedLength := (List.subperm_of_subset hids hshown).length_le.trans (witness_length w)
    completedShape := by
      intro id hid
      obtain ⟨i, -, rfl⟩ := List.mem_map.1 (hshown id hid)
      exact i.valid.1
    completedOnce := hids
    fits := by
      intro v hv
      obtain rfl : w = v := Option.some.inj hv
      exact ⟨hinput, Nat.zero_le _, hshown⟩
    unseen := fun hnone => nomatch hnone
    boundary := h.boundary }

theorem headBoundary (h : f.Valid) (w : PageWitness p) :
    ({ f with headBoundary := some w.identities } : CreatorScanFields p).Valid :=
  { h with
    boundary := by
      intro b hb
      obtain rfl : w.identities = b := Option.some.inj hb
      exact ⟨w.valid.length, w.valid.ids⟩ }

theorem lastUnit (h : f.Valid) (u : CreatorUnitSummary p) :
    ({ f with lastUnit := some u } : CreatorScanFields p).Valid :=
  { h with }

end CreatorScanFields.Valid

theorem CreatorScanState.make_ok {f : CreatorScanFields p} (h : f.Valid) :
    CreatorScanState.make f = .ok ⟨f, h⟩ := dif_pos h

namespace CreatorScanUnit

variable {u v : CreatorScanUnit p} {page : CreatorPage p}

theorem replace_ok (u : CreatorScanUnit p) {f : CreatorScanFields p} (h : f.Valid) :
    u.replace f = .ok { u with state := ⟨f, h⟩ } := by
  simp only [replace, CreatorScanState.make_ok h]
  rfl

/-- The fields of the unit and of its state, apart from the state's index. -/
def atIndex (u : CreatorScanUnit p) (n : Nat)
    (h : ({ u.state.toCreatorScanFields with index := n } : CreatorScanFields p).Valid) :
    CreatorScanUnit p :=
  { u with state := ⟨{ u.state.toCreatorScanFields with index := n }, h⟩ }

theorem atIndex_self (u : CreatorScanUnit p) {n : Nat} (hn : n = u.state.index)
    (h : ({ u.state.toCreatorScanFields with index := n } : CreatorScanFields p).Valid) :
    u.atIndex n h = u := by
  subst hn
  rfl

/-- The unit has listed its page and has not stopped. What it kept of an earlier
unit is fixed: `kept` says which of the items ahead are completed. -/
structure Underway (kept : CreatorIdentity p → Bool) (page : CreatorPage p)
    (u : CreatorScanUnit p) : Prop where
  listed : u.page = some page
  reason : u.reason = none
  witness : u.state.witness = some page.witness
  limit : u.limit ≤ p.pageSize
  outcomes : u.outcomes.length ≤ u.limit
  ahead : ∀ i ∈ page.identities.drop u.state.index, (i.id ∈ u.state.completedIds ↔ kept i = true)

variable {kept : CreatorIdentity p → Bool}

theorem witness_ids (page : CreatorPage p) :
    page.witness.ids = page.identities.map (fun i => i.id) := by
  simp [CreatorPage.witness, PageWitness.ids]

theorem witness_ids_length (page : CreatorPage p) :
    page.witness.ids.length = page.identities.length := by
  simp [witness_ids]

theorem page_ids_nodup (page : CreatorPage p) : (page.identities.map (fun i => i.id)).Nodup := by
  have h := page.valid.ids
  rwa [List.map_map] at h

namespace Underway

/-- The unit stands within its page. -/
theorem index_le (h : Underway kept page u) : u.state.index ≤ page.identities.length := by
  have := (u.state.valid.fits _ h.witness).2.1
  rwa [witness_ids_length] at this

theorem skips_le (h : Underway kept page u) :
    u.state.index + u.skips page ≤ page.identities.length := by
  have hdrop := List.takeWhile_sublist (l := page.identities.drop u.state.index)
    (fun i => decide (i.id ∈ u.state.completedIds))
  have hlen := hdrop.length_le
  have := h.index_le
  rw [List.length_drop] at hlen
  unfold skips
  omega

theorem index_valid (h : Underway kept page u) {n : Nat} (hn : n ≤ page.identities.length) :
    ({ u.state.toCreatorScanFields with index := n } : CreatorScanFields p).Valid :=
  u.state.valid.index h.witness (by rwa [witness_ids_length])

/-- The unit after the passing over. -/
def skipped (h : Underway kept page u) : CreatorScanUnit p :=
  u.atIndex (u.state.index + u.skips page) (h.index_valid h.skips_le)

theorem skipCompleted_eq (h : Underway kept page u) : u.skipCompleted page = .ok h.skipped :=
  replace_ok u (h.index_valid h.skips_le)

/-- The items ahead are those passed over and the rest. -/
theorem rest_eq (h : Underway kept page u) :
    page.identities.drop (u.state.index + u.skips page) =
      (page.identities.drop u.state.index).dropWhile kept := by
  rw [← List.drop_drop]
  unfold skips
  have hsame : ∀ i ∈ page.identities.drop u.state.index,
      (decide (i.id ∈ u.state.completedIds)) = kept i := by
    intro i hi
    have := h.ahead i hi
    cases hk : kept i <;> simp [hk] at this ⊢ <;> exact this
  generalize page.identities.drop u.state.index = rest at hsame
  induction rest with
  | nil => rfl
  | cons i rest ih =>
    have hi := hsame i (by simp)
    have hrest := ih fun j hj => hsame j (by simp [hj])
    by_cases hk : kept i = true
    · rw [hk] at hi
      simp only [List.takeWhile_cons, hi, if_true, List.dropWhile_cons, hk, List.length_cons,
        List.drop_succ_cons]
      exact hrest
    · have hk' : kept i = false := by simpa using hk
      rw [hk'] at hi
      simp [hi, hk']

theorem skipped_underway (h : Underway kept page u) : Underway kept page h.skipped where
  listed := h.listed
  reason := h.reason
  witness := h.witness
  limit := h.limit
  outcomes := h.outcomes
  ahead := by
    intro i hi
    refine h.ahead i ?_
    have hi : i ∈ page.identities.drop (u.state.index + u.skips page) := hi
    rw [← List.drop_drop] at hi
    exact List.mem_of_mem_drop hi

/-- What is left after the passing over starts with an item that is asked for. -/
theorem skips_skipped (h : Underway kept page u) : h.skipped.skips page = 0 := by
  have hrest := h.skipped_underway.rest_eq
  have hindex : h.skipped.state.index = u.state.index + u.skips page := rfl
  have hlen := congrArg List.length hrest
  rw [hindex, h.rest_eq] at hlen
  have hle := h.skipped_underway.skips_le
  have hdrop : ((page.identities.drop u.state.index).dropWhile kept).dropWhile kept =
      (page.identities.drop u.state.index).dropWhile kept := List.dropWhile_idempotent ..
  rw [hdrop, ← h.rest_eq, List.length_drop, List.length_drop] at hlen
  rw [hindex] at hle
  omega

theorem skipped_skipped (h : Underway kept page u) :
    h.skipped_underway.skipped = h.skipped :=
  atIndex_self _ (by rw [h.skips_skipped, Nat.add_zero]) _

end Underway

theorem nextAction_eq (h : Underway kept page u) :
    u.nextAction = match page.identities[h.skipped.state.index]? with
      | none => (h.skipped.finishPage page).map fun v => (.stop, v)
      | some identity =>
        if u.outcomes.length ≥ u.limit then .ok (.stop, h.skipped.stopped .unitCapReached)
        else if u.state.known identity then .ok (.unchanged identity, h.skipped)
        else .ok (.detail identity, h.skipped) := by
  unfold nextAction
  rw [h.reason, h.listed]
  simp only [Option.isSome_none, Bool.false_eq_true, if_false, h.skipCompleted_eq, bind,
    Except.bind]
  cases page.identities[h.skipped.state.index]? with
  | none => cases h.skipped.finishPage page <;> rfl
  | some identity => rfl

/-- The item that the unit stands at after the passing over. -/
theorem Underway.next_item (h : Underway kept page u) :
    page.identities[h.skipped.state.index]? =
      ((page.identities.drop u.state.index).dropWhile kept).head? := by
  rw [← h.rest_eq, List.head?_drop]
  rfl

/-- The unit has stopped and stands on its page, behind it or at the start. -/
structure Closed (page : CreatorPage p) (u v : CreatorScanUnit p) : Prop where
  reason : ∃ reason, v.reason = some reason
  listed : v.page = u.page
  inputState : v.inputState = u.inputState
  cursor : v.state.pageCursor = page.inputCursor ∨ v.state.pageCursor = page.nextCursor ∨
    v.state.pageCursor = ""
  next : ∀ w ∈ v.state.witness, w.nextCursor = page.nextCursor

theorem nextAction_of_reason (h : ∃ reason, u.reason = some reason) :
    u.nextAction = .ok (.stop, u) := by
  obtain ⟨reason, hreason⟩ := h
  unfold nextAction
  rw [hreason]
  rfl

namespace Underway

theorem pageCursor_eq (h : Underway kept page u) : u.state.pageCursor = page.inputCursor :=
  (u.state.valid.fits _ h.witness).1.symm

theorem witness_next (h : Underway kept page u) :
    ∀ w ∈ u.state.witness, w.nextCursor = page.nextCursor := by
  intro w hw
  obtain rfl : page.witness = w := Option.some.inj (h.witness.symm.trans hw)
  rfl

/-- Leaving the page can always be stored. -/
theorem finishPage_ok (h : Underway kept page u) :
    ∃ v, u.finishPage page = .ok v ∧ v.outcomes = u.outcomes ∧ Closed page u v := by
  have hkeep := h.witness_next
  have hcursor := h.pageCursor_eq
  have hleave := u.state.valid.leaving page.valid.next
  unfold finishPage
  by_cases hcount : u.state.completedIds.length ≠ page.identities.length
  · rw [if_pos hcount]
    exact ⟨_, replace_ok _ (h.index_valid (Nat.zero_le _)),
      rfl, ⟨_, rfl⟩, rfl, rfl, .inl hcursor, hkeep⟩
  · rw [if_neg hcount]
    cases u.state.lane with
    | history =>
      by_cases hmore : page.hasMore = false
      · simp only [hmore, if_true]
        exact ⟨_, replace_ok _ hleave, rfl, ⟨_, rfl⟩, rfl, rfl, .inr (.inl rfl), nofun⟩
      · by_cases hstalled : page.identities = [] ∧ page.nextCursor = page.inputCursor
        · simp only [hmore, hstalled, and_self, if_true]
          exact ⟨_, rfl, rfl, ⟨_, rfl⟩, rfl, rfl, .inl hcursor, hkeep⟩
        · simp only [hmore, hstalled, if_false]
          exact ⟨_, replace_ok _ hleave, rfl, ⟨_, rfl⟩, rfl, rfl, .inr (.inl rfl), nofun⟩
    | head =>
      have hhead := (u.state.valid.leaving (show validCursor "" = true by decide)).headBoundary page.witness
      exact ⟨_, replace_ok _ hhead, rfl, ⟨_, rfl⟩, rfl, rfl, .inr (.inr rfl), nofun⟩

theorem nextAction_end (h : Underway kept page u)
    (hend : (page.identities.drop u.state.index).dropWhile kept = []) :
    ∃ v, u.nextAction = .ok (.stop, v) ∧ v.outcomes = u.outcomes ∧ Closed page u v := by
  obtain ⟨v, hv, houtcomes, hclosed⟩ := h.skipped_underway.finishPage_ok
  refine ⟨v, ?_, houtcomes, hclosed.reason, hclosed.listed, hclosed.inputState,
    hclosed.cursor, hclosed.next⟩
  rw [nextAction_eq h, h.next_item, hend]
  simp only [List.head?_nil, hv]
  rfl

theorem nextAction_cap (h : Underway kept page u) {i : CreatorIdentity p}
    {rest : List (CreatorIdentity p)}
    (hrest : (page.identities.drop u.state.index).dropWhile kept = i :: rest)
    (hcap : u.limit ≤ u.outcomes.length) :
    ∃ v, u.nextAction = .ok (.stop, v) ∧ v.outcomes = u.outcomes ∧ Closed page u v := by
  refine ⟨h.skipped.stopped .unitCapReached, ?_, rfl, ⟨_, rfl⟩, rfl, rfl,
    .inl h.pageCursor_eq, h.witness_next⟩
  rw [nextAction_eq h, h.next_item, hrest]
  simp only [List.head?_cons]
  rw [if_pos hcap]

theorem nextAction_item (h : Underway kept page u) {i : CreatorIdentity p}
    {rest : List (CreatorIdentity p)}
    (hrest : (page.identities.drop u.state.index).dropWhile kept = i :: rest)
    (hroom : u.outcomes.length < u.limit) :
    u.nextAction = .ok (if u.state.known i then .unchanged i else .detail i, h.skipped) := by
  rw [nextAction_eq h, h.next_item, hrest]
  simp only [List.head?_cons]
  rw [if_neg (by omega)]
  split_ifs <;> rfl

end Underway

/-- A call that starts with `next_action` may find the unit before or after it. -/
theorem record_congr (hnext : u.nextAction = v.nextAction) (identity : CreatorIdentity p)
    (status : CreatorStatus) : u.record identity status = v.record identity status := by
  unfold record
  rw [hnext]

theorem coverage_congr (hnext : u.nextAction = v.nextAction) : u.coverage = v.coverage := by
  unfold coverage
  rw [hnext]

/-- The unit after an outcome of the item it stood at. -/
structure Recorded (kept : CreatorIdentity p → Bool) (page : CreatorPage p)
    (u v : CreatorScanUnit p) (o : CreatorOutcome p) (rest : List (CreatorIdentity p)) :
    Prop where
  underway : Underway kept page v
  outcomes : v.outcomes = u.outcomes ++ [o]
  limit : v.limit = u.limit
  inputState : v.inputState = u.inputState
  known : ∀ i, v.state.known i = u.state.known i
  rest : page.identities.drop v.state.index = rest

namespace Underway

theorem record_ok (h : Underway kept page u) {i : CreatorIdentity p}
    {rest : List (CreatorIdentity p)}
    (hrest : (page.identities.drop u.state.index).dropWhile kept = i :: rest)
    (hroom : u.outcomes.length < u.limit) {status : CreatorStatus}
    (hstatus : status = .unchanged ↔ u.state.known i = true) :
    ∃ v, u.record i status = .ok v ∧ Recorded kept page u v ⟨i, status⟩ rest := by
  have hdrop : page.identities.drop h.skipped.state.index = i :: rest := h.rest_eq.trans hrest
  have hnotKept : kept i = false := by
    have hhead := List.head?_dropWhile_not kept (page.identities.drop u.state.index)
    rw [hrest] at hhead
    simpa using hhead
  have hfresh : i.id ∉ h.skipped.state.completedIds := by
    intro hmem
    have := (h.skipped_underway.ahead i (by rw [hdrop]; simp)).1 hmem
    rw [hnotKept] at this
    cases this
  have hi : i ∈ page.identities := List.mem_of_mem_drop (by rw [hdrop]; simp)
  have hnext : page.identities.drop (h.skipped.state.index + 1) = rest := by
    rw [← List.drop_drop, hdrop]
    rfl
  have hlt : h.skipped.state.index + 1 ≤ page.identities.length := by
    have hlen := congrArg List.length hdrop
    rw [List.length_drop, List.length_cons] at hlen
    omega
  have hnodup : ((i :: rest).map (fun j => j.id)).Nodup := by
    rw [← hdrop, List.map_drop]
    exact (page_ids_nodup page).sublist (List.drop_sublist _ _)
  have hother : ∀ j ∈ rest, j.id ≠ i.id := by
    intro j hj heq
    rw [List.map_cons, List.nodup_cons] at hnodup
    exact hnodup.1 (heq ▸ List.mem_map_of_mem hj)
  -- The completed ids grow by the item at most.
  have hids : (h.skipped.completedAfter i status).Nodup ∧
      (∀ id ∈ h.skipped.completedAfter i status, id ∈ page.witness.ids) ∧
      ∀ j ∈ rest, (j.id ∈ h.skipped.completedAfter i status ↔ kept j = true) := by
    have hold := h.skipped.state.valid
    have hshown := (hold.fits _ h.skipped_underway.witness).2.2
    have hahead : ∀ j ∈ rest, (j.id ∈ h.skipped.state.completedIds ↔ kept j = true) :=
      fun j hj => h.skipped_underway.ahead j (by rw [hdrop]; exact List.mem_cons_of_mem _ hj)
    unfold completedAfter
    split_ifs with hdone
    · refine ⟨?_, ?_, ?_⟩
      · rw [List.nodup_append]
        refine ⟨hold.completedOnce, List.nodup_singleton _, ?_⟩
        rintro a ha b hb rfl
        rw [List.mem_singleton.1 hb] at ha
        exact hfresh ha
      · intro id hid
        rcases List.mem_append.1 hid with hid | hid
        · exact hshown id hid
        · rw [List.mem_singleton.1 hid, witness_ids]
          exact List.mem_map_of_mem hi
      · intro j hj
        rw [← hahead j hj, List.mem_append, List.mem_singleton]
        simp [hother j hj]
    · exact ⟨hold.completedOnce, hshown, hahead⟩
  have hvalid : ({ h.skipped.state.toCreatorScanFields with
      index := h.skipped.state.index + 1,
      completedIds := h.skipped.completedAfter i status } : CreatorScanFields p).Valid :=
    h.skipped.state.valid.completed h.skipped_underway.witness
      (by rwa [witness_ids_length]) hids.1 hids.2.1
  have haction : (if u.state.known i then .unchanged i else .detail i) =
      expectedAction i status := by
    cases hk : u.state.known i <;> rw [hk] at hstatus <;>
      cases status <;> simp_all [expectedAction]
  refine ⟨{ h.skipped with
    outcomes := u.outcomes ++ [⟨i, status⟩], state := ⟨_, hvalid⟩ }, ?_, ?_⟩
  · unfold record
    rw [h.nextAction_item hrest hroom, haction]
    simp only [bind, Except.bind, if_true]
    exact replace_ok _ hvalid
  · exact
      { underway :=
          { listed := h.listed
            reason := h.reason
            witness := h.witness
            limit := h.limit
            outcomes := (List.length_append ..).le.trans hroom
            ahead := fun j hj => hids.2.2 j (by rwa [← hnext]) }
        outcomes := rfl
        limit := rfl
        inputState := rfl
        known := fun _ => rfl
        rest := hnext }

end Underway

end CreatorScanUnit

end MediaSync.Scan
