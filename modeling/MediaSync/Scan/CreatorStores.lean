import MediaSync.Scan.CreatorRuns

/-!
# What a unit completes when every detail succeeds

A unit asks for the items of its page that no unit completed before, records each
of them as stored or unchanged, and leaves the page with the last of them unless
it has reached its limit.
-/

namespace MediaSync.Scan

variable {p : CreatorPlatform}

namespace CreatorScanUnit

variable {u v : CreatorScanUnit p} {page : CreatorPage p} {kept : CreatorIdentity p → Bool}

theorem replace_fields {f : CreatorScanFields p} (h : u.replace f = .ok v) :
    v.state.toCreatorScanFields = f := by
  by_cases hvalid : f.Valid
  · rw [replace_ok u hvalid] at h
    obtain rfl := Except.ok.inj h
    rfl
  · simp only [replace, CreatorScanState.make, dif_neg hvalid] at h
    cases h

theorem Underway.mem_ahead {i : CreatorIdentity p} {rest : List (CreatorIdentity p)}
    (hrest : (page.identities.drop u.state.index).dropWhile kept = i :: rest) :
    i ∈ page.identities.drop u.state.index := by
  have hsuffix := List.dropWhile_suffix kept (l := page.identities.drop u.state.index)
  rw [hrest] at hsuffix
  exact hsuffix.subset (List.mem_cons_self ..)

/-- The outcome of an item whose detail succeeds. -/
def settled (known : CreatorIdentity p → Bool) (i : CreatorIdentity p) : CreatorOutcome p :=
  ⟨i, statusOf (known i) .stored⟩

theorem statusOf_settled (known : Bool) :
    statusOf known .stored = .stored ∨ statusOf known .stored = .unchanged := by
  cases known
  · exact .inl rfl
  · exact .inr rfl

/-- A settled item is completed from then on. -/
theorem Underway.record_settled (h : Underway kept page u) {i : CreatorIdentity p}
    {rest : List (CreatorIdentity p)}
    (hrest : (page.identities.drop u.state.index).dropWhile kept = i :: rest)
    (hroom : u.outcomes.length < u.limit)
    (hrecord : u.record i (statusOf (u.state.known i) .stored) = .ok v) :
    v.state.toCreatorScanFields = { u.state.toCreatorScanFields with
      index := v.state.index, completedIds := u.state.completedIds ++ [i.id] } := by
  have hfresh : i.id ∉ u.state.completedIds := by
    intro hmem
    have hkept := (h.ahead i (mem_ahead hrest)).1 hmem
    rw [head_not_kept hrest] at hkept
    cases hkept
  have haction : (if u.state.known i then .unchanged i else .detail i) =
      expectedAction i (statusOf (u.state.known i) .stored) := by
    cases u.state.known i <;> rfl
  unfold record at hrecord
  rw [h.nextAction_item hrest hroom, haction] at hrecord
  simp only [bind, Except.bind, if_true] at hrecord
  have hfields := replace_fields hrecord
  rw [hfields]
  have hcompleted : h.skipped.completedAfter i (statusOf (u.state.known i) .stored) =
      u.state.completedIds ++ [i.id] := if_pos ⟨statusOf_settled _, hfresh⟩
  rw [hcompleted]
  rfl

/-- How a unit ends that settles what it asks for: it leaves the page with the last
item, or it has reached its limit before. -/
inductive Settles (known : CreatorIdentity p → Bool) (page : CreatorPage p)
    (u v : CreatorScanUnit p) (asked : List (CreatorIdentity p)) : Prop
  | leaves (w : CreatorScanUnit p) : asked.length ≤ u.limit - u.outcomes.length →
      w.finishPage page = .ok v →
      v.outcomes = u.outcomes ++ asked.map (settled known) →
      w.state.toCreatorScanFields = { u.state.toCreatorScanFields with
        index := w.state.index,
        completedIds := u.state.completedIds ++ asked.map (fun i => i.id) } →
      Settles known page u v asked
  | stays : u.limit - u.outcomes.length < asked.length →
      v.reason = some .unitCapReached →
      v.outcomes = u.outcomes ++
        (asked.take (u.limit - u.outcomes.length)).map (settled known) →
      v.state.toCreatorScanFields = { u.state.toCreatorScanFields with
        index := v.state.index,
        completedIds := u.state.completedIds ++
          (asked.take (u.limit - u.outcomes.length)).map (fun i => i.id) } →
      Settles known page u v asked

/-- The item in front is settled, and the rest as it would be without it. -/
theorem Settles.cons {known : CreatorIdentity p → Bool} {w : CreatorScanUnit p}
    {i : CreatorIdentity p}
    {asked : List (CreatorIdentity p)} (hroom : u.outcomes.length < u.limit)
    (hlimit : w.limit = u.limit) (houtcomes : w.outcomes = u.outcomes ++ [settled known i])
    (hfields : w.state.toCreatorScanFields = { u.state.toCreatorScanFields with
      index := w.state.index, completedIds := u.state.completedIds ++ [i.id] })
    (h : Settles known page w v asked) :
    Settles known page u v (i :: asked) := by
  have hleft : u.limit - u.outcomes.length = (w.limit - w.outcomes.length) + 1 := by
    rw [hlimit, houtcomes, List.length_append, List.length_singleton]
    omega
  cases h with
  | leaves x hlen hfinish hstored hstate =>
    refine .leaves x ?_ hfinish ?_ ?_
    · rw [hleft]
      simpa using hlen
    · rw [hstored, houtcomes]
      simp
    · rw [hstate, hfields]
      simp
  | stays hlen hreason hstored hstate =>
    refine .stays ?_ hreason ?_ ?_
    · rw [hleft]
      simpa using hlen
    · rw [hstored, hleft, List.take_succ_cons, List.map_cons, houtcomes, List.append_assoc]
      rfl
    · rw [hstate, hfields, hleft]
      simp

/-- The items ahead that have to be asked for. -/
def asked (kept : CreatorIdentity p → Bool) (page : CreatorPage p) (u : CreatorScanUnit p) :
    List (CreatorIdentity p) :=
  (page.identities.drop u.state.index).filter (fun i => !kept i)

theorem filter_dropWhile_not {α : Type} (kept : α → Bool) (items : List α) :
    (items.dropWhile kept).filter (fun i => !kept i) = items.filter (fun i => !kept i) := by
  induction items with
  | nil => rfl
  | cons i items ih =>
    cases hi : kept i with
    | true => simp [hi, ih]
    | false => simp [hi]

theorem drive_settles {answer : ListAnswer p} {known : CreatorIdentity p → Bool} (turns : Nat)
    (h : Underway kept page u) (hknown : ∀ i, u.state.known i = known i)
    (hturns : u.limit - u.outcomes.length < turns) :
    ∃ v, drive answer (fun _ => .stored) turns u = .ok v ∧
      Settles known page u v (asked kept page u) := by
  induction turns generalizing u with
  | zero => omega
  | succ turns ih =>
    unfold asked
    rw [← filter_dropWhile_not]
    cases hrest : (page.identities.drop u.state.index).dropWhile kept with
    | nil =>
      obtain ⟨v, hfinish, houtcomes, -⟩ := h.skipped_underway.finishPage_ok
      refine ⟨v, ?_, .leaves h.skipped (Nat.zero_le _) hfinish ?_ ?_⟩
      · rw [drive, nextAction_eq h, h.next_item, hrest]
        simp only [List.head?_nil, hfinish]
        rfl
      · rw [List.filter_nil, List.map_nil, List.append_nil]
        exact houtcomes
      · rw [List.filter_nil, List.map_nil, List.append_nil]
        rfl
    | cons i rest =>
      have hkept := head_not_kept hrest
      rw [List.filter_cons_of_pos (by simp [hkept])]
      by_cases hcap : u.limit ≤ u.outcomes.length
      · have hzero : u.limit - u.outcomes.length = 0 := by omega
        refine ⟨h.skipped.stopped .unitCapReached, ?_, .stays ?_ rfl ?_ ?_⟩
        · rw [drive, nextAction_eq h, h.next_item, hrest]
          simp only [List.head?_cons]
          rw [if_pos hcap]
          rfl
        · rw [hzero]
          simp
        · rw [hzero, List.take_zero, List.map_nil, List.append_nil]
          rfl
        · rw [hzero, List.take_zero, List.map_nil, List.append_nil]
          rfl
      · have hroom : u.outcomes.length < u.limit := by omega
        obtain ⟨w, hrecord, hw⟩ := h.record_ok hrest hroom
          (statusOf_unchanged (u.state.known i) .stored)
        have hfields := h.record_settled hrest hroom hrecord
        have houtcomes : w.outcomes = u.outcomes ++ [settled known i] := by
          rw [hw.outcomes, hknown i]
          rfl
        have hlen : w.outcomes.length = u.outcomes.length + 1 := by
          rw [hw.outcomes, List.length_append]
          rfl
        obtain ⟨v, hdrive, hsettles⟩ := ih hw.underway
          (fun j => (hw.known j).trans (hknown j)) (by rw [hlen, hw.limit]; omega)
        refine ⟨v, ?_, ?_⟩
        · have hstatus : statusOf (u.state.known i) .stored ≠ .accessRestricted := by
            cases u.state.known i <;> decide
          rw [drive_item h hrest hroom, replayed_eq_record hstatus,
            ← record_congr (h.nextAction_skipped hrest hroom), hrecord]
          exact hdrive
        · unfold asked at hsettles
          rw [hw.rest] at hsettles
          exact hsettles.cons hroom hw.limit houtcomes hfields

/-- The lane of a unit is that of its state. -/
theorem observePage_lane {s : CreatorScanState p} {maxItems : Nat}
    (hcursor : page.inputCursor = s.pageCursor)
    (h : (fresh s maxItems).observePage page = .ok u) : u.state.lane = s.lane := by
  rw [observePage_fresh s maxItems hcursor] at h
  cases hw : (fresh s maxItems).witnessed page with
  | error e =>
    rw [hw] at h
    cases h
  | ok w =>
    rw [hw] at h
    have hwlane : w.state.lane = s.lane := by
      unfold witnessed at hw
      split at hw
      · split_ifs at hw
        rw [replace_fields hw]
        rfl
      · rw [replace_fields hw]
        rfl
    have hbounded : bounded { w with page := some page } page = .ok u := h
    unfold bounded at hbounded
    split_ifs at hbounded
    · rw [replace_fields hbounded]
      exact hwlane
    · obtain rfl := Except.ok.inj hbounded
      exact hwlane

/-- The ids of a page are all completed if every item of it is. -/
theorem completed_length (hwitness : u.state.witness = some page.witness)
    (hall : ∀ i ∈ page.identities, i.id ∈ u.state.completedIds) :
    u.state.completedIds.length = page.identities.length := by
  have hshown := (u.state.valid.fits _ hwitness).2.2
  rw [← witness_ids_length page]
  refine Nat.le_antisymm ?_ ?_
  · exact (List.subperm_of_subset u.state.valid.completedOnce hshown).length_le
  · refine (List.subperm_of_subset page.witness.valid.ids fun id hid => ?_).length_le
    rw [← PageWitness.ids, witness_ids] at hid
    obtain ⟨i, hi, rfl⟩ := List.mem_map.1 hid
    exact hall i hi

theorem listedSha256_of_mem {identities : List (ListingIdentity p)}
    (hnodup : (identities.map ListingIdentity.id).Nodup) {x : ListingIdentity p}
    (hx : x ∈ identities) : listedSha256 identities x.id = some x.listingSha256 := by
  unfold listedSha256
  cases hfind : identities.find? (fun i => i.id = x.id) with
  | none => simpa using List.find?_eq_none.1 hfind x hx
  | some y =>
    have hid : y.id = x.id := by simpa using List.find?_some hfind
    obtain rfl := List.inj_on_of_nodup_map hnodup (List.mem_of_find?_eq_some hfind) hx hid
    rfl

/-- On the page of its witness a state keeps the items that it has completed. -/
theorem keeps_iff_completed {s : CreatorScanState p} (hwitness : ∀ w ∈ s.witness, w = page.witness)
    {i : CreatorIdentity p} (hi : i ∈ page.identities) :
    s.keeps i = true ↔ i.id ∈ s.completedIds := by
  unfold CreatorScanState.keeps
  cases hw : s.witness with
  | none =>
    rw [(s.valid.unseen hw).2]
    simp
  | some w =>
    obtain rfl := hwitness w hw
    have hlisted : i.toListingIdentity ∈ page.witness.identities := List.mem_map_of_mem hi
    simp [listedSha256_of_mem page.witness.valid.ids hlisted]

/-- A unit that has settled all it asks for has completed its page. -/
theorem completed_of_asked {s : CreatorScanState p} {w : CreatorScanUnit p}
    (hu : Underway s.keeps page u) (hindex : u.state.index = 0)
    (hfields : w.state.toCreatorScanFields = { u.state.toCreatorScanFields with
      index := w.state.index,
      completedIds := u.state.completedIds ++ (asked s.keeps page u).map (fun i => i.id) }) :
    w.state.completedIds.length = page.identities.length := by
  refine completed_length ((congrArg CreatorScanFields.witness hfields).trans hu.witness) ?_
  intro i hi
  have hahead : i ∈ page.identities.drop u.state.index := by rwa [hindex, List.drop_zero]
  rw [congrArg CreatorScanFields.completedIds hfields, List.mem_append]
  by_cases hkept : s.keeps i = true
  · exact .inl ((hu.ahead i hahead).2 hkept)
  · exact .inr (List.mem_map.2 ⟨i, List.mem_filter.2 ⟨hahead, by simpa using hkept⟩, rfl⟩)

/-- An accepted unit over a page whose details all succeed. -/
theorem unit_settles {s : CreatorScanState p} (hcursor : page.inputCursor = s.pageCursor)
    (hshape : ∀ w ∈ s.witness, SameShape w page) {maxItems : Nat}
    (hmax : 1 ≤ maxItems ∧ maxItems ≤ 1000) :
    ∃ u v c, captureCreatorUnit s maxItems (.page page) (fun _ => .stored) = .ok c ∧
      Captured s maxItems page (fun _ => .stored) u v c ∧
      Settles s.known page u v (asked s.keeps page u) := by
  obtain ⟨u, v, c, hc, hfree, -⟩ := captured_of_page hcursor hshape hmax (fun _ => .stored)
  obtain ⟨v', hdrive, hsettles⟩ : ∃ v', drive (.page page) (fun _ => .stored) (u.limit + 1) u =
      .ok v' ∧ Settles s.known page u v' (asked s.keeps page u) :=
    drive_settles (u.limit + 1) hc.start.underway hc.start.known (by omega)
  obtain rfl : v' = v := Except.ok.inj (hdrive.symm.trans hc.driven)
  refine ⟨u, _, c, ?_, hc, hsettles⟩
  rw [hc.capture_eq hmax, hfree not_restricted_of_stored]
  rfl

end CreatorScanUnit

end MediaSync.Scan
