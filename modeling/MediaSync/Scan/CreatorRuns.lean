import MediaSync.Scan.CreatorSteps
import MediaSync.Scan.CreatorText

/-!
# When a creator scan can go on

A unit over a page publishes its record exactly if the page still has the shape
of the retained witness and the first restricted detail, if any, is not asked for
right after an item that an earlier unit completed. In the first case the unit
refuses the page; in the second its own record does not replay.
-/

namespace MediaSync.Scan

open JsonText

variable {p : CreatorPlatform}

section Order

variable {α : Type} (kept restricted : α → Bool)

/-- Of the items that are not kept, only so many are asked for, up to the first
restricted one; that one comes right after a kept item. -/
def RestrictedAfterKept (limit : Nat) (items : List α) : Prop :=
  ∃ before y x after, items = before ++ y :: x :: after ∧ kept y = true ∧
    kept x = false ∧ restricted x = true ∧
    (∀ z ∈ before, kept z = false → restricted z = false) ∧
    before.countP (fun z => !kept z) < limit

/-- The same item by item; the flag says that the item before was kept. -/
def haltsAfterKept : Bool → Nat → List α → Bool
  | _, _, [] => false
  | passed, limit, x :: items =>
    if kept x then haltsAfterKept true limit items
    else match limit with
      | 0 => false
      | limit + 1 => if restricted x then passed else haltsAfterKept false limit items

variable {kept restricted}

theorem restrictedAfterKept_cons {limit : Nat} {x : α} {items : List α} :
    RestrictedAfterKept kept restricted limit (x :: items) ↔
      (kept x = true ∧ 0 < limit ∧ ∃ y after, items = y :: after ∧ kept y = false ∧
        restricted y = true) ∨
      (kept x = true ∧ RestrictedAfterKept kept restricted limit items) ∨
      (kept x = false ∧ restricted x = false ∧ 0 < limit ∧
        RestrictedAfterKept kept restricted (limit - 1) items) := by
  constructor
  · rintro ⟨before, y, z, after, heq, hy, hz, hr, hfree, hcount⟩
    cases before with
    | nil =>
      obtain ⟨rfl, rfl⟩ : x = y ∧ items = z :: after := by simpa using heq
      exact .inl ⟨hy, by omega, z, after, rfl, hz, hr⟩
    | cons b before =>
      obtain ⟨rfl, rfl⟩ : x = b ∧ items = before ++ y :: z :: after := by simpa using heq
      have hrest : ∀ z ∈ before, kept z = false → restricted z = false :=
        fun z hz => hfree z (by simp [hz])
      cases hx : kept x with
      | true =>
        refine .inr (.inl ⟨rfl, before, y, z, after, rfl, hy, hz, hr, hrest, ?_⟩)
        simpa [List.countP_cons, hx] using hcount
      | false =>
        rw [List.countP_cons, hx] at hcount
        simp only [Bool.not_false, if_true] at hcount
        exact .inr (.inr ⟨rfl, hfree x (by simp) hx, by omega,
          before, y, z, after, rfl, hy, hz, hr, hrest, by omega⟩)
  · rintro (⟨hx, hlimit, y, after, rfl, hy, hr⟩ |
      ⟨hx, before, y, z, after, rfl, hy, hz, hr, hfree, hcount⟩ |
      ⟨hx, hrx, hlimit, before, y, z, after, rfl, hy, hz, hr, hfree, hcount⟩)
    · exact ⟨[], x, y, after, rfl, hx, hy, hr, by simp, by simpa using hlimit⟩
    · refine ⟨x :: before, y, z, after, rfl, hy, hz, hr, ?_, ?_⟩
      · intro b hb hkept
        rcases List.mem_cons.1 hb with rfl | hb
        · rw [hx] at hkept
          cases hkept
        · exact hfree b hb hkept
      · simpa [List.countP_cons, hx] using hcount
    · refine ⟨x :: before, y, z, after, rfl, hy, hz, hr, ?_, ?_⟩
      · intro b hb hkept
        rcases List.mem_cons.1 hb with rfl | hb
        · exact hrx
        · exact hfree b hb hkept
      · rw [List.countP_cons, hx]
        simp only [Bool.not_false, if_true]
        omega

theorem not_restrictedAfterKept_nil {limit : Nat} :
    ¬ RestrictedAfterKept kept restricted limit ([] : List α) := by
  rintro ⟨before, y, x, after, heq, -⟩
  cases before <;> cases heq

theorem haltsAfterKept_iff (passed : Bool) (limit : Nat) (items : List α) :
    haltsAfterKept kept restricted passed limit items = true ↔
      (passed = true ∧ 0 < limit ∧ ∃ y after, items = y :: after ∧ kept y = false ∧
        restricted y = true) ∨
      RestrictedAfterKept kept restricted limit items := by
  induction items generalizing passed limit with
  | nil => simp [haltsAfterKept, not_restrictedAfterKept_nil]
  | cons x items ih =>
    rw [restrictedAfterKept_cons]
    cases hx : kept x with
    | true => simp [haltsAfterKept, hx, ih]
    | false =>
      cases limit with
      | zero => simp [haltsAfterKept, hx]
      | succ limit =>
        cases hr : restricted x with
        | true => simp [haltsAfterKept, hx, hr]
        | false => simp [haltsAfterKept, hx, hr, ih]

theorem haltsAfterKept_eq_true_iff {limit : Nat} {items : List α} :
    haltsAfterKept kept restricted false limit items = true ↔
      RestrictedAfterKept kept restricted limit items := by
  simp [haltsAfterKept_iff]

/-- Passing over the kept items sets the flag if there was one. -/
theorem haltsAfterKept_dropWhile (passed : Bool) (limit : Nat) (items : List α) :
    haltsAfterKept kept restricted passed limit items =
      haltsAfterKept kept restricted (passed || !(items.takeWhile kept).isEmpty) limit
        (items.dropWhile kept) := by
  induction items generalizing passed with
  | nil => simp [haltsAfterKept]
  | cons x items ih =>
    cases hx : kept x with
    | true => simp [haltsAfterKept, hx, ih]
    | false => simp [hx]

end Order

/-! ## The capture loop and the replay -/

/-- The item was completed by an earlier unit and is listed as it was then. -/
def CreatorScanState.keeps (s : CreatorScanState p) (i : CreatorIdentity p) : Bool :=
  match s.witness with
  | none => false
  | some expected =>
    i.id ∈ s.completedIds && listedSha256 expected.identities i.id = some i.listingSha256

/-- The item has to be asked for, and its detail is restricted. -/
def CreatorScanState.restricts (s : CreatorScanState p)
    (details : CreatorIdentity p → DetailAnswer) (i : CreatorIdentity p) : Bool :=
  !s.known i && details i = .restricted

/-- The status that the capture loop records. -/
def statusOf (known : Bool) (answer : DetailAnswer) : CreatorStatus :=
  if known then .unchanged
  else match answer with
    | .stored => .stored
    | .unavailable => .detailUnavailable
    | .restricted => .accessRestricted

namespace CreatorScanUnit

variable {u v : CreatorScanUnit p} {page : CreatorPage p} {kept : CreatorIdentity p → Bool}
variable {answer : ListAnswer p} {details : CreatorIdentity p → DetailAnswer}

theorem statusOf_unchanged (known : Bool) (answer : DetailAnswer) :
    statusOf known answer = .unchanged ↔ known = true := by
  cases known <;> cases answer <;> simp [statusOf]

theorem statusOf_restricted (known : Bool) (answer : DetailAnswer) :
    statusOf known answer = .accessRestricted ↔ known = false ∧ answer = .restricted := by
  cases known <;> cases answer <;> simp [statusOf]

/-- The capture loop makes the call that the record will stand for. -/
theorem answered_item (u : CreatorScanUnit p) (known : Bool) (i : CreatorIdentity p) :
    u.answered answer details (if known then .unchanged i else .detail i) =
      u.replayed ⟨i, statusOf known (details i)⟩ := by
  cases known with
  | true => rfl
  | false =>
    cases hd : details i <;> simp [answered, replayed, statusOf, hd]

theorem replayed_eq_record {o : CreatorOutcome p} (ho : o.status ≠ .accessRestricted)
    (u : CreatorScanUnit p) : u.replayed o = u.record o.identity o.status := by
  obtain ⟨i, status⟩ := o
  cases status with
  | accessRestricted => exact absurd rfl ho
  | _ => rfl

/-- What the drive of a unit and the replay of its record come to. -/
structure Driven (page : CreatorPage p) (halts : Bool) (u v r : CreatorScanUnit p)
    (written : List (CreatorOutcome p)) : Prop where
  closed : Closed page u v
  outcomes : v.outcomes = u.outcomes ++ written
  within : v.outcomes.length ≤ u.limit
  replayed : replay written u = .ok r
  same : halts = false → r.nextAction = .ok (.stop, v)
  differs : halts = true → (∃ reason, r.reason = some reason) ∧ r.outcomes = v.outcomes ∧
    r.state.index ≠ v.state.index

theorem Closed.trans {w : CreatorScanUnit p} (h : Closed page v w)
    (hlisted : v.page = u.page) (hinput : v.inputState = u.inputState) : Closed page u w :=
  ⟨h.reason, h.listed.trans hlisted, h.inputState.trans hinput, h.cursor, h.next⟩

/-- A restricted item ends the unit; the index goes back to where the call began. -/
theorem fail_restricted {o : CreatorOutcome p} (ho : o.status = .accessRestricted)
    (hrecord : u.record o.identity o.status = .ok v) (hv : Underway kept page v)
    (hle : u.state.index ≤ page.identities.length) :
    u.replayed o = .ok ((v.stopped .accessRestricted).atIndex u.state.index
      (hv.index_valid hle)) := by
  obtain ⟨i, status⟩ := o
  cases ho
  simp only [replayed, fail, hrecord, if_true, bind, Except.bind]
  exact replace_ok _ (hv.index_valid hle)

theorem Underway.skips_eq (h : Underway kept page u) :
    u.skips page = ((page.identities.drop u.state.index).takeWhile kept).length := by
  have hsame : ∀ i ∈ page.identities.drop u.state.index,
      (decide (i.id ∈ u.state.completedIds)) = kept i := by
    intro i hi
    have := h.ahead i hi
    cases hk : kept i <;> simp [hk] at this ⊢ <;> exact this
  unfold skips
  generalize page.identities.drop u.state.index = rest at hsame
  induction rest with
  | nil => rfl
  | cons i rest ih =>
    rw [List.takeWhile_cons, List.takeWhile_cons, hsame i (by simp)]
    split
    · rw [List.length_cons, List.length_cons, ih fun j hj => hsame j (by simp [hj])]
    · rfl

/-- The unit asks for the same item before and after the passing over. -/
theorem Underway.nextAction_skipped (h : Underway kept page u) {i : CreatorIdentity p}
    {rest : List (CreatorIdentity p)}
    (hrest : (page.identities.drop u.state.index).dropWhile kept = i :: rest)
    (hroom : u.outcomes.length < u.limit) : u.nextAction = h.skipped.nextAction := by
  have hagain : (page.identities.drop h.skipped.state.index).dropWhile kept = i :: rest := by
    rw [show page.identities.drop h.skipped.state.index = _ from h.rest_eq,
      List.dropWhile_idempotent, hrest]
  rw [h.nextAction_item hrest hroom, h.skipped_underway.nextAction_item hagain hroom,
    h.skipped_skipped]
  rfl

/-- Asking for an item and answering it replays as one call. -/
theorem drive_item (h : Underway kept page u) {i : CreatorIdentity p}
    {rest : List (CreatorIdentity p)}
    (hrest : (page.identities.drop u.state.index).dropWhile kept = i :: rest)
    (hroom : u.outcomes.length < u.limit) (turns : Nat) :
    drive answer details (turns + 1) u =
      (h.skipped.replayed ⟨i, statusOf (u.state.known i) (details i)⟩).bind
        (drive answer details turns) := by
  rw [drive, h.nextAction_item hrest hroom]
  simp only [bind, Except.bind]
  rw [if_neg (by split_ifs <;> simp), answered_item]

theorem head_not_kept {rest tail : List (CreatorIdentity p)} {i : CreatorIdentity p}
    (hrest : rest.dropWhile kept = i :: tail) : kept i = false := by
  have hhead := List.head?_dropWhile_not kept rest
  rw [hrest] at hhead
  simpa using hhead

/-- Where the next action is to stop, the drive ends, and nothing is left to replay. -/
theorem driven_stop {halts : Bool} (turns : Nat) (hnext : u.nextAction = .ok (.stop, v))
    (houtcomes : v.outcomes = u.outcomes) (hclosed : Closed page u v)
    (hwithin : u.outcomes.length ≤ u.limit) (hhalts : halts = false) :
    drive answer details (turns + 1) u = .ok v ∧ Driven page halts u v u [] := by
  refine ⟨?_, hclosed, by simpa using houtcomes, ?_, rfl, fun _ => hnext, ?_⟩
  · rw [drive, hnext]
    rfl
  · rw [houtcomes]
    exact hwithin
  · intro htrue
    rw [hhalts] at htrue
    cases htrue

/-- A restricted detail ends the unit. The drive and the replay put the index back to different
places exactly where items were passed over before it. -/
theorem driven_restricted (answer : ListAnswer p) (details : CreatorIdentity p → DetailAnswer)
    {w : CreatorScanUnit p} {o : CreatorOutcome p}
    {rest : List (CreatorIdentity p)} {halts : Bool} (h : Underway kept page u)
    (hw : Recorded kept page u w o rest) (hrecord : u.record o.identity o.status = .ok w)
    (hrecord' : h.skipped.record o.identity o.status = .ok w)
    (hstatus : o.status = .accessRestricted)
    (hhalts : halts = !((page.identities.drop u.state.index).takeWhile kept).isEmpty)
    (turns : Nat) :
    ∃ v r, (h.skipped.replayed o).bind (drive answer details (turns + 1)) = .ok v ∧
      Driven page halts u v r [o] := by
  have hindex : h.skipped.state.index =
      u.state.index + ((page.identities.drop u.state.index).takeWhile kept).length := by
    rw [← h.skips_eq]
    rfl
  refine ⟨(w.stopped .accessRestricted).atIndex h.skipped.state.index
      (hw.underway.index_valid h.skipped_underway.index_le),
    (w.stopped .accessRestricted).atIndex u.state.index
      (hw.underway.index_valid h.index_le), ?_, ?_, hw.outcomes, ?_, ?_, ?_, ?_⟩
  · rw [fail_restricted hstatus hrecord' hw.underway h.skipped_underway.index_le]
    simp only [Except.bind, drive]
    rw [nextAction_of_reason ⟨_, rfl⟩]
    rfl
  · exact ⟨⟨_, rfl⟩, hw.underway.listed.trans h.listed.symm, hw.inputState,
      .inl hw.underway.pageCursor_eq, hw.underway.witness_next⟩
  · have := hw.underway.outcomes
    rwa [hw.limit] at this
  · simp only [replay, fail_restricted hstatus hrecord hw.underway h.index_le]
    rfl
  · intro hfalse
    have hempty : ((page.identities.drop u.state.index).takeWhile kept) = [] := by
      simpa [hhalts] using hfalse
    have hsame : h.skipped.state.index = u.state.index := by
      rw [hindex, hempty]
      rfl
    rw [nextAction_of_reason ⟨_, rfl⟩]
    simp only [hsame]
  · intro htrue
    have hsome : ((page.identities.drop u.state.index).takeWhile kept) ≠ [] := by
      simpa [hhalts] using htrue
    refine ⟨⟨_, rfl⟩, rfl, ?_⟩
    show u.state.index ≠ h.skipped.state.index
    have hpos := List.length_pos_iff.2 hsome
    omega

/-- The drive goes on behind an item that is recorded. -/
theorem Driven.recorded {w r : CreatorScanUnit p} {o : CreatorOutcome p}
    {rest : List (CreatorIdentity p)} {halts : Bool} {written : List (CreatorOutcome p)}
    (hd : Driven page halts w v r written) (h : Underway kept page u)
    (hw : Recorded kept page u w o rest) (hreplayed : u.replayed o = .ok w) :
    Driven page halts u v r (o :: written) where
  closed := hd.closed.trans (hw.underway.listed.trans h.listed.symm) hw.inputState
  outcomes := by
    rw [hd.outcomes, hw.outcomes, List.append_assoc]
    rfl
  within := hw.limit ▸ hd.within
  replayed := by
    rw [replay, hreplayed]
    exact hd.replayed
  same := hd.same
  differs := hd.differs

theorem drive_underway {s : CreatorScanState p} (turns : Nat) {u : CreatorScanUnit p}
    (h : Underway kept page u) (hknown : ∀ i, u.state.known i = s.known i)
    (hturns : u.limit - u.outcomes.length < turns) :
    ∃ v r written, drive answer details turns u = .ok v ∧
      Driven page (haltsAfterKept kept (s.restricts details) false
        (u.limit - u.outcomes.length) (page.identities.drop u.state.index)) u v r written := by
  induction turns generalizing u with
  | zero => omega
  | succ turns ih =>
    rw [haltsAfterKept_dropWhile]
    cases hrest : (page.identities.drop u.state.index).dropWhile kept with
    | nil =>
      -- Nothing is left to ask for: the unit leaves the page.
      obtain ⟨v, hnext, houtcomes, hclosed⟩ := h.nextAction_end hrest
      exact ⟨v, u, [], driven_stop turns hnext houtcomes hclosed h.outcomes rfl⟩
    | cons i rest =>
      have hkept := head_not_kept hrest
      by_cases hcap : u.limit ≤ u.outcomes.length
      · -- The limit is reached.
        obtain ⟨v, hnext, houtcomes, hclosed⟩ := h.nextAction_cap hrest hcap
        refine ⟨v, u, [], driven_stop turns hnext houtcomes hclosed h.outcomes ?_⟩
        rw [Nat.sub_eq_zero_of_le hcap]
        simp [haltsAfterKept, hkept]
      · have hroom : u.outcomes.length < u.limit := by omega
        obtain ⟨n, hn⟩ : ∃ n, u.limit - u.outcomes.length = n + 1 :=
          ⟨u.limit - u.outcomes.length - 1, by omega⟩
        have hsame := h.nextAction_skipped hrest hroom
        rw [drive_item h hrest hroom]
        generalize ho : (⟨i, statusOf (u.state.known i) (details i)⟩ : CreatorOutcome p) = o
        obtain ⟨w, hrecord, hw⟩ := h.record_ok hrest hroom
          (statusOf_unchanged (u.state.known i) (details i))
        rw [ho] at hw
        have hrecord : u.record o.identity o.status = .ok w := by rw [← ho]; exact hrecord
        have hrecord' : h.skipped.record o.identity o.status = .ok w := by
          rw [← record_congr hsame]
          exact hrecord
        have hrestricts : s.restricts details i = true ↔ o.status = .accessRestricted := by
          rw [← ho]
          simp [CreatorScanState.restricts, statusOf_restricted, hknown]
        cases hr : s.restricts details i with
        | true =>
          obtain ⟨later, rfl⟩ : ∃ later, turns = later + 1 := ⟨turns - 1, by omega⟩
          obtain ⟨v, r, hdrive, hd⟩ := driven_restricted answer details h hw hrecord hrecord'
            (hrestricts.1 hr) rfl later
          refine ⟨v, r, [o], hdrive, ?_⟩
          have hhalts : haltsAfterKept kept (s.restricts details)
              (false || !((page.identities.drop u.state.index).takeWhile kept).isEmpty)
              (u.limit - u.outcomes.length) (i :: rest) =
              !((page.identities.drop u.state.index).takeWhile kept).isEmpty := by
            rw [hn]
            simp [haltsAfterKept, hkept, hr]
          rw [hhalts]
          exact hd
        | false =>
          have hstatus : o.status ≠ .accessRestricted := by
            intro heq
            rw [hrestricts.2 heq] at hr
            cases hr
          have hlen : w.outcomes.length = u.outcomes.length + 1 := by
            rw [hw.outcomes, List.length_append]
            rfl
          have hlimit := hw.limit
          obtain ⟨v, r, written, hdrive, hd⟩ := ih hw.underway
            (fun j => (hw.known j).trans (hknown j)) (by omega)
          have hleft : w.limit - w.outcomes.length = n := by omega
          have hgo : haltsAfterKept kept (s.restricts details)
              (false || !((page.identities.drop u.state.index).takeWhile kept).isEmpty)
              (u.limit - u.outcomes.length) (i :: rest) =
              haltsAfterKept kept (s.restricts details) false (w.limit - w.outcomes.length)
                (page.identities.drop w.state.index) := by
            rw [hn, hleft, hw.rest]
            simp [haltsAfterKept, hkept, hr]
          refine ⟨v, r, o :: written, ?_, ?_⟩
          · rw [replayed_eq_record hstatus, hrecord']
            exact hdrive
          · rw [hgo]
            exact hd.recorded h hw (by rw [replayed_eq_record hstatus, hrecord])

theorem statusCount_total (outcomes : List (CreatorOutcome p)) :
    outcomes.countP (fun o => decide (o.status = .stored)) +
        outcomes.countP (fun o => decide (o.status = .unchanged)) +
        outcomes.countP (fun o => isFailure o.status) = outcomes.length ∧
      outcomes.countP (fun o => decide (o.status ≠ .unchanged)) =
        outcomes.countP (fun o => decide (o.status = .stored)) +
          outcomes.countP (fun o => isFailure o.status) := by
  induction outcomes with
  | nil => simp
  | cons o outcomes ih =>
    simp only [List.countP_cons, List.length_cons]
    cases o.status <;> simp [isFailure] at ih ⊢ <;> omega

/-- The record says what the unit that has stopped did. -/
structure Covers (v : CreatorScanUnit p) (c : CreatorScanCoverage p) : Prop where
  inputState : c.inputState = v.inputState
  listed : c.page = v.page
  outcomes : c.outcomes = v.outcomes
  reason : v.reason = some c.summary.stopReason
  lane : c.summary.lane = v.inputState.lane
  complete : c.summary.pageComplete = (v.page.isSome && v.state.witness.isNone)
  nextState : c.nextState.toCreatorScanFields =
    { v.state.toCreatorScanFields with lastUnit := some c.summary }

/-- The record of a unit that has stopped, given that its summary is valid. -/
theorem coverage_eq {reason : CreatorReason} (hnext : u.nextAction = .ok (.stop, v))
    (hreason : v.reason = some reason)
    (hvalid : CreatorUnitSummary.Valid p (v.statusCount (· = .stored))
      (v.statusCount (· = .unchanged)) (v.statusCount isFailure) 1
      (v.statusCount (· ≠ .unchanged))) :
    u.coverage = .ok ⟨v.inputState, ⟨_, v.state.valid.lastUnit ⟨v.inputState.lane, reason,
      _, _, _, _, _, v.page.isSome && v.state.witness.isNone, hvalid⟩⟩, v.page, v.outcomes,
      ⟨v.inputState.lane, reason, _, _, _, _, _, v.page.isSome && v.state.witness.isNone,
        hvalid⟩⟩ := by
  unfold coverage
  rw [hnext]
  simp only [bind, Except.bind, hreason, dif_pos hvalid]
  rw [CreatorScanState.make_ok (v.state.valid.lastUnit _)]

theorem coverage_of_stop (hnext : u.nextAction = .ok (.stop, v))
    (hreason : ∃ reason, v.reason = some reason) (hlength : v.outcomes.length ≤ p.pageSize) :
    ∃ c, u.coverage = .ok c ∧ Covers v c := by
  obtain ⟨reason, hreason⟩ := hreason
  obtain ⟨htotal, hdetails⟩ := statusCount_total v.outcomes
  have hvalid : CreatorUnitSummary.Valid p (v.statusCount (· = .stored))
      (v.statusCount (· = .unchanged)) (v.statusCount isFailure) 1
      (v.statusCount (· ≠ .unchanged)) :=
    ⟨rfl, hdetails, htotal.le.trans hlength⟩
  exact ⟨_, coverage_eq hnext hreason hvalid, rfl, rfl, rfl, hreason, rfl, rfl, rfl⟩

theorem mem_keptIds {expected : PageWitness p} {i : CreatorIdentity p}
    (hexpected : u.state.witness = some expected) (hi : i ∈ page.identities) :
    i.id ∈ u.keptIds expected page ↔ u.state.keeps i = true := by
  simp only [keptIds, CreatorPage.witness, CreatorScanState.keeps, hexpected, List.mem_map,
    List.mem_filter, Bool.and_eq_true, decide_eq_true_eq]
  constructor
  · rintro ⟨_, ⟨⟨j, hj, rfl⟩, hkept⟩, hid⟩
    obtain rfl : j = i := List.inj_on_of_nodup_map (page_ids_nodup page) hj hi hid
    exact hkept
  · intro hkept
    exact ⟨_, ⟨⟨i, hi, rfl⟩, hkept⟩, rfl⟩

theorem keptIds_valid (u : CreatorScanUnit p) (expected : PageWitness p) (page : CreatorPage p) :
    (u.keptIds expected page).Nodup ∧ ∀ id ∈ u.keptIds expected page, id ∈ page.witness.ids := by
  have hsub : (u.keptIds expected page).Sublist page.witness.ids :=
    List.filter_sublist.map _
  exact ⟨page.valid.ids.sublist hsub, fun id hid => hsub.mem hid⟩

/-- The unit after the page was accepted. -/
structure Accepted (s : CreatorScanState p) (maxItems : Nat) (page : CreatorPage p)
    (u : CreatorScanUnit p) : Prop where
  underway : Underway s.keeps page u
  known : ∀ i, u.state.known i = s.known i
  outcomes : u.outcomes = []
  limit : u.limit = min maxItems p.pageSize
  inputState : u.inputState = s
  index : u.state.index = 0

/-- Setting the boundary of the head changes nothing that the unit asks for. -/
theorem bounded_ok {s : CreatorScanState p} {maxItems : Nat} (h : Accepted s maxItems page u) :
    ∃ v, u.bounded page = .ok v ∧ Accepted s maxItems page v := by
  unfold bounded
  split_ifs with hfirst
  · refine ⟨_, replace_ok _ (u.state.valid.headBoundary page.witness), ?_⟩
    have hknown : ∀ i, u.state.known i = false := by
      intro i
      simp [CreatorScanState.known, hfirst.1]
    exact
      { underway :=
          { listed := h.underway.listed
            reason := h.underway.reason
            witness := h.underway.witness
            limit := h.underway.limit
            outcomes := h.underway.outcomes
            ahead := h.underway.ahead }
        known := by
          intro i
          rw [← h.known i, hknown i]
          simp [CreatorScanState.known, hfirst.1]
        outcomes := h.outcomes
        limit := h.limit
        inputState := h.inputState
        index := h.index }
  · exact ⟨u, rfl, h⟩

theorem observePage_fresh (s : CreatorScanState p) (maxItems : Nat)
    (hcursor : page.inputCursor = s.pageCursor) :
    (fresh s maxItems).observePage page =
      ((fresh s maxItems).witnessed page).bind fun u =>
        bounded { u with page := some page } page := by
  unfold observePage
  rw [show (fresh s maxItems).nextAction = .ok (.list s.pageCursor, fresh s maxItems) from rfl]
  simp only [bind, Except.bind]
  rw [if_pos (by rw [hcursor])]

theorem observePage_accepts {s : CreatorScanState p} (maxItems : Nat)
    (hcursor : page.inputCursor = s.pageCursor) (hshape : ∀ w ∈ s.witness, SameShape w page) :
    ∃ u, (fresh s maxItems).observePage page = .ok u ∧ Accepted s maxItems page u := by
  rw [observePage_fresh s maxItems hcursor]
  have hsize : min maxItems p.pageSize ≤ p.pageSize := Nat.min_le_right _ _
  unfold witnessed
  cases hw : (fresh s maxItems).state.witness with
  | some expected =>
    obtain ⟨hnodup, hshown⟩ := keptIds_valid (fresh s maxItems) expected page
    have hvalid := (fresh s maxItems).state.valid.witnessed (w := page.witness) hcursor
      hnodup hshown
    simp only [if_pos (hshape expected hw), replace_ok _ hvalid, Except.bind]
    refine bounded_ok ⟨⟨rfl, rfl, rfl, hsize, Nat.zero_le _, ?_⟩, fun _ => rfl, rfl, rfl, rfl,
      rfl⟩
    intro i hi
    exact mem_keptIds hw (List.mem_of_mem_drop hi)
  | none =>
    obtain ⟨hindex, hcompleted⟩ := s.valid.unseen hw
    have hvalid : ({ s.toCreatorScanFields with witness := some page.witness } :
        CreatorScanFields p).Valid := by
      have := s.valid.witnessed (w := page.witness) hcursor
        (List.nodup_nil : ([] : List String).Nodup) (by simp)
      rwa [← hindex, ← hcompleted] at this
    have hreplace : (fresh s maxItems).replace { (fresh s maxItems).state.toCreatorScanFields with
        witness := some page.witness } = _ := replace_ok (fresh s maxItems) hvalid
    simp only [hreplace, Except.bind]
    refine bounded_ok ⟨⟨rfl, rfl, rfl, hsize, Nat.zero_le _, ?_⟩, fun _ => rfl, rfl, rfl, rfl,
      hindex⟩
    intro i _
    have hkeeps : s.keeps i = false := by
      simp only [CreatorScanState.keeps, show s.witness = none from hw]
    show i.id ∈ s.completedIds ↔ s.keeps i = true
    rw [hcompleted, hkeeps]
    simp

theorem observePage_refuses {s : CreatorScanState p} (maxItems : Nat)
    (hcursor : page.inputCursor = s.pageCursor) {w : PageWitness p} (hw : w ∈ s.witness)
    (hshape : ¬ SameShape w page) : (fresh s maxItems).observePage page = .error .invalid := by
  rw [observePage_fresh s maxItems hcursor]
  unfold witnessed
  rw [show (fresh s maxItems).state.witness = some w from hw]
  simp only [if_neg hshape]
  rfl

end CreatorScanUnit

/-! ## One unit over a page -/

/-- One unit from its state to the record that its validation accepts. -/
def captureCreatorUnit (state : CreatorScanState p) (maxItems : Nat) (answer : ListAnswer p)
    (details : CreatorIdentity p → DetailAnswer) : Except ScanError (CreatorScanCoverage p) := do
  let u ← CreatorScanUnit.new state maxItems
  let u ← CreatorScanUnit.drive answer details u.turns u
  let coverage ← u.coverage
  coverage.validate state maxItems
  .ok coverage

theorem runCreatorUnit_eq (s : CreatorScanState p) (maxItems : Nat) (answer : ListAnswer p)
    (details : CreatorIdentity p → DetailAnswer) :
    runCreatorUnit s maxItems answer details =
      (captureCreatorUnit s maxItems answer details).bind fun c => c.toJsonLine.map fun _ => c := by
  unfold runCreatorUnit captureCreatorUnit
  cases CreatorScanUnit.new s maxItems with
  | error e => rfl
  | ok u =>
    simp only [bind, Except.bind]
    cases CreatorScanUnit.drive answer details u.turns u with
    | error e => rfl
    | ok v =>
      simp only
      cases v.coverage with
      | error e => rfl
      | ok c =>
        simp only
        cases c.validate s maxItems with
        | error e => rfl
        | ok _ =>
          show (c.toJsonLine.bind fun _ => Except.ok c) = c.toJsonLine.map fun _ => c
          cases c.toJsonLine <;> rfl

/-- The record of a unit over a page, before it is validated. -/
structure Proposed (s : CreatorScanState p) (maxItems : Nat) (page : CreatorPage p)
    (details : CreatorIdentity p → DetailAnswer) (c : CreatorScanCoverage p) : Prop where
  driven : ∃ u : CreatorScanUnit p,
    CreatorScanUnit.drive (.page page) details (CreatorScanUnit.fresh s maxItems).turns (.fresh s maxItems) =
      Except.ok u ∧
    c.nextState.toCreatorScanFields =
      { u.state.toCreatorScanFields with lastUnit := some c.summary }
  inputState : c.inputState = s
  listed : c.page = some page
  outcomes : c.outcomes.length ≤ p.pageSize
  cursor : c.nextState.pageCursor = page.inputCursor ∨
    c.nextState.pageCursor = page.nextCursor ∨ c.nextState.pageCursor = ""
  next : ∀ w ∈ c.nextState.witness, w.nextCursor = page.nextCursor

open CreatorScanUnit in
/-- The unit over its page: `u` has accepted it, `v` has stopped, `c` is the record. -/
structure Captured (s : CreatorScanState p) (maxItems : Nat) (page : CreatorPage p)
    (details : CreatorIdentity p → DetailAnswer) (u v : CreatorScanUnit p)
    (c : CreatorScanCoverage p) : Prop where
  accepted : (fresh s maxItems).observePage page = .ok u
  start : Accepted s maxItems page u
  driven : drive (.page page) details (u.limit + 1) u = .ok v
  closed : Closed page u v
  within : v.outcomes.length ≤ u.limit
  covered : v.coverage = .ok c
  covers : Covers v c

namespace Captured

open CreatorScanUnit

variable {s : CreatorScanState p} {maxItems : Nat} {page : CreatorPage p}
  {details : CreatorIdentity p → DetailAnswer} {u v : CreatorScanUnit p}
  {c : CreatorScanCoverage p}

theorem drive_eq (h : Captured s maxItems page details u v c) :
    drive (.page page) details (fresh s maxItems).turns (fresh s maxItems) = .ok v := by
  have hturns : (fresh s maxItems).turns = (u.limit + 1) + 1 := by rw [h.start.limit]; rfl
  rw [hturns, drive,
    show (fresh s maxItems).nextAction = .ok (.list s.pageCursor, fresh s maxItems) from rfl]
  simp only [bind, Except.bind, answered, h.accepted]
  exact h.driven

theorem proposed (h : Captured s maxItems page details u v c) :
    Proposed s maxItems page details c where
  driven := ⟨v, h.drive_eq, h.covers.nextState⟩
  inputState := h.covers.inputState.trans (h.closed.inputState.trans h.start.inputState)
  listed := h.covers.listed.trans (h.closed.listed.trans h.start.underway.listed)
  outcomes := h.covers.outcomes ▸ h.within.trans h.start.underway.limit
  cursor := by
    rw [h.covers.nextState]
    exact h.closed.cursor
  next := by
    rw [h.covers.nextState]
    exact h.closed.next

/-- The record is validated by its replay. -/
theorem validate_eq (h : Captured s maxItems page details u v c)
    (hmax : 1 ≤ maxItems ∧ maxItems ≤ 1000) {r : CreatorScanUnit p}
    (hreplayed : replay v.outcomes u = .ok r) :
    c.validate s maxItems =
      (r.coverage.bind fun again => if again = c then .ok () else .error .invalid) := by
  have hwithin : c.outcomes.length ≤ min maxItems p.pageSize := by
    rw [h.covers.outcomes, ← h.start.limit]
    exact h.within
  unfold CreatorScanCoverage.validate
  rw [if_neg (by rw [h.proposed.inputState]; simpa using hwithin)]
  simp only [CreatorScanUnit.new, if_pos hmax, CreatorScanCoverage.rebuilt, h.proposed.listed,
    bind, Except.bind, h.accepted, h.covers.outcomes, hreplayed]

theorem capture_eq (h : Captured s maxItems page details u v c)
    (hmax : 1 ≤ maxItems ∧ maxItems ≤ 1000) :
    captureCreatorUnit s maxItems (.page page) details =
      (c.validate s maxItems).bind fun _ => .ok c := by
  simp only [captureCreatorUnit, CreatorScanUnit.new, if_pos hmax, bind, Except.bind, h.drive_eq,
    h.covered]

end Captured

open CreatorScanUnit in
/-- An accepted page leads to a record; it replays unless the unit halted right
after a kept item. -/
theorem captured_of_page {s : CreatorScanState p} {page : CreatorPage p}
    (hcursor : page.inputCursor = s.pageCursor)
    (hshape : ∀ w ∈ s.witness, SameShape w page) {maxItems : Nat}
    (hmax : 1 ≤ maxItems ∧ maxItems ≤ 1000) (details : CreatorIdentity p → DetailAnswer) :
    ∃ u v c, Captured s maxItems page details u v c ∧
      (¬ RestrictedAfterKept s.keeps (s.restricts details) (min maxItems p.pageSize)
          page.identities → c.validate s maxItems = .ok ()) ∧
      (RestrictedAfterKept s.keeps (s.restricts details) (min maxItems p.pageSize)
          page.identities → c.validate s maxItems = .error .invalid) := by
  obtain ⟨u, hobserve, hu⟩ := observePage_accepts maxItems hcursor hshape
  obtain ⟨v, r, written, hdrive, hd⟩ : ∃ v r written,
      drive (.page page) details (u.limit + 1) u = .ok v ∧ Driven page _ u v r written :=
    drive_underway (u.limit + 1) hu.underway hu.known (by omega)
  have hlength : v.outcomes.length ≤ p.pageSize := hd.within.trans hu.underway.limit
  have hstop := nextAction_of_reason hd.closed.reason
  obtain ⟨c, hc, hcovers⟩ := coverage_of_stop hstop hd.closed.reason hlength
  have hcaptured : Captured s maxItems page details u v c :=
    ⟨hobserve, hu, hdrive, hd.closed, hd.within, hc, hcovers⟩
  have hreplayed : replay v.outcomes u = .ok r := by
    rw [hd.outcomes, hu.outcomes, List.nil_append]
    exact hd.replayed
  have hhalts : haltsAfterKept s.keeps (s.restricts details) false
      (u.limit - u.outcomes.length) (page.identities.drop u.state.index) = true ↔
      RestrictedAfterKept s.keeps (s.restricts details) (min maxItems p.pageSize)
        page.identities := by
    rw [hu.outcomes, hu.limit, hu.index, List.drop_zero]
    exact haltsAfterKept_eq_true_iff
  refine ⟨u, v, c, hcaptured, ?_, ?_⟩
  · intro hfree
    have hagain : r.coverage = .ok c := by
      rw [coverage_congr ((hd.same (Bool.eq_false_iff.2 (mt hhalts.1 hfree))).trans hstop.symm), hc]
    rw [hcaptured.validate_eq hmax hreplayed, hagain]
    simp only [Except.bind, if_true]
  · intro hblocked
    obtain ⟨hreason, hsame, hdiffers⟩ := hd.differs (hhalts.2 hblocked)
    obtain ⟨again, hagain, hcoversAgain⟩ :=
      coverage_of_stop (nextAction_of_reason hreason) hreason (hsame ▸ hlength)
    have hne : again ≠ c := by
      rintro rfl
      have hleft : again.nextState.index = r.state.index := by rw [hcoversAgain.nextState]
      have hright : again.nextState.index = v.state.index := by rw [hcovers.nextState]
      exact hdiffers (hleft.symm.trans hright)
    rw [hcaptured.validate_eq hmax hreplayed, hagain]
    simp only [Except.bind, if_neg hne]

open CreatorScanUnit in
theorem runCreatorUnit_accepted {s : CreatorScanState p} {page : CreatorPage p}
    (hcursor : page.inputCursor = s.pageCursor)
    (hshape : ∀ w ∈ s.witness, SameShape w page) {maxItems : Nat} (hmax : 1 ≤ maxItems ∧ maxItems ≤ 1000)
    (details : CreatorIdentity p → DetailAnswer) :
    ∃ c, Proposed s maxItems page details c ∧
      (¬ RestrictedAfterKept s.keeps (s.restricts details) (min maxItems p.pageSize)
          page.identities →
        runCreatorUnit s maxItems (.page page) details = c.toJsonLine.map fun _ => c) ∧
      (RestrictedAfterKept s.keeps (s.restricts details) (min maxItems p.pageSize)
          page.identities →
        runCreatorUnit s maxItems (.page page) details = .error .invalid) := by
  obtain ⟨u, v, c, hc, hfree, hblocked⟩ := captured_of_page hcursor hshape hmax details
  refine ⟨c, hc.proposed, fun h => ?_, fun h => ?_⟩
  · rw [runCreatorUnit_eq, hc.capture_eq hmax, hfree h]
    rfl
  · rw [runCreatorUnit_eq, hc.capture_eq hmax, hblocked h]
    rfl

open CreatorScanUnit in
theorem runCreatorUnit_refused {s : CreatorScanState p} {page : CreatorPage p}
    (hcursor : page.inputCursor = s.pageCursor) {w : PageWitness p} (hw : w ∈ s.witness)
    (hshape : ¬ SameShape w page) (maxItems : Nat)
    (details : CreatorIdentity p → DetailAnswer) :
    runCreatorUnit s maxItems (.page page) details = .error .invalid := by
  unfold runCreatorUnit CreatorScanUnit.new
  split_ifs
  · simp only [bind, Except.bind, turns]
    rw [drive,
      show (fresh s maxItems).nextAction = .ok (.list s.pageCursor, fresh s maxItems) from rfl]
    simp only [bind, Except.bind, answered, observePage_refuses maxItems hcursor hw hshape]
    rfl
  · rfl

open CreatorScanUnit in
theorem runCreatorUnit_misplaced {s : CreatorScanState p} {page : CreatorPage p}
    (hcursor : page.inputCursor ≠ s.pageCursor) (maxItems : Nat)
    (details : CreatorIdentity p → DetailAnswer) :
    runCreatorUnit s maxItems (.page page) details = .error .invalid := by
  unfold runCreatorUnit CreatorScanUnit.new
  split_ifs
  · simp only [bind, Except.bind, turns]
    rw [drive,
      show (fresh s maxItems).nextAction = .ok (.list s.pageCursor, fresh s maxItems) from rfl]
    simp only [bind, Except.bind, answered, observePage]
    rw [show (fresh s maxItems).nextAction = .ok (.list s.pageCursor, fresh s maxItems) from rfl]
    simp [Ne.symm hcursor]
  · rfl

theorem maxItems_of_run {s : CreatorScanState p} {maxItems : Nat} {answer : ListAnswer p}
    {details : CreatorIdentity p → DetailAnswer} {c : CreatorScanCoverage p}
    (hrun : runCreatorUnit s maxItems answer details = .ok c) :
    1 ≤ maxItems ∧ maxItems ≤ 1000 := by
  by_contra hmax
  simp only [runCreatorUnit, CreatorScanUnit.new, if_neg hmax] at hrun
  cases hrun

/-- What a published record over a page looks like. -/
theorem proposed_of_run {s : CreatorScanState p} {maxItems : Nat} {page : CreatorPage p}
    {details : CreatorIdentity p → DetailAnswer} {c : CreatorScanCoverage p}
    (hrun : runCreatorUnit s maxItems (.page page) details = .ok c) :
    Proposed s maxItems page details c := by
  have hcursor : page.inputCursor = s.pageCursor := by
    by_contra hcursor
    rw [runCreatorUnit_misplaced hcursor] at hrun
    cases hrun
  have hshape : ∀ w ∈ s.witness, CreatorScanUnit.SameShape w page := by
    intro w hw
    by_contra hshape
    rw [runCreatorUnit_refused hcursor hw hshape] at hrun
    cases hrun
  obtain ⟨c', hproposed, hfree, hblocked⟩ :=
    runCreatorUnit_accepted hcursor hshape (maxItems_of_run hrun) details
  by_cases h : RestrictedAfterKept s.keeps (s.restricts details) (min maxItems p.pageSize)
      page.identities
  · rw [hblocked h] at hrun
    cases hrun
  · rw [hfree h] at hrun
    cases hline : c'.toJsonLine with
    | error e =>
      rw [hline] at hrun
      cases hrun
    | ok line =>
      rw [hline] at hrun
      obtain rfl : c' = c := Except.ok.inj hrun
      exact hproposed

open CreatorScanUnit in
/-- A list that is restricted leaves the state where it was. -/
theorem nextState_of_restricted {s : CreatorScanState p} {maxItems : Nat}
    {details : CreatorIdentity p → DetailAnswer} {c : CreatorScanCoverage p}
    (hrun : runCreatorUnit s maxItems .restricted details = .ok c) :
    c.nextState.toCreatorScanFields =
      { s.toCreatorScanFields with lastUnit := some c.summary } := by
  have hmax := maxItems_of_run hrun
  have hstop : ((fresh s maxItems).stopped .accessRestricted).nextAction =
      .ok (.stop, (fresh s maxItems).stopped .accessRestricted) := rfl
  have hdriven : drive .restricted details (fresh s maxItems).turns (fresh s maxItems) =
      .ok ((fresh s maxItems).stopped .accessRestricted) := rfl
  obtain ⟨c', hc, hcovers⟩ := coverage_of_stop hstop ⟨_, rfl⟩ (Nat.zero_le _)
  simp only [runCreatorUnit, CreatorScanUnit.new, if_pos hmax, bind, Except.bind, hdriven,
    hc] at hrun
  cases hvalid : c'.validate s maxItems with
  | error e =>
    rw [hvalid] at hrun
    cases hrun
  | ok _ =>
    cases hline : c'.toJsonLine with
    | error e =>
      rw [hvalid, hline] at hrun
      cases hrun
    | ok line =>
      rw [hvalid, hline] at hrun
      obtain rfl : c' = c := Except.ok.inj hrun
      exact hcovers.nextState

/-- The states that accepted units lead to, over pages of a feed. -/
inductive Reached (feed : CreatorPage p → Prop) : CreatorScanState p → Prop
  | initial (binding : CreatorBinding) : Reached feed (.initial p binding)
  | unit {s : CreatorScanState p} {c : CreatorScanCoverage p} (maxItems : Nat)
      (answer : ListAnswer p) (details : CreatorIdentity p → DetailAnswer) (hs : Reached feed s)
      (hfeed : ∀ page, answer = .page page → feed page)
      (hrun : runCreatorUnit s maxItems answer details = .ok c) : Reached feed c.nextState
  | head {s s' : CreatorScanState p} (hs : Reached feed s) (hhead : s.forHead = .ok s') :
      Reached feed s'

theorem cursorFits_empty : CursorFits "" := by
  unfold CursorFits
  decide

theorem Proposed.cursorsFit {s : CreatorScanState p} {page : CreatorPage p}
    {maxItems : Nat} {details : CreatorIdentity p → DetailAnswer} {c : CreatorScanCoverage p}
    (h : Proposed s maxItems page details c) (hpage : page.CursorsFit) :
    c.nextState.CursorsFit := by
  constructor
  · rcases h.cursor with hc | hc | hc <;> rw [hc]
    · exact hpage.input
    · exact hpage.next
    · exact cursorFits_empty
  · intro w hw
    rw [h.next w hw]
    exact hpage.next

/-- Cursors that take little room on every page do so in every state reached. -/
theorem Reached.cursorsFit {feed : CreatorPage p → Prop}
    (hfeed : ∀ page, feed page → page.CursorsFit) {s : CreatorScanState p}
    (hs : Reached feed s) : s.CursorsFit := by
  induction hs with
  | initial binding => exact ⟨cursorFits_empty, fun _ hw => by cases hw⟩
  | @unit s c maxItems answer details hs hanswer hrun ih =>
    cases answer with
    | page page =>
      exact (proposed_of_run hrun).cursorsFit (hfeed page (hanswer page rfl))
    | restricted =>
      have hfields := nextState_of_restricted hrun
      rw [hfields]
      exact ⟨ih.page, ih.next⟩
  | @head s s' hs hhead ih =>
    unfold CreatorScanState.forHead at hhead
    split_ifs at hhead
    unfold CreatorScanState.make at hhead
    split_ifs at hhead
    obtain rfl := Except.ok.inj hhead
    exact ⟨cursorFits_empty, fun _ hw => by cases hw⟩

theorem runCreatorUnit_publishes {s : CreatorScanState p} (hs : s.CursorsFit)
    {page : CreatorPage p} (hpage : page.CursorsFit) (hcursor : page.inputCursor = s.pageCursor)
    (hshape : ∀ w ∈ s.witness, CreatorScanUnit.SameShape w page) {maxItems : Nat}
    (hmax : 1 ≤ maxItems ∧ maxItems ≤ 1000) (details : CreatorIdentity p → DetailAnswer)
    (hfree : ¬ RestrictedAfterKept s.keeps (s.restricts details) (min maxItems p.pageSize)
      page.identities) :
    ∃ c, Proposed s maxItems page details c ∧
      runCreatorUnit s maxItems (.page page) details = .ok c := by
  obtain ⟨c, hproposed, hrun, -⟩ := runCreatorUnit_accepted hcursor hshape hmax details
  obtain ⟨line, hline⟩ := toJsonLine_of_cursorsFit (hproposed.inputState ▸ hs)
    (hproposed.cursorsFit hpage) (by
      intro q hq
      rw [hproposed.listed] at hq
      exact Option.some.inj hq ▸ hpage)
    hproposed.outcomes
  exact ⟨c, hproposed, by rw [hrun hfree, hline]; rfl⟩

def sampleSha256 : String := "2cf24dba5fb0a30e26e83b2ac5b9e29e1b161e5c1fa7425e73043362938b9824"

def sampleBinding : CreatorBinding :=
  ⟨⟨List.replicate 32 '7', by decide⟩, sampleSha256, sampleSha256,
    "2cf24dba5fb0a30e26e83b2ac5b9e29e1b161e5c", by decide⟩

def sampleId : CreatorPlatform → Nat → String
  | .xhs, n => "64f0000000000000000000a" ++ toString n
  | .douyin, n => "730000000000000000" ++ toString n

def sampleToken : (p : CreatorPlatform) → p.Token
  | .xhs => (⟨sampleSha256, "pc_feed", by decide⟩ : XsecToken)
  | .douyin => ()

def sampleItem (p : CreatorPlatform) (n : Nat) (h : p.validId (sampleId p n) = true) :
    CreatorIdentity p :=
  ⟨⟨sampleId p n, sampleSha256, h, by decide⟩, sampleToken p⟩

theorem sampleId_zero (p : CreatorPlatform) : p.validId (sampleId p 0) = true := by
  cases p <;> decide

theorem sampleId_one (p : CreatorPlatform) : p.validId (sampleId p 1) = true := by
  cases p <;> decide

theorem sampleId_two (p : CreatorPlatform) : p.validId (sampleId p 2) = true := by
  cases p <;> decide

theorem sampleId_three (p : CreatorPlatform) : p.validId (sampleId p 3) = true := by
  cases p <;> decide

/-- The newest two of three items. -/
def samplePage (p : CreatorPlatform) : CreatorPage p :=
  ⟨"", "c1", true, [sampleItem p 2 (sampleId_two p), sampleItem p 1 (sampleId_one p)],
    by cases p <;> decide⟩

/-- The same request after a further item was published. -/
def movedPage (p : CreatorPlatform) : CreatorPage p :=
  ⟨"", "c1", true, [sampleItem p 3 (sampleId_three p), sampleItem p 2 (sampleId_two p)],
    by cases p <;> decide⟩

theorem samplePage_cursorsFit (p : CreatorPlatform) : (samplePage p).CursorsFit := by
  constructor
  · show (string "".toList).length ≤ 5000
    decide
  · show (string "c1".toList).length ≤ 5000
    decide

theorem not_restricted_of_stored {s : CreatorScanState p} {limit : Nat}
    {items : List (CreatorIdentity p)} :
    ¬ RestrictedAfterKept s.keeps (s.restricts fun _ => .stored) limit items := by
  rintro ⟨_, _, x, _, _, _, _, hx, _⟩
  simp [CreatorScanState.restricts] at hx

/-- One item of two is stored, and the page stays as the witness. -/
theorem sample_unit (p : CreatorPlatform) :
    ∃ c, runCreatorUnit (.initial p sampleBinding) 1 (.page (samplePage p))
        (fun _ => .stored) = .ok c ∧
      c.nextState.pageCursor = "" ∧ c.nextState.witness = some (samplePage p).witness := by
  obtain ⟨c, hproposed, hrun⟩ := runCreatorUnit_publishes
    (s := .initial p sampleBinding) ⟨cursorFits_empty, nofun⟩ (samplePage_cursorsFit p) rfl
    nofun (show 1 ≤ 1 ∧ 1 ≤ 1000 by decide) (fun _ => .stored) not_restricted_of_stored
  obtain ⟨u, hdriven, hfields⟩ := hproposed.driven
  have hleft : (CreatorScanUnit.drive (.page (samplePage p)) (fun _ => .stored) 3
      (.fresh (.initial p sampleBinding) 1)).toOption.map
        (fun u => (u.state.pageCursor, u.state.witness)) =
      some ("", some (samplePage p).witness) := by
    cases p <;> decide +kernel
  have hturns : (CreatorScanUnit.fresh (.initial p sampleBinding) 1).turns = 3 := by
    cases p <;> rfl
  rw [← hturns, hdriven] at hleft
  have hpair := Prod.mk.inj (Option.some.inj hleft)
  exact ⟨c, hrun, by rw [hfields]; exact hpair.1, by rw [hfields]; exact hpair.2⟩

/-- Over pages whose cursors take little room, a unit publishes its record exactly if
the page has the shape of the witness and no restricted detail ends the unit right
after an item that an earlier unit completed. -/
theorem creator_unit_publishes_iff {feed : CreatorPage p → Prop}
    (hfeed : ∀ page, feed page → page.CursorsFit) {s : CreatorScanState p}
    (hs : Reached feed s) {page : CreatorPage p} (hpage : feed page)
    (hcursor : page.inputCursor = s.pageCursor) {maxItems : Nat}
    (hmax : 1 ≤ maxItems ∧ maxItems ≤ 1000) (details : CreatorIdentity p → DetailAnswer) :
    (∃ c, runCreatorUnit s maxItems (.page page) details = .ok c) ↔
      (∀ w ∈ s.witness, CreatorScanUnit.SameShape w page) ∧
        ¬ RestrictedAfterKept s.keeps (s.restricts details) (min maxItems p.pageSize)
          page.identities := by
  constructor
  · rintro ⟨c, hrun⟩
    have hshape : ∀ w ∈ s.witness, CreatorScanUnit.SameShape w page := by
      intro w hw
      by_contra hshape
      rw [runCreatorUnit_refused hcursor hw hshape] at hrun
      cases hrun
    refine ⟨hshape, fun hblocked => ?_⟩
    obtain ⟨_, -, -, hfail⟩ := runCreatorUnit_accepted hcursor hshape hmax details
    rw [hfail hblocked] at hrun
    cases hrun
  · rintro ⟨hshape, hfree⟩
    obtain ⟨c, -, hrun⟩ := runCreatorUnit_publishes (hs.cursorsFit hfeed) (hfeed page hpage)
      hcursor hshape hmax details hfree
    exact ⟨c, hrun⟩

/-- The page moves under the witness: no unit gets past it, whatever its limit and
the details it meets. -/
theorem creator_scan_wedges :
    (∃ c : CreatorScanCoverage .xhs,
      runCreatorUnit (.initial .xhs sampleBinding) 1 (.page (samplePage .xhs))
        (fun _ => .stored) = .ok c ∧
      (movedPage .xhs).inputCursor = c.nextState.pageCursor ∧
      ∀ maxItems details, runCreatorUnit c.nextState maxItems (.page (movedPage .xhs)) details =
        .error .invalid) ∧
    ∃ c : CreatorScanCoverage .douyin,
      runCreatorUnit (.initial .douyin sampleBinding) 1 (.page (samplePage .douyin))
        (fun _ => .stored) = .ok c ∧
      (movedPage .douyin).inputCursor = c.nextState.pageCursor ∧
      ∀ maxItems details, runCreatorUnit c.nextState maxItems (.page (movedPage .douyin)) details =
        .error .invalid := by
  have wedge (p : CreatorPlatform) : ∃ c : CreatorScanCoverage p,
      runCreatorUnit (.initial p sampleBinding) 1 (.page (samplePage p))
        (fun _ => .stored) = .ok c ∧
      (movedPage p).inputCursor = c.nextState.pageCursor ∧
      ∀ maxItems details, runCreatorUnit c.nextState maxItems (.page (movedPage p)) details =
        .error .invalid := by
    obtain ⟨c, hrun, hcursor, hwitness⟩ := sample_unit p
    have hshape : ¬ CreatorScanUnit.SameShape (samplePage p).witness (movedPage p) := by
      cases p <;> decide +kernel
    exact ⟨c, hrun, hcursor.symm, fun maxItems details =>
      runCreatorUnit_refused hcursor.symm hwitness hshape maxItems details⟩
  exact ⟨wedge .xhs, wedge .douyin⟩

/-- The rest of the page is stored by the next unit as long as the page stands still. -/
theorem creator_unit_publishes_iff_sample :
    ∃ c d : CreatorScanCoverage .xhs,
      runCreatorUnit (.initial .xhs sampleBinding) 1 (.page (samplePage .xhs))
        (fun _ => .stored) = .ok c ∧
      runCreatorUnit c.nextState 30 (.page (samplePage .xhs)) (fun _ => .stored) = .ok d := by
  obtain ⟨c, hrun, hcursor, hwitness⟩ := sample_unit .xhs
  have hreached : Reached (fun page => page = samplePage .xhs) c.nextState :=
    .unit 1 (.page (samplePage .xhs)) (fun _ => .stored) (.initial sampleBinding)
      (fun page h => (ListAnswer.page.inj h).symm) hrun
  obtain ⟨d, hd⟩ := (creator_unit_publishes_iff
    (fun page h => h ▸ samplePage_cursorsFit .xhs) hreached rfl hcursor.symm
    (show 1 ≤ 30 ∧ 30 ≤ 1000 by decide) (fun _ => .stored)).2 ⟨by
      intro w hw
      obtain rfl : (samplePage .xhs).witness = w := Option.some.inj (hwitness.symm.trans hw)
      decide +kernel, not_restricted_of_stored⟩
  exact ⟨c, d, hrun, hd⟩

end MediaSync.Scan
