import Mathlib.Tactic.Common
import MediaSync.Scan.Bili

/-!
# What a turn of a Bili scan unit can do

`Asks` lists the answers of `next_action` with their guards; a page or an item
that answers the question is taken as it is. The loop that a unit drives ends
within its turns, and the record it leaves replays to the same unit.
-/

namespace MediaSync.Scan

namespace BiliScanUnit

section Fields

variable (u : BiliScanUnit) (lane : BiliLane) (r : BiliReason)

@[simp] theorem current_setLane : (u.setLane lane).current = lane := by
  unfold setLane current
  cases u.lane <;> rfl

@[simp] theorem lane_setLane : (u.setLane lane).lane = u.lane := by
  unfold setLane
  cases u.lane <;> rfl

@[simp] theorem limit_setLane : (u.setLane lane).limit = u.limit := by
  unfold setLane
  cases u.lane <;> rfl

@[simp] theorem pages_setLane : (u.setLane lane).pages = u.pages := by
  unfold setLane
  cases u.lane <;> rfl

@[simp] theorem consumed_setLane : (u.setLane lane).consumed = u.consumed := by
  unfold setLane
  cases u.lane <;> rfl

@[simp] theorem reason_setLane : (u.setLane lane).reason = u.reason := by
  unfold setLane
  cases u.lane <;> rfl

@[simp] theorem verified_setLane : (u.setLane lane).verified = u.verified := by
  unfold setLane
  cases u.lane <;> rfl

@[simp] theorem inputState_setLane : (u.setLane lane).inputState = u.inputState := by
  unfold setLane
  cases u.lane <;> rfl

@[simp] theorem headBoundary_setLane : (u.setLane lane).state.headBoundary = u.state.headBoundary := by
  unfold setLane
  cases u.lane <;> rfl

@[simp] theorem headCandidate_setLane :
    (u.setLane lane).state.headCandidate = u.state.headCandidate := by
  unfold setLane
  cases u.lane <;> rfl

@[simp] theorem current_stopped : (u.stopped r).current = u.current := rfl

@[simp] theorem reason_stopped : (u.stopped r).reason = some r := rfl

@[simp] theorem pages_stopped : (u.stopped r).pages = u.pages := rfl

@[simp] theorem consumed_stopped : (u.stopped r).consumed = u.consumed := rfl

@[simp] theorem lane_stopped : (u.stopped r).lane = u.lane := rfl

@[simp] theorem limit_stopped : (u.stopped r).limit = u.limit := rfl

/-- What a sweep leaves of the unit when it ends. -/
theorem finishSweep_fields :
    (u.finishSweep r).reason = some r ∧ (u.finishSweep r).current = .start ∧
      (u.finishSweep r).pages = u.pages ∧ (u.finishSweep r).consumed = u.consumed ∧
      (u.finishSweep r).lane = u.lane ∧ (u.finishSweep r).limit = u.limit ∧
      (u.finishSweep r).inputState = u.inputState := by
  unfold finishSweep raiseBoundary setLane current stopped
  cases u.lane <;> simp [BiliScanState.laneOf]

theorem restart_fields :
    u.restart.reason = some .restarted ∧ u.restart.current = .start ∧
      u.restart.pages = u.pages ∧ u.restart.consumed = u.consumed ∧
      u.restart.lane = u.lane ∧ u.restart.limit = u.limit ∧
      u.restart.inputState = u.inputState := by
  unfold restart setLane current stopped
  cases u.lane <;> simp [BiliScanState.laneOf]

end Fields

theorem bind_ok {α β : Type} {m : Except ScanError α} {f : α → Except ScanError β} {b : β}
    (h : m >>= f = .ok b) : ∃ a, m = .ok a ∧ f a = .ok b := by
  cases m with
  | error e => cases h
  | ok a => exact ⟨a, rfl, h⟩

theorem BiliPage.last_of_not_end {w : BiliPage} (h : w.sourceEnd = false) :
    ∃ last, w.identities.getLast? = some last := by
  have hlength := w.valid.length
  have hpage := w.valid.pageRange.1
  unfold BiliPage.sourceEnd at h
  rw [decide_eq_false_iff_not, not_le] at h
  unfold biliScanPageSize at h hlength
  have hne : w.identities ≠ [] := by
    intro hnil
    rw [hnil, List.length_nil] at hlength
    omega
  exact ⟨_, List.getLast?_eq_some_getLast hne⟩

theorem nextLane_valid {page : Nat} {w : BiliPage} {last : BiliIdentity} (hpage : w.page = page)
    (h : w.sourceEnd = false) : BiliLane.Valid (page + 1) none 0 (some last.pubdate) where
  pageRange := by
    have htotal := w.valid.totalRange
    unfold BiliPage.sourceEnd at h
    rw [decide_eq_false_iff_not, not_le] at h
    unfold biliScanPageSize at h
    omega
  indexRange := Nat.zero_le _
  fits := nofun
  unseen _ := rfl
  first := by
    have := w.valid.pageRange.1
    simp
    omega

theorem witness_page {u : BiliScanUnit} {w : BiliPage} (h : u.current.witness = some w) :
    w.page = u.current.page :=
  (u.current.valid.fits w h).1

/-- The unit has not stopped and may consume another item. -/
structure Open (u : BiliScanUnit) : Prop where
  running : u.reason = none
  room : u.consumed.length ≠ u.limit

/-- The lane needs its page listed: it is new, or it must be confirmed before
the lane leaves it. -/
inductive Unconfirmed (u : BiliScanUnit) : Prop
  | below (x : BiliIdentity) : u.pending = some x → u.belowBoundary x = true →
      u.verified = false → Unconfirmed u
  | pageEnd (w : BiliPage) : u.pending = none → u.current.witness = some w →
      u.verified = false → Unconfirmed u
  | new : u.current.witness = none → Unconfirmed u

/-- The lane is through with a confirmed page that is not the last. -/
structure Leaves (u : BiliScanUnit) (w : BiliPage) : Prop where
  through : u.pending = none
  witness : u.current.witness = some w
  confirmed : u.verified = true
  more : w.sourceEnd = false

inductive Asks (u : BiliScanUnit) : BiliScanAction → BiliScanUnit → Prop
  | stopped : u.reason.isSome → Asks u .stop u
  | itemLimit : u.reason = none → u.consumed.length = u.limit →
      Asks u .stop (u.stopped .itemLimit)
  | listLimit : u.Open → u.pages.length = 2 → (u.Unconfirmed ∨ ∃ w, u.Leaves w) →
      Asks u .stop (u.stopped .listLimit)
  | headBoundary (x : BiliIdentity) : u.Open → u.pending = some x → u.belowBoundary x = true →
      u.verified = true → Asks u .stop (u.finishSweep .headBoundary)
  | sourceEnd (w : BiliPage) : u.Open → u.pending = none → u.current.witness = some w →
      u.verified = true → w.sourceEnd = true → Asks u .stop (u.finishSweep .sourceEnd)
  | list : u.Open → u.pages.length ≠ 2 → u.Unconfirmed → Asks u (.list u.current.page) u
  | nextPage (w : BiliPage) (last : BiliIdentity) (lane : BiliLane) : u.Open →
      u.pages.length ≠ 2 → u.Leaves w → w.identities.getLast? = some last →
      lane.page = u.current.page + 1 → lane.witness = none → lane.index = 0 →
      lane.previousPubdate = some last.pubdate →
      Asks u (.list lane.page) { u.setLane lane with verified := false }
  | detail (x : BiliIdentity) : u.Open → u.pending = some x → u.belowBoundary x = false →
      Asks u (.detail x) u

theorem Unconfirmed.asks {u : BiliScanUnit} (hopen : u.Open) (h : u.Unconfirmed) :
    Asks u u.listing.1 u.listing.2 := by
  unfold listing
  by_cases hpages : u.pages.length = 2
  · rw [if_pos hpages]
    exact .listLimit hopen hpages (.inl h)
  · rw [if_neg hpages]
    exact .list hopen hpages h

/-- A unit always has a next action, and this is what it can be. -/
theorem nextAction_asks (u : BiliScanUnit) :
    ∃ a v, u.nextAction = .ok (a, v) ∧ Asks u a v := by
  unfold nextAction
  by_cases hreason : u.reason.isSome = true
  · rw [if_pos hreason]
    exact ⟨_, _, rfl, .stopped hreason⟩
  rw [if_neg hreason]
  have hrunning : u.reason = none := by simpa using hreason
  by_cases hroom : u.consumed.length = u.limit
  · rw [if_pos hroom]
    exact ⟨_, _, rfl, .itemLimit hrunning hroom⟩
  rw [if_neg hroom]
  have hopen : u.Open := ⟨hrunning, hroom⟩
  cases hpending : u.pending with
  | some x =>
    have hasks : Asks u (u.atItem x).1 (u.atItem x).2 := by
      unfold atItem
      cases hbelow : u.belowBoundary x with
      | false => exact .detail x hopen hpending hbelow
      | true =>
        cases hverified : u.verified with
        | true => exact .headBoundary x hopen hpending hbelow hverified
        | false => exact Unconfirmed.asks hopen (.below x hpending hbelow hverified)
    exact ⟨_, _, rfl, hasks⟩
  | none =>
    cases hwitness : u.current.witness with
    | none => exact ⟨_, _, rfl, Unconfirmed.asks hopen (.new hwitness)⟩
    | some w =>
      dsimp only
      unfold atPageEnd
      cases hverified : u.verified with
      | false => exact ⟨_, _, rfl, Unconfirmed.asks hopen (.pageEnd w hpending hwitness hverified)⟩
      | true =>
        cases hend : w.sourceEnd with
        | true => exact ⟨_, _, rfl, .sourceEnd w hopen hpending hwitness hverified hend⟩
        | false =>
          have hleaves : u.Leaves w := ⟨hpending, hwitness, hverified, hend⟩
          by_cases hpages : u.pages.length = 2
          · simp only [if_true, if_pos hpages]
            exact ⟨_, _, rfl, .listLimit hopen hpages (.inr ⟨w, hleaves⟩)⟩
          · obtain ⟨last, hlast⟩ := BiliPage.last_of_not_end hend
            have hvalid : BiliLane.Valid (u.current.page + 1) none 0 (some last.pubdate) :=
              nextLane_valid (witness_page hwitness) hend
            let lane : BiliLane := ⟨u.current.page + 1, none, 0, some last.pubdate, hvalid⟩
            refine ⟨.list lane.page, { u.setLane lane with verified := false }, ?_,
              .nextPage w last lane hopen hpages hleaves hlast rfl rfl rfl rfl⟩
            have hnext : u.nextPage w = .ok { u.setLane lane with verified := false } := by
              unfold nextPage BiliLane.make
              rw [hlast]
              dsimp only
              rw [dif_pos hvalid]
              rfl
            simp only [if_true, if_neg hpages, hnext]
            change Except.ok (listing _) = _
            unfold listing
            rw [if_neg (by simpa using hpages)]
            change Except.ok (BiliScanAction.list (u.setLane lane).current.page, _) = _
            rw [current_setLane]

theorem asks_of_nextAction {u v : BiliScanUnit} {a : BiliScanAction}
    (h : u.nextAction = .ok (a, v)) : Asks u a v := by
  obtain ⟨b, w, hnext, hasks⟩ := nextAction_asks u
  rw [h] at hnext
  cases hnext
  exact hasks

theorem nextAction_stopped {u : BiliScanUnit} (h : u.reason.isSome) :
    u.nextAction = .ok (.stop, u) := by
  unfold nextAction
  rw [if_pos h]

/-- Asking twice gives the same answer. -/
theorem nextAction_again {u v : BiliScanUnit} {a : BiliScanAction}
    (h : u.nextAction = .ok (a, v)) : v.nextAction = .ok (a, v) := by
  cases asks_of_nextAction h with
  | stopped => exact h
  | itemLimit => exact nextAction_stopped rfl
  | listLimit => exact nextAction_stopped rfl
  | headBoundary => exact nextAction_stopped (by rw [(finishSweep_fields u _).1]; rfl)
  | sourceEnd => exact nextAction_stopped (by rw [(finishSweep_fields u _).1]; rfl)
  | list => exact h
  | detail => exact h
  | nextPage w last lane hopen hpages _ _ _ hwitness _ _ =>
    let next : BiliScanUnit := { u.setLane lane with verified := false }
    have hcurrent : next.current = lane := current_setLane u lane
    have hpending : next.pending = none := by
      unfold pending
      rw [hcurrent, hwitness]
      rfl
    change next.nextAction = .ok (.list lane.page, next)
    unfold nextAction
    rw [if_neg (by simp [next, hopen.running]), if_neg (by simpa [next] using hopen.room),
      hpending, hcurrent, hwitness]
    dsimp only
    unfold listing
    rw [if_neg (by simpa [next] using hpages), hcurrent]

theorem observePage_of_asks {u v : BiliScanUnit} {page : BiliPage}
    (h : u.nextAction = .ok (.list page.page, v)) : v.observePage page = v.observed page := by
  unfold observePage
  rw [nextAction_again h]
  exact if_pos rfl

theorem consume_of_asks {u v : BiliScanUnit} {x : BiliIdentity}
    (h : u.nextAction = .ok (.detail x, v)) : v.consume x = v.consumeNext x := by
  unfold consume
  rw [nextAction_again h]
  exact if_pos rfl

/-! ## What a page or an item does -/

section Listed

variable (u : BiliScanUnit) (page : BiliPage)

@[simp] theorem current_listed : (u.listed page).current = u.current := rfl

@[simp] theorem state_listed : (u.listed page).state = u.state := rfl

@[simp] theorem lane_listed : (u.listed page).lane = u.lane := rfl

@[simp] theorem limit_listed : (u.listed page).limit = u.limit := rfl

@[simp] theorem consumed_listed : (u.listed page).consumed = u.consumed := rfl

@[simp] theorem reason_listed : (u.listed page).reason = u.reason := rfl

@[simp] theorem inputState_listed : (u.listed page).inputState = u.inputState := rfl

@[simp] theorem pages_listed : (u.listed page).pages = u.pages ++ [page] := rfl

end Listed

/-- A page answers a list request. -/
inductive Observes (u : BiliScanUnit) (page : BiliPage) : BiliScanUnit → Prop
  | confirms : u.current.witness = some page →
      Observes u page { u.listed page with verified := true }
  | changed (w : BiliPage) : u.current.witness = some w → page ≠ w →
      Observes u page (u.listed page).restart
  | disordered : u.current.witness = none → u.disordered page = true →
      Observes u page (u.listed page).restart
  | new (v : BiliScanUnit) : u.current.witness = none → u.disordered page = false →
      (u.listed page).newPage page = .ok v → Observes u page v

theorem observed_observes {u v : BiliScanUnit} {page : BiliPage} (h : u.observed page = .ok v) :
    Observes u page v := by
  unfold observed at h
  cases hwitness : u.current.witness with
  | some w =>
    rw [hwitness] at h
    dsimp only at h
    by_cases heq : page = w
    · rw [if_neg (not_not_intro heq)] at h
      cases h
      exact .confirms (heq ▸ hwitness)
    · rw [if_pos heq] at h
      cases h
      exact .changed w hwitness heq
  | none =>
    rw [hwitness] at h
    dsimp only at h
    cases hdisordered : u.disordered page with
    | true =>
      rw [hdisordered, if_pos rfl] at h
      cases h
      exact .disordered hwitness hdisordered
    | false =>
      rw [hdisordered, if_neg (by decide)] at h
      exact .new v hwitness hdisordered h

/-- A page that confirms the witness is taken. -/
theorem observed_confirms {u : BiliScanUnit} {page : BiliPage}
    (h : u.current.witness = some page) :
    u.observed page = .ok { u.listed page with verified := true } := by
  unfold observed
  rw [h]
  dsimp only
  rw [if_neg (not_not_intro rfl)]

theorem BiliLane.make_ok {page : Nat} {witness : Option BiliPage} {index : Nat}
    {previous : Option Pubdate} {lane : BiliLane}
    (h : BiliLane.make page witness index previous = .ok lane) :
    lane.page = page ∧ lane.witness = witness ∧ lane.index = index ∧
      lane.previousPubdate = previous := by
  unfold BiliLane.make at h
  split at h
  · cases h
    exact ⟨rfl, rfl, rfl, rfl⟩
  · cases h

/-- The lane keeps the page as its witness, from the first item. -/
structure Witnesses (u : BiliScanUnit) (page : BiliPage) (v : BiliScanUnit) : Prop where
  number : v.current.page = u.current.page
  witness : v.current.witness = some page
  index : v.current.index = 0
  previous : v.current.previousPubdate = u.current.previousPubdate
  verified : v.verified = page.identities.isEmpty
  boundary : v.state.headBoundary = u.state.headBoundary
  candidate : v.state.headCandidate = match u.lane, page.identities with
    | .head, newest :: _ =>
      some ((u.state.headCandidate.map (max · newest.pubdate)).getD newest.pubdate)
    | _, _ => u.state.headCandidate
  pages : v.pages = u.pages
  consumed : v.consumed = u.consumed
  reason : v.reason = u.reason
  lane : v.lane = u.lane
  limit : v.limit = u.limit
  inputState : v.inputState = u.inputState

theorem newPage_witnesses {u v : BiliScanUnit} {page : BiliPage}
    (hwitness : u.current.witness = none) (h : u.newPage page = .ok v) : u.Witnesses page v := by
  unfold newPage at h
  cases hlane : BiliLane.make u.current.page (some page) u.current.index
      u.current.previousPubdate with
  | error e =>
    rw [hlane] at h
    cases h
  | ok lane =>
    rw [hlane] at h
    obtain ⟨hpage, hw, hindex, hprevious⟩ := BiliLane.make_ok hlane
    injection h with h
    subst h
    have hzero := u.current.valid.unseen hwitness
    have hcurrent : ∀ (state : BiliScanState) (b : Bool),
        state.head = (u.setLane lane).state.head → state.history = (u.setLane lane).state.history →
        ({ u.setLane lane with state := state, verified := b } : BiliScanUnit).current = lane := by
      intro state b hhead hhistory
      refine Eq.trans ?_ (current_setLane u lane)
      unfold current BiliScanState.laneOf
      dsimp only
      rw [hhead, hhistory]
    constructor
    · exact (congrArg BiliLane.page (hcurrent _ _ rfl rfl)).trans hpage
    · exact (congrArg BiliLane.witness (hcurrent _ _ rfl rfl)).trans hw
    · exact (congrArg BiliLane.index (hcurrent _ _ rfl rfl)).trans (hindex.trans hzero)
    · exact (congrArg BiliLane.previousPubdate (hcurrent _ _ rfl rfl)).trans hprevious
    · rfl
    · exact headBoundary_setLane u lane
    · change (match (u.setLane lane).lane, page.identities with
        | .head, newest :: _ => some (((u.setLane lane).state.headCandidate.map
            (max · newest.pubdate)).getD newest.pubdate)
        | _, _ => (u.setLane lane).state.headCandidate) = _
      rw [lane_setLane, headCandidate_setLane]
    · exact pages_setLane u lane
    · exact consumed_setLane u lane
    · exact reason_setLane u lane
    · exact lane_setLane u lane
    · exact limit_setLane u lane
    · exact inputState_setLane u lane

/-- The lane moves past the item. -/
structure Consumes (u : BiliScanUnit) (x : BiliIdentity) (v : BiliScanUnit) : Prop where
  number : v.current.page = u.current.page
  witness : v.current.witness = u.current.witness
  index : v.current.index = u.current.index + 1
  previous : v.current.previousPubdate = u.current.previousPubdate
  verified : v.verified = u.verified
  boundary : v.state.headBoundary = u.state.headBoundary
  candidate : v.state.headCandidate = u.state.headCandidate
  pages : v.pages = u.pages
  consumed : v.consumed = u.consumed ++ [x]
  reason : v.reason = u.reason
  lane : v.lane = u.lane
  limit : v.limit = u.limit
  inputState : v.inputState = u.inputState

theorem consumeNext_consumes {u v : BiliScanUnit} {x : BiliIdentity}
    (h : u.consumeNext x = .ok v) : u.Consumes x v := by
  unfold consumeNext at h
  split at h
  · cases h
  · cases hlane : BiliLane.make u.current.page u.current.witness (u.current.index + 1)
        u.current.previousPubdate with
    | error e =>
      rw [hlane] at h
      cases h
    | ok lane =>
      rw [hlane] at h
      obtain ⟨hpage, hw, hindex, hprevious⟩ := BiliLane.make_ok hlane
      injection h with h
      subst h
      let before : BiliScanUnit := { u with consumed := u.consumed ++ [x] }
      have hcurrent := current_setLane before lane
      exact ⟨(congrArg BiliLane.page hcurrent).trans hpage,
        (congrArg BiliLane.witness hcurrent).trans hw,
        (congrArg BiliLane.index hcurrent).trans hindex,
        (congrArg BiliLane.previousPubdate hcurrent).trans hprevious,
        verified_setLane before lane, headBoundary_setLane before lane,
        headCandidate_setLane before lane, pages_setLane before lane,
        consumed_setLane before lane, reason_setLane before lane, lane_setLane before lane,
        limit_setLane before lane, inputState_setLane before lane⟩

/-- An item is refused only where the unit consumed it before. -/
theorem consumeNext_ok {u : BiliScanUnit} {x : BiliIdentity} (hpending : u.pending = some x)
    (haid : x.aid ∉ u.consumed.map BiliIdentity.aid)
    (hbvid : x.bvid ∉ u.consumed.map BiliIdentity.bvid) : ∃ v, u.consumeNext x = .ok v := by
  unfold pending at hpending
  cases hwitness : u.current.witness with
  | none =>
    rw [hwitness] at hpending
    cases hpending
  | some w =>
    rw [hwitness] at hpending
    have hlt : u.current.index < w.identities.length := by
      by_contra hge
      rw [Option.bind_some, List.getElem?_eq_none (by omega)] at hpending
      cases hpending
    have hlength := w.valid.length
    have hvalid : BiliLane.Valid u.current.page u.current.witness (u.current.index + 1)
        u.current.previousPubdate := by
      refine ⟨u.current.valid.pageRange, by omega, fun v hv => ?_, fun h => ?_,
        u.current.valid.first⟩
      · rw [hwitness] at hv
        cases hv
        exact ⟨witness_page hwitness, hlt⟩
      · rw [hwitness] at h
        cases h
    unfold consumeNext BiliLane.make
    rw [if_neg (not_or.mpr ⟨haid, hbvid⟩), dif_pos hvalid]
    exact ⟨_, rfl⟩

theorem newPage_ok {u : BiliScanUnit} {page : BiliPage} (hwitness : u.current.witness = none)
    (hpage : page.page = u.current.page) : ∃ v, u.newPage page = .ok v := by
  have hvalid : BiliLane.Valid u.current.page (some page) u.current.index
      u.current.previousPubdate := by
    refine ⟨u.current.valid.pageRange, u.current.valid.indexRange, fun v hv => ?_, nofun,
      u.current.valid.first⟩
    cases hv
    rw [u.current.valid.unseen hwitness]
    exact ⟨hpage, Nat.zero_le _⟩
  unfold newPage BiliLane.make
  rw [dif_pos hvalid]
  exact ⟨_, rfl⟩

/-! ## The loop -/

/-- The turns of the loop, up to the stop. -/
inductive Drives (serve : Nat → BiliFeed) : BiliScanUnit → BiliScanUnit → Prop
  | stop {u v : BiliScanUnit} : Asks u .stop v → Drives serve u v
  | list {u v w x : BiliScanUnit} {page : BiliPage} : Asks u (.list page.page) v →
      (serve u.pages.length).page page.page = .ok page → Observes v page w →
      Drives serve w x → Drives serve u x
  | detail {u v w : BiliScanUnit} {x : BiliIdentity} : Asks u (.detail x) u →
      u.consumeNext x = .ok v → Drives serve v w → Drives serve u w

theorem Asks.pages {u v : BiliScanUnit} {a : BiliScanAction} (h : Asks u a v) :
    v.pages = u.pages := by
  cases h with
  | stopped => rfl
  | itemLimit => rfl
  | listLimit => rfl
  | headBoundary => exact (finishSweep_fields u _).2.2.1
  | sourceEnd => exact (finishSweep_fields u _).2.2.1
  | list => rfl
  | nextPage w last lane => exact pages_setLane u lane
  | detail => rfl

theorem Asks.consumed {u v : BiliScanUnit} {a : BiliScanAction} (h : Asks u a v) :
    v.consumed = u.consumed := by
  cases h with
  | stopped => rfl
  | itemLimit => rfl
  | listLimit => rfl
  | headBoundary => exact (finishSweep_fields u _).2.2.2.1
  | sourceEnd => exact (finishSweep_fields u _).2.2.2.1
  | list => rfl
  | nextPage w last lane => exact consumed_setLane u lane
  | detail => rfl

theorem Asks.frame {u v : BiliScanUnit} {a : BiliScanAction} (h : Asks u a v) :
    v.lane = u.lane ∧ v.limit = u.limit ∧ v.inputState = u.inputState := by
  cases h with
  | stopped => exact ⟨rfl, rfl, rfl⟩
  | itemLimit => exact ⟨rfl, rfl, rfl⟩
  | listLimit => exact ⟨rfl, rfl, rfl⟩
  | headBoundary => exact (finishSweep_fields u _).2.2.2.2
  | sourceEnd => exact (finishSweep_fields u _).2.2.2.2
  | list => exact ⟨rfl, rfl, rfl⟩
  | nextPage w last lane =>
    exact ⟨lane_setLane u lane, limit_setLane u lane, inputState_setLane u lane⟩
  | detail => exact ⟨rfl, rfl, rfl⟩

/-- A unit that stops says why. -/
theorem Asks.reason {u v : BiliScanUnit} (h : Asks u .stop v) : v.reason.isSome := by
  cases h with
  | stopped hreason => exact hreason
  | itemLimit => rfl
  | listLimit => rfl
  | headBoundary => rw [(finishSweep_fields u _).1]; rfl
  | sourceEnd => rw [(finishSweep_fields u _).1]; rfl

theorem Observes.frame {u v : BiliScanUnit} {page : BiliPage} (h : Observes u page v) :
    v.pages = u.pages ++ [page] ∧ v.consumed = u.consumed ∧ v.lane = u.lane ∧
      v.limit = u.limit ∧ v.inputState = u.inputState := by
  cases h with
  | confirms => exact ⟨rfl, rfl, rfl, rfl, rfl⟩
  | changed => exact (restart_fields (u.listed page)).2.2
  | disordered => exact (restart_fields (u.listed page)).2.2
  | new _ hwitness _ hnew =>
    have hw := newPage_witnesses (u := u.listed page) hwitness hnew
    exact ⟨hw.pages, hw.consumed, hw.lane, hw.limit, hw.inputState⟩

theorem Asks.list_pages {u v : BiliScanUnit} {p : Nat} (h : Asks u (.list p) v) :
    u.pages.length ≠ 2 ∧ u.Open := by
  cases h with
  | list hopen hpages => exact ⟨hpages, hopen⟩
  | nextPage _ _ _ hopen hpages => exact ⟨hpages, hopen⟩

theorem Asks.detail_open {u v : BiliScanUnit} {x : BiliIdentity} (h : Asks u (.detail x) v) :
    v = u ∧ u.Open ∧ u.pending = some x ∧ u.belowBoundary x = false := by
  cases h with
  | detail _ hopen hpending hbelow => exact ⟨rfl, hopen, hpending, hbelow⟩

theorem BiliPage.make_page {n total : Nat} {ids : List BiliIdentity} {page : BiliPage}
    (h : BiliPage.make n total ids = .ok page) :
    page.page = n ∧ page.total = total ∧ page.identities = ids := by
  unfold BiliPage.make at h
  split at h
  · cases h
    exact ⟨rfl, rfl, rfl⟩
  · cases h

theorem drives_of_drive {serve : Nat → BiliFeed} {n : Nat} {u v : BiliScanUnit}
    (h : drive serve n u = .ok v) : Drives serve u v := by
  induction n generalizing u with
  | zero => cases h
  | succ n ih =>
    unfold drive at h
    obtain ⟨⟨a, w⟩, hnext, hturn⟩ := bind_ok h
    have hasks := asks_of_nextAction hnext
    cases a with
    | stop =>
      cases hturn
      exact .stop hasks
    | list p =>
      obtain ⟨page, hpage, hlisted⟩ := bind_ok hturn
      obtain ⟨x, hobserve, hrest⟩ := bind_ok hlisted
      have hnumber := (BiliPage.make_page hpage).1
      rw [← hnumber] at hnext hasks hpage
      rw [observePage_of_asks hnext] at hobserve
      rw [hasks.pages] at hpage
      exact .list hasks hpage (observed_observes hobserve) (ih hrest)
    | detail x =>
      obtain ⟨y, hconsume, hrest⟩ := bind_ok hturn
      rw [consume_of_asks hnext] at hconsume
      obtain ⟨heq, _⟩ := hasks.detail_open
      rw [heq] at hconsume hasks
      exact .detail hasks hconsume (ih hrest)

/-- The loop ends within its turns, unless the feed or an item is refused. -/
theorem drive_finishes (serve : Nat → BiliFeed) {I : BiliScanUnit → Prop}
    (hlist : ∀ u v p, I u → Asks u (.list p) v →
      ∃ page w, (serve u.pages.length).page p = .ok page ∧ v.observed page = .ok w ∧ I w)
    (hdetail : ∀ u x, I u → Asks u (.detail x) u → ∃ v, u.consumeNext x = .ok v ∧ I v)
    {n : Nat} {u : BiliScanUnit} (hu : I u) (hpages : u.pages.length ≤ 2)
    (hconsumed : u.consumed.length ≤ u.limit)
    (hn : u.limit - u.consumed.length + (2 - u.pages.length) < n) :
    ∃ v w, I v ∧ Asks v .stop w ∧ drive serve n u = .ok w ∧ w.pages.length ≤ 2 ∧
      w.consumed.length ≤ u.limit := by
  induction n generalizing u with
  | zero => omega
  | succ n ih =>
    unfold drive
    obtain ⟨a, v, hnext, hasks⟩ := nextAction_asks u
    rw [hnext]
    cases a with
    | stop =>
      exact ⟨u, v, hu, hasks, rfl, by rw [hasks.pages]; exact hpages,
        by rw [hasks.consumed]; exact hconsumed⟩
    | list p =>
      obtain ⟨hne, hopen⟩ := hasks.list_pages
      have hroom := hopen.room
      obtain ⟨page, w, hpage, hobserved, hw⟩ := hlist u v p hu hasks
      obtain ⟨hwpages, hwconsumed, _, hwlimit, _⟩ := (observed_observes hobserved).frame
      rw [hasks.pages] at hwpages
      rw [hasks.consumed] at hwconsumed
      rw [hasks.frame.2.1] at hwlimit
      have hlength : w.pages.length = u.pages.length + 1 := by rw [hwpages, List.length_append]; rfl
      obtain ⟨x, y, hx, hstop, hdrive, hxpages, hxconsumed⟩ := ih (u := w) hw (by omega)
        (by rw [hwconsumed, hwlimit]; exact hconsumed) (by rw [hwconsumed, hwlimit]; omega)
      refine ⟨x, y, hx, hstop, ?_, hxpages, by rw [← hwlimit]; exact hxconsumed⟩
      change (serve v.pages.length).page p >>= _ = _
      rw [hasks.pages, hpage]
      have hnumber := (BiliPage.make_page hpage).1
      rw [← hnumber] at hnext
      change v.observePage page >>= _ = _
      rw [observePage_of_asks hnext, hobserved]
      exact hdrive
    | detail x =>
      obtain ⟨rfl, hopen, _, _⟩ := hasks.detail_open
      have hroom := hopen.room
      obtain ⟨w, hconsume, hw⟩ := hdetail v x hu hasks
      have hwx := consumeNext_consumes hconsume
      have hlength : w.consumed.length = v.consumed.length + 1 := by
        rw [hwx.consumed, List.length_append]
        rfl
      obtain ⟨y, z, hy, hstop, hdrive, hypages, hyconsumed⟩ := ih (u := w) hw
        (by rw [hwx.pages]; exact hpages) (by rw [hlength, hwx.limit]; omega)
        (by rw [hlength, hwx.limit, hwx.pages]; omega)
      refine ⟨y, z, hy, hstop, ?_, hypages, by rw [← hwx.limit]; exact hyconsumed⟩
      change v.consume x >>= _ = _
      rw [consume_of_asks hnext, hconsume]
      exact hdrive

/-- A unit of one lane leaves the other lane alone, and one of the history lane
leaves all of the head's. -/
structure Untouched (u v : BiliScanUnit) : Prop where
  lane : v.lane = u.lane
  binding : v.state.binding = u.state.binding
  history : u.lane = .head → v.state.history = u.state.history
  head : u.lane = .history → v.state.head = u.state.head ∧
    v.state.headBoundary = u.state.headBoundary ∧ v.state.headCandidate = u.state.headCandidate

theorem Untouched.refl (u : BiliScanUnit) : Untouched u u :=
  ⟨rfl, rfl, fun _ => rfl, fun _ => ⟨rfl, rfl, rfl⟩⟩

theorem Untouched.trans {u v w : BiliScanUnit} (h : Untouched u v) (k : Untouched v w) :
    Untouched u w where
  lane := k.lane.trans h.lane
  binding := k.binding.trans h.binding
  history hu := (k.history (h.lane.trans hu)).trans (h.history hu)
  head hu := by
    obtain ⟨k1, k2, k3⟩ := k.head (h.lane.trans hu)
    obtain ⟨h1, h2, h3⟩ := h.head hu
    exact ⟨k1.trans h1, k2.trans h2, k3.trans h3⟩

theorem untouched_setLane (u : BiliScanUnit) (lane : BiliLane) : Untouched u (u.setLane lane) := by
  unfold setLane
  cases h : u.lane with
  | head => exact ⟨h.symm ▸ rfl, rfl, fun _ => rfl, fun hu => absurd (h.symm.trans hu) nofun⟩
  | history =>
    exact ⟨h.symm ▸ rfl, rfl, fun hu => absurd (h.symm.trans hu) nofun, fun _ => ⟨rfl, rfl, rfl⟩⟩

theorem untouched_finishSweep (u : BiliScanUnit) (r : BiliReason) :
    Untouched u (u.finishSweep r) := by
  refine (untouched_setLane u .start).trans ?_
  unfold finishSweep raiseBoundary stopped
  cases h : (u.setLane .start).lane with
  | head => exact ⟨h.symm ▸ rfl, rfl, fun _ => rfl, fun hu => absurd (h.symm.trans hu) nofun⟩
  | history =>
    exact ⟨h.symm ▸ rfl, rfl, fun hu => absurd (h.symm.trans hu) nofun, fun _ => ⟨rfl, rfl, rfl⟩⟩

theorem untouched_restart (u : BiliScanUnit) : Untouched u u.restart := by
  refine (untouched_setLane u .start).trans ?_
  have hlane := lane_setLane u .start
  unfold restart stopped
  cases h : u.lane with
  | head =>
    rw [h] at hlane
    exact ⟨rfl, rfl, fun _ => rfl, fun hu => absurd (hlane.symm.trans hu) nofun⟩
  | history => exact ⟨rfl, rfl, fun _ => rfl, fun _ => ⟨rfl, rfl, rfl⟩⟩

theorem Asks.untouched {u v : BiliScanUnit} {a : BiliScanAction} (h : Asks u a v) :
    Untouched u v := by
  cases h with
  | stopped => exact .refl u
  | itemLimit => exact ⟨rfl, rfl, fun _ => rfl, fun _ => ⟨rfl, rfl, rfl⟩⟩
  | listLimit => exact ⟨rfl, rfl, fun _ => rfl, fun _ => ⟨rfl, rfl, rfl⟩⟩
  | headBoundary => exact untouched_finishSweep u _
  | sourceEnd => exact untouched_finishSweep u _
  | list => exact .refl u
  | nextPage w last lane =>
    have h := untouched_setLane u lane
    exact ⟨h.lane, h.binding, h.history, h.head⟩
  | detail => exact .refl u

theorem newPage_untouched {u v : BiliScanUnit} {page : BiliPage} (h : u.newPage page = .ok v) :
    Untouched u v := by
  unfold newPage at h
  obtain ⟨lane, _, hv⟩ := bind_ok h
  cases hv
  have hset := untouched_setLane u lane
  refine hset.trans ⟨rfl, rfl, fun _ => rfl, fun hhistory => ⟨rfl, rfl, ?_⟩⟩
  simp only [hhistory]

theorem Observes.untouched {u v : BiliScanUnit} {page : BiliPage} (h : Observes u page v) :
    Untouched u v := by
  have hpages : Untouched u (u.listed page) :=
    ⟨rfl, rfl, fun _ => rfl, fun _ => ⟨rfl, rfl, rfl⟩⟩
  cases h with
  | confirms => exact ⟨rfl, rfl, fun _ => rfl, fun _ => ⟨rfl, rfl, rfl⟩⟩
  | changed => exact hpages.trans (untouched_restart _)
  | disordered => exact hpages.trans (untouched_restart _)
  | new _ _ _ hnew => exact hpages.trans (newPage_untouched hnew)

theorem consumeNext_untouched {u v : BiliScanUnit} {x : BiliIdentity}
    (h : u.consumeNext x = .ok v) : Untouched u v := by
  unfold consumeNext at h
  split at h
  · cases h
  · obtain ⟨lane, _, hv⟩ := bind_ok h
    cases hv
    have hconsumed : Untouched u { u with consumed := u.consumed ++ [x] } :=
      ⟨rfl, rfl, fun _ => rfl, fun _ => ⟨rfl, rfl, rfl⟩⟩
    exact hconsumed.trans (untouched_setLane _ lane)

theorem Drives.prefixes {serve : Nat → BiliFeed} {u v : BiliScanUnit} (h : Drives serve u v) :
    u.pages <+: v.pages ∧ u.consumed <+: v.consumed := by
  induction h with
  | stop hasks =>
    rw [hasks.pages, hasks.consumed]
    exact ⟨List.prefix_rfl, List.prefix_rfl⟩
  | list hasks _ hobserves _ ih =>
    obtain ⟨hpages, hconsumed, _⟩ := hobserves.frame
    rw [hpages, hasks.pages] at ih
    rw [hconsumed, hasks.consumed] at ih
    exact ⟨(List.prefix_append _ _).trans ih.1, ih.2⟩
  | detail _ hconsume _ ih =>
    have hconsumes := consumeNext_consumes hconsume
    rw [hconsumes.pages, hconsumes.consumed] at ih
    exact ⟨ih.1, (List.prefix_append _ _).trans ih.2⟩

theorem replay_of_drive {serve : Nat → BiliFeed} {n : Nat} {u v : BiliScanUnit}
    (pages : List BiliPage) (consumed : List BiliIdentity) (h : drive serve n u = .ok v)
    (hpages : v.pages = u.pages ++ pages) (hconsumed : v.consumed = u.consumed ++ consumed) :
    replay n pages consumed u = .ok v := by
  induction n generalizing u pages consumed with
  | zero => cases h
  | succ n ih =>
    unfold drive at h
    obtain ⟨⟨a, w⟩, hnext, hturn⟩ := bind_ok h
    have hasks := asks_of_nextAction hnext
    unfold replay
    rw [hnext]
    cases a with
    | stop =>
      cases hturn
      rw [hasks.pages] at hpages
      rw [hasks.consumed] at hconsumed
      have hpages' : pages = [] := by simpa using hpages
      have hconsumed' : consumed = [] := by simpa using hconsumed
      exact if_pos ⟨hpages', hconsumed'⟩
    | list p =>
      obtain ⟨page, hpage, hlisted⟩ := bind_ok hturn
      obtain ⟨x, hobserve, hrest⟩ := bind_ok hlisted
      have hobserved := hobserve
      rw [← (BiliPage.make_page hpage).1] at hnext
      rw [observePage_of_asks hnext] at hobserved
      obtain ⟨hxpages, hxconsumed, _⟩ := (observed_observes hobserved).frame
      rw [hasks.pages] at hxpages
      rw [hasks.consumed] at hxconsumed
      obtain ⟨more, hmore⟩ := (drives_of_drive hrest).prefixes.1
      rw [hxpages] at hmore
      have hcons : pages = page :: more := by
        rw [hpages, List.append_assoc] at hmore
        exact (List.append_cancel_left hmore).symm
      subst hcons
      change w.observePage page >>= _ = _
      rw [hobserve]
      exact ih _ _ hrest (by rw [hpages, hxpages, List.append_assoc]; rfl)
        (by rw [hconsumed, hxconsumed])
    | detail x =>
      obtain ⟨y, hconsume, hrest⟩ := bind_ok hturn
      have hconsumes := hconsume
      rw [consume_of_asks hnext] at hconsumes
      have hy := consumeNext_consumes hconsumes
      obtain ⟨more, hmore⟩ := (drives_of_drive hrest).prefixes.2
      rw [hy.consumed, hasks.consumed] at hmore
      have hcons : consumed = x :: more := by
        rw [hconsumed, List.append_assoc] at hmore
        exact (List.append_cancel_left hmore).symm
      subst hcons
      change w.consume x >>= _ = _
      rw [hconsume]
      exact ih _ _ hrest (by rw [hpages, hy.pages, hasks.pages])
        (by rw [hconsumed, hy.consumed, hasks.consumed, List.append_assoc]; rfl)

theorem Drives.untouched {serve : Nat → BiliFeed} {u v : BiliScanUnit} (h : Drives serve u v) :
    Untouched u v := by
  induction h with
  | stop hasks => exact hasks.untouched
  | list hasks _ hobserves _ ih => exact hasks.untouched.trans (hobserves.untouched.trans ih)
  | detail _ hconsume _ ih => exact (consumeNext_untouched hconsume).trans ih

/-- What a stopped unit proposes. -/
theorem coverage_stopped {u : BiliScanUnit} {r : BiliReason} (hreason : u.reason = some r)
    (h : BiliUnitSummary.Valid u.consumed.length u.pages.length u.consumed.length) :
    u.coverage = .ok ⟨u.inputState, { u.state with
        nextLane := otherLane u.lane, lastUnit := some ⟨u.lane, r, _, _, _, h⟩ },
      u.consumed, u.pages, ⟨u.lane, r, _, _, _, h⟩⟩ := by
  unfold coverage
  rw [nextAction_stopped (by rw [hreason]; rfl)]
  dsimp only [bind, Except.bind]
  rw [hreason]
  exact dif_pos h

theorem coverage_ok {u : BiliScanUnit} {c : BiliScanCoverage} (hreason : u.reason.isSome)
    (h : u.coverage = .ok c) :
    u.reason = some c.summary.stopReason ∧ c.summary.lane = u.lane ∧ c.consumed = u.consumed ∧
      c.pages = u.pages ∧ c.inputState = u.inputState ∧
      c.nextState = { u.state with nextLane := otherLane u.lane, lastUnit := some c.summary } := by
  obtain ⟨r, hr⟩ := Option.isSome_iff_exists.mp hreason
  by_cases hvalid : BiliUnitSummary.Valid u.consumed.length u.pages.length u.consumed.length
  · rw [coverage_stopped hr hvalid] at h
    cases h
    exact ⟨hr, rfl, rfl, rfl, rfl, rfl⟩
  · unfold coverage at h
    rw [nextAction_stopped hreason] at h
    dsimp only [bind, Except.bind] at h
    rw [hr] at h
    dsimp only at h
    rw [dif_neg hvalid] at h
    cases h

theorem Drives.frame {serve : Nat → BiliFeed} {u v : BiliScanUnit} (h : Drives serve u v) :
    v.limit = u.limit ∧ v.inputState = u.inputState := by
  induction h with
  | stop hasks => exact hasks.frame.2
  | list hasks _ hobserves _ ih =>
    obtain ⟨_, _, _, hlimit, hinput⟩ := hobserves.frame
    exact ⟨ih.1.trans (hlimit.trans hasks.frame.2.1), ih.2.trans (hinput.trans hasks.frame.2.2)⟩
  | detail _ hconsume _ ih =>
    have hconsumes := consumeNext_consumes hconsume
    exact ⟨ih.1.trans hconsumes.limit, ih.2.trans hconsumes.inputState⟩

theorem Drives.reason {serve : Nat → BiliFeed} {u v : BiliScanUnit} (h : Drives serve u v) :
    v.reason.isSome := by
  induction h with
  | stop hasks => exact hasks.reason
  | list _ _ _ _ ih => exact ih
  | detail _ _ _ ih => exact ih

/-- A loop that ended within its limits gives a coverage, and its validation
accepts it. -/
theorem runBiliUnit_of_drive {serve : Nat → BiliFeed} {s : BiliScanState} {maxItems : Nat}
    {w : BiliScanUnit} (hmax : 1 ≤ maxItems ∧ maxItems ≤ 2 ^ 63 - 1)
    (hdrive : drive serve (fresh s maxItems).turns (fresh s maxItems) = .ok w)
    (hreason : w.reason.isSome) (hpages : w.pages.length ≤ 2)
    (hconsumed : w.consumed.length ≤ (fresh s maxItems).limit) :
    ∃ c, runBiliUnit serve s maxItems = .ok c ∧ w.coverage = .ok c := by
  obtain ⟨r, hr⟩ := Option.isSome_iff_exists.mp hreason
  have hlimit : (fresh s maxItems).limit = min maxItems biliScanPageSize := rfl
  have hvalid : BiliUnitSummary.Valid w.consumed.length w.pages.length w.consumed.length :=
    ⟨by omega, hpages, rfl⟩
  have hcoverage := coverage_stopped hr hvalid
  have hnew : new s maxItems = .ok (fresh s maxItems) := if_pos hmax
  have hinput : w.inputState = s := (drives_of_drive hdrive).frame.2
  have hvalidate : ∀ c, w.coverage = .ok c → c.validate s maxItems = .ok () := by
    intro c hc
    obtain ⟨_, _, hcconsumed, hcpages, hcinput, _⟩ := coverage_ok hreason hc
    unfold BiliScanCoverage.validate
    rw [if_neg, hnew]
    · change replay _ c.pages c.consumed _ >>= _ = _
      rw [replay_of_drive c.pages c.consumed hdrive
        (by rw [hcpages]; rfl) (by rw [hcconsumed]; rfl)]
      change w.coverage >>= _ = _
      rw [hc]
      exact if_pos rfl
    · rw [hcinput, hinput, hcpages, hcconsumed]
      simp
      omega
  refine ⟨_, ?_, hcoverage⟩
  unfold runBiliUnit
  rw [hnew]
  change drive serve _ _ >>= _ = _
  rw [hdrive]
  change w.coverage >>= _ = _
  rw [hcoverage]
  change BiliScanCoverage.validate _ s maxItems >>= _ = _
  rw [hvalidate _ hcoverage]
  rfl

/-- An accepted unit, taken apart. -/
theorem drive_of_runBiliUnit {serve : Nat → BiliFeed} {s : BiliScanState} {maxItems : Nat}
    {c : BiliScanCoverage} (h : runBiliUnit serve s maxItems = .ok c) :
    ∃ w, Drives serve (fresh s maxItems) w ∧ w.coverage = .ok c ∧ 1 ≤ maxItems := by
  unfold runBiliUnit at h
  obtain ⟨u, hnew, hrest⟩ := bind_ok h
  unfold new at hnew
  split at hnew
  · cases hnew
    rename_i hmax
    obtain ⟨w, hdrive, hlast⟩ := bind_ok hrest
    obtain ⟨d, hcoverage, hend⟩ := bind_ok hlast
    obtain ⟨_, _, hc⟩ := bind_ok hend
    cases hc
    exact ⟨w, drives_of_drive hdrive, hcoverage, hmax.1⟩
  · cases hnew

end BiliScanUnit

end MediaSync.Scan
