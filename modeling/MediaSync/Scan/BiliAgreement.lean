import MediaSync.Scan.BiliSteps
import Mathlib.Logic.Relation

/-!
# The planner of a Bili unit and its validator

A parent process sees of a unit only its record and replays it. Here the unit is
driven by calls in any order, each of which it accepts. The calls end, their
record is accepted, and a record that is accepted comes from such calls. One
question has no answer: for an item that shares an id with an item which the
unit has consumed, `consume` refuses what `next_action` asks for.
-/

namespace MediaSync.Scan

namespace BiliScanUnit

variable {s : BiliScanState} {maxItems : Nat} {u v w u₀ : BiliScanUnit}

/-- A page or a detail that the unit takes. -/
inductive Answered (u v : BiliScanUnit) : Prop
  | list (page : BiliPage) : u.observePage page = .ok v → Answered u v
  | detail (x : BiliIdentity) : u.consume x = .ok v → Answered u v

/-- A call that the unit accepts. -/
inductive Call (u v : BiliScanUnit) : Prop
  | act (a : BiliScanAction) : u.nextAction = .ok (a, v) → Call u v
  | answer : Answered u v → Call u v

/-- Any number of accepted calls. -/
abbrev Calls : BiliScanUnit → BiliScanUnit → Prop := Relation.ReflTransGen Call

/-- The unit has consumed no item with an id of this one. -/
def Unseen (u : BiliScanUnit) (x : BiliIdentity) : Prop :=
  x.aid ∉ u.consumed.map BiliIdentity.aid ∧ x.bvid ∉ u.consumed.map BiliIdentity.bvid

theorem consumeNext_repeated {x : BiliIdentity} (h : ¬ u.Unseen x) :
    u.consumeNext x = .error .invalid := by
  unfold consumeNext
  rw [if_pos (by_contra fun hnot => h (not_or.1 hnot))]

theorem consumeNext_iff {x : BiliIdentity} (hpending : u.pending = some x) :
    (∃ v, u.consumeNext x = .ok v) ↔ u.Unseen x := by
  constructor
  · rintro ⟨v, hv⟩
    by_contra hseen
    rw [consumeNext_repeated hseen] at hv
    cases hv
  · rintro ⟨haid, hbvid⟩
    exact consumeNext_ok hpending haid hbvid

theorem Asks.list_number {n : Nat} (h : Asks u (.list n) v) : n = v.current.page := by
  cases h with
  | list => rfl
  | nextPage _ _ lane => exact (congrArg BiliLane.page (current_setLane u lane)).symm

/-- A page is taken exactly if the unit asks for a page of its number. -/
theorem observePage_iff {a : BiliScanAction} (hnext : u.nextAction = .ok (a, v))
    (page : BiliPage) : (∃ w, u.observePage page = .ok w) ↔ a = .list page.page := by
  have hcall : u.observePage page =
      if a = .list page.page then v.observed page else .error .invalid := by
    unfold observePage
    rw [hnext]
    rfl
  rw [hcall]
  constructor
  · rintro ⟨w, hw⟩
    by_contra hne
    rw [if_neg hne] at hw
    cases hw
  · rintro rfl
    rw [if_pos rfl]
    have hpage : page.page = v.current.page := (asks_of_nextAction hnext).list_number
    unfold observed
    cases hwitness : v.current.witness with
    | some w => exact ⟨_, rfl⟩
    | none =>
      dsimp only
      split
      · exact ⟨_, rfl⟩
      · exact newPage_ok (u := v.listed page) hwitness hpage

/-- A detail is taken exactly if the unit asks for it and has not consumed its ids. -/
theorem consume_iff {a : BiliScanAction} (hnext : u.nextAction = .ok (a, v)) (x : BiliIdentity) :
    (∃ w, u.consume x = .ok w) ↔ a = .detail x ∧ u.Unseen x := by
  have hcall : u.consume x =
      if a = .detail x then v.consumeNext x else .error .invalid := by
    unfold consume
    rw [hnext]
    rfl
  rw [hcall]
  constructor
  · rintro ⟨w, hw⟩
    by_cases ha : a = .detail x
    · rw [if_pos ha] at hw
      subst ha
      obtain ⟨rfl, -, hpending, -⟩ := (asks_of_nextAction hnext).detail_open
      exact ⟨rfl, (consumeNext_iff hpending).1 ⟨w, hw⟩⟩
    · rw [if_neg ha] at hw
      cases hw
  · rintro ⟨rfl, hunseen⟩
    rw [if_pos rfl]
    obtain ⟨rfl, -, hpending, -⟩ := (asks_of_nextAction hnext).detail_open
    exact (consumeNext_iff hpending).2 hunseen

/-- What no call changes, and what one answer adds. -/
structure Kept (u v : BiliScanUnit) : Prop where
  limit : v.limit = u.limit
  input : v.inputState = u.inputState

theorem nextAction_kept {a : BiliScanAction} (h : u.nextAction = .ok (a, v)) :
    Kept u v ∧ v.pages = u.pages ∧ v.consumed = u.consumed := by
  have hasks := asks_of_nextAction h
  obtain ⟨-, hlimit, hinput⟩ := hasks.frame
  exact ⟨⟨hlimit, hinput⟩, hasks.pages, hasks.consumed⟩

/-- A page that the unit takes is the next of its pages. -/
theorem observePage_kept {page : BiliPage} (h : u.observePage page = .ok v) :
    Kept u v ∧ u.pages.length ≠ 2 ∧ v.pages = u.pages ++ [page] ∧ v.consumed = u.consumed := by
  obtain ⟨⟨a, w⟩, hnext, h⟩ := bind_ok h
  dsimp only at h
  split at h
  · rename_i ha
    subst ha
    obtain ⟨hkept, hpages, hconsumed⟩ := nextAction_kept hnext
    obtain ⟨hvpages, hvconsumed, -, hlimit, hinput⟩ := (observed_observes h).frame
    exact ⟨⟨hlimit.trans hkept.limit, hinput.trans hkept.input⟩,
      (asks_of_nextAction hnext).list_pages.1, by rw [hvpages, hpages],
      hvconsumed.trans hconsumed⟩
  · cases h

theorem consume_kept {x : BiliIdentity} (h : u.consume x = .ok v) :
    Kept u v ∧ u.consumed.length ≠ u.limit ∧ v.pages = u.pages ∧
      v.consumed = u.consumed ++ [x] := by
  obtain ⟨⟨a, w⟩, hnext, hconsumed⟩ := bind_ok h
  dsimp only at hconsumed
  split at hconsumed
  · rename_i ha
    subst ha
    obtain ⟨rfl, hopen, -, -⟩ := (asks_of_nextAction hnext).detail_open
    have hconsumes := consumeNext_consumes hconsumed
    exact ⟨⟨hconsumes.limit, hconsumes.inputState⟩, hopen.room, hconsumes.pages,
      hconsumes.consumed⟩
  · cases hconsumed

/-- The loop goes on from the unit with what the record has left. -/
def Replays (u₀ u : BiliScanUnit) : Prop :=
  ∀ n pages consumed, replay (n + (u.pages.length + u.consumed.length)) (u.pages ++ pages)
    (u.consumed ++ consumed) u₀ = replay n pages consumed u

theorem replay_act {a : BiliScanAction} (h : u.nextAction = .ok (a, v)) (n : Nat)
    (pages : List BiliPage) (consumed : List BiliIdentity) :
    replay n pages consumed v = replay n pages consumed u := by
  cases n with
  | zero => rfl
  | succ n =>
    unfold replay
    rw [h, nextAction_again h]

theorem replay_stop (h : u.nextAction = .ok (.stop, v)) (n : Nat) :
    replay (n + 1) [] [] u = .ok v := by
  unfold replay
  rw [h]
  rfl

theorem replay_list {page : BiliPage} (h : u.observePage page = .ok v) (n : Nat)
    (pages : List BiliPage) (consumed : List BiliIdentity) :
    replay (n + 1) (page :: pages) consumed u = replay n pages consumed v := by
  obtain ⟨⟨a, w⟩, hnext, hobserved⟩ := bind_ok h
  dsimp only at hobserved
  split at hobserved
  · rename_i ha
    subst ha
    have hagain : w.observePage page = .ok v := by
      rw [observePage_of_asks hnext]
      exact hobserved
    rw [replay, hnext]
    change w.observePage page >>= _ = _
    rw [hagain]
    rfl
  · cases hobserved

theorem replay_detail {x : BiliIdentity} (h : u.consume x = .ok v) (n : Nat)
    (pages : List BiliPage) (consumed : List BiliIdentity) :
    replay (n + 1) pages (x :: consumed) u = replay n pages consumed v := by
  obtain ⟨⟨a, w⟩, hnext, hconsumed⟩ := bind_ok h
  dsimp only at hconsumed
  split at hconsumed
  · rename_i ha
    subst ha
    have hagain : w.consume x = .ok v := by
      rw [consume_of_asks hnext]
      exact hconsumed
    rw [replay, hnext]
    change w.consume x >>= _ = _
    rw [hagain]
    rfl
  · cases hconsumed

theorem Replays.step (h : Replays u₀ u) (hcall : Call u v) : Replays u₀ v := by
  intro n pages consumed
  cases hcall with
  | act a hnext =>
    obtain ⟨-, hpages, hconsumed⟩ := nextAction_kept hnext
    rw [hpages, hconsumed, h, replay_act hnext]
  | answer hanswer =>
    cases hanswer with
    | list page hobserve =>
      obtain ⟨-, -, hpages, hconsumed⟩ := observePage_kept hobserve
      rw [← replay_list hobserve, ← h (n + 1), hpages, hconsumed, List.length_append,
        List.append_assoc]
      congr 1
      simp only [List.length_singleton]
      omega
    | detail x hconsume =>
      obtain ⟨-, -, hpages, hconsumed⟩ := consume_kept hconsume
      rw [← replay_detail hconsume, ← h (n + 1), hpages, hconsumed, List.length_append,
        List.append_assoc]
      congr 1
      simp only [List.length_singleton]
      omega

/-- What calls keep of the unit they began with. -/
structure Follows (u₀ u : BiliScanUnit) : Prop where
  limit : u.limit = u₀.limit
  input : u.inputState = u₀.inputState
  lists : u.pages.length ≤ 2
  details : u.consumed.length ≤ u.limit
  replays : Replays u₀ u

theorem follows_fresh (s : BiliScanState) (maxItems : Nat) :
    Follows (fresh s maxItems) (fresh s maxItems) :=
  ⟨rfl, rfl, Nat.zero_le _, Nat.zero_le _, fun _ _ _ => rfl⟩

theorem Follows.step (h : Follows u₀ u) (hcall : Call u v) : Follows u₀ v := by
  have hlists := h.lists
  have hdetails := h.details
  have hreplays := h.replays.step hcall
  cases hcall with
  | act a hnext =>
    obtain ⟨hkept, hpages, hconsumed⟩ := nextAction_kept hnext
    exact ⟨hkept.limit.trans h.limit, hkept.input.trans h.input, by rwa [hpages],
      by rwa [hconsumed, hkept.limit], hreplays⟩
  | answer hanswer =>
    cases hanswer with
    | list page hobserve =>
      obtain ⟨hkept, hroom, hpages, hconsumed⟩ := observePage_kept hobserve
      refine ⟨hkept.limit.trans h.limit, hkept.input.trans h.input, ?_,
        by rwa [hconsumed, hkept.limit], hreplays⟩
      rw [hpages, List.length_append, List.length_singleton]
      omega
    | detail x hconsume =>
      obtain ⟨hkept, hroom, hpages, hconsumed⟩ := consume_kept hconsume
      refine ⟨hkept.limit.trans h.limit, hkept.input.trans h.input, by rwa [hpages], ?_,
        hreplays⟩
      rw [hconsumed, hkept.limit, List.length_append, List.length_singleton]
      omega

theorem Calls.follows (h : Calls u₀ u) (h₀ : Follows u₀ u₀) : Follows u₀ u := by
  induction h with
  | refl => exact h₀
  | tail _ hcall ih => exact ih.step hcall

/-- Each answer adds a page or an item. -/
theorem Answered.grows (h : Answered u v) :
    v.pages.length + v.consumed.length = u.pages.length + u.consumed.length + 1 := by
  cases h with
  | list page hobserve =>
    obtain ⟨-, -, hpages, hconsumed⟩ := observePage_kept hobserve
    rw [hpages, hconsumed, List.length_append, List.length_singleton]
    omega
  | detail x hconsume =>
    obtain ⟨-, -, hpages, hconsumed⟩ := consume_kept hconsume
    rw [hpages, hconsumed, List.length_append, List.length_singleton]
    omega

/-- A unit that is always answered would list and consume without end. -/
theorem Follows.ends (h₀ : Follows u₀ u₀) {run : Nat → BiliScanUnit} (hrun : run 0 = u₀) :
    ∃ n, ¬ Answered (run n) (run (n + 1)) := by
  by_contra hall
  rw [not_exists] at hall
  have hanswered : ∀ n, Answered (run n) (run (n + 1)) := fun n => not_not.1 (hall n)
  have hfollows : ∀ n, Follows u₀ (run n) ∧
      n ≤ (run n).pages.length + (run n).consumed.length := by
    intro n
    induction n with
    | zero => exact ⟨hrun ▸ h₀, Nat.zero_le _⟩
    | succ n ih =>
      refine ⟨ih.1.step (.answer (hanswered n)), ?_⟩
      rw [(hanswered n).grows]
      omega
  obtain ⟨hlast, hcount⟩ := hfollows (u₀.limit + 3)
  have hlists := hlast.lists
  have hdetails := hlast.details
  rw [hlast.limit] at hdetails
  omega

theorem calls_of_replay {n : Nat} {pages : List BiliPage} {consumed : List BiliIdentity}
    (h : replay n pages consumed u = .ok v) : Calls u v := by
  induction n generalizing u pages consumed with
  | zero => cases h
  | succ n ih =>
    unfold replay at h
    obtain ⟨⟨a, w⟩, hnext, h⟩ := bind_ok h
    have hact : Calls u w := .single (.act a hnext)
    cases a with
    | stop =>
      dsimp only at h
      split at h
      · cases h
        exact hact
      · cases h
    | list p =>
      cases pages with
      | nil => cases h
      | cons page pages =>
        obtain ⟨x, hobserve, hrest⟩ := bind_ok h
        exact (hact.tail (.answer (.list page hobserve))).trans (ih hrest)
    | detail i =>
      cases consumed with
      | nil => cases h
      | cons y consumed =>
        obtain ⟨x, hconsume, hrest⟩ := bind_ok h
        exact (hact.tail (.answer (.detail y hconsume))).trans (ih hrest)

theorem coverage_of_stop (h : Follows (fresh s maxItems) u) (hnext : u.nextAction = .ok (.stop, v)) :
    ∃ c, u.coverage = .ok c ∧ v.coverage = .ok c ∧ c.inputState = s ∧ c.pages = u.pages ∧
      c.consumed = u.consumed := by
  obtain ⟨hkept, hpages, hconsumed⟩ := nextAction_kept hnext
  obtain ⟨r, hr⟩ := Option.isSome_iff_exists.1 (asks_of_nextAction hnext).reason
  have hlimit : u.limit ≤ biliScanPageSize := by
    rw [h.limit]
    exact Nat.min_le_right _ _
  have hvalid : BiliUnitSummary.Valid v.consumed.length v.pages.length v.consumed.length :=
    ⟨by rw [hconsumed]; exact h.details.trans hlimit, by rw [hpages]; exact h.lists, rfl⟩
  have hv := coverage_stopped hr hvalid
  have hu : u.coverage = v.coverage := by
    unfold coverage
    rw [hnext, nextAction_again hnext]
  exact ⟨_, hu.trans hv, hv, hkept.input.trans h.input, hpages, hconsumed⟩

/-- The record that a unit stops with is accepted. -/
theorem validate_of_stop (hnew : new s maxItems = .ok (fresh s maxItems))
    (h : Follows (fresh s maxItems) u) (hnext : u.nextAction = .ok (.stop, v)) :
    ∃ c, u.coverage = .ok c ∧ c.validate s maxItems = .ok () := by
  obtain ⟨c, hc, hvc, hinput, hpages, hconsumed⟩ := coverage_of_stop h hnext
  refine ⟨c, hc, ?_⟩
  have hlists := h.lists
  have hdetails : u.consumed.length ≤ min maxItems biliScanPageSize := by
    have hroom := h.details
    rwa [h.limit] at hroom
  have hreplay : replay (fresh s maxItems).turns c.pages c.consumed (fresh s maxItems) = .ok v := by
    have hturns : (fresh s maxItems).turns =
        (min maxItems biliScanPageSize + 2 - (u.pages.length + u.consumed.length) + 1) +
          (u.pages.length + u.consumed.length) := by
      change min maxItems biliScanPageSize + 3 = _
      omega
    have hrest := h.replays
      (min maxItems biliScanPageSize + 2 - (u.pages.length + u.consumed.length) + 1) [] []
    rw [List.append_nil, List.append_nil] at hrest
    rw [hturns, hpages, hconsumed, hrest, replay_stop hnext]
  unfold BiliScanCoverage.validate
  rw [if_neg, hnew]
  · change replay (fresh s maxItems).turns c.pages c.consumed (fresh s maxItems) >>= _ = _
    rw [hreplay]
    change v.coverage >>= _ = _
    rw [hvc]
    exact if_pos rfl
  · rw [hinput, hpages, hconsumed]
    rintro (hne | hmany | hmany)
    · exact hne rfl
    · omega
    · omega

/-- What a unit of a run does: it keeps its budgets, asks the same question however often it
is asked, and takes exactly the answers to it. -/
structure Agrees (s : BiliScanState) (maxItems : Nat) (u : BiliScanUnit) : Prop where
  lists : u.pages.length ≤ 2
  details : u.consumed.length ≤ min maxItems biliScanPageSize
  asks : ∃ a v, u.nextAction = .ok (a, v) ∧ v.nextAction = .ok (a, v) ∧
    (∀ page, (∃ w, u.observePage page = .ok w) ↔ a = .list page.page) ∧
    (∀ x, (∃ w, u.consume x = .ok w) ↔ a = .detail x ∧ u.Unseen x) ∧
    ((∃ c, u.coverage = .ok c) ↔ a = .stop)
  accepted : ∀ c, u.coverage = .ok c → c.validate s maxItems = .ok ()

theorem Follows.agrees (hnew : new s maxItems = .ok (fresh s maxItems))
    (h : Follows (fresh s maxItems) u) : Agrees s maxItems u := by
  obtain ⟨a, v, hnext, -⟩ := nextAction_asks u
  have hcoverage : ∀ c, u.coverage = .ok c → a = .stop := by
    intro c hc
    obtain ⟨⟨b, w⟩, hnext', hc⟩ := bind_ok hc
    cases hnext.symm.trans hnext'
    dsimp only at hc
    split at hc
    · rfl
    · cases hc
  have hdetails := h.details
  rw [h.limit] at hdetails
  refine ⟨h.lists, hdetails, ⟨a, v, hnext, nextAction_again hnext,
    observePage_iff hnext, consume_iff hnext, ?_⟩, ?_⟩
  · constructor
    · rintro ⟨c, hc⟩
      exact hcoverage c hc
    · rintro rfl
      obtain ⟨c, hc, -⟩ := validate_of_stop hnew h hnext
      exact ⟨c, hc⟩
  · intro c hc
    obtain rfl := hcoverage c hc
    obtain ⟨c', hc', haccepted⟩ := validate_of_stop hnew h hnext
    cases hc.symm.trans hc'
    exact haccepted

theorem new_eq_fresh (h : new s maxItems = .ok u₀) : u₀ = fresh s maxItems := by
  unfold new at h
  split at h
  · exact (Except.ok.inj h).symm
  · cases h

/-- Planner and validator agree, whatever pages and details a unit meets. -/
theorem bili_unit_agrees (s : BiliScanState) (maxItems : Nat) :
    (∀ u₀, new s maxItems = .ok u₀ →
      (∀ u, Calls u₀ u → Agrees s maxItems u) ∧
      ∀ run : Nat → BiliScanUnit, run 0 = u₀ → ∃ n, ¬ Answered (run n) (run (n + 1))) ∧
    ∀ c : BiliScanCoverage, c.validate s maxItems = .ok () ↔
      ∃ u₀ u, new s maxItems = .ok u₀ ∧ Calls u₀ u ∧ u.coverage = .ok c := by
  refine ⟨fun u₀ hnew => ?_, fun c => ⟨fun hvalid => ?_, ?_⟩⟩
  · obtain rfl := new_eq_fresh hnew
    have h₀ := follows_fresh s maxItems
    exact ⟨fun u hcalls => (Calls.follows hcalls h₀).agrees hnew, fun run hrun => h₀.ends hrun⟩
  · unfold BiliScanCoverage.validate at hvalid
    split at hvalid
    · cases hvalid
    · obtain ⟨u₀, hnew, hvalid⟩ := bind_ok hvalid
      obtain ⟨u, hreplay, hvalid⟩ := bind_ok hvalid
      obtain ⟨again, hcoverage, hvalid⟩ := bind_ok hvalid
      split at hvalid
      · rename_i hsame
        exact ⟨u₀, u, hnew, calls_of_replay hreplay, hsame ▸ hcoverage⟩
      · cases hvalid
  · rintro ⟨u₀, u, hnew, hcalls, hcoverage⟩
    obtain rfl := new_eq_fresh hnew
    exact ((Calls.follows hcalls (follows_fresh s maxItems)).agrees hnew).accepted c hcoverage

theorem sampleDate_valid : 1 ≤ 1700000000 ∧ 1700000000 ≤ 253402300799 := by decide

/-- Uploads of one second. -/
def sampleUploads (first count : Nat) : List BiliIdentity :=
  (List.range' first count).filterMap fun n =>
    if h : validAid (toString (10 + n)) = true ∧
        validBvid ("BV1xx411c" ++ toString (100 + n)) = true then
      some ⟨toString (10 + n), "BV1xx411c" ++ toString (100 + n), ⟨1700000000, sampleDate_valid⟩, h⟩
    else none

/-- The head stands before the last item of its first page. It consumes the item, the page is
confirmed, and then an upload is published: the item is the first of the second page. -/
def pushedUnit : Except ScanError (BiliScanState × BiliScanUnit × BiliScanUnit) := do
  let first ← BiliPage.make 1 31 (sampleUploads 1 30)
  let second ← BiliPage.make 2 32 (sampleUploads 30 2)
  let lane ← BiliLane.make 1 (some first) 29 none
  let s := { BiliScanState.initial ⟨"a", "b", "c"⟩ with head := lane }
  let u₀ ← new s 30
  let last ← (first.identities[29]?).elim (.error .index) .ok
  let u ← u₀.consume last
  let u ← u.observePage first
  let u ← u.observePage second
  .ok (s, u₀, u)

/-- The unit asks for an item that it has consumed. -/
def AsksAgain (u : BiliScanUnit) : Prop :=
  ∃ x, u.pending = some x ∧ u.nextAction = .ok (.detail x, u) ∧ ¬ u.Unseen x

instance (u : BiliScanUnit) : Decidable u.AsksAgain :=
  match h : u.pending with
  | none => isFalse fun ⟨x, hx, _⟩ => by simp [h] at hx
  | some x =>
    decidable_of_iff (u.nextAction = .ok (.detail x, u) ∧ (x.aid ∈ u.consumed.map BiliIdentity.aid ∨
        x.bvid ∈ u.consumed.map BiliIdentity.bvid)) (by
      simp only [AsksAgain, h, Option.some.injEq, exists_eq_left', Unseen, not_and_or, not_not])

/-- No answer takes a unit that asks again any further, and it has no record. -/
theorem repeated_item_never_taken :
    ∃ s u₀ u x, new s 30 = .ok u₀ ∧ Calls u₀ u ∧ u.nextAction = .ok (.detail x, u) ∧
      (∀ v, ¬ Answered u v) ∧ ∀ c, u.coverage ≠ .ok c := by
  have hagain : pushedUnit.toOption.any (fun r => decide r.2.2.AsksAgain) = true := by
    decide +kernel
  cases hpushed : pushedUnit with
  | error e =>
    rw [hpushed] at hagain
    cases hagain
  | ok r =>
    rw [hpushed] at hagain
    obtain ⟨first, -, hrest⟩ := bind_ok hpushed
    obtain ⟨second, -, hrest⟩ := bind_ok hrest
    obtain ⟨lane, -, hrest⟩ := bind_ok hrest
    obtain ⟨u₀, hnew, hrest⟩ := bind_ok hrest
    obtain ⟨last, -, hrest⟩ := bind_ok hrest
    obtain ⟨u₁, h₁, hrest⟩ := bind_ok hrest
    obtain ⟨u₂, h₂, hrest⟩ := bind_ok hrest
    obtain ⟨u, h₃, hrest⟩ := bind_ok hrest
    obtain rfl := Except.ok.inj hrest
    obtain ⟨x, -, hnext, hseen⟩ := of_decide_eq_true hagain
    have hcalls : Calls u₀ u :=
      ((Relation.ReflTransGen.single (.answer (.detail _ h₁))).tail
        (.answer (.list _ h₂))).tail (.answer (.list _ h₃))
    refine ⟨_, u₀, u, x, hnew, hcalls, hnext, fun v hanswer => ?_, fun c hc => ?_⟩
    · cases hanswer with
      | list page hobserve => cases (observePage_iff hnext page).1 ⟨v, hobserve⟩
      | detail y hconsume =>
        obtain ⟨hask, hunseen⟩ := (consume_iff hnext y).1 ⟨v, hconsume⟩
        cases hask
        exact hseen hunseen
    · obtain ⟨⟨a, w⟩, hnext', hc⟩ := bind_ok hc
      cases hnext.symm.trans hnext'
      cases hc

end BiliScanUnit

end MediaSync.Scan
