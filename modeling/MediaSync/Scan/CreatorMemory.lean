import MediaSync.Scan.CreatorStores
import MediaSync.Scan.BiliSteps

/-!
# What the memory of the head may skip

A unit skips an item whose listing digest is the one that the head boundary
remembers. The boundary is written by the units that finish a page of the head,
and once before that, when the history first lists its first page. This file
follows the records that are accepted, in any order of pages and outcomes, and
says which of them have stored what the memory holds.
-/

namespace MediaSync.Scan

open BiliScanUnit (bind_ok)

variable {p : CreatorPlatform}

/-! ## One accepted record -/

/-- The boundary of a state whose unit has seen a page. -/
def CreatorScanState.boundaryOn (s : CreatorScanState p) (page : CreatorPage p) :
    Option (List (ListingIdentity p)) :=
  if s.lane = .history ∧ s.pageCursor = "" ∧ s.headBoundary = none then
    some page.witness.identities
  else s.headBoundary

/-- The item was kept from earlier units, or one of the outcomes completes it. -/
def CompletedBy (s : CreatorScanState p) (outcomes : List (CreatorOutcome p))
    (i : CreatorIdentity p) : Prop :=
  s.keeps i = true ∨ ∃ o ∈ outcomes, o.identity = i ∧ (o.status = .stored ∨ o.status = .unchanged)

namespace CreatorScanUnit

variable {s : CreatorScanState p} {page : CreatorPage p} {u v : CreatorScanUnit p}

/-- A replacement keeps everything but the state. -/
theorem replace_keeps {f : CreatorScanFields p} (h : u.replace f = .ok v) :
    v = { u with state := v.state } := by
  unfold replace at h
  cases hmake : CreatorScanState.make f with
  | error e =>
    rw [hmake] at h
    cases h
  | ok state =>
    rw [hmake] at h
    cases h
    rfl

/-- The unit works on its page, from the state `s`. -/
structure Working (s : CreatorScanState p) (page : CreatorPage p) (u : CreatorScanUnit p) :
    Prop where
  listed : u.page = some page
  inputState : u.inputState = s
  witness : u.state.witness = some page.witness
  lane : u.state.lane = s.lane
  boundary : u.state.headBoundary = s.boundaryOn page
  outcome : ∀ o ∈ u.outcomes, o.identity ∈ page.identities ∧
    (o.status = .unchanged → s.known o.identity = true)
  completed : ∀ id ∈ u.state.completedIds, ∃ i ∈ page.identities, i.id = id ∧
    CompletedBy s u.outcomes i

/-- Nothing but the index and the reason has changed. -/
theorem Working.moved (h : Working s page u) (hlisted : v.page = u.page)
    (hinput : v.inputState = u.inputState) (houtcomes : v.outcomes = u.outcomes)
    (hfields : v.state.toCreatorScanFields =
      { u.state.toCreatorScanFields with index := v.state.index }) : Working s page v where
  listed := hlisted.trans h.listed
  inputState := hinput.trans h.inputState
  witness := (congrArg CreatorScanFields.witness hfields).trans h.witness
  lane := (congrArg CreatorScanFields.lane hfields).trans h.lane
  boundary := (congrArg CreatorScanFields.headBoundary hfields).trans h.boundary
  outcome := houtcomes ▸ h.outcome
  completed := by
    rw [houtcomes, congrArg CreatorScanFields.completedIds hfields]
    exact h.completed

/-- The memory that a unit compares with is that of its state. -/
theorem Working.known (h : Working s page u) (i : CreatorIdentity p) :
    u.state.known i = s.known i := by
  unfold CreatorScanState.known
  rw [h.lane, h.boundary, CreatorScanState.boundaryOn]
  cases hlane : s.lane with
  | history => simp
  | head => simp

theorem observePage_working {maxItems : Nat} (h : (fresh s maxItems).observePage page = .ok u) :
    page.inputCursor = s.pageCursor ∧ (∀ w ∈ s.witness, SameShape w page) ∧
      Working s page u := by
  have hcursor : page.inputCursor = s.pageCursor := by
    by_contra hne
    unfold observePage at h
    rw [show (fresh s maxItems).nextAction = .ok (.list s.pageCursor, fresh s maxItems) from rfl] at h
    simp only [bind, Except.bind] at h
    rw [if_neg (by simpa using Ne.symm hne)] at h
    cases h
  have hshape : ∀ w ∈ s.witness, SameShape w page := by
    intro w hw
    by_contra hshape
    rw [observePage_refuses maxItems hcursor hw hshape] at h
    cases h
  obtain ⟨u', hu', haccepted⟩ := observePage_accepts maxItems hcursor hshape
  obtain rfl : u' = u := Except.ok.inj (hu'.symm.trans h)
  refine ⟨hcursor, hshape, haccepted.underway.listed, haccepted.inputState,
    haccepted.underway.witness, observePage_lane hcursor h, ?_, ?_, ?_⟩
  · rw [observePage_fresh s maxItems hcursor] at h
    cases hw : (fresh s maxItems).witnessed page with
    | error e =>
      rw [hw] at h
      cases h
    | ok w =>
      rw [hw] at h
      have hfields : w.state.lane = s.lane ∧ w.state.pageCursor = s.pageCursor ∧
          w.state.headBoundary = s.headBoundary := by
        unfold witnessed at hw
        split at hw
        · split_ifs at hw
          rw [replace_fields hw]
          exact ⟨rfl, rfl, rfl⟩
        · rw [replace_fields hw]
          exact ⟨rfl, rfl, rfl⟩
      have hbounded : bounded { w with page := some page } page = .ok u' := h
      unfold bounded at hbounded
      unfold CreatorScanState.boundaryOn
      rw [hfields.1, hfields.2.1, hfields.2.2] at hbounded
      split at hbounded
      · rename_i hfirst
        rw [if_pos hfirst, replace_fields hbounded]
      · rename_i hlater
        obtain rfl := Except.ok.inj hbounded
        rw [if_neg hlater]
        exact hfields.2.2
  · rw [haccepted.outcomes]
    exact fun o ho => nomatch ho
  · intro id hid
    have hshown := (u'.state.valid.fits _ haccepted.underway.witness).2.2 id hid
    rw [witness_ids] at hshown
    obtain ⟨i, hi, rfl⟩ := List.mem_map.1 hshown
    refine ⟨i, hi, rfl, .inl ?_⟩
    exact (haccepted.underway.ahead i (by rwa [haccepted.index, List.drop_zero])).1 hid

/-- The action of a unit that goes on concerns an item of its page. -/
theorem Working.nextAction (h : Working s page u) {action : CreatorScanAction p}
    (hnext : u.nextAction = .ok (action, v)) (hgoes : action ≠ .stop) :
    Working s page v ∧ v.outcomes = u.outcomes ∧
      ∃ i ∈ page.identities, (action = .unchanged i ∧ s.known i = true) ∨ action = .detail i := by
  unfold CreatorScanUnit.nextAction at hnext
  split at hnext
  · cases hnext
    exact absurd rfl hgoes
  · rw [h.listed] at hnext
    obtain ⟨w, hskip, hnext⟩ := bind_ok hnext
    have hw : Working s page w ∧ w.outcomes = u.outcomes := by
      have hsame := replace_keeps hskip
      have houtcomes : w.outcomes = u.outcomes := by rw [hsame]
      refine ⟨h.moved ?_ ?_ houtcomes ?_, houtcomes⟩
      · rw [hsame]
      · rw [hsame]
      · rw [replace_fields hskip]
    split at hnext
    · cases hfinish : w.finishPage page with
      | error e =>
        rw [hfinish] at hnext
        cases hnext
      | ok x =>
        rw [hfinish] at hnext
        cases hnext
        exact absurd rfl hgoes
    · rename_i i hi
      have hmem : i ∈ page.identities := List.mem_of_getElem? hi
      split at hnext
      · cases hnext
        exact absurd rfl hgoes
      · split at hnext
        · rename_i hknown
          cases hnext
          exact ⟨hw.1, hw.2, i, hmem, .inl ⟨rfl, (hw.1.known i).symm.trans hknown⟩⟩
        · cases hnext
          exact ⟨hw.1, hw.2, i, hmem, .inr rfl⟩

theorem Working.record (h : Working s page u) {i : CreatorIdentity p} {status : CreatorStatus}
    (hrecord : u.record i status = .ok v) : Working s page v := by
  unfold CreatorScanUnit.record at hrecord
  obtain ⟨⟨action, w⟩, hnext, hrecord⟩ := bind_ok hrecord
  dsimp only at hrecord
  split at hrecord
  · rename_i haction
    have hgoes : action ≠ .stop := by
      rw [haction]
      cases status <;> simp [expectedAction]
    obtain ⟨hw, -, j, hj, hitem⟩ := h.nextAction hnext hgoes
    have hij : i = j ∧ (status = .unchanged → s.known j = true) := by
      rcases hitem with ⟨hskip, hknown⟩ | hdetail
      · rw [hskip] at haction
        cases status <;> cases haction
        exact ⟨rfl, fun _ => hknown⟩
      · rw [hdetail] at haction
        cases status <;> cases haction <;> exact ⟨rfl, fun h => by cases h⟩
    obtain ⟨rfl, hunchanged⟩ := hij
    have hsame := replace_keeps hrecord
    have houtcomes : v.outcomes = w.outcomes ++ [⟨i, status⟩] := by rw [hsame]
    have hfields := replace_fields hrecord
    refine ⟨?_, ?_, (congrArg CreatorScanFields.witness hfields).trans hw.witness,
      (congrArg CreatorScanFields.lane hfields).trans hw.lane,
      (congrArg CreatorScanFields.headBoundary hfields).trans hw.boundary, ?_, ?_⟩
    · rw [hsame]
      exact hw.listed
    · rw [hsame]
      exact hw.inputState
    · intro o ho
      rw [houtcomes] at ho
      rcases List.mem_append.1 ho with ho | ho
      · exact hw.outcome o ho
      · rw [List.mem_singleton.1 ho]
        exact ⟨hj, hunchanged⟩
    · intro id hid
      rw [congrArg CreatorScanFields.completedIds hfields] at hid
      change id ∈ w.completedAfter i status at hid
      rw [houtcomes]
      have hold : ∀ id ∈ w.state.completedIds, ∃ k ∈ page.identities, k.id = id ∧
          CompletedBy s (w.outcomes ++ [⟨i, status⟩]) k := by
        intro id hid
        obtain ⟨k, hk, hkid, hdone⟩ := hw.completed id hid
        refine ⟨k, hk, hkid, hdone.imp_right ?_⟩
        rintro ⟨o, ho, hrest⟩
        exact ⟨o, List.mem_append_left _ ho, hrest⟩
      unfold completedAfter at hid
      split at hid
      · rename_i hdone
        rcases List.mem_append.1 hid with hid | hid
        · exact hold id hid
        · rw [List.mem_singleton.1 hid]
          exact ⟨i, hj, rfl, .inr ⟨⟨i, status⟩, List.mem_append_right _ (List.mem_singleton.2 rfl),
            rfl, hdone.1⟩⟩
      · exact hold id hid
  · cases hrecord

theorem Working.replayed (h : Working s page u) {o : CreatorOutcome p}
    (hreplayed : u.replayed o = .ok v) : Working s page v := by
  by_cases ho : o.status = .accessRestricted
  · obtain ⟨i, status⟩ := o
    cases ho
    simp only [CreatorScanUnit.replayed, fail, if_true] at hreplayed
    cases hrecord : u.record i .accessRestricted with
    | error e =>
      rw [hrecord] at hreplayed
      cases hreplayed
    | ok w =>
      rw [hrecord] at hreplayed
      have hstop : (w.stopped .accessRestricted).replace
          { w.state.toCreatorScanFields with index := u.state.index } = .ok v := hreplayed
      have hsame := replace_keeps hstop
      refine (h.record hrecord).moved ?_ ?_ ?_ ?_
      · rw [hsame]
        rfl
      · rw [hsame]
        rfl
      · rw [hsame]
        rfl
      · rw [replace_fields hstop]
  · rw [replayed_eq_record ho] at hreplayed
    exact h.record hreplayed

theorem Working.replay (outcomes : List (CreatorOutcome p)) {u : CreatorScanUnit p}
    (h : Working s page u) (hreplay : replay outcomes u = .ok v) : Working s page v := by
  induction outcomes generalizing u with
  | nil =>
    cases hreplay
    exact h
  | cons o outcomes ih =>
    unfold CreatorScanUnit.replay at hreplay
    obtain ⟨w, hreplayed, hreplay⟩ := bind_ok hreplay
    exact ih (h.replayed hreplayed) hreplay

/-- How a unit leaves its work: it stays on the page, or the page is finished. -/
inductive Ends (s : CreatorScanState p) (page : CreatorPage p) (u v : CreatorScanUnit p) : Prop
  | stays : Working s page v → Ends s page u v
  | leaves : v.page = some page → v.inputState = s → v.outcomes = u.outcomes →
      v.state.witness = none → v.state.completedIds = [] → v.state.lane = s.lane →
      v.state.headBoundary =
        (if s.lane = .head then some page.witness.identities else s.boundaryOn page) →
      (∀ i ∈ page.identities, CompletedBy s u.outcomes i) → Ends s page u v

/-- As many completed ids as items of the page are all of them. -/
theorem Working.all_completed (h : Working s page u)
    (hcount : u.state.completedIds.length = page.identities.length) :
    ∀ i ∈ page.identities, CompletedBy s u.outcomes i := by
  intro i hi
  have hsub := (u.state.valid.fits _ h.witness).2.2
  have hperm : u.state.completedIds.Perm page.witness.ids :=
    (List.subperm_of_subset u.state.valid.completedOnce hsub).perm_of_length_le
      (by rw [witness_ids_length, hcount])
  have hid : i.id ∈ u.state.completedIds := by
    rw [hperm.mem_iff, witness_ids]
    exact List.mem_map_of_mem hi
  obtain ⟨j, hj, hji, hdone⟩ := h.completed i.id hid
  rwa [← List.inj_on_of_nodup_map (page_ids_nodup page) hj hi hji]

theorem Working.finishPage (h : Working s page u) (hfinish : u.finishPage page = .ok v) :
    Ends s page u v := by
  unfold CreatorScanUnit.finishPage at hfinish
  split at hfinish
  · have hsame := replace_keeps hfinish
    refine .stays (h.moved ?_ ?_ ?_ ?_)
    · rw [hsame]
      rfl
    · rw [hsame]
      rfl
    · rw [hsame]
      rfl
    · rw [replace_fields hfinish]
  · rename_i hcount
    have hall := h.all_completed (not_not.1 hcount)
    cases hlane : u.state.lane with
    | history =>
      have hhistory : ¬ s.lane = .head := by
        rw [← h.lane, hlane]
        nofun
      have hleave : ∀ {reason : CreatorReason},
          (u.stopped reason).replace (u.leaving page.nextCursor) = .ok v → Ends s page u v := by
        intro reason hreplace
        have hsame := replace_keeps hreplace
        have hfields := replace_fields hreplace
        refine .leaves ?_ ?_ ?_ (congrArg CreatorScanFields.witness hfields)
          (congrArg CreatorScanFields.completedIds hfields)
          ((congrArg CreatorScanFields.lane hfields).trans h.lane) ?_ hall
        · rw [hsame]
          exact h.listed
        · rw [hsame]
          exact h.inputState
        · rw [hsame]
          rfl
        · rw [if_neg hhistory]
          exact (congrArg CreatorScanFields.headBoundary hfields).trans h.boundary
      rw [hlane] at hfinish
      dsimp only at hfinish
      split at hfinish
      · exact hleave hfinish
      · split at hfinish
        · cases hfinish
          exact .stays (h.moved rfl rfl rfl rfl)
        · exact hleave hfinish
    | head =>
      have hhead : s.lane = .head := h.lane.symm.trans hlane
      rw [hlane] at hfinish
      have hreplace : (u.stopped _).replace
          { u.leaving "" with headBoundary := some page.witness.identities } = .ok v := hfinish
      have hsame := replace_keeps hreplace
      have hfields := replace_fields hreplace
      refine .leaves ?_ ?_ ?_ (congrArg CreatorScanFields.witness hfields)
        (congrArg CreatorScanFields.completedIds hfields)
        ((congrArg CreatorScanFields.lane hfields).trans h.lane) ?_ hall
      · rw [hsame]
        exact h.listed
      · rw [hsame]
        exact h.inputState
      · rw [hsame]
        rfl
      · rw [if_pos hhead]
        exact congrArg CreatorScanFields.headBoundary hfields

theorem Working.stop (h : Working s page u) (hnext : u.nextAction = .ok (.stop, v)) :
    Ends s page u v := by
  unfold CreatorScanUnit.nextAction at hnext
  split at hnext
  · cases hnext
    exact .stays h
  · rw [h.listed] at hnext
    obtain ⟨w, hskip, hnext⟩ := bind_ok hnext
    have hsame := replace_keeps hskip
    have houtcomes : w.outcomes = u.outcomes := by rw [hsame]
    have hw : Working s page w := by
      refine h.moved ?_ ?_ houtcomes ?_
      · rw [hsame]
      · rw [hsame]
      · rw [replace_fields hskip]
    split at hnext
    · cases hfinish : w.finishPage page with
      | error e =>
        rw [hfinish] at hnext
        cases hnext
      | ok x =>
        rw [hfinish] at hnext
        cases hnext
        cases hw.finishPage hfinish with
        | stays hworks => exact .stays hworks
        | leaves hlisted hinput hsameOutcomes hwitness hcompleted hlane hboundary hall =>
          rw [houtcomes] at hsameOutcomes hall
          exact .leaves hlisted hinput hsameOutcomes hwitness hcompleted hlane hboundary hall
    · split at hnext
      · cases hnext
        exact .stays (hw.moved rfl rfl rfl rfl)
      · split at hnext <;> cases hnext

/-- A record comes from a unit that has stopped. -/
theorem covers_of_coverage {c : CreatorScanCoverage p} (h : u.coverage = .ok c) :
    ∃ v, u.nextAction = .ok (.stop, v) ∧ Covers v c := by
  have h' := h
  unfold coverage at h
  obtain ⟨⟨action, v⟩, hnext, h⟩ := bind_ok h
  dsimp only at h
  split at h
  · rename_i reason hreason
    split at h
    · rename_i hvalid
      rw [coverage_eq hnext hreason hvalid] at h'
      cases h'
      exact ⟨v, hnext, rfl, rfl, rfl, hreason, rfl, rfl, rfl⟩
    · cases h
  · cases h

end CreatorScanUnit

/-- What a record that is accepted says about the states around it. -/
inductive AcceptedRecord (s : CreatorScanState p) (c : CreatorScanCoverage p) : Prop
  /-- the list was restricted -/
  | restricted : c.page = none → c.outcomes = [] → c.summary.pageComplete = false →
      c.nextState.toCreatorScanFields = { s.toCreatorScanFields with lastUnit := some c.summary } →
      AcceptedRecord s c
  /-- the unit stays on its page -/
  | stays (page : CreatorPage p) : c.page = some page → page.inputCursor = s.pageCursor →
      (∀ w ∈ s.witness, CreatorScanUnit.SameShape w page) →
      (∀ o ∈ c.outcomes, o.identity ∈ page.identities ∧
        (o.status = .unchanged → s.known o.identity = true)) →
      c.summary.pageComplete = false → c.nextState.lane = s.lane →
      c.nextState.witness = some page.witness → c.nextState.headBoundary = s.boundaryOn page →
      (∀ id ∈ c.nextState.completedIds, ∃ i ∈ page.identities, i.id = id ∧
        CompletedBy s c.outcomes i) →
      AcceptedRecord s c
  /-- the unit finishes its page -/
  | leaves (page : CreatorPage p) : c.page = some page → page.inputCursor = s.pageCursor →
      (∀ w ∈ s.witness, CreatorScanUnit.SameShape w page) →
      (∀ o ∈ c.outcomes, o.identity ∈ page.identities ∧
        (o.status = .unchanged → s.known o.identity = true)) →
      c.summary.pageComplete = true → c.nextState.lane = s.lane → c.nextState.witness = none →
      c.nextState.headBoundary =
        (if s.lane = .head then some page.witness.identities else s.boundaryOn page) →
      (∀ i ∈ page.identities, CompletedBy s c.outcomes i) →
      AcceptedRecord s c

open CreatorScanUnit in
theorem acceptedRecord_of_validate {s : CreatorScanState p} {c : CreatorScanCoverage p}
    {maxItems : Nat} (h : c.validate s maxItems = .ok ()) :
    c.inputState = s ∧ AcceptedRecord s c := by
  unfold CreatorScanCoverage.validate at h
  split at h
  · cases h
  · rename_i hinput
    rw [not_or, not_not] at hinput
    refine ⟨hinput.1, ?_⟩
    unfold CreatorScanUnit.new at h
    split at h
    · obtain ⟨fresh', hfresh, h⟩ := bind_ok h
      obtain rfl := Except.ok.inj hfresh
      obtain ⟨r, hrebuilt, h⟩ := bind_ok h
      obtain ⟨again, hcoverage, h⟩ := bind_ok h
      split at h
      · rename_i hsame
        rw [hsame] at hcoverage
        obtain ⟨v, hnext, hcovers⟩ := covers_of_coverage hcoverage
        unfold CreatorScanCoverage.rebuilt at hrebuilt
        cases hpage : c.page with
        | none =>
          rw [hpage] at hrebuilt
          have hstopped : (fresh s maxItems).stopped .accessRestricted = r :=
            Except.ok.inj hrebuilt
          rw [← hstopped, nextAction_of_reason ⟨_, rfl⟩] at hnext
          cases hnext
          exact .restricted hpage hcovers.outcomes hcovers.complete hcovers.nextState
        | some page =>
          rw [hpage] at hrebuilt
          obtain ⟨u, hobserve, hrebuilt⟩ := bind_ok hrebuilt
          obtain ⟨hcursor, hshape, hworks⟩ := observePage_working hobserve
          have hr := hworks.replay c.outcomes hrebuilt
          have hnextState := hcovers.nextState
          have hcomplete := hcovers.complete
          cases hr.stop hnext with
          | stays hv =>
            rw [hv.listed, hv.witness] at hcomplete
            refine .stays page hpage hcursor hshape ?_ hcomplete ?_ ?_ ?_ ?_
            · rw [hcovers.outcomes]
              exact hv.outcome
            · exact (congrArg CreatorScanFields.lane hnextState).trans hv.lane
            · exact (congrArg CreatorScanFields.witness hnextState).trans hv.witness
            · exact (congrArg CreatorScanFields.headBoundary hnextState).trans hv.boundary
            · rw [hcovers.outcomes, congrArg CreatorScanFields.completedIds hnextState]
              exact hv.completed
          | leaves hlisted _ houtcomes hwitness hcompleted hlane hboundary hall =>
            rw [hlisted, hwitness] at hcomplete
            rw [← houtcomes, ← hcovers.outcomes] at hall
            refine .leaves page hpage hcursor hshape ?_ hcomplete ?_ ?_ ?_ hall
            · rw [hcovers.outcomes, houtcomes]
              exact hr.outcome
            · exact (congrArg CreatorScanFields.lane hnextState).trans hlane
            · exact (congrArg CreatorScanFields.witness hnextState).trans hwitness
            · exact (congrArg CreatorScanFields.headBoundary hnextState).trans hboundary
      · cases h
    · cases h

/-- The open page shows the item with this digest, and no unit has completed it. -/
def CreatorScanState.Awaits (s : CreatorScanState p) (id sha : String) : Prop :=
  id ∉ s.completedIds ∧ ∃ w ∈ s.witness, listedSha256 w.identities id = some sha

namespace CreatorScanCoverage

variable (c : CreatorScanCoverage p)

/-- The record's page shows the item with this listing digest. -/
def Lists (id sha : String) : Prop :=
  ∃ page ∈ c.page, ∃ i ∈ page.identities, i.id = id ∧ i.listingSha256 = sha

/-- The record has an outcome for the item, listed with this digest. -/
def Reports (status : CreatorStatus) (id sha : String) : Prop :=
  ∃ o ∈ c.outcomes, o.status = status ∧ o.identity.id = id ∧ o.identity.listingSha256 = sha

/-- After this record the delivery may start over at the head of the list. -/
def MayHead : Prop :=
  c.summary.pageComplete = true ∧ (c.summary.lane = .head ∨ c.summary.stopReason = .hasMoreFalse)

/-- Listing a page again that an earlier unit left open, the unit finds as they were the items
of the memory that this page shows and no unit has completed: all of them on the first page
of the history, elsewhere those whose digest is not the remembered one. -/
def Steady : Prop :=
  ∀ page ∈ c.page, ∀ boundary ∈ c.inputState.headBoundary, ∀ x ∈ boundary, ∀ sha,
    c.inputState.Awaits x.id sha →
      c.inputState.lane = .history ∧ c.inputState.pageCursor = "" ∨ sha ≠ x.listingSha256 →
      listedSha256 page.witness.identities x.id = some sha

end CreatorScanCoverage

/-- The accepted records of a scan in their order, and the state they lead to. -/
inductive UnitRun (binding : CreatorBinding) :
    List (CreatorScanCoverage p) → CreatorScanState p → Prop
  | initial : UnitRun binding [] (.initial p binding)
  | unit {units : List (CreatorScanCoverage p)} {s : CreatorScanState p}
      {c : CreatorScanCoverage p} (maxItems : Nat) : UnitRun binding units s →
      c.validate s maxItems = .ok () → UnitRun binding (units ++ [c]) c.nextState
  | head {units : List (CreatorScanCoverage p)} {c : CreatorScanCoverage p}
      {s' : CreatorScanState p} : UnitRun binding (units ++ [c]) c.nextState → c.MayHead →
      c.nextState.forHead = .ok s' → UnitRun binding (units ++ [c]) s'

variable {units : List (CreatorScanCoverage p)} {c : CreatorScanCoverage p} {id sha : String}
  {shown shown' : String → Prop}

/-- A record stored the item under this digest, and every later listing of it under another
digest has been stored since. -/
def SkipSound (units : List (CreatorScanCoverage p)) (id sha : String) : Prop :=
  ∃ earlier m later, units = earlier ++ m :: later ∧ m.Reports .stored id sha ∧
    ∀ k ∈ later, ∀ sha', k.Lists id sha' → sha' ≠ sha → ∃ k' ∈ later, k'.Reports .stored id sha'

/-- The same, but for the digests that are still shown. -/
def SoundUnless (units : List (CreatorScanCoverage p)) (id sha : String)
    (shown : String → Prop) : Prop :=
  ∃ earlier m later, units = earlier ++ m :: later ∧ m.Reports .stored id sha ∧
    ∀ k ∈ later, ∀ sha', k.Lists id sha' → sha' ≠ sha →
      (∃ k' ∈ later, k'.Reports .stored id sha') ∨ shown sha'

/-- A record stored the item under this digest, and it was listed with no other since. -/
def StoredSince (units : List (CreatorScanCoverage p)) (id sha : String) : Prop :=
  ∃ earlier m later, units = earlier ++ m :: later ∧ m.Reports .stored id sha ∧
    ∀ k ∈ later, ∀ sha', k.Lists id sha' → sha' = sha

theorem SkipSound.unless (h : SkipSound units id sha) : SoundUnless units id sha shown := by
  obtain ⟨earlier, m, later, hunits, hstored, hlater⟩ := h
  exact ⟨earlier, m, later, hunits, hstored,
    fun k hk sha' hlists hne => .inl (hlater k hk sha' hlists hne)⟩

theorem SoundUnless.skipSound (h : SoundUnless units id sha shown)
    (hshown : ∀ sha', shown sha' → sha' = sha) : SkipSound units id sha := by
  obtain ⟨earlier, m, later, hunits, hstored, hlater⟩ := h
  refine ⟨earlier, m, later, hunits, hstored, fun k hk sha' hlists hne => ?_⟩
  rcases hlater k hk sha' hlists hne with hdone | hstill
  · exact hdone
  · exact absurd (hshown sha' hstill) hne

theorem StoredSince.skipSound (h : StoredSince units id sha) : SkipSound units id sha := by
  obtain ⟨earlier, m, later, hunits, hstored, hsince⟩ := h
  exact ⟨earlier, m, later, hunits, hstored,
    fun k hk sha' hlists hne => absurd (hsince k hk sha' hlists) hne⟩

theorem StoredSince.append (h : StoredSince units id sha)
    (hc : ∀ sha', c.Lists id sha' → sha' = sha) : StoredSince (units ++ [c]) id sha := by
  obtain ⟨earlier, m, later, rfl, hstored, hsince⟩ := h
  refine ⟨earlier, m, later ++ [c], by simp, hstored, fun k hk => ?_⟩
  rcases List.mem_append.1 hk with hk | hk
  · exact hsince k hk
  · rw [List.mem_singleton.1 hk]
    exact hc

theorem storedSince_last (h : c.Reports .stored id sha) : StoredSince (units ++ [c]) id sha :=
  ⟨units, c, [], rfl, h, fun _ hk => absurd hk List.not_mem_nil⟩

/-- A page lists an item once. -/
theorem lists_unique {sha' : String} (h : c.Lists id sha) (h' : c.Lists id sha') : sha' = sha := by
  obtain ⟨page, hpage, i, hi, hid, rfl⟩ := h
  obtain ⟨page', hpage', j, hj, hid', rfl⟩ := h'
  obtain rfl : page = page' := Option.some.inj (hpage.symm.trans hpage')
  rw [List.inj_on_of_nodup_map (CreatorScanUnit.page_ids_nodup page) hj hi (hid'.trans hid.symm)]

/-- Records report items of their pages only. -/
def ReportsListed (units : List (CreatorScanCoverage p)) : Prop :=
  ∀ c ∈ units, ∀ status id sha, c.Reports status id sha → c.Lists id sha

/-- What stored the item under the digest it has now comes after what stored it under another. -/
theorem StoredSince.after {earlier later : List (CreatorScanCoverage p)} {m : CreatorScanCoverage p}
    {sha' : String} (h : StoredSince (earlier ++ m :: later) id sha')
    (hlisted : ReportsListed (earlier ++ m :: later)) (hstored : m.Reports .stored id sha)
    (hne : sha' ≠ sha) : ∃ m' ∈ later, m'.Reports .stored id sha' := by
  obtain ⟨earlier', m', later', hsplit, hstored', hsince⟩ := h
  have hm : m ∈ earlier ++ m :: later := List.mem_append_right _ List.mem_cons_self
  have hlists := hlisted m hm .stored id sha hstored
  have hother : m ≠ m' := by
    rintro rfl
    exact hne (lists_unique hlists (hlisted m hm .stored id sha' hstored'))
  have hbefore : m ∉ later' := fun hmem => hne (hsince m hmem sha hlists).symm
  rcases List.append_eq_append_iff.1 hsplit with ⟨extra, -, htail⟩ | ⟨extra, -, htail⟩
  · cases extra with
    | nil => exact absurd (List.cons.inj htail).1 hother
    | cons x extra =>
      obtain ⟨-, htail⟩ := List.cons.inj htail
      refine ⟨m', ?_, hstored'⟩
      rw [htail]
      exact List.mem_append_right _ List.mem_cons_self
  · cases extra with
    | nil => exact absurd (List.cons.inj htail).1.symm hother
    | cons x extra =>
      obtain ⟨-, htail⟩ := List.cons.inj htail
      refine absurd ?_ hbefore
      rw [htail]
      exact List.mem_append_right _ List.mem_cons_self

/-- One more record: what was shown, or is listed now, is still shown or has been stored. -/
theorem SoundUnless.append (h : SoundUnless units id sha shown)
    (hlisted : ReportsListed (units ++ [c]))
    (hc : ∀ sha', sha' ≠ sha → shown sha' ∨ c.Lists id sha' →
      shown' sha' ∨ StoredSince (units ++ [c]) id sha') :
    SoundUnless (units ++ [c]) id sha shown' := by
  obtain ⟨earlier, m, later, rfl, hstored, hlater⟩ := h
  have hunits : (earlier ++ m :: later) ++ [c] = earlier ++ m :: (later ++ [c]) := by simp
  rw [hunits] at hlisted hc ⊢
  have hend : ∀ sha', sha' ≠ sha → shown sha' ∨ c.Lists id sha' →
      (∃ k' ∈ later ++ [c], k'.Reports .stored id sha') ∨ shown' sha' := by
    intro sha' hne hnow
    rcases hc sha' hne hnow with hstill | hsince
    · exact .inr hstill
    · exact .inl (hsince.after hlisted hstored hne)
  refine ⟨earlier, m, later ++ [c], rfl, hstored, fun k hk sha' hlists hne => ?_⟩
  rcases List.mem_append.1 hk with hk | hk
  · rcases hlater k hk sha' hlists hne with ⟨k', hk', hreports⟩ | hshown
    · exact .inl ⟨k', List.mem_append_left _ hk', hreports⟩
    · exact hend sha' hne (.inl hshown)
  · rw [List.mem_singleton.1 hk] at hlists
    exact hend sha' hne (.inr hlists)

/-- One more record that lists the item under no other digest. -/
theorem SkipSound.append (h : SkipSound units id sha) (hlisted : ReportsListed (units ++ [c]))
    (hc : ∀ sha', c.Lists id sha' → sha' = sha) : SkipSound (units ++ [c]) id sha := by
  have hunless : SoundUnless units id sha (fun _ => False) := h.unless
  have hnext : SoundUnless (units ++ [c]) id sha (fun _ => False) := by
    refine hunless.append hlisted (fun sha' hne hnow => ?_)
    rcases hnow with hfalse | hlists
    · exact hfalse.elim
    · exact absurd (hc sha' hlists) hne
  exact hnext.skipSound (fun _ hfalse => hfalse.elim)

/-! ## The invariant of a steady run -/

/-- The head skips the item under this digest. -/
def CreatorScanState.Recalls (s : CreatorScanState p) (id sha : String) : Prop :=
  s.lane = .head ∧ ∃ boundary ∈ s.headBoundary, listedSha256 boundary id = some sha

/-- The first page of the history is open, and the item on it is still to be stored. -/
structure Unstored (s : CreatorScanState p) (x : ListingIdentity p) : Prop where
  lane : s.lane = .history
  first : s.pageCursor = ""
  awaits : s.Awaits x.id x.listingSha256

/-- What the memory holds of the item is still to be stored, or is sound but for the digest
that the open page shows. -/
def Remembered (units : List (CreatorScanCoverage p)) (s : CreatorScanState p)
    (x : ListingIdentity p) : Prop :=
  Unstored s x ∨ SoundUnless units x.id x.listingSha256 (s.Awaits x.id)

/-- A completed item has been stored as it is shown, or the head has skipped it. -/
def Completed (units : List (CreatorScanCoverage p)) (s : CreatorScanState p)
    (id sha : String) : Prop :=
  StoredSince units id sha ∨ s.Recalls id sha

structure Remembers (units : List (CreatorScanCoverage p)) (s : CreatorScanState p) : Prop where
  listed : ReportsListed units
  closes : ∀ c ∈ units, c.summary.pageComplete = true → c.nextState.witness = none
  completed : ∀ w ∈ s.witness, ∀ x ∈ w.identities, x.id ∈ s.completedIds →
    Completed units s x.id x.listingSha256
  memory : ∀ boundary ∈ s.headBoundary, ∀ x ∈ boundary, Remembered units s x

theorem exists_of_listedSha256 {identities : List (ListingIdentity p)}
    (h : listedSha256 identities id = some sha) :
    ∃ x ∈ identities, x.id = id ∧ x.listingSha256 = sha := by
  unfold listedSha256 at h
  obtain ⟨x, hx, hsha⟩ := Option.map_eq_some_iff.1 h
  exact ⟨x, List.mem_of_find?_eq_some hx, by simpa using List.find?_some hx, hsha⟩

variable {s : CreatorScanState p} {page : CreatorPage p} {i : CreatorIdentity p}

theorem lists_iff (hpage : c.page = some page) :
    c.Lists id sha ↔ listedSha256 page.witness.identities id = some sha := by
  constructor
  · rintro ⟨page', hpage', i, hi, rfl, rfl⟩
    obtain rfl : page = page' := Option.some.inj (hpage.symm.trans hpage')
    exact CreatorScanUnit.listedSha256_of_mem page.witness.valid.ids (List.mem_map_of_mem hi)
  · intro hlisted
    obtain ⟨x, hx, hid, hsha⟩ := exists_of_listedSha256 hlisted
    obtain ⟨i, hi, rfl⟩ := List.mem_map.1 hx
    exact ⟨page, hpage, i, hi, hid, hsha⟩

theorem recalls_of_known (hknown : s.known i = true) : s.Recalls i.id i.listingSha256 := by
  unfold CreatorScanState.known at hknown
  rw [Bool.and_eq_true, decide_eq_true_eq, decide_eq_true_eq] at hknown
  obtain ⟨hlane, hlisted⟩ := hknown
  refine ⟨hlane, ?_⟩
  cases hboundary : s.headBoundary with
  | none =>
    rw [hboundary] at hlisted
    cases hlisted
  | some boundary =>
    rw [hboundary] at hlisted
    exact ⟨boundary, rfl, hlisted⟩

/-- The memory holds an item once. -/
theorem CreatorScanState.Recalls.unique (h : s.Recalls id sha)
    {boundary : List (ListingIdentity p)} (hboundary : boundary ∈ s.headBoundary)
    {x : ListingIdentity p} (hx : x ∈ boundary) (hid : x.id = id) : x.listingSha256 = sha := by
  obtain ⟨-, boundary', hboundary', hlisted⟩ := h
  obtain rfl : boundary = boundary' := Option.some.inj (hboundary.symm.trans hboundary')
  have hx' := CreatorScanUnit.listedSha256_of_mem (s.valid.boundary boundary hboundary).2 hx
  rw [hid, hlisted] at hx'
  exact (Option.some.inj hx').symm

/-- On a steady record the items of the memory that were still to be stored are listed as they
were, but for those that may be skipped. -/
theorem CreatorScanCoverage.Steady.lists (h : c.Steady) (hinput : c.inputState = s)
    (hpage : c.page = some page) {boundary : List (ListingIdentity p)}
    (hboundary : boundary ∈ s.headBoundary) {x : ListingIdentity p} (hx : x ∈ boundary)
    (hawaits : s.Awaits x.id sha)
    (howed : s.lane = .history ∧ s.pageCursor = "" ∨ sha ≠ x.listingSha256) : c.Lists x.id sha := by
  subst hinput
  exact (lists_iff hpage).2 (h page hpage boundary hboundary x hx sha hawaits howed)

/-- An item that the head recalls as it is listed has been stored. -/
theorem Remembers.recalls (h : Remembers units s) (hinput : c.inputState = s) (hsteady : c.Steady)
    (hpage : c.page = some page) (hlists : c.Lists id sha) (hrecalls : s.Recalls id sha) :
    SkipSound units id sha := by
  obtain ⟨hlane, boundary, hboundary, hlisted⟩ := hrecalls
  obtain ⟨x, hx, rfl, rfl⟩ := exists_of_listedSha256 hlisted
  rcases h.memory boundary hboundary x hx with hunstored | hsound
  · rw [hunstored.lane] at hlane
    cases hlane
  · refine hsound.skipSound (fun sha' hawaits => ?_)
    by_contra hne
    exact hne (lists_unique hlists
      (hsteady.lists hinput hpage hboundary hx hawaits (.inr hne)))

theorem reportsListed_append (h : ReportsListed units)
    (hc : ∀ o ∈ c.outcomes, ∃ page ∈ c.page, o.identity ∈ page.identities) :
    ReportsListed (units ++ [c]) := by
  intro x hx status id sha hreports
  rcases List.mem_append.1 hx with hx | hx
  · exact h x hx status id sha hreports
  · rw [List.mem_singleton.1 hx] at hreports ⊢
    obtain ⟨o, ho, -, hid, hsha⟩ := hreports
    obtain ⟨page, hpage, hmem⟩ := hc o ho
    exact ⟨page, hpage, o.identity, hmem, hid, hsha⟩

theorem closes_append (h : ∀ c ∈ units, c.summary.pageComplete = true → c.nextState.witness = none)
    (hc : c.summary.pageComplete = true → c.nextState.witness = none) :
    ∀ x ∈ units ++ [c], x.summary.pageComplete = true → x.nextState.witness = none := by
  intro x hx
  rcases List.mem_append.1 hx with hx | hx
  · exact h x hx
  · rw [List.mem_singleton.1 hx]
    exact hc

theorem boundaryOn_head (h : s.lane = .head) : s.boundaryOn page = s.headBoundary := by
  unfold CreatorScanState.boundaryOn
  rw [if_neg]
  rintro ⟨hlane, -⟩
  rw [h] at hlane
  cases hlane

theorem mem_boundaryOn {boundary : List (ListingIdentity p)} (h : boundary ∈ s.boundaryOn page) :
    (s.lane = .history ∧ s.pageCursor = "" ∧ boundary = page.witness.identities) ∨
      boundary ∈ s.headBoundary := by
  unfold CreatorScanState.boundaryOn at h
  split at h
  · rename_i hfirst
    exact .inl ⟨hfirst.1, hfirst.2.1, (Option.some.inj h).symm⟩
  · exact .inr h

/-- A listing of the page, with the item that shows it. -/
theorem mem_witness {x : ListingIdentity p} (h : x ∈ page.witness.identities) :
    ∃ i ∈ page.identities, i.toListingIdentity = x :=
  List.mem_map.1 h

section Step

variable (h : Remembers units s) (hinput : c.inputState = s) (hsteady : c.Steady)

include h

theorem Remembers.restricted (hpage : c.page = none) (houtcomes : c.outcomes = [])
    (hopen : c.summary.pageComplete = false)
    (hfields : c.nextState.toCreatorScanFields =
      { s.toCreatorScanFields with lastUnit := some c.summary }) :
    Remembers (units ++ [c]) c.nextState := by
  have hlane : c.nextState.lane = s.lane := by rw [hfields]
  have hcursor : c.nextState.pageCursor = s.pageCursor := by rw [hfields]
  have hwitness : c.nextState.witness = s.witness := by rw [hfields]
  have hcompleted : c.nextState.completedIds = s.completedIds := by rw [hfields]
  have hboundary : c.nextState.headBoundary = s.headBoundary := by rw [hfields]
  have hawaits : ∀ {id sha}, c.nextState.Awaits id sha ↔ s.Awaits id sha := by
    intro id sha
    unfold CreatorScanState.Awaits
    rw [hwitness, hcompleted]
  have hlists : ∀ {id sha}, ¬ c.Lists id sha := by
    rintro id sha ⟨page, hsome, -⟩
    rw [hpage] at hsome
    cases hsome
  have hlisted : ReportsListed (units ++ [c]) :=
    reportsListed_append h.listed (fun o ho => by rw [houtcomes] at ho; cases ho)
  refine ⟨hlisted, closes_append h.closes (fun hc => by rw [hopen] at hc; cases hc), ?_, ?_⟩
  · intro w hw x hx hid
    rw [hwitness] at hw
    rw [hcompleted] at hid
    rcases h.completed w hw x hx hid with hstored | hrecalls
    · exact .inl (hstored.append (fun _ h' => absurd h' hlists))
    · refine .inr ?_
      unfold CreatorScanState.Recalls
      rw [hlane, hboundary]
      exact hrecalls
  · intro boundary hb x hx
    rw [hboundary] at hb
    rcases h.memory boundary hb x hx with hunstored | hsound
    · exact .inl ⟨hlane.trans hunstored.lane, hcursor.trans hunstored.first,
        hawaits.2 hunstored.awaits⟩
    · refine .inr (hsound.append hlisted (fun sha' _ hnow => .inl ?_))
      rcases hnow with hshown | hnow
      · exact hawaits.2 hshown
      · exact absurd hnow hlists

/-- What a record completes has been stored since it was listed so, or the head recalls it. -/
theorem Remembers.completedBy (hpage : c.page = some page) (hi : i ∈ page.identities)
    (hdone : CompletedBy s c.outcomes i)
    (houtcomes : ∀ o ∈ c.outcomes, o.status = .unchanged → s.known o.identity = true) :
    Completed (units ++ [c]) s i.id i.listingSha256 := by
  have hlists : c.Lists i.id i.listingSha256 := ⟨page, hpage, i, hi, rfl, rfl⟩
  rcases hdone with hkeeps | ⟨o, ho, rfl, hstatus | hstatus⟩
  · unfold CreatorScanState.keeps at hkeeps
    cases hwitness : s.witness with
    | none =>
      rw [hwitness] at hkeeps
      cases hkeeps
    | some w =>
      rw [hwitness] at hkeeps
      simp only [Bool.and_eq_true, decide_eq_true_eq] at hkeeps
      obtain ⟨x, hx, hid, hsha⟩ := exists_of_listedSha256 hkeeps.2
      rw [← hid, ← hsha] at hlists ⊢
      exact (h.completed w hwitness x hx (hid ▸ hkeeps.1)).imp_left
        (fun hstored => hstored.append (fun _ h' => lists_unique hlists h'))
  · exact .inl (storedSince_last ⟨o, ho, hstatus, rfl, rfl⟩)
  · exact .inr (recalls_of_known (houtcomes o ho hstatus))

include hinput hsteady

/-- The memory is carried over a listing: whatever the page shows of it is completed or still
awaited. -/
theorem Remembers.carried (hpage : c.page = some page) (hlisted : ReportsListed (units ++ [c]))
    {s' : CreatorScanState p}
    (hdone : ∀ i ∈ page.identities, Completed (units ++ [c]) s i.id i.listingSha256 ∨
      s'.Awaits i.id i.listingSha256)
    (hplace : ∀ {id sha}, s'.Awaits id sha → s'.lane = s.lane ∧ s'.pageCursor = s.pageCursor)
    {boundary : List (ListingIdentity p)} (hboundary : boundary ∈ s.headBoundary)
    {x : ListingIdentity p} (hx : x ∈ boundary) : Remembered (units ++ [c]) s' x := by
  rcases h.memory boundary hboundary x hx with hunstored | hsound
  · obtain ⟨page', hpage', i, hi, hid, hsha⟩ := hsteady.lists hinput hpage hboundary hx
      hunstored.awaits (.inl ⟨hunstored.lane, hunstored.first⟩)
    obtain rfl : page = page' := Option.some.inj (hpage.symm.trans hpage')
    have hnow := hdone i hi
    rw [hid, hsha] at hnow
    rcases hnow with (hstored | hrecalls) | hawaits
    · exact .inr hstored.skipSound.unless
    · cases hunstored.lane.symm.trans hrecalls.1
    · obtain ⟨hlane, hcursor⟩ := hplace hawaits
      exact .inl ⟨hlane.trans hunstored.lane, hcursor.trans hunstored.first, hawaits⟩
  · refine .inr (hsound.append hlisted (fun sha' hne hnow => ?_))
    have hlists : c.Lists x.id sha' := by
      rcases hnow with hawaits | hlists
      · exact hsteady.lists hinput hpage hboundary hx hawaits (.inr hne)
      · exact hlists
    obtain ⟨page', hpage', i, hi, hid, hsha⟩ := hlists
    obtain rfl : page = page' := Option.some.inj (hpage.symm.trans hpage')
    have hnow := hdone i hi
    rw [hid, hsha] at hnow
    rcases hnow with (hstored | hrecalls) | hawaits
    · exact .inr hstored
    · exact absurd (hrecalls.unique hboundary hx rfl).symm hne
    · exact .inl hawaits

theorem Remembers.stays (hpage : c.page = some page) (hcursor : page.inputCursor = s.pageCursor)
    (houtcomes : ∀ o ∈ c.outcomes, o.identity ∈ page.identities ∧
      (o.status = .unchanged → s.known o.identity = true))
    (hopen : c.summary.pageComplete = false) (hlane : c.nextState.lane = s.lane)
    (hwitness : c.nextState.witness = some page.witness)
    (hboundary : c.nextState.headBoundary = s.boundaryOn page)
    (hcompleted : ∀ id ∈ c.nextState.completedIds, ∃ i ∈ page.identities, i.id = id ∧
      CompletedBy s c.outcomes i) : Remembers (units ++ [c]) c.nextState := by
  have hlisted : ReportsListed (units ++ [c]) :=
    reportsListed_append h.listed (fun o ho => ⟨page, hpage, (houtcomes o ho).1⟩)
  have hsameCursor : c.nextState.pageCursor = s.pageCursor :=
    (c.nextState.valid.fits page.witness hwitness).1.symm.trans hcursor
  have hold : ∀ i ∈ page.identities, i.id ∈ c.nextState.completedIds →
      Completed (units ++ [c]) s i.id i.listingSha256 := by
    intro i hi hid
    obtain ⟨j, hj, hji, hdone⟩ := hcompleted i.id hid
    obtain rfl : j = i := List.inj_on_of_nodup_map (CreatorScanUnit.page_ids_nodup page) hj hi hji
    exact h.completedBy hpage hj hdone (fun o ho => (houtcomes o ho).2)
  have hdone : ∀ i ∈ page.identities, Completed (units ++ [c]) s i.id i.listingSha256 ∨
      c.nextState.Awaits i.id i.listingSha256 := by
    intro i hi
    by_cases hid : i.id ∈ c.nextState.completedIds
    · exact .inl (hold i hi hid)
    · exact .inr ⟨hid, page.witness, hwitness,
        (lists_iff hpage).1 ⟨page, hpage, i, hi, rfl, rfl⟩⟩
  refine ⟨hlisted, closes_append h.closes (fun hc => by rw [hopen] at hc; cases hc), ?_, ?_⟩
  · intro w hw x hx hid
    obtain rfl : page.witness = w := Option.some.inj (hwitness.symm.trans hw)
    obtain ⟨i, hi, rfl⟩ := mem_witness hx
    refine (hold i hi hid).imp_right (fun hrecalls => ?_)
    obtain ⟨hhead, boundary, hb, hsha⟩ := hrecalls
    refine ⟨hlane.trans hhead, boundary, ?_, hsha⟩
    rw [hboundary, boundaryOn_head hhead]
    exact hb
  · intro boundary hb x hx
    rw [hboundary] at hb
    rcases mem_boundaryOn hb with ⟨hhistory, hfirst, rfl⟩ | hb
    · obtain ⟨i, hi, rfl⟩ := mem_witness hx
      rcases hdone i hi with (hstored | hrecalls) | hawaits
      · exact .inr hstored.skipSound.unless
      · cases hhistory.symm.trans hrecalls.1
      · exact .inl ⟨hlane.trans hhistory, hsameCursor.trans hfirst, hawaits⟩
    · exact h.carried hinput hsteady hpage hlisted hdone (fun _ => ⟨hlane, hsameCursor⟩) hb hx

theorem Remembers.leaves (hpage : c.page = some page)
    (houtcomes : ∀ o ∈ c.outcomes, o.identity ∈ page.identities ∧
      (o.status = .unchanged → s.known o.identity = true))
    (hwitness : c.nextState.witness = none)
    (hboundary : c.nextState.headBoundary =
      (if s.lane = .head then some page.witness.identities else s.boundaryOn page))
    (hall : ∀ i ∈ page.identities, CompletedBy s c.outcomes i) :
    Remembers (units ++ [c]) c.nextState := by
  have hlisted : ReportsListed (units ++ [c]) :=
    reportsListed_append h.listed (fun o ho => ⟨page, hpage, (houtcomes o ho).1⟩)
  have hblank : ∀ {id sha}, ¬ c.nextState.Awaits id sha := by
    rintro id sha ⟨-, w, hw, -⟩
    rw [hwitness] at hw
    cases hw
  have hdone : ∀ i ∈ page.identities, Completed (units ++ [c]) s i.id i.listingSha256 :=
    fun i hi => h.completedBy hpage hi (hall i hi) (fun o ho => (houtcomes o ho).2)
  have hnew : ∀ x ∈ page.witness.identities, Remembered (units ++ [c]) c.nextState x := by
    intro x hx
    obtain ⟨i, hi, rfl⟩ := mem_witness hx
    have hlists : c.Lists i.id i.listingSha256 := ⟨page, hpage, i, hi, rfl, rfl⟩
    rcases hdone i hi with hstored | hrecalls
    · exact .inr hstored.skipSound.unless
    · have hsound := h.recalls hinput hsteady hpage hlists hrecalls
      exact .inr (hsound.append hlisted (fun _ hlists' => lists_unique hlists hlists')).unless
  refine ⟨hlisted, closes_append h.closes (fun _ => hwitness), ?_, ?_⟩
  · intro w hw
    rw [hwitness] at hw
    cases hw
  · intro boundary hb x hx
    rw [hboundary] at hb
    split at hb
    · obtain rfl := Option.some.inj hb
      exact hnew x hx
    · rcases mem_boundaryOn hb with ⟨-, -, rfl⟩ | hb
      · exact hnew x hx
      · exact h.carried hinput hsteady hpage hlisted (fun i hi => .inl (hdone i hi))
          (fun hawaits => absurd hawaits hblank) hb hx

theorem Remembers.unit (hrecord : AcceptedRecord s c) :
    Remembers (units ++ [c]) c.nextState ∧
      ∀ id sha, c.Reports .unchanged id sha → SkipSound units id sha := by
  have hskips : ∀ page, c.page = some page →
      (∀ o ∈ c.outcomes, o.identity ∈ page.identities ∧
        (o.status = .unchanged → s.known o.identity = true)) →
      ∀ id sha, c.Reports .unchanged id sha → SkipSound units id sha := by
    rintro page hpage houtcomes id sha ⟨o, ho, hstatus, rfl, rfl⟩
    obtain ⟨hi, hknown⟩ := houtcomes o ho
    exact h.recalls hinput hsteady hpage ⟨page, hpage, o.identity, hi, rfl, rfl⟩
      (recalls_of_known (hknown hstatus))
  cases hrecord with
  | restricted hpage houtcomes hopen hfields =>
    refine ⟨h.restricted hpage houtcomes hopen hfields, ?_⟩
    rintro id sha ⟨o, ho, -⟩
    rw [houtcomes] at ho
    cases ho
  | stays page hpage hcursor _ houtcomes hopen hlane hwitness hboundary hcompleted =>
    exact ⟨h.stays hinput hsteady hpage hcursor houtcomes hopen hlane hwitness hboundary
      hcompleted, hskips page hpage houtcomes⟩
  | leaves page hpage _ _ houtcomes _ _ hwitness hboundary hall =>
    exact ⟨h.leaves hinput hsteady hpage houtcomes hwitness hboundary hall,
      hskips page hpage houtcomes⟩

end Step

theorem remembers_initial (binding : CreatorBinding) :
    Remembers [] (CreatorScanState.initial p binding) :=
  ⟨fun _ hc => (List.not_mem_nil hc).elim, fun _ hc => (List.not_mem_nil hc).elim, nofun, nofun⟩

/-- Starting over at the head keeps the memory and nothing else. -/
theorem Remembers.forHead {s' : CreatorScanState p} (h : Remembers (units ++ [c]) c.nextState)
    (hcomplete : c.summary.pageComplete = true) (hhead : c.nextState.forHead = .ok s') :
    Remembers (units ++ [c]) s' := by
  have hclosed := h.closes c (List.mem_append_right _ (List.mem_singleton.2 rfl)) hcomplete
  have hblank : ∀ {id sha}, ¬ c.nextState.Awaits id sha := by
    rintro id sha ⟨-, w, hw, -⟩
    rw [hclosed] at hw
    cases hw
  unfold CreatorScanState.forHead at hhead
  split_ifs at hhead
  unfold CreatorScanState.make at hhead
  split_ifs at hhead
  obtain rfl := Except.ok.inj hhead
  refine ⟨h.listed, h.closes, (fun _ hw => by cases hw), fun boundary hb x hx => ?_⟩
  rcases h.memory boundary hb x hx with hunstored | hsound
  · exact absurd hunstored.awaits hblank
  · exact .inr (hsound.skipSound (fun _ hawaits => absurd hawaits hblank)).unless

/-- A split of a list with one more element is at the element or before it. -/
theorem snoc_eq_split {α : Type} {xs before after : List α} {x y : α}
    (h : xs ++ [x] = before ++ y :: after) :
    (before = xs ∧ y = x) ∨ ∃ after', xs = before ++ y :: after' := by
  rcases List.eq_nil_or_concat after with rfl | ⟨after', z, rfl⟩
  · obtain ⟨hxs, hx⟩ := List.append_inj' h rfl
    exact .inl ⟨hxs.symm, (List.cons.inj hx).1.symm⟩
  · rw [List.concat_eq_append, ← List.cons_append, ← List.append_assoc] at h
    exact .inr ⟨after', (List.append_inj' h rfl).1⟩

/-- The state that a steady run leads to remembers only what the run has stored, and so did
the state before each of its records. -/
theorem UnitRun.remembers {binding : CreatorBinding} (h : UnitRun binding units s)
    (hsteady : ∀ c ∈ units, c.Steady) :
    Remembers units s ∧ ∀ before c after, units = before ++ c :: after →
      ∀ id sha, c.Reports .unchanged id sha → SkipSound before id sha := by
  induction h with
  | initial => exact ⟨remembers_initial binding, fun before c after hsplit => by simp at hsplit⟩
  | @unit units s c maxItems _ hvalid ih =>
    obtain ⟨hinput, hrecord⟩ := acceptedRecord_of_validate hvalid
    have hlast := hsteady c (List.mem_append_right _ (List.mem_singleton.2 rfl))
    have hbefore := ih (fun x hx => hsteady x (List.mem_append_left _ hx))
    obtain ⟨hnext, hskips⟩ := hbefore.1.unit hinput hlast hrecord
    refine ⟨hnext, fun before c after hsplit => ?_⟩
    rcases snoc_eq_split hsplit with ⟨rfl, rfl⟩ | ⟨after', hearlier⟩
    · exact hskips
    · exact hbefore.2 before c after' hearlier
  | head _ hmay hhead ih =>
    exact ⟨(ih hsteady).1.forHead hmay.1 hhead, (ih hsteady).2⟩

theorem skip_unchanged_sound {binding : CreatorBinding} (h : UnitRun binding units s)
    (hsteady : ∀ c ∈ units, c.Steady) {before after : List (CreatorScanCoverage p)}
    (hsplit : units = before ++ c :: after) (hskip : c.Reports .unchanged id sha) :
    SkipSound before id sha :=
  (h.remembers hsteady).2 before c after hsplit id sha hskip

def changedSha256 : String := "486ea46224d1bb4fb680f34f7c9ad96a8f24ec88be73ea8e5a6c65260e9cb8a7"

/-- A list of one item, which may have changed. -/
def onlyItem (p : CreatorPlatform) (changed : Bool) : CreatorIdentity p :=
  ⟨⟨sampleId p 0, if changed then changedSha256 else sampleSha256,
    by cases p <;> cases changed <;> decide⟩, sampleToken p⟩

def onlyPage (p : CreatorPlatform) (changed : Bool) : CreatorPage p :=
  ⟨"", "c1", false, [onlyItem p changed], by cases p <;> cases changed <;> decide⟩

/-- The accepted record of a unit that lists the page. -/
def recordOf (s : CreatorScanState p) (page : CreatorPage p) (detail : DetailAnswer) :
    Except ScanError (CreatorScanCoverage p) := do
  let u := CreatorScanUnit.fresh s 30
  let u ← CreatorScanUnit.drive (.page page) (fun _ => detail) u.turns u
  let c ← u.coverage
  c.validate s 30
  .ok c

/-- Two units of the history and one of the head: the detail cannot be had at first, is then
stored, and the item is listed once more as it was. -/
def threeRecords (p : CreatorPlatform) (changed : Bool) :
    Except ScanError (CreatorScanCoverage p × CreatorScanCoverage p × CreatorScanCoverage p) := do
  let first ← recordOf (.initial p sampleBinding) (onlyPage p false) .unavailable
  let second ← recordOf first.nextState (onlyPage p changed) .stored
  let s ← second.nextState.forHead
  let third ← recordOf s (onlyPage p false) .stored
  .ok (first, second, third)

theorem UnitRun.recordOf {binding : CreatorBinding} {page : CreatorPage p} {detail : DetailAnswer}
    (h : UnitRun binding units s) (hrecord : MediaSync.Scan.recordOf s page detail = .ok c) :
    UnitRun binding (units ++ [c]) c.nextState := by
  obtain ⟨u, -, hrest⟩ := bind_ok hrecord
  obtain ⟨c', -, hrest⟩ := bind_ok hrest
  obtain ⟨_, hvalid, hc⟩ := bind_ok hrest
  obtain rfl := Except.ok.inj hc
  exact h.unit 30 hvalid

theorem UnitRun.threeRecords {changed : Bool} {a b c : CreatorScanCoverage p}
    (h : MediaSync.Scan.threeRecords p changed = .ok (a, b, c)) (hmay : b.MayHead) :
    UnitRun sampleBinding [a, b, c] c.nextState := by
  obtain ⟨a', ha, hrest⟩ := bind_ok h
  obtain ⟨b', hb, hrest⟩ := bind_ok hrest
  obtain ⟨s', hs, hrest⟩ := bind_ok hrest
  obtain ⟨c', hc, hrest⟩ := bind_ok hrest
  cases hrest
  exact (((UnitRun.initial.recordOf ha).recordOf hb).head hmay hs).recordOf hc

instance : DecidablePred (CreatorScanCoverage.MayHead (p := p)) :=
  fun _ => inferInstanceAs (Decidable (_ ∧ _))

/-- What the three records say. -/
def Threefold (changed : Bool)
    (r : CreatorScanCoverage p × CreatorScanCoverage p × CreatorScanCoverage p) : Prop :=
  r.2.1.MayHead ∧ r.2.1.page = some (onlyPage p changed) ∧
  r.2.1.inputState.witness = some (onlyPage p false).witness ∧
  r.1.inputState.witness = none ∧ r.2.2.inputState.witness = none ∧
  r.1.outcomes = [⟨onlyItem p false, .detailUnavailable⟩] ∧
  r.2.1.outcomes = [⟨onlyItem p changed, .stored⟩] ∧
  r.2.2.outcomes = [⟨onlyItem p false, .unchanged⟩]

instance (changed : Bool) : DecidablePred (Threefold (p := p) changed) :=
  fun r => by unfold Threefold; infer_instance

theorem threeRecords_threefold (p : CreatorPlatform) (changed : Bool) :
    ∃ a b c, threeRecords p changed = .ok (a, b, c) ∧ Threefold changed (a, b, c) := by
  have hsays : (threeRecords p changed).toOption.any
      (fun r => decide (Threefold changed r)) = true := by
    cases p <;> cases changed <;> decide +kernel
  cases hrecords : threeRecords p changed with
  | error e =>
    rw [hrecords] at hsays
    cases hsays
  | ok r =>
    rw [hrecords] at hsays
    exact ⟨r.1, r.2.1, r.2.2, rfl, of_decide_eq_true hsays⟩

theorem reports_single {o : CreatorOutcome p} (h : c.outcomes = [o]) {status : CreatorStatus} :
    c.Reports status id sha ↔
      o.status = status ∧ o.identity.id = id ∧ o.identity.listingSha256 = sha := by
  unfold CreatorScanCoverage.Reports
  rw [h]
  simp

/-- The head skips the item that the history has stored as it is listed. -/
theorem skip_unchanged_sound_sample :
    ∃ a b c : CreatorScanCoverage .xhs, UnitRun sampleBinding [a, b, c] c.nextState ∧
      c.Reports .unchanged (sampleId .xhs 0) sampleSha256 ∧
      SkipSound [a, b] (sampleId .xhs 0) sampleSha256 := by
  obtain ⟨a, b, c, hrecords, hmay, hb, hopen, hfirst, hclosed, -, -, hc⟩ :=
    threeRecords_threefold .xhs false
  have hrun := UnitRun.threeRecords hrecords hmay
  have hskip : c.Reports .unchanged (sampleId .xhs 0) sampleSha256 :=
    (reports_single hc).2 ⟨rfl, rfl, rfl⟩
  have hsteady : ∀ m ∈ [a, b, c], m.Steady := by
    rintro m hm page hpage boundary - x - sha ⟨-, w, hw, hlisted⟩ -
    rcases List.mem_cons.1 hm with rfl | hm
    · cases hfirst.symm.trans hw
    · rcases List.mem_pair.1 hm with rfl | rfl
      · obtain rfl := Option.some.inj (hb.symm.trans hpage)
        obtain rfl := Option.some.inj (hopen.symm.trans hw)
        exact hlisted
      · cases hclosed.symm.trans hw
  have hsplit : [a, b, c] = [a, b] ++ c :: [] := rfl
  exact ⟨a, b, c, hrun, hskip, skip_unchanged_sound hrun hsteady hsplit hskip⟩

/-- The history remembers the digest that its first page was first listed with, and stores
the item under another: the head skips the first digest, which nobody has stored. -/
theorem skip_of_never_stored :
    (∃ (a b c : CreatorScanCoverage .xhs) (id sha : String),
      UnitRun sampleBinding [a, b, c] c.nextState ∧ c.Reports .unchanged id sha ∧
      (∀ m ∈ [a, b], ¬ m.Reports .stored id sha)) ∧
    ∃ (a b c : CreatorScanCoverage .douyin) (id sha : String),
      UnitRun sampleBinding [a, b, c] c.nextState ∧ c.Reports .unchanged id sha ∧
      (∀ m ∈ [a, b], ¬ m.Reports .stored id sha) := by
  have skipped (p : CreatorPlatform) : ∃ (a b c : CreatorScanCoverage p) (id sha : String),
      UnitRun sampleBinding [a, b, c] c.nextState ∧ c.Reports .unchanged id sha ∧
      (∀ m ∈ [a, b], ¬ m.Reports .stored id sha) := by
    obtain ⟨a, b, c, hrecords, hmay, -, -, -, -, ha, hb, hc⟩ := threeRecords_threefold p true
    refine ⟨a, b, c, _, _, .threeRecords hrecords hmay,
      (reports_single hc).2 ⟨rfl, rfl, rfl⟩, fun m hm hstored => ?_⟩
    rcases List.mem_pair.1 hm with rfl | rfl
    · cases ((reports_single ha).1 hstored).1
    · have hsame : changedSha256 = sampleSha256 := ((reports_single hb).1 hstored).2.2
      revert hsame
      decide
  exact ⟨skipped .xhs, skipped .douyin⟩

end MediaSync.Scan
