import MediaSync.Scan.BiliFeedsCodec

/-!
# The records that Bili units make

A unit of the uploads or of the dynamics, after any calls that it accepted,
keeps its binding and the bounds that the readers of its record check.
-/

namespace MediaSync.Scan

open JsonText

namespace BiliScanUnit

/-- The units that accepted calls lead to from a state, in any order. -/
inductive Reached (s : BiliScanState) : BiliScanUnit → Prop
  | new {maxItems : Nat} {u : BiliScanUnit} : new s maxItems = .ok u → Reached s u
  | act {u v : BiliScanUnit} {a : BiliScanAction} :
      Reached s u → u.nextAction = .ok (a, v) → Reached s v
  | observe {u v : BiliScanUnit} {page : BiliPage} :
      Reached s u → u.observePage page = .ok v → Reached s v
  | consume {u v : BiliScanUnit} {x : BiliIdentity} :
      Reached s u → u.consume x = .ok v → Reached s v

/-- What no call changes: the state the unit began with, and its binding. -/
structure Bound (u v : BiliScanUnit) : Prop where
  input : v.inputState = u.inputState
  binding : v.state.binding = u.state.binding

theorem Bound.trans {u v w : BiliScanUnit} (h : Bound u v) (k : Bound v w) : Bound u w :=
  ⟨k.input.trans h.input, k.binding.trans h.binding⟩

theorem nextAction_bound {u v : BiliScanUnit} {a : BiliScanAction}
    (h : u.nextAction = .ok (a, v)) : Bound u v :=
  have hasks := asks_of_nextAction h
  ⟨hasks.frame.2.2, hasks.untouched.binding⟩

theorem observePage_bound {u v : BiliScanUnit} {page : BiliPage}
    (h : u.observePage page = .ok v) : Bound u v := by
  obtain ⟨⟨a, w⟩, hnext, h⟩ := bind_ok h
  refine (nextAction_bound hnext).trans ?_
  dsimp only at h
  split at h
  · have hobserves := observed_observes h
    exact ⟨hobserves.frame.2.2.2.2, hobserves.untouched.binding⟩
  · cases h

theorem consume_bound {u v : BiliScanUnit} {x : BiliIdentity} (h : u.consume x = .ok v) :
    Bound u v := by
  obtain ⟨⟨a, w⟩, hnext, h⟩ := bind_ok h
  refine (nextAction_bound hnext).trans ?_
  dsimp only at h
  split at h
  · exact ⟨(consumeNext_consumes h).inputState, (consumeNext_untouched h).binding⟩
  · cases h

theorem Reached.bound {s : BiliScanState} {u : BiliScanUnit} (h : Reached s u) :
    u.inputState = s ∧ u.state.binding = s.binding := by
  have step {u v : BiliScanUnit} (ih : u.inputState = s ∧ u.state.binding = s.binding)
      (h : Bound u v) : v.inputState = s ∧ v.state.binding = s.binding :=
    ⟨h.input.trans ih.1, h.binding.trans ih.2⟩
  induction h with
  | new h =>
    unfold BiliScanUnit.new at h
    split at h
    · cases h
      exact ⟨rfl, rfl⟩
    · cases h
  | act _ h ih => exact step ih (nextAction_bound h)
  | observe _ h ih => exact step ih (observePage_bound h)
  | consume _ h ih => exact step ih (consume_bound h)

/-- The record of a unit keeps the bounds of its reader. -/
theorem coverage_bounded {s : BiliScanState} {u : BiliScanUnit} {c : BiliScanCoverage}
    (hs : s.binding.Valid) (hu : Reached s u) (h : u.coverage = .ok c) :
    c.Bounded ∧ c.inputState = s := by
  obtain ⟨⟨a, v⟩, hnext, h⟩ := bind_ok h
  obtain ⟨hinput, hbinding⟩ := (Reached.act hu hnext).bound
  dsimp only at h
  split at h
  · split at h
    · rename_i hvalid
      cases h
      exact ⟨⟨hinput.symm ▸ hs, hbinding.symm ▸ hs, hvalid.items, hvalid.lists⟩, hinput⟩
    · cases h
  · cases h

end BiliScanUnit

theorem MultiFeedState.uploads_of_make {uploads : BiliScanState} {scope : BiliScope}
    {nextFeed : BiliFeedName} {dynamics : DynamicState} {s : MultiFeedState}
    (h : make uploads scope nextFeed dynamics = .ok s) : s.uploads = uploads := by
  by_cases hvalid : scope.allows nextFeed = true
  · rw [make, dif_pos hvalid] at h
    cases h
    rfl
  · rw [make, dif_neg hvalid] at h
    cases h

namespace DynamicUnit

open BiliScanUnit (bind_ok)

variable {sha256 : String → String}

/-- The units that accepted calls lead to from a state, in any order. -/
inductive Reached (sha256 : String → String) (s : MultiFeedState) : DynamicUnit → Prop
  | new {maxItems : Nat} {u : DynamicUnit} : new s maxItems = .ok u → Reached sha256 s u
  | act {u v : DynamicUnit} {a : DynamicAction} :
      Reached sha256 s u → u.nextAction sha256 = .ok (a, v) → Reached sha256 s v
  | observe {u v : DynamicUnit} {page : DynamicPage} :
      Reached sha256 s u → u.observePage sha256 page = .ok v → Reached sha256 s v
  | consume {u v : DynamicUnit} {x : DynamicIdentity} {y : Option BiliIdentity} :
      Reached sha256 s u → u.consume sha256 x y = .ok v → Reached sha256 s v

/-- What no call changes: the state the unit began with, its uploads, and the limit. -/
structure Bound (u v : DynamicUnit) : Prop where
  input : v.inputState = u.inputState
  uploads : v.state.uploads = u.state.uploads
  limit : v.limit = u.limit

theorem Bound.refl (u : DynamicUnit) : Bound u u := ⟨rfl, rfl, rfl⟩

theorem Bound.trans {u v w : DynamicUnit} (h : Bound u v) (k : Bound v w) : Bound u w :=
  ⟨k.input.trans h.input, k.uploads.trans h.uploads, k.limit.trans h.limit⟩

theorem setLane_bound (u : DynamicUnit) (lane : DynamicLane) :
    Bound u (u.setLane lane) ∧ (u.setLane lane).consumed = u.consumed := by
  unfold setLane
  cases u.lane <;> exact ⟨⟨rfl, rfl, rfl⟩, rfl⟩

theorem left_bound (u : DynamicUnit) (lane : DynamicLane) (reason : DynamicReason) :
    Bound u ((u.setLane lane).stopped reason) ∧
      ((u.setLane lane).stopped reason).consumed = u.consumed :=
  have h := setLane_bound u lane
  ⟨⟨h.1.input, h.1.uploads, h.1.limit⟩, h.2⟩

theorem leavePage_bound {u v : DynamicUnit} {ref : DynamicRef}
    (h : u.leavePage sha256 ref = .ok v) : Bound u v ∧ v.consumed = u.consumed := by
  unfold leavePage at h
  split at h
  · cases h
    exact left_bound u .start _
  · split at h
    · cases h
      exact left_bound u .start _
    · obtain ⟨lane, -, h⟩ := bind_ok h
      cases h
      exact left_bound u lane _

/-- An action changes nothing that is bound, and a detail is asked for only
where the limit has room for its cost. -/
theorem nextAction_bound {u v : DynamicUnit} {a : DynamicAction}
    (h : u.nextAction sha256 = .ok (a, v)) :
    Bound u v ∧ v.consumed = u.consumed ∧
      ∀ x, a = .detail x → v.spent + (if isVideo x then 2 else 1) ≤ v.limit := by
  unfold nextAction at h
  split at h
  · cases h
    exact ⟨.refl u, rfl, nofun⟩
  · split at h
    · cases h
      exact ⟨.refl u, rfl, nofun⟩
    · cases h
      exact ⟨.refl u, rfl, nofun⟩
    · split at h
      · obtain ⟨w, hleave, h⟩ := bind_ok h
        cases h
        exact ⟨(leavePage_bound hleave).1, (leavePage_bound hleave).2, nofun⟩
      · split at h
        · cases h
        · rename_i identity _
          by_cases hroom : u.limit < u.spent + (if isVideo identity then 2 else 1)
          · rw [if_pos hroom] at h
            cases h
            exact ⟨⟨rfl, rfl, rfl⟩, rfl, nofun⟩
          · rw [if_neg hroom] at h
            cases h
            refine ⟨.refl u, rfl, ?_⟩
            intro x hx
            cases hx
            exact Nat.not_lt.1 hroom

theorem observePage_bound {u v : DynamicUnit} {page : DynamicPage}
    (h : u.observePage sha256 page = .ok v) : Bound u v ∧ v.consumed = u.consumed := by
  obtain ⟨⟨a, w⟩, hnext, h⟩ := bind_ok h
  obtain ⟨hbound, hconsumed, -⟩ := nextAction_bound hnext
  have through (h : Bound w v ∧ v.consumed = w.consumed) :
      Bound u v ∧ v.consumed = u.consumed :=
    ⟨hbound.trans h.1, h.2.trans hconsumed⟩
  refine through ?_
  dsimp only at h
  split at h
  · split at h
    · obtain ⟨lane, -, h⟩ := bind_ok h
      cases h
      have hlane := setLane_bound w lane
      exact ⟨⟨hlane.1.input, hlane.1.uploads, hlane.1.limit⟩, hlane.2⟩
    · cases h
  · split at h
    · cases h
      exact ⟨⟨rfl, rfl, rfl⟩, rfl⟩
    · cases h
  · cases h

theorem spent_append (u : DynamicUnit) (c : DynamicConsumption) :
    ((u.consumed ++ [c]).map DynamicConsumption.cost).sum = u.spent + c.cost := by
  simp [spent]

/-- A consumption adds its cost, and keeps within the limit. -/
theorem consume_bound {u v : DynamicUnit} {x : DynamicIdentity} {y : Option BiliIdentity}
    (h : u.consume sha256 x y = .ok v) : Bound u v ∧ v.spent ≤ v.limit := by
  obtain ⟨⟨a, w⟩, hnext, h⟩ := bind_ok h
  obtain ⟨hbound, -, hroom⟩ := nextAction_bound hnext
  dsimp only at h
  split at h
  · rename_i hdetail
    unfold consumeNext at h
    split at h
    · rename_i hvalid
      split at h
      · cases h
      · obtain ⟨lane, -, h⟩ := bind_ok h
        cases h
        have hlane := setLane_bound
          { w with consumed := w.consumed ++ [DynamicConsumption.mk x y hvalid] } lane
        have hcost : (DynamicConsumption.mk x y hvalid).cost = if isVideo x then 2 else 1 := by
          rw [DynamicConsumption.cost, hvalid.video]
        refine ⟨hbound.trans ⟨hlane.1.input, hlane.1.uploads, hlane.1.limit⟩, ?_⟩
        rw [spent, hlane.2, hlane.1.limit, spent_append, hcost]
        exact hroom x hdetail
    · cases h
  · cases h

/-- What a unit keeps, whatever it was asked to do. -/
structure Within (s : MultiFeedState) (u : DynamicUnit) : Prop where
  input : u.inputState = s
  uploads : u.state.uploads = s.uploads
  limit : u.limit ≤ biliDynamicPageSize
  spent : u.spent ≤ u.limit

theorem Within.step {s : MultiFeedState} {u v : DynamicUnit} (h : Within s u) (hbound : Bound u v)
    (hspent : v.spent ≤ v.limit) : Within s v :=
  ⟨hbound.input.trans h.input, hbound.uploads.trans h.uploads, hbound.limit ▸ h.limit, hspent⟩

theorem Within.same {s : MultiFeedState} {u v : DynamicUnit} (h : Within s u) (hbound : Bound u v)
    (hconsumed : v.consumed = u.consumed) : Within s v :=
  h.step hbound (by rw [DynamicUnit.spent, hconsumed, hbound.limit]; exact h.spent)

theorem Reached.within {s : MultiFeedState} {u : DynamicUnit} (h : Reached sha256 s u) :
    Within s u := by
  induction h with
  | new h =>
    unfold DynamicUnit.new at h
    split at h
    · cases h
      exact ⟨rfl, rfl, Nat.min_le_right _ _, Nat.zero_le _⟩
    · cases h
  | act _ h ih => exact ih.same (nextAction_bound h).1 (nextAction_bound h).2.1
  | observe _ h ih => exact ih.same (observePage_bound h).1 (observePage_bound h).2
  | consume _ h ih => exact ih.step (consume_bound h).1 (consume_bound h).2

/-- Every item costs something. -/
theorem length_le_spent (u : DynamicUnit) : u.consumed.length ≤ u.spent := by
  unfold spent
  induction u.consumed with
  | nil => exact Nat.zero_le _
  | cons c rest ih =>
    have hcost : 1 ≤ c.cost := by
      unfold DynamicConsumption.cost
      split <;> omega
    rw [List.map_cons, List.sum_cons, List.length_cons]
    omega

theorem coverage_bounded {s : MultiFeedState} {u : DynamicUnit} {c : MultiFeedCoverage}
    (hs : s.uploads.binding.Valid) (hu : Reached sha256 s u) (h : u.coverage sha256 = .ok c) :
    c.Bounded ∧ c.inputState = s := by
  obtain ⟨⟨a, v⟩, hnext, h⟩ := bind_ok h
  have hwithin := (Reached.act hu hnext).within
  have hconsumed := (length_le_spent v).trans (hwithin.spent.trans hwithin.limit)
  dsimp only at h
  split at h
  · obtain ⟨nextState, hmake, h⟩ := bind_ok h
    have huploads := (MultiFeedState.uploads_of_make hmake).trans hwithin.uploads
    have hinput : v.inputState.uploads.binding.Valid := by
      rw [hwithin.input]
      exact hs
    have hnext : nextState.uploads.binding.Valid := by
      rw [huploads]
      exact hs
    rw [Except.ok.injEq] at h
    subst h
    refine ⟨⟨hinput, hnext, ?_, hconsumed⟩, hwithin.input⟩
    intro u hu
    exact absurd hu (Option.not_mem_none u)
  · cases h

theorem coverage_feed {u : DynamicUnit} {c : MultiFeedCoverage} (h : u.coverage sha256 = .ok c) :
    c.feed = .dynamics := by
  obtain ⟨⟨a, v⟩, -, h⟩ := bind_ok h
  dsimp only at h
  split at h
  · obtain ⟨nextState, -, h⟩ := bind_ok h
    cases h
    rfl
  · cases h

end DynamicUnit

theorem wrapUploadCoverage_uploads {s : MultiFeedState} {coverage : BiliScanCoverage}
    {c : MultiFeedCoverage} (h : wrapUploadCoverage s coverage = .ok c) :
    c.uploads = some coverage := by
  unfold wrapUploadCoverage at h
  split at h
  · obtain ⟨nextState, -, h⟩ := BiliScanUnit.bind_ok h
    cases h
    rfl
  · cases h

/-- An upload unit's record in the record of both feeds. -/
theorem wrapUploadCoverage_bounded {s : MultiFeedState} {coverage : BiliScanCoverage}
    {c : MultiFeedCoverage} (hs : s.uploads.binding.Valid) (hcoverage : coverage.Bounded)
    (h : wrapUploadCoverage s coverage = .ok c) : c.Bounded ∧ c.inputState = s := by
  unfold wrapUploadCoverage at h
  split at h
  · obtain ⟨nextState, hmake, h⟩ := BiliScanUnit.bind_ok h
    have huploads := MultiFeedState.uploads_of_make hmake
    cases h
    refine ⟨⟨hs, huploads.symm ▸ hcoverage.next, ?_, Nat.zero_le _⟩, rfl⟩
    rintro u hu
    cases hu
    exact hcoverage
  · cases h

end MediaSync.Scan
