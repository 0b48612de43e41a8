import MediaSync.Ingestion.Checkpoints

/-!
# Checkpoint histories

The watermark columns of a row are one value of the watermark semilattice, a
publication is one more, and an accepted publication joins the two. Over any
history the row is therefore the join of what it began with and of everything
accepted for it since, in whatever order that came. The stored list is the
sorted set as soon as one accepted publication has reached the row's instant.
-/

namespace MediaSync.Ingestion

open Python Transaction Transition

/-- A nullable timestamp column; without one, everything is newer. -/
def instantOf : Option Time → WithBot Time
  | none => ⊥
  | some time => WithBot.some time

theorem instantOf_injective : Function.Injective instantOf := by
  intro a b h
  cases a with
  | none =>
    cases b with
    | none => rfl
    | some b => exact absurd h.symm WithBot.coe_ne_bot
  | some a =>
    cases b with
    | none => exact absurd h WithBot.coe_ne_bot
    | some b => exact congrArg some (WithBot.coe_inj.1 h)

/-- The watermark that the columns of a row stand for. -/
def Subscription.mark (x : Subscription) : Watermark Time String where
  instant := instantOf x.watermarkedAt
  ids := x.watermarkRemoteIds.toFinset

/-- The watermark that a publication brings. -/
def Checkpoint.mark (c : Checkpoint) : Watermark Time String where
  instant := instantOf c.watermark
  ids := c.remoteIds.toFinset

theorem toFinset_sortedIds (ids : List String) : (sortedIds ids).toFinset = ids.toFinset := by
  unfold sortedIds sortIds
  exact Finset.sort_toFinset _ _

theorem check_ok {holds : Bool} {message : String} {a : Unit} (h : check holds message = .ok a) :
    holds = true := by
  unfold check at h
  split at h
  · assumption
  · cases h

theorem awareUtc?_none {value : Option Datetime} (h : awareUtc? value = .ok none) :
    value = none := by
  cases value with
  | none => rfl
  | some value =>
    change (awareUtc value).map some = _ at h
    cases htime : awareUtc value with
    | error e =>
      rw [htime] at h
      cases h
    | ok time =>
      rw [htime] at h
      cases h

/-- What the checks leave: a sorted set, and an empty one without an instant. -/
structure Checkpoint.Normal (c : Checkpoint) : Prop where
  sorted : c.remoteIds = c.mark.ids.sort
  empty : c.watermark = none → c.mark.ids = ∅

theorem normalize_normal {json : Json → Json} {r : CheckpointRequest} {c : Checkpoint}
    (h : normalize json r = .ok c) : c.Normal := by
  obtain ⟨_, _, h⟩ := except_bind_ok h
  obtain ⟨_, hids, h⟩ := except_bind_ok h
  obtain ⟨_, _, h⟩ := except_bind_ok h
  obtain ⟨_, _, h⟩ := except_bind_ok h
  obtain ⟨watermark, hwatermark, h⟩ := except_bind_ok h
  cases h
  constructor
  · exact congrArg sortIds (toFinset_sortedIds _).symm
  · rintro rfl
    have hnone := awareUtc?_none hwatermark
    have hempty := check_ok hids
    rw [hnone] at hempty
    refine (toFinset_sortedIds _).trans ?_
    simpa [List.isEmpty_iff] using hempty

/-! ## One publication -/

section Publication

variable {x y : Subscription} {c : Checkpoint} {now : Time}

/-- The columns join the watermark that comes in. -/
theorem advance_mark (hc : c.Normal) :
    (advance x c.watermark c.remoteIds).mark = x.mark ⊔ c.mark := by
  unfold advance
  cases hin : c.watermark with
  | none =>
    have hbot : c.mark = ⊥ := Watermark.ext (congrArg instantOf hin) (hc.empty hin)
    rw [hbot, sup_bot_eq]
  | some incoming =>
    have hc' : c.mark.instant = WithBot.some incoming := congrArg instantOf hin
    cases hcur : x.watermarkedAt with
    | none =>
      have hx : x.mark.instant = ⊥ := congrArg instantOf hcur
      have hlt : x.mark.instant < c.mark.instant := by
        rw [hx, hc']
        exact WithBot.bot_lt_coe _
      rw [Watermark.sup_of_lt hlt]
      exact Watermark.ext hc'.symm rfl
    | some current =>
      have hx : x.mark.instant = WithBot.some current := congrArg instantOf hcur
      dsimp only
      split
      · rename_i hlt
        rw [Watermark.sup_of_lt (by rw [hx, hc']; exact WithBot.coe_lt_coe.2 hlt)]
        exact Watermark.ext hc'.symm rfl
      · rename_i hge
        split
        · rename_i heq
          rw [Watermark.sup_of_eq (by rw [hx, hc', heq])]
          refine Watermark.ext (congrArg instantOf hcur.symm) ?_
          exact (toFinset_sortedIds _).trans (List.toFinset_append ..)
        · rename_i hne
          rw [Watermark.sup_of_gt]
          rw [hx, hc']
          exact WithBot.coe_lt_coe.2 (lt_of_le_of_ne (not_lt.1 hge) hne)

/-- A publication with an instant reaches the one that a row stands at. -/
def Reaches (v w : Watermark Time String) : Prop := w.instant ≠ ⊥ ∧ v.instant ≤ w.instant

instance (v w : Watermark Time String) : Decidable (Reaches v w) :=
  inferInstanceAs (Decidable (_ ∧ _))

/-- The stored list is the sorted set of the join once a publication reaches the row. -/
theorem advance_ids (hc : c.Normal) :
    (advance x c.watermark c.remoteIds).watermarkRemoteIds =
      if Reaches x.mark c.mark then sortIds (x.mark ⊔ c.mark).ids else x.watermarkRemoteIds := by
  rw [← advance_mark hc]
  unfold advance
  cases hin : c.watermark with
  | none =>
    have hbot : c.mark.instant = ⊥ := congrArg instantOf hin
    rw [if_neg (fun h : Reaches _ _ => h.1 hbot)]
  | some incoming =>
    have hc' : c.mark.instant = WithBot.some incoming := congrArg instantOf hin
    have hne : c.mark.instant ≠ ⊥ := by rw [hc']; exact WithBot.coe_ne_bot
    cases hcur : x.watermarkedAt with
    | none =>
      have hx : x.mark.instant = ⊥ := congrArg instantOf hcur
      rw [if_pos ⟨hne, by rw [hx]; exact bot_le⟩]
      exact hc.sorted
    | some current =>
      have hx : x.mark.instant = WithBot.some current := congrArg instantOf hcur
      dsimp only
      split
      · rename_i hlt
        rw [if_pos ⟨hne, by rw [hx, hc']; exact WithBot.coe_le_coe.2 hlt.le⟩]
        exact hc.sorted
      · rename_i hge
        split
        · rename_i heq
          rw [if_pos ⟨hne, by rw [hx, hc', heq]⟩]
          exact congrArg sortIds (toFinset_sortedIds _).symm
        · rename_i hne'
          rw [if_neg]
          rintro ⟨_, hle⟩
          rw [hx, hc'] at hle
          exact hne' (le_antisymm (not_lt.1 hge) (WithBot.coe_le_coe.1 hle))

/-- Two rows show the same watermark. -/
def SameColumns (x y : Subscription) : Prop :=
  x.watermarkedAt = y.watermarkedAt ∧ x.watermarkRemoteIds = y.watermarkRemoteIds

theorem SameColumns.mark (h : SameColumns x y) : x.mark = y.mark :=
  Watermark.ext (congrArg instantOf h.1) (congrArg List.toFinset h.2)

/-- What a row becomes depends on its watermark columns alone. -/
theorem SameColumns.advance (h : SameColumns x y) (watermark : Option Time) (ids : List String) :
    SameColumns (advance x watermark ids) (advance y watermark ids) := by
  obtain ⟨htime, hids⟩ := h
  unfold Ingestion.advance
  rw [htime]
  cases watermark with
  | none => exact ⟨htime, hids⟩
  | some incoming =>
    cases y.watermarkedAt with
    | none => exact ⟨rfl, rfl⟩
    | some current =>
      by_cases hlt : current < incoming
      · simp only [if_pos hlt]
        exact ⟨rfl, rfl⟩
      · by_cases heq : incoming = current
        · simp only [if_neg hlt, if_pos heq]
          exact ⟨rfl, congrArg (fun l => sortedIds (l ++ ids)) hids⟩
        · simp only [if_neg hlt, if_neg heq]
          exact ⟨htime, hids⟩

/-- The columns of a publication are those of its watermark. -/
theorem published_columns :
    SameColumns (published now c x) (advance x c.watermark c.remoteIds) := by
  have hmoved : SameColumns (moved now c x) x := ⟨rfl, rfl⟩
  unfold published succeeded
  cases c.succeededAt with
  | none => exact hmoved.advance _ _
  | some succeededAt => exact hmoved.advance _ _

theorem SameColumns.trans {z : Subscription} (h : SameColumns x y) (h' : SameColumns y z) :
    SameColumns x z :=
  ⟨h.1.trans h'.1, h.2.trans h'.2⟩

theorem advance_id (watermark : Option Time) (ids : List String) :
    (advance x watermark ids).id = x.id := by
  unfold advance
  repeat' split
  all_goals rfl

theorem published_id : (published now c x).id = x.id := by
  unfold published succeeded
  cases c.succeededAt <;> exact advance_id _ _

/-- What an accepted publication has done to the table. -/
structure Accepted (json : Json → Json) (r : CheckpointRequest) (id : String)
    (s t : Subscriptions) (c : Checkpoint) (x y : Subscription) : Prop where
  normalized : normalize json r = .ok c
  before : s.get? id = some x
  after : t.get? id = some y
  columns : SameColumns y (advance x c.watermark c.remoteIds)
  others : ∀ k, k ≠ id → t.get? k = s.get? k

theorem publishCheckpoint_ok {json : Json → Json} {id : String} {r : CheckpointRequest}
    {s t : Subscriptions} (h : publishCheckpoint json now id r s = (.ok y, t)) :
    ∃ c x, Accepted json r id s t c x y := by
  obtain ⟨c, hc, h₁⟩ := Tx.run_bind_ofExcept h
  obtain ⟨claimed, u, hclaim, h₂⟩ := Tx.run_bind_ok h₁
  cases claimed with
  | none => cases h₂
  | some claimed =>
    unfold claimRevision at hclaim
    rw [Tx.run_modifyGet] at hclaim
    obtain ⟨hsome, rfl⟩ := Prod.mk.inj hclaim
    obtain ⟨x, hwrote⟩ := Table.updateReturning_some _ (Except.ok.inj hsome)
    obtain ⟨_, v, hflush, h₃⟩ := Tx.run_bind_ok h₂
    cases hflush
    cases h₃
    have hid : (published now c claimed).id = id := by
      rw [published_id]
      exact Table.get?_key hwrote.row_after
    have hrow := (congrArg (Table.get? _) hid).trans hwrote.row_after
    have hput := @Table.put_replace _ _ _ _ _ _ _ (fun x old => { x with id := old.id })
      (fun _ => rfl) hrow
      (congrArg (fun i => { published now c claimed with id := i }) published_id.symm)
    refine ⟨c, x, hc, hwrote.row, ?_, ?_, fun k hk => ?_⟩
    · exact (congrArg (Table.get? _) hid.symm).trans hput.row
    · refine published_columns.trans (SameColumns.advance ?_ _ _)
      rw [hwrote.written]
      exact ⟨rfl, rfl⟩
    · exact (hput.other (by rw [hid]; exact hk)).trans (hwrote.row_other hk)

end Publication

/-! ## Histories -/

/-- A publication with its reply, or what other code does between two. -/
inductive Event where
  | publication (before : Subscriptions) (id : String) (request : CheckpointRequest)
      (reply : Except CheckpointError Subscription) (after : Subscriptions)
  | elsewhere (before after : Subscriptions)

namespace Event

def before : Event → Subscriptions
  | publication b _ _ _ _ => b
  | elsewhere b _ => b

def after : Event → Subscriptions
  | publication _ _ _ _ a => a
  | elsewhere _ a => a

end Event

/-- Nothing but a publication writes the watermark columns of a row. -/
def ColumnsLeft (s t : Subscriptions) : Prop :=
  ∀ id x, s.get? id = some x → ∃ y, t.get? id = some y ∧ SameColumns y x

/-- An event happens between its two states; a refused publication is rolled back. -/
inductive Step (json : Json → Json) : Subscriptions → Event → Subscriptions → Prop
  | publication {s t : Subscriptions} {now : Time} {id : String} {r : CheckpointRequest}
      {reply : Except CheckpointError Subscription} :
      Tx.commit (publishCheckpoint json now id r) s = (reply, t) →
      Step json s (.publication s id r reply t) t
  | elsewhere {s t : Subscriptions} : ColumnsLeft s t → Step json s (.elsewhere s t) t

abbrev History (json : Json → Json) : Subscriptions → List Event → Subscriptions → Prop :=
  Trace (Step json)

/-- The watermark that an event publishes for a subscription, where it was accepted. -/
def markOf (json : Json → Json) (id : String) : Event → Option (Watermark Time String)
  | .publication _ id' r reply _ =>
    match reply with
    | .ok _ => if id' = id then (normalize json r).toOption.map Checkpoint.mark else none
    | .error _ => none
  | .elsewhere _ _ => none

/-- The watermarks accepted for a subscription, in the order of their publication. -/
def marks (json : Json → Json) (id : String) (events : List Event) :
    List (Watermark Time String) :=
  events.filterMap (markOf json id)

/-- One event joins what it published to the row and leaves the other columns' row in place. -/
theorem step_joins {json : Json → Json} {s t : Subscriptions} {e : Event} {id : String}
    {x : Subscription} (h : Step json s e t) (hx : s.get? id = some x) :
    ∃ y, t.get? id = some y ∧
      ((markOf json id e = none ∧ SameColumns y x) ∨
        ∃ c : Checkpoint, c.Normal ∧ markOf json id e = some c.mark ∧
          SameColumns y (advance x c.watermark c.remoteIds)) := by
  cases h with
  | elsewhere hleft =>
    obtain ⟨y, hy, hsame⟩ := hleft id x hx
    exact ⟨y, hy, .inl ⟨rfl, hsame⟩⟩
  | @publication _ _ id' r reply hrun =>
    cases reply with
    | error e =>
      cases Tx.commit_error hrun
      exact ⟨x, hx, .inl ⟨rfl, rfl, rfl⟩⟩
    | ok z =>
      obtain ⟨c, x', haccepted⟩ := publishCheckpoint_ok (Tx.commit_ok hrun)
      by_cases hid : id' = id
      · subst hid
        obtain rfl : x = x' := Option.some.inj (hx.symm.trans haccepted.before)
        refine ⟨z, haccepted.after, .inr ⟨c, normalize_normal haccepted.normalized, ?_,
          haccepted.columns⟩⟩
        refine (if_pos rfl).trans ?_
        rw [haccepted.normalized]
        rfl
      · refine ⟨x, ?_, .inl ⟨?_, rfl, rfl⟩⟩
        · rw [haccepted.others id (Ne.symm hid)]
          exact hx
        · exact if_neg hid

/-- The stored list after watermarks have been joined to a row. -/
def storedIds (x : Subscription) (ms : List (Watermark Time String)) : List String :=
  if ∃ v ∈ ms, Reaches x.mark v then sortIds (Watermark.joinAll x.mark ms).ids
  else x.watermarkRemoteIds

/-- A row after watermarks have been joined to it, column by column. -/
structure Joined (x : Subscription) (ms : List (Watermark Time String)) (y : Subscription) :
    Prop where
  mark : y.mark = Watermark.joinAll x.mark ms
  ids : y.watermarkRemoteIds = storedIds x ms

theorem Joined.refl (x : Subscription) : Joined x [] x where
  mark := rfl
  ids := by simp [storedIds]

theorem Joined.same {x y z : Subscription} {ms : List (Watermark Time String)}
    (h : Joined x ms y) (hz : SameColumns z y) : Joined x ms z where
  mark := hz.mark.trans h.mark
  ids := hz.2.trans h.ids

/-- A watermark that does not reach a row adds nothing to it. -/
theorem sup_of_not_reaches {v : Watermark Time String} {c : Checkpoint} (hc : c.Normal)
    (h : ¬ Reaches v c.mark) : v ⊔ c.mark = v := by
  by_cases hbot : c.mark.instant = ⊥
  · have hnone : c.watermark = none := instantOf_injective hbot
    have hmark : c.mark = ⊥ := Watermark.ext hbot (hc.empty hnone)
    rw [hmark, sup_bot_eq]
  · exact Watermark.sup_of_gt (not_le.1 fun hle => h ⟨hbot, hle⟩)

/-- Where nothing reached the row, it stands at its old instant. -/
theorem instant_of_not_reached {v : Watermark Time String} {ms : List (Watermark Time String)}
    (h : ∀ u ∈ ms, ¬ Reaches v u) : (Watermark.joinAll v ms).instant = v.instant := by
  obtain ⟨⟨u, hu, hinstant⟩, hbound⟩ := Watermark.joinAll_instant v ms
  have hle := hbound v (List.mem_cons_self ..)
  rcases List.mem_cons.1 hu with rfl | hu
  · exact hinstant.symm
  · refine le_antisymm ?_ hle
    rw [← hinstant]
    by_cases hbot : u.instant = ⊥
    · rw [hbot]
      exact bot_le
    · exact (not_le.1 fun hle => h u hu ⟨hbot, hle⟩).le

/-- A further publication joins in. -/
theorem Joined.advance {x y : Subscription} {ms : List (Watermark Time String)} {c : Checkpoint}
    (h : Joined x ms y) (hc : c.Normal) :
    Joined x (ms ++ [c.mark]) (advance y c.watermark c.remoteIds) := by
  have hmark : (Ingestion.advance y c.watermark c.remoteIds).mark =
      Watermark.joinAll x.mark (ms ++ [c.mark]) := by
    rw [advance_mark hc, h.mark, Watermark.joinAll_concat]
  refine ⟨hmark, ?_⟩
  have hle : x.mark.instant ≤ y.mark.instant := by
    rw [h.mark]
    exact (Watermark.joinAll_instant x.mark ms).2 x.mark (List.mem_cons_self ..)
  rw [advance_ids hc, h.ids]
  unfold storedIds
  rw [Watermark.joinAll_concat, ← h.mark]
  by_cases hreach : Reaches y.mark c.mark
  · have hreached : Reaches x.mark c.mark := ⟨hreach.1, hle.trans hreach.2⟩
    rw [if_pos hreach, if_pos ⟨c.mark, by simp, hreached⟩]
  · rw [if_neg hreach, sup_of_not_reaches hc hreach]
    by_cases hbefore : ∃ v ∈ ms, Reaches x.mark v
    · obtain ⟨v, hv, hreached⟩ := hbefore
      rw [if_pos ⟨v, hv, hreached⟩, if_pos ⟨v, List.mem_append_left _ hv, hreached⟩]
    · rw [if_neg hbefore, if_neg]
      rintro ⟨v, hv, hreached⟩
      rcases List.mem_append.1 hv with hv | hv
      · exact hbefore ⟨v, hv, hreached⟩
      · obtain rfl := List.mem_singleton.1 hv
        have hsame : (Watermark.joinAll x.mark ms).instant = x.mark.instant :=
          instant_of_not_reached (fun u hu hreached => hbefore ⟨u, hu, hreached⟩)
        rw [← h.mark] at hsame
        exact hreach ⟨hreached.1, hsame.le.trans hreached.2⟩

/-- Over a history, a row joins what was accepted for it. -/
theorem history_joins {json : Json → Json} {s t : Subscriptions} {events : List Event} {id : String}
    {x : Subscription} (h : History json s events t) (hx : s.get? id = some x) :
    ∃ y, t.get? id = some y ∧ Joined x (marks json id events) y := by
  induction h with
  | nil => exact ⟨x, hx, .refl x⟩
  | @snoc events t u e _ hstep ih =>
    obtain ⟨y, hy, hjoined⟩ := ih
    obtain ⟨z, hz, hcases⟩ := step_joins hstep hy
    have hmarks : marks json id (events ++ [e]) =
        marks json id events ++ (markOf json id e).toList := by
      unfold marks
      rw [List.filterMap_append]
      cases hmark : markOf json id e <;> simp [hmark]
    refine ⟨z, hz, ?_⟩
    rw [hmarks]
    rcases hcases with ⟨hnone, hsame⟩ | ⟨c, hc, hsome, hsame⟩
    · rw [hnone, Option.toList_none, List.append_nil]
      exact hjoined.same hsame
    · rw [hsome, Option.toList_some]
      exact (hjoined.advance hc).same hsame

/-- The order in which watermarks are joined leaves no trace in the columns. -/
theorem Joined.perm {x x' y y' : Subscription} {ms ms' : List (Watermark Time String)}
    (h : Joined x ms y) (h' : Joined x' ms' y') (hsame : SameColumns x' x) (hperm : ms'.Perm ms) :
    SameColumns y' y := by
  have hmark : Watermark.joinAll x'.mark ms' = Watermark.joinAll x.mark ms := by
    rw [hsame.mark, Watermark.joinAll_perm hperm]
  have hinstant : instantOf y'.watermarkedAt = instantOf y.watermarkedAt :=
    congrArg Watermark.instant ((h'.mark.trans hmark).trans h.mark.symm)
  refine ⟨instantOf_injective hinstant, ?_⟩
  rw [h'.ids, h.ids]
  unfold storedIds
  rw [hmark, hsame.mark, hsame.2]
  simp only [hperm.mem_iff]

theorem step_ends {json : Json → Json} {s t : Subscriptions} {e : Event} (h : Step json s e t) :
    e.before = s ∧ e.after = t := by
  cases h <;> exact ⟨rfl, rfl⟩

/-- Over any history, the watermark of a subscription ends at the latest instant published for it
or found at the start, with exactly the identities published at that instant or found at it;
a history that accepts the same watermarks in another order ends with the same columns; and at
no event does the instant fall or an identity leave an instant that stays. -/
theorem watermark_publication_joins {json : Json → Json} {s t : Subscriptions}
    {events : List Event} {id : String} {x : Subscription}
    (h : History json s events t) (hx : s.get? id = some x) :
    ∃ y, t.get? id = some y ∧
      (∃ v ∈ x.mark :: marks json id events, v.instant = instantOf y.watermarkedAt) ∧
      (∀ v ∈ x.mark :: marks json id events, v.instant ≤ instantOf y.watermarkedAt) ∧
      (∀ b, b ∈ y.watermarkRemoteIds ↔ ∃ v ∈ x.mark :: marks json id events,
        v.instant = instantOf y.watermarkedAt ∧ b ∈ v.ids) ∧
      (∀ s' t' events' x' y', History json s' events' t' → s'.get? id = some x' →
        t'.get? id = some y' → SameColumns x' x →
        (marks json id events').Perm (marks json id events) → SameColumns y' y) ∧
      ∀ e ∈ events, ∃ v w, e.before.get? id = some v ∧ e.after.get? id = some w ∧
        instantOf v.watermarkedAt ≤ instantOf w.watermarkedAt ∧
        (v.watermarkedAt = w.watermarkedAt → v.watermarkRemoteIds ⊆ w.watermarkRemoteIds) := by
  obtain ⟨y, hy, hjoined⟩ := history_joins h hx
  have hinstant : (Watermark.joinAll x.mark (marks json id events)).instant =
      instantOf y.watermarkedAt := congrArg Watermark.instant hjoined.mark.symm
  obtain ⟨hattained, hbound⟩ := Watermark.joinAll_instant x.mark (marks json id events)
  rw [hinstant] at hattained hbound
  refine ⟨y, hy, hattained, hbound, fun b => ?_, fun s' t' events' x' y' h' hx' hy' hsame hperm => ?_,
    fun e he => ?_⟩
  · have hmem : b ∈ (Watermark.joinAll x.mark (marks json id events)).ids ↔ _ :=
      Watermark.mem_ids_joinAll
    rw [hinstant, ← hjoined.mark] at hmem
    exact List.mem_toFinset.symm.trans hmem
  · obtain ⟨z, hz, hjoined'⟩ := history_joins h' hx'
    obtain rfl : y' = z := Option.some.inj (hy'.symm.trans hz)
    exact hjoined.perm hjoined' hsame hperm
  · obtain ⟨pre, post, rfl⟩ := List.append_of_mem he
    obtain ⟨a, b, ha, hstep, _⟩ := h.at_label
    obtain ⟨rfl, rfl⟩ := step_ends hstep
    obtain ⟨v, hv, _⟩ := history_joins ha hx
    obtain ⟨w, hw, hcases⟩ := step_joins hstep hv
    have hle : v.mark ≤ w.mark := by
      rcases hcases with ⟨_, hsame⟩ | ⟨c, hc, _, hsame⟩
      · exact hsame.mark.ge
      · rw [hsame.mark, advance_mark hc]
        exact le_sup_left
    refine ⟨v, w, hv, hw, Watermark.instant_mono hle, fun hsame b hb => ?_⟩
    have hids := Watermark.ids_mono hle (congrArg instantOf hsame)
    exact List.mem_toFinset.1 (hids (List.mem_toFinset.2 hb))

/-- The events of publishing one request after the other. -/
def replay (json : Json → Json) (now : Time) (id : String) :
    Subscriptions → List CheckpointRequest → List Event × Subscriptions
  | s, [] => ([], s)
  | s, r :: rs =>
    let reply := Tx.commit (publishCheckpoint json now id r) s
    let rest := replay json now id reply.2 rs
    (.publication s id r reply.1 reply.2 :: rest.1, rest.2)

theorem replay_history (json : Json → Json) (now : Time) (id : String) (s : Subscriptions)
    (rs : List CheckpointRequest) :
    History json s (replay json now id s rs).1 (replay json now id s rs).2 := by
  induction rs generalizing s with
  | nil => exact .nil
  | cons r rs ih => exact Trace.cons (Step.publication rfl) (ih _)

/-- A subscription that has published nothing. -/
def sampleRow : Subscription where
  id := "subscription"
  deletedAt := none
  cursor := none
  cursorVersion := 1
  backfillCursor := none
  checkpointRevision := 0
  nextRunAt := none
  lastRunAt := none
  lastSuccessAt := none
  watermarkedAt := none
  watermarkRemoteIds := []
  consecutiveFailures := 0

/-- One instant on two clocks, then an older one. -/
def samplePublications : List CheckpointRequest :=
  [{ expectedRevision := 0, watermarkedAt := some ⟨9000, some 2000⟩,
      watermarkRemoteIds := some ["a"] },
    { expectedRevision := 1, watermarkedAt := some ⟨7000, some 0⟩,
      watermarkRemoteIds := some ["b"] },
    { expectedRevision := 2, watermarkedAt := some ⟨6000, some 0⟩,
      watermarkRemoteIds := some ["c"] }]

/-- The three publications as a history. -/
def sampleRun : List Event × Subscriptions :=
  replay id 0 "subscription" ⟨[sampleRow], List.nodup_singleton _⟩ samplePublications

theorem watermark_publication_joins_sample :
    (marks id "subscription" sampleRun.1).map Watermark.instant =
        [WithBot.some (7000 : Time), WithBot.some (7000 : Time),
          WithBot.some (6000 : Time)] ∧
      ∃ y, sampleRun.2.get? "subscription" = some y ∧
        ∀ v ∈ sampleRow.mark :: marks id "subscription" sampleRun.1,
          v.instant ≤ instantOf y.watermarkedAt := by
  refine ⟨by decide +kernel, ?_⟩
  have hrow : Table.get? (⟨[sampleRow], List.nodup_singleton _⟩ : Subscriptions) "subscription" =
      some sampleRow := rfl
  obtain ⟨y, hy, _, hbound, _⟩ := watermark_publication_joins
    (replay_history id 0 "subscription" ⟨[sampleRow], List.nodup_singleton _⟩ samplePublications)
    hrow
  exact ⟨y, hy, hbound⟩

end MediaSync.Ingestion
