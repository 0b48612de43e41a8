import MediaSync.Media.Assets
import MediaSync.Foundation.Transition

/-!
# The fences of an asset

Whatever the parties do, and in whatever order, a row changes by one of a few
edits, each under the generation, the status and the lease that the writing
statement compared. From the edits follow that the generation only grows, that
bytes are described exactly while the asset is verified, and that a worker
whose generation, lease or job is not the current one changes no row.
-/

namespace MediaSync.Media

open Python Transaction Transition AssetError

namespace AssetStore

variable {s t : AssetStore} {id : String} {values : Asset → Asset} {a b : Asset}

@[simp] theorem keyed_id (values : Asset → Asset) (a : Asset) : (keyed values a).id = a.id := rfl

@[simp] theorem keyed_slot (values : Asset → Asset) (a : Asset) :
    (keyed values a).slot = a.slot := rfl

@[simp] theorem setAsset_jobs (s : AssetStore) (id : String) (values : Asset → Asset) :
    (s.setAsset id values).jobs = s.jobs := rfl

/-- The row with the identifier was rewritten to `b`, and no other row was written. -/
structure Rewrote (s : AssetStore) (id : String) (values : Asset → Asset) (a b : Asset)
    (t : AssetStore) : Prop where
  row : s.assets.get? id = some a
  written : b = keyed values a
  store : t = s.setAsset id values

theorem Rewrote.get? (h : Rewrote s id values a b t) (k : String) :
    t.assets.get? k = if k = id then some b else s.assets.get? k := by
  rw [h.store, get?_setAsset]
  by_cases hk : k = id
  · rw [if_pos hk, if_pos hk, hk, h.row, h.written]
    rfl
  · rw [if_neg hk, if_neg hk]

/-- A row that was not there before was added, and no other row was written. -/
structure Inserted (s : AssetStore) (b : Asset) (t : AssetStore) : Prop where
  fresh : s.assets.get? b.id = none
  rows : ∀ k, t.assets.get? k = if k = b.id then some b else s.assets.get? k

theorem Inserted.kept (h : Inserted s b t) (ha : s.assets.get? id = some a) :
    t.assets.get? id = some a := by
  rw [h.rows]
  by_cases hid : id = b.id
  · rw [hid, h.fresh] at ha
    cases ha
  · rw [if_neg hid, ha]

end AssetStore

open AssetStore

theorem allOrNothing_updateAsset {Q : Option Asset → AssetStore → Prop} {s : AssetStore}
    {id : String} {conditions : AssetStore → Asset → Bool} {values : Asset → Asset}
    (hsome : ∀ a b t, Rewrote s id values a b t → conditions s a = true → Q (some b) t)
    (hnone : Q none s) :
    Tx.AllOrNothing s (updateAsset id conditions values) Q := by
  unfold updateAsset
  cases hget : s.assets.get? id with
  | none =>
    constructor
    · intro r t h
      simp only [hget] at h
      cases h
      exact hnone
    · intro e t h
      simp only [hget] at h
      cases h
  | some a =>
    by_cases hc : conditions s a = true
    · by_cases hk : (keyed values a).checked = true
      · constructor
        · intro r t h
          simp only [hget, hc, hk, if_true] at h
          cases h
          exact hsome a _ _ ⟨hget, rfl, rfl⟩ hc
        · intro e t h
          simp only [hget, hc, hk, if_true] at h
          cases h
      · constructor
        · intro r t h
          simp [hget, hc, hk] at h
        · intro e t h
          simp only [hget, hc, hk, if_true] at h
          exact (Prod.mk.inj h).2.symm
    · constructor
      · intro r t h
        simp only [hget, hc] at h
        cases h
        exact hnone
      · intro e t h
        simp only [hget, hc] at h
        cases h

/-- A statement and what follows it where no row matched. -/
theorem allOrNothing_updateAsset_bind {Q : Asset → AssetStore → Prop} {s : AssetStore}
    {id : String} {conditions : AssetStore → Asset → Bool} {values : Asset → Asset}
    {f : Option Asset → AssetSession Asset} (hf : ∀ b, f (some b) = pure b)
    (hsome : ∀ a b t, Rewrote s id values a b t → conditions s a = true → Q b t)
    (hnone : Tx.AllOrNothing s (f none) Q) :
    Tx.AllOrNothing s (updateAsset id conditions values >>= f) Q := by
  have hupdate : Tx.AllOrNothing s (updateAsset id conditions values)
      (fun r t => r.elim (t = s) (fun b => Q b t)) :=
    allOrNothing_updateAsset (fun a b t hr hc => hsome a b t hr hc) rfl
  constructor
  · intro b t h
    obtain ⟨r, u, hrun, h⟩ := Tx.run_bind_ok h
    have hu := hupdate.all r u hrun
    cases r with
    | some a =>
      rw [hf] at h
      cases h
      exact hu
    | none =>
      cases hu
      exact hnone.all b t h
  · intro e t h
    rcases Tx.run_bind_ends h with ⟨e', herr, _⟩ | ⟨r, u, hrun, h⟩
    · exact hupdate.nothing e' t herr
    · have hu := hupdate.all r u hrun
      cases r with
      | some a =>
        rw [hf] at h
        cases h
      | none =>
        cases hu
        exact hnone.nothing e t h

theorem allOrNothing_insertAsset {s : AssetStore} {asset : Asset} :
    Tx.AllOrNothing s (insertAsset asset)
      (fun b t => b = asset ∧ s.findSlot asset.slot = none ∧ Inserted s asset t) := by
  unfold insertAsset
  by_cases hslot : asset.slot ∈ s.assets.rows.map Asset.slot
  · constructor
    · intro b t h
      simp only [hslot, dif_pos] at h
      cases h
    · intro e t h
      simp only [hslot, dif_pos] at h
      exact (Prod.mk.inj h).2.symm
  · by_cases hchecked : (asset.checked && (s.contents.get? asset.contentId).isSome) = true
    · by_cases hid : asset.id ∈ s.assets.rows.map Asset.id
      · constructor
        · intro b t h
          simp only [hslot, hchecked, hid, dif_pos, dif_neg, not_false_eq_true, if_true] at h
          cases h
        · intro e t h
          simp only [hslot, hchecked, hid, dif_pos, dif_neg, not_false_eq_true, if_true] at h
          exact (Prod.mk.inj h).2.symm
      · constructor
        · intro b t h
          simp only [hslot, hchecked, hid, dif_neg, not_false_eq_true, if_true] at h
          obtain ⟨hb, ht⟩ := Prod.mk.inj h
          cases hb
          refine ⟨rfl, ?_, ?_, ?_⟩
          · cases hf : s.findSlot asset.slot with
            | none => rfl
            | some r =>
              obtain ⟨hr, hrs⟩ := findSlot_some hf
              exact False.elim (hslot (hrs ▸ List.mem_map_of_mem (Table.get?_mem hr)))
          · cases hg : s.assets.get? asset.id with
            | none => rfl
            | some r =>
              exact False.elim
                (hid (Table.get?_key hg ▸ List.mem_map_of_mem (Table.get?_mem hg)))
          · intro k
            rw [← ht]
            have hins : s.assets.insert? asset = some ⟨s.assets.rows ++ [asset], _⟩ :=
              dif_neg hid
            rw [Table.get?_insert? hins]
            by_cases hk : asset.id = k
            · rw [if_pos hk, if_pos hk.symm]
            · rw [if_neg hk, if_neg (Ne.symm hk)]
        · intro e t h
          simp only [hslot, hchecked, hid, dif_neg, not_false_eq_true, if_true] at h
          cases h
    · constructor
      · intro b t h
        simp [hslot, hchecked] at h
      · intro e t h
        simp [hslot, hchecked] at h
        exact h.2.symm

namespace Asset

/-- The statuses under which the bytes of an asset are described. -/
def holdsBytes (a : Asset) : Bool := a.status = .verified || a.status = .exported

/-- Checksum, size, path, type and time of verification are all there. -/
def published (a : Asset) : Bool :=
  a.checksumSha256.isSome && a.sizeBytes.isSome && a.localPath.isSome && a.mimeType.isSome &&
    a.verifiedAt.isSome

/-- None of them is there. -/
def unpublished (a : Asset) : Bool :=
  a.checksumSha256.isNone && a.sizeBytes.isNone && a.localPath.isNone && a.mimeType.isNone &&
    a.verifiedAt.isNone

end Asset

open AssetRepository

/-- The ways in which a row is rewritten, with the status that the statement compared. -/
inductive AssetEdit (a : Asset) : Asset → Prop
  | rediscovered (values : AssetDiscovery) (now : Time) : AssetEdit a (rediscoveredValues values now a)
  | reset (values : AssetDiscovery) (now : Time) : AssetEdit a (resetValues values now a)
  | queued (now : Time) : a.status = .discovered ∨ a.status = .failedRetryable →
      AssetEdit a (queuedValues now a)
  | started (jobId : String) (now : Time) : a.status = .queued →
      AssetEdit a (startedValues jobId now a)
  | failed (retryable : Bool) (code message : String) (now : Time) : a.status = .downloading →
      AssetEdit a (failedValues (failedTarget retryable) code message now a)
  | verified (bytes : VerifiedBytes) (now : Time) :
      a.status = .downloading ∨ a.status = .downloaded → AssetEdit a (verifiedValues bytes now a)
  | archiveReset (code message : String) (now : Time) : a.status = .verified →
      AssetEdit a (archiveResetValues code message now a)
  | resumed (now : Time) : a.status = .failedRetryable ∨ a.status = .failedTerminal →
      AssetEdit a (resumedValues now a)
  | unlinked (jobs : Table Scheduler.Job.id) : AssetEdit a (AssetStore.unlinked jobs a)

/-- What every reachable row satisfies. -/
structure Asset.Sound (a : Asset) : Prop where
  bytes : a.holdsBytes = true → a.published = true
  noBytes : a.holdsBytes = false → a.unpublished = true
  queued : a.status = .queued → a.downloadJobId = none

theorem Asset.Sound.published_iff {a : Asset} (h : a.Sound) :
    a.published = true ↔ a.holdsBytes = true := by
  constructor
  · intro hp
    cases hh : a.holdsBytes with
    | true => rfl
    | false =>
      have hn := h.noBytes hh
      simp only [Asset.published, Asset.unpublished, Bool.and_eq_true, Option.isSome_iff_ne_none,
        Option.isNone_iff_eq_none] at hp hn
      exact False.elim (hp.2 hn.2)
  · exact h.bytes

theorem Asset.Sound.unpublished_iff {a : Asset} (h : a.Sound) :
    a.unpublished = true ↔ a.holdsBytes = false := by
  constructor
  · intro hu
    cases hh : a.holdsBytes with
    | false => rfl
    | true =>
      have hp := h.bytes hh
      simp only [Asset.published, Asset.unpublished, Bool.and_eq_true, Option.isSome_iff_ne_none,
        Option.isNone_iff_eq_none] at hp hu
      exact False.elim (hp.2 hu.2)
  · exact h.noBytes

namespace AssetEdit

variable {a b : Asset}

theorem generation_le (h : AssetEdit a b) : a.generation ≤ b.generation := by
  cases h with
  | reset => exact Int.le_add_one (Int.le_refl _)
  | archiveReset => exact Int.le_add_one (Int.le_refl _)
  | rediscovered => exact Int.le_refl _
  | queued => exact Int.le_refl _
  | started => exact Int.le_refl _
  | failed => exact Int.le_refl _
  | verified => exact Int.le_refl _
  | resumed => exact Int.le_refl _
  | unlinked => exact Int.le_refl _

/-- Only a row without bytes is queued, fails or is resumed. -/
theorem sound_of_unpublished (ha : a.Sound) (hs : a.holdsBytes = false) (hstatus : b.holdsBytes = false)
    (hbytes : b.unpublished = a.unpublished) (hq : b.status = .queued → b.downloadJobId = none) :
    b.Sound where
  bytes hb := by
    rw [hstatus] at hb
    cases hb
  noBytes _ := hbytes.trans (ha.noBytes hs)
  queued := hq

theorem holdsBytes_eq_false {status : AssetStatus} (h : a.status = status)
    (hv : status ≠ .verified) (he : status ≠ .exported) : a.holdsBytes = false := by
  simp [Asset.holdsBytes, h, hv, he]

theorem sound (h : AssetEdit a b) (ha : a.Sound) : b.Sound := by
  cases h with
  | rediscovered => exact ⟨ha.bytes, ha.noBytes, ha.queued⟩
  | reset =>
    refine ⟨fun hb => ?_, fun _ => rfl, fun _ => rfl⟩
    cases hb
  | queued now hs =>
    have hno : a.holdsBytes = false := by
      rcases hs with hs | hs
      · exact holdsBytes_eq_false hs (by decide) (by decide)
      · exact holdsBytes_eq_false hs (by decide) (by decide)
    exact sound_of_unpublished ha hno rfl rfl (fun _ => rfl)
  | started =>
    refine ⟨fun hb => ?_, fun _ => rfl, fun hq => ?_⟩
    · cases hb
    · cases hq
  | failed retryable code message now hs =>
    have hno := holdsBytes_eq_false hs (by decide) (by decide)
    cases retryable with
    | true => exact sound_of_unpublished ha hno rfl rfl (fun hq => by cases hq)
    | false => exact sound_of_unpublished ha hno rfl rfl (fun hq => by cases hq)
  | verified =>
    refine ⟨fun _ => rfl, fun hb => ?_, fun hq => ?_⟩
    · cases hb
    · cases hq
  | archiveReset =>
    refine ⟨fun hb => ?_, fun _ => rfl, fun _ => rfl⟩
    cases hb
  | resumed now hs =>
    have hno : a.holdsBytes = false := by
      rcases hs with hs | hs
      · exact holdsBytes_eq_false hs (by decide) (by decide)
      · exact holdsBytes_eq_false hs (by decide) (by decide)
    exact sound_of_unpublished ha hno rfl rfl (fun hq => by cases hq)
  | unlinked jobs =>
    refine ⟨ha.bytes, ha.noBytes, fun hq => ?_⟩
    show a.downloadJobId.filter _ = none
    rw [ha.queued hq]
    rfl

end AssetEdit

/-! ## What one call writes -/

/-- What the writing statement of a call compared with the row it found. -/
structure AssetCall.Admitted (c : AssetCall) (s : AssetStore) (a : Asset) : Prop where
  generation : ∀ g, c.generation? = some g → a.generation = g
  lease : ∀ lease, c.lease? = some lease → lease.held [.claimed, .running] s = true
  job : ∀ j, c.jobId? = some j → a.downloadJobId = some j ∨ (c.isStart = true ∧ a.status = .queued)

/-- A call that succeeds edits one admitted row. -/
def AssetCall.Edits (c : AssetCall) (s : AssetStore) (b : Asset) (t : AssetStore) : Prop :=
  ∃ id values a, Rewrote s id values a b t ∧ AssetEdit a b ∧ c.Admitted s a

theorem expects_iff {generation : Int} {status : AssetStatus} {a : Asset} :
    expects generation status a = true ↔ a.generation = generation ∧ a.status = status := by
  simp [expects]

theorem readOnly_validateAssetCas (generation : Int) (status : String) :
    Tx.ReadOnly (validateAssetCas generation status) := by
  refine Tx.Within.bind Tx.ReadOnly.chains (Tx.Within.require Tx.ReadOnly.chains _ _) fun _ => ?_
  unfold expectedStatusOf
  split
  · exact Tx.Within.pure Tx.ReadOnly.chains _
  · exact Tx.Within.throw Tx.ReadOnly.chains _

theorem validateAssetCas_ok {generation : Int} {expected : String} {s t : AssetStore}
    {status : AssetStatus} (h : validateAssetCas generation expected s = (.ok status, t)) :
    status.value = expected := by
  obtain ⟨_, h⟩ := Tx.run_bind_require h
  unfold expectedStatusOf at h
  cases hfound : AssetStatus.ofValue? expected with
  | none =>
    rw [hfound] at h
    cases h
  | some found =>
    rw [hfound] at h
    cases h
    exact AssetStatus.ofValue?_some hfound

theorem readOnly_boundedText (value fieldName : String) (maxLength : Nat) :
    Tx.ReadOnly (boundedText value fieldName maxLength) := by
  refine Tx.Within.bind Tx.ReadOnly.chains (Tx.Within.require Tx.ReadOnly.chains _ _) fun _ => ?_
  refine Tx.Within.bind Tx.ReadOnly.chains (Tx.Within.require Tx.ReadOnly.chains _ _) fun _ => ?_
  refine Tx.Within.bind Tx.ReadOnly.chains (Tx.Within.require Tx.ReadOnly.chains _ _) fun _ => ?_
  exact Tx.Within.pure Tx.ReadOnly.chains _

theorem readOnly_optionalValidator (value : Option String) (fieldName : String) (maxLength : Nat) :
    Tx.ReadOnly (optionalValidator value fieldName maxLength) := by
  cases value with
  | none => exact Tx.Within.pure Tx.ReadOnly.chains _
  | some value =>
    refine Tx.Within.bind Tx.ReadOnly.chains (readOnly_boundedText _ _ _) fun _ => ?_
    exact Tx.Within.pure Tx.ReadOnly.chains _

theorem readOnly_verifyTransitions (status : AssetStatus) :
    Tx.ReadOnly (verifyTransitions status) := by
  cases status with
  | downloading =>
    exact Tx.Within.bind Tx.ReadOnly.chains (Tx.Within.require Tx.ReadOnly.chains _ _)
      fun _ => Tx.Within.require Tx.ReadOnly.chains _ _
  | downloaded => exact Tx.Within.require Tx.ReadOnly.chains _ _
  | _ => exact Tx.Within.throw Tx.ReadOnly.chains _

theorem readOnly_checkedBytes (identity : AssetIdentity) (bytes : VerifiedBytes) :
    Tx.ReadOnly (checkedBytes identity bytes) := by
  refine Tx.Within.bind Tx.ReadOnly.chains (Tx.Within.require Tx.ReadOnly.chains _ _) fun _ => ?_
  refine Tx.Within.bind Tx.ReadOnly.chains (Tx.Within.require Tx.ReadOnly.chains _ _) fun _ => ?_
  refine Tx.Within.bind Tx.ReadOnly.chains (readOnly_boundedText _ _ _) fun _ => ?_
  refine Tx.Within.bind Tx.ReadOnly.chains (readOnly_boundedText _ _ _) fun _ => ?_
  refine Tx.Within.bind Tx.ReadOnly.chains (readOnly_optionalValidator _ _ _) fun _ => ?_
  refine Tx.Within.bind Tx.ReadOnly.chains (Tx.Within.require Tx.ReadOnly.chains _ _) fun _ => ?_
  refine Tx.Within.bind Tx.ReadOnly.chains (readOnly_optionalValidator _ _ _) fun _ => ?_
  exact Tx.Within.pure Tx.ReadOnly.chains _

theorem readOnly_contentIdentity (contentId : String) (value : AssetUpsert) :
    Tx.ReadOnly (AssetIdentity.contentIdentity contentId value) := by
  unfold AssetIdentity.contentIdentity
  split
  · exact Tx.Within.pure Tx.ReadOnly.chains _
  · refine Tx.Within.bind Tx.ReadOnly.chains (Tx.Within.read Tx.ReadOnly.chains _) fun content => ?_
    cases content with
    | none => exact Tx.Within.throw Tx.ReadOnly.chains _
    | some content =>
      exact Tx.Within.bind Tx.ReadOnly.chains (Tx.Within.require Tx.ReadOnly.chains _ _)
        fun _ => Tx.Within.pure Tx.ReadOnly.chains _
  · exact Tx.Within.throw Tx.ReadOnly.chains _

theorem readOnly_prepareDiscovery (identity : AssetIdentity) (contentId : String)
    (value : AssetUpsert) : Tx.ReadOnly (identity.prepareDiscovery contentId value) := by
  refine Tx.Within.bind Tx.ReadOnly.chains (readOnly_contentIdentity _ _) fun _ => ?_
  dsimp only
  split
  · exact Tx.Within.throw Tx.ReadOnly.chains _
  · split
    · exact Tx.Within.pure Tx.ReadOnly.chains _
    · exact Tx.Within.throw Tx.ReadOnly.chains _

/-- `_cas_update`: the row that was compared is rewritten. -/
theorem allOrNothing_casUpdate {Q : Asset → AssetStore → Prop} {s : AssetStore} {id : String}
    {generation : Int} {status : AssetStatus} {values : Asset → Asset}
    (h : ∀ a b t, Rewrote s id values a b t → a.generation = generation → a.status = status →
      Q b t) : Tx.AllOrNothing s (casUpdate id generation status values) Q := by
  refine allOrNothing_updateAsset_bind (fun _ => rfl) ?_ ?_
  · intro a b t hr hc
    obtain ⟨hg, hs⟩ := expects_iff.1 hc
    exact h a b t hr hg hs
  · refine .bind (Tx.Within.read Tx.ReadOnly.chains _) fun _ _ => ?_
    exact .bind_require fun _ => .throw _

/-- `_owned_cas_update`: the row that was compared is rewritten under a held lease. -/
theorem allOrNothing_ownedCasUpdate {Q : Asset → AssetStore → Prop} {s : AssetStore} {id : String}
    {generation : Int} {status : AssetStatus} {lease : DownloadLease}
    {allowed : List Scheduler.JobStatus} {extra : Asset → Bool} {values : Asset → Asset}
    (h : ∀ a b t, Rewrote s id values a b t → a.generation = generation → a.status = status →
      lease.held allowed s = true → extra a = true → Q b t) :
    Tx.AllOrNothing s (ownedCasUpdate id generation status lease allowed extra values) Q := by
  refine .bind (readOnly_boundedText _ _ _) fun _ _ => ?_
  refine .bind (readOnly_boundedText _ _ _) fun _ _ => ?_
  refine .bind (readOnly_boundedText _ _ _) fun _ _ => ?_
  refine allOrNothing_updateAsset_bind (fun _ => rfl) ?_ ?_
  · intro a b t hr hc
    simp only [Bool.and_eq_true] at hc
    obtain ⟨⟨hexp, hheld⟩, hextra⟩ := hc
    obtain ⟨hg, hs⟩ := expects_iff.1 hexp
    exact h a b t hr hg hs hheld hextra
  · refine .bind (Tx.Within.read Tx.ReadOnly.chains _) fun existing _ => ?_
    cases existing with
    | none => exact .throw _
    | some a => exact .bind_require fun _ => .throw _

theorem held_mono {lease : DownloadLease} {s : AssetStore}
    (h : lease.held [.running] s = true) : lease.held [.claimed, .running] s = true := by
  unfold DownloadLease.held at h ⊢
  cases hj : s.jobs.get? lease.jobId with
  | none =>
    rw [hj] at h
    cases h
  | some job =>
    rw [hj] at h
    simp only [Bool.and_eq_true, decide_eq_true_eq, List.mem_singleton] at h ⊢
    refine ⟨⟨h.1.1, ?_⟩, h.2⟩
    rw [h.1.2]
    exact List.mem_cons_of_mem _ (List.mem_singleton_self _)

theorem downloadedBy_iff {jobId : String} {a : Asset} :
    downloadedBy jobId a = true ↔ a.downloadJobId = some jobId := by
  simp [downloadedBy]

section Calls

variable {identity : AssetIdentity} {s : AssetStore} {assetId expectedStatus : String}
variable {generation : Int} {lease : DownloadLease} {now : Time}

theorem edits_reset {value : AssetUpsert} :
    let c := AssetCall.reset assetId generation expectedStatus value now
    Tx.AllOrNothing s (c.run identity) (c.Edits s) := by
  refine .bind (readOnly_validateAssetCas _ _) fun status _ => ?_
  refine .bind (Tx.Within.read Tx.ReadOnly.chains _) fun existing _ => ?_
  cases existing with
  | none => exact .throw _
  | some asset =>
    refine .bind_require fun _ => ?_
    refine .bind (readOnly_prepareDiscovery _ _ _) fun values _ => ?_
    refine allOrNothing_casUpdate fun a b t hr hg _ => ⟨_, _, a, hr, ?_, ?_⟩
    · rw [hr.written]
      exact .reset values now
    · refine ⟨fun g h => ?_, fun _ h => ?_, fun _ h => ?_⟩
      · cases h
        exact hg
      · cases h
      · cases h

theorem edits_queue :
    let c := AssetCall.queue assetId generation expectedStatus now
    Tx.AllOrNothing s (c.run identity) (c.Edits s) := by
  refine .bind (readOnly_validateAssetCas _ _) fun status _ => ?_
  refine .bind_require fun htransition => ?_
  refine allOrNothing_casUpdate fun a b t hr hg hs => ⟨_, _, a, hr, ?_, ?_⟩
  · rw [hr.written]
    refine .queued now ?_
    rw [hs]
    cases status with
    | discovered => exact .inl rfl
    | failedRetryable => exact .inr rfl
    | _ => cases htransition
  · refine ⟨fun g h => ?_, fun _ h => ?_, fun _ h => ?_⟩
    · cases h
      exact hg
    · cases h
    · cases h

theorem edits_start :
    let c := AssetCall.start assetId generation expectedStatus lease
    Tx.AllOrNothing s (c.run identity) (c.Edits s) := by
  refine .bind (readOnly_validateAssetCas _ _) fun status _ => ?_
  refine .bind_require fun htransition => ?_
  refine allOrNothing_ownedCasUpdate fun a b t hr hg hs hheld _ => ⟨_, _, a, hr, ?_, ?_⟩
  all_goals
    have hqueued : a.status = .queued := by
      rw [hs]
      cases status with
      | queued => rfl
      | _ => cases htransition
  · rw [hr.written]
    exact .started _ _ hqueued
  · refine ⟨fun g h => ?_, fun _ h => ?_, fun _ _ => .inr ⟨rfl, hqueued⟩⟩
    · cases h
      exact hg
    · cases h
      exact hheld

theorem edits_fail {retryable : Bool} {errorCode errorMessage : String} :
    let c := AssetCall.fail assetId generation expectedStatus lease retryable errorCode errorMessage
    Tx.AllOrNothing s (c.run identity) (c.Edits s) := by
  refine .bind (readOnly_validateAssetCas _ _) fun status _ => ?_
  refine .bind_require fun hdownloading => ?_
  refine .bind_require fun _ => ?_
  refine .bind (readOnly_boundedText _ _ _) fun code _ => ?_
  refine .bind (readOnly_boundedText _ _ _) fun message _ => ?_
  refine allOrNothing_ownedCasUpdate fun a b t hr hg hs hheld hextra => ⟨_, _, a, hr, ?_, ?_⟩
  · rw [hr.written]
    exact .failed _ _ _ _ (hs.trans (of_decide_eq_true hdownloading))
  · refine ⟨fun g h => ?_, fun _ h => ?_, fun j h => .inl ?_⟩
    · cases h
      exact hg
    · cases h
      exact hheld
    · cases h
      exact downloadedBy_iff.1 hextra

theorem edits_verify {bytes : VerifiedBytes} :
    let c := AssetCall.verify assetId generation expectedStatus lease bytes
    Tx.AllOrNothing s (c.run identity) (c.Edits s) := by
  refine .bind (readOnly_validateAssetCas _ _) fun status _ => ?_
  refine .bind (readOnly_verifyTransitions _) fun _ htransitions => ?_
  refine .bind (readOnly_checkedBytes _ _) fun stored _ => ?_
  refine allOrNothing_ownedCasUpdate fun a b t hr hg hs hheld hextra => ⟨_, _, a, hr, ?_, ?_⟩
  · rw [hr.written]
    refine .verified _ _ ?_
    rw [hs]
    cases status with
    | downloading => exact .inl rfl
    | downloaded => exact .inr rfl
    | _ => cases htransitions
  · refine ⟨fun g h => ?_, fun _ h => ?_, fun j h => .inl ?_⟩
    · cases h
      exact hg
    · cases h
      exact held_mono hheld
    · cases h
      exact downloadedBy_iff.1 hextra

theorem edits_resetVerifiedArchive {localPath checksum : String} {sizeBytes : Int}
    {errorCode errorMessage : String} :
    let c := AssetCall.resetVerifiedArchive assetId generation localPath checksum sizeBytes
      errorCode errorMessage now
    Tx.AllOrNothing s (c.run identity) (c.Edits s) := by
  refine .bind_require fun _ => ?_
  refine .bind (readOnly_boundedText _ _ _) fun code _ => ?_
  refine .bind (readOnly_boundedText _ _ _) fun message _ => ?_
  refine allOrNothing_updateAsset_bind (fun _ => rfl) ?_ ?_
  · intro a b t hr hc
    simp only [Bool.and_eq_true] at hc
    obtain ⟨hg, hs⟩ := expects_iff.1 hc.1.1.1
    refine ⟨_, _, a, hr, ?_, ?_⟩
    · rw [hr.written]
      exact .archiveReset _ _ _ hs
    · refine ⟨fun g h => ?_, fun _ h => ?_, fun _ h => ?_⟩
      · cases h
        exact hg
      · cases h
      · cases h
  · refine .bind (Tx.Within.read Tx.ReadOnly.chains _) fun _ _ => ?_
    exact .bind_require fun _ => .throw _

/-- One statement of the recovery, whatever follows it. -/
theorem edits_recoverAs {jobId : String} {jobStatus : Scheduler.JobStatus} (retryable : Bool)
    {f : Option Asset → AssetSession Asset} (hf : ∀ b, f (some b) = pure b)
    (hnone : Tx.AllOrNothing s (f none)
      ((AssetCall.recoverExpiredDownload assetId generation expectedStatus jobId now).Edits s)) :
    Tx.AllOrNothing s
      (recoverAs assetId generation jobId jobStatus (failedTarget retryable) now >>= f)
      ((AssetCall.recoverExpiredDownload assetId generation expectedStatus jobId now).Edits s) := by
  refine allOrNothing_updateAsset_bind hf (fun a b t hr hc => ?_) hnone
  simp only [Bool.and_eq_true] at hc
  obtain ⟨hg, hs⟩ := expects_iff.1 hc.1.1
  refine ⟨_, _, a, hr, ?_, ?_⟩
  · rw [hr.written]
    exact .failed _ _ _ _ hs
  · refine ⟨fun g h => ?_, fun _ h => ?_, fun j h => .inl ?_⟩
    · cases h
      exact hg
    · cases h
    · cases h
      exact downloadedBy_iff.1 hc.1.2

theorem edits_recoverExpiredDownload {jobId : String} :
    let c := AssetCall.recoverExpiredDownload assetId generation expectedStatus jobId now
    Tx.AllOrNothing s (c.run identity) (c.Edits s) := by
  refine .bind (readOnly_validateAssetCas _ _) fun status _ => ?_
  refine .bind_require fun _ => ?_
  refine edits_recoverAs true (fun _ => rfl) ?_
  refine edits_recoverAs false (fun _ => rfl) ?_
  refine .bind (Tx.Within.read Tx.ReadOnly.chains _) fun existing _ => ?_
  cases existing with
  | none => exact .throw _
  | some a => exact .bind_require fun _ => .throw _

theorem edits_resumeReclaimedPreparedResult :
    let c := AssetCall.resumeReclaimedPreparedResult assetId generation expectedStatus lease
    Tx.AllOrNothing s (c.run identity) (c.Edits s) := by
  refine .bind_require fun hexpected => ?_
  refine .bind (readOnly_validateAssetCas _ _) fun status hvalid => ?_
  refine allOrNothing_ownedCasUpdate fun a b t hr hg hs hheld hextra => ⟨_, _, a, hr, ?_, ?_⟩
  · rw [hr.written]
    refine .resumed _ ?_
    rw [hs]
    have hvalue := validateAssetCas_ok hvalid
    simp only [Bool.or_eq_true, decide_eq_true_eq, ← hvalue] at hexpected
    exact hexpected.imp AssetStatus.value_injective AssetStatus.value_injective
  · simp only [Bool.and_eq_true] at hextra
    refine ⟨fun g h => ?_, fun _ h => ?_, fun j h => .inl ?_⟩
    · cases h
      exact hg
    · cases h
      exact held_mono hheld
    · cases h
      exact downloadedBy_iff.1 hextra.1

end Calls

/-- What a discovery upsert of prepared values did. -/
inductive Discovered (s : AssetStore) (slot : String × String × Int) (values : AssetDiscovery)
    (b : Asset) (t : AssetStore) : Prop
  | inserted : s.findSlot slot = none → Inserted s b t → b.slot = slot → b.generation = 1 →
      b.toAssetDownload = .cleared → Discovered s slot values b t
  | same {a : Asset} {now : Time} : s.findSlot slot = some a → sameDiscovery values a = true →
      Rewrote s a.id (rediscoveredValues values now) a b t → Discovered s slot values b t
  | changed {a : Asset} {now : Time} : s.findSlot slot = some a → sameDiscovery values a = false →
      Rewrote s a.id (resetValues values now) a b t → Discovered s slot values b t

section Upsert

variable {s : AssetStore} {newId contentId : String} {value : AssetUpsert}
variable {values : AssetDiscovery} {now : Time}

theorem discovered_insertAsset :
    Tx.AllOrNothing s (insertAsset (newAsset newId contentId value values now))
      (Discovered s (contentId, value.kind, value.position) values) := by
  refine allOrNothing_insertAsset.mono fun b t h => ?_
  obtain ⟨rfl, hslot, hins⟩ := h
  exact .inserted hslot hins rfl rfl rfl

theorem discovered_observeSlot (attempts : Nat) :
    ∀ observed, Tx.AllOrNothing s (observeSlot newId contentId value values now attempts observed)
      (Discovered s (contentId, value.kind, value.position) values) := by
  induction attempts with
  | zero =>
    intro observed
    rcases observed with _ | ⟨id, generation, status⟩
    · exact .throw _
    · exact .throw _
  | succ attempts ih =>
    intro observed
    unfold observeSlot
    refine .bind (Tx.Within.read Tx.ReadOnly.chains _) fun found hfound => ?_
    have hslot : s.findSlot (contentId, value.kind, value.position) = found :=
      Except.ok.inj (Prod.mk.inj hfound).1
    cases found with
    | none => exact discovered_insertAsset
    | some a =>
      dsimp only
      by_cases hsame : sameDiscovery values a = true
      · rw [if_pos hsame]
        refine allOrNothing_updateAsset_bind (fun _ => rfl) ?_ (ih _)
        intro a' b t hr _
        have hrow := hr.row
        rw [(findSlot_some hslot).1] at hrow
        cases hrow
        exact .same hslot hsame hr
      · rw [if_neg hsame]
        refine .catching ?_ (fun _ => ih _)
        refine allOrNothing_casUpdate fun a' b t hr _ _ => ?_
        have hrow := hr.row
        rw [(findSlot_some hslot).1] at hrow
        cases hrow
        exact .changed hslot (by simpa using hsame) hr

theorem discovered_upsertForContent {identity : AssetIdentity} {sqlite : Bool} :
    Tx.AllOrNothing s (upsertForContent identity sqlite newId contentId value now)
      (fun b t => ∃ values, identity.prepareDiscovery contentId value s = (.ok values, s) ∧
        Discovered s (contentId, value.kind, value.position) values b t) := by
  refine .bind (readOnly_prepareDiscovery _ _ _) fun values hvalues => ?_
  refine .mono ?_ fun b t h => ⟨values, hvalues, h⟩
  refine .bind (Tx.Within.read Tx.ReadOnly.chains _) fun taken _ => ?_
  split
  · exact discovered_insertAsset
  · exact discovered_observeSlot 5 none

end Upsert

/-- What any call does: nothing, an edit of an admitted row, or a new row. -/
inductive Called (c : AssetCall) (s t : AssetStore) : Prop
  | refused : t = s → Called c s t
  | edited {b : Asset} : c.Edits s b t → Called c s t
  | inserted {b : Asset} : Inserted s b t → b.generation = 1 → b.toAssetDownload = .cleared →
      Called c s t

theorem called_of_edits {m : AssetSession Asset} {c : AssetCall} {s : AssetStore}
    (h : Tx.AllOrNothing s m (c.Edits s)) : Called c s (m s).2 := by
  cases hrun : m s with
  | mk r t =>
    cases r with
    | ok b => exact .edited (h.all b t hrun)
    | error e => exact .refused (h.nothing e t hrun)

/-- An upsert presents nothing, so every row is admitted. -/
theorem Discovered.called {s t : AssetStore} {slot : String × String × Int}
    {values : AssetDiscovery} {b : Asset} (h : Discovered s slot values b t) {sqlite : Bool}
    {newId contentId : String} {value : AssetUpsert} {now : Time} :
    Called (.upsertForContent sqlite newId contentId value now) s t := by
  have hadmits : ∀ a, (AssetCall.upsertForContent sqlite newId contentId value now).Admitted s a := by
    intro a
    constructor
    · intro _ h
      cases h
    · intro _ h
      cases h
    · intro _ h
      cases h
  cases h with
  | inserted _ hins _ hgen hdown => exact .inserted hins hgen hdown
  | same hslot _ hr =>
    refine .edited ⟨_, _, _, hr, ?_, hadmits _⟩
    rw [hr.written]
    exact .rediscovered _ _
  | changed hslot _ hr =>
    refine .edited ⟨_, _, _, hr, ?_, hadmits _⟩
    rw [hr.written]
    exact .reset _ _

theorem called (identity : AssetIdentity) (c : AssetCall) (s : AssetStore) :
    Called c s (c.run identity s).2 := by
  cases c with
  | upsertForContent sqlite newId contentId value now =>
    show Called _ s (upsertForContent identity sqlite newId contentId value now s).2
    cases hrun : upsertForContent identity sqlite newId contentId value now s with
    | mk r t =>
      cases r with
      | ok b =>
        obtain ⟨values, _, h⟩ := discovered_upsertForContent.all b t hrun
        exact h.called
      | error e => exact .refused (discovered_upsertForContent.nothing e t hrun)
  | reset => exact called_of_edits edits_reset
  | queue => exact called_of_edits edits_queue
  | start => exact called_of_edits edits_start
  | fail => exact called_of_edits edits_fail
  | verify => exact called_of_edits edits_verify
  | resetVerifiedArchive => exact called_of_edits edits_resetVerifiedArchive
  | recoverExpiredDownload => exact called_of_edits edits_recoverExpiredDownload
  | resumeReclaimedPreparedResult => exact called_of_edits edits_resumeReclaimedPreparedResult

/-! ## Runs -/

/-- Every row of the table is sound. -/
def AssetStore.Sound (s : AssetStore) : Prop := ∀ id a, s.assets.get? id = some a → a.Sound

/-- Each row that is there stays there and its generation does not go back. -/
def AssetStore.Advances (s t : AssetStore) : Prop :=
  ∀ id a, s.assets.get? id = some a → ∃ b, t.assets.get? id = some b ∧ a.generation ≤ b.generation

theorem sound_of_cleared {b : Asset} (h : b.toAssetDownload = .cleared) : b.Sound := by
  refine ⟨fun hb => ?_, fun _ => ?_, fun _ => ?_⟩
  · simp [Asset.holdsBytes, h, AssetDownload.cleared] at hb
  · simp [Asset.unpublished, h, AssetDownload.cleared]
  · simp [h, AssetDownload.cleared]

theorem get?_withOthers (s : AssetStore) (jobs : Table Scheduler.Job.id)
    (contents : Table Content.id) (id : String) :
    (s.withOthers jobs contents).assets.get? id = (s.assets.get? id).map (unlinked jobs) := by
  exact Table.get?_update s.assets (fun _ => true) (unlinked jobs) (by intro a; rfl) id

/-- A row of the next store is a row of this one, an edit of it, or new and untouched. -/
theorem assetStep_row {identity : AssetIdentity} {s t : AssetStore} {e : AssetEvent}
    (h : assetStep identity s e t) {id : String} {b : Asset} (hb : t.assets.get? id = some b) :
    s.assets.get? id = some b ∨ (∃ a, s.assets.get? id = some a ∧ AssetEdit a b) ∨
      (s.assets.get? id = none ∧ b.toAssetDownload = .cleared) := by
  cases e with
  | others jobs contents =>
    cases h
    rw [get?_withOthers] at hb
    obtain ⟨a, ha, rfl⟩ := Option.map_eq_some_iff.1 hb
    exact .inr (.inl ⟨a, ha, .unlinked jobs⟩)
  | call c =>
    cases h
    cases called identity c s with
    | refused hs =>
      rw [hs] at hb
      exact .inl hb
    | edited hedit =>
      obtain ⟨id', values, a, hr, hab, _⟩ := hedit
      rw [hr.get?] at hb
      by_cases hid : id = id'
      · rw [if_pos hid] at hb
        cases hb
        exact .inr (.inl ⟨a, hid ▸ hr.row, hab⟩)
      · rw [if_neg hid] at hb
        exact .inl hb
    | inserted hins _ hdown =>
      rw [hins.rows] at hb
      split at hb
      · rename_i hid
        cases hb
        exact .inr (.inr ⟨hid ▸ hins.fresh, hdown⟩)
      · exact .inl hb

theorem assetStep_sound {identity : AssetIdentity} {s t : AssetStore} {e : AssetEvent}
    (hs : s.Sound) (h : assetStep identity s e t) : t.Sound := by
  intro id b hb
  rcases assetStep_row h hb with ha | ⟨a, ha, hab⟩ | ⟨_, hdown⟩
  · exact hs id b ha
  · exact hab.sound (hs id a ha)
  · exact sound_of_cleared hdown

theorem assetStep_advances {identity : AssetIdentity} {s t : AssetStore} {e : AssetEvent}
    (h : assetStep identity s e t) : s.Advances t := by
  intro id a ha
  cases e with
  | others jobs contents =>
    cases h
    refine ⟨unlinked jobs a, ?_, Int.le_refl _⟩
    rw [get?_withOthers, ha]
    rfl
  | call c =>
    cases h
    cases called identity c s with
    | refused hs =>
      rw [hs]
      exact ⟨a, ha, Int.le_refl _⟩
    | @edited b hedit =>
      obtain ⟨id', values, a', hr, hab, _⟩ := hedit
      rw [hr.get?]
      by_cases hid : id = id'
      · subst hid
        have hrow := hr.row
        rw [ha] at hrow
        cases hrow
        exact ⟨b, if_pos rfl, hab.generation_le⟩
      · rw [if_neg hid]
        exact ⟨a, ha, Int.le_refl _⟩
    | inserted hins => exact ⟨a, hins.kept ha, Int.le_refl _⟩

theorem advances_of_trace {identity : AssetIdentity} {s t : AssetStore} {h : List AssetEvent}
    (ht : Trace (assetStep identity) s h t) : s.Advances t := by
  refine ht.relates (fun s id a ha => ⟨a, ha, Int.le_refl _⟩) ?_ (fun _ _ _ => assetStep_advances)
  intro s t u hst htu id a ha
  obtain ⟨b, hb, hab⟩ := hst id a ha
  obtain ⟨c, hc, hbc⟩ := htu id b hb
  exact ⟨c, hc, Int.le_trans hab hbc⟩

theorem sound_of_trace {identity : AssetIdentity} {s t : AssetStore} {h : List AssetEvent}
    (hs : s.assets = .empty) (ht : Trace (assetStep identity) s h t) : t.Sound := by
  refine ht.invariant (fun _ _ _ => assetStep_sound) ?_
  intro id a ha
  rw [hs] at ha
  cases ha

/-- What a caller presents does not fit the row: another generation, a lease that its job does
not hold, or another download job. `start` gives a row without a download job its first one. -/
def AssetCall.Misses (c : AssetCall) (s : AssetStore) (a : Asset) : Prop :=
  (∃ g, c.generation? = some g ∧ a.generation ≠ g) ∨
    (∃ lease, c.lease? = some lease ∧ lease.held [.claimed, .running] s = false) ∨
    ∃ j, c.jobId? = some j ∧ a.downloadJobId ≠ some j ∧
      (c.isStart = true → a.downloadJobId ≠ none)

theorem AssetCall.Admitted.not_misses {c : AssetCall} {s : AssetStore} {a : Asset}
    (h : c.Admitted s a) (ha : a.Sound) : ¬ c.Misses s a := by
  rintro (⟨g, hg, hne⟩ | ⟨lease, hl, hheld⟩ | ⟨j, hj, hne, hstart⟩)
  · exact hne (h.generation g hg)
  · rw [h.lease lease hl] at hheld
    cases hheld
  · rcases h.job j hj with heq | ⟨hs, hq⟩
    · exact hne heq
    · exact hstart hs (ha.queued hq)

/-- A call that misses a row leaves it as it is. -/
theorem AssetCall.Misses.unchanged {identity : AssetIdentity} {c : AssetCall} {s : AssetStore}
    {id : String} {a : Asset} (ha : s.assets.get? id = some a) (hsound : a.Sound)
    (h : c.Misses s a) : (c.run identity s).2.assets.get? id = some a := by
  cases called identity c s with
  | refused hs => rw [hs, ha]
  | edited hedit =>
    obtain ⟨id', values, a', hr, _, hadmitted⟩ := hedit
    rw [hr.get?]
    by_cases hid : id = id'
    · subst hid
      have hrow := hr.row
      rw [ha] at hrow
      cases hrow
      exact False.elim (hadmitted.not_misses hsound h)
    · rw [if_neg hid, ha]
  | inserted hins => exact hins.kept ha

/-- An upsert that succeeds on a taken slot either keeps the download of the row or opens the
next generation. -/
theorem upsert_of_taken {identity : AssetIdentity} {s t : AssetStore} {sqlite : Bool}
    {newId contentId : String} {value : AssetUpsert} {now : Time} {a b : Asset}
    (hrun : (AssetCall.upsertForContent sqlite newId contentId value now).run identity s =
      (.ok b, t)) (ha : s.assets.get? a.id = some a)
    (hslot : a.slot = (contentId, value.kind, value.position)) :
    ∃ values, identity.prepareDiscovery contentId value s = (.ok values, s) ∧
      t.assets.get? a.id = some b ∧
      (sameDiscovery values a = true →
        b.toAssetDownload = a.toAssetDownload ∧ b.generation = a.generation) ∧
      (sameDiscovery values a = false →
        b.toAssetDownload = .cleared ∧ b.generation = a.generation + 1) := by
  obtain ⟨values, hvalues, h⟩ := discovered_upsertForContent.all b t hrun
  have hfound := findSlot_of_get? ha
  rw [hslot] at hfound
  refine ⟨values, hvalues, ?_⟩
  cases h with
  | inserted hnone =>
    rw [hfound] at hnone
    cases hnone
  | same hsome hsame hr =>
    rw [hfound] at hsome
    cases hsome
    refine ⟨by rw [hr.get?, if_pos rfl], fun _ => ?_, fun hno => ?_⟩
    · rw [hr.written]
      exact ⟨rfl, rfl⟩
    · rw [hsame] at hno
      cases hno
  | changed hsome hsame hr =>
    rw [hfound] at hsome
    cases hsome
    refine ⟨by rw [hr.get?, if_pos rfl], fun hyes => ?_, fun _ => ?_⟩
    · rw [hsame] at hyes
      cases hyes
    · rw [hr.written]
      exact ⟨rfl, rfl⟩

/-- The fences over whole runs from an empty asset table, for any number of discovery passes and
workers. -/
theorem assets_fenced {identity : AssetIdentity} {s t : AssetStore} {h : List AssetEvent}
    (hs : s.assets = .empty) (ht : Trace (assetStep identity) s h t) :
    (∀ k u, Trace (assetStep identity) t k u → ∀ id a, t.assets.get? id = some a →
      ∃ b, u.assets.get? id = some b ∧ a.generation ≤ b.generation) ∧
    (∀ id a, t.assets.get? id = some a →
      (a.published = true ↔ a.holdsBytes = true) ∧
      (a.unpublished = true ↔ a.holdsBytes = false)) ∧
    (∀ (c : AssetCall) id a, t.assets.get? id = some a → c.Misses t a →
      (c.run identity t).2.assets.get? id = some a) ∧
    ∀ sqlite newId contentId value now a b u,
      (AssetCall.upsertForContent sqlite newId contentId value now).run identity t = (.ok b, u) →
      t.assets.get? a.id = some a → a.slot = (contentId, value.kind, value.position) →
      ∃ values, identity.prepareDiscovery contentId value t = (.ok values, t) ∧
        u.assets.get? a.id = some b ∧
        (sameDiscovery values a = true →
          b.toAssetDownload = a.toAssetDownload ∧ b.generation = a.generation) ∧
        (sameDiscovery values a = false →
          b.toAssetDownload = .cleared ∧ b.generation = a.generation + 1) := by
  have hsound := sound_of_trace hs ht
  refine ⟨fun k u hk => advances_of_trace hk, fun id a ha => ?_, fun c id a ha hmiss => ?_, ?_⟩
  · exact ⟨(hsound id a ha).published_iff, (hsound id a ha).unpublished_iff⟩
  · exact hmiss.unchanged ha (hsound id a ha)
  · intro sqlite newId contentId value now a b u hrun ha hslot
    exact upsert_of_taken hrun ha hslot

/-- The events one after the other. -/
def assetRun (identity : AssetIdentity) : List AssetEvent → AssetStore → AssetStore
  | [], s => s
  | .call c :: rest, s => assetRun identity rest (c.run identity s).2
  | .others jobs contents :: rest, s => assetRun identity rest (s.withOthers jobs contents)

theorem trace_assetRun (identity : AssetIdentity) (h : List AssetEvent) (s : AssetStore) :
    Trace (assetStep identity) s h (assetRun identity h s) := by
  induction h generalizing s with
  | nil => exact .nil
  | cons e rest ih =>
    cases e with
    | call c => exact Trace.cons (e := .call c) rfl (ih _)
    | others jobs contents => exact Trace.cons (e := .others jobs contents) rfl (ih _)

/-- The digests are those of the two documents below. -/
def sampleIdentity : AssetIdentity where
  sourceHint := some
  redactText := id
  redactMapping := id
  canonicalDirectUrl := some
  plainText _ := some
  canonicalSha256 ascii _ :=
    if ascii then "8a2779ae0198d44abd17f1a25e36aaed43c1ea29be202d7ecc24c1eda1747b8f"
    else "d3bc6e2fa1d8a30d83823c4ca113b0344dd6e6aa79be448d062205de54b55722"

def sampleClip : AssetUpsert where
  kind := "video"
  position := 0
  platform := "xhs"
  contentRemoteType := some "note"
  contentRemoteId := some "64f0"
  remoteId := some "clip"
  sourceUrl := some "https://cdn.example/clip.mp4"
  locator := []
  width := none
  height := none
  durationMs := none
  raw := []

def sampleJob (status : Scheduler.JobStatus) : Scheduler.Job where
  id := "job-1"
  runId := none
  subscriptionId := none
  accountId := none
  platform := some .xhs
  jobType := "asset_download"
  naturalKey := "asset-1:1"
  payload := .obj []
  status := status
  priority := 0
  attempts := 1
  maxAttempts := 3
  availableAt := 0
  scheduledFor := none
  leaseOwner := some "worker-1"
  leaseToken := some "token-1"
  leaseExpiresAt := some 100
  lastErrorCode := none
  lastErrorMessage := none
  startedAt := none
  finishedAt := none
  createdAt := 0
  updatedAt := 0

def sampleLease : DownloadLease := ⟨"job-1", "worker-1", "token-1", 50⟩

def sampleOthers (status : Scheduler.JobStatus) : AssetEvent :=
  .others ⟨[sampleJob status], List.nodup_singleton _⟩
    ⟨[⟨"content-1", "xhs", "note", "64f0"⟩], List.nodup_singleton _⟩

/-- The clip is discovered and queued, and a worker claims a job for it. -/
def sampleQueued : List AssetEvent :=
  [sampleOthers .claimed, .call (.upsertForContent true "asset-1" "content-1" sampleClip 10),
    .call (.queue "asset-1" 1 "discovered" 20)]

def sampleBytes : VerifiedBytes :=
  ⟨"video/mp4", 4, "67905ad3cc2dd52b1f5f6a6d2814de0396618b29b4238b9af5207aeb69936e6d",
    "sha256/67/clip.mp4", none, none⟩

/-- The worker downloads the clip and reports its bytes. -/
def sampleVerified : List AssetEvent :=
  sampleQueued ++ [.call (.start "asset-1" 1 "queued" sampleLease), sampleOthers .running,
    .call (.verify "asset-1" 1 "downloading" sampleLease sampleBytes)]

/-- A worker that comes back with an old token finds the verified row and does not change it. -/
theorem assets_fenced_sample :
    ∃ a, (assetRun sampleIdentity sampleVerified .empty).assets.get? "asset-1" = some a ∧
      a.holdsBytes = true ∧ a.published = true ∧
      ((AssetCall.verify "asset-1" 1 "downloading" { sampleLease with leaseToken := "token-0" }
        sampleBytes).run sampleIdentity
          (assetRun sampleIdentity sampleVerified .empty)).2.assets.get? "asset-1" = some a := by
  have hget : ((assetRun sampleIdentity sampleVerified .empty).assets.get? "asset-1").map
      (·.status) = some .verified := by decide +kernel
  obtain ⟨a, ha, hstatus⟩ := Option.map_eq_some_iff.1 hget
  have hholds : a.holdsBytes = true := by simp [Asset.holdsBytes, hstatus]
  obtain ⟨_, hbytes, hfence, _⟩ :=
    assets_fenced rfl (trace_assetRun sampleIdentity sampleVerified .empty)
  refine ⟨a, ha, hholds, (hbytes _ a ha).1.2 hholds, hfence _ _ a ha (.inr (.inl ?_))⟩
  exact ⟨_, rfl, by decide +kernel⟩

/-- A worker presents a job that is not the download job of the row, which has none, and starts
the download under it. -/
theorem first_start_fits_no_job :
    ¬ ∀ (identity : AssetIdentity) (s t : AssetStore) (h : List AssetEvent), s.assets = .empty →
      Trace (assetStep identity) s h t → ∀ (c : AssetCall) (id : String) (a : Asset),
      t.assets.get? id = some a → (∃ j, c.jobId? = some j ∧ a.downloadJobId ≠ some j) →
      (c.run identity t).2.assets.get? id = some a := by
  intro hclaim
  have hget : ((assetRun sampleIdentity sampleQueued .empty).assets.get? "asset-1").map
      (fun a => (a.downloadJobId, a.status)) = some (none, .queued) := by decide +kernel
  obtain ⟨a, ha, hrow⟩ := Option.map_eq_some_iff.1 hget
  obtain ⟨hjob, hstatus⟩ := Prod.mk.inj hrow
  have hkept := hclaim sampleIdentity .empty _ sampleQueued rfl (trace_assetRun _ _ _)
    (.start "asset-1" 1 "queued" sampleLease) "asset-1" a ha
    ⟨"job-1", rfl, by rw [hjob]; exact nofun⟩
  have hstarted : (((AssetCall.start "asset-1" 1 "queued" sampleLease).run sampleIdentity
      (assetRun sampleIdentity sampleQueued .empty)).2.assets.get? "asset-1").map (·.status) =
      some .downloading := by decide +kernel
  rw [hkept] at hstarted
  rw [Option.map_some, hstatus] at hstarted
  cases hstarted

end MediaSync.Media
