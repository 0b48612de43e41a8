import MediaSync.Ingestion.SyncService

/-!
# What a synchronization accounts for

A run is followed call by call. Until `advance_cursor` neither the session nor
the committed rows show another cursor; the page loop keeps the identities of
all items it was given in `processed_ids`, and every one of them stands for an
item that was stored. The loop asks for no more items than it may still store,
so the limit of items never cuts a page.

What stands for an item there is its remote id alone. Where the pages of a run
give one remote id to two kinds of content, one of the two is not stored.
-/

namespace MediaSync.Sync

open Program
open Accounts (AuthStatus)
open Scheduler (Platform RunStatus)

section Calls

variable {host : SyncHost} {α β : Type}

/-- From the given state the program ends so. -/
abbrev Ends (host : SyncHost) (post : Except SyncError α → SyncWorld → Prop) (m : Syncing α)
    (w : SyncWorld) : Prop :=
  Upholds host.perform (fun _ => True) post m w

theorem ends_pure {a : α} {post : Except SyncError α → SyncWorld → Prop} {w : SyncWorld}
    (h : post (.ok a) w) : Ends host post (pure a) w :=
  ⟨trivial, h⟩

theorem ends_throw {e : SyncError} {post : Except SyncError α → SyncWorld → Prop} {w : SyncWorld}
    (h : post (.error e) w) : Ends host post (Prog.throw e) w :=
  ⟨trivial, h⟩

theorem ends_bind {m : Syncing α} {f : α → Syncing β}
    {post : Except SyncError α → SyncWorld → Prop}
    {post' : Except SyncError β → SyncWorld → Prop} {w : SyncWorld} (hm : Ends host post m w)
    (hok : ∀ a t, post (.ok a) t → Ends host post' (f a) t)
    (herror : ∀ e t, post (.error e) t → post' (.error e) t) : Ends host post' (m >>= f) w :=
  hm.bind (fun a t _ h => hok a t h) (fun e t _ h => herror e t h)

/-- A call and what follows its reply. -/
theorem ends_call_bind {c : SyncCall} {f : c.Value → Syncing β}
    {post : Except SyncError β → SyncWorld → Prop} {w : SyncWorld}
    (hok : ∀ v, (host.perform c w).1 = .ok v → Ends host post (f v) (host.perform c w).2)
    (herror : ∀ e, (host.perform c w).1 = .error e → post (.error e) (host.perform c w).2) :
    Ends host post (call c >>= f) w := by
  refine ⟨trivial, ?_⟩
  cases hreply : (host.perform c w).1 with
  | ok v => exact hok v hreply
  | error e => exact ⟨trivial, herror e hreply⟩

theorem ends_require {b : Bool} {e : SyncError} {f : Unit → Syncing β}
    {post : Except SyncError β → SyncWorld → Prop} {w : SyncWorld}
    (hok : b = true → Ends host post (f ()) w) (herror : post (.error e) w) :
    Ends host post (Prog.require b e >>= f) w := by
  cases b with
  | true => exact hok rfl
  | false => exact ends_throw herror

end Calls

/-- A call after which the rows are as before, or are committed. -/
def SyncCall.quiet : SyncCall → Bool
  | .fetchAuthorPage _ _ _ | .createRun _ _ | .transitionRun _ _ _ _
  | .upsertContentWithAssets _ _ | .advanceCursor _ _ _ => false
  | _ => true

/-- The world after quiet calls. -/
structure Quiet (w t : SyncWorld) : Prop where
  requests : t.requests = w.requests
  pages : t.pages = w.pages
  upserts : t.upserts = w.upserts
  session : t.session = w.session
  committed : t.committed = w.committed ∨ t.committed = w.session

theorem quiet_perform (host : SyncHost) (c : SyncCall) (hc : c.quiet = true) (w : SyncWorld) :
    Quiet w (host.perform c w).2 := by
  cases c with
  | beforeExternalIo =>
    simp only [SyncHost.perform]
    split
    · exact ⟨rfl, rfl, rfl, rfl, .inl rfl⟩
    · exact ⟨rfl, rfl, rfl, rfl, .inr rfl⟩
    · exact ⟨rfl, rfl, rfl, rfl, .inl rfl⟩
  | fetchAuthorPage | createRun | transitionRun | upsertContentWithAssets | advanceCursor =>
    cases hc
  | _ => exact ⟨rfl, rfl, rfl, rfl, .inl rfl⟩

/-- A guard raises nothing but a lost lease. -/
theorem guard_error {host : SyncHost} {w : SyncWorld} {e : SyncError}
    (h : (host.perform .guardPersistence w).1 = .error e) : e = .leaseLost := by
  simp only [SyncHost.perform] at h
  split at h
  · cases h
  · exact (Except.error.inj h).symm

section Run

variable {host : SyncHost} {request : SyncRequest} {w₀ w t : SyncWorld} {s : PageState}
  {runId : String}

/-- The calls so far are within the limits of the request. -/
structure WithinLimits (request : SyncRequest) (w : SyncWorld) : Prop where
  requests : w.requests.length ≤ request.maxPages
  upserts : w.upserts.length ≤ request.maxItems

/-- The rows show the cursor that they showed before the run. -/
structure Unpublished (w₀ w : SyncWorld) : Prop where
  session : w.session.cursor = w₀.committed.cursor ∧
    w.session.checkpointRevision = w₀.committed.checkpointRevision
  committed : w.committed.cursor = w₀.committed.cursor ∧
    w.committed.checkpointRevision = w₀.committed.checkpointRevision

theorem Unpublished.quiet (h : Unpublished w₀ w) (hq : Quiet w t) : Unpublished w₀ t := by
  refine ⟨hq.session ▸ h.session, ?_⟩
  rcases hq.committed with hc | hc
  · exact hc ▸ h.committed
  · exact hc ▸ h.session

theorem WithinLimits.quiet (h : WithinLimits request w) (hq : Quiet w t) :
    WithinLimits request t :=
  ⟨hq.requests ▸ h.requests, hq.upserts ▸ h.upserts⟩

/-- How a part of the run may raise. A lost lease may come after the cursor is written, as its
caller rolls the session back. -/
structure Failed (request : SyncRequest) (w₀ : SyncWorld) (e : SyncError) (w : SyncWorld) :
    Prop where
  limits : WithinLimits request w
  committed : w.committed.cursor = w₀.committed.cursor ∧
    w.committed.checkpointRevision = w₀.committed.checkpointRevision
  unpublished : e ≠ .leaseLost → Unpublished w₀ w

theorem Unpublished.failed (h : Unpublished w₀ w) (hl : WithinLimits request w) (e : SyncError) :
    Failed request w₀ e w :=
  ⟨hl, h.committed, fun _ => h⟩

/-! ## The page loop -/

/-- The page that shows an item. -/
def Shown (w : SyncWorld) (c : ContentSnapshot) : Prop := ∃ page ∈ w.pages, c ∈ page.items

theorem Shown.of_pages {c : ContentSnapshot} (h : Shown w c) (hpages : t.pages = w.pages) :
    Shown t c := by
  obtain ⟨page, hpage, hc⟩ := h
  exact ⟨page, hpages ▸ hpage, hc⟩

/-- Between two items: what is processed is what was stored. -/
structure Working (request : SyncRequest) (w₀ : SyncWorld) (s : PageState) (w : SyncWorld) :
    Prop where
  limits : WithinLimits request w
  unpublished : Unpublished w₀ w
  status : w.session.status = some .ingesting
  contents : w.session.contents = w.upserts
  ids : s.processedIds = w.upserts.map ContentSnapshot.remoteId
  nodup : s.processedIds.Nodup
  shown : ∀ c ∈ w.upserts, Shown w c

theorem Working.quiet (h : Working request w₀ s w) (hq : Quiet w t) : Working request w₀ s t where
  limits := h.limits.quiet hq
  unpublished := h.unpublished.quiet hq
  status := hq.session ▸ h.status
  contents := by rw [hq.session, hq.upserts, h.contents]
  ids := by rw [hq.upserts, h.ids]
  nodup := h.nodup
  shown c hc := (h.shown c (hq.upserts ▸ hc)).of_pages hq.pages

theorem Working.failed (h : Working request w₀ s w) (e : SyncError) : Failed request w₀ e w :=
  h.unpublished.failed h.limits e

/-- A quiet call inside the loop. -/
theorem Working.call_quiet {c : SyncCall} (h : Working request w₀ s w) (hc : c.quiet = true)
    {β : Type} {f : c.Value → Syncing β} {post : Except SyncError β → SyncWorld → Prop}
    (hok : ∀ v t, Quiet w t → Working request w₀ s t → Ends host post (f v) t)
    (herror : ∀ e t, Failed request w₀ e t → post (.error e) t) :
    Ends host post (call c >>= f) w := by
  have hq : Quiet w (host.perform c w).2 := quiet_perform host _ hc w
  refine ends_call_bind (fun v _ => ?_) (fun e _ => ?_)
  · exact hok v _ hq (h.quiet hq)
  · exact herror e _ ((h.quiet hq).failed e)

/-- The items of a page are ingested. -/
structure Ingested (request : SyncRequest) (w₀ : SyncWorld) (items : List ContentSnapshot)
    (s : PageState) (w : SyncWorld) (s' : PageState) (t : SyncWorld) : Prop where
  working : Working request w₀ s' t
  seen : ∀ c ∈ items, c.remoteId ∈ s'.processedIds
  kept : ∀ id ∈ s.processedIds, id ∈ s'.processedIds
  requests : t.requests = w.requests
  pages : t.pages = w.pages

/-- How a part of the loop ends. -/
def LoopEnd (request : SyncRequest) (w₀ : SyncWorld) (ok : PageState → SyncWorld → Prop) :
    Except SyncError PageState → SyncWorld → Prop
  | .ok s', t => ok s' t
  | .error e, t => Failed request w₀ e t

theorem Ingested.after {items rest : List ContentSnapshot} {c : ContentSnapshot}
    {s₁ s' : PageState} {w₁ : SyncWorld} (h : Ingested request w₀ rest s₁ w₁ s' t)
    (hitems : items = c :: rest) (hc : c.remoteId ∈ s₁.processedIds)
    (hkept : ∀ id ∈ s.processedIds, id ∈ s₁.processedIds) (hrequests : w₁.requests = w.requests)
    (hpages : w₁.pages = w.pages) : Ingested request w₀ items s w s' t where
  working := h.working
  seen d hd := by
    rw [hitems] at hd
    rcases List.mem_cons.1 hd with rfl | hd
    · exact h.kept _ hc
    · exact h.seen d hd
  kept id hid := h.kept id (hkept id hid)
  requests := h.requests.trans hrequests
  pages := h.pages.trans hpages

/-- A stored item, in a loop that may store it. -/
theorem Working.upsert {content : ContentSnapshot} {assets : List AssetSnapshot} {β : Type}
    {f : Unit → Syncing β} {post : Except SyncError β → SyncWorld → Prop}
    (h : Working request w₀ s w) (hfresh : content.remoteId ∉ s.processedIds)
    (hroom : s.processedIds.length < request.maxItems) (hshown : Shown w content)
    (hok : ∀ s' t, s'.processedIds = s.processedIds ++ [content.remoteId] →
      t.requests = w.requests → t.pages = w.pages → Working request w₀ s' t → Ends host post (f ()) t)
    (herror : ∀ e t, Failed request w₀ e t → post (.error e) t) :
    Ends host post (call (.upsertContentWithAssets content assets) >>= f) w := by
  have hcount : w.upserts.length = s.processedIds.length := by
    rw [h.ids, List.length_map]
  have hupserts : (w.upserts ++ [content]).length ≤ request.maxItems := by
    rw [List.length_append, List.length_singleton]
    omega
  cases hreply : host.upsertContent w.clock with
  | ok done =>
    refine ends_call_bind (fun v _ => ?_) (fun e he => ?_)
    · simp only [SyncHost.perform, hreply]
      refine hok { s with processedIds := s.processedIds ++ [content.remoteId] } _ rfl rfl rfl ?_
      refine ⟨⟨h.limits.requests, hupserts⟩, ⟨h.unpublished.session, h.unpublished.committed⟩,
        h.status, ?_, ?_, ?_, ?_⟩
      · simp only [h.contents]
      · simp only [h.ids, List.map_append, List.map_cons, List.map_nil]
      · exact List.nodup_append.2 ⟨h.nodup, List.nodup_singleton _, fun a ha b hb hab =>
          hfresh (List.mem_singleton.1 hb ▸ hab ▸ ha)⟩
      · intro c hc
        rcases List.mem_append.1 hc with hc | hc
        · exact h.shown c hc
        · exact List.mem_singleton.1 hc ▸ hshown
    · simp only [SyncHost.perform, hreply] at he
      cases he
  | error e =>
    refine ends_call_bind (fun v hv => ?_) (fun e' _ => ?_)
    · simp only [SyncHost.perform, hreply] at hv
      cases hv
    · simp only [SyncHost.perform, hreply]
      refine herror e' _ (Unpublished.failed ?_ ?_ e')
      · exact ⟨h.unpublished.session, h.unpublished.committed⟩
      · exact ⟨h.limits.requests, hupserts⟩

theorem Working.restate {s' : PageState} (h : Working request w₀ s w)
    (hids : s'.processedIds = s.processedIds) : Working request w₀ s' w where
  limits := h.limits
  unpublished := h.unpublished
  status := h.status
  contents := h.contents
  ids := hids.trans h.ids
  nodup := hids ▸ h.nodup
  shown := h.shown

/-- All items of a page are processed, as the page is no longer than what may still be stored. -/
theorem ingestItems_ends {author : AuthorSnapshot} {items : List ContentSnapshot}
    (h : Working request w₀ s w) (hshown : ∀ c ∈ items, Shown w c)
    (hroom : items.length + s.processedIds.length ≤ request.maxItems) :
    Ends host (LoopEnd request w₀ (Ingested request w₀ items s w))
      (ingestItems request author items s) w := by
  induction items generalizing s w with
  | nil =>
    unfold ingestItems
    exact ends_pure ⟨h, fun _ hc => absurd hc List.not_mem_nil, fun _ hid => hid, rfl, rfl⟩
  | cons content rest ih =>
    rw [List.length_cons] at hroom
    obtain ⟨hcontent, hrest⟩ := List.forall_mem_cons.1 hshown
    unfold ingestItems
    split
    · rename_i hseen
      refine (ih h hrest (by omega)).weaken fun r t _ hr => ?_
      cases r with
      | error e => exact hr
      | ok s' => exact hr.after rfl hseen (fun _ hid => hid) rfl rfl
    · rename_i hfresh
      refine ends_require (fun _ => ?_) (h.failed _)
      refine h.call_quiet rfl (fun _ t₁ hq₁ h₁ => ?_) (fun _ _ hf => hf)
      refine h₁.call_quiet rfl (fun assets t₂ hq₂ h₂ => ?_) (fun _ _ hf => hf)
      refine ends_require (fun _ => ?_) (h₂.failed _)
      refine h₂.call_quiet rfl (fun _ t₃ hq₃ h₃ => ?_) (fun _ _ hf => hf)
      have hpages₃ : t₃.pages = w.pages := by rw [hq₃.pages, hq₂.pages, hq₁.pages]
      refine h₃.upsert hfresh (by omega) (hcontent.of_pages hpages₃)
        (fun s₁ t₄ hids hrequests hpages h₄ => ?_) (fun _ _ hf => hf)
      have hbefore : t₄.requests = w.requests ∧ t₄.pages = w.pages :=
        ⟨by rw [hrequests, hq₃.requests, hq₂.requests, hq₁.requests], hpages.trans hpages₃⟩
      have hkept : ∀ id ∈ s.processedIds, id ∈ s.processedIds ++ [content.remoteId] :=
        fun id hid => List.mem_append_left _ hid
      have hmem : content.remoteId ∈ s.processedIds ++ [content.remoteId] :=
        List.mem_append_right _ (List.mem_singleton.2 rfl)
      have hlength : (s.processedIds ++ [content.remoteId]).length = s.processedIds.length + 1 :=
        List.length_append
      dsimp only
      split
      · -- the limit is met: nothing of the page is left
        rename_i hfull
        have hnil : rest = [] := List.eq_nil_of_length_eq_zero (by omega)
        refine ends_pure ⟨h₄.restate hids.symm, ?_, hkept, hbefore.1, hbefore.2⟩
        intro c hc
        rw [hnil, List.mem_singleton] at hc
        rw [hc]
        exact hmem
      · refine Upholds.weaken (ih (h₄.restate hids.symm)
          (fun c hc => (hrest c hc).of_pages hbefore.2) (by dsimp only; omega)) fun r t _ hr => ?_
        cases r with
        | error e => exact hr
        | ok s' => exact hr.after rfl hmem hkept hbefore.1 hbefore.2

/-- Between two pages, with the pages that are left. -/
structure Looping (request : SyncRequest) (w₀ : SyncWorld) (n : Nat) (s : PageState)
    (w : SyncWorld) : Prop where
  working : Working request w₀ s w
  left : w.requests.length + n ≤ request.maxPages
  seen : ∀ page ∈ w.pages, ∀ c ∈ page.items, c.remoteId ∈ s.processedIds
  started : w.pages = [] → s.processedIds = []
  final : ∀ page ∈ w.pages.getLast?, s.finalCursor = page.nextCursor

/-- The page loop is left with all pages ingested. -/
def Looped (request : SyncRequest) (w₀ : SyncWorld) (s : PageState) (w : SyncWorld) : Prop :=
  Looping request w₀ 0 s w ∧ w.pages ≠ []

/-- The next page, within the pages that are left. -/
theorem Looping.fetch {n limit : Nat} {author : AuthorSnapshot} {cursor : Option String} {β : Type}
    {f : Page → Syncing β} {post : Except SyncError β → SyncWorld → Prop}
    (h : Looping request w₀ (n + 1) s w)
    (hok : ∀ page t, t.pages = w.pages ++ [page] → t.requests.length + n ≤ request.maxPages →
      Working request w₀ s t → Ends host post (f page) t)
    (herror : ∀ e t, Failed request w₀ e t → post (.error e) t) :
    Ends host post (call (.fetchAuthorPage author cursor limit) >>= f) w := by
  have hleft : w.requests.length + 1 + n ≤ request.maxPages := by
    have hbefore := h.left
    omega
  have hafter : Working request w₀ s
      (host.perform (.fetchAuthorPage author cursor limit) w).2 := by
    refine ⟨⟨?_, h.working.limits.upserts⟩,
      ⟨h.working.unpublished.session, h.working.unpublished.committed⟩, h.working.status,
      h.working.contents, h.working.ids, h.working.nodup, ?_⟩
    · simp only [SyncHost.perform, List.length_append, List.length_singleton]
      omega
    · intro c hc
      obtain ⟨page, hpage, hmem⟩ := h.working.shown c hc
      exact ⟨page, List.mem_append_left _ hpage, hmem⟩
  refine ends_call_bind (fun page hreply => ?_) (fun e _ => herror e _ (hafter.failed e))
  have hreply : host.fetchAuthorPage w.clock author cursor limit = .ok page := hreply
  refine hok page _ ?_ ?_ hafter
  · simp only [SyncHost.perform, hreply]
    rfl
  · simp only [SyncHost.perform, List.length_append, List.length_singleton]
    exact hleft

theorem Looping.quiet {n : Nat} (h : Looping request w₀ n s w) (hq : Quiet w t) :
    Looping request w₀ n s t where
  working := h.working.quiet hq
  left := hq.requests ▸ h.left
  seen := hq.pages ▸ h.seen
  started := hq.pages ▸ h.started
  final := hq.pages ▸ h.final

/-- The loop ends within the pages that are left, with every item of its pages processed. -/
theorem ingestPages_ends {author : AuthorSnapshot} {n : Nat} (h : Looping request w₀ n s w) :
    Ends host (LoopEnd request w₀ (Looped request w₀)) (ingestPages request author n s) w := by
  induction n generalizing s w with
  | zero =>
    unfold ingestPages
    exact ends_throw (h.working.failed _)
  | succ n ih =>
    unfold ingestPages
    split
    · rename_i hfull
      refine ends_pure ⟨⟨h.working, ?_, h.seen, h.started, h.final⟩, ?_⟩
      · have hleft := h.left
        omega
      · intro hnil
        have hmax := request.maxItems_range.1
        rw [h.started hnil] at hfull
        exact absurd hfull (by simp only [List.length_nil]; omega)
    · rename_i hroom
      refine ends_require (fun _ => ?_) (h.working.failed _)
      dsimp only
      let s₁ : PageState :=
        { s with visitedCursors := s.visitedCursors ++ s.currentCursor.toList }
      have h₁ : Looping request w₀ (n + 1) s₁ w :=
        ⟨h.working.restate rfl, h.left, h.seen, h.started, h.final⟩
      refine h₁.working.call_quiet rfl (fun _ t₁ hq₁ _ => ?_) (fun _ _ hf => hf)
      refine (h₁.quiet hq₁).fetch (fun page t₂ hpages hleft h₂ => ?_) (fun _ _ hf => hf)
      refine ends_require (fun hlimit => ?_) (h₂.failed _)
      refine ends_require (fun _ => ?_) (h₂.failed _)
      have hitems : page.items.length + s₁.processedIds.length ≤ request.maxItems := by
        have hlength := of_decide_eq_true hlimit
        have hids : s₁.processedIds = s.processedIds := rfl
        rw [hids]
        omega
      have hshown : ∀ c ∈ page.items, Shown t₂ c := fun c hc =>
        ⟨page, hpages ▸ List.mem_append_right _ (List.mem_singleton.2 rfl), hc⟩
      refine ends_bind (ingestItems_ends h₂ hshown hitems) (fun s₂ t₃ hs₂ => ?_) (fun _ _ hf => hf)
      have hs₂ : Ingested request w₀ page.items s₁ t₂ s₂ t₃ := hs₂
      have hall : t₃.pages = w.pages ++ [page] := by
        rw [hs₂.pages, hpages, hq₁.pages]
      have hseen : ∀ p ∈ t₃.pages, ∀ c ∈ p.items, c.remoteId ∈ s₂.processedIds := by
        intro p hp c hc
        rw [hall] at hp
        rcases List.mem_append.1 hp with hp | hp
        · exact hs₂.kept _ (h₁.seen p hp c hc)
        · rw [List.mem_singleton.1 hp] at hc
          exact hs₂.seen c hc
      have hfinal : ∀ p ∈ t₃.pages.getLast?, page.nextCursor = p.nextCursor := by
        intro p hp
        rw [hall, List.getLast?_concat] at hp
        cases hp
        rfl
      have hmany : t₃.pages ≠ [] := by
        rw [hall]
        exact List.append_ne_nil_of_right_ne_nil _ (List.cons_ne_nil _ _)
      have hrequests : t₃.requests.length + n ≤ request.maxPages := hs₂.requests ▸ hleft
      split
      · refine ends_pure ⟨⟨hs₂.working.restate rfl, ?_, hseen, fun hnil => absurd hnil hmany,
          hfinal⟩, hmany⟩
        omega
      · exact ih ⟨hs₂.working.restate rfl, hrequests, hseen, fun hnil => absurd hnil hmany, hfinal⟩

/-- Nothing is fetched or stored yet. -/
structure Idle (w₀ w : SyncWorld) : Prop where
  requests : w.requests = []
  pages : w.pages = []
  upserts : w.upserts = []
  contents : w.session.contents = []
  unpublished : Unpublished w₀ w

theorem Idle.limits (h : Idle w₀ w) : WithinLimits request w := by
  refine ⟨?_, ?_⟩
  · rw [h.requests]
    exact Nat.zero_le _
  · rw [h.upserts]
    exact Nat.zero_le _

theorem Idle.failed (h : Idle w₀ w) (e : SyncError) : Failed request w₀ e w :=
  h.unpublished.failed h.limits e

theorem Idle.quiet (h : Idle w₀ w) (hq : Quiet w t) : Idle w₀ t :=
  ⟨hq.requests ▸ h.requests, hq.pages ▸ h.pages, hq.upserts ▸ h.upserts,
    hq.session ▸ h.contents, h.unpublished.quiet hq⟩

/-- A status moves along its transitions, and nothing else moves. -/
theorem transition_store (target : RunStatus) (store : SyncStore) :
    (SyncHost.transition target store).2.cursor = store.cursor ∧
      (SyncHost.transition target store).2.checkpointRevision = store.checkpointRevision ∧
      (SyncHost.transition target store).2.contents = store.contents ∧
      ((SyncHost.transition target store).1 = .ok () →
        (SyncHost.transition target store).2.status = some target) := by
  unfold SyncHost.transition
  split
  · exact ⟨rfl, rfl, rfl, fun h => by cases h⟩
  · split
    · exact ⟨rfl, rfl, rfl, fun _ => rfl⟩
    · exact ⟨rfl, rfl, rfl, fun h => by cases h⟩

theorem Unpublished.transition {errorCode errorMessage : Option String} {target : RunStatus}
    (h : Unpublished w₀ w) : Unpublished w₀
      (host.perform (.transitionRun runId target errorCode errorMessage) w).2 := by
  obtain ⟨hcursor, hrevision, -, -⟩ := transition_store target w.session
  exact ⟨⟨hcursor.trans h.session.1, hrevision.trans h.session.2⟩, h.committed⟩

theorem Idle.transition {errorCode errorMessage : Option String} {target : RunStatus}
    (h : Idle w₀ w) : Idle w₀
      (host.perform (.transitionRun runId target errorCode errorMessage) w).2 :=
  ⟨h.requests, h.pages, h.upserts, (transition_store target w.session).2.2.1.trans h.contents,
    h.unpublished.transition⟩

theorem Idle.createRun (manifest : RunManifest) (h : Idle w₀ w) : Idle w₀
    (host.perform (.createRun request.subscriptionId manifest) w).2 := by
  simp only [SyncHost.perform]
  split
  · exact ⟨h.requests, h.pages, h.upserts, h.contents, ⟨h.unpublished.session, h.unpublished.committed⟩⟩
  · exact ⟨h.requests, h.pages, h.upserts, h.contents, ⟨h.unpublished.session, h.unpublished.committed⟩⟩

/-- A call before the page loop. -/
theorem Idle.call {c : SyncCall} {β : Type} {f : c.Value → Syncing β}
    {post : Except SyncError β → SyncWorld → Prop} (h : Idle w₀ (host.perform c w).2)
    (hok : ∀ v, (host.perform c w).1 = .ok v → Ends host post (f v) (host.perform c w).2)
    (herror : ∀ e t, Failed request w₀ e t → post (.error e) t) :
    Ends host post (call c >>= f) w :=
  ends_call_bind hok (fun e _ => herror e _ (h.failed e))

/-- The cursor is published, and every item that a page has shown stands for a stored one. -/
structure Accounted (request : SyncRequest) (w₀ w : SyncWorld) : Prop where
  limits : WithinLimits request w
  status : w.session.status = some .succeeded
  revision : w.session.checkpointRevision = w₀.committed.checkpointRevision + 1
  cursor : ∃ page ∈ w.pages.getLast?, w.session.cursor = page.nextCursor
  contents : w.session.contents = w.upserts
  nodup : (w.upserts.map ContentSnapshot.remoteId).Nodup
  seen : ∀ page ∈ w.pages, ∀ c ∈ page.items, c.remoteId ∈ w.upserts.map ContentSnapshot.remoteId
  shown : ∀ c ∈ w.upserts, Shown w c

/-- How a run ends. -/
def RunEnd (request : SyncRequest) (w₀ : SyncWorld) :
    Except SyncError SyncResult → SyncWorld → Prop
  | .ok result, t => (result.status = .succeeded ∧ Accounted request w₀ t) ∨
      (result.status ≠ .succeeded ∧ Unpublished w₀ t ∧ WithinLimits request t)
  | .error e, t => Failed request w₀ e t

/-- The rows of a run whose last calls have succeeded. -/
theorem Looped.accounted (h : Looped request w₀ s w) (hrequests : t.requests = w.requests)
    (hpages : t.pages = w.pages) (hupserts : t.upserts = w.upserts)
    (hsession : t.session =
      ⟨some .succeeded, s.finalCursor, w.session.checkpointRevision + 1, w.session.contents⟩) :
    Accounted request w₀ t := by
  obtain ⟨hloop, hmany⟩ := h
  refine ⟨⟨hrequests ▸ hloop.working.limits.requests, hupserts ▸ hloop.working.limits.upserts⟩,
    by rw [hsession], ?_, ?_, ?_, ?_, ?_, ?_⟩
  · rw [hsession]
    exact congrArg (· + 1) hloop.working.unpublished.session.2
  · obtain ⟨page, hpage⟩ := Option.ne_none_iff_exists'.1
      (mt List.getLast?_eq_none_iff.1 hmany)
    refine ⟨page, ?_, ?_⟩
    · rw [hpages]
      exact hpage
    · rw [hsession]
      exact hloop.final page hpage
  · rw [hsession, hupserts]
    exact hloop.working.contents
  · rw [hupserts, ← hloop.working.ids]
    exact hloop.working.nodup
  · intro page hpage c hc
    rw [hpages] at hpage
    rw [hupserts, ← hloop.working.ids]
    exact hloop.seen page hpage c hc
  · intro c hc
    exact (hloop.working.shown c (hupserts ▸ hc)).of_pages hpages

theorem publish_ends (h : Looped request w₀ s w) :
    Ends host (RunEnd request w₀) (publish request runId s) w := by
  unfold publish
  refine h.1.working.call_quiet rfl (fun _ t₁ hq₁ h₁ => ?_) (fun _ _ hf => hf)
  have hloop₁ : Looped request w₀ s t₁ := ⟨h.1.quiet hq₁, hq₁.pages ▸ h.2⟩
  cases hreply : host.advanceCursor t₁.clock with
  | error e =>
    refine ends_call_bind (fun v hv => ?_) (fun e' _ => ?_)
    · simp only [SyncHost.perform, hreply] at hv
      cases hv
    · simp only [SyncHost.perform, hreply]
      refine Unpublished.failed ?_ ?_ e'
      · exact ⟨h₁.unpublished.session, h₁.unpublished.committed⟩
      · exact ⟨h₁.limits.requests, h₁.limits.upserts⟩
  | ok done =>
    refine ends_call_bind (fun v _ => ?_) (fun e he => ?_)
    · simp only [SyncHost.perform, hreply, SyncHost.advance, if_pos h₁.status]
      refine ends_call_bind (fun _ _ => ?_) (fun e he => ?_)
      · refine ends_call_bind (fun _ _ => ?_) (fun e he => ?_)
        · refine ends_pure (.inl ⟨rfl, hloop₁.accounted rfl rfl rfl ?_⟩)
          simp only [SyncHost.perform, SyncHost.transition, h₁.status]
          rfl
        · -- an ingesting run may succeed
          simp only [SyncHost.perform, SyncHost.transition, h₁.status] at he
          cases he
      · obtain rfl := guard_error he
        exact ⟨⟨h₁.limits.requests, h₁.limits.upserts⟩, h₁.unpublished.committed,
          fun hne => absurd rfl hne⟩
    · simp only [SyncHost.perform, hreply, SyncHost.advance, if_pos h₁.status] at he
      cases he

theorem fail_ends {target : RunStatus} {errorCode errorMessage : String} {retryAfter : Option ℚ}
    (h : Unpublished w₀ w) (hl : WithinLimits request w) (htarget : target ≠ .succeeded) :
    Ends host (RunEnd request w₀) (fail runId target errorCode errorMessage retryAfter) w := by
  unfold fail
  have hq : Quiet w (host.perform .guardPersistence w).2 := quiet_perform host _ rfl w
  have h₁ := h.quiet hq
  have hl₁ := hl.quiet hq
  refine ends_call_bind (fun _ _ => ?_) (fun e _ => h₁.failed hl₁ e)
  have h₂ : Unpublished w₀ (host.perform (.transitionRun runId target (some errorCode)
    (some errorMessage)) (host.perform .guardPersistence w).2).2 := h₁.transition
  refine ends_call_bind (fun _ _ => ?_) (fun e _ => h₂.failed ⟨hl₁.requests, hl₁.upserts⟩ e)
  exact ends_pure (.inr ⟨htarget, h₂, hl₁.requests, hl₁.upserts⟩)

theorem adapterFailureStatus_ne (error : AdapterError) :
    adapterFailureStatus error ≠ .succeeded := by
  unfold adapterFailureStatus
  split_ifs <;> decide

/-- No failure is handled by a further cursor. -/
theorem handle_ends {e : SyncError} (h : Failed request w₀ e w) :
    Ends host (RunEnd request w₀) (handle runId e) w := by
  cases e with
  | leaseLost => exact ends_throw h
  | cancelled => exact ends_throw h
  | contentOwnershipConflict =>
    exact fail_ends (h.unpublished (by decide)) h.limits (by decide)
  | adapter error =>
    exact fail_ends (h.unpublished (fun heq => by cases heq)) h.limits (adapterFailureStatus_ne error)
  | domain code =>
    exact fail_ends (h.unpublished (fun heq => by cases heq)) h.limits (by decide)
  | other => exact fail_ends (h.unpublished (by decide)) h.limits (by decide)

/-- How the adapter's session is established. -/
def SessionEnd (request : SyncRequest) (w₀ : SyncWorld) :
    Except SyncError (Option SyncResult) → SyncWorld → Prop
  | .ok none, t => Idle w₀ t
  | .ok (some result), t => RunEnd request w₀ (.ok result) t
  | .error e, t => Failed request w₀ e t

theorem ensureSession_ends (h : Idle w₀ w) :
    Ends host (SessionEnd request w₀) (ensureSession runId) w := by
  unfold ensureSession
  refine Idle.call (h.quiet (quiet_perform host _ rfl w)) (fun _ _ => ?_) (fun _ _ hf => hf)
  have h₁ := h.quiet (quiet_perform host .beforeExternalIo rfl w)
  generalize (host.perform .beforeExternalIo w).2 = w₁ at h₁ ⊢
  refine Idle.call (h₁.quiet (quiet_perform host _ rfl w₁)) (fun (status : AuthStatus) _ => ?_)
    (fun _ _ hf => hf)
  have h₂ := h₁.quiet (quiet_perform host .ensureSession rfl w₁)
  generalize (host.perform .ensureSession w₁).2 = w₂ at h₂ ⊢
  have hends : ∀ (target : RunStatus) (code message : Option String) (result : SyncResult),
      result.status ≠ .succeeded → Ends host (SessionEnd request w₀) (do
        call .guardPersistence
        call (.transitionRun runId target code message)
        pure (some result)) w₂ := by
    intro target code message result hstatus
    refine Idle.call (h₂.quiet (quiet_perform host _ rfl w₂)) (fun _ _ => ?_) (fun _ _ hf => hf)
    have h₃ := h₂.quiet (quiet_perform host .guardPersistence rfl w₂)
    refine Idle.call h₃.transition (fun _ _ => ?_) (fun _ _ hf => hf)
    exact ends_pure (.inr ⟨hstatus, h₃.transition.unpublished, h₃.transition.limits⟩)
  split
  · exact hends _ _ _ _ (show RunStatus.awaitingAuth ≠ .succeeded by decide)
  · split
    · exact hends _ _ _ _ (show RunStatus.failedRetryable ≠ .succeeded by decide)
    · exact ends_pure h₂

/-- How the author is resolved. -/
def AuthorEnd (request : SyncRequest) (w₀ : SyncWorld) :
    Except SyncError AuthorSnapshot → SyncWorld → Prop
  | .ok _, t => Idle w₀ t ∧ t.session.status = some .ingesting
  | .error e, t => Failed request w₀ e t

theorem resolveAuthor_ends (h : Idle w₀ w) :
    Ends host (AuthorEnd request w₀) (resolveAuthor request runId) w := by
  unfold resolveAuthor
  have hquiet : ∀ {c : SyncCall} {β : Type} {f : c.Value → Syncing β}
      {post : Except SyncError β → SyncWorld → Prop} {v : SyncWorld}, Idle w₀ v → c.quiet = true →
      (∀ r u, Idle w₀ u → Ends host post (f r) u) →
      (∀ e u, Failed request w₀ e u → post (.error e) u) → Ends host post (call c >>= f) v :=
    fun hv hc hok herror => Idle.call (hv.quiet (quiet_perform host _ hc _))
      (fun r _ => hok r _ (hv.quiet (quiet_perform host _ hc _))) herror
  refine hquiet h rfl (fun _ w₁ h₁ => ?_) (fun _ _ hf => hf)
  refine Idle.call h₁.transition (fun _ _ => ?_) (fun _ _ hf => hf)
  refine hquiet h₁.transition rfl (fun _ w₂ h₂ => ?_) (fun _ _ hf => hf)
  refine hquiet h₂ rfl (fun author w₃ h₃ => ?_) (fun _ _ hf => hf)
  refine ends_require (fun _ => ?_) (h₃.failed _)
  refine hquiet h₃ rfl (fun _ w₄ h₄ => ?_) (fun _ _ hf => hf)
  refine hquiet h₄ rfl (fun _ w₅ h₅ => ?_) (fun _ _ hf => hf)
  refine hquiet h₅ rfl (fun _ w₆ h₆ => ?_) (fun _ _ hf => hf)
  refine Idle.call h₆.transition (fun _ hreply => ?_) (fun _ _ hf => hf)
  exact ends_pure ⟨h₆.transition, (transition_store .ingesting w₆.session).2.2.2 hreply⟩

theorem looping_start (h : Idle w₀ w) (hstatus : w.session.status = some .ingesting) :
    Looping request w₀ request.maxPages (startState request) w := by
  refine ⟨⟨h.limits, h.unpublished, hstatus, ?_, ?_, List.nodup_nil, ?_⟩, ?_, ?_, fun _ => rfl, ?_⟩
  · rw [h.contents, h.upserts]
  · rw [h.upserts]
    rfl
  · rw [h.upserts]
    exact fun c hc => absurd hc List.not_mem_nil
  · rw [h.requests]
    exact le_of_eq (Nat.zero_add _)
  · rw [h.pages]
    exact fun page hpage => absurd hpage List.not_mem_nil
  · rw [h.pages]
    exact fun page hpage => by cases hpage

theorem synchronize_ends (h : Idle w₀ w) :
    Ends host (RunEnd request w₀) (synchronize request runId) w := by
  unfold synchronize
  refine ends_bind (ensureSession_ends h) (fun session w₁ h₁ => ?_) (fun _ _ hf => hf)
  cases session with
  | some result => exact ends_pure h₁
  | none =>
    refine ends_bind (resolveAuthor_ends h₁) (fun author w₂ h₂ => ?_) (fun _ _ hf => hf)
    refine ends_bind (ingestPages_ends (looping_start h₂.1 h₂.2)) (fun s w₃ h₃ => ?_)
      (fun _ _ hf => hf)
    exact publish_ends h₃

theorem run_ends (service : SyncService) (h : Idle w₀ w) :
    Ends host (RunEnd request w₀) (service.run request) w := by
  unfold SyncService.run
  refine Idle.call (h.quiet (quiet_perform host _ rfl w)) (fun capabilities _ => ?_) (fun _ _ hf => hf)
  have h₁ := h.quiet (quiet_perform host .capabilities rfl w)
  generalize (host.perform .capabilities w).2 = w₁ at h₁ ⊢
  refine ends_require (fun _ => ?_) (h₁.failed _)
  refine ends_require (fun _ => ?_) (h₁.failed _)
  refine Idle.call (h₁.quiet (quiet_perform host _ rfl w₁)) (fun _ _ => ?_) (fun _ _ hf => hf)
  have h₂ := h₁.quiet (quiet_perform host .guardPersistence rfl w₁)
  generalize (host.perform .guardPersistence w₁).2 = w₂ at h₂ ⊢
  refine Idle.call (h₂.createRun _) (fun runId _ => ?_) (fun _ _ hf => hf)
  have h₃ : Idle w₀ (host.perform (.createRun request.subscriptionId ⟨service.adapterName,
    request.accountPlatform, request.maxItems, request.pageSize⟩) w₂).2 := h₂.createRun _
  generalize (host.perform (.createRun request.subscriptionId ⟨service.adapterName,
    request.accountPlatform, request.maxItems, request.pageSize⟩) w₂).2 = w₃ at h₃ ⊢
  refine Idle.call (h₃.quiet (quiet_perform host _ rfl w₃)) (fun _ _ => ?_) (fun _ _ hf => hf)
  have h₄ := h₃.quiet (quiet_perform host .guardPersistence rfl w₃)
  generalize (host.perform .guardPersistence w₃).2 = w₄ at h₄ ⊢
  refine Idle.call h₄.transition (fun _ _ => ?_) (fun _ _ hf => hf)
  refine Upholds.catching (synchronize_ends h₄.transition) (fun _ _ _ hok => hok) ?_
  exact fun e t _ hf => handle_ends hf

end Run

/-- Wherever the run ended, its subscription is committed with another checkpoint. -/
def Advanced (w t : SyncWorld) : Prop :=
  t.committed.cursor ≠ w.committed.cursor ∨
    t.committed.checkpointRevision ≠ w.committed.checkpointRevision

instance (w t : SyncWorld) : Decidable (Advanced w t) := inferInstanceAs (Decidable (_ ∨ _))

/-- Every item of a page has a row, its own or that of a duplicate. -/
def EveryItemStored (t : SyncWorld) : Prop :=
  ∀ page ∈ t.pages, ∀ c ∈ page.items, ∃ d ∈ t.committed.contents, d.identity = c.identity

instance (t : SyncWorld) : Decidable (EveryItemStored t) :=
  inferInstanceAs (Decidable (∀ page ∈ t.pages, ∀ c ∈ page.items, ∃ d ∈ t.committed.contents,
    d.identity = c.identity))

/-- The run accounts for its pages. -/
structure AccountsForPages (request : SyncRequest) (w : SyncWorld) (r : Except SyncError SyncResult)
    (t : SyncWorld) : Prop where
  limits : WithinLimits request t
  succeeded : Advanced w t → (∃ result, r = .ok result ∧ result.status = .succeeded) ∧
    t.committed.status = some .succeeded
  cursor : Advanced w t → ∃ page ∈ t.pages.getLast?, t.committed.cursor = page.nextCursor
  stored : Advanced w t → EveryItemStored t

/-- The pages give every remote id to one content. -/
def OneKind (pages : List Page) : Prop :=
  ∀ p ∈ pages, ∀ c ∈ p.items, ∀ q ∈ pages, ∀ d ∈ q.items,
    c.remoteId = d.remoteId → c.identity = d.identity

instance (pages : List Page) : Decidable (OneKind pages) :=
  inferInstanceAs (Decidable (∀ p ∈ pages, ∀ c ∈ p.items, ∀ q ∈ pages, ∀ d ∈ q.items,
    c.remoteId = d.remoteId → c.identity = d.identity))

section Published

variable {request : SyncRequest} {w t : SyncWorld} {e : SyncError} {result : SyncResult}

theorem Fresh.idle (hw : Fresh w) : Idle w w where
  requests := hw.requests
  pages := hw.pages
  upserts := hw.upserts
  contents := hw.contents
  unpublished := ⟨⟨hw.session ▸ rfl, hw.session ▸ rfl⟩, rfl, rfl⟩

/-- Rows of one remote id are one row. -/
theorem Accounted.same_row (h : Accounted request w t) {c d : ContentSnapshot}
    (hc : c ∈ t.session.contents) (hd : d ∈ t.session.contents) (hid : c.remoteId = d.remoteId) :
    c = d := by
  rw [h.contents] at hc hd
  exact List.inj_on_of_nodup_map h.nodup hc hd hid

/-- The rows account for the pages exactly where a remote id is one content's. -/
theorem Accounted.stored_iff (h : Accounted request w t) :
    EveryItemStored { t with committed := t.session } ↔ OneKind t.pages := by
  refine ⟨fun hstored p hp c hc q hq d hd hid => ?_, fun hone page hpage c hc => ?_⟩
  · obtain ⟨c', hc', hcc⟩ := hstored p hp c hc
    obtain ⟨d', hd', hdd⟩ := hstored q hq d hd
    have hids : c'.remoteId = d'.remoteId := by
      calc c'.remoteId = c.remoteId := congrArg (·.2.2) hcc
        _ = d.remoteId := hid
        _ = d'.remoteId := congrArg (·.2.2) hdd.symm
    rw [← hcc, ← hdd, h.same_row hc' hd' hids]
  · obtain ⟨d, hd, hid⟩ := List.mem_map.1 (h.seen page hpage c hc)
    obtain ⟨q, hq, hdq⟩ := h.shown d hd
    refine ⟨d, ?_, hone q hq d hdq page hpage c hc hid⟩
    show d ∈ t.session.contents
    exact h.contents ▸ hd

theorem Accounted.accountsForPages_iff (h : Accounted request w t)
    (hresult : result.status = .succeeded) :
    AccountsForPages request w (.ok result) { t with committed := t.session } ↔
      (Advanced w { t with committed := t.session } → OneKind t.pages) := by
  refine ⟨fun hall hadvanced => h.stored_iff.1 (hall.stored hadvanced), fun hone => ?_⟩
  exact ⟨⟨h.limits.requests, h.limits.upserts⟩, fun _ => ⟨⟨result, rfl, hresult⟩, h.status⟩,
    fun _ => h.cursor, fun hadvanced => h.stored_iff.2 (hone hadvanced)⟩

/-- Without a new checkpoint there is nothing to account for. -/
theorem accountsForPages_of_not_advanced {r : Except SyncError SyncResult}
    (hl : WithinLimits request t) (h : ¬ Advanced w t) :
    AccountsForPages request w r t ↔ (Advanced w t → OneKind t.pages) :=
  ⟨fun _ hadvanced => absurd hadvanced h, fun _ => ⟨hl, fun hadvanced => absurd hadvanced h,
    fun hadvanced => absurd hadvanced h, fun hadvanced => absurd hadvanced h⟩⟩

end Published

/-- A run accounts for its pages exactly where those that it publishes give every remote id to one
content. -/
theorem sync_accounts_iff (host : SyncHost) (service : SyncService) (request : SyncRequest)
    (w : SyncWorld) (hw : Fresh w) :
    AccountsForPages request w (host.sync service request w).1 (host.sync service request w).2 ↔
      (Advanced w (host.sync service request w).2 →
        OneKind (host.sync service request w).2.pages) := by
  have hend : RunEnd request w (run host.perform (service.run request) w).1
      (run host.perform (service.run request) w).2 := (run_ends service hw.idle).run
  unfold SyncHost.sync
  cases hrun : run host.perform (service.run request) w with
  | mk r t =>
    rw [hrun] at hend
    cases r with
    | error e =>
      refine accountsForPages_of_not_advanced hend.limits ?_
      rintro (hcursor | hrevision)
      · exact hcursor hend.committed.1
      · exact hrevision hend.committed.2
    | ok result =>
      rcases hend with ⟨hstatus, haccounted⟩ | ⟨-, hunpublished, hlimits⟩
      · exact haccounted.accountsForPages_iff hstatus
      · refine accountsForPages_of_not_advanced ⟨hlimits.requests, hlimits.upserts⟩ ?_
        rintro (hcursor | hrevision)
        · exact hcursor hunpublished.session.1
        · exact hrevision hunpublished.session.2

def sampleContent (remoteType remoteId : String) : ContentSnapshot :=
  ⟨.bili, remoteType, remoteId, "9", none⟩

/-- The host whose adapter gives these pages, each behind its cursor. -/
def sampleHost (pages : Option String → Page) : SyncHost where
  leaseHeld _ := true
  commits _ := .ok true
  capabilities _ := .ok ⟨.bili, true⟩
  ensureSession _ := .ok .authenticated
  resolveAuthor _ _ := .ok ⟨.bili, "9"⟩
  fetchAuthorPage _ _ cursor _ := .ok (pages cursor)
  resolveAssets _ _ := .ok []
  createRun _ := .ok "run"
  upsertAuthor _ := .ok ()
  upsertContent _ := .ok ()
  advanceCursor _ := .ok ()

theorem sampleItems_range : 1 ≤ 4 ∧ 4 ≤ 1000 := by decide

theorem samplePageSize_range : 1 ≤ 2 ∧ 2 ≤ 1000 := by decide

theorem samplePages_range : 1 ≤ 100 ∧ 100 ≤ 10000 := by decide

/-- At most four items, two on a page. -/
def sampleRequest : SyncRequest where
  subscriptionId := "subscription"
  accountPlatform := .bili
  creatorReference := "9"
  cursor := none
  maxItems := 4
  pageSize := 2
  maxPages := 100
  maxItems_range := sampleItems_range
  pageSize_range := samplePageSize_range
  maxPages_range := samplePages_range

def sampleWorld : SyncWorld :=
  ⟨0, [], [], [], ⟨none, none, 0, []⟩, ⟨none, none, 0, []⟩⟩

theorem sampleWorld_fresh : Fresh sampleWorld := ⟨rfl, rfl, rfl, rfl, rfl, rfl⟩

/-- The second page repeats an item of the first one, and there are more items than the limit. -/
def overlappingPages : Option String → Page
  | none => ⟨[sampleContent "content" "7", sampleContent "content" "6"], some "a"⟩
  | some "a" => ⟨[sampleContent "content" "6", sampleContent "content" "5"], some "b"⟩
  | _ => ⟨[sampleContent "content" "4"], some "c"⟩

theorem overlapping_run :
    ((sampleHost overlappingPages).sync ⟨"fake"⟩ sampleRequest sampleWorld).2.requests =
        [(none, 2), (some "a", 2), (some "b", 1)] ∧
      ((sampleHost overlappingPages).sync ⟨"fake"⟩ sampleRequest sampleWorld).2.upserts =
        ["7", "6", "5", "4"].map (sampleContent "content") ∧
      OneKind ((sampleHost overlappingPages).sync ⟨"fake"⟩ sampleRequest sampleWorld).2.pages := by
  decide +kernel

/-- The repeated item is stored once, and the run ends at its limit. -/
theorem sync_accounts_iff_sample :
    ((sampleHost overlappingPages).sync ⟨"fake"⟩ sampleRequest sampleWorld).2.requests =
        [(none, 2), (some "a", 2), (some "b", 1)] ∧
      ((sampleHost overlappingPages).sync ⟨"fake"⟩ sampleRequest sampleWorld).2.upserts =
        ["7", "6", "5", "4"].map (sampleContent "content") ∧
      AccountsForPages sampleRequest sampleWorld
        ((sampleHost overlappingPages).sync ⟨"fake"⟩ sampleRequest sampleWorld).1
        ((sampleHost overlappingPages).sync ⟨"fake"⟩ sampleRequest sampleWorld).2 :=
  ⟨overlapping_run.1, overlapping_run.2.1,
    (sync_accounts_iff (sampleHost overlappingPages) ⟨"fake"⟩ sampleRequest sampleWorld
      sampleWorld_fresh).2 fun _ => overlapping_run.2.2⟩

/-- An upload and a dynamic with one number. -/
def mixedPage (_ : Option String) : Page :=
  ⟨[sampleContent "content" "7", sampleContent "dynamic" "7"], none⟩

/-- The dynamic with the number of an upload on its page is not stored, and the cursor passes it. -/
theorem dynamic_of_known_number_skipped :
    ¬ AccountsForPages sampleRequest sampleWorld
      ((sampleHost mixedPage).sync ⟨"fake"⟩ sampleRequest sampleWorld).1
      ((sampleHost mixedPage).sync ⟨"fake"⟩ sampleRequest sampleWorld).2 := by
  intro h
  have hadvanced : Advanced sampleWorld
      ((sampleHost mixedPage).sync ⟨"fake"⟩ sampleRequest sampleWorld).2 := by
    decide +kernel
  have hskipped : ¬ EveryItemStored
      ((sampleHost mixedPage).sync ⟨"fake"⟩ sampleRequest sampleWorld).2 := by
    decide +kernel
  exact hskipped (h.stored hadvanced)

end MediaSync.Sync
