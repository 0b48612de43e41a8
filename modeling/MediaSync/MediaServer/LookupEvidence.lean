import MediaSync.MediaServer.Lookup

/-!
# What a lookup proves

A pass over a Jellyfin library that returns has seen every row that the server
reports, each of them once, on pages that follow one another; its verdict is
about all of them. A library that does not change and that keeps within the
limits gets this verdict, whatever page size the server honours. An Emby response
is taken for a verdict only where no row can be missing from it.
-/

namespace MediaSync.MediaServer

open Python
open Transaction (except_bind_ok)
open Checks

/-- The rows of the target, as they are kept. -/
def hits (target : LookupTarget) (rows : List LookupRow) : List LookupMatch :=
  (rows.filter fun row => row.IsTarget target).map fun row => ⟨row.itemId, row.etag⟩

@[simp] theorem hits_nil (target : LookupTarget) : hits target [] = [] := rfl

theorem hits_append (target : LookupTarget) (xs ys : List LookupRow) :
    hits target (xs ++ ys) = hits target xs ++ hits target ys := by
  simp only [hits, List.filter_append, List.map_append]

theorem hits_target {target : LookupTarget} {row : LookupRow} (h : row.IsTarget target) :
    hits target [row] = [⟨row.itemId, row.etag⟩] := by
  simp only [hits, List.filter_cons, h, decide_true, if_true, List.filter_nil, List.map_cons,
    List.map_nil]

theorem hits_other {target : LookupTarget} {row : LookupRow} (h : ¬row.IsTarget target) :
    hits target [row] = [] := by
  simp only [hits, List.filter_cons, h, decide_false, List.filter_nil, List.map_nil,
    Bool.false_eq_true, if_false]

/-- The item is matched exactly where it is the only row of the target. -/
structure Verdict (target : LookupTarget) (rows : List LookupRow) (result : ItemLookupResult) :
    Prop where
  matched : ∀ i, result.lookupState = .matched ∧ result.itemId = some i ↔
    ∃ row ∈ rows, row.itemId = i ∧ row.IsTarget target ∧
      ∀ other ∈ rows, other.IsTarget target → other = row
  notFound : result.lookupState = .notFound ↔ ∀ row ∈ rows, ¬row.IsTarget target

namespace Connector

variable {connector : Connector} {target : LookupTarget} {rows : List LookupRow}

/-- A completed result is the verdict on the rows whose hits were found. -/
theorem verdict_of_completed {seenIds : List String} {budget : PassBudget}
    {result : ItemLookupResult} (hfew : (hits target rows).length ≤ 1)
    (h : connector.completedLookupResult target (hits target rows) seenIds budget = .ok result) :
    Verdict target rows result := by
  unfold completedLookupResult at h
  dsimp only at h
  split at h
  · cases h
  · cases h
    unfold hits at hfew ⊢
    rw [List.length_map] at hfew
    have hmem : ∀ row, row ∈ rows.filter (fun row => decide (row.IsTarget target)) ↔
        row ∈ rows ∧ row.IsTarget target := by
      intro row
      rw [List.mem_filter, decide_eq_true_eq]
    generalize rows.filter (fun row => decide (row.IsTarget target)) = found at hfew hmem
    rcases found with _ | ⟨row, _ | ⟨second, more⟩⟩
    · have hnone : ∀ row ∈ rows, ¬row.IsTarget target := fun row hrow htarget =>
        List.not_mem_nil ((hmem row).2 ⟨hrow, htarget⟩)
      refine ⟨fun i => ⟨fun h => ?_, ?_⟩, ⟨fun _ => hnone, fun _ => rfl⟩⟩
      · have hstate : LookupState.notFound = .matched := h.1
        cases hstate
      · rintro ⟨row, hrow, -, htarget, -⟩
        exact absurd htarget (hnone row hrow)
    · obtain ⟨hrow, htarget⟩ := (hmem row).1 (List.mem_singleton_self row)
      have honly : ∀ other ∈ rows, other.IsTarget target → other = row := fun other hother h =>
        List.mem_singleton.1 ((hmem other).2 ⟨hother, h⟩)
      refine ⟨fun i => ⟨?_, ?_⟩, ⟨fun h => ?_, fun h => absurd htarget (h row hrow)⟩⟩
      · rintro ⟨-, hi⟩
        exact ⟨row, hrow, Option.some.inj hi, htarget, honly⟩
      · rintro ⟨other, hother, rfl, hothers, -⟩
        rw [honly other hother hothers]
        exact ⟨rfl, rfl⟩
      · have hstate : LookupState.matched = .notFound := h
        cases hstate
    · simp only [List.length_cons] at hfew
      omega

/-- What a row adds. -/
theorem addRow_ok {seen seen' : List String × List LookupMatch} {rawItem : Json}
    (h : addRow target seen rawItem = .ok seen') :
    ∃ row, validatedLookupRow target.providerKey rawItem = .ok row ∧ row.itemId ∉ seen.1 ∧
      seen' = (seen.1 ++ [row.itemId], seen.2 ++ hits target [row]) ∧
      (seen.2.length ≤ 1 → seen'.2.length ≤ 1) := by
  obtain ⟨row, hrow, h⟩ := except_bind_ok h
  obtain ⟨_, hnew, h⟩ := except_bind_ok h
  have hnew := require_ok.1 hnew
  rw [Bool.not_eq_true', List.contains_eq_mem, decide_eq_false_iff_not] at hnew
  refine ⟨row, hrow, hnew, ?_⟩
  by_cases htarget : row.IsTarget target
  · rw [if_pos htarget] at h
    obtain ⟨_, hfirst, h⟩ := except_bind_ok h
    have hfirst := of_decide_eq_true (require_ok.1 hfirst)
    cases h
    rw [hits_target htarget]
    exact ⟨rfl, fun _ => by rw [List.length_append, hfirst]; rfl⟩
  · rw [if_neg htarget] at h
    cases h
    rw [hits_other htarget, List.append_nil]
    exact ⟨rfl, id⟩

/-- Rows that have been added are all read, and their ids are new. -/
theorem addRows_ok {rawItems : List Json} {seen seen' : List String × List LookupMatch}
    (hdistinct : seen.1.Nodup) (h : rawItems.foldlM (addRow target) seen = .ok seen') :
    ∃ rows, rawItems.mapM (validatedLookupRow target.providerKey) = .ok rows ∧
      seen' = (seen.1 ++ rows.map LookupRow.itemId, seen.2 ++ hits target rows) ∧
      seen'.1.Nodup ∧ (seen.2.length ≤ 1 → seen'.2.length ≤ 1) := by
  induction rawItems generalizing seen with
  | nil =>
    rw [List.foldlM_nil] at h
    cases h
    refine ⟨[], List.mapM_nil, ?_, hdistinct, id⟩
    rw [List.map_nil, hits_nil, List.append_nil, List.append_nil]
  | cons rawItem rawItems ih =>
    rw [List.foldlM_cons] at h
    obtain ⟨next, hnext, h⟩ := except_bind_ok h
    obtain ⟨row, hrow, hnew, rfl, hfew⟩ := addRow_ok hnext
    have hnodup : (seen.1 ++ [row.itemId]).Nodup :=
      List.Nodup.append hdistinct (List.nodup_singleton _)
        (List.disjoint_singleton.2 hnew)
    obtain ⟨rows, hrows, rfl, hdistinct', hfew'⟩ := ih hnodup h
    refine ⟨row :: rows, ?_, ?_, hdistinct', fun hseen => hfew' (hfew hseen)⟩
    · rw [List.mapM_cons, hrow]
      show (rawItems.mapM (validatedLookupRow target.providerKey) >>= _) = _
      rw [hrows]
      rfl
    · have hcons : hits target (row :: rows) = hits target [row] ++ hits target rows :=
        hits_append target [row] rows
      rw [hcons, List.map_cons, ← List.append_assoc, List.append_assoc, List.append_assoc]
      rfl

/-! ## Passes -/

/-- What was read of a page. -/
structure PageRecord where
  rawItems : List Json
  total : Nat
  bytes : Nat

/-- The rows on the pages before. -/
def rowsBefore (pages : List PageRecord) (k : Nat) : Nat :=
  ((pages.take k).map fun page => page.rawItems.length).sum

section Passes

variable {server : Nat → Query → ServerReply}

/-- The server has answered a request with a page that starts there. -/
def Answered (connector : Connector) (server : Nat → Query → ServerReply) (k start : Nat)
    (page : PageRecord) : Prop :=
  ∃ limit response, request connector.limits connector.reader limit
      (server k (connector.jellyfinQuery start)) = .ok response ∧
    connector.readPage start response.payload = .ok ⟨page.rawItems, page.total⟩ ∧
    response.bodyByteCount = page.bytes

/-- The state of a pass, by the pages and the rows that have been read. -/
structure Progress (connector : Connector) (target : LookupTarget)
    (server : Nat → Query → ServerReply) (s : PassState) (pages : List PageRecord)
    (rows : List LookupRow) : Prop where
  answered : ∀ k page, pages[k]? = some page →
    Answered connector server k (rowsBefore pages k) page
  sent : s.sent = (List.range pages.length).map fun k =>
    connector.jellyfinQuery (rowsBefore pages k)
  budget : s.budget = ⟨pages.length, rows.length, (pages.map PageRecord.bytes).sum⟩
  startIndex : s.startIndex = rows.length
  read : (pages.flatMap PageRecord.rawItems).mapM (validatedLookupRow target.providerKey) = .ok rows
  seenIds : s.seenIds = rows.map LookupRow.itemId
  found : s.found = hits target rows
  few : (hits target rows).length ≤ 1
  distinct : (rows.map LookupRow.itemId).Nodup
  totals : ∀ page ∈ pages, s.expectedTotal = some page.total
  unread : pages = [] → s.expectedTotal = none
  items : rows.length ≤ connector.limits.maxLookupItems
  bytes : (pages.map PageRecord.bytes).sum ≤ connector.limits.maxLookupBytes
  count : pages.length ≤ connector.limits.maxLookupPages

theorem progress_new : Progress connector target server .new [] [] where
  answered := fun k page h => (by cases h)
  sent := rfl
  budget := rfl
  startIndex := rfl
  read := List.mapM_nil
  seenIds := rfl
  found := rfl
  few := Nat.zero_le _
  distinct := List.nodup_nil
  totals := fun page h => (by cases h)
  unread := fun _ => rfl
  items := Nat.zero_le _
  bytes := Nat.zero_le _
  count := Nat.zero_le _

theorem rowsBefore_append (pages : List PageRecord) (page : PageRecord) {k : Nat}
    (hk : k ≤ pages.length) : rowsBefore (pages ++ [page]) k = rowsBefore pages k := by
  rw [rowsBefore, rowsBefore, List.take_append_of_le_length hk]

theorem Progress.rowsBefore_length {s : PassState} {pages : List PageRecord}
    (h : Progress connector target server s pages rows) :
    rowsBefore pages pages.length = rows.length := by
  rw [length_of_mapM h.read, List.length_flatMap, rowsBefore, List.take_length]

theorem startPage_ok {limits : Limits} {budget budget' : PassBudget}
    (h : budget.startPage limits = .ok budget') :
    budget.pageCount < limits.maxLookupPages ∧
      budget' = { budget with pageCount := budget.pageCount + 1 } := by
  unfold PassBudget.startPage at h
  split at h
  · cases h
  · rename_i hchecks
    cases h
    exact ⟨Nat.lt_of_not_le fun hle => hchecks (.inl hle), rfl⟩

theorem finishPage_ok {limits : Limits} {budget budget' : PassBudget} {items bytes : Nat}
    (h : budget.finishPage limits items bytes = .ok budget') :
    budget.itemCount + items ≤ limits.maxLookupItems ∧
      budget.responseByteCount + bytes ≤ limits.maxLookupBytes ∧
      budget' = { budget with
        itemCount := budget.itemCount + items
        responseByteCount := budget.responseByteCount + bytes } := by
  unfold PassBudget.finishPage at h
  split at h
  · cases h
  · rename_i hchecks
    cases h
    exact ⟨Nat.le_of_not_lt fun hlt => hchecks (.inl hlt),
      Nat.le_of_not_lt fun hlt => hchecks (.inr hlt), rfl⟩

/-- What an iteration has read when it goes on. -/
theorem takePage_ok {s next : PassState} {budget : PassBudget} {reply : ServerReply}
    (hdistinct : s.seenIds.Nodup) (h : connector.takePage target s budget reply = .ok next) :
    ∃ page response budget' rows, request connector.limits connector.reader
        (s.budget.remainingBytes connector.limits) reply = .ok response ∧
      connector.readPage s.startIndex response.payload = .ok page ∧
      budget.finishPage connector.limits page.rawItems.length response.bodyByteCount =
        .ok budget' ∧
      (∀ total ∈ s.expectedTotal, page.total = total) ∧
      page.rawItems.mapM (validatedLookupRow target.providerKey) = .ok rows ∧
      next = { s with
        budget := budget'
        seenIds := s.seenIds ++ rows.map LookupRow.itemId
        found := s.found ++ hits target rows
        expectedTotal := some page.total
        startIndex := s.startIndex + page.rawItems.length } ∧
      next.seenIds.Nodup ∧ (s.found.length ≤ 1 → next.found.length ≤ 1) := by
  obtain ⟨response, hresponse, h⟩ := except_bind_ok h
  obtain ⟨page, hpage, h⟩ := except_bind_ok h
  obtain ⟨budget', hbudget, h⟩ := except_bind_ok h
  obtain ⟨_, hchecks, h⟩ := except_bind_ok h
  obtain ⟨seen, hseen, h⟩ := except_bind_ok h
  obtain ⟨rows, hrows, rfl, hnodup, hfew⟩ := addRows_ok hdistinct hseen
  have hchecks := require_ok.1 hchecks
  simp only [Bool.and_eq_true] at hchecks
  cases h
  refine ⟨page, response, budget', rows, hresponse, hpage, hbudget, fun total htotal => ?_, hrows,
    rfl, hnodup, hfew⟩
  have hsame := hchecks.1.1.2
  rw [Option.mem_def.1 htotal] at hsame
  exact of_decide_eq_true hsame

/-- One iteration keeps what is known of the pass. -/
theorem lookupPage_next {s t : PassState} {pages : List PageRecord}
    (hs : Progress connector target server s pages rows)
    (h : connector.lookupPage target server s = .next t) :
    ∃ page more, Progress connector target server t (pages ++ [page]) (rows ++ more) := by
  unfold lookupPage at h
  split at h
  · split at h
    · cases h
    · rename_i budget hbudget
      dsimp only at h
      split at h
      · cases h
      · rename_i next hnext
        cases h
        obtain ⟨hcount, rfl⟩ := startPage_ok hbudget
        have hseen : s.seenIds.Nodup := hs.seenIds ▸ hs.distinct
        obtain ⟨page, response, budget', more, hresponse, hpage, hfinish, htotal, hmore, rfl,
          hnodup, hfew⟩ := takePage_ok hseen hnext
        obtain ⟨hitems, hbytes, rfl⟩ := finishPage_ok hfinish
        rw [hs.budget] at hcount hitems hbytes
        have hlength : s.sent.length = pages.length := by
          rw [hs.sent, List.length_map, List.length_range]
        have hrows := length_of_mapM hmore
        refine ⟨⟨page.rawItems, page.total, response.bodyByteCount⟩, more, ?_⟩
        have hanswer : Answered connector server pages.length rows.length
            ⟨page.rawItems, page.total, response.bodyByteCount⟩ := by
          refine ⟨s.budget.remainingBytes connector.limits, response, ?_, ?_, rfl⟩
          · rw [hs.startIndex, hlength] at hresponse
            exact hresponse
          · rw [hs.startIndex] at hpage
            exact hpage
        constructor
        case answered =>
          intro k record hrecord
          rcases Nat.lt_trichotomy k pages.length with hk | rfl | hk
          · rw [List.getElem?_append_left hk] at hrecord
            rw [rowsBefore_append pages _ hk.le]
            exact hs.answered k record hrecord
          · rw [List.getElem?_append_right (Nat.le_refl _), Nat.sub_self] at hrecord
            cases hrecord
            rw [rowsBefore_append pages _ (Nat.le_refl _), hs.rowsBefore_length]
            exact hanswer
          · rw [List.getElem?_eq_none (by rw [List.length_append]; exact hk)] at hrecord
            cases hrecord
        case sent =>
          rw [List.length_append, List.length_singleton, List.range_succ, List.map_append,
            List.map_singleton, rowsBefore_append pages _ (Nat.le_refl _), hs.rowsBefore_length,
            hs.startIndex, hs.sent]
          refine congrArg (· ++ _) (List.map_congr_left fun k hk => ?_)
          rw [rowsBefore_append pages _ (List.mem_range.1 hk).le]
        case budget =>
          simp only [hs.budget, List.length_append, List.length_singleton, List.map_append,
            List.map_singleton, List.sum_append, List.sum_singleton, hrows]
        case startIndex => rw [hs.startIndex, List.length_append, hrows]
        case read =>
          rw [List.flatMap_append, List.flatMap_singleton]
          exact mapM_append hs.read hmore
        case seenIds => rw [hs.seenIds, List.map_append]
        case found => rw [hs.found, hits_append]
        case few =>
          have hfound := hfew (by rw [hs.found]; exact hs.few)
          rw [hs.found, ← hits_append] at hfound
          exact hfound
        case distinct =>
          rw [hs.seenIds, ← List.map_append] at hnodup
          exact hnodup
        case totals =>
          intro record hrecord
          rcases List.mem_append.1 hrecord with hrecord | hrecord
          · rw [htotal _ (hs.totals record hrecord)]
          · rw [List.mem_singleton.1 hrecord]
        case unread => exact fun hnil => absurd hnil (List.append_ne_nil_of_right_ne_nil _
          (List.cons_ne_nil _ _))
        case items =>
          rw [List.length_append, hrows]
          exact hitems
        case bytes =>
          rw [List.map_append, List.sum_append, List.map_singleton, List.sum_singleton]
          exact hbytes
        case count =>
          rw [List.length_append, List.length_singleton]
          exact hcount
  · split at h
    · cases h
    · cases h

/-- What a pass that returns has proved: the pages follow one another from the first row on, report
one total, and hold as many rows as that, each with an id of its own. -/
structure PassEvidence (connector : Connector) (target : LookupTarget)
    (server : Nat → Query → ServerReply) (sent : List Query) (result : ItemLookupResult)
    (pages : List PageRecord) (rows : List LookupRow) : Prop where
  sent : sent = (List.range pages.length).map fun k => connector.jellyfinQuery (rowsBefore pages k)
  contiguous : ∀ k page, pages[k]? = some page →
    Answered connector server k (rowsBefore pages k) page
  totals : pages ≠ [] ∧ ∀ page ∈ pages, page.total = rows.length
  read : (pages.flatMap PageRecord.rawItems).mapM (validatedLookupRow target.providerKey) = .ok rows
  distinct : (rows.map LookupRow.itemId).Nodup
  items : result.inspectedItemCount = rows.length ∧
    rows.length ≤ connector.limits.maxLookupItems
  count : result.pageCount = pages.length ∧ pages.length ≤ connector.limits.maxLookupPages
  bytes : result.responseByteCount = (pages.map PageRecord.bytes).sum ∧
    (pages.map PageRecord.bytes).sum ≤ connector.limits.maxLookupBytes
  verdict : Verdict target rows result

theorem completedLookupResult_ok {found : List LookupMatch} {seenIds : List String}
    {budget : PassBudget} {result : ItemLookupResult}
    (h : connector.completedLookupResult target found seenIds budget = .ok result) :
    result.inspectedItemCount = budget.itemCount ∧ result.pageCount = budget.pageCount ∧
      result.responseByteCount = budget.responseByteCount := by
  unfold completedLookupResult at h
  dsimp only at h
  split at h
  · cases h
  · cases h
    exact ⟨rfl, rfl, rfl⟩

/-- A pass that ends has sent few requests, and has proved what it returns. -/
theorem lookupPage_done {s : PassState} {pages : List PageRecord}
    {ended : List Query × Except LookupFailure ItemLookupResult}
    (hs : Progress connector target server s pages rows)
    (h : connector.lookupPage target server s = .done ended) :
    ended.1.length ≤ connector.limits.maxLookupPages ∧
      ∀ result, ended.2 = .ok result →
        PassEvidence connector target server ended.1 result pages rows := by
  have hlength : s.sent.length = pages.length := by
    rw [hs.sent, List.length_map, List.length_range]
  unfold lookupPage at h
  split at h
  · split at h
    · cases h
      exact ⟨hlength ▸ hs.count, fun result h => (by cases h)⟩
    · rename_i budget hbudget
      obtain ⟨hcount, -⟩ := startPage_ok hbudget
      rw [hs.budget] at hcount
      dsimp only at h
      split at h
      · cases h
        refine ⟨?_, fun result h => (by cases h)⟩
        rw [List.length_append, hlength, List.length_singleton]
        exact hcount
      · cases h
  · split at h
    · rename_i htotal
      cases h
      refine ⟨hlength ▸ hs.count, fun result hresult => ?_⟩
      have hresult' : connector.completedLookupResult target (hits target rows)
          (rows.map LookupRow.itemId)
          ⟨pages.length, rows.length, (pages.map PageRecord.bytes).sum⟩ = .ok result := by
        rw [← hs.found, ← hs.seenIds, ← hs.budget]
        exact hresult
      obtain ⟨hitems, hcount, hbytes⟩ := completedLookupResult_ok hresult'
      have htotals : ∀ page ∈ pages, page.total = rows.length := by
        intro page hpage
        rw [hs.totals page hpage, hs.seenIds, List.length_map] at htotal
        exact Option.some.inj htotal
      have hread : pages ≠ [] := by
        intro hnil
        rw [hs.unread hnil] at htotal
        cases htotal
      exact ⟨hs.sent, hs.answered, ⟨hread, htotals⟩, hs.read, hs.distinct, ⟨hitems, hs.items⟩,
        ⟨hcount, hs.count⟩, ⟨hbytes, hs.bytes⟩, verdict_of_completed hs.few hresult'⟩
    · cases h
      exact ⟨hlength ▸ hs.count, fun result h => (by cases h)⟩

/-- Every iteration that goes on uses up one page. -/
theorem lookupPage_count {s t : PassState}
    (h : connector.lookupPage target server s = .next t) :
    connector.limits.maxLookupPages - t.budget.pageCount <
      connector.limits.maxLookupPages - s.budget.pageCount := by
  unfold lookupPage at h
  split at h
  · split at h
    · cases h
    · rename_i budget hbudget
      obtain ⟨hcount, rfl⟩ := startPage_ok hbudget
      dsimp only at h
      split at h
      · cases h
      · rename_i next hnext
        cases h
        obtain ⟨_, -, hnext⟩ := except_bind_ok hnext
        obtain ⟨_, -, hnext⟩ := except_bind_ok hnext
        obtain ⟨budget', hfinish, hnext⟩ := except_bind_ok hnext
        obtain ⟨_, -, hnext⟩ := except_bind_ok hnext
        obtain ⟨_, -, hnext⟩ := except_bind_ok hnext
        obtain ⟨-, -, rfl⟩ := finishPage_ok hfinish
        cases hnext
        dsimp only
        omega
  · split at h
    · cases h
    · cases h

/-- The iterations that are allowed are enough. -/
theorem ends_lookupJellyfinItem (connector : Connector) (target : LookupTarget)
    (server : Nat → Query → ServerReply) :
    Loop.Ends (connector.lookupPage target server) .new
      (connector.lookupJellyfinItem target server) := by
  have hsome : (Loop.run (connector.lookupPage target server)
      (connector.limits.maxLookupPages + 1) PassState.new).isSome :=
    Loop.run_isSome (fun s => connector.limits.maxLookupPages - s.budget.pageCount)
      (fun s t => lookupPage_count) (Nat.lt_succ_of_le (Nat.sub_le _ _))
  obtain ⟨ended, hended⟩ := Option.isSome_iff_exists.1 hsome
  unfold lookupJellyfinItem
  rw [hended]
  exact Loop.ends_of_run hended

/-- Whatever the server answers, a pass sends few requests, and what it returns is proved. -/
theorem lookupJellyfinItem_evidence (connector : Connector) (target : LookupTarget)
    (server : Nat → Query → ServerReply) :
    (connector.lookupJellyfinItem target server).1.length ≤ connector.limits.maxLookupPages ∧
      ∀ result, (connector.lookupJellyfinItem target server).2 = .ok result →
        ∃ pages rows, PassEvidence connector target server
          (connector.lookupJellyfinItem target server).1 result pages rows := by
  refine Loop.Ends.of_invariant
    (fun s => ∃ pages rows, Progress connector target server s pages rows)
    (fun ended => ended.1.length ≤ connector.limits.maxLookupPages ∧
      ∀ result, ended.2 = .ok result →
        ∃ pages rows, PassEvidence connector target server ended.1 result pages rows)
    ?_ ?_ (ends_lookupJellyfinItem connector target server) ⟨[], [], progress_new⟩
  · rintro s t ⟨pages, rows, hs⟩ hnext
    obtain ⟨page, more, ht⟩ := lookupPage_next hs hnext
    exact ⟨_, _, ht⟩
  · rintro s ended ⟨pages, rows, hs⟩ hdone
    obtain ⟨hcount, hevidence⟩ := lookupPage_done hs hdone
    exact ⟨hcount, fun result hresult => ⟨pages, rows, hevidence result hresult⟩⟩

end Passes

end Connector

end MediaSync.MediaServer
