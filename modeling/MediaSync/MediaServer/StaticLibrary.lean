import MediaSync.MediaServer.LookupEvidence

/-!
# A library that does not change

A server that keeps its rows, and cuts them into pages of whatever size it
honours, leads a pass to its verdict. The state of the pass after so many pages
is known, and each iteration takes it to the next one, up to the page on which a
second row of the target stands.
-/

namespace MediaSync.MediaServer

open Python
open Checks

section Libraries

variable {connector : Connector} {target : LookupTarget} {server : Nat → Query → ServerReply}
  {library : List Json} {size : Nat → Nat} {body : Nat → List UInt8} {rows : List LookupRow}

/-- Where a page starts, when the pages have these sizes. -/
def pageStart (library : List Json) (size : Nat → Nat) : Nat → Nat
  | 0 => 0
  | k + 1 => pageStart library size k +
      ((library.drop (pageStart library size k)).take (size k)).length

def pageItems (library : List Json) (size : Nat → Nat) (k : Nat) : List Json :=
  (library.drop (pageStart library size k)).take (size k)

/-- A page that a pass asks for: the first one, and each that is not past the end. -/
def Asked (library : List Json) (size : Nat → Nat) (k : Nat) : Prop :=
  k = 0 ∨ pageStart library size k < library.length

def pageBytes (body : Nat → List UInt8) (k : Nat) : Nat :=
  ((List.range k).map fun i => (body i).length).sum

/-- The server answers with the pages of a library; no page is larger than it was asked for. -/
structure Serves (connector : Connector) (server : Nat → Query → ServerReply) (library : List Json)
    (size : Nat → Nat) (body : Nat → List UInt8) : Prop where
  sizes : ∀ k, 0 < size k ∧ size k ≤ connector.limits.jellyfinLookupPageSize
  answers : ∀ k, Asked library size k →
    server k (connector.jellyfinQuery (pageStart library size k)) = .body (body k)
  payloads : ∀ k, Asked library size k → ∃ fields,
    connector.reader.decode (body k) = some (.obj fields) ∧
    Json.get? fields "Items" = some (.arr (pageItems library size k)) ∧
    Json.get? fields "TotalRecordCount" = some (.int library.length) ∧
    Json.get? fields "StartIndex" = some (.int (pageStart library size k))

/-- The library and the pages that are asked for keep within the limits. -/
structure WithinLimits (limits : Limits) (reader : BodyReader) (library : List Json)
    (size : Nat → Nat) (body : Nat → List UInt8) : Prop where
  items : library.length ≤ limits.maxLookupItems
  pages : ∀ k, Asked library size k → k < limits.maxLookupPages
  bodies : ∀ k, Asked library size k → (body k).length ≤ limits.maxBodyBytes
  bytes : ∀ k, Asked library size k → pageBytes body (k + 1) ≤ limits.maxLookupBytes
  json : ∀ k, Asked library size k → ∀ payload, reader.decode (body k) = some payload →
    (limits.checkJson 0 0 payload).isSome

/-- The rows are well formed, and no two of them have one id. -/
structure WellFormed (target : LookupTarget) (library : List Json) (rows : List LookupRow) :
    Prop where
  read : library.mapM (validatedLookupRow target.providerKey) = .ok rows
  distinct : (rows.map LookupRow.itemId).Nodup
  etags : ∀ row ∈ rows, ∀ etag ∈ row.etag, etag.length ≤ 4096

theorem addRow_new {seen : List String × List LookupMatch} {rawItem : Json} {row : LookupRow}
    (hrow : validatedLookupRow target.providerKey rawItem = .ok row) (hnew : row.itemId ∉ seen.1)
    (hfew : seen.2.length ≤ 1) :
    Connector.addRow target seen rawItem =
      if (seen.2 ++ hits target [row]).length ≤ 1 then
        .ok (seen.1 ++ [row.itemId], seen.2 ++ hits target [row])
      else .error ambiguous := by
  have hcontains : (!seen.1.contains row.itemId) = true := by
    rw [Bool.not_eq_true', List.contains_eq_mem, decide_eq_false_iff_not]
    exact hnew
  unfold Connector.addRow
  rw [hrow]
  show (require _ _ >>= _) = _
  rw [require_true hcontains]
  by_cases htarget : row.IsTarget target
  · rw [if_pos htarget, hits_target htarget, List.length_append, List.length_singleton]
    by_cases hfirst : seen.2.length = 0
    · rw [require_true (decide_eq_true hfirst), hfirst]
      rfl
    · rw [require_false (decide_eq_false hfirst), if_neg (by omega)]
  · rw [if_neg htarget, hits_other htarget, List.append_nil, if_pos hfew]
    rfl

/-- Distinct rows are added up to the second one of the target. -/
theorem addRows_new {rawItems : List Json} {rows : List LookupRow}
    {seen : List String × List LookupMatch}
    (hrows : rawItems.mapM (validatedLookupRow target.providerKey) = .ok rows)
    (hdistinct : (seen.1 ++ rows.map LookupRow.itemId).Nodup) (hfew : seen.2.length ≤ 1) :
    rawItems.foldlM (Connector.addRow target) seen =
      if (seen.2 ++ hits target rows).length ≤ 1 then
        .ok (seen.1 ++ rows.map LookupRow.itemId, seen.2 ++ hits target rows)
      else .error ambiguous := by
  have hall := mapM_ok_iff.1 hrows
  clear hrows
  induction hall generalizing seen with
  | nil =>
    rw [List.foldlM_nil, hits_nil, List.append_nil, List.map_nil, List.append_nil, if_pos hfew]
    rfl
  | @cons rawItem row rawItems rows hrow _ ih =>
    have hcons : hits target (row :: rows) = hits target [row] ++ hits target rows :=
      hits_append target [row] rows
    have hnew : row.itemId ∉ seen.1 := fun hmem =>
      List.disjoint_of_nodup_append hdistinct hmem List.mem_cons_self
    rw [List.foldlM_cons, addRow_new hrow hnew hfew]
    by_cases hfirst : (seen.2 ++ hits target [row]).length ≤ 1
    · rw [if_pos hfirst]
      show List.foldlM (Connector.addRow target) _ rawItems = _
      rw [ih (by rwa [List.append_assoc]) hfirst, hcons, List.map_cons]
      simp only [List.append_assoc, List.singleton_append]
    · rw [if_neg hfirst, if_neg]
      · rfl
      · rw [hcons, ← List.append_assoc, List.length_append]
        omega

theorem pageStart_succ (library : List Json) (size : Nat → Nat) (k : Nat) :
    pageStart library size (k + 1) =
      pageStart library size k + (pageItems library size k).length := rfl

theorem pageItems_length (library : List Json) (size : Nat → Nat) (k : Nat) :
    (pageItems library size k).length =
      min (size k) (library.length - pageStart library size k) := by
  rw [pageItems, List.length_take, List.length_drop]

theorem pageStart_le (library : List Json) (size : Nat → Nat) (k : Nat) :
    pageStart library size k ≤ library.length := by
  induction k with
  | zero => exact Nat.zero_le _
  | succ k ih =>
    rw [pageStart_succ, pageItems_length]
    omega

theorem pageStart_le_mul (hserves : Serves connector server library size body) (k : Nat) :
    pageStart library size k ≤ k * connector.limits.jellyfinLookupPageSize := by
  induction k with
  | zero => exact Nat.zero_le _
  | succ k ih =>
    have hsize := (hserves.sizes k).2
    rw [pageStart_succ, pageItems_length, Nat.succ_mul]
    omega

theorem pageBytes_succ (body : Nat → List UInt8) (k : Nat) :
    pageBytes body (k + 1) = pageBytes body k + (body k).length := by
  rw [pageBytes, List.range_succ, List.map_append, List.sum_append, List.map_singleton,
    List.sum_singleton]
  rfl

/-- The rows that have been seen. -/
def seenRows (library : List Json) (size : Nat → Nat) (rows : List LookupRow) (k : Nat) :
    List LookupRow :=
  rows.take (pageStart library size k)

/-- The rows of one page. -/
def pageRows (library : List Json) (size : Nat → Nat) (rows : List LookupRow) (k : Nat) :
    List LookupRow :=
  (rows.drop (pageStart library size k)).take (size k)

theorem seenRows_succ (hrows : rows.length = library.length) (k : Nat) :
    seenRows library size rows (k + 1) =
      seenRows library size rows k ++ pageRows library size rows k := by
  have hpage : (rows.drop (pageStart library size k)).take
      (min (size k) (library.length - pageStart library size k)) = pageRows library size rows k := by
    rw [pageRows, List.take_eq_take_iff, List.length_drop, hrows]
    omega
  rw [seenRows, seenRows, pageStart_succ, pageItems_length, List.take_add, hpage]

/-- The state of a pass over the library after so many pages. -/
def stateAfter (connector : Connector) (target : LookupTarget) (library : List Json)
    (size : Nat → Nat) (body : Nat → List UInt8) (rows : List LookupRow) (k : Nat) :
    Connector.PassState where
  budget := ⟨k, pageStart library size k, pageBytes body k⟩
  seenIds := (seenRows library size rows k).map LookupRow.itemId
  found := hits target (seenRows library size rows k)
  expectedTotal := if k = 0 then none else some library.length
  startIndex := pageStart library size k
  sent := (List.range k).map fun i => connector.jellyfinQuery (pageStart library size i)

theorem goesOn_stateAfter (hrows : rows.length = library.length) (k : Nat) :
    (stateAfter connector target library size body rows k).goesOn = true ↔
      Asked library size k := by
  have hlength : (seenRows library size rows k).length = pageStart library size k := by
    rw [seenRows, List.length_take, hrows, Nat.min_eq_left (pageStart_le library size k)]
  unfold Connector.PassState.goesOn stateAfter Asked
  dsimp only
  rw [List.length_map, hlength]
  by_cases hk : k = 0
  · rw [if_pos hk]
    exact ⟨fun _ => .inl hk, fun _ => rfl⟩
  · rw [if_neg hk]
    simp only [Option.all_some, decide_eq_true_eq, hk, false_or]

theorem request_page (hserves : Serves connector server library size body)
    (hlimits : WithinLimits connector.limits connector.reader library size body) {k : Nat}
    (hasked : Asked library size k) {payload : Json}
    (hpayload : connector.reader.decode (body k) = some payload) :
    request connector.limits connector.reader
        (connector.limits.maxLookupBytes - pageBytes body k)
        (server k (connector.jellyfinQuery (pageStart library size k))) =
      .ok ⟨payload, (body k).length⟩ := by
  have hbytes := hlimits.bytes k hasked
  rw [pageBytes_succ] at hbytes
  have hfits : (body k).length ≤
      min connector.limits.maxBodyBytes (connector.limits.maxLookupBytes - pageBytes body k) := by
    have hbody := hlimits.bodies k hasked
    omega
  rw [hserves.answers k hasked]
  unfold request
  dsimp only
  rw [require_true (decide_eq_true hfits), orFail_some hpayload,
    require_true (hlimits.json k hasked payload hpayload)]
  rfl

theorem readPage_fields {fields : List (String × Json)} {rawItems : List Json} {total start : Nat}
    (hitems : Json.get? fields "Items" = some (.arr rawItems))
    (htotal : Json.get? fields "TotalRecordCount" = some (.int total))
    (hstart : Json.get? fields "StartIndex" = some (.int start))
    (hsize : rawItems.length ≤ connector.limits.jellyfinLookupPageSize) :
    connector.readPage start (.obj fields) = .ok ⟨rawItems, total⟩ := by
  have hcount : Connector.asCount (Json.get? fields "TotalRecordCount") = some total := by
    rw [htotal]
    simp [Connector.asCount, Json.asInt?]
  have hsame : decide (Json.asInt? (Json.get? fields "StartIndex") = some (start : Int)) =
      true := by
    rw [hstart]
    exact decide_eq_true rfl
  have hlist : asItems (Json.get? fields "Items") = some rawItems := by
    rw [hitems]
    rfl
  have hfields : asFields (some (.obj fields)) = some fields := rfl
  unfold Connector.readPage
  rw [orFail_some hfields, orFail_some hlist, require_true (decide_eq_true hsize),
    orFail_some hcount, require_true hsame]
  rfl

/-- The totals that a pass checks are those of the library. -/
theorem totals_hold (hserves : Serves connector server library size body)
    (hlimits : WithinLimits connector.limits connector.reader library size body) (k : Nat) :
    (library.length ≤ connector.limits.maxLookupItems &&
      (library.length + connector.limits.jellyfinLookupPageSize - 1) /
          connector.limits.jellyfinLookupPageSize ≤ connector.limits.maxLookupPages &&
      (if k = 0 then none else some library.length).all (fun total => library.length = total) &&
      pageStart library size k + (pageItems library size k).length ≤ library.length &&
      !((pageItems library size k).length = 0 &&
        pageStart library size k < library.length)) = true := by
  have hpos := connector.limits.positive.2.2.2.2.1
  have hcovered : library.length ≤ connector.limits.maxLookupPages *
      connector.limits.jellyfinLookupPageSize := by
    refine Nat.le_trans (Nat.le_of_not_lt fun hlt => ?_) (pageStart_le_mul hserves _)
    exact Nat.lt_irrefl _ (hlimits.pages _ (.inr hlt))
  have hpages : (library.length + connector.limits.jellyfinLookupPageSize - 1) /
      connector.limits.jellyfinLookupPageSize ≤ connector.limits.maxLookupPages := by
    rw [← Nat.lt_succ_iff, Nat.div_lt_iff_lt_mul hpos, Nat.succ_mul]
    omega
  have hend : pageStart library size k + (pageItems library size k).length ≤ library.length :=
    pageStart_succ library size k ▸ pageStart_le library size (k + 1)
  have hsize := (hserves.sizes k).1
  have hlength := pageItems_length library size k
  simp only [Bool.and_eq_true, Bool.not_eq_true', Bool.and_eq_false_iff, decide_eq_true_eq,
    decide_eq_false_iff_not]
  refine ⟨⟨⟨⟨hlimits.items, hpages⟩, ?_⟩, hend⟩, ?_⟩
  · split
    · rfl
    · exact decide_eq_true rfl
  · by_cases hmore : pageStart library size k < library.length
    · exact .inl (by omega)
    · exact .inr hmore

/-- One page is taken, unless it holds the second row of the target. -/
theorem takePage_static (hserves : Serves connector server library size body)
    (hlimits : WithinLimits connector.limits connector.reader library size body)
    (hwell : WellFormed target library rows) {k : Nat} (hasked : Asked library size k)
    (hfew : (hits target (seenRows library size rows k)).length ≤ 1) :
    connector.takePage target (stateAfter connector target library size body rows k)
        ⟨k + 1, pageStart library size k, pageBytes body k⟩
        (server k (connector.jellyfinQuery (pageStart library size k))) =
      if (hits target (seenRows library size rows (k + 1))).length ≤ 1 then
        .ok { stateAfter connector target library size body rows (k + 1) with
          sent := (stateAfter connector target library size body rows k).sent }
      else .error ambiguous := by
  have hrows := length_of_mapM hwell.read
  obtain ⟨fields, hdecode, hitems, htotal, hstart⟩ := hserves.payloads k hasked
  have hresponse := request_page hserves hlimits hasked hdecode
  have hsize : (pageItems library size k).length ≤ connector.limits.jellyfinLookupPageSize := by
    rw [pageItems_length]
    exact Nat.le_trans (Nat.min_le_left _ _) (hserves.sizes k).2
  have hpage := readPage_fields hitems htotal hstart hsize
  have hnext := pageStart_succ library size k
  have hbytes := pageBytes_succ body k
  have hfinish : PassBudget.finishPage connector.limits
      ⟨k + 1, pageStart library size k, pageBytes body k⟩ (pageItems library size k).length
      (body k).length =
        .ok ⟨k + 1, pageStart library size (k + 1), pageBytes body (k + 1)⟩ := by
    have hlimit := hlimits.bytes k hasked
    have hend := pageStart_le library size (k + 1)
    have hcount := hlimits.items
    unfold PassBudget.finishPage
    dsimp only
    rw [← hnext, ← hbytes, if_neg (by omega)]
  have hseen : seenRows library size rows (k + 1) =
      seenRows library size rows k ++ pageRows library size rows k := seenRows_succ hrows k
  have hread : (pageItems library size k).mapM (validatedLookupRow target.providerKey) =
      .ok (pageRows library size rows k) := mapM_slice hwell.read _ _
  have hdistinct : ((seenRows library size rows k).map LookupRow.itemId ++
      (pageRows library size rows k).map LookupRow.itemId).Nodup := by
    rw [← List.map_append, ← hseen, seenRows, List.map_take]
    exact hwell.distinct.sublist (List.take_sublist _ _)
  have hadded : (pageItems library size k).foldlM (Connector.addRow target)
      ((seenRows library size rows k).map LookupRow.itemId,
        hits target (seenRows library size rows k)) = _ := addRows_new hread hdistinct hfew
  dsimp only at hadded
  rw [← hits_append, ← List.map_append, ← hseen] at hadded
  have hremaining : (stateAfter connector target library size body rows k).budget.remainingBytes
      connector.limits = connector.limits.maxLookupBytes - pageBytes body k := rfl
  unfold Connector.takePage
  dsimp only
  rw [hremaining, hresponse]
  show (connector.readPage _ _ >>= _) = _
  rw [show (stateAfter connector target library size body rows k).startIndex =
    pageStart library size k from rfl, hpage]
  show (PassBudget.finishPage _ _ _ _ >>= _) = _
  rw [hfinish]
  show (require _ _ >>= _) = _
  rw [show (stateAfter connector target library size body rows k).expectedTotal =
    (if k = 0 then none else some library.length) from rfl,
    require_true (totals_hold hserves hlimits k)]
  show (List.foldlM _ _ _ >>= _) = _
  rw [show (stateAfter connector target library size body rows k).seenIds =
      (seenRows library size rows k).map LookupRow.itemId from rfl,
    show (stateAfter connector target library size body rows k).found =
      hits target (seenRows library size rows k) from rfl, hadded]
  split
  · rfl
  · rfl

/-! ## The pass -/

theorem sent_stateAfter (k : Nat) :
    (stateAfter connector target library size body rows k).sent.length = k := by
  rw [stateAfter, List.length_map, List.length_range]

/-- One iteration over a page that is asked for. -/
theorem lookupPage_static (hserves : Serves connector server library size body)
    (hlimits : WithinLimits connector.limits connector.reader library size body)
    (hwell : WellFormed target library rows) {k : Nat} (hasked : Asked library size k)
    (hfew : (hits target (seenRows library size rows k)).length ≤ 1) :
    connector.lookupPage target server (stateAfter connector target library size body rows k) =
      if (hits target (seenRows library size rows (k + 1))).length ≤ 1 then
        .next (stateAfter connector target library size body rows (k + 1))
      else .done ((stateAfter connector target library size body rows (k + 1)).sent,
        .error ambiguous) := by
  have hrows := length_of_mapM hwell.read
  have hremaining : 0 < connector.limits.maxLookupBytes - pageBytes body k := by
    have hbytes := hlimits.bytes k hasked
    rw [pageBytes_succ] at hbytes
    obtain ⟨fields, hdecode, -⟩ := hserves.payloads k hasked
    have hbody : 0 < (body k).length := by
      rw [List.length_pos_iff]
      intro hnil
      rw [hnil, connector.reader.decode_nil] at hdecode
      cases hdecode
    omega
  have hstart : (stateAfter connector target library size body rows k).budget.startPage
      connector.limits = .ok ⟨k + 1, pageStart library size k, pageBytes body k⟩ := by
    have hpages := hlimits.pages k hasked
    unfold PassBudget.startPage PassBudget.remainingBytes stateAfter
    dsimp only
    rw [if_neg (by omega)]
  have hsent : (stateAfter connector target library size body rows (k + 1)).sent =
      (stateAfter connector target library size body rows k).sent ++
        [connector.jellyfinQuery (pageStart library size k)] := by
    rw [stateAfter, List.range_succ, List.map_append, List.map_singleton]
    rfl
  have htake := takePage_static hserves hlimits hwell hasked hfew
  unfold Connector.lookupPage
  rw [if_pos ((goesOn_stateAfter hrows k).2 hasked), hstart]
  dsimp only
  rw [sent_stateAfter, show (stateAfter connector target library size body rows k).startIndex =
    pageStart library size k from rfl, htake, hsent]
  split
  · rename_i e herror
    split at herror
    · cases herror
    · rename_i hmany
      cases herror
      rw [if_neg hmany]
  · rename_i next hnext
    split at hnext
    · rename_i hstill
      cases hnext
      rw [if_pos hstill, ← hsent]
    · cases hnext

/-- The outcome of a pass over the library. -/
def staticOutcome (connector : Connector) (target : LookupTarget) (rows : List LookupRow)
    (budget : PassBudget) : Except LookupFailure ItemLookupResult :=
  if (hits target rows).length ≤ 1 then
    connector.completedLookupResult target (hits target rows) (rows.map LookupRow.itemId) budget
  else .error ambiguous

theorem hits_take_length (target : LookupTarget) (rows : List LookupRow) (n : Nat) :
    (hits target (rows.take n)).length ≤ (hits target rows).length := by
  unfold hits
  rw [List.length_map, List.length_map]
  exact ((List.take_sublist n rows).filter _).length_le

variable (connector server body) in
/-- Behind the last page, the pass ends with its verdict. -/
theorem lookupPage_end (hwell : WellFormed target library rows) {k : Nat}
    (hend : ¬Asked library size k)
    (hfew : (hits target (seenRows library size rows k)).length ≤ 1) :
    connector.lookupPage target server (stateAfter connector target library size body rows k) =
      .done ((stateAfter connector target library size body rows k).sent,
        staticOutcome connector target rows
          (stateAfter connector target library size body rows k).budget) := by
  have hrows := length_of_mapM hwell.read
  obtain ⟨hk, hpast⟩ := not_or.1 hend
  have hstart : pageStart library size k = library.length :=
    Nat.le_antisymm (pageStart_le library size k) (Nat.le_of_not_lt hpast)
  have hseen : seenRows library size rows k = rows := by
    rw [seenRows, hstart, ← hrows, List.take_length]
  have hstop : (stateAfter connector target library size body rows k).goesOn ≠ true :=
    mt (goesOn_stateAfter hrows k).1 hend
  have htotal : (stateAfter connector target library size body rows k).expectedTotal =
      some (stateAfter connector target library size body rows k).seenIds.length := by
    unfold stateAfter
    dsimp only
    rw [if_neg hk, hseen, List.length_map, hrows]
  rw [hseen] at hfew
  unfold Connector.lookupPage
  rw [if_neg hstop, if_pos htotal, staticOutcome, if_pos hfew]
  unfold stateAfter
  dsimp only
  rw [hseen]

/-- From the state after a page, the pass ends with the outcome of the library. -/
theorem ends_static (hserves : Serves connector server library size body)
    (hlimits : WithinLimits connector.limits connector.reader library size body)
    (hwell : WellFormed target library rows) (n : Nat) {k : Nat}
    (hn : connector.limits.maxLookupPages - k ≤ n)
    (hfew : (hits target (seenRows library size rows k)).length ≤ 1) :
    ∃ sent budget, Loop.Ends (connector.lookupPage target server)
      (stateAfter connector target library size body rows k)
      (sent, staticOutcome connector target rows budget) := by
  induction n generalizing k with
  | zero =>
    have hend : ¬Asked library size k := fun hasked => by
      have hpages := hlimits.pages k hasked
      omega
    exact ⟨_, _, .done (lookupPage_end connector server body hwell hend hfew)⟩
  | succ n ih =>
    by_cases hasked : Asked library size k
    · have hstep := lookupPage_static hserves hlimits hwell hasked hfew
      by_cases hstill : (hits target (seenRows library size rows (k + 1))).length ≤ 1
      · rw [if_pos hstill] at hstep
        obtain ⟨sent, budget, hrest⟩ := ih (by omega) hstill
        exact ⟨sent, budget, .next hstep hrest⟩
      · rw [if_neg hstill] at hstep
        have hmany : ¬(hits target rows).length ≤ 1 := fun hle =>
          hstill (Nat.le_trans (hits_take_length target rows _) hle)
        have houtcome : staticOutcome connector target rows .new = .error ambiguous :=
          if_neg hmany
        refine ⟨(stateAfter connector target library size body rows (k + 1)).sent, .new,
          .done ?_⟩
        rw [houtcome]
        exact hstep
    · exact ⟨_, _, .done (lookupPage_end connector server body hwell hasked hfew)⟩

/-- A library that does not change and keeps within the limits: two rows of the target are
ambiguous, and otherwise the pass returns its verdict. -/
theorem lookupJellyfinItem_static (hserves : Serves connector server library size body)
    (hlimits : WithinLimits connector.limits connector.reader library size body)
    (hwell : WellFormed target library rows) :
    ((connector.lookupJellyfinItem target server).2 = .error ambiguous ↔
      2 ≤ (hits target rows).length) ∧
    ((hits target rows).length ≤ 1 → ∃ result,
      (connector.lookupJellyfinItem target server).2 = .ok result ∧
        Verdict target rows result) := by
  obtain ⟨sent, budget, hends⟩ := ends_static hserves hlimits hwell _ (k := 0) (Nat.le_refl _)
    (Nat.zero_le 1)
  have houtcome := (Connector.ends_lookupJellyfinItem connector target server).unique hends
  rw [houtcome]
  unfold staticOutcome
  by_cases hfew : (hits target rows).length ≤ 1
  · have hetag : ((hits target rows).head?.bind LookupMatch.etag).any
        (fun value => 4096 < value.length) = false := by
      rw [Option.any_eq_false]
      intro etag hmem
      obtain ⟨first, hfirst, hetag⟩ := Option.bind_eq_some_iff.1 hmem
      obtain ⟨row, hrow, rfl⟩ := List.mem_map.1 (List.mem_of_head? hfirst)
      have hle := hwell.etags row (List.mem_filter.1 hrow).1 etag hetag
      exact decide_eq_false (Nat.not_lt_of_le hle)
    have hcompleted : ∃ result, connector.completedLookupResult target (hits target rows)
        (rows.map LookupRow.itemId) budget = .ok result := by
      unfold Connector.completedLookupResult
      dsimp only
      rw [hetag]
      exact ⟨_, rfl⟩
    obtain ⟨result, hresult⟩ := hcompleted
    rw [if_pos hfew]
    dsimp only
    rw [hresult]
    exact ⟨⟨fun h => (by cases h), fun h => (by omega)⟩,
      fun _ => ⟨result, rfl, Connector.verdict_of_completed hfew hresult⟩⟩
  · rw [if_neg hfew]
    exact ⟨⟨fun _ => (by omega), fun _ => rfl⟩, fun h => absurd h hfew⟩

end Libraries

end MediaSync.MediaServer
