import MediaSync.MediaServer.StaticLibrary

/-!
# Verdicts of both providers

An Emby response is one page of at most two rows. It is taken for a verdict where
it reports as many rows as it holds, or holds fewer than it was asked for: then
there is no further row that it could have left out.
-/

namespace MediaSync.MediaServer

open Python
open Checks
open Transaction (except_bind_ok)

namespace Connector

variable {connector : Connector} {target : LookupTarget} {server : Query → ServerReply}

theorem addEmbyRow_ok {seen seen' : List String × List LookupMatch} {rawItem : Json}
    (h : addEmbyRow target seen rawItem = .ok seen') :
    ∃ row, validatedLookupRow target.providerKey rawItem = .ok row ∧ row.itemId ∉ seen.1 ∧
      row.path = target.serverPath ∧
      seen' = (seen.1 ++ [row.itemId], seen.2 ++ hits target [row]) := by
  obtain ⟨row, hrow, h⟩ := except_bind_ok h
  obtain ⟨_, hchecks, h⟩ := except_bind_ok h
  obtain ⟨_, -, h⟩ := except_bind_ok h
  have hchecks := require_ok.1 hchecks
  rw [Bool.and_eq_true, Bool.not_eq_true', List.contains_eq_mem, decide_eq_false_iff_not,
    decide_eq_true_eq] at hchecks
  obtain ⟨hnew, hpath⟩ := hchecks
  refine ⟨row, hrow, hnew, hpath, ?_⟩
  by_cases hvalue : row.providerValue = some target.providerValue
  · rw [if_pos hvalue] at h
    cases h
    rw [hits_target ⟨hpath, hvalue⟩]
  · rw [if_neg hvalue] at h
    cases h
    rw [hits_other fun htarget => hvalue htarget.2, List.append_nil]

theorem addEmbyRows_ok {rawItems : List Json} {seen seen' : List String × List LookupMatch}
    (hdistinct : seen.1.Nodup) (h : rawItems.foldlM (addEmbyRow target) seen = .ok seen') :
    ∃ rows, rawItems.mapM (validatedLookupRow target.providerKey) = .ok rows ∧
      (∀ row ∈ rows, row.path = target.serverPath) ∧
      seen' = (seen.1 ++ rows.map LookupRow.itemId, seen.2 ++ hits target rows) ∧
      seen'.1.Nodup := by
  induction rawItems generalizing seen with
  | nil =>
    rw [List.foldlM_nil] at h
    cases h
    refine ⟨[], List.mapM_nil, fun row hrow => absurd hrow List.not_mem_nil, ?_, hdistinct⟩
    rw [List.map_nil, hits_nil, List.append_nil, List.append_nil]
  | cons rawItem rawItems ih =>
    rw [List.foldlM_cons] at h
    obtain ⟨next, hnext, h⟩ := except_bind_ok h
    obtain ⟨row, hrow, hnew, hpath, rfl⟩ := addEmbyRow_ok hnext
    have hnodup : (seen.1 ++ [row.itemId]).Nodup :=
      List.Nodup.append hdistinct (List.nodup_singleton _) (List.disjoint_singleton.2 hnew)
    obtain ⟨rows, hrows, hpaths, rfl, hdistinct'⟩ := ih hnodup h
    refine ⟨row :: rows, mapM_ok_iff.2 (.cons hrow (mapM_ok_iff.1 hrows)), ?_, ?_, hdistinct'⟩
    · exact List.forall_mem_cons.2 ⟨hpath, hpaths⟩
    · have hcons : hits target (row :: rows) = hits target [row] ++ hits target rows :=
        hits_append target [row] rows
      rw [hcons, List.map_cons, ← List.append_assoc, List.append_assoc, List.append_assoc]
      rfl

/-- What an Emby response that is taken for a verdict proves: whatever rows the server holds, the
response has them all. -/
structure EmbyEvidence (connector : Connector) (target : LookupTarget)
    (server : Query → ServerReply) (result : ItemLookupResult) (rawItems : List Json)
    (rows : List LookupRow) : Prop where
  answered : ∃ response fields total,
    request connector.limits connector.reader connector.limits.maxLookupBytes
      (server (connector.embyQuery target)) = .ok response ∧
    response.payload = .obj fields ∧
    Json.get? fields "Items" = some (.arr rawItems) ∧
    optionalCount (Json.get? fields "TotalRecordCount") = some total ∧
    ∀ library : List Json, rawItems = library.take embyLookupLimit →
      (∀ n ∈ total, n = library.length) → rawItems = library
  read : rawItems.mapM (validatedLookupRow target.providerKey) = .ok rows
  paths : ∀ row ∈ rows, row.path = target.serverPath
  distinct : (rows.map LookupRow.itemId).Nodup
  verdict : Verdict target rows result

theorem asFields_ok {value : Json} {fields : List (String × Json)}
    (h : asFields (some value) = some fields) : value = .obj fields := by
  cases value with
  | obj fields' =>
    cases h
    rfl
  | _ => cases h

theorem asItems_ok {value : Option Json} {items : List Json} (h : asItems value = some items) :
    value = some (.arr items) := by
  cases value with
  | none => cases h
  | some value =>
    cases value with
    | arr items' =>
      cases h
      rfl
    | _ => cases h

/-- A response that reports its length, or is shorter than it may be, leaves no row out. -/
theorem take_complete {rawItems : List Json} {total : Option Nat}
    (hcount : ∀ n ∈ total, n = rawItems.length) (hlimit : rawItems.length ≤ embyLookupLimit)
    (hproved : total.isSome = true ∨ rawItems.length < embyLookupLimit) (library : List Json)
    (hitems : rawItems = library.take embyLookupLimit)
    (htotal : ∀ n ∈ total, n = library.length) : rawItems = library := by
  have hshort : library.length ≤ embyLookupLimit := by
    rcases hproved with hsome | hfew
    · obtain ⟨n, hn⟩ := Option.isSome_iff_exists.1 hsome
      rw [← htotal n hn, hcount n hn]
      exact hlimit
    · rw [hitems, List.length_take] at hfew
      omega
  rw [hitems, List.take_of_length_le hshort]

theorem lookupEmbyItem_evidence {result : ItemLookupResult}
    (h : connector.lookupEmbyItem target server = .ok result) :
    ∃ rawItems rows, EmbyEvidence connector target server result rawItems rows := by
  obtain ⟨budget, -, h⟩ := except_bind_ok h
  obtain ⟨response, hresponse, h⟩ := except_bind_ok h
  obtain ⟨page, hpage, h⟩ := except_bind_ok h
  obtain ⟨budget', -, h⟩ := except_bind_ok h
  obtain ⟨start, -, h⟩ := except_bind_ok h
  obtain ⟨_, -, h⟩ := except_bind_ok h
  obtain ⟨total, htotal, h⟩ := except_bind_ok h
  obtain ⟨_, hcount, h⟩ := except_bind_ok h
  obtain ⟨seen, hseen, h⟩ := except_bind_ok h
  obtain ⟨_, hone, h⟩ := except_bind_ok h
  obtain ⟨_, hproved, hresult⟩ := except_bind_ok h
  obtain ⟨fields, hfields, hpage⟩ := except_bind_ok hpage
  obtain ⟨rawItems, hitems, hpage⟩ := except_bind_ok hpage
  obtain ⟨_, hlimit, hpage⟩ := except_bind_ok hpage
  cases hpage
  have hlimit := of_decide_eq_true (require_ok.1 hlimit)
  have hcount : ∀ n ∈ total, n = rawItems.length := by
    intro n hn
    have hall := require_ok.1 hcount
    rw [Option.mem_def.1 hn] at hall
    exact of_decide_eq_true hall
  obtain ⟨rows, hrows, hpaths, rfl, hdistinct⟩ := addEmbyRows_ok List.nodup_nil hseen
  have hfew : (hits target rows).length ≤ 1 := of_decide_eq_true (require_ok.1 hone)
  have hcomplete : total.isSome = true ∨ rawItems.length < embyLookupLimit := by
    have hchecks := require_ok.1 hproved
    rw [Bool.not_eq_true', Bool.and_eq_false_iff, Bool.and_eq_false_iff] at hchecks
    rcases hchecks with (hsome | hshort) | hmany
    · exact .inl (Option.isNone_eq_false_iff.1 hsome)
    · have hne := of_decide_eq_false hshort
      exact .inr (Nat.lt_of_le_of_ne hlimit hne)
    · have hmany' := of_decide_eq_false hmany
      exact absurd (Nat.lt_of_le_of_lt hfew (by decide : 1 < embyLookupLimit)) hmany'
  refine ⟨rawItems, rows, ⟨⟨response, fields, total, hresponse, asFields_ok (orFail_ok.1 hfields),
    asItems_ok (orFail_ok.1 hitems), orFail_ok.1 htotal, ?_⟩, hrows, hpaths, hdistinct,
    verdict_of_completed hfew hresult⟩⟩
  exact take_complete hcount hlimit hcomplete

end Connector

/-- A lookup is complete evidence: a Jellyfin pass ends, and what it returns is proved by the pages
that it has seen, whatever they were; a library that does not change gets its verdict; and an Emby
response is taken for one where no further row could exist. -/
theorem lookup_complete (connector : Connector) (target : LookupTarget) :
    (∀ server,
      Loop.Ends (connector.lookupPage target server) .new
        (connector.lookupJellyfinItem target server) ∧
      (connector.lookupJellyfinItem target server).1.length ≤ connector.limits.maxLookupPages ∧
      ∀ result, (connector.lookupJellyfinItem target server).2 = .ok result →
        ∃ pages rows, Connector.PassEvidence connector target server
          (connector.lookupJellyfinItem target server).1 result pages rows) ∧
    (∀ server library size body rows, Serves connector server library size body →
      WithinLimits connector.limits connector.reader library size body →
      WellFormed target library rows →
        ((connector.lookupJellyfinItem target server).2 = .error ambiguous ↔
          2 ≤ (hits target rows).length) ∧
        ((hits target rows).length ≤ 1 → ∃ result,
          (connector.lookupJellyfinItem target server).2 = .ok result ∧
            Verdict target rows result)) ∧
    ∀ server result, connector.lookupEmbyItem target server = .ok result →
      ∃ rawItems rows, Connector.EmbyEvidence connector target server result rawItems rows :=
  ⟨fun server => ⟨connector.ends_lookupJellyfinItem target server,
      connector.lookupJellyfinItem_evidence target server⟩,
    fun _ _ _ _ _ => lookupJellyfinItem_static,
    fun _ _ => Connector.lookupEmbyItem_evidence⟩

def sampleLimits : Limits :=
  ⟨262144, 8, 2048, 4096, 2, 32, 4096, 8388608, by decide, by decide⟩

def sampleRow (itemId path author : String) : Json :=
  .obj [("Id", .str itemId), ("Path", .str path),
    ("ProviderIds", .obj [("media-sync-bili-creator", .str author)])]

def sampleLibrary : List Json :=
  [sampleRow "first" "/library/a" "6", sampleRow "second" "/library/b" "7",
    sampleRow "third" "/library/a" "7"]

def sampleRows : List LookupRow :=
  [⟨"first", "/library/a", some "6", none⟩, ⟨"second", "/library/b", some "7", none⟩,
    ⟨"third", "/library/a", some "7", none⟩]

def samplePayload (k : Nat) : Json :=
  .obj [("Items", .arr (pageItems sampleLibrary (fun _ => 2) k)), ("TotalRecordCount", .int 3),
    ("StartIndex", .int (pageStart sampleLibrary (fun _ => 2) k))]

/-- A body is the number of its page. -/
def sampleBody (k : Nat) : List UInt8 := [UInt8.ofNat k]

def sampleReader : BodyReader := ⟨fun bytes => bytes.head?.map fun b => samplePayload b.toNat, rfl⟩

def sampleConnector : Connector := ⟨sampleLimits, sampleReader, "library", "", String.join⟩

/-- Only the third row has the path and the provider value. -/
def sampleTarget : LookupTarget := ⟨"media-sync-bili-creator", "7", "/library/a"⟩

theorem pageStart_sample (k : Nat) : pageStart sampleLibrary (fun _ => 2) (k + 2) = 3 := by
  induction k with
  | zero => rfl
  | succ k ih =>
    rw [pageStart_succ, pageItems_length, ih]
    rfl

theorem asked_sample {k : Nat} (h : Asked sampleLibrary (fun _ => 2) k) : k = 0 ∨ k = 1 := by
  rcases k with _ | _ | k
  · exact .inl rfl
  · exact .inr rfl
  · rcases h with hzero | hmore
    · cases hzero
    · rw [pageStart_sample] at hmore
      exact absurd hmore (Nat.lt_irrefl 3)

theorem serves_sample : Serves sampleConnector (fun k _ => .body (sampleBody k)) sampleLibrary
    (fun _ => 2) sampleBody where
  sizes := fun _ => ⟨by decide, by decide⟩
  answers := fun _ _ => rfl
  payloads := fun k hasked => by
    rcases asked_sample hasked with rfl | rfl
    · exact ⟨_, rfl, rfl, rfl, rfl⟩
    · exact ⟨_, rfl, rfl, rfl, rfl⟩

theorem withinLimits_sample :
    WithinLimits sampleLimits sampleReader sampleLibrary (fun _ => 2) sampleBody where
  items := by decide
  pages := fun k hasked => by
    rcases asked_sample hasked with rfl | rfl <;> decide
  bodies := fun _ _ => Nat.one_le_of_lt sampleLimits.positive.1
  bytes := fun k hasked => by
    rcases asked_sample hasked with rfl | rfl <;> decide
  json := fun k hasked payload hpayload => by
    rcases asked_sample hasked with rfl | rfl
    · cases hpayload
      decide +kernel
    · cases hpayload
      decide +kernel

theorem wellFormed_sample : WellFormed sampleTarget sampleLibrary sampleRows where
  read := by decide +kernel
  distinct := by decide
  etags := by decide

/-- The target is found on the second page. -/
theorem lookup_complete_sample : ∃ result,
    (sampleConnector.lookupJellyfinItem sampleTarget fun k _ => .body (sampleBody k)).2 =
      .ok result ∧ Verdict sampleTarget sampleRows result :=
  ((lookup_complete sampleConnector sampleTarget).2.1 _ _ _ _ _ serves_sample withinLimits_sample
    wellFormed_sample).2 (by decide +kernel)

end MediaSync.MediaServer
