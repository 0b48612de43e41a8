import MediaSync.Foundation.JsonParse
import MediaSync.Observability.Segments

/-!
# What is written is read back

A header that was written is found at the start of whatever follows it, and a
footer at the end of whatever precedes it. The names of two segments are in the
order of their times.
-/

namespace MediaSync.Observability

open Python JsonText

/-- What the store relies on: decoding undoes encoding, and a digest is sixty-four digits. -/
structure LogHost.Lawful (host : LogHost) : Prop where
  loads_text : ∀ d : Doc, d.keysOnce = true → host.loads d.text = some d.json
  loads_line : ∀ d : Doc, d.keysOnce = true → host.loads (d.text ++ ['\n']) = some d.json
  sign_hex : ∀ key value, isHexKey (host.sign key value) = true

theorem sortedFields_pairwise {α : Type} (fields : List (String × α)) :
    (sortedFields fields).Pairwise (fun f g => f.1 ≤ g.1) :=
  List.pairwise_insertionSort _ fields

/-- Fields in the order of their keys are determined by what they are. -/
theorem sorted_unique {α : Type} {xs ys : List (String × α)} (hkeys : (xs.map Prod.fst).Nodup)
    (hx : xs.Pairwise (fun f g => f.1 ≤ g.1)) (hy : ys.Pairwise (fun f g => f.1 ≤ g.1))
    (hperm : xs.Perm ys) : xs = ys := by
  refine hperm.eq_of_pairwise (fun f g hf hg hfg hgf => ?_) hx hy
  exact List.inj_on_of_nodup_map hkeys hf (hperm.mem_iff.2 hg) (String.le_antisymm hfg hgf)

theorem sortedFields_filter {α : Type} {fields more : List (String × α)} {p : String × α → Bool}
    (hkeys : (fields.map Prod.fst).Nodup) (hfields : ∀ f ∈ fields, p f = true)
    (hmore : ∀ f ∈ more, p f = false) :
    (sortedFields (fields ++ more)).filter p = sortedFields fields := by
  have hperm : ((sortedFields (fields ++ more)).filter p).Perm (sortedFields fields) := by
    have h := (sortedFields_perm (fields ++ more)).filter p
    have hnone : more.filter p = [] :=
      List.filter_eq_nil_iff.2 fun f hf => by simp [hmore f hf]
    rw [List.filter_append, List.filter_eq_self.2 hfields, hnone, List.append_nil] at h
    exact h.trans (sortedFields_perm fields).symm
  refine sorted_unique ?_ ((sortedFields_pairwise _).filter _) (sortedFields_pairwise _) hperm
  have hnodup := ((hperm.trans (sortedFields_perm fields)).map Prod.fst).nodup_iff.2 hkeys
  exact hnodup

theorem sortedFields_sorted {α : Type} (fields : List (String × α)) :
    sortedFields (sortedFields fields) = sortedFields fields :=
  (sortedFields_pairwise fields).insertionSort_eq

section

variable {host : LogHost}

/-- A payload that can be signed and read back. -/
structure Signable (payload : List (String × Doc)) : Prop where
  keys : (payload.map Prod.fst).Nodup
  unsigned : ∀ f ∈ payload, f.1 ≠ "mac"
  once : ∀ f ∈ payload, f.2.keysOnce = true

theorem signed_keys {key : String} {payload : List (String × Doc)} (h : Signable payload) :
    ((signed host key payload).map Prod.fst).Nodup := by
  rw [signed, List.map_append, List.nodup_append]
  refine ⟨h.keys, by simp, fun a ha b hb => ?_⟩
  obtain ⟨f, hf, rfl⟩ := List.mem_map.1 ha
  simp only [List.map_cons, List.map_nil, List.mem_singleton] at hb
  rw [hb]
  exact h.unsigned f hf

theorem signed_keysOnce {key : String} {payload : List (String × Doc)} (h : Signable payload) :
    (Doc.object (signed host key payload)).keysOnce = true := by
  rw [Doc.keysOnce_object]
  refine ⟨signed_keys h, fun f hf => ?_⟩
  rcases List.mem_append.1 hf with hf | hf
  · exact h.once f hf
  · rw [List.mem_singleton.1 hf]
    rfl

/-- What was signed is verified, with or without its line feed. -/
theorem verified_of_loads {key : String} {payload : List (String × Doc)} {line : Text}
    (hhost : host.Lawful) (h : Signable payload) (hlen : line.length ≤ footerReserve)
    (hloads : host.loads line = some (Doc.object (signed host key payload)).json) :
    verified host key line = some (sortedFields (payload.map fun f => (f.1, f.2.json))) := by
  have hfilter : (sortedFields ((signed host key payload).map fun f => (f.1, f.2.json))).filter
      (fun f => f.1 ≠ "mac") = sortedFields (payload.map fun f => (f.1, f.2.json)) := by
    rw [signed, List.map_append]
    refine sortedFields_filter ?_ ?_ ?_
    · rw [List.map_map]
      exact h.keys
    · intro f hf
      obtain ⟨g, hg, rfl⟩ := List.mem_map.1 hf
      exact decide_eq_true (h.unsigned g hg)
    · intro f hf
      simp only [List.map_cons, List.map_nil, List.mem_singleton] at hf
      rw [hf]
      rfl
  have hmac : (Json.get? (sortedFields ((signed host key payload).map fun f => (f.1, f.2.json)))
      "mac").bind readText = some (host.sign key (Doc.object payload).json) := by
    rw [get?_fields (signed_keys h) "mac" _ (List.mem_append_right _ (List.mem_singleton_self _)),
      Option.bind_some, readText_string]
  rw [verified, if_neg (Nat.not_lt.2 hlen), hloads, Doc.json_object]
  dsimp only
  rw [hmac]
  dsimp only
  rw [hfilter, sortedFields_sorted, if_pos ⟨hhost.sign_hex _ _, by rw [Doc.json_object]⟩]

theorem signedText_printable (key : String) (payload : List (String × Doc)) :
    ∀ c ∈ signedText host key payload, isPrintable c = true :=
  Doc.printable _

theorem ne_lineFeed {c : Char} (h : isPrintable c = true) : c ≠ '\n' := by
  rintro rfl
  cases h

theorem readLine_line {t rest : Text} {limit : Nat} (ht : ∀ c ∈ t, c ≠ '\n')
    (hlimit : t.length < limit) : readLine limit (t ++ '\n' :: rest) = t ++ ['\n'] := by
  have htake : (t ++ '\n' :: rest).takeWhile (· ≠ '\n') = t := by
    rw [List.takeWhile_append_of_pos (by simpa using ht)]
    simp
  rw [readLine, htake, if_pos (by simp)]
  refine List.take_of_length_le ?_
  rw [List.length_append, List.length_singleton]
  exact hlimit

theorem lastLine_line {t before : Text} (ht : ∀ c ∈ t, c ≠ '\n') (hne : t ≠ [])
    (hbefore : before = [] ∨ before.getLast? = some '\n') :
    lastLine (before ++ t ++ ['\n']) = t := by
  have hrev : (before ++ t ++ ['\n']).reverse = '\n' :: (t.reverse ++ before.reverse) := by simp
  have hdrop : ('\n' :: (t.reverse ++ before.reverse)).dropWhile (· = '\n') =
      t.reverse ++ before.reverse := by
    rw [List.dropWhile_cons, if_pos (by simp)]
    cases hr : t.reverse with
    | nil => exact absurd (List.reverse_eq_nil_iff.1 hr) hne
    | cons c cs =>
      have hc : c ∈ t := by
        rw [← List.mem_reverse, hr]
        exact List.mem_cons_self
      rw [List.cons_append, List.dropWhile_cons, if_neg (by simpa using ht c hc)]
  have htake : (t.reverse ++ before.reverse).takeWhile (· ≠ '\n') = t.reverse := by
    rw [List.takeWhile_append_of_pos (by simpa using ht)]
    rcases hbefore with rfl | hlast
    · simp
    · cases hb : before.reverse with
      | nil => simp
      | cons c cs =>
        have hc : c = '\n' := by
          rw [← List.head?_reverse, hb] at hlast
          exact Option.some.inj hlast
        rw [hc]
        simp
  rw [lastLine, hrev, hdrop, htake, List.reverse_reverse]

theorem signable_of_keys {payload : List (String × Doc)} (keys : List String)
    (hpayload : payload.map Prod.fst = keys) (hkeys : keys.Nodup) (hmac : "mac" ∉ keys)
    (honce : ∀ f ∈ payload, f.2.keysOnce = true) : Signable payload where
  keys := by
    rw [hpayload]
    exact hkeys
  unsigned := by
    intro f hf heq
    have hkey : f.1 ∈ payload.map Prod.fst := List.mem_map_of_mem hf
    rw [hpayload, heq] at hkey
    exact hmac hkey
  once := honce

theorem signable_header (h : SegmentHeader) : Signable h.payload := by
  refine signable_of_keys ["type", "store_id", "writer_id", "segment_id", "created_at"] rfl
    (by decide) (by decide) fun f hf => ?_
  simp only [SegmentHeader.payload, List.mem_cons, List.not_mem_nil, or_false] at hf
  rcases hf with rfl | rfl | rfl | rfl | rfl <;> rfl

/-- The texts of a header are what they should be. -/
structure SegmentHeader.Valid (h : SegmentHeader) : Prop where
  store : isCanonicalUuid h.storeId = true
  writer : isCanonicalUuid h.writerId = true
  segment : isCanonicalUuid h.segmentId = true
  time : isCanonicalTime h.createdAt = true

theorem isPlain_of_code {c : Char} (h : 0x23 ≤ c.toNat ∧ c.toNat ≤ 0x7E ∧ c.toNat ≠ 0x5C) :
    isPlain c = true := by
  simp only [isPlain, isPrintable, Bool.and_eq_true, decide_eq_true_eq, bne_iff_ne, ne_eq]
  omega

theorem isPlain_digit {c : Char} (h : c.isDigit = true) : isPlain c = true := by
  simp only [Char.isDigit, Bool.and_eq_true, decide_eq_true_eq, ge_iff_le,
    UInt32.le_iff_toNat_le] at h
  have h0 : ('0').val.toNat = 48 := rfl
  have h9 : ('9').val.toNat = 57 := rfl
  have hc : c.toNat = c.val.toNat := rfl
  exact isPlain_of_code (by omega)

theorem isPlain_hexLetter {c : Char} (h : ('a' ≤ c && c ≤ 'f') = true) : isPlain c = true := by
  simp only [Bool.and_eq_true, decide_eq_true_eq, Char.le_def, UInt32.le_iff_toNat_le] at h
  have ha : ('a').val.toNat = 97 := rfl
  have hf : ('f').val.toNat = 102 := rfl
  have hc : c.toNat = c.val.toNat := rfl
  exact isPlain_of_code (by omega)

theorem isPlain_hexDigit {c : Char} (h : (c.isDigit || ('a' ≤ c && c ≤ 'f')) = true) :
    isPlain c = true := by
  rcases Bool.or_eq_true_iff.1 h with h | h
  · exact isPlain_digit h
  · exact isPlain_hexLetter h

/-- A property of the characters with their places is one of the characters. -/
theorem all_of_zipIdx {t : List Char} {p : Char × Nat → Bool} {q : Char → Prop}
    (h : t.zipIdx.all p = true) (hq : ∀ c i, p (c, i) = true → q c) : ∀ c ∈ t, q c := by
  intro c hc
  obtain ⟨i, hi⟩ := List.mem_iff_getElem?.1 hc
  exact hq c i (List.all_eq_true.1 h (c, i) (List.mem_zipIdx_iff_getElem?.2 hi))

theorem fits_uuid {value : String} (h : isCanonicalUuid value = true) :
    Fits 38 (JsonText.string value.toList) := by
  simp only [isCanonicalUuid, Bool.and_eq_true, decide_eq_true_eq] at h
  refine fits_string_plain (all_of_zipIdx h.2 fun c i hc => ?_) (Nat.le_of_eq h.1)
  dsimp only at hc
  split at hc
  · rw [of_decide_eq_true hc]
    decide
  · exact isPlain_hexDigit hc

theorem fits_time {value : String} (h : isCanonicalTime value = true) :
    Fits 29 (JsonText.string value.toList) := by
  simp only [isCanonicalTime, Bool.and_eq_true, decide_eq_true_eq] at h
  refine fits_string_plain (all_of_zipIdx h.1.2 fun c i hc => ?_) (Nat.le_of_eq h.1.1)
  dsimp only at hc
  split at hc
  · rename_i p hp
    have hmem := List.mem_of_find?_eq_some hp
    rw [of_decide_eq_true hc]
    have hall : ∀ p ∈ timePunctuation, isPlain p.2 = true := by decide
    exact hall p hmem
  · exact isPlain_digit hc

theorem fits_hexKey {value : String} (h : isHexKey value = true) :
    Fits 66 (JsonText.string value.toList) := by
  simp only [isHexKey, Bool.and_eq_true, decide_eq_true_eq, List.all_eq_true] at h
  exact fits_string_plain (fun c hc => isPlain_hexDigit (h.2 c hc)) (Nat.le_of_eq h.1)

theorem fits_header (hhost : host.Lawful) {h : SegmentHeader} (hvalid : h.Valid) (key : String) :
    Fits 511 (signedText host key h.payload) := by
  have hkind : Fits 12 (JsonText.string "segment_v1".toList) :=
    .of_all (by decide) (by decide)
  rw [signedText, Doc.text_object]
  have hfields : List.Forall₂ (fun f b => f.1 = b.1 ∧ Fits b.2 f.2)
      ((signed host key h.payload).map fun f => (f.1, f.2.text))
      [("type", 12), ("store_id", 38), ("writer_id", 38), ("segment_id", 38), ("created_at", 29),
        ("mac", 66)] :=
    .cons ⟨rfl, hkind⟩ (.cons ⟨rfl, fits_uuid hvalid.store⟩
      (.cons ⟨rfl, fits_uuid hvalid.writer⟩ (.cons ⟨rfl, fits_uuid hvalid.segment⟩
        (.cons ⟨rfl, fits_time hvalid.time⟩ (.cons ⟨rfl, fits_hexKey (hhost.sign_hex _ _)⟩ .nil)))))
  exact (fits_object hfields).mono (by decide)

theorem signedText_ne_nil (key : String) (payload : List (String × Doc)) :
    signedText host key payload ≠ [] := by
  rw [signedText, Doc.text_object, JsonText.object]
  exact List.cons_ne_nil _ _

theorem readHeader_line (hhost : host.Lawful) {h : SegmentHeader} (hvalid : h.Valid)
    (key : String) : readHeader host h.storeId key (stamp h.createdAt) h.writerId h.segmentId
      (h.line host key) = some h := by
  have hfits := fits_header hhost hvalid key
  have hsign := signable_header h
  have hlen : (h.line host key).length ≤ footerReserve := by
    have := hfits.length
    simp only [SegmentHeader.line, List.length_append, List.length_singleton, footerReserve]
    omega
  have hverified := verified_of_loads hhost hsign hlen
    (hhost.loads_line _ (signed_keysOnce hsign))
  have hmapping := mapping_object h.payload
    ["type", "store_id", "writer_id", "segment_id", "created_at"] rfl
  rw [Doc.json_object] at hmapping
  have hkind := readField_fields hsign.keys "type" (.string "segment_v1".toList)
    (by simp [SegmentHeader.payload]) (readText_string "segment_v1")
  have hstore := readField_fields hsign.keys "store_id" (.string h.storeId.toList)
    (by simp [SegmentHeader.payload]) (readText_string h.storeId)
  have hwriter := readField_fields hsign.keys "writer_id" (.string h.writerId.toList)
    (by simp [SegmentHeader.payload]) (readText_string h.writerId)
  have hid := readField_fields hsign.keys "segment_id" (.string h.segmentId.toList)
    (by simp [SegmentHeader.payload]) (readText_string h.segmentId)
  have htime := readField_fields hsign.keys "created_at" (.string h.createdAt.toList)
    (by simp [SegmentHeader.payload]) (readText_string h.createdAt)
  simp only [readHeader, hverified, hmapping, hkind, hstore, hwriter, hid, htime, Option.bind_eq_bind,
    Option.bind_some]
  simp [hvalid.writer, hvalid.segment, hvalid.time]

theorem signable_footer (segmentId : String) (size count : Nat) :
    Signable (footerPayload segmentId size count) := by
  refine signable_of_keys ["type", "segment_id", "end", "count"] rfl (by decide) (by decide)
    fun f hf => ?_
  simp only [footerPayload, List.mem_cons, List.not_mem_nil, or_false] at hf
  rcases hf with rfl | rfl | rfl | rfl <;> rfl

/-- The text ends a line, or there is none. -/
def EndsLine (t : Text) : Prop := t = [] ∨ t.getLast? = some '\n'

theorem EndsLine.drop {t : Text} (h : EndsLine t) (n : Nat) : EndsLine (t.drop n) := by
  rcases h with rfl | h
  · exact .inl List.drop_nil
  · by_cases hn : n < t.length
    · exact .inr (by rw [List.getLast?_drop, if_neg (Nat.not_le.2 hn), h])
    · exact .inl (List.drop_eq_nil_of_le (Nat.not_lt.1 hn))

theorem endsLine_line (t : Text) : EndsLine (t ++ ['\n']) := .inr (by simp)

theorem EndsLine.append {t u : Text} (ht : EndsLine t) (hu : EndsLine u) : EndsLine (t ++ u) := by
  rcases hu with rfl | hu
  · rw [List.append_nil]
    exact ht
  · refine .inr ?_
    rw [List.getLast?_append, hu]
    rfl

theorem endsLine_header (h : SegmentHeader) (key : String) : EndsLine (h.line host key) :=
  endsLine_line _

theorem readFooter_line (hhost : host.Lawful) {key segmentId : String} (start : Nat) {count : Nat}
    {before : Text} (hstart : start ≤ before.length) (hends : EndsLine before)
    (hlen : (footerLine host key segmentId before.length count).length ≤ footerReserve) :
    readFooter host key segmentId start
      (before ++ footerLine host key segmentId before.length count) = some before.length := by
  have hsign := signable_footer segmentId before.length count
  generalize hft : signedText host key (footerPayload segmentId before.length count) = ft
  have hline : footerLine host key segmentId before.length count = ft ++ ['\n'] := by
    rw [footerLine, hft]
  rw [hline] at hlen ⊢
  rw [List.length_append, List.length_singleton] at hlen
  have hverified : verified host key ft = some (sortedFields
      ((footerPayload segmentId before.length count).map fun f => (f.1, f.2.json))) := by
    refine verified_of_loads hhost hsign (Nat.le_of_succ_le hlen) ?_
    rw [← hft]
    exact hhost.loads_text _ (signed_keysOnce hsign)
  have hprint : ∀ c ∈ ft, c ≠ '\n' := by
    intro c hc
    rw [← hft] at hc
    exact ne_lineFeed (signedText_printable _ _ c hc)
  have hne : ft ≠ [] := by
    rw [← hft]
    exact signedText_ne_nil _ _
  have hdrop : (before ++ (ft ++ ['\n'])).drop
      (max start ((before ++ (ft ++ ['\n'])).length - footerReserve)) =
      before.drop (max start ((before ++ (ft ++ ['\n'])).length - footerReserve)) ++ ft ++
        ['\n'] := by
    rw [List.drop_append_of_le_length, List.append_assoc]
    simp only [List.length_append, List.length_singleton]
    omega
  have hlast := lastLine_line hprint hne (hends.drop
    (max start ((before ++ (ft ++ ['\n'])).length - footerReserve)))
  have hmapping := mapping_object (footerPayload segmentId before.length count)
    ["type", "segment_id", "end", "count"] rfl
  rw [Doc.json_object] at hmapping
  have hkind := readField_fields hsign.keys "type" (.string "sealed_v1".toList)
    (by simp [footerPayload]) (readText_string "sealed_v1")
  have hid := readField_fields hsign.keys "segment_id" (.string segmentId.toList)
    (by simp [footerPayload]) (readText_string segmentId)
  have hend := readField_fields hsign.keys "end" (.number before.length)
    (by simp [footerPayload]) (readNat_number before.length)
  have hcount := readField_fields hsign.keys "count" (.number count)
    (by simp [footerPayload]) (readNat_number count)
  rw [readFooter]
  dsimp only
  rw [hdrop, if_neg (by simp)]
  simp only [hlast, hverified, hmapping, hkind, hid, hend, hcount, Option.bind_eq_bind,
    Option.bind_some]
  rw [if_pos]
  refine ⟨trivial, trivial, ?_⟩
  simp only [List.length_append, List.length_singleton]
  omega

end

end MediaSync.Observability
