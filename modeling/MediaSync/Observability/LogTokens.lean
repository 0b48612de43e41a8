import MediaSync.Observability.LogNames

/-!
# A cursor is read back

The cursor that a page comes with is not too long, whatever the filters, and the
next query makes of it what the page put into it.
-/

namespace MediaSync.Observability

open Python JsonText Events

/-- What the cursors rely on: decoding undoes encoding, which makes four characters of three bytes,
and a digest is thirty-two bytes. -/
structure CursorHost.Lawful (host : CursorHost) : Prop where
  log : host.toLogHost.Lawful
  decode_encode : ∀ t, host.decode64 (host.encode64 t) = some t
  encode_length : ∀ t, (host.encode64 t).length = 4 * ((t.length + 2) / 3)
  digest_length : ∀ key t, (host.digest key t).length = 32

/-- What `_filters` lets pass: each key once, with a value that takes little room. -/
structure Selected (selected : Filters) : Prop where
  keys : (selected.map Prod.fst).Nodup
  known : ∀ f ∈ selected, f.1 ∈ filterKeys
  fits : ∀ f ∈ selected, Fits 38 (JsonText.string f.2.toList)

theorem sum_le_of_sublist {xs ys : List Nat} (h : xs.Sublist ys) : xs.sum ≤ ys.sum := by
  induction h with
  | slnil => exact Nat.le_refl _
  | cons y _ ih =>
    rw [List.sum_cons]
    exact Nat.le_add_left_of_le ih
  | cons_cons y _ ih =>
    rw [List.sum_cons, List.sum_cons]
    exact Nat.add_le_add_left ih y

theorem fits_filterDocs {selected : Filters} (h : Selected selected) :
    Fits 767 (Doc.object (LogCursor.filterDocs selected)).text := by
  have hfields : List.Forall₂ (fun f b => f.1 = b.1 ∧ Fits b.2 f.2)
      ((LogCursor.filterDocs selected).map fun f => (f.1, f.2.text))
      (selected.map fun f => (f.1, 38)) := by
    rw [LogCursor.filterDocs, List.map_map, List.forall₂_map_left_iff, List.forall₂_map_right_iff,
      List.forall₂_same]
    exact fun f hf => ⟨rfl, h.fits f hf⟩
  rw [Doc.text_object]
  refine (fits_object hfields).mono ?_
  have hsub : (selected.map Prod.fst).Subperm filterKeys :=
    List.subperm_of_subset h.keys fun key hkey => by
      obtain ⟨f, hf, rfl⟩ := List.mem_map.1 hkey
      exact h.known f hf
  obtain ⟨keys, hperm, hsublist⟩ := hsub
  have hsum : (selected.map fun f => fieldBound (f.1, 38) + 1).sum ≤
      (filterKeys.map fun key => fieldBound (key, 38) + 1).sum := by
    have hmap := (hperm.map fun key => fieldBound (key, 38) + 1).sum_nat
    rw [List.map_map] at hmap
    refine Nat.le_trans (Nat.le_of_eq hmap.symm) ?_
    exact sum_le_of_sublist (hsublist.map _)
  have hkeys : (filterKeys.map fun key => fieldBound (key, 38) + 1).sum = 765 := by
    decide +kernel
  rw [objectBound, List.map_map]
  rw [hkeys] at hsum
  exact Nat.add_le_add_right hsum 2

/-- A cursor as a page makes it. -/
structure LogCursor.Made (c : LogCursor) : Prop where
  header : ∃ h : SegmentHeader, h.Valid ∧ ∃ isSealed, c.name = (h.name isSealed).text
  offset : c.offset < 2 ^ 63
  filters : Selected c.filters
  storeId : isCanonicalUuid c.storeId = true

namespace LogCursor

theorem docs_keys (c : LogCursor) :
    c.docs.map Prod.fst = ["name", "offset", "filters", "store_id"] := rfl

theorem fits_payload {c : LogCursor} (h : c.Made) : Fits 1081 c.payload := by
  obtain ⟨header, hvalid, isSealed, hname⟩ := h.header
  have hlength : c.name.toList.length ≤ 106 := by
    rw [hname, SegmentHeader.name_toList, List.length_append, hvalid.stem_length]
    cases isSealed with
    | true => decide
    | false => decide
  have hprintable : ∀ ch ∈ c.name.toList, isPrintable ch = true := by
    rw [hname]
    exact hvalid.name_printable isSealed
  have hdigits : Fits 19 (JsonText.number c.offset) :=
    fits_digits (by decide) (Nat.lt_trans h.offset (by decide))
  rw [payload, Doc.text_object]
  have hfields : List.Forall₂ (fun f b => f.1 = b.1 ∧ Fits b.2 f.2)
      (c.docs.map fun f => (f.1, f.2.text))
      [("name", 214), ("offset", 19), ("filters", 767), ("store_id", 38)] :=
    .cons ⟨rfl, Fits.string ⟨hprintable, hlength⟩⟩ (.cons ⟨rfl, hdigits⟩
      (.cons ⟨rfl, fits_filterDocs h.filters⟩ (.cons ⟨rfl, fits_uuid h.storeId⟩ .nil)))
  exact (fits_object hfields).mono (by decide)

theorem keysOnce_docs {c : LogCursor} (h : c.Made) : (Doc.object c.docs).keysOnce = true := by
  rw [Doc.keysOnce_object, docs_keys]
  refine ⟨by decide, fun f hf => ?_⟩
  simp only [docs, List.mem_cons, List.not_mem_nil, or_false] at hf
  rcases hf with rfl | rfl | rfl | rfl
  · rfl
  · rfl
  · rw [Doc.keysOnce_object]
    refine ⟨?_, fun f hf => ?_⟩
    · rw [filterDocs, List.map_map]
      exact h.filters.keys
    · obtain ⟨g, -, rfl⟩ := List.mem_map.1 hf
      rfl
  · rfl

theorem sameFields_of_get {xs ys : List (String × Json)}
    (h : ∀ f ∈ xs, Json.get? ys f.1 = some f.2 ∧ Json.same f.2 f.2 = true) :
    Json.sameFields xs ys = true := by
  induction xs with
  | nil => rfl
  | cons f xs ih =>
    obtain ⟨name, value⟩ := f
    obtain ⟨hget, hsame⟩ := h (name, value) List.mem_cons_self
    rw [Json.sameFields, hget]
    dsimp only
    rw [hsame, ih fun g hg => h g (List.mem_cons_of_mem _ hg)]
    rfl

/-- The filters that are read back are those that were written. -/
theorem same_filterDocs {selected : Filters} (h : Selected selected) :
    Json.same (Doc.object (filterDocs selected)).json
      (.obj (selected.map fun f => (f.1, .str f.2))) = true := by
  have hjson : (filterDocs selected).map (fun f => (f.1, f.2.json)) =
      selected.map (fun f => (f.1, Json.str f.2)) := by
    rw [filterDocs, List.map_map]
    refine List.map_congr_left fun f _ => ?_
    simp [Doc.json]
  have hkeys : ((selected.map fun f => (f.1, Json.str f.2)).map Prod.fst).Nodup := by
    rw [List.map_map]
    exact h.keys
  rw [Doc.json_object, hjson, Json.same, (sortedFields_perm _).length_eq, decide_eq_true rfl,
    Bool.true_and]
  refine sameFields_of_get fun f hf => ?_
  have hmem := (sortedFields_perm _).mem_iff.1 hf
  refine ⟨(get?_eq_some_iff hkeys).2 hmem, ?_⟩
  obtain ⟨g, -, rfl⟩ := List.mem_map.1 hmem
  exact decide_eq_true rfl

theorem fromMapping_docs {c : LogCursor} (h : c.Made) :
    fromMapping c.storeId c.filters (Doc.object c.docs).json = some c := by
  obtain ⟨header, hvalid, isSealed, hheader⟩ := h.header
  have hkeys : (c.docs.map Prod.fst).Nodup := by
    rw [docs_keys]
    decide
  have hmapping := mapping_object c.docs _ c.docs_keys
  rw [Doc.json_object] at hmapping
  have hstore := readField_fields hkeys "store_id" (.string c.storeId.toList)
    (by simp [docs]) (readText_string c.storeId)
  have hasked := get?_fields hkeys "filters" (.object (filterDocs c.filters)) (by simp [docs])
  have hname := readField_fields hkeys "name" (.string c.name.toList)
    (by simp [docs]) (readText_string c.name)
  have hoffset := readField_fields hkeys "offset" (.number c.offset)
    (by simp [docs]) (readNat_number c.offset)
  have hsegment : isSegmentName c.name = true := by
    rw [hheader]
    exact hvalid.isSegmentName isSealed
  rw [Doc.json_object]
  simp only [fromMapping, hmapping, hstore, hasked, hname, hoffset, Option.bind_eq_bind,
    Option.bind_some]
  rw [if_pos ⟨trivial, same_filterDocs h.filters, hsegment⟩]

/-- The next query reads the cursor that a page has made. -/
theorem decode_token {host : CursorHost} (hhost : host.Lawful) (key : Text) {c : LogCursor}
    (h : c.Made) : decode host key c.storeId c.filters (c.token host key) = .ok c := by
  have hpayload := (fits_payload h).length
  have hdigest := hhost.digest_length key c.payload
  have hlength : ¬ (c.token host key).length > maxCursorBytes := by
    rw [token, hhost.encode_length, List.length_append, hdigest, maxCursorBytes]
    omega
  have hraw : (c.payload ++ host.digest key c.payload).length - 32 = c.payload.length := by
    rw [List.length_append, hdigest]
    omega
  have hloads : host.loads c.payload = some (Doc.object c.docs).json :=
    hhost.log.loads_text _ (keysOnce_docs h)
  rw [decode, if_neg hlength, token, hhost.decode_encode]
  dsimp only
  rw [hraw, List.take_left, List.drop_left, if_neg (not_not_intro rfl), hloads, Option.bind_some,
    fromMapping_docs h]

end LogCursor

end MediaSync.Observability
