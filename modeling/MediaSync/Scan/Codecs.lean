import MediaSync.Foundation.JsonParse
import MediaSync.Scan.BiliRecords
import MediaSync.Scan.CreatorUnits

/-!
# The codecs of all four planners

Writers and readers of the cursors and of the records that units publish. A
cursor has one spelling. The states that Bili units propose always have one;
the page cursors of the creator planners are opaque and may be too long for
theirs, which `to_cursor` then refuses. A record's line is read back as the
record, up to the one length at which the two limits of the creator records
disagree.
-/

namespace MediaSync.Scan

open JsonText

variable {p : CreatorPlatform}

/-- Characters that take twelve places each, and some that take one. -/
def wideCursor (n k : Nat) : String :=
  String.ofList (List.replicate n '𝄞' ++ List.replicate k 'b')

section

variable (n k : Nat)

theorem wideCursor_toList :
    (wideCursor n k).toList = List.replicate n '𝄞' ++ List.replicate k 'b' :=
  String.toList_ofList

theorem wideCursor_length : (wideCursor n k).toList.length = n + k := by
  rw [wideCursor_toList, List.length_append, List.length_replicate, List.length_replicate]

theorem validCursor_wideCursor (h : n + k ≤ 4096) : validCursor (wideCursor n k) = true := by
  have hchar : ∀ c ∈ (wideCursor n k).toList, (!Python.isControl c) = true := by
    intro c hc
    rw [wideCursor_toList] at hc
    rcases List.mem_append.1 hc with hc | hc
    · rw [List.eq_of_mem_replicate hc]
      decide
    · rw [List.eq_of_mem_replicate hc]
      decide
  rw [validCursor, wideCursor_length, decide_eq_true h, List.all_eq_true.2 hchar]
  rfl

theorem wideCursor_weight (m : Char → Nat) :
    stringWeight m (wideCursor n k).toList =
      n * total m (escape '𝄞') + k * total m (escape 'b') + 2 * m '"' := by
  rw [wideCursor_toList, stringWeight, total_append, total_replicate, total_replicate]

theorem wideCursor_plain : stringWeight plain (wideCursor n k).toList = 12 * n + k + 2 := by
  have hwide : total plain (escape '𝄞') = 12 := by decide
  have hb : total plain (escape 'b') = 1 := by decide
  rw [wideCursor_weight, hwide, hb, plain]
  omega

theorem wideCursor_escaped : stringWeight escaped (wideCursor n k).toList = 14 * n + k + 4 := by
  have hwide : total escaped (escape '𝄞') = 14 := by decide
  have hb : total escaped (escape 'b') = 1 := by decide
  have hquote : escaped '"' = 2 := by decide
  rw [wideCursor_weight, hwide, hb, hquote]
  omega

end

theorem wideCursor_ne {n k j l : Nat} (h : n + k ≠ j + l) : wideCursor n k ≠ wideCursor j l := by
  intro heq
  have hlength := congrArg (fun s => s.toList.length) heq
  simp only [wideCursor_length] at hlength
  exact h hlength

theorem wideCursor_ne_empty {n k : Nat} (h : 0 < n + k) : wideCursor n k ≠ "" := by
  intro heq
  have hlength := wideCursor_length n k
  rw [heq] at hlength
  exact absurd hlength.symm (Nat.ne_of_gt h)

def sampleBiliBinding : BiliBinding :=
  ⟨"77777777-7777-7777-7777-777777777777", sampleSha256,
    "2cf24dba5fb0a30e26e83b2ac5b9e29e1b161e5c"⟩

theorem sampleBiliBinding_valid : sampleBiliBinding.Valid := by decide +kernel

def sampleVideo : BiliIdentity :=
  ⟨"71", "BV1yy411c7mD", ⟨1712345678, by decide⟩, by decide⟩

def sampleVideos : BiliPage :=
  ⟨1, 2, [sampleVideo, ⟨"51", "BV1yy411c7mQ", ⟨1612345678, by decide⟩, by decide⟩], by decide⟩

def sampleDynamic (did dynamicType : String)
    (h : validAid did = true ∧ validDynamicType dynamicType = true) : DynamicIdentity :=
  ⟨did, dynamicType, sampleVideo.pubdate, 3, h.1, h.2, by decide, by decide⟩

/-- A page of dynamics, the first of them about a video. -/
def sampleDynamicPage : DynamicPage :=
  ⟨⟨sampleSha256, "", "", true, 2, by decide +kernel⟩,
    [sampleDynamic "9" "DYNAMIC_TYPE_AV" (by decide +kernel),
      sampleDynamic "8" "DYNAMIC_TYPE_WORD" (by decide +kernel)], rfl, by decide⟩

def sampleUploads : MultiFeedState :=
  ⟨.initial sampleBiliBinding, .both, .uploads, .initial, rfl⟩

/-- The page of dynamics has been saved. -/
def sampleDynamics : MultiFeedState :=
  ⟨.initial sampleBiliBinding, .both, .dynamics,
    ⟨.head, ⟨"", some sampleDynamicPage.ref, 0, [], by decide⟩, .start⟩, rfl⟩

theorem exists_ok_of_any {ε α : Type} {e : Except ε α} {holds : α → Bool}
    (h : e.toOption.any holds = true) : ∃ a, e = .ok a ∧ holds a = true := by
  cases e with
  | error _ => cases h
  | ok a => exact ⟨a, rfl, h⟩

/-- A unit over two uploads that may take one of them makes a record, alone and for both feeds, and
keeps the page. -/
theorem sample_uploads :
    ∃ u c d, BiliScanUnit.Reached (.initial sampleBiliBinding) u ∧ u.coverage = .ok c ∧
      wrapUploadCoverage sampleUploads c = .ok d ∧ c.consumed = [sampleVideo] ∧
        c.nextState.head.witness = some sampleVideos := by
  have hrun : ((BiliScanUnit.new (.initial sampleBiliBinding) 1).bind fun u =>
      (u.observePage sampleVideos).bind fun u => (u.consume sampleVideo).bind fun u =>
        u.coverage.bind fun c => (wrapUploadCoverage sampleUploads c).map fun d =>
          (c, d)).toOption.any (fun r => r.1.consumed = [sampleVideo] ∧
            r.1.nextState.head.witness = some sampleVideos) = true := by decide +kernel
  obtain ⟨⟨c, d⟩, hd, hkept⟩ := exists_ok_of_any hrun
  obtain ⟨u, hnew, hd⟩ := BiliScanUnit.bind_ok hd
  obtain ⟨v, hobserve, hd⟩ := BiliScanUnit.bind_ok hd
  obtain ⟨w, hconsume, hd⟩ := BiliScanUnit.bind_ok hd
  obtain ⟨c', hc, hd⟩ := BiliScanUnit.bind_ok hd
  cases hwrap : wrapUploadCoverage sampleUploads c' with
  | error e =>
    rw [hwrap] at hd
    cases hd
  | ok d' =>
    rw [hwrap] at hd
    cases hd
    exact ⟨w, c, d, .consume (.observe (.new hnew) hobserve) hconsume, hc, hwrap,
      of_decide_eq_true hkept⟩

/-- A unit over the dynamics that may take the first of them. -/
theorem sample_dynamics :
    ∃ u c, DynamicUnit.Reached id sampleDynamics u ∧ u.coverage id = .ok c ∧
      c.dynamicConsumed.length = 1 ∧ c.nextState.dynamics.head.index = 1 := by
  have hrun : ((DynamicUnit.new sampleDynamics 2).bind fun u =>
      (u.observePage id sampleDynamicPage).bind fun u =>
        (u.consume id (sampleDynamic "9" "DYNAMIC_TYPE_AV" (by decide +kernel))
          (some sampleVideo)).bind fun u => u.coverage id).toOption.any (fun c =>
            c.dynamicConsumed.length = 1 ∧ c.nextState.dynamics.head.index = 1) = true := by
    decide +kernel
  obtain ⟨c, hc, hkept⟩ := exists_ok_of_any hrun
  obtain ⟨u, hnew, hc⟩ := BiliScanUnit.bind_ok hc
  obtain ⟨v, hobserve, hc⟩ := BiliScanUnit.bind_ok hc
  obtain ⟨w, hconsume, hc⟩ := BiliScanUnit.bind_ok hc
  exact ⟨w, c, .consume (.observe (.new hnew) hobserve) hconsume, hc, of_decide_eq_true hkept⟩

/-- A unit over two notes that may store one of them. -/
theorem sample_notes :
    ∃ u c, CreatorScanUnit.Reached (.initial .xhs sampleBinding) u ∧ u.coverage = .ok c ∧
      c.page = some (samplePage .xhs) ∧ c.outcomes.length = 1 ∧
        c.nextState.witness = some (samplePage .xhs).witness ∧ c.recordWeight < 131072 := by
  have hrun : ((CreatorScanUnit.new (.initial .xhs sampleBinding) 1).bind fun u =>
      (u.observePage (samplePage .xhs)).bind fun u =>
        (u.store (sampleItem .xhs 2 (sampleId_two .xhs))).bind fun u =>
          u.coverage).toOption.any (fun c => c.page = some (samplePage .xhs) ∧
            c.outcomes.length = 1 ∧ c.nextState.witness = some (samplePage .xhs).witness ∧
              c.recordWeight < 131072) = true := by decide +kernel
  obtain ⟨c, hc, hkept⟩ := exists_ok_of_any hrun
  obtain ⟨u, hnew, hc⟩ := BiliScanUnit.bind_ok hc
  obtain ⟨v, hobserve, hc⟩ := BiliScanUnit.bind_ok hc
  obtain ⟨w, hstore, hc⟩ := BiliScanUnit.bind_ok hc
  exact ⟨w, c, .store (.observe (.new hnew) hobserve) hstore, hc, of_decide_eq_true hkept⟩

theorem standing_encodable {n : Nat} (hn : n + 0 ≤ 4096) :
    (standingAt _ (validCursor_wideCursor n 0 hn)).Encodable := by
  have hempty : stringWeight plain "".toList = 2 := by decide
  have hlong := wideCursor_plain n 0
  have hweight := cursorWeight_standing (validCursor_wideCursor n 0 hn) validCursor_empty plain
    none (s := standingAt _ (validCursor_wideCursor n 0 hn))
    (t := standingAt "" validCursor_empty) rfl rfl
  have hbase : (standingAt "" validCursor_empty).cursorWeight plain ≤ 1000 := by decide +kernel
  rw [CreatorScanState.Encodable]
  omega

/-- Two cursors within their limit whose record is on its own. -/
theorem wide_onTheLimit {n j k : Nat} (hn : n + 0 ≤ 4096) (hj : j + k ≤ 4096)
    (h : 26 * (n + j) + 2 * k = 129514) :
    (passedEmpty (validCursor_wideCursor n 0 hn) (validCursor_wideCursor j k hj)).OnTheLimit := by
  have hempty : stringWeight plain "".toList = 2 := by decide
  have hlong := wideCursor_plain n 0
  have hnext := wideCursor_plain j k
  refine ⟨standing_encodable hn, ?_, ?_⟩
  · have hweight := cursorWeight_standing (validCursor_wideCursor j k hj) validCursor_empty plain
      (some (idleSummary .unitCapReached true))
      (s := (passedEmpty (validCursor_wideCursor n 0 hn) (validCursor_wideCursor j k hj)).nextState)
      (t := (passedEmpty validCursor_empty validCursor_empty).nextState) rfl rfl
    have hbase : (passedEmpty validCursor_empty validCursor_empty).nextState.cursorWeight plain ≤
        1000 := by decide +kernel
    rw [CreatorScanState.Encodable]
    omega
  · have hweight :=
      passedEmpty_weight (validCursor_wideCursor n 0 hn) (validCursor_wideCursor j k hj)
    have hlongEscaped := wideCursor_escaped n 0
    have hnextEscaped := wideCursor_escaped j k
    omega

/-- The greatest length that a page cursor may have. -/
theorem validCursor_long : validCursor (wideCursor 4096 0) = true :=
  validCursor_wideCursor 4096 0 le_rfl

/-- A record that a unit makes and writes, and that no reader takes. -/
theorem limit_record_unread :
    ∃ (u : CreatorScanUnit .xhs) (c : CreatorScanCoverage .xhs) (line : Text),
      CreatorScanUnit.Reached (standingAt (wideCursor 4096 0) validCursor_long) u ∧
        u.coverage = .ok c ∧ c.toJsonLine = .ok line ∧
        ∀ r : JsonReader, CreatorScanCoverage.fromJsonLine r .xhs line = none := by
  have hnext : validCursor (wideCursor 885 4) = true := validCursor_wideCursor 885 4 (by omega)
  have hlimit : (passedEmpty validCursor_long hnext).OnTheLimit :=
    wide_onTheLimit le_rfl (by omega) (by omega)
  obtain ⟨line, hline, -⟩ := CreatorScanCoverage.unread_on_limit parser hlimit
  refine ⟨_, _, line, reached_shownEmpty _ _ (wideCursor_ne_empty (by omega)),
    coverage_passedEmpty _ _ (wideCursor_ne (by omega)), hline, fun r => ?_⟩
  obtain ⟨again, hagain, hnone⟩ := CreatorScanCoverage.unread_on_limit r hlimit
  rw [hline] at hagain
  cases hagain
  exact hnone

/-- A record's line is read back as the record: always for both Bili planners, and
for the creator planners unless the record is on the limit of its writer. -/
theorem coverage_lines_read_back (r : JsonReader) (sha256 : String → String) :
    (∀ (p : CreatorPlatform) (u : CreatorScanUnit p) (c : CreatorScanCoverage p),
      u.coverage = .ok c →
        ((∀ line, c.toJsonLine = .ok line →
          CreatorScanCoverage.fromJsonLine r p line = some c) ↔ ¬c.OnTheLimit)) ∧
    (∀ (s : BiliScanState) (u : BiliScanUnit) (c : BiliScanCoverage), s.binding.Valid →
      BiliScanUnit.Reached s u → u.coverage = .ok c →
        ∀ line, c.toJsonLine = some line → BiliScanCoverage.fromJsonLine r line = some c) ∧
    (∀ (s : MultiFeedState) (u : DynamicUnit) (c : MultiFeedCoverage), s.uploads.binding.Valid →
      DynamicUnit.Reached sha256 s u → u.coverage sha256 = .ok c →
        ∀ line, c.toJsonLine = some line → MultiFeedCoverage.fromJsonLine r line = some c) ∧
    ∀ (s : MultiFeedState) (u : BiliScanUnit) (d : BiliScanCoverage) (c : MultiFeedCoverage),
      s.uploads.binding.Valid → BiliScanUnit.Reached s.uploads u → u.coverage = .ok d →
        wrapUploadCoverage s d = .ok c →
          ∀ line, c.toJsonLine = some line → MultiFeedCoverage.fromJsonLine r line = some c := by
  refine ⟨fun p u c _ => c.reads_line_iff r, fun s u c hs hu hc line hline => ?_,
    fun s u c hs hu hc line hline => ?_, fun s u d c hs hu hd hc line hline => ?_⟩
  · exact BiliScanCoverage.fromJsonLine_toJsonLine r
      (BiliScanUnit.coverage_bounded hs hu hc).1 hline
  · exact MultiFeedCoverage.fromJsonLine_toJsonLine r
      (DynamicUnit.coverage_bounded hs hu hc).1 hline
  · have hbounded := (BiliScanUnit.coverage_bounded hs hu hd).1
    exact MultiFeedCoverage.fromJsonLine_toJsonLine r
      (wrapUploadCoverage_bounded hs hbounded hc).1 hline

/-- A record of each planner, of a unit that was cut in the middle of a page, read back by the
parser. -/
theorem coverage_lines_read_back_sample :
    (∃ (c : CreatorScanCoverage .xhs), ¬c.OnTheLimit ∧ c.page = some (samplePage .xhs) ∧
      c.outcomes.length = 1 ∧ ∀ line, c.toJsonLine = .ok line →
        CreatorScanCoverage.fromJsonLine parser .xhs line = some c) ∧
    (∃ c : BiliScanCoverage, c.consumed = [sampleVideo] ∧ ∃ line, c.toJsonLine = some line ∧
      BiliScanCoverage.fromJsonLine parser line = some c) ∧
    (∃ c : MultiFeedCoverage, c.feed = .dynamics ∧ c.dynamicConsumed.length = 1 ∧
      ∀ line, c.toJsonLine = some line → MultiFeedCoverage.fromJsonLine parser line = some c) ∧
    ∃ (c : MultiFeedCoverage) (u : BiliScanCoverage), c.uploads = some u ∧
      ∀ line, c.toJsonLine = some line → MultiFeedCoverage.fromJsonLine parser line = some c := by
  obtain ⟨hcreator, hbili, hdynamics, huploads⟩ := coverage_lines_read_back parser id
  obtain ⟨w, n, -, hn, hpage, houtcomes, -, hweight⟩ := sample_notes
  obtain ⟨u, c, d, hu, hc, hd, hconsumed, -⟩ := sample_uploads
  obtain ⟨v, e, hv, he, htaken, -⟩ := sample_dynamics
  have hfree : ¬n.OnTheLimit := fun h => absurd h.2.2 (Nat.ne_of_lt hweight)
  have hbounded := (BiliScanUnit.coverage_bounded sampleBiliBinding_valid hu hc).1
  obtain ⟨line, hline⟩ := BiliScanCoverage.toJsonLine_bounded hbounded
  refine ⟨⟨n, hfree, hpage, houtcomes, (hcreator .xhs w n hn).2 hfree⟩,
    ⟨c, hconsumed, line, hline, hbili _ u c sampleBiliBinding_valid hu hc line hline⟩,
    ⟨e, ?_, htaken, hdynamics sampleDynamics v e sampleBiliBinding_valid hv he⟩,
    ⟨d, c, ?_, huploads sampleUploads u c d sampleBiliBinding_valid hu hc hd⟩⟩
  · exact DynamicUnit.coverage_feed he
  · exact wrapUploadCoverage_uploads hd

/-- A state that is written as a cursor, and read back from it. -/
def Accepted {α : Type} (write : α → Option Text) (read : Text → Option α) (s : α) : Prop :=
  ∃ value, write s = some value ∧ read value = some s

/-- `to_cursor` and `from_cursor` are inverse on their images, for the states that
satisfy what their constructor checks. -/
structure InverseCodec {α : Type} (valid : α → Prop) (write : α → Option Text)
    (read : Text → Option α) : Prop where
  read_write : ∀ s value, valid s → write s = some value → read value = some s
  write_read : ∀ value s, read value = some s → valid s ∧ write s = some value

theorem creator_codec (r : JsonReader) (p : CreatorPlatform) :
    InverseCodec (fun _ => True) (fun s : CreatorScanState p => s.toCursor.toOption)
      (CreatorScanState.fromCursor r p) where
  read_write s value _ h := by
    have hcursor : s.toCursor = .ok value := by
      cases hs : s.toCursor with
      | error e =>
        rw [hs] at h
        cases h
      | ok text =>
        rw [hs] at h
        cases h
        rfl
    exact CursorFormat.decode_encode (s.reads r) (CreatorScanState.toCursor_eq_ok_iff.1 hcursor)
  write_read value s h := by
    refine ⟨trivial, ?_⟩
    rw [CreatorScanState.toCursor_eq_ok_iff.2 (CursorFormat.encode_of_decode h)]
    rfl

theorem bili_codec (r : JsonReader) :
    InverseCodec (fun s : BiliScanState => s.binding.Valid) BiliScanState.toCursor
      (BiliScanState.fromCursor r) where
  read_write _ _ hs h := CursorFormat.decode_encode (BiliScanState.reads r hs) h
  write_read _ _ h := ⟨BiliScanState.valid_of_fromCursor h, CursorFormat.encode_of_decode h⟩

theorem multiFeed_codec (r : JsonReader) :
    InverseCodec (fun s : MultiFeedState => s.uploads.binding.Valid) MultiFeedState.toCursor
      (MultiFeedState.fromCursor r) where
  read_write _ _ hs h := CursorFormat.decode_encode (MultiFeedState.reads r hs) h
  write_read _ _ h := ⟨MultiFeedState.valid_of_fromCursor h, CursorFormat.encode_of_decode h⟩

theorem bili_accepted (r : JsonReader) {s : BiliScanState} (h : s.binding.Valid) :
    Accepted BiliScanState.toCursor (BiliScanState.fromCursor r) s := by
  obtain ⟨cursor, hcursor, -⟩ := BiliScanState.toCursor_fits h
  exact ⟨cursor, hcursor, (bili_codec r).read_write s cursor h hcursor⟩

theorem multiFeed_accepted (r : JsonReader) {s : MultiFeedState} (h : s.uploads.binding.Valid) :
    Accepted MultiFeedState.toCursor (MultiFeedState.fromCursor r) s := by
  obtain ⟨cursor, hcursor, -⟩ := MultiFeedState.toCursor_fits h
  exact ⟨cursor, hcursor, (multiFeed_codec r).read_write s cursor h hcursor⟩

theorem creator_accepted_iff (r : JsonReader) (s : CreatorScanState p) :
    Accepted (fun s : CreatorScanState p => s.toCursor.toOption)
      (CreatorScanState.fromCursor r p) s ↔ s.Encodable := by
  constructor
  · rintro ⟨value, hwrite, hread⟩
    have hcursor := CreatorScanState.toCursor_eq_ok_iff.2 (CursorFormat.encode_of_decode hread)
    exact (CreatorScanState.toCursor_ok_iff.1 hcursor).1
  · intro h
    refine ⟨s.cursorText, ?_, CreatorScanState.fromCursor_cursorText r h⟩
    dsimp only
    rw [CreatorScanState.toCursor_ok_iff.2 ⟨h, rfl⟩]
    rfl

/-- A unit over an empty page that leads nowhere keeps the page, and its state then
holds the cursor three times. -/
theorem stalled_state_refused :
    ∃ (s : CreatorScanState .xhs) (u : CreatorScanUnit .xhs) (c : CreatorScanCoverage .xhs),
      (∀ r : JsonReader, Accepted (fun s : CreatorScanState .xhs => s.toCursor.toOption)
        (CreatorScanState.fromCursor r .xhs) s) ∧
      CreatorScanUnit.Reached s u ∧ u.coverage = .ok c ∧
        c.nextState.toCursor = .error .invalid := by
  have hweight := stalledEmpty_weight validCursor_long
  rw [wideCursor_plain] at hweight
  refine ⟨standingAt _ validCursor_long, shownEmpty validCursor_long validCursor_long,
    stalledEmpty validCursor_long, fun r => (creator_accepted_iff r _).2 (standing_encodable le_rfl),
    reached_shownEmpty _ _ (wideCursor_ne_empty (by omega)), coverage_stalledEmpty _, ?_⟩
  rw [CreatorScanState.toCursor_eq, if_neg (by omega)]

/-- Every cursor has one spelling. The states that Bili units propose have one;
those of the creator units have one exactly if they keep the limit, which they do
where the page cursors are short. -/
theorem cursors_inverse (r : JsonReader) (sha256 : String → String) :
    (∀ p : CreatorPlatform, InverseCodec (fun _ => True)
      (fun s : CreatorScanState p => s.toCursor.toOption) (CreatorScanState.fromCursor r p)) ∧
    InverseCodec (fun s : BiliScanState => s.binding.Valid) BiliScanState.toCursor
      (BiliScanState.fromCursor r) ∧
    InverseCodec (fun s : MultiFeedState => s.uploads.binding.Valid) MultiFeedState.toCursor
      (MultiFeedState.fromCursor r) ∧
    (∀ (s : BiliScanState) (u : BiliScanUnit) (c : BiliScanCoverage), s.binding.Valid →
      BiliScanUnit.Reached s u → u.coverage = .ok c →
        Accepted BiliScanState.toCursor (BiliScanState.fromCursor r) c.nextState) ∧
    (∀ (s : MultiFeedState) (u : DynamicUnit) (c : MultiFeedCoverage), s.uploads.binding.Valid →
      DynamicUnit.Reached sha256 s u → u.coverage sha256 = .ok c →
        Accepted MultiFeedState.toCursor (MultiFeedState.fromCursor r) c.nextState) ∧
    (∀ (s : MultiFeedState) (u : BiliScanUnit) (d : BiliScanCoverage) (c : MultiFeedCoverage),
      s.uploads.binding.Valid → BiliScanUnit.Reached s.uploads u → u.coverage = .ok d →
        wrapUploadCoverage s d = .ok c →
          Accepted MultiFeedState.toCursor (MultiFeedState.fromCursor r) c.nextState) ∧
    ∀ (p : CreatorPlatform) (s : CreatorScanState p) (u : CreatorScanUnit p)
      (c : CreatorScanCoverage p), CreatorScanUnit.Reached s u → u.coverage = .ok c →
        (Accepted (fun s : CreatorScanState p => s.toCursor.toOption)
          (CreatorScanState.fromCursor r p) c.nextState ↔ c.nextState.Encodable) ∧
        (s.Meets ShortCursor → (∀ page ∈ c.page, ShortCursor page.nextCursor) →
          c.nextState.Encodable) := by
  refine ⟨creator_codec r, bili_codec r, multiFeed_codec r, fun s u c hs hu hc => ?_,
    fun s u c hs hu hc => ?_, fun s u d c hs hu hd hc => ?_, fun p s u c hu hc => ⟨?_, ?_⟩⟩
  · exact bili_accepted r (BiliScanUnit.coverage_bounded hs hu hc).1.next
  · exact multiFeed_accepted r (DynamicUnit.coverage_bounded hs hu hc).1.next
  · have hbounded := (BiliScanUnit.coverage_bounded hs hu hd).1
    exact multiFeed_accepted r (wrapUploadCoverage_bounded hs hbounded hc).1.next
  · exact creator_accepted_iff r c.nextState
  · intro hs hpage
    exact CreatorScanState.encodable_of_short
      ((CreatorScanUnit.coverage_carried hu hc).2 ShortCursor shortCursor_empty hpage hs)

/-- The states that cut units propose are accepted by the parser. -/
theorem cursors_inverse_sample :
    (∃ s : BiliScanState, s.head.witness = some sampleVideos ∧
      Accepted BiliScanState.toCursor (BiliScanState.fromCursor parser) s) ∧
    (∃ s : MultiFeedState, s.dynamics.head.index = 1 ∧
      Accepted MultiFeedState.toCursor (MultiFeedState.fromCursor parser) s) ∧
    ∃ s : CreatorScanState .xhs, s.witness = some (samplePage .xhs).witness ∧
      Accepted (fun s : CreatorScanState .xhs => s.toCursor.toOption)
        (CreatorScanState.fromCursor parser .xhs) s := by
  obtain ⟨-, -, -, hbili, hdynamics, -, hcreator⟩ := cursors_inverse parser id
  obtain ⟨u, c, d, hu, hc, -, -, hkept⟩ := sample_uploads
  obtain ⟨v, e, hv, he, -, hindex⟩ := sample_dynamics
  obtain ⟨w, n, hw, hn, hpage, -, hwitness, -⟩ := sample_notes
  obtain ⟨hiff, hshort⟩ := hcreator .xhs _ w n hw hn
  refine ⟨⟨_, hkept, hbili _ u c sampleBiliBinding_valid hu hc⟩,
    ⟨_, hindex, hdynamics sampleDynamics v e sampleBiliBinding_valid hv he⟩,
    ⟨_, hwitness, hiff.2 (hshort ⟨shortCursor_empty, nofun⟩ fun page h => ?_)⟩⟩
  cases hpage.symm.trans h
  exact shortCursor_of_printable (by decide) (List.all_eq_true.1 (by decide))

end MediaSync.Scan
