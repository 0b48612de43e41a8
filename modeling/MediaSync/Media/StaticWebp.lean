import MediaSync.Media.StaticImages

/-!
# Static WebP files

The chunks of a RIFF container are padded to an even length. The walk reads one
byte of a `VP8X` chunk and seeks over the others, so it stays in step with the
container. It gives up at the limit of chunks, which the grammar of a static
WebP does not know: that is where the two differ.
-/

namespace MediaSync.Media

open Loop (Step)

/-- A chunk of a RIFF container. -/
structure RiffChunk where
  kind : Bytes
  lengthBytes : Bytes
  data : Bytes
  pad : Bytes
  kind_size : kind.length = 4
  length_size : lengthBytes.length = 4
  length_value : fromBytesLittle lengthBytes = data.length
  pad_size : pad.length = data.length % 2

namespace RiffChunk

def encode (c : RiffChunk) : Bytes := c.kind ++ c.lengthBytes ++ c.data ++ c.pad

theorem encode_length (c : RiffChunk) :
    c.encode.length = 8 + (c.data.length + c.data.length % 2) := by
  simp only [encode, List.length_append, c.length_size, c.kind_size, c.pad_size]
  omega

theorem encode_ne_nil (c : RiffChunk) : c.encode ≠ [] := by
  intro h
  have hlength := c.encode_length
  rw [h] at hlength
  simp only [List.length_nil] at hlength
  omega

theorem ext_of {c d : RiffChunk} (hkind : c.kind = d.kind) (hlength : c.lengthBytes = d.lengthBytes)
    (hdata : c.data = d.data) (hpad : c.pad = d.pad) : c = d := by
  cases c
  cases d
  cases hlength
  cases hkind
  cases hdata
  cases hpad
  rfl

theorem encode_prefixFree : PrefixFree encode := by
  intro c d x y h
  simp only [encode, List.append_assoc] at h
  obtain ⟨hkind, h⟩ := List.append_inj h (c.kind_size.trans d.kind_size.symm)
  obtain ⟨hlength, h⟩ := List.append_inj h (c.length_size.trans d.length_size.symm)
  have hsize : c.data.length = d.data.length := by
    rw [← c.length_value, ← d.length_value, hlength]
  obtain ⟨hdata, h⟩ := List.append_inj h hsize
  obtain ⟨hpad, hrest⟩ := List.append_inj h (by rw [c.pad_size, d.pad_size, hsize])
  exact ⟨ext_of hkind hlength hdata hpad, hrest⟩

/-- Bytes that are long enough start with a chunk. -/
theorem exists_encode {rest : Bytes} {n : Nat} (hn : fromBytesLittle ((rest.drop 4).take 4) = n)
    (hheader : 8 ≤ rest.length) (hfits : 8 + (n + n % 2) ≤ rest.length) :
    ∃ c more, rest = encode c ++ more := by
  have htake : ∀ k m, m + k ≤ rest.length → ((rest.drop m).take k).length = k := by
    intro k m h
    rw [List.length_take, List.length_drop]
    omega
  have hdata : ((rest.drop 8).take n).length = n := htake n 8 (by omega)
  refine ⟨⟨rest.take 4, (rest.drop 4).take 4, (rest.drop 8).take n,
    (rest.drop (8 + n)).take (n % 2), htake 4 0 (by omega), htake 4 4 (by omega),
    hn.trans hdata.symm, (htake (n % 2) (8 + n) (by omega)).trans (by rw [hdata])⟩,
    rest.drop (8 + n + n % 2), ?_⟩
  have hsplit : ∀ m k, rest.drop m = (rest.drop m).take k ++ rest.drop (m + k) := by
    intro m k
    rw [← List.drop_drop, List.take_append_drop]
  calc rest = rest.take 4 ++ rest.drop 4 := (List.take_append_drop 4 rest).symm
    _ = rest.take 4 ++ ((rest.drop 4).take 4 ++ ((rest.drop 8).take n ++
          ((rest.drop (8 + n)).take (n % 2) ++ rest.drop (8 + n + n % 2)))) := by
        rw [← hsplit, ← hsplit, ← hsplit]
    _ = _ := by simp only [encode, List.append_assoc]

end RiffChunk

/-- A `VP8X` chunk of a file that is not animated. -/
def RiffChunk.StillVp8x (c : RiffChunk) : Prop :=
  c.data.length = 10 ∧ ∀ flags ∈ c.data.head?, isAnimated flags = false

/-- The bytes are a static WebP of these chunks. -/
structure StaticWebp (b : Bytes) (cs : List RiffChunk) : Prop where
  container : ∃ sizeBytes, sizeBytes.length = 4 ∧ fromBytesLittle sizeBytes + 8 = b.length ∧
    b = riff ++ sizeBytes ++ webp ++ cs.flatMap RiffChunk.encode
  vp8x_once : (cs.filter (fun c => c.kind = vp8x)).length ≤ 1
  vp8x_still : ∀ c ∈ cs, c.kind = vp8x → c.StillVp8x
  payload : ∃ c ∈ cs, c.kind = vp8 ∨ c.kind = vp8l
  still : ∀ c ∈ cs, c.kind ∉ webpAnimationTypes

/-- The bytes start like a WebP of chunks one of which is an animation chunk or has the animation
bit set. -/
def AnimatedWebp (b : Bytes) : Prop :=
  ∃ (sizeBytes : Bytes) (cs : List RiffChunk) (more : Bytes), sizeBytes.length = 4 ∧
    b = riff ++ sizeBytes ++ webp ++ cs.flatMap RiffChunk.encode ++ more ∧
    ∃ c ∈ cs, c.kind ∈ webpAnimationTypes ∨
      c.kind = vp8x ∧ ∃ flags ∈ c.data.head?, isAnimated flags = true

/-! ## One iteration over a WebP -/

/-- What the iteration checks of the chunk that it reads. -/
structure WebpWalk.Accepts (w : WebpWalk) (c : RiffChunk) : Prop where
  room : w.chunks < maxStaticImageChunks
  still : c.kind ∉ webpAnimationTypes
  once : c.kind = vp8x → w.sawVp8x = false
  vp8x_still : c.kind = vp8x → c.StillVp8x

/-- The walk behind a chunk. -/
def WebpWalk.after (w : WebpWalk) (c : RiffChunk) : WebpWalk :=
  ⟨w.handle.seekBy c.encode.length, w.position + c.encode.length, w.chunks + 1,
    w.sawImagePayload || c.kind = vp8 || c.kind = vp8l, w.sawVp8x || c.kind = vp8x⟩

/-- The position is the offset of the handle, in a file of the given size. -/
def WebpWalk.InStep (size : Nat) (w : WebpWalk) : Prop :=
  size = w.position + w.handle.rest.length

section WebpStep

variable {size : Nat} {w : WebpWalk} {c : RiffChunk} {more : Bytes}

theorem webpHeader (hrest : w.handle.rest = c.encode ++ more) :
    w.handle.read 8 = (c.kind ++ c.lengthBytes, w.handle.seekBy 8) := by
  have hlength : (c.kind ++ c.lengthBytes).length = 8 := by
    rw [List.length_append, c.length_size, c.kind_size]
  have hsplit : w.handle.rest = (c.kind ++ c.lengthBytes) ++ (c.data ++ c.pad ++ more) := by
    rw [hrest]
    simp only [RiffChunk.encode, List.append_assoc]
  rw [← hlength]
  exact Reader.read_append hsplit

/-- The flags are the first byte of the data. -/
theorem webpFlags (hrest : w.handle.rest = c.encode ++ more) (hdata : c.data.length = 10) :
    ∃ flags, c.data.head? = some flags ∧
      (w.handle.seekBy 8).read 1 = ([flags], (w.handle.seekBy 8).seekBy 1) := by
  cases hd : c.data with
  | nil =>
    rw [hd] at hdata
    cases hdata
  | cons flags data =>
    have hlength : (c.kind ++ c.lengthBytes).length = 8 := by
      rw [List.length_append, c.length_size, c.kind_size]
    have hsplit : (w.handle.seekBy 8).rest = [flags] ++ (data ++ c.pad ++ more) := by
      rw [Reader.rest_seekBy, hrest, RiffChunk.encode, hd,
        List.append_assoc (c.kind ++ c.lengthBytes), List.append_assoc, ← hlength, List.drop_left]
      simp only [List.cons_append, List.nil_append, List.append_assoc]
    exact ⟨flags, rfl, Reader.read_append hsplit⟩

/-- The iteration in terms of the chunk that lies at the position. -/
theorem webpStep_accepts (hw : w.InStep size) (hrest : w.handle.rest = c.encode ++ more)
    (h : w.Accepts c) : webpStep size w = .next (w.after c) := by
  have hchunk := c.encode_length
  have hlength : w.handle.rest.length = c.encode.length + more.length := by
    rw [hrest, List.length_append]
  have hsize : size = w.position + w.handle.rest.length := hw
  have htake : (c.kind ++ c.lengthBytes).take 4 = c.kind := List.take_left' c.kind_size
  have hdrop : (c.kind ++ c.lengthBytes).drop 4 = c.lengthBytes := List.drop_left' c.kind_size
  have hheader : ¬ (c.kind ++ c.lengthBytes).length ≠ 8 := by
    rw [List.length_append, c.length_size, c.kind_size]
    decide
  have hfits : ¬ (size < w.position + 8 + (c.data.length + c.data.length % 2) ∨
      c.kind ∈ webpAnimationTypes) := by
    rw [not_or]
    exact ⟨by omega, h.still⟩
  have hposition : w.position + 8 + (c.data.length + c.data.length % 2) =
      w.position + c.encode.length := by omega
  unfold webpStep
  rw [webpHeader hrest, if_pos ⟨by omega, h.room⟩]
  dsimp only
  rw [htake, hdrop, c.length_value, if_neg hheader, if_neg hfits]
  by_cases hkind : c.kind = vp8x
  · obtain ⟨hten, hflags⟩ := h.vp8x_still hkind
    obtain ⟨flags, hhead, hread⟩ := webpFlags hrest hten
    have hsaw : ¬ (w.sawVp8x = true ∨ c.data.length ≠ 10) := by
      rw [h.once hkind, hten]
      decide
    have hstill : ¬ ([flags].length ≠ 1 ∨ [flags].any isAnimated = true) := by
      simp [hflags flags hhead]
    have hseek : w.handle.offset + 8 + 1 + (c.data.length - 1 + c.data.length % 2) =
        w.handle.offset + c.encode.length := by omega
    rw [if_pos hkind, if_neg hsaw, hread, if_neg hstill]
    simp only [WebpWalk.after, Reader.seekBy, hseek, hposition, decide_eq_true hkind, Bool.or_true]
  · have hseek : w.handle.offset + 8 + (c.data.length + c.data.length % 2) =
        w.handle.offset + c.encode.length := by omega
    rw [if_neg hkind]
    simp only [WebpWalk.after, Reader.seekBy, hseek, hposition, decide_eq_false hkind,
      Bool.or_false]

theorem webpStep_refuses (hw : w.InStep size) (hrest : w.handle.rest = c.encode ++ more)
    (h : ¬ w.Accepts c) : webpStep size w = .done false := by
  have hchunk := c.encode_length
  have hlength : w.handle.rest.length = c.encode.length + more.length := by
    rw [hrest, List.length_append]
  have hsize : size = w.position + w.handle.rest.length := hw
  have htake : (c.kind ++ c.lengthBytes).take 4 = c.kind := List.take_left' c.kind_size
  have hdrop : (c.kind ++ c.lengthBytes).drop 4 = c.lengthBytes := List.drop_left' c.kind_size
  have hheader : ¬ (c.kind ++ c.lengthBytes).length ≠ 8 := by
    rw [List.length_append, c.length_size, c.kind_size]
    decide
  have hfull : decide (w.position = size) = false := decide_eq_false (by omega)
  unfold webpStep
  rw [webpHeader hrest]
  dsimp only
  rw [htake, hdrop, c.length_value, hfull]
  by_cases hroom : w.chunks < maxStaticImageChunks
  · rw [if_pos ⟨by omega, hroom⟩, if_neg hheader]
    by_cases hstill : c.kind ∈ webpAnimationTypes
    · rw [if_pos (.inr hstill)]
    · have hfits : ¬ (size < w.position + 8 + (c.data.length + c.data.length % 2) ∨
          c.kind ∈ webpAnimationTypes) := by
        rw [not_or]
        exact ⟨by omega, hstill⟩
      rw [if_neg hfits]
      by_cases hkind : c.kind = vp8x
      · rw [if_pos hkind]
        by_cases hsaw : w.sawVp8x = true ∨ c.data.length ≠ 10
        · rw [if_pos hsaw]
        · rw [if_neg hsaw]
          rw [not_or, not_not] at hsaw
          obtain ⟨flags, hhead, hread⟩ := webpFlags hrest hsaw.2
          rw [hread, if_pos]
          right
          by_contra hflags
          refine h ⟨hroom, hstill, fun _ => Bool.eq_false_iff.2 hsaw.1, fun _ => ⟨hsaw.2, ?_⟩⟩
          intro byte hbyte
          rw [hhead] at hbyte
          cases hbyte
          simpa using hflags
      · exact absurd ⟨hroom, hstill, fun hvp8x => absurd hvp8x hkind,
          fun hvp8x => absurd hvp8x hkind⟩ h
  · rw [if_neg (fun hgoes => hroom hgoes.2)]
    rfl

/-- The iteration ends where no chunk lies at the position. -/
theorem webpStep_stuck (hw : w.InStep size)
    (hstuck : ∀ c more, w.handle.rest ≠ RiffChunk.encode c ++ more) :
    webpStep size w = .done (w.handle.rest = [] && w.sawImagePayload &&
      w.chunks < maxStaticImageChunks) := by
  have hsize : size = w.position + w.handle.rest.length := hw
  unfold webpStep
  dsimp only
  by_cases hnil : w.handle.rest = []
  · have hposition : w.position = size := by
      rw [hsize, hnil]
      rfl
    rw [if_neg (fun hgoes => by omega), decide_eq_true hnil, decide_eq_true hposition]
  · have hposition : w.position ≠ size := by
      have hpos := List.length_pos_of_ne_nil hnil
      omega
    rw [decide_eq_false hnil, decide_eq_false hposition]
    by_cases hgoes : w.position < size ∧ w.chunks < maxStaticImageChunks
    · rw [if_pos hgoes]
      by_cases hheader : (w.handle.read 8).1.length = 8
      · have hlong : 8 ≤ w.handle.rest.length := by
          rw [Reader.read_length] at hheader
          omega
        have hdrop : (w.handle.read 8).1.drop 4 = (w.handle.rest.drop 4).take 4 := by
          simp [Reader.read, List.drop_take]
        rw [if_neg (not_not.2 hheader), hdrop]
        generalize hn : fromBytesLittle ((w.handle.rest.drop 4).take 4) = n
        have hshort : w.handle.rest.length < 8 + (n + n % 2) := by
          by_contra hfits
          obtain ⟨c, more, hrest⟩ := RiffChunk.exists_encode hn hlong (by omega)
          exact hstuck c more hrest
        rw [if_pos (.inl (by omega))]
        rfl
      · rw [if_pos hheader]
        rfl
    · rw [if_neg hgoes]

theorem WebpWalk.InStep.after (hw : w.InStep size) (hrest : w.handle.rest = c.encode ++ more) :
    (w.after c).InStep size ∧ (w.after c).handle.rest = more := by
  have hmore : (w.after c).handle.rest = more := by
    simp only [WebpWalk.after, Reader.rest_seekBy]
    rw [hrest, List.drop_left]
  have hsize : size = w.position + w.handle.rest.length := hw
  refine ⟨?_, hmore⟩
  unfold WebpWalk.InStep
  rw [hmore, hsize, hrest, List.length_append]
  simp only [WebpWalk.after]
  omega

end WebpStep

/-! ## A walk over a WebP -/

/-- The chunks that a walk still accepts, up to the end of the file. -/
structure WebpTail (w : WebpWalk) (cs : List RiffChunk) : Prop where
  count : w.chunks + cs.length < maxStaticImageChunks
  vp8x_once : w.sawVp8x.toNat + (cs.filter (fun c => c.kind = vp8x)).length ≤ 1
  vp8x_still : ∀ c ∈ cs, c.kind = vp8x → c.StillVp8x
  payload : w.sawImagePayload = true ∨ ∃ c ∈ cs, c.kind = vp8 ∨ c.kind = vp8l
  still : ∀ c ∈ cs, c.kind ∉ webpAnimationTypes

theorem webpTail_nil (w : WebpWalk) :
    WebpTail w [] ↔ w.chunks < maxStaticImageChunks ∧ w.sawImagePayload = true := by
  constructor
  · intro h
    refine ⟨h.count, h.payload.resolve_right ?_⟩
    rintro ⟨c, hc, -⟩
    exact List.not_mem_nil hc
  · rintro ⟨hcount, hpayload⟩
    exact ⟨hcount, Bool.toNat_le _, fun c hc => absurd hc List.not_mem_nil, .inl hpayload,
      fun c hc => absurd hc List.not_mem_nil⟩

theorem WebpTail.accepts {w : WebpWalk} {c : RiffChunk} {cs : List RiffChunk}
    (h : WebpTail w (c :: cs)) : w.Accepts c where
  room := by
    have hcount := h.count
    omega
  still := h.still c List.mem_cons_self
  once hkind := by
    have honce := h.vp8x_once
    rw [List.filter_cons_of_pos (by simpa using hkind), List.length_cons] at honce
    cases hsaw : w.sawVp8x with
    | false => rfl
    | true =>
      rw [hsaw] at honce
      simp only [Bool.toNat_true] at honce
      omega
  vp8x_still := h.vp8x_still c List.mem_cons_self

theorem webpTail_cons {w : WebpWalk} {c : RiffChunk} {cs : List RiffChunk} (hw : w.Accepts c) :
    WebpTail w (c :: cs) ↔ WebpTail (w.after c) cs := by
  have hchunks : (w.after c).chunks = w.chunks + 1 := rfl
  have honce : w.sawVp8x.toNat + ((c :: cs).filter (fun c => c.kind = vp8x)).length =
      (w.after c).sawVp8x.toNat + (cs.filter (fun c => c.kind = vp8x)).length := by
    by_cases hkind : c.kind = vp8x
    · rw [List.filter_cons_of_pos (by simpa using hkind), List.length_cons]
      simp only [WebpWalk.after, hw.once hkind, decide_eq_true hkind, Bool.false_or,
        Bool.toNat_false, Bool.toNat_true]
      omega
    · rw [List.filter_cons_of_neg (by simpa using hkind)]
      simp only [WebpWalk.after, decide_eq_false hkind, Bool.or_false]
  constructor
  · intro h
    refine ⟨?_, honce ▸ h.vp8x_once, fun d hd => h.vp8x_still d (List.mem_cons_of_mem c hd), ?_,
      fun d hd => h.still d (List.mem_cons_of_mem c hd)⟩
    · have hcount := h.count
      rw [List.length_cons] at hcount
      rw [hchunks]
      omega
    · rcases h.payload with hpayload | ⟨d, hd, hkind⟩
      · exact .inl (by simp [WebpWalk.after, hpayload])
      · rcases List.mem_cons.1 hd with rfl | hd
        · refine .inl ?_
          simp only [WebpWalk.after, Bool.or_assoc, Bool.or_eq_true, decide_eq_true_eq]
          exact .inr hkind
        · exact .inr ⟨d, hd, hkind⟩
  · intro h
    refine ⟨?_, honce.le.trans h.vp8x_once,
      List.forall_mem_cons.2 ⟨hw.vp8x_still, h.vp8x_still⟩, ?_,
      List.forall_mem_cons.2 ⟨hw.still, h.still⟩⟩
    · have hcount := h.count
      rw [hchunks] at hcount
      rw [List.length_cons]
      omega
    · rcases h.payload with hpayload | ⟨d, hd, hkind⟩
      · simp only [WebpWalk.after, Bool.or_assoc, Bool.or_eq_true, decide_eq_true_eq] at hpayload
        exact hpayload.imp_right fun hkind => ⟨c, List.mem_cons_self, hkind⟩
      · exact .inr ⟨d, List.mem_cons_of_mem c hd, hkind⟩

/-- A walk accepts the rest of its file if and only if it consists of chunks that the walk still
accepts. -/
theorem run_webpStep_iff {size n : Nat} {w : WebpWalk} (hw : w.InStep size)
    (hn : maxStaticImageChunks < w.chunks + n) :
    Loop.run (webpStep size) n w = some true ↔
      ∃ cs, w.handle.rest = cs.flatMap RiffChunk.encode ∧ WebpTail w cs := by
  induction n generalizing w with
  | zero =>
    constructor
    · intro h
      cases h
    · rintro ⟨cs, -, htail⟩
      have hcount := htail.count
      omega
  | succ n ih =>
    by_cases hchunk : ∃ c more, w.handle.rest = RiffChunk.encode c ++ more
    · obtain ⟨c, more, hrest⟩ := hchunk
      have hreads : ∀ cs, w.handle.rest = cs.flatMap RiffChunk.encode →
          ∃ ds, cs = c :: ds ∧ more = ds.flatMap RiffChunk.encode := by
        intro cs hcs
        cases cs with
        | nil =>
          rw [hrest, List.flatMap_nil, List.append_eq_nil_iff] at hcs
          exact absurd hcs.1 c.encode_ne_nil
        | cons d ds =>
          rw [hrest, List.flatMap_cons] at hcs
          obtain ⟨rfl, hmore⟩ := RiffChunk.encode_prefixFree _ _ _ _ hcs
          exact ⟨ds, rfl, hmore⟩
      by_cases haccepts : w.Accepts c
      · obtain ⟨hafter, hmore⟩ := WebpWalk.InStep.after hw hrest
        have hchunks : (w.after c).chunks = w.chunks + 1 := rfl
        rw [Loop.run_next (webpStep_accepts hw hrest haccepts), ih hafter (by omega), hmore]
        constructor
        · rintro ⟨cs, hcs, htail⟩
          refine ⟨c :: cs, ?_, (webpTail_cons haccepts).2 htail⟩
          rw [hrest, hcs, List.flatMap_cons]
        · rintro ⟨cs, hcs, htail⟩
          obtain ⟨ds, rfl, hds⟩ := hreads cs hcs
          exact ⟨ds, hds, (webpTail_cons haccepts).1 htail⟩
      · rw [Loop.run_done (webpStep_refuses hw hrest haccepts)]
        constructor
        · intro h
          cases h
        · rintro ⟨cs, hcs, htail⟩
          obtain ⟨ds, rfl, -⟩ := hreads cs hcs
          exact absurd htail.accepts haccepts
    · have hstuck : ∀ c more, w.handle.rest ≠ RiffChunk.encode c ++ more :=
        fun c more hrest => hchunk ⟨c, more, hrest⟩
      rw [Loop.run_done (webpStep_stuck hw hstuck)]
      simp only [Option.some.injEq, Bool.and_eq_true, decide_eq_true_eq]
      constructor
      · rintro ⟨⟨hnil, hpayload⟩, hroom⟩
        exact ⟨[], hnil, (webpTail_nil w).2 ⟨hroom, hpayload⟩⟩
      · rintro ⟨cs, hcs, htail⟩
        cases cs with
        | nil =>
          obtain ⟨hroom, hpayload⟩ := (webpTail_nil w).1 htail
          exact ⟨⟨hcs, hpayload⟩, hroom⟩
        | cons d ds =>
          rw [List.flatMap_cons] at hcs
          exact absurd hcs (hstuck d _)

theorem webpStep_chunks {size : Nat} {w v : WebpWalk} (h : webpStep size w = .next v) :
    maxStaticImageChunks - v.chunks < maxStaticImageChunks - w.chunks := by
  unfold webpStep at h
  dsimp only at h
  split_ifs at h with hgoes
  all_goals
    cases h
    dsimp only
    omega

/-- `_is_static_webp` ends on every file. -/
theorem isStaticWebp_isSome (handle : Reader) (size : Nat) : (isStaticWebp handle size).isSome := by
  unfold isStaticWebp
  dsimp only
  split
  · rfl
  · exact Loop.run_isSome (fun w => maxStaticImageChunks - w.chunks) (fun _ _ => webpStep_chunks)
      (Nat.lt_succ_of_le (Nat.sub_le _ _))

section Container

variable {b sizeBytes more : Bytes}

theorem container_length (hfour : sizeBytes.length = 4) :
    (riff ++ sizeBytes ++ webp).length = 12 := by
  rw [List.length_append, List.length_append, hfour]
  rfl

theorem container_fields (hfour : sizeBytes.length = 4) :
    (riff ++ sizeBytes ++ webp).take 4 = riff ∧ (riff ++ sizeBytes ++ webp).drop 8 = webp ∧
      ((riff ++ sizeBytes ++ webp).drop 4).take 4 = sizeBytes := by
  have height : (riff ++ sizeBytes).length = 8 := by
    rw [List.length_append, hfour]
    rfl
  refine ⟨?_, List.drop_left' height, ?_⟩
  · rw [List.append_assoc]
    exact List.take_left' rfl
  · have hdrop : (riff ++ (sizeBytes ++ webp)).drop 4 = sizeBytes ++ webp := List.drop_left' rfl
    rw [List.append_assoc, hdrop]
    exact List.take_left' hfour

/-- The twelve bytes that pass the checks are the beginning of a container. -/
theorem container_of_checks (htwelve : (b.take 12).length = 12) (hriff : (b.take 12).take 4 = riff)
    (hwebp : (b.take 12).drop 8 = webp) :
    (((b.take 12).drop 4).take 4).length = 4 ∧
      b = riff ++ ((b.take 12).drop 4).take 4 ++ webp ++ b.drop 12 := by
  constructor
  · rw [List.length_take, List.length_drop, htwelve]
    rfl
  · have hsplit : (b.take 12).drop 4 = ((b.take 12).drop 4).take 4 ++ (b.take 12).drop 8 := by
      have hdrop : (b.take 12).drop 8 = ((b.take 12).drop 4).drop 4 := by
        rw [List.drop_drop]
      rw [hdrop, List.take_append_drop]
    calc b = b.take 12 ++ b.drop 12 := (List.take_append_drop 12 b).symm
      _ = (b.take 12).take 4 ++ (b.take 12).drop 4 ++ b.drop 12 :=
          congrArg (· ++ b.drop 12) (List.take_append_drop 4 (b.take 12)).symm
      _ = riff ++ (((b.take 12).drop 4).take 4 ++ webp) ++ b.drop 12 := by
          rw [hriff, ← hwebp, ← hsplit]
      _ = _ := by simp only [List.append_assoc]

/-- A payload makes a file long enough. -/
theorem StaticWebp.long_enough {cs : List RiffChunk} (h : StaticWebp b cs) : 20 ≤ b.length := by
  obtain ⟨c, hc, -⟩ := h.payload
  obtain ⟨sizeBytes, hfour, -, hb⟩ := h.container
  obtain ⟨front, back, rfl⟩ := List.append_of_mem hc
  have hcode := congrArg List.length hb
  simp only [List.flatMap_append, List.flatMap_cons, List.length_append, c.encode_length,
    hfour] at hcode
  have hnames : riff.length = 4 ∧ webp.length = 4 := ⟨rfl, rfl⟩
  omega

/-- What a walk finds behind the container's beginning is what makes the file static. -/
theorem webpTail_iff (hfour : sizeBytes.length = 4)
    (hsize : fromBytesLittle sizeBytes + 8 = b.length) (hb : b = riff ++ sizeBytes ++ webp ++ more)
    (reader : Reader) :
    (∃ cs, more = cs.flatMap RiffChunk.encode ∧ WebpTail ⟨reader, 12, 0, false, false⟩ cs) ↔
      ∃ cs, StaticWebp b cs ∧ cs.length < maxStaticImageChunks := by
  constructor
  · rintro ⟨cs, hcs, htail⟩
    refine ⟨cs, ⟨⟨sizeBytes, hfour, hsize, hcs ▸ hb⟩, ?_, htail.vp8x_still,
      htail.payload.resolve_left Bool.false_ne_true, htail.still⟩, ?_⟩
    · have honce := htail.vp8x_once
      simp only [Bool.toNat_false] at honce
      omega
    · have hcount := htail.count
      dsimp only at hcount
      omega
  · rintro ⟨cs, hcs, hcount⟩
    obtain ⟨sizeBytes', hfour', -, hb'⟩ := hcs.container
    have hmore : more = cs.flatMap RiffChunk.encode :=
      (List.append_inj (hb.symm.trans hb')
        ((container_length hfour).trans (container_length hfour').symm)).2
    refine ⟨cs, hmore, ?_, ?_, hcs.vp8x_still, .inr hcs.payload, hcs.still⟩
    · dsimp only
      omega
    · have honce := hcs.vp8x_once
      simp only [Bool.toNat_false]
      omega

end Container

/-- The code accepts the static WebP files of fewer chunks than the limit, and no other bytes. -/
theorem isStaticWebp_iff (b : Bytes) : isStaticWebp ⟨b, 0⟩ b.length = some true ↔
    ∃ cs, StaticWebp b cs ∧ cs.length < maxStaticImageChunks := by
  have hread : (Reader.read ⟨b, 0⟩ 12).1 = b.take 12 := rfl
  unfold isStaticWebp
  dsimp only
  rw [hread]
  by_cases hheader : ∃ sizeBytes more, sizeBytes.length = 4 ∧
      fromBytesLittle sizeBytes + 8 = b.length ∧ b = riff ++ sizeBytes ++ webp ++ more
  · obtain ⟨sizeBytes, more, hfour, hsize, hb⟩ := hheader
    have htwelve := container_length hfour
    have hfields := container_fields hfour
    have htake : b.take 12 = riff ++ sizeBytes ++ webp := by
      rw [hb]
      exact List.take_left' htwelve
    have hguard : (b.length < 20 ∨ (b.take 12).length ≠ 12 ∨ (b.take 12).take 4 ≠ riff ∨
        (b.take 12).drop 8 ≠ webp ∨ fromBytesLittle (((b.take 12).drop 4).take 4) + 8 ≠ b.length) ↔
        b.length < 20 := by
      rw [htake, hfields.1, hfields.2.1, hfields.2.2, htwelve, hsize]
      simp
    have hrest : (Reader.read ⟨b, 0⟩ 12).2.rest = more := by
      have hall : Reader.rest ⟨b, 0⟩ = riff ++ sizeBytes ++ webp ++ more := hb
      have hwhole := Reader.read_append hall
      rw [htwelve] at hwhole
      rw [hwhole]
      simp only [Reader.rest_seekBy]
      rw [Reader.rest, List.drop_zero, hb]
      exact List.drop_left' htwelve
    have hstart : WebpWalk.InStep b.length ⟨(Reader.read ⟨b, 0⟩ 12).2, 12, 0, false, false⟩ := by
      unfold WebpWalk.InStep
      dsimp only
      rw [hrest, hb, List.length_append, htwelve]
    have hwalk := run_webpStep_iff (n := maxStaticImageChunks + 1) hstart (by dsimp only; omega)
    rw [hrest] at hwalk
    by_cases hsmall : b.length < 20
    · rw [if_pos (hguard.2 hsmall)]
      constructor
      · intro h
        cases h
      · rintro ⟨cs, hcs, -⟩
        exact absurd hcs.long_enough (Nat.not_le.2 hsmall)
    · rw [if_neg (mt hguard.1 hsmall)]
      exact hwalk.trans (webpTail_iff hfour hsize hb _)
  · rw [if_pos]
    · constructor
      · intro h
        cases h
      · rintro ⟨cs, hcs, -⟩
        obtain ⟨sizeBytes, hfour, hsize, hb⟩ := hcs.container
        exact absurd ⟨sizeBytes, _, hfour, hsize, hb⟩ hheader
    · by_contra hguard
      simp only [not_or, not_not] at hguard
      obtain ⟨-, htwelve, hriff, hwebp, hsize⟩ := hguard
      obtain ⟨hfour, hb⟩ := container_of_checks htwelve hriff hwebp
      exact hheader ⟨_, _, hfour, hsize, hb⟩

/-- No reading of a static WebP meets an animation chunk or a set animation bit. -/
theorem StaticWebp.not_animated {b : Bytes} {cs : List RiffChunk} (h : StaticWebp b cs) :
    ¬ AnimatedWebp b := by
  rintro ⟨sizeBytes, ds, more, hfour, hb, d, hd, hkind⟩
  obtain ⟨sizeBytes', hfour', -, hb'⟩ := h.container
  have hlength : ∀ text : Bytes, text.length = 4 → (riff ++ text ++ webp).length = 12 := by
    intro text htext
    rw [List.length_append, List.length_append, htext]
    rfl
  rw [hb, List.append_assoc] at hb'
  have hcode := (List.append_inj hb' ((hlength _ hfour).trans (hlength _ hfour').symm)).2
  obtain ⟨es, hcs, -⟩ := RiffChunk.encode_prefixFree.flatMap_prefix RiffChunk.encode_ne_nil hcode
  have hmem : d ∈ cs := hcs ▸ List.mem_append_left es hd
  rcases hkind with hkind | ⟨hkind, flags, hflags, hset⟩
  · exact h.still d hmem hkind
  · rw [(h.vp8x_still d hmem hkind).2 flags hflags] at hset
    cases hset

/-- Both walks end on every file. They accept static images only, no animated file whatever its
chunks are, and every static image but a WebP of as many chunks as the limit. -/
theorem static_images_accepted (b : Bytes) :
    (isStaticPng ⟨b, 0⟩ b.length).isSome ∧ (isStaticWebp ⟨b, 0⟩ b.length).isSome ∧
      (isStaticPng ⟨b, 0⟩ b.length = some true ↔ ∃ cs, StaticPng b cs) ∧
      (isStaticWebp ⟨b, 0⟩ b.length = some true ↔
        ∃ cs, StaticWebp b cs ∧ cs.length < maxStaticImageChunks) ∧
      (AnimatedPng b → isStaticPng ⟨b, 0⟩ b.length = some false) ∧
      (AnimatedWebp b → isStaticWebp ⟨b, 0⟩ b.length = some false) := by
  have hpng := isStaticPng_isSome ⟨b, 0⟩ b.length
  have hwebp := isStaticWebp_isSome ⟨b, 0⟩ b.length
  refine ⟨hpng, hwebp, isStaticPng_iff b, isStaticWebp_iff b, fun hanimated => ?_,
    fun hanimated => ?_⟩
  · obtain ⟨r, hr⟩ := Option.isSome_iff_exists.1 hpng
    cases r with
    | false => exact hr
    | true =>
      obtain ⟨cs, hcs⟩ := (isStaticPng_iff b).1 hr
      exact absurd hanimated hcs.not_animated
  · obtain ⟨r, hr⟩ := Option.isSome_iff_exists.1 hwebp
    cases r with
    | false => exact hr
    | true =>
      obtain ⟨cs, hcs, -⟩ := (isStaticWebp_iff b).1 hr
      exact absurd hanimated hcs.not_animated

def emptyVp8 : RiffChunk := ⟨vp8, [0, 0, 0, 0], [], [], rfl, rfl, rfl, rfl⟩

/-- An empty chunk that decoders skip. -/
def emptyJunk : RiffChunk := ⟨[0x4A, 0x55, 0x4E, 0x4B], [0, 0, 0, 0], [], [], rfl, rfl, rfl, rfl⟩

/-- An image of as many chunks as the limit. -/
def crowdedChunks : List RiffChunk := emptyVp8 :: List.replicate 99999 emptyJunk

def crowdedWebp : Bytes :=
  riff ++ [0x04, 0x35, 0x0C, 0x00] ++ webp ++ crowdedChunks.flatMap RiffChunk.encode

theorem flatMap_replicate_length (n : Nat) :
    ((List.replicate n emptyJunk).flatMap RiffChunk.encode).length = 8 * n := by
  induction n with
  | zero => rfl
  | succ n ih =>
    rw [List.replicate_succ, List.flatMap_cons, List.length_append, ih, RiffChunk.encode_length]
    have hdata : emptyJunk.data.length = 0 := rfl
    omega

theorem mem_crowdedChunks {c : RiffChunk} (hc : c ∈ crowdedChunks) :
    c = emptyVp8 ∨ c = emptyJunk := by
  rcases List.mem_cons.1 hc with hc | hc
  · exact .inl hc
  · exact .inr (List.eq_of_mem_replicate hc)

/-- The file meets the grammar, and the code refuses it. -/
theorem crowded_webp_refused :
    StaticWebp crowdedWebp crowdedChunks ∧
      isStaticWebp ⟨crowdedWebp, 0⟩ crowdedWebp.length = some false := by
  have hlength : crowdedWebp.length = 800012 := by
    unfold crowdedWebp crowdedChunks
    simp only [List.length_append, List.flatMap_cons, flatMap_replicate_length,
      RiffChunk.encode_length]
    rfl
  have hstatic : StaticWebp crowdedWebp crowdedChunks := by
    refine ⟨⟨_, rfl, ?_, rfl⟩, ?_, ?_, ⟨emptyVp8, List.mem_cons_self, .inl rfl⟩, ?_⟩
    · rw [hlength]
      rfl
    · rw [List.filter_eq_nil_iff.2]
      · exact Nat.zero_le _
      · intro c hc
        rcases mem_crowdedChunks hc with rfl | rfl <;> decide
    · intro c hc hkind
      rcases mem_crowdedChunks hc with rfl | rfl <;> exact absurd hkind (by decide)
    · intro c hc
      rcases mem_crowdedChunks hc with rfl | rfl <;> decide
  refine ⟨hstatic, ?_⟩
  obtain ⟨r, hr⟩ := Option.isSome_iff_exists.1
    (isStaticWebp_isSome ⟨crowdedWebp, 0⟩ crowdedWebp.length)
  cases r with
  | false => exact hr
  | true =>
    obtain ⟨cs, hcs, hcount⟩ := (isStaticWebp_iff crowdedWebp).1 hr
    obtain ⟨sizeBytes, hfour, -, hb⟩ := hcs.container
    have htwelve : (riff ++ sizeBytes ++ webp).length = 12 := by
      rw [List.length_append, List.length_append, hfour]
      rfl
    have hfixed : (riff ++ [0x04, 0x35, 0x0C, 0x00] ++ webp).length = 12 := rfl
    have hcode := (List.append_inj hb (hfixed.trans htwelve.symm)).2
    rw [← RiffChunk.encode_prefixFree.flatMap_injective RiffChunk.encode_ne_nil hcode] at hcount
    have hchunks : crowdedChunks.length = 100000 := by
      rw [crowdedChunks, List.length_cons, List.length_replicate]
    rw [hchunks] at hcount
    exact absurd hcount (by decide)

end MediaSync.Media
