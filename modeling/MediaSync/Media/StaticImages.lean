import MediaSync.Foundation.ByteReader
import MediaSync.Foundation.Loop

/-!
# Static images

`_is_static_png` and `_is_static_webp` walk over the chunks of a file. A chunk
is skipped by a seek, so the position that the walk counts and the offset of the
handle have to agree. The grammars say which files are static images, in terms
of the chunks that a file consists of: as a chunk says how long it is, a file
consists of chunks in one way at most, and no walk is lost in the data of one.
-/

namespace MediaSync.Media

open Loop (Step)

/-- `_MAX_STATIC_IMAGE_CHUNKS`. -/
def maxStaticImageChunks : Nat := 100000

def pngSignature : Bytes := [0x89, 0x50, 0x4E, 0x47, 0x0D, 0x0A, 0x1A, 0x0A]

def ihdr : Bytes := [0x49, 0x48, 0x44, 0x52]

def idat : Bytes := [0x49, 0x44, 0x41, 0x54]

def iend : Bytes := [0x49, 0x45, 0x4E, 0x44]

/-- `acTL`, `fcTL` and `fdAT`. -/
def pngAnimationTypes : List Bytes :=
  [[0x61, 0x63, 0x54, 0x4C], [0x66, 0x63, 0x54, 0x4C], [0x66, 0x64, 0x41, 0x54]]

/-- An ASCII letter. -/
def isLetter (byte : UInt8) : Bool :=
  (65 ≤ byte.toNat && byte.toNat < 91) || (97 ≤ byte.toNat && byte.toNat < 123)

structure PngWalk where
  handle : Reader
  position : Nat
  chunks : Nat
  sawIhdr : Bool
  sawIdat : Bool
  deriving DecidableEq, Repr

/-- One iteration of `_is_static_png`. -/
def pngStep (size : Nat) (w : PngWalk) : Step PngWalk Bool :=
  if w.position < size ∧ w.chunks < maxStaticImageChunks then
    let header := (w.handle.read 8).1
    if header.length ≠ 8 then .done false
    else
      let length := fromBytesBig (header.take 4)
      let chunkType := header.drop 4
      let chunks := w.chunks + 1
      let chunkEnd := w.position + 12 + length
      if 0x7FFFFFFF < length ∨ size < chunkEnd ∨ chunkType.any (!isLetter ·) then .done false
      else if chunks = 1 ∧ (chunkType ≠ ihdr ∨ length ≠ 13) then .done false
      else if chunks ≠ 1 ∧ chunkType = ihdr then .done false
      else if chunkType ∈ pngAnimationTypes then .done false
      else
        let sawIhdr := w.sawIhdr || chunks = 1
        let sawIdat := w.sawIdat || chunkType = idat
        if chunkType = iend then
          .done (length = 0 && sawIhdr && sawIdat && chunkEnd = size)
        else
          .next ⟨(w.handle.read 8).2.seekBy (length + 4), chunkEnd, chunks, sawIhdr, sawIdat⟩
  else .done false

/-- `_is_static_png`. -/
def isStaticPng (handle : Reader) (size : Nat) : Option Bool :=
  if size < 33 ∨ (handle.read 8).1 ≠ pngSignature then some false
  else
    Loop.run (pngStep size) (maxStaticImageChunks + 1) ⟨(handle.read 8).2, 8, 0, false, false⟩

def riff : Bytes := [0x52, 0x49, 0x46, 0x46]

def webp : Bytes := [0x57, 0x45, 0x42, 0x50]

def vp8 : Bytes := [0x56, 0x50, 0x38, 0x20]

def vp8l : Bytes := [0x56, 0x50, 0x38, 0x4C]

def vp8x : Bytes := [0x56, 0x50, 0x38, 0x58]

/-- `ANIM` and `ANMF`. -/
def webpAnimationTypes : List Bytes := [[0x41, 0x4E, 0x49, 0x4D], [0x41, 0x4E, 0x4D, 0x46]]

/-- The animation bit of the flags. -/
def isAnimated (flags : UInt8) : Bool := flags &&& 0x02 ≠ 0

structure WebpWalk where
  handle : Reader
  position : Nat
  chunks : Nat
  sawImagePayload : Bool
  sawVp8x : Bool
  deriving DecidableEq, Repr

/-- One iteration of `_is_static_webp`. -/
def webpStep (size : Nat) (w : WebpWalk) : Step WebpWalk Bool :=
  if w.position < size ∧ w.chunks < maxStaticImageChunks then
    let header := (w.handle.read 8).1
    let handle := (w.handle.read 8).2
    if header.length ≠ 8 then .done false
    else
      let chunkType := header.take 4
      let length := fromBytesLittle (header.drop 4)
      let chunks := w.chunks + 1
      let paddedLength := length + length % 2
      let chunkEnd := w.position + 8 + paddedLength
      let sawImagePayload := w.sawImagePayload || chunkType = vp8 || chunkType = vp8l
      if size < chunkEnd ∨ chunkType ∈ webpAnimationTypes then .done false
      else if chunkType = vp8x then
        if w.sawVp8x = true ∨ length ≠ 10 then .done false
        else
          let flags := (handle.read 1).1
          if flags.length ≠ 1 ∨ flags.any isAnimated then .done false
          else
            .next ⟨(handle.read 1).2.seekBy (length - 1 + length % 2), chunkEnd, chunks,
              sawImagePayload, true⟩
      else
        .next ⟨handle.seekBy paddedLength, chunkEnd, chunks, sawImagePayload, w.sawVp8x⟩
  else .done (w.position = size && w.sawImagePayload && w.chunks < maxStaticImageChunks)

/-- `_is_static_webp`. -/
def isStaticWebp (handle : Reader) (size : Nat) : Option Bool :=
  let header := (handle.read 12).1
  if size < 20 ∨ header.length ≠ 12 ∨ header.take 4 ≠ riff ∨ header.drop 8 ≠ webp ∨
      fromBytesLittle ((header.drop 4).take 4) + 8 ≠ size then some false
  else
    Loop.run (webpStep size) (maxStaticImageChunks + 1)
      ⟨(handle.read 12).2, 12, 0, false, false⟩

/-- `_is_static_image`, for the MIME type and the extension of a probe. -/
def isStaticImage (handle : Reader) (size : Nat) (mimeType extension : String) : Option Bool :=
  if !List.contains [("image/jpeg", "jpg"), ("image/png", "png"), ("image/webp", "webp")]
      (mimeType, extension) then some false
  else if mimeType = "image/jpeg" then
    if size < 4 ∨ (handle.read 2).1 ≠ [0xFF, 0xD8] then some false
    else some ((((handle.read 2).2.seekEnd 2).read 2).1 = [0xFF, 0xD9])
  else if mimeType = "image/png" then isStaticPng handle size
  else isStaticWebp handle size

/-- A chunk of a PNG file, of any type and with any checksum. -/
structure PngChunk where
  lengthBytes : Bytes
  kind : Bytes
  data : Bytes
  crc : Bytes
  length_size : lengthBytes.length = 4
  kind_size : kind.length = 4
  crc_size : crc.length = 4
  length_value : fromBytesBig lengthBytes = data.length

namespace PngChunk

def encode (c : PngChunk) : Bytes := c.lengthBytes ++ c.kind ++ c.data ++ c.crc

/-- A length of at most 2^31 - 1 and a type of four letters. -/
def WellFormed (c : PngChunk) : Prop := c.data.length ≤ 0x7FFFFFFF ∧ ∀ byte ∈ c.kind, isLetter byte

theorem encode_length (c : PngChunk) : c.encode.length = 12 + c.data.length := by
  simp only [encode, List.length_append, c.length_size, c.kind_size, c.crc_size]
  omega

theorem encode_ne_nil (c : PngChunk) : c.encode ≠ [] := by
  intro h
  have hlength := c.encode_length
  rw [h] at hlength
  simp only [List.length_nil] at hlength
  omega

theorem ext_of {c d : PngChunk} (hlength : c.lengthBytes = d.lengthBytes) (hkind : c.kind = d.kind)
    (hdata : c.data = d.data) (hcrc : c.crc = d.crc) : c = d := by
  cases c
  cases d
  cases hlength
  cases hkind
  cases hdata
  cases hcrc
  rfl

theorem encode_prefixFree : PrefixFree encode := by
  intro c d x y h
  simp only [encode, List.append_assoc] at h
  obtain ⟨hlength, h⟩ := List.append_inj h (c.length_size.trans d.length_size.symm)
  obtain ⟨hkind, h⟩ := List.append_inj h (c.kind_size.trans d.kind_size.symm)
  have hsize : c.data.length = d.data.length := by
    rw [← c.length_value, ← d.length_value, hlength]
  obtain ⟨hdata, h⟩ := List.append_inj h hsize
  obtain ⟨hcrc, hrest⟩ := List.append_inj h (c.crc_size.trans d.crc_size.symm)
  exact ⟨ext_of hlength hkind hdata hcrc, hrest⟩

/-- Bytes that are long enough start with a chunk. -/
theorem exists_encode {rest : Bytes} (hheader : 8 ≤ rest.length)
    (hfits : 12 + fromBytesBig (rest.take 4) ≤ rest.length) :
    ∃ c more, rest = encode c ++ more := by
  let n := fromBytesBig (rest.take 4)
  have htake : ∀ k m, m + k ≤ rest.length → ((rest.drop m).take k).length = k := by
    intro k m h
    rw [List.length_take, List.length_drop]
    omega
  refine ⟨⟨rest.take 4, (rest.drop 4).take 4, (rest.drop 8).take n, (rest.drop (8 + n)).take 4,
    htake 4 0 (by omega), htake 4 4 (by omega), htake 4 (8 + n) (by omega),
    (htake n 8 (by omega)).symm⟩, rest.drop (12 + n), ?_⟩
  have hsplit : ∀ m k, rest.drop m = (rest.drop m).take k ++ rest.drop (m + k) := by
    intro m k
    rw [← List.drop_drop, List.take_append_drop]
  calc rest = rest.take 4 ++ rest.drop 4 := (List.take_append_drop 4 rest).symm
    _ = rest.take 4 ++ ((rest.drop 4).take 4 ++ ((rest.drop 8).take n ++
          ((rest.drop (8 + n)).take 4 ++ rest.drop (8 + n + 4)))) := by
        rw [← hsplit, ← hsplit, ← hsplit]
    _ = _ := by
        simp only [encode, List.append_assoc]
        rw [show 8 + n + 4 = 12 + n by omega]

end PngChunk

/-- The bytes are a static PNG of these chunks. -/
structure StaticPng (b : Bytes) (cs : List PngChunk) : Prop where
  tiles : b = pngSignature ++ cs.flatMap PngChunk.encode
  count : cs.length < maxStaticImageChunks + 1
  wellFormed : ∀ c ∈ cs, c.WellFormed
  first : ∃ c rest, cs = c :: rest ∧ c.kind = ihdr ∧ c.data.length = 13 ∧ ∀ d ∈ rest, d.kind ≠ ihdr
  payload : ∃ c ∈ cs, c.kind = idat
  still : ∀ c ∈ cs, c.kind ∉ pngAnimationTypes
  last : ∃ front c, cs = front ++ [c] ∧ c.kind = iend ∧ c.data = [] ∧ ∀ d ∈ front, d.kind ≠ iend

/-- The bytes start like a PNG of chunks one of which is an animation chunk. -/
def AnimatedPng (b : Bytes) : Prop :=
  ∃ (cs : List PngChunk) (more : Bytes), b = pngSignature ++ cs.flatMap PngChunk.encode ++ more ∧
    ∃ c ∈ cs, c.kind ∈ pngAnimationTypes

/-- What the iteration checks of the chunk that it reads. -/
structure PngWalk.Accepts (w : PngWalk) (c : PngChunk) : Prop where
  room : w.chunks < maxStaticImageChunks
  wellFormed : c.WellFormed
  first : w.chunks = 0 → c.kind = ihdr ∧ c.data.length = 13
  later : w.chunks ≠ 0 → c.kind ≠ ihdr
  still : c.kind ∉ pngAnimationTypes

/-- The walk behind a chunk. -/
def PngWalk.after (w : PngWalk) (c : PngChunk) : PngWalk :=
  ⟨w.handle.seekBy c.encode.length, w.position + c.encode.length, w.chunks + 1, true,
    w.sawIdat || c.kind = idat⟩

section PngStep

variable {size : Nat} {w : PngWalk} {c : PngChunk} {more : Bytes}

/-- The position is the offset of the handle, in a file of the given size. -/
structure PngWalk.InStep (size : Nat) (w : PngWalk) : Prop where
  size_eq : size = w.position + w.handle.rest.length
  ihdr_iff : w.sawIhdr = true ↔ w.chunks ≠ 0

theorem pngHeader (hrest : w.handle.rest = c.encode ++ more) :
    w.handle.read 8 = (c.lengthBytes ++ c.kind, w.handle.seekBy 8) := by
  have hlength : (c.lengthBytes ++ c.kind).length = 8 := by
    rw [List.length_append, c.length_size, c.kind_size]
  have hsplit : w.handle.rest = (c.lengthBytes ++ c.kind) ++ (c.data ++ c.crc ++ more) := by
    rw [hrest]
    simp only [PngChunk.encode, List.append_assoc]
  rw [← hlength]
  exact Reader.read_append hsplit

/-- The iteration in terms of the chunk that lies at the position. -/
theorem pngStep_chunk (hw : w.InStep size) (hrest : w.handle.rest = c.encode ++ more) :
    pngStep size w =
      if w.chunks < maxStaticImageChunks then
        if 0x7FFFFFFF < c.data.length ∨ c.kind.any (!isLetter ·) then .done false
        else if w.chunks + 1 = 1 ∧ (c.kind ≠ ihdr ∨ c.data.length ≠ 13) then .done false
        else if w.chunks + 1 ≠ 1 ∧ c.kind = ihdr then .done false
        else if c.kind ∈ pngAnimationTypes then .done false
        else if c.kind = iend then
          .done (c.data.length = 0 && (w.sawIdat || c.kind = idat) && more = [])
        else .next (w.after c)
      else .done false := by
  have hchunk := c.encode_length
  have hlength : w.handle.rest.length = c.encode.length + more.length := by
    rw [hrest, List.length_append]
  have hpos : w.position < size := by
    have hsize := hw.size_eq
    omega
  have hend : ¬ size < w.position + 12 + c.data.length := by
    have hsize := hw.size_eq
    omega
  have hmore : (w.position + 12 + c.data.length = size) = (more = []) := by
    have hsize := hw.size_eq
    rw [← List.length_eq_zero_iff]
    apply propext
    omega
  have hihdr : (w.sawIhdr || decide (w.chunks + 1 = 1)) = true := by
    by_cases hzero : w.chunks = 0
    · simp [hzero]
    · simp [hw.ihdr_iff.2 hzero]
  have htake : (c.lengthBytes ++ c.kind).take 4 = c.lengthBytes :=
    List.take_left' c.length_size
  have hdrop : (c.lengthBytes ++ c.kind).drop 4 = c.kind := List.drop_left' c.length_size
  have hheader : ¬ (c.lengthBytes ++ c.kind).length ≠ 8 := by
    rw [List.length_append, c.length_size, c.kind_size]
    decide
  have hafter : (⟨(w.handle.seekBy 8).seekBy (c.data.length + 4), w.position + 12 + c.data.length,
      w.chunks + 1, true, w.sawIdat || decide (c.kind = idat)⟩ : PngWalk) = w.after c := by
    have hseek : w.handle.offset + 8 + (c.data.length + 4) =
        w.handle.offset + c.encode.length := by omega
    have hposition : w.position + 12 + c.data.length = w.position + c.encode.length := by omega
    simp only [PngWalk.after, Reader.seekBy, hseek, hposition]
  unfold pngStep
  rw [pngHeader hrest]
  dsimp only
  rw [htake, hdrop, c.length_value, if_neg hheader, hihdr, hafter]
  simp only [hpos, true_and, hend, false_or, hmore, Bool.and_true]

/-- The iteration ends where no chunk lies at the position. -/
theorem pngStep_stuck (hw : w.InStep size)
    (hstuck : ∀ c more, w.handle.rest ≠ PngChunk.encode c ++ more) :
    pngStep size w = .done false := by
  unfold pngStep
  dsimp only
  by_cases hgoes : w.position < size ∧ w.chunks < maxStaticImageChunks
  · rw [if_pos hgoes]
    by_cases hheader : (w.handle.read 8).1.length = 8
    · have hlong : 8 ≤ w.handle.rest.length := by
        rw [Reader.read_length] at hheader
        omega
      have hshort : w.handle.rest.length < 12 + fromBytesBig (w.handle.rest.take 4) := by
        by_contra hfits
        obtain ⟨c, more, hrest⟩ := PngChunk.exists_encode hlong (by omega)
        exact hstuck c more hrest
      have htake : (w.handle.read 8).1.take 4 = w.handle.rest.take 4 := by
        simp [Reader.read, List.take_take]
      rw [if_neg (not_not.2 hheader), htake, if_pos]
      have hsize := hw.size_eq
      exact .inr (.inl (by omega))
    · rw [if_pos hheader]
  · rw [if_neg hgoes]

theorem pngStep_refuses (hw : w.InStep size) (hrest : w.handle.rest = c.encode ++ more)
    (h : ¬ w.Accepts c) : pngStep size w = .done false := by
  rw [pngStep_chunk hw hrest]
  split_ifs with hroom hform hfirst hlater hstill hlast
  · rfl
  · rfl
  · rfl
  · rfl
  all_goals try rfl
  all_goals
    refine absurd ⟨hroom, ?_, ?_, ?_, hstill⟩ h
    · rw [not_or, List.any_eq_true] at hform
      refine ⟨not_lt.1 hform.1, fun byte hbyte => ?_⟩
      by_contra hletter
      exact hform.2 ⟨byte, hbyte, by simpa using hletter⟩
    · intro hzero
      rw [not_and_or, not_or, not_not, not_not] at hfirst
      exact hfirst.resolve_left (not_not.2 (by rw [hzero]))
    · intro hpos hkind
      exact hlater ⟨by omega, hkind⟩

theorem pngStep_accepts (hw : w.InStep size) (hrest : w.handle.rest = c.encode ++ more)
    (h : w.Accepts c) : pngStep size w =
      if c.kind = iend then .done (c.data.length = 0 && (w.sawIdat || c.kind = idat) && more = [])
      else .next (w.after c) := by
  have hform : ¬ (0x7FFFFFFF < c.data.length ∨ c.kind.any (!isLetter ·) = true) := by
    rw [not_or, List.any_eq_true]
    refine ⟨not_lt.2 h.wellFormed.1, ?_⟩
    rintro ⟨byte, hbyte, hletter⟩
    rw [h.wellFormed.2 byte hbyte] at hletter
    cases hletter
  have hfirst : ¬ (w.chunks + 1 = 1 ∧ (c.kind ≠ ihdr ∨ c.data.length ≠ 13)) := by
    rintro ⟨hone, hbad⟩
    have hboth := h.first (by omega)
    rcases hbad with hbad | hbad
    · exact hbad hboth.1
    · exact hbad hboth.2
  have hlater : ¬ (w.chunks + 1 ≠ 1 ∧ c.kind = ihdr) := by
    rintro ⟨hmany, hkind⟩
    exact h.later (by omega) hkind
  rw [pngStep_chunk hw hrest, if_pos h.room, if_neg hform, if_neg hfirst, if_neg hlater,
    if_neg h.still]

theorem InStep.after (hw : w.InStep size) (hrest : w.handle.rest = c.encode ++ more) :
    (w.after c).InStep size ∧ (w.after c).handle.rest = more := by
  have hmore : (w.after c).handle.rest = more := by
    simp only [PngWalk.after, Reader.rest_seekBy]
    rw [hrest, List.drop_left]
  refine ⟨⟨?_, by simp [PngWalk.after]⟩, hmore⟩
  rw [hmore, hw.size_eq, hrest, List.length_append]
  simp only [PngWalk.after]
  omega

end PngStep

/-! ## A walk over a PNG -/

/-- The chunks that a walk still accepts, up to the end of the file. -/
structure PngTail (w : PngWalk) (cs : List PngChunk) : Prop where
  count : w.chunks + cs.length ≤ maxStaticImageChunks
  wellFormed : ∀ c ∈ cs, c.WellFormed
  first : w.chunks = 0 → ∃ c ∈ cs.head?, c.kind = ihdr ∧ c.data.length = 13
  later : ∀ c ∈ (if w.chunks = 0 then cs.tail else cs), c.kind ≠ ihdr
  payload : w.sawIdat = true ∨ ∃ c ∈ cs, c.kind = idat
  still : ∀ c ∈ cs, c.kind ∉ pngAnimationTypes
  last : ∃ front c, cs = front ++ [c] ∧ c.kind = iend ∧ c.data = [] ∧ ∀ d ∈ front, d.kind ≠ iend

theorem not_pngTail_nil (w : PngWalk) : ¬ PngTail w [] := by
  intro h
  obtain ⟨front, c, hcs, _⟩ := h.last
  exact List.append_ne_nil_of_right_ne_nil front (List.cons_ne_nil c []) hcs.symm

theorem PngTail.accepts {w : PngWalk} {c : PngChunk} {cs : List PngChunk}
    (h : PngTail w (c :: cs)) : w.Accepts c where
  room := by
    have hcount := h.count
    rw [List.length_cons] at hcount
    omega
  wellFormed := h.wellFormed c List.mem_cons_self
  first hzero := by
    obtain ⟨d, hd, hboth⟩ := h.first hzero
    cases hd
    exact hboth
  later hpos := by
    have hlater := h.later
    rw [if_neg hpos] at hlater
    exact hlater c List.mem_cons_self
  still := h.still c List.mem_cons_self

/-- Behind an `IEND` chunk nothing follows. -/
theorem pngTail_iend {w : PngWalk} {c : PngChunk} {cs : List PngChunk} (hw : w.Accepts c)
    (hkind : c.kind = iend) :
    PngTail w (c :: cs) ↔ c.data = [] ∧ w.sawIdat = true ∧ cs = [] := by
  constructor
  · intro h
    obtain ⟨front, d, hcs, -, hdata, hfront⟩ := h.last
    cases front with
    | nil =>
      obtain ⟨rfl, rfl⟩ := List.cons.inj hcs
      refine ⟨hdata, h.payload.resolve_right ?_, rfl⟩
      rintro ⟨e, he, hidat⟩
      rw [List.mem_singleton.1 he, hkind] at hidat
      exact absurd hidat (by decide)
    | cons e front =>
      obtain ⟨rfl, -⟩ := List.cons.inj hcs
      exact absurd hkind (hfront c List.mem_cons_self)
  · rintro ⟨hdata, hidat, rfl⟩
    refine ⟨hw.room, ?_, ?_, ?_, .inl hidat, ?_, [], c, rfl, hkind, hdata,
      fun d hd => absurd hd List.not_mem_nil⟩
    · intro d hd
      rw [List.mem_singleton.1 hd]
      exact hw.wellFormed
    · intro hzero
      exact ⟨c, rfl, hw.first hzero⟩
    · intro d hd
      split at hd
      · exact absurd hd List.not_mem_nil
      · rename_i hpos
        rw [List.mem_singleton.1 hd]
        exact hw.later hpos
    · intro d hd
      rw [List.mem_singleton.1 hd]
      exact hw.still

theorem pngTail_cons {w : PngWalk} {c : PngChunk} {cs : List PngChunk} (hw : w.Accepts c)
    (hkind : c.kind ≠ iend) : PngTail w (c :: cs) ↔ PngTail (w.after c) cs := by
  have hchunks : (w.after c).chunks = w.chunks + 1 := rfl
  constructor
  · intro h
    refine ⟨?_, ?_, ?_, ?_, ?_, ?_, ?_⟩
    · have hcount := h.count
      rw [List.length_cons] at hcount
      rw [hchunks]
      omega
    · exact fun d hd => h.wellFormed d (List.mem_cons_of_mem c hd)
    · intro hzero
      rw [hchunks] at hzero
      omega
    · have hlater := h.later
      intro d hd
      rw [if_neg (by rw [hchunks]; omega)] at hd
      split at hlater
      · exact hlater d hd
      · exact hlater d (List.mem_cons_of_mem c hd)
    · rcases h.payload with hidat | ⟨d, hd, hidat⟩
      · exact .inl (by simp [PngWalk.after, hidat])
      · rcases List.mem_cons.1 hd with rfl | hd
        · exact .inl (by simp [PngWalk.after, hidat])
        · exact .inr ⟨d, hd, hidat⟩
    · exact fun d hd => h.still d (List.mem_cons_of_mem c hd)
    · obtain ⟨front, e, hcs, hend, hdata, hfront⟩ := h.last
      cases front with
      | nil =>
        obtain ⟨rfl, -⟩ := List.cons.inj hcs
        exact absurd hend hkind
      | cons d front =>
        obtain ⟨-, rfl⟩ := List.cons.inj hcs
        exact ⟨front, e, rfl, hend, hdata, fun d hd => hfront d (List.mem_cons_of_mem _ hd)⟩
  · intro h
    have hlater : ∀ d ∈ cs, d.kind ≠ ihdr := by
      have hrest := h.later
      rwa [if_neg (by rw [hchunks]; omega)] at hrest
    refine ⟨?_, List.forall_mem_cons.2 ⟨hw.wellFormed, h.wellFormed⟩, ?_, ?_, ?_,
      List.forall_mem_cons.2 ⟨hw.still, h.still⟩, ?_⟩
    · have hcount := h.count
      rw [hchunks] at hcount
      rw [List.length_cons]
      omega
    · intro hzero
      exact ⟨c, rfl, hw.first hzero⟩
    · split
      · exact hlater
      · rename_i hpos
        exact List.forall_mem_cons.2 ⟨hw.later hpos, hlater⟩
    · rcases h.payload with hidat | ⟨d, hd, hidat⟩
      · simp only [PngWalk.after, Bool.or_eq_true, decide_eq_true_eq] at hidat
        exact hidat.imp_right fun hc => ⟨c, List.mem_cons_self, hc⟩
      · exact .inr ⟨d, List.mem_cons_of_mem c hd, hidat⟩
    · obtain ⟨front, e, rfl, hend, hdata, hfront⟩ := h.last
      refine ⟨c :: front, e, rfl, hend, hdata, fun d hd => ?_⟩
      rcases List.mem_cons.1 hd with rfl | hd
      · exact hkind
      · exact hfront d hd

/-- A walk accepts the rest of its file if and only if it consists of chunks that the walk still
accepts. -/
theorem run_pngStep_iff {size n : Nat} {w : PngWalk} (hw : w.InStep size)
    (hn : maxStaticImageChunks < w.chunks + n) :
    Loop.run (pngStep size) n w = some true ↔
      ∃ cs, w.handle.rest = cs.flatMap PngChunk.encode ∧ PngTail w cs := by
  induction n generalizing w with
  | zero =>
    -- no walk is past the limit: it is refused a chunk there
    constructor
    · intro h
      cases h
    · rintro ⟨cs, -, htail⟩
      have hcount := htail.count
      omega
  | succ n ih =>
    by_cases hchunk : ∃ c more, w.handle.rest = PngChunk.encode c ++ more
    · obtain ⟨c, more, hrest⟩ := hchunk
      have hreads : ∀ cs, w.handle.rest = cs.flatMap PngChunk.encode → PngTail w cs →
          ∃ ds, cs = c :: ds ∧ more = ds.flatMap PngChunk.encode := by
        intro cs hcs htail
        cases cs with
        | nil => exact absurd htail (not_pngTail_nil w)
        | cons d ds =>
          rw [hrest, List.flatMap_cons] at hcs
          obtain ⟨rfl, hmore⟩ := PngChunk.encode_prefixFree _ _ _ _ hcs
          exact ⟨ds, rfl, hmore⟩
      by_cases haccepts : w.Accepts c
      · obtain ⟨hafter, hmore⟩ := InStep.after hw hrest
        by_cases hkind : c.kind = iend
        · have hidat : c.kind ≠ idat := by
            rw [hkind]
            decide
          have hstep := pngStep_accepts hw hrest haccepts
          rw [if_pos hkind] at hstep
          rw [Loop.run_done hstep]
          simp only [hidat, decide_false, Bool.or_false, Option.some.injEq, Bool.and_eq_true,
            decide_eq_true_eq, List.length_eq_zero_iff]
          constructor
          · rintro ⟨⟨hdata, hsaw⟩, hnil⟩
            refine ⟨[c], ?_, (pngTail_iend haccepts hkind).2 ⟨hdata, hsaw, rfl⟩⟩
            rw [hrest, hnil, List.flatMap_cons, List.flatMap_nil]
          · rintro ⟨cs, hcs, htail⟩
            obtain ⟨ds, rfl, hds⟩ := hreads cs hcs htail
            obtain ⟨hdata, hsaw, rfl⟩ := (pngTail_iend haccepts hkind).1 htail
            exact ⟨⟨hdata, hsaw⟩, hds⟩
        · have hstep := pngStep_accepts hw hrest haccepts
          rw [if_neg hkind] at hstep
          have hchunks : (w.after c).chunks = w.chunks + 1 := rfl
          rw [Loop.run_next hstep, ih hafter (by omega), hmore]
          constructor
          · rintro ⟨cs, hcs, htail⟩
            refine ⟨c :: cs, ?_, (pngTail_cons haccepts hkind).2 htail⟩
            rw [hrest, hcs, List.flatMap_cons]
          · rintro ⟨cs, hcs, htail⟩
            obtain ⟨ds, rfl, hds⟩ := hreads cs hcs htail
            exact ⟨ds, hds, (pngTail_cons haccepts hkind).1 htail⟩
      · rw [Loop.run_done (pngStep_refuses hw hrest haccepts)]
        constructor
        · intro h
          cases h
        · rintro ⟨cs, hcs, htail⟩
          obtain ⟨ds, rfl, -⟩ := hreads cs hcs htail
          exact absurd htail.accepts haccepts
    · have hstuck : ∀ c more, w.handle.rest ≠ PngChunk.encode c ++ more :=
        fun c more hrest => hchunk ⟨c, more, hrest⟩
      rw [Loop.run_done (pngStep_stuck hw hstuck)]
      constructor
      · intro h
        cases h
      · rintro ⟨cs, hcs, htail⟩
        cases cs with
        | nil => exact absurd htail (not_pngTail_nil w)
        | cons d ds =>
          rw [List.flatMap_cons] at hcs
          exact absurd hcs (hstuck d _)

theorem pngStep_chunks {size : Nat} {w v : PngWalk} (h : pngStep size w = .next v) :
    maxStaticImageChunks - v.chunks < maxStaticImageChunks - w.chunks := by
  unfold pngStep at h
  dsimp only at h
  split_ifs at h with hgoes
  cases h
  dsimp only
  omega

/-- `_is_static_png` ends on every file. -/
theorem isStaticPng_isSome (handle : Reader) (size : Nat) : (isStaticPng handle size).isSome := by
  unfold isStaticPng
  split
  · rfl
  · exact Loop.run_isSome (fun w => maxStaticImageChunks - w.chunks) (fun _ _ => pngStep_chunks)
      (Nat.lt_succ_of_le (Nat.sub_le _ _))

theorem pngTail_start {handle : Reader} {cs : List PngChunk} {b : Bytes}
    (hb : b = pngSignature ++ cs.flatMap PngChunk.encode) :
    PngTail ⟨handle, 8, 0, false, false⟩ cs ↔ StaticPng b cs := by
  constructor
  · intro h
    have hcount := h.count
    obtain ⟨c, hc, hkind, hdata⟩ := h.first rfl
    have hlater := h.later
    rw [if_pos rfl] at hlater
    refine ⟨hb, ?_, h.wellFormed, ?_, h.payload.resolve_left Bool.false_ne_true, h.still, h.last⟩
    · dsimp only at hcount
      omega
    · cases cs with
      | nil => cases hc
      | cons d ds =>
        cases hc
        exact ⟨c, ds, rfl, hkind, hdata, hlater⟩
  · intro h
    obtain ⟨c, rest, rfl, hkind, hdata, hlater⟩ := h.first
    refine ⟨?_, h.wellFormed, fun _ => ⟨c, rfl, hkind, hdata⟩, ?_, .inr h.payload, h.still, h.last⟩
    · have hcount := h.count
      dsimp only
      omega
    · rw [if_pos rfl]
      exact hlater

/-- The code accepts the static PNG files and no other bytes. -/
theorem isStaticPng_iff (b : Bytes) :
    isStaticPng ⟨b, 0⟩ b.length = some true ↔ ∃ cs, StaticPng b cs := by
  by_cases hsignature : (Reader.read ⟨b, 0⟩ 8).1 = pngSignature
  · have hlength : (Reader.read ⟨b, 0⟩ 8).1.length = 8 := by
      rw [hsignature]
      rfl
    obtain ⟨hb, hread⟩ := Reader.read_full hlength
    rw [hsignature] at hb
    have hb : b = pngSignature ++ b.drop 8 := hb
    have hsize : b.length = 8 + (b.drop 8).length := by
      conv_lhs => rw [hb]
      rw [List.length_append]
      rfl
    have hstart : PngWalk.InStep b.length ⟨(Reader.read ⟨b, 0⟩ 8).2, 8, 0, false, false⟩ := by
      rw [hread]
      exact ⟨by simpa [Reader.rest] using hsize, by simp⟩
    have hrest : (Reader.read ⟨b, 0⟩ 8).2.rest = b.drop 8 := by
      rw [hread]
      simp [Reader.rest]
    have hwalk := run_pngStep_iff (n := maxStaticImageChunks + 1) hstart (by dsimp only; omega)
    rw [hrest] at hwalk
    have hreads : (∃ cs, b.drop 8 = cs.flatMap PngChunk.encode ∧
        PngTail ⟨(Reader.read ⟨b, 0⟩ 8).2, 8, 0, false, false⟩ cs) ↔ ∃ cs, StaticPng b cs := by
      constructor
      · rintro ⟨cs, hcs, htail⟩
        rw [hcs] at hb
        exact ⟨cs, (pngTail_start hb).1 htail⟩
      · rintro ⟨cs, hcs⟩
        refine ⟨cs, ?_, (pngTail_start hcs.tiles).2 hcs⟩
        have htiles := hb.symm.trans hcs.tiles
        exact List.append_cancel_left htiles
    unfold isStaticPng
    by_cases hsmall : b.length < 33
    · rw [if_pos (.inl hsmall)]
      constructor
      · intro h
        cases h
      · rintro ⟨cs, hcs⟩
        obtain ⟨c, rest, rfl, -, hdata, -⟩ := hcs.first
        have hcode := congrArg List.length hcs.tiles
        rw [List.flatMap_cons, List.length_append, List.length_append, c.encode_length] at hcode
        have height : pngSignature.length = 8 := rfl
        omega
    · rw [if_neg (not_or.2 ⟨hsmall, not_not.2 hsignature⟩)]
      exact hwalk.trans hreads
  · unfold isStaticPng
    rw [if_pos (.inr hsignature)]
    constructor
    · intro h
      cases h
    · rintro ⟨cs, hcs⟩
      have hrest : Reader.rest ⟨b, 0⟩ = pngSignature ++ cs.flatMap PngChunk.encode := hcs.tiles
      exact absurd (congrArg Prod.fst (Reader.read_append hrest)) hsignature

/-- No reading of a static PNG meets an animation chunk. -/
theorem StaticPng.not_animated {b : Bytes} {cs : List PngChunk} (h : StaticPng b cs) :
    ¬ AnimatedPng b := by
  rintro ⟨ds, more, hb, d, hd, hkind⟩
  rw [h.tiles, List.append_assoc] at hb
  have hcode := (List.append_cancel_left hb).symm
  obtain ⟨es, hcs, -⟩ := PngChunk.encode_prefixFree.flatMap_prefix PngChunk.encode_ne_nil hcode
  exact h.still d (hcs ▸ List.mem_append_left es hd) hkind

end MediaSync.Media
