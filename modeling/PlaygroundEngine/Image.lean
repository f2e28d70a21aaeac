import PlaygroundEngine.Reflection.Enumeration

/-!
# Encoding an image

The guards in front of the PNG encoder compare products that are computed in 64
bits. What they say about the true products, and where they say nothing.
-/

namespace PlaygroundEngine

set_option autoImplicit false

inductive ImageError where
  | encodedDataTooLarge
  | decodeFailed
  | dimensionsTooLarge
  | pixelCountMismatch
  | encodeFailed
  deriving DecidableEq

/-- The pixels are a `std::vector`, whose size is a difference of two pointers. -/
structure Image where
  pixels : Bytes
  width : UInt32 := 0
  height : UInt32 := 0
  pixels_length : pixels.length < 2 ^ 63

def Image.bytesPerPixel : UInt32 := 4

def maximumInt : UInt64 := 2147483647

/-- What `stbi_write_png_to_func` is called with. -/
structure EncoderCall where
  width : Int32
  height : Int32
  components : Int32
  pixels : Bytes
  strideInBytes : Int32

/-- The size the encoder computes for its filter buffer, as the guard computes it. -/
def filterBufferSize (image : Image) : UInt64 :=
  (image.width.toUInt64 * Image.bytesPerPixel.toUInt64 + 1) * image.height.toUInt64

def expectedSize (image : Image) : UInt64 :=
  image.width.toUInt64 * image.height.toUInt64 * Image.bytesPerPixel.toUInt64

def encoderCall (image : Image) : EncoderCall where
  width := image.width.toInt32
  height := image.height.toInt32
  components := Image.bytesPerPixel.toInt32
  pixels := image.pixels
  strideInBytes := (image.width * Image.bytesPerPixel).toInt32

/-- `writePng` is the encoder: the bytes it hands out, or `none` where it fails. Next
to the result stands the call of the encoder, when there is one. -/
def encodeImagePng (writePng : EncoderCall → Option Bytes) (image : Image) :
    Except ImageError Bytes × Option EncoderCall :=
  if filterBufferSize image > maximumInt then (.error .dimensionsTooLarge, none)
  else if UInt64.ofNat image.pixels.length ≠ expectedSize image then
    (.error .pixelCountMismatch, none)
  else if image.width = 0 ∨ image.height = 0 then (.error .encodeFailed, none)
  else
    match writePng (encoderCall image) with
    | none => (.error .encodeFailed, some (encoderCall image))
    | some encodedBytes => (.ok encodedBytes, some (encoderCall image))

theorem filterBufferSize_toNat (image : Image) : (filterBufferSize image).toNat =
    (image.width.toNat * 4 + 1) * image.height.toNat % 2 ^ 64 := by
  have hwidth := image.width.toNat_lt
  have hstride : (image.width.toUInt64 * Image.bytesPerPixel.toUInt64 + 1).toNat =
      image.width.toNat * 4 + 1 := by
    have hfour : Image.bytesPerPixel.toUInt64.toNat = 4 := rfl
    have hone : (1 : UInt64).toNat = 1 := rfl
    rw [UInt64.toNat_add, UInt64.toNat_mul, UInt32.toNat_toUInt64, hfour, hone,
      Nat.mod_eq_of_lt (show image.width.toNat * 4 < 2 ^ 64 by omega)]
    exact Nat.mod_eq_of_lt (by omega)
  rw [filterBufferSize, UInt64.toNat_mul, hstride, UInt32.toNat_toUInt64]

theorem expectedSize_toNat (image : Image) : (expectedSize image).toNat =
    image.width.toNat * image.height.toNat * 4 % 2 ^ 64 := by
  have hfour : Image.bytesPerPixel.toUInt64.toNat = 4 := rfl
  rw [expectedSize, UInt64.toNat_mul, UInt64.toNat_mul, hfour, UInt32.toNat_toUInt64,
    UInt32.toNat_toUInt64, Nat.mod_mul_mod]

/-- What the three guards let through. -/
structure Admitted (image : Image) : Prop where
  filterBuffer : (image.width.toNat * 4 + 1) * image.height.toNat % 2 ^ 64 ≤ 2147483647
  pixels : image.pixels.length = image.width.toNat * image.height.toNat * 4 % 2 ^ 64
  width_pos : 0 < image.width.toNat
  height_pos : 0 < image.height.toNat

theorem length_eq_expectedSize_iff (image : Image) :
    UInt64.ofNat image.pixels.length = expectedSize image ↔
      image.pixels.length = image.width.toNat * image.height.toNat * 4 % 2 ^ 64 := by
  have hlength := image.pixels_length
  rw [← UInt64.toNat_inj, expectedSize_toNat, UInt64.toNat_ofNat',
    Nat.mod_eq_of_lt (show image.pixels.length < 2 ^ 64 by omega)]

theorem filterBufferSize_gt_iff (image : Image) :
    filterBufferSize image > maximumInt ↔
      2147483647 < (image.width.toNat * 4 + 1) * image.height.toNat % 2 ^ 64 := by
  have hmaximum : maximumInt.toNat = 2147483647 := rfl
  rw [gt_iff_lt, UInt64.lt_iff_toNat_lt, filterBufferSize_toNat, hmaximum]

/-- The guards decide alone whether the encoder is called, and with what. -/
theorem encodeImagePng_cases (writePng : EncoderCall → Option Bytes) (image : Image) :
    (Admitted image ∧ (encodeImagePng writePng image).2 = some (encoderCall image)) ∨
      (¬ Admitted image ∧ (encodeImagePng writePng image).2 = none ∧
        ((encodeImagePng writePng image).1 = .error .dimensionsTooLarge ∨
          (encodeImagePng writePng image).1 = .error .pixelCountMismatch ∨
          (encodeImagePng writePng image).1 = .error .encodeFailed)) := by
  unfold encodeImagePng
  split
  · rename_i hlarge
    rw [filterBufferSize_gt_iff] at hlarge
    refine Or.inr ⟨fun h => ?_, rfl, Or.inl rfl⟩
    have hsmall := h.filterBuffer
    omega
  rename_i hlarge
  rw [filterBufferSize_gt_iff, Nat.not_lt] at hlarge
  split
  · rename_i hcount
    rw [ne_eq, length_eq_expectedSize_iff] at hcount
    exact Or.inr ⟨fun h => hcount h.pixels, rfl, Or.inr (Or.inl rfl)⟩
  rename_i hcount
  rw [not_not, length_eq_expectedSize_iff] at hcount
  split
  · rename_i hzero
    refine Or.inr ⟨fun h => ?_, rfl, Or.inr (Or.inr rfl)⟩
    rcases hzero with hzero | hzero
    · exact h.width_pos.ne' (by rw [hzero]; rfl)
    · exact h.height_pos.ne' (by rw [hzero]; rfl)
  rename_i hzero
  rw [not_or, ← UInt32.toNat_inj, ← UInt32.toNat_inj] at hzero
  refine Or.inl ⟨⟨hlarge, hcount, Nat.pos_of_ne_zero hzero.1, Nat.pos_of_ne_zero hzero.2⟩, ?_⟩
  cases writePng (encoderCall image) with
  | none => rfl
  | some _ => rfl

structure EncoderCall.Bounded (call : EncoderCall) (image : Image) : Prop where
  filterBuffer : (image.width.toNat * 4 + 1) * image.height.toNat ≤ 2147483647
  pixels : image.pixels.length = image.width.toNat * image.height.toNat * 4
  width_pos : 0 < image.width.toNat
  height_pos : 0 < image.height.toNat
  width : call.width.toInt = image.width.toNat
  height : call.height.toInt = image.height.toNat
  strideInBytes : call.strideInBytes.toInt = image.width.toNat * 4

/-- The encoder is called within its bounds, or one of the three errors is answered. -/
def EncodesBounded (writePng : EncoderCall → Option Bytes) (image : Image) : Prop :=
  (∀ call, (encodeImagePng writePng image).2 = some call → call.Bounded image) ∧
    ((encodeImagePng writePng image).2 = none →
      (encodeImagePng writePng image).1 = .error .dimensionsTooLarge ∨
        (encodeImagePng writePng image).1 = .error .pixelCountMismatch ∨
        (encodeImagePng writePng image).1 = .error .encodeFailed)

/-- The image has 2^64 bytes more than its buffer, and the buffer is small. -/
def Image.SizeWraps (image : Image) : Prop :=
  image.width.toNat * image.height.toNat * 4 = 2 ^ 64 + image.pixels.length ∧
    image.pixels.length + image.height.toNat ≤ 2147483647

theorem toInt_toInt32 {x : UInt32} (h : x.toNat ≤ 2147483647) : x.toInt32.toInt = x.toNat := by
  change x.toBitVec.toInt = _
  rw [BitVec.toInt_eq_toNat_of_lt]
  · rfl
  · change 2 * x.toNat < 2 ^ 32
    omega

theorem filterBuffer_eq (width height : Nat) :
    (width * 4 + 1) * height = width * height * 4 + height := by
  rw [Nat.add_mul, Nat.one_mul, Nat.mul_right_comm]

/-- Once both products wrap, the height is small, so they wrap exactly once. -/
theorem Admitted.size_cases {image : Image} (h : Admitted image) :
    image.SizeWraps ∨
      (image.pixels.length = image.width.toNat * image.height.toNat * 4 ∧
        (image.width.toNat * 4 + 1) * image.height.toNat ≤ 2147483647) := by
  have hlength := image.pixels_length
  have hwidth := image.width.toNat_lt
  have hheight := image.height.toNat_lt
  have hpixels := h.pixels
  have hfilter := h.filterBuffer
  rw [filterBuffer_eq] at hfilter ⊢
  have hsum : image.pixels.length + image.height.toNat ≤ 2147483647 := by omega
  have hproduct : image.width.toNat * image.height.toNat ≤ 2 ^ 32 * 2147483647 :=
    Nat.mul_le_mul hwidth.le (by omega)
  by_cases hwraps : 2 ^ 64 ≤ image.width.toNat * image.height.toNat * 4
  · exact Or.inl ⟨by omega, hsum⟩
  · exact Or.inr (by omega)

theorem Admitted.bounded {image : Image} (h : Admitted image) (hwraps : ¬ image.SizeWraps) :
    (encoderCall image).Bounded image := by
  obtain ⟨hpixels, hfilter⟩ := h.size_cases.resolve_left hwraps
  have hheight : image.height.toNat ≤ 2147483647 :=
    (Nat.le_mul_of_pos_left _ (Nat.succ_pos _)).trans hfilter
  have hstride : image.width.toNat * 4 + 1 ≤ 2147483647 :=
    (Nat.le_mul_of_pos_right _ h.height_pos).trans hfilter
  have hmul : (image.width * Image.bytesPerPixel).toNat = image.width.toNat * 4 := by
    have hfour : Image.bytesPerPixel.toNat = 4 := rfl
    rw [UInt32.toNat_mul, hfour, Nat.mod_eq_of_lt (by omega)]
  refine ⟨hfilter, hpixels, h.width_pos, h.height_pos, ?_, ?_, ?_⟩
  · exact toInt_toInt32 (by omega)
  · exact toInt_toInt32 hheight
  · have hint := toInt_toInt32 (x := image.width * Image.bytesPerPixel) (by omega)
    rw [hmul] at hint
    exact_mod_cast hint

theorem Image.SizeWraps.admitted {image : Image} (h : image.SizeWraps) : Admitted image := by
  obtain ⟨hproduct, hsum⟩ := h
  have hpos : 0 < image.width.toNat * image.height.toNat := by omega
  refine ⟨?_, by omega, Nat.pos_of_mul_pos_right hpos, Nat.pos_of_mul_pos_left hpos⟩
  rw [filterBuffer_eq, hproduct]
  omega

/-- The guards bound the true sizes of every image but those whose byte count passes
2^64 by exactly the size of their buffer. -/
theorem encodesBounded_iff (writePng : EncoderCall → Option Bytes) (image : Image) :
    EncodesBounded writePng image ↔ ¬ image.SizeWraps := by
  constructor
  · intro hbounded hwraps
    obtain ⟨_, hcall⟩ | ⟨hrefused, _⟩ := encodeImagePng_cases writePng image
    · have hpixels := (hbounded.1 _ hcall).pixels
      have hproduct := hwraps.1
      omega
    · exact hrefused hwraps.admitted
  · intro hwraps
    obtain ⟨hadmitted, hcall⟩ | ⟨_, hnone, herror⟩ := encodeImagePng_cases writePng image
    · refine ⟨?_, fun hnone => absurd (hcall.symm.trans hnone) (Option.some_ne_none _)⟩
      intro call hcall'
      rw [hcall] at hcall'
      cases hcall'
      exact hadmitted.bounded hwraps
    · exact ⟨fun call hcall => absurd (hnone.symm.trans hcall) (Option.some_ne_none _).symm,
        fun _ => herror⟩

/-- 4294901761 by 1073758208 pixels over a buffer of 65536 bytes. -/
def wrappedImage : Image where
  pixels := List.replicate 65536 0
  width := 4294901761
  height := 1073758208
  pixels_length := by
    rw [List.length_replicate]
    omega

/-- The encoder is called for an image of 2^64 + 65536 bytes, with a negative width. -/
theorem encodeImagePng_wrappedImage :
    (encodeImagePng (fun _ => none) wrappedImage).2 = some (encoderCall wrappedImage) ∧
      (encoderCall wrappedImage).width = -65535 ∧
      ¬ EncodesBounded (fun _ => none) wrappedImage := by
  have hlength : wrappedImage.pixels.length = 65536 := List.length_replicate
  have hwraps : wrappedImage.SizeWraps := by
    refine ⟨?_, ?_⟩
    · rw [hlength]
      rfl
    · rw [hlength]
      decide
  obtain ⟨_, hcall⟩ | ⟨hrefused, _⟩ := encodeImagePng_cases (fun _ => none) wrappedImage
  · refine ⟨hcall, by decide, fun hbounded => ?_⟩
    have hpixels := (hbounded.1 _ hcall).pixels
    have hproduct := hwraps.1
    omega
  · exact absurd hwraps.admitted hrefused

end PlaygroundEngine
