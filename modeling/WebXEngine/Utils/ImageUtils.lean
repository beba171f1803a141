import Mathlib.Algebra.Group.Nat.Defs
import Mathlib.Tactic.Common
import WebXEngine.Foundations.CheckedLoops
import WebXEngine.Utils.Fault

/-! # Pixel loops

The loops over the pixels of an image are unrolled: blocks of 16 pixels, of which each step handles
four, and then the pixels that remain, one by one.

* **`webxCountTransparentPixels`**, **`webxConvertToAlpha`** — the two functions of the source.
* **`pixelLoops_eq_plain`** — they do what a loop over single pixels does, in bounds. -/

namespace WebXEngine

/-! ## Pixels -/

/-- The bits of the transparency of a pixel. -/
def alphaMask : UInt32 := 0xFF000000

/-- A pixel that is not opaque. -/
def isTransparent (pixel : UInt32) : Bool := pixel &&& alphaMask != alphaMask

/-- A pixel that is read. -/
def readPixel (data : List UInt32) (position : ℕ) : Except Fault UInt32 :=
  match data[position]? with
  | some pixel => pure pixel
  | none => throw .outOfBounds

/-- A pixel that is written. -/
def writePixel (data : List UInt32) (position : ℕ) (pixel : UInt32) :
    Except Fault (List UInt32) :=
  if position < data.length then pure (data.set position pixel) else throw .outOfBounds

/-- The pixels that a block handles. -/
def pixelsAtOnce : UInt64 := 16

/-- The steps of a block. -/
def unroll : ℕ := 4

/-! ## Transparent pixels -/

/-- The variables of the loop that counts. -/
structure PixelCount where
  current : ℕ
  alphaCount : Int32
  exit : Bool
  deriving DecidableEq, Repr

namespace PixelCount

variable (data : List UInt32) (exitOnFound : Bool)

/-- One pixel. -/
def countPixel (count : PixelCount) : Except Fault PixelCount := do
  let value ← readPixel data count.current
  let alphaCount := count.alphaCount + (if isTransparent value then 1 else 0)
  return {
    current := count.current + 1
    alphaCount := alphaCount
    exit := alphaCount > 0 && exitOnFound }

/-- Four pixels. -/
def countFour (count : PixelCount) : Except Fault PixelCount := do
  let one ← readPixel data count.current
  let two ← readPixel data (count.current + 1)
  let three ← readPixel data (count.current + 2)
  let four ← readPixel data (count.current + 3)
  let alphaCount := count.alphaCount + (if isTransparent one then 1 else 0)
  let alphaCount := alphaCount + (if isTransparent two then 1 else 0)
  let alphaCount := alphaCount + (if isTransparent three then 1 else 0)
  let alphaCount := alphaCount + (if isTransparent four then 1 else 0)
  return {
    current := count.current + 4
    alphaCount := alphaCount
    exit := alphaCount > 0 && exitOnFound }

end PixelCount

/-- The number of pixels that are not opaque; a positive number for some if it exits on the first. -/
def webxCountTransparentPixels (data : List UInt32) (length : UInt64) (exitOnFound : Bool) :
    Except Fault Int32 := do
  let (remaining, count) ← countDown pixelsAtOnce PixelCount.exit
    (repeatStep (PixelCount.countFour data exitOnFound) unroll)
    length { current := 0, alphaCount := 0, exit := false }
  -- the counter is decremented once more when the loop ends, and is not read again
  let (_, count) ← countDown 1 PixelCount.exit (PixelCount.countPixel data exitOnFound)
    remaining count
  return count.alphaCount

/-! ## The transparency only -/

/-- The variables of the loop that converts, with the image. -/
structure AlphaConversion where
  src : ℕ
  dst : ℕ
  data : List UInt32
  deriving DecidableEq, Repr

namespace AlphaConversion

/-- One pixel. -/
def convertPixel (conversion : AlphaConversion) : Except Fault AlphaConversion := do
  let pixel ← readPixel conversion.data conversion.src
  let data ← writePixel conversion.data conversion.dst (pixel &&& alphaMask)
  return { src := conversion.src + 1, dst := conversion.dst + 1, data := data }

/-- Four pixels. -/
def convertFour (conversion : AlphaConversion) : Except Fault AlphaConversion := do
  let conversion ← convertPixel conversion
  let conversion ← convertPixel conversion
  let conversion ← convertPixel conversion
  convertPixel conversion

end AlphaConversion

/-- The image with the transparency of its pixels only. -/
def webxConvertToAlpha (data : List UInt32) (length : UInt64) : Except Fault (List UInt32) := do
  let (remaining, conversion) ← countDown pixelsAtOnce (fun _ => false)
    (repeatStep AlphaConversion.convertFour unroll) length { src := 0, dst := 0, data := data }
  let (_, conversion) ← countDown 1 (fun _ => false) AlphaConversion.convertPixel
    remaining conversion
  return conversion.data

/-! ## Blocks -/

/-- A pixel of the data is read. -/
theorem readPixel_eq {data : List UInt32} {position : ℕ} {pixel : UInt32}
    (h : data[position]? = some pixel) : readPixel data position = .ok pixel := by
  rw [readPixel, h]
  rfl

/-- A pixel of the data is written. -/
theorem writePixel_eq {data : List UInt32} {position : ℕ} (h : position < data.length)
    (pixel : UInt32) : writePixel data position pixel = .ok (data.set position pixel) :=
  if_pos h

/-- The colours of a pixel are cleared. -/
theorem AlphaConversion.convertPixel_eq {conversion : AlphaConversion} {pixel : UInt32}
    (hpixel : conversion.data[conversion.src]? = some pixel)
    (hdst : conversion.dst < conversion.data.length) :
    convertPixel conversion = .ok {
      src := conversion.src + 1
      dst := conversion.dst + 1
      data := conversion.data.set conversion.dst (pixel &&& alphaMask) } := by
  rw [convertPixel, readPixel_eq hpixel]
  change writePixel _ _ _ >>= _ = _
  rw [writePixel_eq hdst]
  rfl

/-- Four pixels at once are four times one pixel. -/
theorem PixelCount.countFour_eq (data : List UInt32) (exitOnFound : Bool) :
    countFour data exitOnFound = repeatStep (countPixel data exitOnFound) 4 := by
  funext count
  simp only [repeatStep, countPixel, countFour, bind_assoc, pure_bind, bind_pure, Nat.add_assoc,
    Nat.reduceAdd]

/-- Four pixels at once are four times one pixel. -/
theorem AlphaConversion.convertFour_eq : convertFour = repeatStep convertPixel 4 := by
  funext conversion
  simp only [repeatStep, convertFour, bind_pure]

/-- A loop over pixels, in blocks and then one by one: it succeeds, and ends at the last pixel unless
it was stopped. -/
theorem exists_pixelLoop {σ : Type} {step : σ → Except Fault σ} {Inv : ℕ → σ → Prop}
    (length : UInt64) (stop : σ → Bool) {s : σ}
    (hstep : ∀ i < length.toNat, ∀ s, Inv i s → ∃ s', step s = .ok s' ∧ Inv (i + 1) s')
    (h : Inv 0 s) :
    ∃ (remaining rest : UInt64) (middle s' : σ) (last : ℕ),
      countDown pixelsAtOnce stop (repeatStep (repeatStep step 4) unroll) length s =
        .ok (remaining, middle) ∧
      countDown 1 stop step remaining middle = .ok (rest, s') ∧
      last ≤ length.toNat ∧ Inv last s' ∧ (last = length.toNat ∨ stop s' = true) := by
  -- first the blocks of pixels, then the pixels that are left one by one
  obtain ⟨first, remaining, middle, hblocks, hmiddle, hinv, -⟩ :=
    exists_countDown pixelsAtOnce (by decide) stop hstep (Nat.zero_add _) h
  obtain ⟨last, rest, s', hsingle, hlast, hinv, hend⟩ :=
    exists_countDown 1 (by decide) stop hstep hmiddle hinv
  refine ⟨remaining, rest, middle, s', last, ?_, ?_, by omega, hinv, ?_⟩
  · rw [funext (repeatStep_mul step 4 unroll)]
    exact hblocks
  · rwa [show UInt64.toNat 1 = 1 from rfl, repeatStep_one] at hsingle
  · refine hend.imp_left fun hlt => ?_
    have hzero : rest.toNat < 1 := hlt
    omega

/-! ## What the loops do -/

/-- The state of the loop that counts, when it has read a number of pixels. -/
structure Counted (data : List UInt32) (exitOnFound : Bool) (read : ℕ) (count : PixelCount) :
    Prop where
  current : count.current = read
  alphaCount : count.alphaCount.toInt = (data.take read).countP isTransparent
  exit : count.exit = (decide (count.alphaCount > 0) && exitOnFound)

/-- **One more pixel is counted.** -/
theorem Counted.step {data : List UInt32} {exitOnFound : Bool} {read : ℕ} {count : PixelCount}
    (h : Counted data exitOnFound read count) (hread : read < data.length)
    (hsmall : data.length < 2 ^ 31) :
    ∃ next, PixelCount.countPixel data exitOnFound count = .ok next ∧
      Counted data exitOnFound (read + 1) next := by
  obtain ⟨current, alphaCount, exit⟩ := count
  obtain ⟨rfl, hcount, -⟩ := h
  dsimp only at hcount hread
  have hpixel := List.getElem?_eq_getElem hread
  refine ⟨_, by rw [PixelCount.countPixel, readPixel_eq hpixel]; rfl, rfl, ?_, rfl⟩
  -- the count is at most the number of pixels, so that it does not overflow
  have hle : (data.take current).countP isTransparent ≤ current :=
    Nat.le_trans List.countP_le_length (List.length_take_le _ _)
  have hbit : (if isTransparent data[current] then 1 else 0 : Int32).toInt =
      (if isTransparent data[current] then 1 else 0 : ℕ) := by
    split_ifs <;> rfl
  have hbitLe : (if isTransparent data[current] then 1 else 0 : ℕ) ≤ 1 := by
    split_ifs <;> decide
  change (alphaCount + _).toInt = _
  rw [List.take_succ_eq_append_getElem hread, List.countP_append, List.countP_singleton,
    Int32.toInt_add, hcount, hbit, Int.bmod_eq_of_le (by omega) (by omega), Int.natCast_add]

/-- The state of the loop that converts, when it has converted a number of pixels. -/
structure Converted (data : List UInt32) (read : ℕ) (conversion : AlphaConversion) : Prop where
  src : conversion.src = read
  dst : conversion.dst = read
  data : conversion.data = (data.take read).map (· &&& alphaMask) ++ data.drop read

/-- **One more pixel is converted.** -/
theorem Converted.step {data : List UInt32} {read : ℕ} {conversion : AlphaConversion}
    (h : Converted data read conversion) (hread : read < data.length) :
    ∃ next, AlphaConversion.convertPixel conversion = .ok next ∧ Converted data (read + 1) next := by
  have hlength : ((data.take read).map (· &&& alphaMask)).length = read := by
    rw [List.length_map, List.length_take_of_le (Nat.le_of_lt hread)]
  -- the pixels that are converted, then the next one, then those that are left
  have hdata : conversion.data =
      (data.take read).map (· &&& alphaMask) ++ data[read] :: data.drop (read + 1) := by
    rw [h.data, List.drop_eq_getElem_cons hread]
  have hpixel : conversion.data[conversion.src]? = some data[read] := by
    rw [hdata, h.src, List.getElem?_append_right (Nat.le_of_eq hlength), hlength, Nat.sub_self]
    rfl
  have hdst : conversion.dst < conversion.data.length := by
    rw [hdata, h.dst, List.length_append, hlength, List.length_cons]
    omega
  refine ⟨_, AlphaConversion.convertPixel_eq hpixel hdst, congrArg (· + 1) h.src,
    congrArg (· + 1) h.dst, ?_⟩
  change conversion.data.set conversion.dst _ = _
  rw [hdata, h.dst, List.set_append_right _ _ (Nat.le_of_eq hlength), hlength, Nat.sub_self,
    List.set_cons_zero, List.take_succ_eq_append_getElem hread, List.map_append, List.append_assoc]
  rfl

/-- The transparency is the first byte of a pixel. -/
theorem toNat_and_alphaMask (pixel : UInt32) :
    (pixel &&& alphaMask).toNat = (pixel >>> 24).toNat <<< 24 := by
  have hmask : alphaMask.toNat = (2 ^ 8 - 1) <<< 24 := by decide
  have hlt := pixel.toNat_lt
  change (pixel &&& alphaMask).toNat = (pixel.toNat >>> 24) <<< 24
  refine Nat.eq_of_testBit_eq fun i => ?_
  rw [UInt32.toNat_and, hmask, Nat.testBit_and, Nat.testBit_shiftLeft, Nat.testBit_shiftLeft,
    Nat.testBit_shiftRight, Nat.testBit_two_pow_sub_one]
  by_cases hlow : 24 ≤ i
  · rw [decide_eq_true hlow, Bool.true_and, Bool.true_and, Nat.add_sub_cancel' hlow]
    by_cases hhigh : i - 24 < 8
    · rw [decide_eq_true hhigh, Bool.and_true]
    · have hzero : pixel.toNat.testBit i = false := Nat.testBit_lt_two_pow
        (Nat.lt_of_lt_of_le hlt (Nat.pow_le_pow_right (by decide) (by omega)))
      rw [hzero, Bool.false_and]
  · rw [decide_eq_false hlow, Bool.false_and, Bool.false_and, Bool.and_false]

/-- A pixel is transparent when its first byte is not 255. -/
theorem isTransparent_iff (pixel : UInt32) : isTransparent pixel = true ↔ pixel >>> 24 ≠ 0xFF := by
  have hmask : alphaMask.toNat = 255 * 2 ^ 24 := rfl
  have hbyte : (0xFF : UInt32).toNat = 255 := rfl
  rw [isTransparent, bne_iff_ne, not_iff_not, ← UInt32.toNat_inj, ← UInt32.toNat_inj,
    toNat_and_alphaMask, Nat.shiftLeft_eq, hmask, hbyte]
  omega

/-- **The count** is the number of transparent pixels; with an exit on the first of them, it is
positive when there is one. -/
theorem webxCountTransparentPixels_eq {data : List UInt32} {length : UInt64}
    (hlength : length.toNat = data.length) (hsmall : data.length < 2 ^ 31) (exitOnFound : Bool) :
    ∃ count, webxCountTransparentPixels data length exitOnFound = .ok count ∧
      (exitOnFound = false → count.toInt = data.countP isTransparent) ∧
      (0 < count.toInt ↔ ∃ pixel ∈ data, isTransparent pixel = true) := by
  have hstart : Counted data exitOnFound 0 { current := 0, alphaCount := 0, exit := false } :=
    ⟨rfl, rfl, rfl⟩
  obtain ⟨remaining, rest, middle, count, last, hblocks, hsingle, hlast, hcounted, hend⟩ :=
    exists_pixelLoop length PixelCount.exit
      (fun i hi count hinv => hinv.step (hlength ▸ hi) hsmall) hstart
  have hmem : 0 < count.alphaCount.toInt ↔ ∃ pixel ∈ data.take last, isTransparent pixel = true := by
    rw [hcounted.alphaCount, Int.natCast_pos, List.countP_pos_iff]
  refine ⟨count.alphaCount, ?_, ?_, ?_⟩
  · rw [webxCountTransparentPixels, PixelCount.countFour_eq, hblocks]
    change countDown 1 _ _ remaining middle >>= _ = _
    rw [hsingle]
    rfl
  · rintro rfl
    have hall : last = data.length := hlength ▸ hend.resolve_right (by
      rw [hcounted.exit, Bool.and_false]
      exact Bool.false_ne_true)
    rw [hcounted.alphaCount, hall, List.take_length]
  · rcases hend with hall | hexit
    · rw [hmem, hall, hlength, List.take_length]
    · -- the loop was stopped, and so one of the pixels that were read is transparent
      rw [hcounted.exit, Bool.and_eq_true, decide_eq_true_eq, gt_iff_lt,
        Int32.lt_iff_toInt_lt] at hexit
      obtain ⟨pixel, hpixel, htransparent⟩ := hmem.mp hexit.1
      exact iff_of_true hexit.1 ⟨pixel, List.mem_of_mem_take hpixel, htransparent⟩

/-- **The conversion** masks each pixel. -/
theorem webxConvertToAlpha_eq {data : List UInt32} {length : UInt64}
    (hlength : length.toNat = data.length) :
    webxConvertToAlpha data length = .ok (data.map (· &&& alphaMask)) := by
  have hstart : Converted data 0 { src := 0, dst := 0, data := data } := ⟨rfl, rfl, rfl⟩
  obtain ⟨remaining, rest, middle, conversion, last, hblocks, hsingle, -, hconverted, hend⟩ :=
    exists_pixelLoop length (fun _ => false)
      (fun i hi conversion hinv => hinv.step (hlength ▸ hi)) hstart
  have hall : last = data.length := hlength ▸ hend.resolve_right Bool.false_ne_true
  have hdata : conversion.data = data.map (· &&& alphaMask) := by
    rw [hconverted.data, hall, List.take_length, List.drop_length, List.append_nil]
  rw [webxConvertToAlpha, AlphaConversion.convertFour_eq, hblocks]
  change countDown 1 _ _ remaining middle >>= _ = _
  rw [hsingle]
  exact congrArg Except.ok hdata

/-- **The loops over pixels do what the plain loops do**, for every image: the count is the number of
pixels whose first byte is not 255, it is positive with an exit on the first when there is such a
pixel, and the conversion masks each pixel. No position outside the image is used. -/
theorem pixelLoops_eq_plain (data : List UInt32) (length : UInt64)
    (hlength : length.toNat = data.length) (hsmall : data.length < 2 ^ 31) :
    (∃ count, webxCountTransparentPixels data length false = .ok count ∧
      count.toInt = data.countP (fun pixel : UInt32 => pixel >>> 24 ≠ 0xFF)) ∧
    (∃ count, webxCountTransparentPixels data length true = .ok count ∧
      (0 < count.toInt ↔ ∃ pixel ∈ data, pixel >>> 24 ≠ 0xFF)) ∧
    webxConvertToAlpha data length = .ok (data.map (· &&& 0xFF000000)) := by
  have htransparent : isTransparent = fun pixel : UInt32 => decide (pixel >>> 24 ≠ 0xFF) :=
    funext fun pixel => Bool.eq_iff_iff.mpr ((isTransparent_iff pixel).trans decide_eq_true_iff.symm)
  obtain ⟨count, hcount, hnumber, -⟩ := webxCountTransparentPixels_eq hlength hsmall false
  obtain ⟨exiting, hexiting, -, hpositive⟩ := webxCountTransparentPixels_eq hlength hsmall true
  refine ⟨⟨count, hcount, ?_⟩, ⟨exiting, hexiting, ?_⟩, webxConvertToAlpha_eq hlength⟩
  · rw [hnumber rfl, htransparent]
  · rw [hpositive]
    exact exists_congr fun pixel => and_congr_right fun _ => isTransparent_iff pixel

/-- An image of 17 pixels, the last of which is transparent. -/
theorem pixelLoops_eq_plain_seventeen :
    let data : List UInt32 := List.replicate 16 0xFF123456 ++ [0x7F000001]
    (∃ count, webxCountTransparentPixels data 17 false = .ok count ∧ count.toInt = 1) ∧
    (∃ count, webxCountTransparentPixels data 17 true = .ok count ∧ 0 < count.toInt) ∧
    webxConvertToAlpha data 17 = .ok (List.replicate 16 0xFF000000 ++ [0x7F000000]) := by
  intro data
  obtain ⟨⟨count, hcount, hnumber⟩, ⟨exiting, hexiting, hpositive⟩, hconvert⟩ :=
    pixelLoops_eq_plain data 17 (by decide) (by decide)
  exact ⟨⟨count, hcount, hnumber.trans (by decide)⟩,
    ⟨exiting, hexiting, hpositive.mpr ⟨0x7F000001, by decide, by decide⟩⟩,
    hconvert.trans (by decide)⟩

end WebXEngine
