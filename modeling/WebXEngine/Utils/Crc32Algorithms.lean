import WebXEngine.Utils.Crc32Lookup

/-! # The algorithms of CRC32

The library calculates the checksum in nine ways: bit by bit, by half bytes, byte by byte with a table or
by arithmetic, and in rounds of 4, 8, 16, 32 or 64 bytes. The engine uses `crc32_16bytes`.

* **`Consumes`** — a round of the table algorithms is as good as its bytes one after the other.
* **`crc32_16bytes_eq`** — the algorithm of the engine calculates the checksum. -/

namespace WebXEngine

namespace Crc32

open ShiftRegister

/-! ## The definition -/

/-- The register after some data. -/
def addBytes (crc : UInt32) (data : List UInt8) : UInt32 := data.foldl addByte crc

/-- The algorithm of the bits, after previous data. -/
def crc32_bitwise (data : List UInt8) (previousCrc32 : UInt32) : UInt32 :=
  ~~~(addBytes (~~~previousCrc32) data)

/-- One bit leaves the register. -/
theorem toBitVec_shiftBit (crc : UInt32) : (shiftBit crc).toBitVec = shift taps crc.toBitVec := by
  have hmask : (crc &&& 1).toBitVec = (BitVec.ofBool (crc.toBitVec.getLsbD 0)).setWidth 32 := by
    rw [UInt32.toBitVec_and]
    exact BitVec.and_one_eq_setWidth_ofBool_getLsbD
  have hbit : crc &&& 1 = if crc.toBitVec.getLsbD 0 then 1 else 0 := by
    apply UInt32.toBitVec_inj.mp
    rw [hmask]
    cases crc.toBitVec.getLsbD 0 <;> rfl
  unfold shiftBit shift
  rw [hbit]
  cases crc.toBitVec.getLsbD 0 <;> simp [taps, UInt32.toBitVec_shiftRight]

/-- Bits leave the register, one after the other. -/
theorem toBitVec_repeat (n : ℕ) (crc : UInt32) :
    (Nat.repeat shiftBit n crc).toBitVec = shifts taps n crc.toBitVec := by
  induction n with
  | zero => rfl
  | succ n ih =>
      have hlast : shifts taps (n + 1) crc.toBitVec = shift taps (shifts taps n crc.toBitVec) :=
        Function.iterate_succ_apply' (shift taps) n crc.toBitVec
      rw [hlast, ← ih, ← toBitVec_shiftBit]
      rfl

/-- A byte enters the register. -/
theorem toBitVec_addByte (crc : UInt32) (byte : UInt8) :
    (addByte crc byte).toBitVec = feed taps crc.toBitVec byte.toBitVec := by
  rw [addByte, toBitVec_repeat, UInt32.toBitVec_xor]
  rfl

/-- Bytes enter the register, one after the other. -/
theorem toBitVec_addBytes (crc : UInt32) (data : List UInt8) :
    (addBytes crc data).toBitVec = feedAll taps crc.toBitVec (data.map UInt8.toBitVec) := by
  induction data generalizing crc with
  | nil => rfl
  | cons byte data ih =>
      rw [List.map_cons, feedAll_cons, ← toBitVec_addByte]
      exact ih (addByte crc byte)

/-- Data are added after other data. -/
theorem addBytes_append (crc : UInt32) (data data' : List UInt8) :
    addBytes crc (data ++ data') = addBytes (addBytes crc data) data' := List.foldl_append

/-! ## Bytes of a word -/

/-- A byte of a word is an index of the tables. -/
theorem lookup_and_255 {slice : ℕ} (h : slice < 16) (x : UInt32) :
    (lookup slice (x &&& 0xFF)).toBitVec =
      shifts taps (8 * (slice + 1)) (low 8 x.toBitVec) := by
  have hbyte : x &&& 0xFF = x.toUInt8.toUInt32 := by
    apply UInt32.toNat_inj.mp
    rw [UInt32.toNat_and, UInt8.toNat_toUInt32, UInt32.toNat_toUInt8]
    exact Nat.and_two_pow_sub_one_eq_mod x.toNat 8
  rw [hbyte, toBitVec_lookup h]
  rfl

/-- The index of the byte that leaves the register. -/
theorem xor_and_255 (crc : UInt32) (byte : UInt8) :
    (crc ^^^ byte.toUInt32) &&& 0xFF = (crc.toUInt8 ^^^ byte).toUInt32 := by
  apply UInt32.toNat_inj.mp
  have hbyte : byte.toNat &&& 255 = byte.toNat :=
    (Nat.and_two_pow_sub_one_eq_mod byte.toNat 8).trans (Nat.mod_eq_of_lt byte.toNat_lt)
  have hcrc : crc.toNat &&& 255 = crc.toNat % 256 := Nat.and_two_pow_sub_one_eq_mod crc.toNat 8
  rw [UInt32.toNat_and, UInt32.toNat_xor, UInt8.toNat_toUInt32, UInt8.toNat_toUInt32, UInt8.toNat_xor,
    UInt32.toNat_toUInt8, Nat.and_xor_distrib_right]
  exact congrArg₂ (· ^^^ ·) hcrc hbyte

/-- The index of the byte that leaves the register, as the tables are asked for it. -/
theorem and_255_xor (crc : UInt32) (byte : UInt8) :
    (crc &&& 0xFF) ^^^ byte.toUInt32 = (crc.toUInt8 ^^^ byte).toUInt32 := by
  apply UInt32.toNat_inj.mp
  rw [UInt32.toNat_xor, UInt32.toNat_and, UInt8.toNat_toUInt32, UInt8.toNat_toUInt32,
    UInt8.toNat_xor, UInt32.toNat_toUInt8]
  exact congrArg (· ^^^ byte.toNat) (Nat.and_two_pow_sub_one_eq_mod crc.toNat 8)

/-! ## One byte at a time -/

/-- One round of the algorithm of single bytes. -/
def addByteLookup (crc : UInt32) (byte : UInt8) : UInt32 :=
  (crc >>> 8) ^^^ lookup 0 ((crc &&& 0xFF) ^^^ byte.toUInt32)

/-- The places above a byte are empty. -/
theorem setWidth_ushiftRight (byte : UInt8) {n : ℕ} (h : 8 ≤ n) :
    byte.toBitVec.setWidth 32 >>> n = 0#32 := by
  apply BitVec.eq_of_getLsbD_eq
  intro i _
  rw [BitVec.getLsbD_ushiftRight, BitVec.getLsbD_setWidth,
    BitVec.getLsbD_of_ge byte.toBitVec (n + i) (by omega), Bool.and_false, BitVec.getLsbD_zero]

/-- **A table gives what the bits of a byte give.** -/
theorem addByteLookup_eq (crc : UInt32) (byte : UInt8) :
    addByteLookup crc byte = addByte crc byte := by
  apply UInt32.toBitVec_inj.mp
  rw [toBitVec_addByte, feed, shifts_eq_low, BitVec.ushiftRight_xor_distrib,
    setWidth_ushiftRight byte (Nat.le_refl 8), BitVec.xor_zero, addByteLookup, and_255_xor,
    ← xor_and_255, UInt32.toBitVec_xor, lookup_and_255 (by decide), BitVec.xor_comm]
  rfl

/-! ## Half a byte at a time -/

/-- The word that a little-endian machine reads from the data at some place. -/
def readWord (data : List UInt8) (place : ℕ) : UInt32 :=
  let byte (i : ℕ) : UInt32 := (data.getD (place + i) 0).toUInt32
  byte 0 ||| (byte 1 <<< 8) ||| (byte 2 <<< 16) ||| (byte 3 <<< 24)

/-- The entries of a word in four slices. -/
def sliceWord (slice : ℕ) (one : UInt32) : UInt32 :=
  lookup slice ((one >>> 24) &&& 0xFF) ^^^ lookup (slice + 1) ((one >>> 16) &&& 0xFF) ^^^
    lookup (slice + 2) ((one >>> 8) &&& 0xFF) ^^^ lookup (slice + 3) (one &&& 0xFF)

/-- The bytes of a word of the data. -/
def wordBytes (data : List UInt8) (place : ℕ) : List (BitVec 8) :=
  (List.range 4).map fun i => (data.getD (place + i) 0).toBitVec

/-- A word of the data is that of its bytes. -/
theorem toBitVec_readWord (data : List UInt8) (place : ℕ) :
    (readWord data place).toBitVec = word 32 (wordBytes data place) := by
  have h8 (x : UInt32) : (x <<< 8).toBitVec = x.toBitVec <<< 8 := rfl
  have h16 (x : UInt32) : (x <<< 16).toBitVec = x.toBitVec <<< (8 + 8) := rfl
  have h24 (x : UInt32) : (x <<< 24).toBitVec = x.toBitVec <<< (8 + 8 + 8) := rfl
  simp only [readWord, wordBytes, List.range, List.range.loop, List.map, word_cons_eq_or, word_nil,
    UInt32.toBitVec_or, h8, h16, h24, UInt8.toBitVec_toUInt32, BitVec.shiftLeft_or_distrib,
    BitVec.shiftLeft_add, BitVec.zero_shiftLeft, BitVec.or_zero, BitVec.or_assoc]

/-- The next bytes of the data are a word. -/
theorem take_wordBytes {data : List UInt8} {place n : ℕ} (h : place + 4 ≤ data.length) :
    ((data.drop place).take (n + 4)).map UInt8.toBitVec =
      wordBytes data place ++ ((data.drop (place + 4)).take n).map UInt8.toBitVec := by
  have hget (i : ℕ) (hi : i < 4) : (data.drop place)[i]? = some (data.getD (place + i) 0) := by
    rw [List.getElem?_drop, List.getD_eq_getElem?_getD, List.getElem?_eq_getElem (by omega)]
    rfl
  have hfour : (data.drop place).take 4 = (List.range 4).map fun i => data.getD (place + i) 0 := by
    apply List.ext_getElem?
    intro i
    by_cases hi : i < 4
    · rw [List.getElem?_take_of_lt hi, hget i hi, List.getElem?_map, List.getElem?_range hi]
      rfl
    · rw [List.getElem?_take_eq_none (by omega), List.getElem?_eq_none (by simp; omega)]
  rw [Nat.add_comm n 4, List.take_add, List.drop_drop, List.map_append, hfour, wordBytes,
    List.map_map]
  rfl

/-- A word enters the register: its entries, and what comes after it. -/
theorem feedAll_word {c : BitVec 32} {bytes rest : List (BitVec 8)} {one : UInt32}
    (hone : one.toBitVec = c ^^^ word 32 bytes) (hlen : bytes.length = 4) (hrest : rest.length ≤ 12) :
    feedAll taps c (bytes ++ rest) =
      (sliceWord rest.length one).toBitVec ^^^ feedAll taps 0#32 rest := by
  have h8 (x : UInt32) : (x >>> 8).toBitVec = x.toBitVec >>> 8 := rfl
  have h16 (x : UInt32) : (x >>> 16).toBitVec = x.toBitVec >>> (8 + 8) := rfl
  have h24 (x : UInt32) : (x >>> 24).toBitVec = x.toBitVec >>> (8 + 8 + 8) := rfl
  rw [feedAll_append_eq_zero taps c bytes rest (by omega), hlen, ← hone]
  simp only [symbols, List.cons_append, List.nil_append, feedAll_zero_cons, List.length_cons,
    sliceWord, UInt32.toBitVec_xor, lookup_and_255 (show rest.length < 16 by omega),
    lookup_and_255 (show rest.length + 1 < 16 by omega),
    lookup_and_255 (show rest.length + 2 < 16 by omega),
    lookup_and_255 (show rest.length + 3 < 16 by omega), h8, h16, h24, low, Nat.add_assoc, Nat.reduceAdd]
  ac_rfl

/-! ## Rounds -/

/-- A round takes some bytes of the data, and is as good as these bytes one after the other. -/
def Consumes (round : UInt32 → List UInt8 → UInt32) (bytes : ℕ) : Prop :=
  ∀ crc data, bytes ≤ data.length → round crc data = addBytes crc (data.take bytes)

/-- A round of sixteen bytes. -/
def round16 (crc : UInt32) (data : List UInt8) : UInt32 :=
  let one := readWord data 0 ^^^ crc
  let two := readWord data 4
  let three := readWord data 8
  let four := readWord data 12
  sliceWord 0 four ^^^ sliceWord 4 three ^^^ sliceWord 8 two ^^^ sliceWord 12 one

/-- Rounds one after the other. -/
def unroll (round : UInt32 → List UInt8 → UInt32) (bytes : ℕ) : ℕ → UInt32 → List UInt8 → UInt32
  | 0, crc, _ => crc
  | n + 1, crc, data => unroll round bytes n (round crc data) (data.drop bytes)

/-- The loop of the rounds, as long as there are enough bytes and some more to fetch ahead; then the
bytes that remain. -/
def sliceLoop (round : UInt32 → List UInt8 → UInt32) (bytesAtOnce prefetchAhead : ℕ) (crc : UInt32)
    (data : List UInt8) : UInt32 :=
  if 0 < bytesAtOnce ∧ bytesAtOnce + prefetchAhead ≤ data.length then
    sliceLoop round bytesAtOnce prefetchAhead (round crc data) (data.drop bytesAtOnce)
  else data.foldl addByteLookup crc
termination_by data.length
decreasing_by simp only [List.length_drop]; omega

/-- A word of the data enters the register. -/
theorem addBytes_word (crc : UInt32) (data : List UInt8) (place n : ℕ) (hn : n ≤ 12)
    (h : place + (n + 4) ≤ data.length) :
    addBytes crc ((data.drop place).take (n + 4)) =
      sliceWord n (readWord data place ^^^ crc) ^^^ addBytes 0 ((data.drop (place + 4)).take n) := by
  have hrest : (((data.drop (place + 4)).take n).map UInt8.toBitVec).length = n := by
    rw [List.length_map, List.length_take, List.length_drop]
    omega
  have hone : (readWord data place ^^^ crc).toBitVec =
      crc.toBitVec ^^^ word 32 (wordBytes data place) := by
    rw [UInt32.toBitVec_xor, toBitVec_readWord, BitVec.xor_comm]
  apply UInt32.toBitVec_inj.mp
  rw [toBitVec_addBytes, take_wordBytes (by omega), feedAll_word hone rfl (by omega), hrest,
    UInt32.toBitVec_xor, toBitVec_addBytes]
  rfl

/-- A round with sixteen slices of the tables. -/
theorem consumes_round16 : Consumes round16 16 := by
  intro crc data h
  have hone : addBytes crc (data.take 16) =
      sliceWord 12 (readWord data 0 ^^^ crc) ^^^ addBytes 0 ((data.drop 4).take 12) :=
    addBytes_word crc data 0 12 (by decide) (by omega)
  have htwo : addBytes 0 ((data.drop 4).take 12) =
      sliceWord 8 (readWord data 4 ^^^ 0) ^^^ addBytes 0 ((data.drop 8).take 8) :=
    addBytes_word 0 data 4 8 (by decide) (by omega)
  have hthree : addBytes 0 ((data.drop 8).take 8) =
      sliceWord 4 (readWord data 8 ^^^ 0) ^^^ addBytes 0 ((data.drop 12).take 4) :=
    addBytes_word 0 data 8 4 (by decide) (by omega)
  have hfour : addBytes 0 ((data.drop 12).take 4) =
      sliceWord 0 (readWord data 12 ^^^ 0) ^^^ addBytes 0 [] :=
    addBytes_word 0 data 12 0 (by decide) (by omega)
  rw [hone, htwo, hthree, hfour]
  simp only [round16, addBytes, List.foldl_nil, UInt32.xor_zero]
  ac_rfl

/-- Rounds that are unrolled. -/
theorem Consumes.unroll {round : UInt32 → List UInt8 → UInt32} {bytes : ℕ} (h : Consumes round bytes)
    (n : ℕ) : Consumes (unroll round bytes n) (bytes * n) := by
  induction n with
  | zero => intro crc data _; rfl
  | succ n ih =>
      intro crc data hlen
      rw [Nat.mul_succ] at hlen
      rw [Crc32.unroll, ih _ _ (by rw [List.length_drop]; omega), h crc data (by omega),
        ← addBytes_append, Nat.mul_succ, Nat.add_comm, List.take_add]

/-- A loop over the bytes, with rounds that are right. -/
theorem foldl_eq_addBytes {round : UInt32 → UInt8 → UInt32}
    (h : ∀ crc byte, round crc byte = addByte crc byte) (crc : UInt32) (data : List UInt8) :
    data.foldl round crc = addBytes crc data := by
  rw [addBytes, show round = addByte from funext₂ h]

/-- **The loop of the rounds is the loop of the bytes.** -/
theorem sliceLoop_eq {round : UInt32 → List UInt8 → UInt32} {bytesAtOnce : ℕ}
    (h : Consumes round bytesAtOnce) (prefetchAhead : ℕ) (crc : UInt32) (data : List UInt8) :
    sliceLoop round bytesAtOnce prefetchAhead crc data = addBytes crc data := by
  fun_induction sliceLoop round bytesAtOnce prefetchAhead crc data with
  | case1 crc data hmore ih =>
      rw [ih, h crc data (by omega), ← addBytes_append, List.take_append_drop]
  | case2 crc data _ => exact foldl_eq_addBytes addByteLookup_eq crc data

/-! ## The functions of the library -/

/-- The checksum, from the register that a loop leaves. -/
def finish (loop : UInt32 → List UInt8 → UInt32) (data : List UInt8) (previousCrc32 : UInt32) : UInt32 :=
  ~~~(loop (~~~previousCrc32) data)

/-- By four times sixteen bytes. -/
def crc32_16bytes : List UInt8 → UInt32 → UInt32 := finish (sliceLoop (unroll round16 16 4) (16 * 4) 0)

/-- A loop that adds the bytes gives the checksum of the bits. -/
theorem finish_eq {loop : UInt32 → List UInt8 → UInt32} (h : ∀ crc data, loop crc data = addBytes crc data)
    (data : List UInt8) (previousCrc32 : UInt32) :
    finish loop data previousCrc32 = crc32_bitwise data previousCrc32 := by
  rw [finish, h, crc32_bitwise]

/-- **The algorithm of the engine calculates the checksum.** -/
theorem crc32_16bytes_eq (data : List UInt8) (previousCrc32 : UInt32) :
    crc32_16bytes data previousCrc32 = crc32_bitwise data previousCrc32 :=
  finish_eq (sliceLoop_eq (consumes_round16.unroll 4) 0) data previousCrc32

/-- The checksum of some data is that of its last part, after the checksum of the others. -/
theorem crc32_16bytes_append (data data' : List UInt8) (previousCrc32 : UInt32) :
    crc32_16bytes (data ++ data') previousCrc32 =
      crc32_16bytes data' (crc32_16bytes data previousCrc32) := by
  rw [crc32_16bytes_eq, crc32_16bytes_eq, crc32_16bytes_eq, crc32_bitwise, crc32_bitwise,
    crc32_bitwise, UInt32.not_not, addBytes_append]

/-- The bits of some data, the lowest bit of a byte being the first one. -/
def dataBits (data : List UInt8) : List (BitVec 1) :=
  (data.map UInt8.toBitVec).flatMap (symbols 1 8)

/-- The bits enter the register one after the other. -/
theorem toBitVec_addBytes_bits (crc : UInt32) (data : List UInt8) :
    (addBytes crc data).toBitVec = feedAll taps crc.toBitVec (dataBits data) := by
  rw [toBitVec_addBytes, dataBits]
  exact feedAll_eq_feedAll_symbols taps (show 8 = 1 * 8 from rfl) (by decide) crc.toBitVec _

/-- The checksums are different when the registers are. -/
theorem crc32_16bytes_ne_iff (data data' : List UInt8) (previousCrc32 : UInt32) :
    crc32_16bytes data previousCrc32 ≠ crc32_16bytes data' previousCrc32 ↔
      (addBytes (~~~previousCrc32) data).toBitVec ≠ (addBytes (~~~previousCrc32) data').toBitVec := by
  rw [crc32_16bytes_eq, crc32_16bytes_eq, crc32_bitwise, crc32_bitwise, Ne, UInt32.not_inj, Ne,
    UInt32.toBitVec_inj]

/-- **A burst is noticed**: data that differ within 32 bits only, wherever these are, have different
checksums. -/
theorem crc32_16bytes_ne_of_burst (data data' : List UInt8) (previousCrc32 : UInt32)
    {before burst burst' after : List (BitVec 1)} (h : dataBits data = before ++ burst ++ after)
    (h' : dataBits data' = before ++ burst' ++ after) (hlen : burst.length = burst'.length)
    (hfit : burst.length ≤ 32) (hne : burst ≠ burst') :
    crc32_16bytes data previousCrc32 ≠ crc32_16bytes data' previousCrc32 := by
  rw [crc32_16bytes_ne_iff, toBitVec_addBytes_bits, toBitVec_addBytes_bits, h, h']
  exact feedAll_burst_ne taps msb_taps _ before after hlen (by omega) hne

/-- The bits of a byte are inverted. -/
theorem crc32_16bytes_ne_of_burst_invertedByte :
    crc32_16bytes [1, 0x0F, 3] 0 ≠ crc32_16bytes [1, 0xF0, 3] 0 := by
  have hdata : dataBits [1, 0x0F, 3] = dataBits [1] ++ dataBits [0x0F] ++ dataBits [3] := by decide
  have hdata' : dataBits [1, 0xF0, 3] = dataBits [1] ++ dataBits [0xF0] ++ dataBits [3] := by decide
  exact crc32_16bytes_ne_of_burst _ _ 0 hdata hdata' (by decide) (by decide) (by decide)

end Crc32

end WebXEngine
