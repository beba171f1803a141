import Mathlib.Data.List.Basic
import Mathlib.Data.List.Perm.Basic
import Mathlib.Data.Nat.Bitwise
import Mathlib.Data.Finset.Card
import Mathlib.Data.Nat.Find

/-! # Bit masks

The 64-bit masks in which a program keeps a set of small indices, each as one bit.

* **`SingleBit`** — a mask of one bit.
* **`orAll`** — the union of some masks; `orAll_erase` removes a mask that shares no bit with the
  others.
* **`firstFreeBit`** — the search of a bit that is not set, from the lowest one.
* **`bits`** — the bits of a mask; `card_bits_orAll` counts those of a union. -/

namespace WebXEngine

namespace BitMask

/-- A bit of a mask. -/
def bit (mask : UInt64) (i : ℕ) : Bool := mask.toNat.testBit i

/-- Masks are equal when their bits are. -/
theorem ext {m n : UInt64} (h : ∀ i, bit m i = bit n i) : m = n :=
  UInt64.toNat_inj.mp (Nat.eq_of_testBit_eq h)

@[simp] theorem bit_zero (i : ℕ) : bit 0 i = false := Nat.zero_testBit i

@[simp] theorem bit_or (m n : UInt64) (i : ℕ) : bit (m ||| n) i = (bit m i || bit n i) := by
  rw [bit, UInt64.toNat_or, Nat.testBit_or, bit, bit]

@[simp] theorem bit_and (m n : UInt64) (i : ℕ) : bit (m &&& n) i = (bit m i && bit n i) := by
  rw [bit, UInt64.toNat_and, Nat.testBit_and, bit, bit]

/-- The bits above the width of a mask are not set. -/
theorem bit_of_le (m : UInt64) {i : ℕ} (h : 64 ≤ i) : bit m i = false :=
  Nat.testBit_eq_false_of_lt (lt_of_lt_of_le m.toNat_lt (Nat.pow_le_pow_right (by decide) h))

@[simp] theorem bit_not (m : UInt64) (i : ℕ) : bit (~~~m) i = (decide (i < 64) && !bit m i) := by
  rw [bit, UInt64.toNat_not, bit, ← Nat.testBit_two_pow_sub_succ m.toNat_lt, Nat.sub_sub,
    Nat.add_comm 1]

/-- Masks share no bit. -/
theorem and_eq_zero {m n : UInt64} : m &&& n = 0 ↔ ∀ i, ¬ (bit m i = true ∧ bit n i = true) := by
  constructor
  · rintro h i ⟨hm, hn⟩
    have hbit := congrArg (bit · i) h
    simp [hm, hn] at hbit
  · intro h
    refine ext fun i => ?_
    rw [bit_and, bit_zero, Bool.and_eq_false_iff]
    have := h i
    cases hm : bit m i <;> simp_all

/-- The bits of a mask are set in another. -/
theorem and_eq_left {m n : UInt64} : m &&& n = m ↔ ∀ i, bit m i = true → bit n i = true := by
  constructor
  · intro h i hm
    have hbit := congrArg (bit · i) h
    simpa [hm] using hbit
  · intro h
    refine ext fun i => ?_
    rw [bit_and]
    cases hm : bit m i with
    | false => rfl
    | true => rw [h i hm]; rfl

/-! ## Masks of one bit -/

/-- The mask is a single bit. -/
def SingleBit (mask : UInt64) : Prop := ∃ k < 64, mask.toNat = 2 ^ k

/-- A power of two has one bit. -/
theorem bit_of_toNat_eq {m : UInt64} {k : ℕ} (h : m.toNat = 2 ^ k) (i : ℕ) :
    bit m i = decide (k = i) := by
  rw [bit, h, Nat.testBit_two_pow]

/-- A mask of one bit is not empty. -/
theorem SingleBit.ne_zero {m : UInt64} (h : SingleBit m) : m ≠ 0 := by
  obtain ⟨k, -, hk⟩ := h
  rintro rfl
  exact absurd hk.symm (Nat.two_pow_pos k).ne'

/-- Two single bits that share something are the same. -/
theorem SingleBit.eq_of_and_ne_zero {m n : UInt64} (hm : SingleBit m) (hn : SingleBit n)
    (h : m &&& n ≠ 0) : m = n := by
  obtain ⟨k, -, hk⟩ := hm
  obtain ⟨l, -, hl⟩ := hn
  rw [Ne, and_eq_zero] at h
  push Not at h
  obtain ⟨i, hi, hi'⟩ := h
  rw [bit_of_toNat_eq hk, decide_eq_true_eq] at hi
  rw [bit_of_toNat_eq hl, decide_eq_true_eq] at hi'
  exact UInt64.toNat_inj.mp (by rw [hk, hl, hi, hi'])

/-! ## Unions -/

/-- The union of masks. -/
def orAll (masks : List UInt64) : UInt64 := masks.foldr (· ||| ·) 0

@[simp] theorem orAll_nil : orAll [] = 0 := rfl

@[simp] theorem orAll_cons (m : UInt64) (masks : List UInt64) :
    orAll (m :: masks) = m ||| orAll masks := rfl

/-- The bits of a union. -/
theorem bit_orAll {masks : List UInt64} {i : ℕ} :
    bit (orAll masks) i = true ↔ ∃ m ∈ masks, bit m i = true := by
  induction masks with
  | nil => simp
  | cons m masks ih => rw [orAll_cons, bit_or, Bool.or_eq_true, ih, List.exists_mem_cons_iff]

/-- The union does not depend on the order. -/
theorem orAll_perm {masks masks' : List UInt64} (h : masks.Perm masks') :
    orAll masks = orAll masks' := by
  refine ext fun i => Bool.eq_iff_iff.mpr ?_
  rw [bit_orAll, bit_orAll]
  exact exists_congr fun m => and_congr_left' h.mem_iff

/-- A mask added at the end of a list. -/
theorem orAll_concat (masks : List UInt64) (m : UInt64) :
    orAll (masks ++ [m]) = orAll masks ||| m := by
  refine ext fun i => Bool.eq_iff_iff.mpr ?_
  rw [bit_orAll, bit_or, Bool.or_eq_true, bit_orAll]
  simp [or_and_right, exists_or]

/-- Bits that were not set are set and cleared again. -/
theorem or_and_not {m n : UInt64} (h : n &&& m = 0) : (m ||| n) &&& ~~~n = m := by
  refine ext fun i => ?_
  have hfree := and_eq_zero.mp h i
  rw [bit_and, bit_or, bit_not]
  by_cases hi : i < 64
  · cases hm : bit m i <;> cases hn : bit n i <;> simp_all
  · simp [bit_of_le _ (not_lt.mp hi)]

/-- A mask that shares no bit with the others is removed from the union by clearing its bits. -/
theorem orAll_clear {masks : List UInt64} {m : UInt64} (h : ∀ n ∈ masks, m &&& n = 0) :
    (m ||| orAll masks) &&& ~~~m = orAll masks := by
  rw [UInt64.or_comm]
  refine or_and_not (and_eq_zero.mpr ?_)
  rintro i ⟨hm, hbit⟩
  obtain ⟨n, hn, hni⟩ := bit_orAll.mp hbit
  exact and_eq_zero.mp (h n hn) i ⟨hm, hni⟩

/-! ## The search of a free bit -/

/-- The loop that shifts a bit until it is not in the mask; 64 shifts empty the bit. -/
def firstFreeBit (mask : UInt64) : ℕ → UInt64 → UInt64
  | 0, index => index
  | n + 1, index => if index &&& mask ≠ 0 then firstFreeBit mask n (index <<< 1) else index

/-- A mask that is not full misses some bit. -/
theorem exists_bit_eq_false {mask : UInt64} (h : ~~~mask ≠ 0) :
    ∃ i < 64, bit mask i = false := by
  by_contra hall
  simp only [not_exists, not_and, Bool.not_eq_false] at hall
  refine h (ext fun i => ?_)
  rw [bit_not, bit_zero]
  by_cases hi : i < 64
  · simp [hi, hall i hi]
  · simp [hi]

/-- A shift moves a single bit. -/
theorem toNat_shiftLeft_one {index : UInt64} {k : ℕ} (h : index.toNat = 2 ^ k) (hk : k + 1 < 64) :
    (index <<< 1).toNat = 2 ^ (k + 1) := by
  rw [UInt64.toNat_shiftLeft, h]
  change 2 ^ k <<< 1 % 2 ^ 64 = 2 ^ (k + 1)
  rw [Nat.shiftLeft_eq, ← Nat.pow_succ, Nat.mod_eq_of_lt (Nat.pow_lt_pow_right (by decide) hk)]

/-- The search stops at the lowest free bit, however many rounds are left. -/
theorem firstFreeBit_eq {mask : UInt64} {i : ℕ} (hi : i < 64) (hfree : bit mask i = false) (n : ℕ) :
    ∀ {k : ℕ} {index : UInt64}, index.toNat = 2 ^ k → k ≤ i → i - k < n →
      (∀ j, k ≤ j → j < i → bit mask j = true) → (firstFreeBit mask n index).toNat = 2 ^ i := by
  induction n with
  | zero =>
      intro k index _ _ hn
      omega
  | succ n ih =>
      intro k index hindex hki hn hset
      rw [firstFreeBit]
      by_cases hk : k = i
      · -- the bit is free: it shares nothing with the mask
        have hzero : index &&& mask = 0 := by
          refine and_eq_zero.mpr fun j hj => ?_
          rw [bit_of_toNat_eq hindex, decide_eq_true_eq, hk] at hj
          rw [hj.1.symm, hfree] at hj
          exact Bool.false_ne_true hj.2
        rw [if_neg (not_not.mpr hzero), hindex, hk]
      · have hlt : k < i := by omega
        have htaken : index &&& mask ≠ 0 := by
          intro hzero
          refine and_eq_zero.mp hzero k ⟨?_, hset k (le_refl k) hlt⟩
          rw [bit_of_toNat_eq hindex, decide_eq_true_eq]
        rw [if_pos htaken]
        refine ih (toNat_shiftLeft_one hindex (by omega)) hlt (by omega) ?_
        intro j hkj hji
        exact hset j (by omega) hji

/-- The lowest free bit of a mask that is not full. -/
theorem exists_lowest_free {mask : UInt64} (h : ~~~mask ≠ 0) :
    ∃ i < 64, bit mask i = false ∧ ∀ j < i, bit mask j = true := by
  have hfree : ∃ i, bit mask i = false := (exists_bit_eq_false h).imp fun i hi => hi.2
  obtain ⟨k, hk, hkfree⟩ := exists_bit_eq_false h
  refine ⟨Nat.find hfree, (Nat.find_min' hfree hkfree).trans_lt hk, Nat.find_spec hfree, ?_⟩
  intro j hj
  exact Bool.not_eq_false _ ▸ Nat.find_min hfree hj

/-- **The search finds a free bit of a mask that is not full**, and more rounds do not change what it
finds. -/
theorem firstFreeBit_rounds {mask : UInt64} (h : ~~~mask ≠ 0) :
    ∃ i < 64, bit mask i = false ∧ (firstFreeBit mask 64 1).toNat = 2 ^ i ∧
      ∀ n, i < n → firstFreeBit mask n 1 = firstFreeBit mask 64 1 := by
  obtain ⟨i, hi, hfree, hset⟩ := exists_lowest_free h
  have hfound (n : ℕ) (hn : i < n) : (firstFreeBit mask n 1).toNat = 2 ^ i :=
    firstFreeBit_eq hi hfree n (k := 0) rfl (Nat.zero_le i) hn fun j _ hj => hset j hj
  refine ⟨i, hi, hfree, hfound 64 hi, fun n hn => ?_⟩
  rw [← UInt64.toNat_inj, hfound n hn, hfound 64 hi]

/-- **The first free bit** is a single one, and not one of the mask. -/
theorem firstFreeBit_one {mask : UInt64} (h : ~~~mask ≠ 0) :
    SingleBit (firstFreeBit mask 64 1) ∧ firstFreeBit mask 64 1 &&& mask = 0 := by
  obtain ⟨i, hi, hfree, hfound, -⟩ := firstFreeBit_rounds h
  refine ⟨⟨i, hi, hfound⟩, and_eq_zero.mpr fun j hj => ?_⟩
  rw [bit_of_toNat_eq hfound, decide_eq_true_eq] at hj
  rw [← hj.1, hfree] at hj
  exact Bool.false_ne_true hj.2

/-! ## The number of bits -/

/-- The bits that are set in a mask. -/
def bits (mask : UInt64) : Finset ℕ := (Finset.range 64).filter fun i => bit mask i = true

/-- The bits of a mask are those that are set. -/
theorem mem_bits {mask : UInt64} {i : ℕ} : i ∈ bits mask ↔ bit mask i = true := by
  rw [bits, Finset.mem_filter, Finset.mem_range]
  refine and_iff_right_of_imp fun h => ?_
  by_contra hle
  rw [bit_of_le _ (not_lt.mp hle)] at h
  exact Bool.false_ne_true h

/-- A mask of one bit has one bit. -/
theorem SingleBit.bits_eq {m : UInt64} (h : SingleBit m) : ∃ k, bits m = {k} := by
  obtain ⟨k, -, hk⟩ := h
  refine ⟨k, Finset.ext fun i => ?_⟩
  rw [mem_bits, bit_of_toNat_eq hk, decide_eq_true_eq, Finset.mem_singleton, eq_comm]

/-- **The union of masks of one bit each, without a common bit, has as many bits as there are
masks.** -/
theorem card_bits_orAll {masks : List UInt64} (hsingle : ∀ m ∈ masks, SingleBit m)
    (hdisjoint : masks.Pairwise fun m n => m &&& n = 0) :
    (bits (orAll masks)).card = masks.length := by
  induction masks with
  | nil => simp [bits]
  | cons m masks ih =>
      rw [List.forall_mem_cons] at hsingle
      rw [List.pairwise_cons] at hdisjoint
      obtain ⟨k, hk⟩ := hsingle.1.bits_eq
      have hunion : bits (orAll (m :: masks)) = insert k (bits (orAll masks)) := by
        refine Finset.ext fun i => ?_
        rw [Finset.mem_insert, ← Finset.mem_singleton, ← hk, mem_bits, mem_bits, mem_bits,
          orAll_cons, bit_or, Bool.or_eq_true]
      have hnew : k ∉ bits (orAll masks) := by
        intro hmem
        obtain ⟨n, hn, hbit⟩ := bit_orAll.mp (mem_bits.mp hmem)
        have hm : bit m k = true := mem_bits.mp (hk ▸ Finset.mem_singleton_self k)
        exact and_eq_zero.mp (hdisjoint.1 n hn) k ⟨hm, hbit⟩
      rw [hunion, Finset.card_insert_of_notMem hnew, ih hsingle.2 hdisjoint.2, List.length_cons]

/-- A mask has at most 64 bits. -/
theorem card_bits_le (mask : UInt64) : (bits mask).card ≤ 64 :=
  (Finset.card_filter_le _ _).trans (Finset.card_range 64).le

/-- A mask is full when it has 64 bits. -/
theorem not_eq_zero_iff_card {mask : UInt64} : ~~~mask = 0 ↔ 64 ≤ (bits mask).card := by
  constructor
  · intro h
    -- all 64 bits are set
    have hall : bits mask = Finset.range 64 := by
      refine Finset.filter_true_of_mem fun i hi => ?_
      have hbit := congrArg (bit · i) h
      simpa [Finset.mem_range.mp hi] using hbit
    rw [hall, Finset.card_range]
  · intro h
    by_contra hne
    obtain ⟨i, hi, hfree⟩ := exists_bit_eq_false hne
    -- one of the 64 bits is missing
    have hsubset : bits mask ⊆ (Finset.range 64).erase i := by
      intro j hj
      rw [Finset.mem_erase]
      refine ⟨?_, (Finset.mem_filter.mp hj).1⟩
      rintro rfl
      rw [mem_bits, hfree] at hj
      exact Bool.false_ne_true hj
    have hcard := Finset.card_le_card hsubset
    rw [Finset.card_erase_of_mem (Finset.mem_range.mpr hi), Finset.card_range] at hcard
    omega

end BitMask

end WebXEngine
