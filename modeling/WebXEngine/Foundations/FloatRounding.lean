import Mathlib.Algebra.Order.Field.Power
import Mathlib.Algebra.Order.Field.Rat
import Mathlib.Data.Int.Log
import Mathlib.Data.Rat.Floor
import Mathlib.Tactic.Linarith
import Mathlib.Tactic.Positivity

/-! # Rounding to floating-point numbers

A binary floating-point format has as many numbers between two powers of two as between the next two.
The result of an operation is the number of the format that is nearest to the exact result, and of two
that are equally near the one whose last bit is 0. Formats have no largest number here.

* **`roundHalfEven`** — the nearest integer.
* **`FloatFormat.round`** — the nearest number of a format; `binary32` and `binary64` are the usual ones.
* **`FloatFormat.round_mono`** — rounding keeps the order.
* **`FloatFormat.round_round`** — a rounded number is rounded to itself.
* **`FloatFormat.round_lt_round_iff`** — comparing a rounded number with one that is rounded up. -/

namespace WebXEngine

/-! ## The nearest integer -/

/-- The nearest integer; of two that are equally near, the even one. -/
def roundHalfEven (x : ℚ) : ℤ :=
  let n := ⌊x + 1 / 2⌋
  if x + 1 / 2 = n ∧ ¬ 2 ∣ n then n - 1 else n

/-- The nearest integer is not above the one that a half rounds up to. -/
theorem roundHalfEven_le_floor (x : ℚ) : roundHalfEven x ≤ ⌊x + 1 / 2⌋ := by
  rw [roundHalfEven]
  split_ifs <;> omega

/-- It is at most one below. -/
theorem floor_sub_one_le_roundHalfEven (x : ℚ) : ⌊x + 1 / 2⌋ - 1 ≤ roundHalfEven x := by
  rw [roundHalfEven]
  split_ifs <;> omega

/-- An integer is the nearest one to itself. -/
@[simp] theorem roundHalfEven_intCast (n : ℤ) : roundHalfEven n = n := by
  have hfloor : ⌊(n : ℚ) + 1 / 2⌋ = n := by
    rw [Int.floor_intCast_add]
    norm_num
  rw [roundHalfEven, hfloor, if_neg]
  rintro ⟨hhalf, -⟩
  linarith

/-- **The nearest integer keeps the order.** -/
theorem roundHalfEven_mono {x y : ℚ} (h : x ≤ y) : roundHalfEven x ≤ roundHalfEven y := by
  have hfloor : ⌊x + 1 / 2⌋ ≤ ⌊y + 1 / 2⌋ := Int.floor_le_floor (by linarith)
  rcases hfloor.eq_or_lt with hsame | hlt
  · -- only the smaller one of two numbers with one floor can be halfway
    rw [roundHalfEven, roundHalfEven, hsame]
    split_ifs with hx hy hy
    · exact le_rfl
    · omega
    · have hle := Int.floor_le (x + 1 / 2)
      rw [hsame] at hle
      exact absurd ⟨by linarith [hy.1], hy.2⟩ hx
    · exact le_rfl
  · have hx := roundHalfEven_le_floor x
    have hy := floor_sub_one_le_roundHalfEven y
    omega

/-- A number is as near to the integers as its opposite to theirs. -/
theorem roundHalfEven_neg (x : ℚ) : roundHalfEven (-x) = -roundHalfEven x := by
  obtain ⟨n, hn⟩ : ∃ n, ⌊x + 1 / 2⌋ = n := ⟨_, rfl⟩
  have hlow := Int.floor_le (x + 1 / 2)
  have hhigh := Int.lt_floor_add_one (x + 1 / 2)
  rw [hn] at hlow hhigh
  by_cases htie : x + 1 / 2 = n
  · -- halfway between two integers, of which one is even
    have hneg : ⌊-x + 1 / 2⌋ = 1 - n := by
      rw [Int.floor_eq_iff]
      push_cast
      constructor <;> linarith
    rw [roundHalfEven, roundHalfEven, hn, hneg]
    have htie' : -x + 1 / 2 = ((1 - n : ℤ) : ℚ) := by
      push_cast
      linarith
    simp only [htie, htie', true_and]
    split_ifs <;> omega
  · have hneg : ⌊-x + 1 / 2⌋ = -n := by
      have hstrict : (n : ℚ) < x + 1 / 2 := lt_of_le_of_ne hlow (Ne.symm htie)
      rw [Int.floor_eq_iff]
      push_cast
      constructor <;> linarith
    rw [roundHalfEven, roundHalfEven, hn, hneg, if_neg (c := x + 1 / 2 = n ∧ ¬ 2 ∣ n) fun h => htie h.1,
      if_neg]
    rintro ⟨h, -⟩
    push_cast at h
    exact htie (by linarith)

/-! ## Formats -/

/-- A format: the bits of its numbers, and the least distance of two of them as a power of two. -/
structure FloatFormat where
  precision : ℕ
  minExponent : ℤ
  precision_pos : 0 < precision

namespace FloatFormat

/-- The numbers of 32 bits. -/
def binary32 : FloatFormat := ⟨24, -149, by decide⟩

/-- The numbers of 64 bits. -/
def binary64 : FloatFormat := ⟨53, -1074, by decide⟩

variable (format : FloatFormat)

/-- The distance of the numbers of the format around a number, as a power of two. -/
def exponent (x : ℚ) : ℤ := max (Int.log 2 |x| + 1 - format.precision) format.minExponent

/-- The nearest number of the format. -/
def round (x : ℚ) : ℚ := roundHalfEven (x / 2 ^ format.exponent x) * 2 ^ format.exponent x

example : binary32.round (1 / 10) = 13421773 / 134217728 := by decide +kernel

@[simp] theorem round_zero : format.round 0 = 0 := by
  have hzero : roundHalfEven 0 = 0 := roundHalfEven_intCast 0
  rw [round, zero_div, hzero, Int.cast_zero, zero_mul]

/-- The distance of the numbers does not depend on the sign. -/
theorem exponent_neg (x : ℚ) : format.exponent (-x) = format.exponent x := by
  rw [exponent, abs_neg, exponent]

/-- Rounding does not depend on the sign. -/
theorem round_neg (x : ℚ) : format.round (-x) = -format.round x := by
  rw [round, exponent_neg, neg_div, roundHalfEven_neg, Int.cast_neg, neg_mul, round]

variable {format} {x y : ℚ}

/-- Rounding keeps the sign. -/
theorem round_nonneg (h : 0 ≤ x) : 0 ≤ format.round x := by
  have hquotient : 0 ≤ roundHalfEven (x / 2 ^ format.exponent x) := by
    have hmono := roundHalfEven_mono (x := 0) (y := x / 2 ^ format.exponent x) (by positivity)
    rwa [show roundHalfEven 0 = 0 from roundHalfEven_intCast 0] at hmono
  rw [round]
  exact mul_nonneg (by exact_mod_cast hquotient) (by positivity)

/-- A multiple of the distance stays between the multiples that are next to it. -/
theorem round_le_of_le_mul {m : ℤ} (h : x ≤ m * 2 ^ format.exponent x) :
    format.round x ≤ m * 2 ^ format.exponent x := by
  have hpos : (0 : ℚ) < 2 ^ format.exponent x := by positivity
  have hmono := roundHalfEven_mono ((div_le_iff₀ hpos).mpr h)
  rw [roundHalfEven_intCast] at hmono
  rw [round]
  exact mul_le_mul_of_nonneg_right (by exact_mod_cast hmono) hpos.le

/-- A number above a multiple of the distance is rounded to at least this multiple. -/
theorem mul_le_round_of_mul_le {m : ℤ} (h : m * 2 ^ format.exponent x ≤ x) :
    m * 2 ^ format.exponent x ≤ format.round x := by
  have hpos : (0 : ℚ) < 2 ^ format.exponent x := by positivity
  have hmono := roundHalfEven_mono ((le_div_iff₀ hpos).mpr h)
  rw [roundHalfEven_intCast] at hmono
  rw [round]
  exact mul_le_mul_of_nonneg_right (by exact_mod_cast hmono) hpos.le

/-- A power of two is a multiple of a smaller one. -/
theorem exists_mul_zpow {a b : ℤ} (h : a ≤ b) : ∃ m : ℤ, (2 : ℚ) ^ b = m * 2 ^ a := by
  refine ⟨2 ^ (b - a).toNat, ?_⟩
  rw [Int.cast_pow, Int.cast_ofNat, ← zpow_natCast, Int.toNat_of_nonneg (sub_nonneg.mpr h),
    ← zpow_add₀ two_ne_zero, sub_add_cancel]

/-- The numbers below a power of two that is far enough are rounded to at most this power. -/
theorem round_le_zpow {e : ℤ} (hx : x ≤ 2 ^ e) (he : format.exponent x ≤ e) :
    format.round x ≤ 2 ^ e := by
  obtain ⟨m, hm⟩ := exists_mul_zpow he
  rw [hm] at hx ⊢
  exact round_le_of_le_mul hx

/-- The numbers above a power of two that is far enough are rounded to at least this power. -/
theorem zpow_le_round {e : ℤ} (hx : 2 ^ e ≤ x) (he : format.exponent x ≤ e) :
    2 ^ e ≤ format.round x := by
  obtain ⟨m, hm⟩ := exists_mul_zpow he
  rw [hm] at hx ⊢
  exact mul_le_round_of_mul_le hx

/-- **Rounding keeps the order**, of numbers that are not negative. -/
theorem round_mono_of_pos (hpos : 0 < x) (h : x ≤ y) : format.round x ≤ format.round y := by
  have hlog : Int.log 2 |x| ≤ Int.log 2 |y| := by
    rw [abs_of_pos hpos, abs_of_pos (hpos.trans_le h)]
    exact Int.log_mono_right hpos h
  have hexponent : format.exponent x ≤ format.exponent y := by
    rw [exponent, exponent]
    omega
  rcases hexponent.eq_or_lt with hsame | hlt
  · have hpow : (0 : ℚ) < 2 ^ format.exponent y := by positivity
    rw [round, round, hsame]
    refine mul_le_mul_of_nonneg_right ?_ hpow.le
    exact_mod_cast roundHalfEven_mono (div_le_div_of_nonneg_right h hpow.le)
  · -- a power of two is between the numbers
    have hprecision := format.precision_pos
    have hbelow : format.exponent x ≤ Int.log 2 |y| ∧ format.exponent y ≤ Int.log 2 |y| ∧
        Int.log 2 |x| < Int.log 2 |y| := by
      rw [exponent, exponent] at *
      omega
    have hx : x ≤ 2 ^ Int.log 2 |y| := by
      refine (Int.lt_zpow_succ_log_self one_lt_two x).le.trans ?_
      refine zpow_le_zpow_right₀ one_le_two ?_
      rw [abs_of_pos hpos] at hbelow
      omega
    have hy : 2 ^ Int.log 2 |y| ≤ y := by
      rw [abs_of_pos (hpos.trans_le h)]
      exact Int.zpow_log_le_self one_lt_two (hpos.trans_le h)
    exact (round_le_zpow hx hbelow.1).trans (zpow_le_round hy hbelow.2.1)

/-- **Rounding keeps the order.** -/
theorem round_mono (h : x ≤ y) : format.round x ≤ format.round y := by
  rcases lt_trichotomy x 0 with hx | rfl | hx
  · rcases le_or_gt 0 y with hy | hy
    · have hneg := @round_nonneg format _ (neg_nonneg.mpr hx.le)
      rw [round_neg] at hneg
      exact (neg_nonneg.mp hneg).trans (round_nonneg hy)
    · have hopposite := @round_mono_of_pos format _ _ (neg_pos.mpr hy) (neg_le_neg h)
      rw [round_neg, round_neg] at hopposite
      exact neg_le_neg_iff.mp hopposite
  · rw [round_zero]
    exact round_nonneg h
  · exact round_mono_of_pos hx h

/-! ## Numbers of the format -/

/-- A multiple of the distance around it is a number of the format. -/
theorem round_eq_self_of_mul {m : ℤ} (h : x = m * 2 ^ format.exponent x) : format.round x = x :=
  le_antisymm ((round_le_of_le_mul h.le).trans_eq h.symm)
    (h.le.trans (mul_le_round_of_mul_le h.ge))

/-- The magnitude of a rounded number has no more bits than the format. -/
theorem abs_round_le (x : ℚ) :
    |format.round x| ≤ 2 ^ (format.exponent x + format.precision) := by
  have habs : |format.round x| = format.round |x| := by
    rcases le_total 0 x with hx | hx
    · rw [abs_of_nonneg hx, abs_of_nonneg (round_nonneg hx)]
    · have hneg := @round_nonneg format _ (neg_nonneg.mpr hx)
      rw [abs_of_nonpos hx, round_neg, abs_of_nonpos]
      rwa [round_neg, neg_nonneg] at hneg
  have hexponent : format.exponent |x| = format.exponent x := by
    rw [exponent, abs_abs, exponent]
  rw [habs]
  refine round_le_zpow ?_ (hexponent ▸ Int.le_add_of_nonneg_right (Int.natCast_nonneg _))
  refine (Int.lt_zpow_succ_log_self one_lt_two |x|).le.trans ?_
  refine zpow_le_zpow_right₀ one_le_two ?_
  rw [exponent]
  omega

/-- A rounded number is a multiple of the distance around it. -/
theorem exists_round_eq_mul (x : ℚ) :
    ∃ m : ℤ, format.round x = m * 2 ^ format.exponent (format.round x) := by
  have hmin : format.minExponent ≤ format.exponent x := le_max_right _ _
  have hprecision := format.precision_pos
  rcases eq_or_ne (format.round x) 0 with hzero | hne
  · exact ⟨0, by rw [hzero, Int.cast_zero, zero_mul]⟩
  rcases (abs_round_le x).eq_or_lt with hlimit | hlt
  · -- the number was rounded to the next power of two
    have hlog : Int.log 2 |format.round x| = format.exponent x + format.precision := by
      rw [hlimit]
      exact Int.log_zpow one_lt_two _
    have hle : format.exponent (format.round x) ≤ format.exponent x + format.precision := by
      rw [exponent, hlog]
      omega
    obtain ⟨m, hm⟩ := exists_mul_zpow hle
    rw [← hlimit] at hm
    rcases abs_choice (format.round x) with hsign | hsign
    · exact ⟨m, hsign.symm.trans hm⟩
    · refine ⟨-m, ?_⟩
      rw [Int.cast_neg, neg_mul, ← hm, hsign, neg_neg]
  · have hle : format.exponent (format.round x) ≤ format.exponent x := by
      have hlog := (Int.lt_zpow_iff_log_lt one_lt_two (abs_pos.mpr hne)).mp hlt
      rw [exponent]
      omega
    obtain ⟨m, hm⟩ := exists_mul_zpow hle
    refine ⟨roundHalfEven (x / 2 ^ format.exponent x) * m, ?_⟩
    rw [Int.cast_mul, mul_assoc, ← hm, round]

/-- **A rounded number is rounded to itself.** -/
theorem round_round (x : ℚ) : format.round (format.round x) = format.round x := by
  obtain ⟨m, hm⟩ := @exists_round_eq_mul format x
  exact round_eq_self_of_mul hm

/-- **A rounded number is below one that is rounded up** exactly when it is below the exact one. -/
theorem round_lt_round_iff (hup : y ≤ format.round y) :
    format.round x < format.round y ↔ format.round x < y := by
  constructor
  · intro hlt
    by_contra hge
    have hmono := @round_mono format _ _ (not_lt.mp hge)
    rw [round_round] at hmono
    exact absurd hlt (not_lt.mpr hmono)
  · exact fun hlt => hlt.trans_le hup

end FloatFormat

end WebXEngine
