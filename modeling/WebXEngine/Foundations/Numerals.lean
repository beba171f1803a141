import Mathlib.Data.List.TakeWhile
import Mathlib.Tactic.IntervalCases
import Mathlib.Tactic.Ring

/-! # Numerals in byte strings

How the functions of the C library read a number at the start of a string, and how numbers are written
in base sixteen.

* **`scanNumeral base text`** — the spaces, the sign and the digits that are read.
* **`hexNumeral width n`** — the last digits of a number.
* **`scanNumeral_hexNumeral`** — what is written is read back.
* **`IsHexNumeral`** — the texts that are a numeral as a whole. -/

namespace WebXEngine

/-- The bytes of a text that only has ASCII characters. -/
def ascii (text : String) : List UInt8 := text.toList.map fun c => c.toNat.toUInt8

/-- The spaces that are skipped. -/
def isSpace (c : UInt8) : Bool := c = 32 || (9 ≤ c && c ≤ 13)

/-- The value of a digit or a letter; other characters are not digits in any base. -/
def digitValue (c : UInt8) : ℕ :=
  if 48 ≤ c && c ≤ 57 then c.toNat - 48
  else if 97 ≤ c && c ≤ 122 then c.toNat - 87
  else if 65 ≤ c && c ≤ 90 then c.toNat - 55
  else 36

/-- The digits of a base. -/
def isDigit (base : ℕ) (c : UInt8) : Bool := digitValue c < base

/-- The number that digits stand for. -/
def ofDigits (base : ℕ) (digits : List UInt8) : ℕ :=
  digits.foldl (fun n c => base * n + digitValue c) 0

@[simp] theorem ofDigits_concat (base : ℕ) (digits : List UInt8) (c : UInt8) :
    ofDigits base (digits ++ [c]) = base * ofDigits base digits + digitValue c := by
  simp [ofDigits]

/-- A number that was read: its sign, its magnitude and the number of characters it takes. -/
structure Numeral where
  negative : Bool
  magnitude : ℕ
  length : ℕ
  deriving DecidableEq, Repr

/-- The text behind a sign. -/
def skipSign : List UInt8 → List UInt8
  | 43 :: text => text
  | 45 :: text => text
  | text => text

/-- The text behind the prefix of the base sixteen, which a digit has to follow. -/
def skipPrefix (base : ℕ) : List UInt8 → List UInt8
  | 48 :: x :: text =>
      if base = 16 ∧ (x = 88 ∨ x = 120) ∧ text.head?.any (isDigit 16) then text else 48 :: x :: text
  | text => text

/-- Reads a number; without a digit there is none. What follows the digits is not looked at. -/
def scanNumeral (base : ℕ) (text : List UInt8) : Option Numeral :=
  let signed := text.dropWhile isSpace
  let unsigned := skipPrefix base (skipSign signed)
  let digits := unsigned.takeWhile (isDigit base)
  if digits = [] then none
  else some ⟨signed.head? = some 45, ofDigits base digits,
    text.length - (unsigned.length - digits.length)⟩

/-! ## Base sixteen -/

/-- The digit of a value below sixteen. -/
def hexDigit (value : ℕ) : UInt8 := if value < 10 then (48 + value).toUInt8 else (87 + value).toUInt8

/-- The last digits of a number, zeros included. -/
def hexNumeral : ℕ → ℕ → List UInt8
  | 0, _ => []
  | width + 1, n => hexNumeral width (n / 16) ++ [hexDigit (n % 16)]

@[simp] theorem length_hexNumeral (width n : ℕ) : (hexNumeral width n).length = width := by
  induction width generalizing n with
  | zero => rfl
  | succ width ih => rw [hexNumeral, List.length_append, ih, List.length_singleton]

/-- A digit has its value, and is neither a space, a sign nor the letter of the prefix. -/
theorem hexDigit_spec {value : ℕ} (h : value < 16) :
    digitValue (hexDigit value) = value ∧ isSpace (hexDigit value) = false ∧
      hexDigit value ∉ [43, 45, 88, 120] := by
  interval_cases value <;> decide

/-- The digits of a numeral are those of values below sixteen. -/
theorem mem_hexNumeral {width n : ℕ} {c : UInt8} (h : c ∈ hexNumeral width n) :
    ∃ value < 16, c = hexDigit value := by
  induction width generalizing n with
  | zero => cases h
  | succ width ih =>
      rw [hexNumeral, List.mem_append, List.mem_singleton] at h
      rcases h with h | rfl
      · exact ih h
      · exact ⟨n % 16, Nat.mod_lt _ (by decide), rfl⟩

/-- A numeral stands for the number that was written, up to the digits that do not fit. -/
theorem ofDigits_hexNumeral (width n : ℕ) : ofDigits 16 (hexNumeral width n) = n % 16 ^ width := by
  induction width generalizing n with
  | zero =>
      rw [pow_zero, Nat.mod_one]
      rfl
  | succ width ih =>
      have hvalue : digitValue (hexDigit (n % 16)) = n % 16 :=
        (hexDigit_spec (Nat.mod_lt _ (by decide))).1
      rw [hexNumeral, ofDigits_concat, ih, hvalue, pow_succ', Nat.mod_mul, Nat.add_comm]

/-- A text of digits has no sign. -/
theorem skipSign_eq_self {text : List UInt8} (h : ∀ c ∈ text, c ∉ [43, 45, 88, 120]) :
    skipSign text = text := by
  cases text with
  | nil => rfl
  | cons c text =>
      have hc := h c List.mem_cons_self
      unfold skipSign
      split
      · simp_all
      · simp_all
      · rfl

/-- A text of digits has no prefix. -/
theorem skipPrefix_eq_self {text : List UInt8} (h : ∀ c ∈ text, c ∉ [43, 45, 88, 120]) :
    skipPrefix 16 text = text := by
  unfold skipPrefix
  split
  · rename_i x text
    have hx := h x (by simp)
    have hnot : ¬ (x = 88 ∨ x = 120) := by
      rintro (rfl | rfl) <;> exact hx (by simp)
    rw [if_neg fun hprefix => hnot hprefix.2.1]
  · rfl

/-- **What is written in base sixteen is read back.** -/
theorem scanNumeral_hexNumeral (width n : ℕ) :
    scanNumeral 16 (hexNumeral (width + 1) n) = some ⟨false, n % 16 ^ (width + 1), width + 1⟩ := by
  have hlength : (hexNumeral (width + 1) n).length = width + 1 := length_hexNumeral _ _
  have hvalue : ofDigits 16 (hexNumeral (width + 1) n) = n % 16 ^ (width + 1) :=
    ofDigits_hexNumeral _ _
  have hdigits : ∀ c ∈ hexNumeral (width + 1) n,
      isDigit 16 c = true ∧ isSpace c = false ∧ c ∉ [43, 45, 88, 120] := by
    intro c hc
    obtain ⟨value, hlt, rfl⟩ := mem_hexNumeral hc
    obtain ⟨hvalue, hspace, hother⟩ := hexDigit_spec hlt
    exact ⟨decide_eq_true (hvalue.trans_lt hlt), hspace, hother⟩
  -- from here on, only what was said about the digits is used
  generalize hexNumeral (width + 1) n = text at hlength hvalue hdigits
  obtain ⟨c, rest, rfl⟩ := List.exists_cons_of_length_eq_add_one hlength
  have hother : ∀ d ∈ c :: rest, d ∉ [43, 45, 88, 120] := fun d hd => (hdigits d hd).2.2
  have hspaces : (c :: rest).dropWhile isSpace = c :: rest := by
    rw [List.dropWhile_cons, (hdigits c List.mem_cons_self).2.1]
    rfl
  have hall : (c :: rest).takeWhile (isDigit 16) = c :: rest :=
    List.takeWhile_eq_self_iff.mpr fun d hd => (hdigits d hd).1
  -- no sign, no prefix and no space comes first
  have hsign : (c :: rest).head? ≠ some 45 := by
    rw [List.head?_cons, ne_eq, Option.some.injEq]
    rintro rfl
    exact hother 45 List.mem_cons_self (by simp)
  rw [scanNumeral, hspaces, skipSign_eq_self hother, skipPrefix_eq_self hother, hall,
    if_neg (List.cons_ne_nil _ _), hvalue, Nat.sub_self, Nat.sub_zero, hlength, decide_eq_false hsign]

/-! ## Numerals as whole texts -/

/-- A sign or none, and whether it is negative. -/
inductive IsSign : List UInt8 → Bool → Prop
  | absent : IsSign [] false
  | plus : IsSign [43] false
  | minus : IsSign [45] true

/-- The text as a whole is a numeral in base sixteen: a sign or none, the prefix or none, and at least
one digit. -/
def IsHexNumeral (text : List UInt8) (value : ℤ) : Prop :=
  ∃ sign negative marker digits, IsSign sign negative ∧ marker ∈ [[], [48, 88], [48, 120]] ∧
    digits ≠ [] ∧ (∀ c ∈ digits, isDigit 16 c = true) ∧ text = sign ++ (marker ++ digits) ∧
    value = if negative then -(ofDigits 16 digits : ℤ) else ofDigits 16 digits

/-- A digit is neither a space, a sign nor the letter of the prefix. -/
theorem isDigit_spec {c : UInt8} (h : isDigit 16 c = true) :
    isSpace c = false ∧ c ∉ [43, 45, 88, 120] := by
  refine ⟨?_, fun hmem => ?_⟩
  · by_contra hspace
    simp only [isSpace, isDigit, digitValue, Bool.not_eq_false, Bool.or_eq_true, Bool.and_eq_true,
      decide_eq_true_eq, UInt8.le_iff_toNat_le, ← UInt8.toNat_inj] at hspace h
    split_ifs at h <;> simp_all <;> omega
  · simp only [List.mem_cons, List.not_mem_nil, or_false] at hmem
    rcases hmem with rfl | rfl | rfl | rfl <;> exact absurd h (by decide)

/-- The prefix is skipped when digits follow it. -/
theorem skipPrefix_append {marker digits : List UInt8}
    (hmarker : marker ∈ [[], [48, 88], [48, 120]]) (hne : digits ≠ [])
    (hdigits : ∀ c ∈ digits, isDigit 16 c = true) : skipPrefix 16 (marker ++ digits) = digits := by
  obtain ⟨c, rest, rfl⟩ := List.exists_cons_of_ne_nil hne
  have hc := hdigits c List.mem_cons_self
  simp only [List.mem_cons, List.not_mem_nil, or_false] at hmarker
  rcases hmarker with rfl | rfl | rfl
  · exact skipPrefix_eq_self fun d hd => (isDigit_spec (hdigits d hd)).2
  · simp [skipPrefix, hc]
  · simp [skipPrefix, hc]

/-- A sign is skipped in front of a text that starts with a digit. -/
theorem skipSign_append {sign text : List UInt8} {negative : Bool} (hsign : IsSign sign negative)
    (hstart : text.head?.any (isDigit 16) = true) :
    (sign ++ text).dropWhile isSpace = sign ++ text ∧ skipSign (sign ++ text) = text ∧
      decide ((sign ++ text).head? = some 45) = negative := by
  obtain ⟨c, hc, hdigit⟩ := (Option.any_eq_true _ _).mp hstart
  obtain ⟨rest, rfl⟩ := List.head?_eq_some_iff.mp hc
  obtain ⟨hspace, hother⟩ := isDigit_spec hdigit
  cases hsign with
  | absent =>
      have hne : c ≠ 43 ∧ c ≠ 45 := by
        constructor <;> rintro rfl <;> simp at hother
      refine ⟨by simp [hspace], ?_, by simp [hne]⟩
      unfold skipSign
      split
      · simp_all
      · simp_all
      · rfl
  | plus => exact ⟨rfl, rfl, rfl⟩
  | minus => exact ⟨rfl, rfl, rfl⟩

/-- **A text that is a numeral as a whole is read as its value.** -/
theorem IsHexNumeral.scanNumeral {text : List UInt8} {value : ℤ} (h : IsHexNumeral text value) :
    ∃ numeral, WebXEngine.scanNumeral 16 text = some numeral ∧
      value = if numeral.negative then -(numeral.magnitude : ℤ) else numeral.magnitude := by
  obtain ⟨sign, negative, marker, digits, hsign, hmarker, hne, hdigits, rfl, rfl⟩ := h
  have hstart : (marker ++ digits).head?.any (isDigit 16) = true := by
    obtain ⟨c, rest, rfl⟩ := List.exists_cons_of_ne_nil hne
    simp only [List.mem_cons, List.not_mem_nil, or_false] at hmarker
    rcases hmarker with rfl | rfl | rfl
    · exact hdigits c List.mem_cons_self
    · rfl
    · rfl
  obtain ⟨hspaces, hskip, hnegative⟩ := skipSign_append hsign hstart
  have hall : digits.takeWhile (isDigit 16) = digits := List.takeWhile_eq_self_iff.mpr hdigits
  rw [WebXEngine.scanNumeral, hspaces, hskip, skipPrefix_append hmarker hne hdigits, hall,
    if_neg hne, hnegative]
  exact ⟨_, rfl, rfl⟩

end WebXEngine
