import WebXEngine.Foundations.Numerals

/-! # Strings

* **`WebXStringUtils.split`** — the parts of a string between delimiters.
* **`HexUtils.toUint32`** — the number of a string in base sixteen. -/

namespace WebXEngine

namespace WebXStringUtils

/-- The lines that remain to be read when a part of one was read: the end of the string only ends a
line that has characters. -/
def getlines (delimiter : UInt8) (token : List UInt8) : List UInt8 → List (List UInt8)
  | [] => if token = [] then [] else [token]
  | c :: text =>
      if c = delimiter then token :: getlines delimiter [] text
      else getlines delimiter (token ++ [c]) text

/-- Splits a string. -/
def split (str : List UInt8) (delimiter : UInt8) : List (List UInt8) := getlines delimiter [] str

end WebXStringUtils

/-- The conversion of the C++ library to a long integer without a sign, in base sixteen: none when it
throws, without a digit or when the number does not fit. A sign is applied to the converted number. -/
def stoul (text : List UInt8) : Option UInt64 :=
  (scanNumeral 16 text).bind fun numeral =>
    if numeral.magnitude < 2 ^ 64 then
      some (if numeral.negative then -UInt64.ofNat numeral.magnitude
        else UInt64.ofNat numeral.magnitude)
    else none

/-- The conversion of the C++ library to an integer in base ten, with the number of characters that
are read: none when it throws. -/
def stoi (text : List UInt8) : Option (ℤ × ℕ) :=
  (scanNumeral 10 text).bind fun numeral =>
    let value : ℤ := if numeral.negative then -numeral.magnitude else numeral.magnitude
    if -2 ^ 31 ≤ value ∧ value < 2 ^ 31 then some (value, numeral.length) else none

/-- The number of a string in base sixteen, reduced to 32 bits. The message of the error has a format
for numbers where the string is, so that an exception leaves the function in its place. -/
def HexUtils.toUint32 (hex : List UInt8) : Option (Except String UInt32) :=
  (stoul hex).map fun value => .ok value.toUInt32

/-- A number written with eight digits is read back. -/
theorem HexUtils.toUint32_hexNumeral (n : UInt32) :
    toUint32 (hexNumeral 8 n.toNat) = some (.ok n) := by
  have hlt : n.toNat < 16 ^ 8 := n.toNat_lt
  rw [toUint32, stoul, scanNumeral_hexNumeral, Nat.mod_eq_of_lt hlt, Option.bind_some,
    if_pos (hlt.trans (by decide))]
  simp

end WebXEngine
