import Mathlib.Data.Nat.Notation
import Mathlib.Logic.Function.Iterate

/-! # Shift registers

Registers that are shifted to the right, and changed by their taps when a bit falls out of them: the
division by a polynomial over the field of two elements, with the lowest power in the highest bit.

* **`shift`** — one shift; `shift_xor` says that it is linear, `shift_injective` that nothing is lost
  when the highest tap is set.
* **`feed`** — symbols of some bits enter the register at its low end.
* **`feedAll_eq_shifts`** — symbols that fit into the register could have entered it all at once.
* **`symbols`** — the symbols of a word; `feedAll_append_eq_zero` turns the contents of a register into
  symbols of their own.
* **`feedAll_burst_ne`** — sequences that differ within the width of the register only are told
  apart. -/

namespace ShiftRegister

variable {w : ℕ} (taps : BitVec w)

/-! ## Shifts -/

/-- One shift of a register. -/
def shift (c : BitVec w) : BitVec w := (c >>> 1) ^^^ (if c.getLsbD 0 then taps else 0#w)

/-- Some shifts of a register. -/
def shifts (n : ℕ) (c : BitVec w) : BitVec w := (shift taps)^[n] c

/-- A shift is linear. -/
theorem shift_xor (c d : BitVec w) : shift taps (c ^^^ d) = shift taps c ^^^ shift taps d := by
  apply BitVec.eq_of_getLsbD_eq
  intro i hi
  simp only [shift, BitVec.getLsbD_xor, BitVec.getLsbD_ushiftRight]
  cases c.getLsbD 0 <;> cases d.getLsbD 0 <;> cases c.getLsbD (1 + i) <;>
    cases d.getLsbD (1 + i) <;> cases htap : taps.getLsbD i <;> simp [htap]

/-- A register whose lowest bit is not set only moves. -/
theorem shift_of_low {c : BitVec w} (h : c.getLsbD 0 = false) : shift taps c = c >>> 1 := by
  simp [shift, h]

/-- The highest tap tells whether a bit has fallen out. -/
theorem msb_shift (h : taps.msb = true) (c : BitVec w) : (shift taps c).msb = c.getLsbD 0 := by
  unfold shift
  rw [BitVec.msb_xor, BitVec.msb_ushiftRight]
  cases c.getLsbD 0 <;> simp [h]

/-- A register that a shift makes empty was empty. -/
theorem eq_zero_of_shift (h : taps.msb = true) {c : BitVec w} (hc : shift taps c = 0#w) :
    c = 0#w := by
  have hlow : c.getLsbD 0 = false := by rw [← msb_shift taps h, hc, BitVec.msb_zero]
  rw [shift_of_low taps hlow] at hc
  apply BitVec.eq_of_getLsbD_eq
  intro i hi
  cases i with
  | zero => rw [hlow, BitVec.getLsbD_zero]
  | succ i =>
      have hbit := congrArg (BitVec.getLsbD · i) hc
      rw [BitVec.getLsbD_ushiftRight, BitVec.getLsbD_zero, Nat.add_comm] at hbit
      rw [hbit, BitVec.getLsbD_zero]

/-- **A shift loses nothing** when the highest bit is tapped. -/
theorem shift_injective (h : taps.msb = true) : Function.Injective (shift taps) := by
  intro c d hcd
  refine BitVec.xor_eq_zero_iff.mp (eq_zero_of_shift taps h ?_)
  rw [shift_xor, hcd, BitVec.xor_self]

@[simp] theorem shifts_zero_left (c : BitVec w) : shifts taps 0 c = c := rfl

/-- The first shift comes first. -/
theorem shifts_succ (n : ℕ) (c : BitVec w) :
    shifts taps (n + 1) c = shifts taps n (shift taps c) := rfl

/-- Shifts follow each other. -/
theorem shifts_add (m n : ℕ) (c : BitVec w) :
    shifts taps (m + n) c = shifts taps m (shifts taps n c) :=
  Function.iterate_add_apply (shift taps) m n c

/-- Shifts lose nothing when the highest bit is tapped. -/
theorem shifts_injective (h : taps.msb = true) (n : ℕ) : Function.Injective (shifts taps n) :=
  (shift_injective taps h).iterate n

/-- Shifts are linear. -/
theorem shifts_xor (n : ℕ) (c d : BitVec w) :
    shifts taps n (c ^^^ d) = shifts taps n c ^^^ shifts taps n d := by
  induction n generalizing c d with
  | zero => rfl
  | succ n ih => rw [shifts_succ, shifts_succ, shifts_succ, shift_xor, ih]

/-- A register whose low bits are not set only moves. -/
theorem shifts_of_low {n : ℕ} {c : BitVec w} (h : ∀ i < n, c.getLsbD i = false) :
    shifts taps n c = c >>> n := by
  induction n generalizing c with
  | zero => rw [shifts_zero_left, BitVec.ushiftRight_zero]
  | succ n ih =>
      rw [shifts_succ, shift_of_low taps (h 0 n.succ_pos), Nat.add_comm n 1, BitVec.shiftRight_add]
      refine ih fun i hi => ?_
      rw [BitVec.getLsbD_ushiftRight]
      exact h (1 + i) (by omega)

/-- What is moved up into an empty place comes down again. -/
theorem shifts_shiftLeft {n : ℕ} {c : BitVec w} (h : c <<< n >>> n = c) :
    shifts taps n (c <<< n) = c := by
  rw [shifts_of_low taps, h]
  intro i hi
  simp [BitVec.getLsbD_shiftLeft, hi]

/-- The low bits of a register. -/
def low (n : ℕ) (c : BitVec w) : BitVec w := (c.setWidth n).setWidth w

/-- The low bits are those below a place. -/
theorem getLsbD_low (n : ℕ) (c : BitVec w) (i : ℕ) :
    (low n c).getLsbD i = (decide (i < n) && c.getLsbD i) := by
  by_cases hi : i < w
  · simp [low, hi]
  · rw [BitVec.getLsbD_of_ge _ _ (by omega), BitVec.getLsbD_of_ge _ _ (by omega), Bool.and_false]

/-- Shifts of a register: those of its low bits, and the others at their new places. -/
theorem shifts_eq_low (n : ℕ) (c : BitVec w) :
    shifts taps n c = shifts taps n (low n c) ^^^ (c >>> n) := by
  have hsplit : low n c ^^^ (low n c ^^^ c) = c := by
    rw [← BitVec.xor_assoc, BitVec.xor_self, BitVec.zero_xor]
  have hlow : (low n c) >>> n = 0#w := by
    apply BitVec.eq_of_getLsbD_eq
    intro i _
    rw [BitVec.getLsbD_ushiftRight, getLsbD_low, decide_eq_false (by omega), Bool.false_and,
      BitVec.getLsbD_zero]
  have hhigh : shifts taps n (low n c ^^^ c) = c >>> n := by
    rw [shifts_of_low taps, BitVec.ushiftRight_xor_distrib, hlow, BitVec.zero_xor]
    intro i hi
    rw [BitVec.getLsbD_xor, getLsbD_low, decide_eq_true hi, Bool.true_and, Bool.xor_self]
  rw [← hhigh, ← shifts_xor, hsplit]

/-! ## Symbols -/

variable {s : ℕ}

/-- A symbol enters a register. -/
def feed (c : BitVec w) (symbol : BitVec s) : BitVec w := shifts taps s (c ^^^ symbol.setWidth w)

/-- Symbols enter a register, one after the other. -/
def feedAll (c : BitVec w) (symbols : List (BitVec s)) : BitVec w := symbols.foldl (feed taps) c

@[simp] theorem feedAll_nil (c : BitVec w) : feedAll taps c ([] : List (BitVec s)) = c := rfl

@[simp] theorem feedAll_cons (c : BitVec w) (b : BitVec s) (bs : List (BitVec s)) :
    feedAll taps c (b :: bs) = feedAll taps (feed taps c b) bs := rfl

/-- Symbols follow each other. -/
theorem feedAll_append (c : BitVec w) (bs ds : List (BitVec s)) :
    feedAll taps c (bs ++ ds) = feedAll taps (feedAll taps c bs) ds := List.foldl_append

/-- The same symbols do not make different registers equal. -/
theorem feedAll_injective (h : taps.msb = true) (bs : List (BitVec s)) :
    Function.Injective (feedAll taps · bs) := by
  induction bs with
  | nil => exact Function.injective_id
  | cons b bs ih =>
      intro c d hcd
      have hfeed := shifts_injective taps h s (ih hcd)
      exact (BitVec.xor_left_inj _).mp hfeed

/-- The word of some symbols, the first of them the lowest one. -/
def word (w : ℕ) : List (BitVec s) → BitVec w
  | [] => 0#w
  | b :: bs => b.setWidth w ^^^ (word w bs <<< s)

@[simp] theorem word_nil : word w ([] : List (BitVec s)) = 0#w := rfl

/-- A word is empty above its symbols. -/
theorem getLsbD_word_of_le (bs : List (BitVec s)) {i : ℕ} (h : s * bs.length ≤ i) :
    (word w bs).getLsbD i = false := by
  induction bs generalizing i with
  | nil => exact BitVec.getLsbD_zero
  | cons b bs ih =>
      rw [List.length_cons, Nat.mul_succ] at h
      rw [word, BitVec.getLsbD_xor, BitVec.getLsbD_shiftLeft, ih (by omega),
        BitVec.getLsbD_setWidth, BitVec.getLsbD_of_ge b i (by omega)]
      simp

/-- The first symbol of a word is below the others. -/
theorem word_cons_eq_or (b : BitVec s) (bs : List (BitVec s)) :
    word w (b :: bs) = b.setWidth w ||| (word w bs <<< s) := by
  apply BitVec.eq_of_getLsbD_eq
  intro i hi
  rw [word, BitVec.getLsbD_xor, BitVec.getLsbD_or, BitVec.getLsbD_setWidth,
    BitVec.getLsbD_shiftLeft]
  by_cases hplace : i < s
  · rw [decide_eq_true hplace]
    simp
  · rw [BitVec.getLsbD_of_ge b i (by omega)]
    simp

/-- Words of as many symbols are different when the symbols are. -/
theorem word_injective {bs ds : List (BitVec s)} (hlen : bs.length = ds.length)
    (hfit : s * bs.length ≤ w) (h : word w bs = word w ds) : bs = ds := by
  induction bs generalizing ds with
  | nil => exact (List.length_eq_zero_iff.mp hlen.symm).symm
  | cons b bs ih =>
      obtain ⟨d, ds, rfl⟩ := List.exists_cons_of_length_eq_add_one hlen.symm
      have hlen := Nat.succ.inj hlen
      rw [List.length_cons, Nat.mul_succ] at hfit
      have hhead : b = d := by
        apply BitVec.eq_of_getLsbD_eq
        intro i hi
        have hbit := congrArg (BitVec.getLsbD · i) h
        simpa [word, hi, show i < w by omega] using hbit
      have htail : word w bs <<< s = word w ds <<< s := by
        rw [word, word, hhead] at h
        exact (BitVec.xor_right_inj _).mp h
      rw [hhead, ih hlen (by omega) ?_]
      -- the bits above the other symbols are not set, so that none was lost
      apply BitVec.eq_of_getLsbD_eq
      intro i hi
      by_cases hplace : i + s < w
      · have hbit := congrArg (BitVec.getLsbD · (i + s)) htail
        simpa only [BitVec.getLsbD_shiftLeft, hplace, decide_true, Bool.true_and,
          show ¬ i + s < s by omega, decide_false, Bool.not_false, Nat.add_sub_cancel] using hbit
      · rw [getLsbD_word_of_le bs (by omega), getLsbD_word_of_le ds (by rw [← hlen]; omega)]

/-- A word of fewer symbols than fit into it has an empty place at its high end. -/
theorem word_shiftLeft (bs : List (BitVec s)) (hfit : s * (bs.length + 1) ≤ w) :
    word w bs <<< s >>> s = word w bs := by
  apply BitVec.eq_of_getLsbD_eq
  intro i hi
  rw [Nat.mul_succ] at hfit
  by_cases hplace : s + i < w
  · simp only [BitVec.getLsbD_ushiftRight, BitVec.getLsbD_shiftLeft, hplace, decide_true,
      Bool.true_and, show ¬ s + i < s by omega, decide_false, Bool.not_false, Nat.add_sub_cancel_left]
  · rw [getLsbD_word_of_le bs (by omega), BitVec.getLsbD_ushiftRight,
      BitVec.getLsbD_of_ge _ _ (by omega)]

/-- **Symbols that fit into a register could have entered it all at once.** -/
theorem feedAll_eq_shifts (c : BitVec w) (bs : List (BitVec s)) (hfit : s * bs.length ≤ w) :
    feedAll taps c bs = shifts taps (s * bs.length) (c ^^^ word w bs) := by
  induction bs generalizing c with
  | nil => rw [feedAll_nil, word, BitVec.xor_zero, List.length_nil, Nat.mul_zero, shifts_zero_left]
  | cons b bs ih =>
      rw [List.length_cons] at hfit
      have hdown : shifts taps s (word w bs <<< s) = word w bs :=
        shifts_shiftLeft taps (word_shiftLeft bs hfit)
      rw [feedAll_cons, ih _ (Nat.le_trans (Nat.mul_le_mul_left s (Nat.le_succ _)) hfit), feed,
        List.length_cons, Nat.mul_succ, shifts_add, word, ← BitVec.xor_assoc,
        shifts_xor taps s (c ^^^ b.setWidth w), hdown]

/-- Sequences that fit into a register are told apart. -/
theorem feedAll_ne_of_fit (h : taps.msb = true) (c : BitVec w) {bs ds : List (BitVec s)}
    (hlen : bs.length = ds.length) (hfit : s * bs.length ≤ w) (hne : bs ≠ ds) :
    feedAll taps c bs ≠ feedAll taps c ds := by
  intro heq
  rw [feedAll_eq_shifts taps c bs hfit, feedAll_eq_shifts taps c ds (hlen ▸ hfit), ← hlen] at heq
  have hword := (BitVec.xor_right_inj _).mp (shifts_injective taps h _ heq)
  exact hne (word_injective hlen hfit hword)

/-- **Sequences that differ within the width of the register only are told apart.** -/
theorem feedAll_burst_ne (h : taps.msb = true) (c : BitVec w) (before after : List (BitVec s))
    {bs ds : List (BitVec s)} (hlen : bs.length = ds.length) (hfit : s * bs.length ≤ w)
    (hne : bs ≠ ds) :
    feedAll taps c (before ++ bs ++ after) ≠ feedAll taps c (before ++ ds ++ after) := by
  intro heq
  rw [feedAll_append, feedAll_append, feedAll_append, feedAll_append] at heq
  exact feedAll_ne_of_fit taps h _ hlen hfit hne (feedAll_injective taps h after heq)

/-! ## Words in symbols -/

/-- The lowest symbols of a word. -/
def symbols (s : ℕ) {v : ℕ} : ℕ → BitVec v → List (BitVec s)
  | 0, _ => []
  | n + 1, x => x.setWidth s :: symbols s n (x >>> s)

@[simp] theorem length_symbols {v : ℕ} (n : ℕ) (x : BitVec v) : (symbols s n x).length = n := by
  induction n generalizing x with
  | zero => rfl
  | succ n ih => rw [symbols, List.length_cons, ih]

/-- The word of the lowest symbols has the lowest bits. -/
theorem getLsbD_word_symbols {v : ℕ} (n : ℕ) (x : BitVec v) {i : ℕ} (hi : i < w) :
    (word w (symbols s n x)).getLsbD i = (decide (i < s * n) && x.getLsbD i) := by
  induction n generalizing x i with
  | zero => rw [symbols, word, BitVec.getLsbD_zero, Nat.mul_zero, decide_eq_false (by omega),
      Bool.false_and]
  | succ n ih =>
      rw [symbols, word, BitVec.getLsbD_xor, BitVec.getLsbD_shiftLeft, Nat.mul_succ]
      by_cases hplace : i < s
      · simp [hi, hplace, show i < s * n + s by omega]
      · rw [ih _ (by omega), BitVec.getLsbD_ushiftRight, show s + (i - s) = i by omega]
        simp [hi, hplace, show i - s < s * n ↔ i < s * n + s by omega]

/-- The symbols of a word are that word. -/
theorem word_symbols {v : ℕ} {n : ℕ} (hfit : v ≤ s * n) (x : BitVec v) :
    word w (symbols s n x) = x.setWidth w := by
  apply BitVec.eq_of_getLsbD_eq
  intro i hi
  rw [getLsbD_word_symbols n x hi, BitVec.getLsbD_setWidth, decide_eq_true hi]
  by_cases hplace : i < s * n
  · rw [decide_eq_true hplace]
  · rw [BitVec.getLsbD_of_ge x i (by omega), Bool.and_false, Bool.and_false]

/-- A symbol enters a register as the symbols that it consists of. -/
theorem feed_eq_feedAll_symbols {v n : ℕ} (hfit : v = s * n) (hw : v ≤ w) (c : BitVec w)
    (x : BitVec v) : feed taps c x = feedAll taps c (symbols s n x) := by
  rw [feedAll_eq_shifts taps c _ (by rw [length_symbols]; omega), length_symbols,
    word_symbols (by omega), feed, ← hfit]

/-- Larger symbols enter a register as the smaller ones that they consist of. -/
theorem feedAll_eq_feedAll_symbols {v n : ℕ} (hfit : v = s * n) (hw : v ≤ w) (c : BitVec w)
    (xs : List (BitVec v)) : feedAll taps c xs = feedAll taps c (xs.flatMap (symbols s n)) := by
  induction xs generalizing c with
  | nil => rfl
  | cons x xs ih =>
      rw [feedAll_cons, ih, feed_eq_feedAll_symbols taps hfit hw, List.flatMap_cons, feedAll_append]

/-- **The contents of a register could have been the first symbols of an empty one.** -/
theorem feedAll_append_eq_zero (c : BitVec w) (bs ds : List (BitVec s))
    (hfit : w = s * bs.length) :
    feedAll taps c (bs ++ ds) =
      feedAll taps 0#w (symbols s bs.length (c ^^^ word w bs) ++ ds) := by
  rw [feedAll_append, feedAll_append, feedAll_eq_shifts taps c bs (by omega),
    feedAll_eq_shifts taps 0#w _ (by rw [length_symbols]; omega), length_symbols,
    word_symbols (by omega), BitVec.setWidth_eq, BitVec.zero_xor]

/-- What entered a register, and what was in it. -/
theorem feedAll_eq_xor (c : BitVec w) (bs : List (BitVec s)) :
    feedAll taps c bs = shifts taps (s * bs.length) c ^^^ feedAll taps 0#w bs := by
  induction bs generalizing c with
  | nil => rw [feedAll_nil, feedAll_nil, BitVec.xor_zero, List.length_nil, Nat.mul_zero,
      shifts_zero_left]
  | cons b bs ih =>
      rw [feedAll_cons, feedAll_cons, ih, ih (feed taps 0#w b), feed, feed, BitVec.zero_xor,
        shifts_xor, shifts_xor, List.length_cons, Nat.mul_succ, shifts_add, BitVec.xor_assoc]

/-- Each symbol has its own share in what is left in the register. -/
theorem feedAll_zero_cons (b : BitVec s) (bs : List (BitVec s)) :
    feedAll taps 0#w (b :: bs) =
      shifts taps (s * (bs.length + 1)) (b.setWidth w) ^^^ feedAll taps 0#w bs := by
  rw [feedAll_cons, feedAll_eq_xor, feed, BitVec.zero_xor, Nat.mul_succ, shifts_add]

end ShiftRegister
