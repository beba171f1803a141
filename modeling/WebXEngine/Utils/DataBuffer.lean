import Mathlib.Algebra.Group.Nat.Defs
import Mathlib.Tactic.Common
import WebXEngine.Utils.Fault

/-! # Data buffers

A buffer that grows: the bytes that are appended are copied to the end of a block of memory, and a
larger block is asked for when they do not fit. The memory may be refused.

* **`WebXDataBuffer`** — the pointer, the capacity and the size, with `appendData` and `reset`.
* **`AtomicGrowth`** — every append stores its bytes, or fails and changes nothing.
* **`atomicGrowth_iff`** — growth is atomic unless memory is refused to a buffer that has a block, or
  the block of an initial capacity was refused. -/

namespace WebXEngine

/-! ## Memory -/

/-- A block of memory, which is not at the address 0. -/
structure Block where
  address : UInt64
  length : ℕ
  byte : ℕ → UInt8

/-- The answer to a request for memory: it is refused, or a block is given, at an address and with
some bytes. -/
abbrev Allocation := Option (UInt64 × (ℕ → UInt8))

namespace Block

/-- The first bytes of a block. -/
def first (block : Block) (size : ℕ) : List UInt8 := (List.range size).map block.byte

/-- The block when bytes have been copied to an offset. -/
def copy (block : Block) (offset : ℕ) (data : List UInt8) : Block :=
  { block with
    byte := fun i =>
      if i < offset then block.byte i else data[i - offset]?.getD (block.byte i) }

end Block

/-- Memory for a number of bytes. -/
def malloc (allocation : Allocation) (capacity : UInt64) : Option Block :=
  allocation.map fun (address, byte) => { address := address, length := capacity.toNat, byte := byte }

/-- Memory for a number of bytes, in the place of a block, the bytes of which are kept. -/
def realloc (allocation : Allocation) (buffer : Option Block) (capacity : UInt64) : Option Block :=
  match buffer with
  | none => malloc allocation capacity
  | some block => allocation.map fun (address, byte) =>
      { address := address
        length := capacity.toNat
        byte := fun i => if i < block.length then block.byte i else byte i }

/-- A copy of bytes to an offset of a block. A copy of no bytes uses no memory. -/
def memcpy (buffer : Option Block) (offset : ℕ) (data : List UInt8) :
    Except Fault (Option Block) :=
  if data = [] then
    pure buffer
  else
    match buffer with
    | none => throw .nullDereference
    | some block =>
        if offset + data.length ≤ block.length then pure (some (block.copy offset data))
        else throw .outOfBounds

/-! ## Buffers -/

/-- A dynamic buffer for binary data. -/
structure WebXDataBuffer where
  buffer : Option Block
  capacity : UInt64
  size : UInt64

namespace WebXDataBuffer

/-- An empty buffer. -/
def empty : WebXDataBuffer := { buffer := none, capacity := 0, size := 0 }

/-- A buffer with an initial capacity. -/
def preallocated (allocation : Allocation) (initialCapacity : UInt64) : WebXDataBuffer :=
  { buffer := malloc allocation initialCapacity, capacity := initialCapacity, size := 0 }

/-- A buffer around a block. -/
def wrapped (buffer : Option Block) (bufferSize : UInt64) : WebXDataBuffer :=
  { buffer := buffer, capacity := bufferSize, size := bufferSize }

/-- The size is set to 0; the memory is kept. -/
def reset (b : WebXDataBuffer) : WebXDataBuffer := { b with size := 0 }

/-- A power of two that is not less than a number; of a number of more than 32 bits only a number that
is not less. -/
def upperPowerOfTwo (v : UInt64) : UInt64 :=
  let v := v - 1
  let v := v ||| v >>> 1
  let v := v ||| v >>> 2
  let v := v ||| v >>> 4
  let v := v ||| v >>> 8
  let v := v ||| v >>> 16
  v + 1

/-- The loop that grows the capacity; no value if it has not ended after a number of rounds. -/
def growCapacity (newSize : UInt64) : ℕ → UInt64 → Option UInt64
  | 0, _ => none
  | rounds + 1, capacity =>
      if newSize > capacity then
        growCapacity newSize rounds
          (if capacity = 0 then upperPowerOfTwo newSize else capacity * 2)
      else
        some capacity

/-- The copy at the end of an append. -/
def copyData (b : WebXDataBuffer) (data : List UInt8) (newSize : UInt64) :
    Except Fault (Bool × WebXDataBuffer) := do
  let buffer ← memcpy b.buffer b.size.toNat data
  return (true, { b with buffer := buffer, size := newSize })

/-- The memory for a capacity that is larger. -/
def allocate (b : WebXDataBuffer) (allocation : Allocation) (capacity : UInt64) : Option Block :=
  if b.capacity = 0 then malloc allocation capacity else realloc allocation b.buffer capacity

/-- An append when the capacity that it needs is known. -/
def appendGrown (b : WebXDataBuffer) (allocation : Allocation) (data : List UInt8)
    (newSize capacity : UInt64) : Except Fault (Bool × WebXDataBuffer) :=
  if capacity > b.capacity then
    match b.allocate allocation capacity with
    | none => pure (false, { b with buffer := none })
    | some block => copyData { b with buffer := some block, capacity := capacity } data newSize
  else
    copyData b data newSize

/-- Data that is appended, with the answer to the request for memory if there is one; no value if the
loop that grows the capacity has not ended after a number of rounds. -/
def appendData (rounds : ℕ) (b : WebXDataBuffer) (allocation : Allocation) (data : List UInt8) :
    Option (Except Fault (Bool × WebXDataBuffer)) := do
  let newSize := b.size + UInt64.ofNat data.length
  let capacity ← growCapacity newSize rounds b.capacity
  return b.appendGrown allocation data newSize capacity

end WebXDataBuffer

/-! ## The capacity -/

/-- A number with its own upper bits in the lower ones is not less, and has as many bits. -/
theorem le_or_shiftRight {v : UInt64} (shift : UInt64) (h : v.toNat < 2 ^ 63) :
    v.toNat ≤ (v ||| v >>> shift).toNat ∧ (v ||| v >>> shift).toNat < 2 ^ 63 := by
  rw [UInt64.toNat_or, UInt64.toNat_shiftRight]
  exact ⟨Nat.left_le_or, Nat.or_lt_two_pow h (Nat.lt_of_le_of_lt (Nat.shiftRight_le _ _) h)⟩

namespace WebXDataBuffer

/-- The capacity is not less than what was asked for. -/
theorem le_upperPowerOfTwo {v : UInt64} (hpos : 0 < v) (h : v.toNat < 2 ^ 63) :
    v ≤ upperPowerOfTwo v := by
  have hone : (1 : UInt64) ≤ v := UInt64.le_iff_toNat_le.mpr (UInt64.lt_iff_toNat_lt.mp hpos)
  have hsub := UInt64.toNat_sub_of_le _ _ hone
  have honeNat : (1 : UInt64).toNat = 1 := rfl
  have hposNat : 0 < v.toNat := UInt64.lt_iff_toNat_lt.mp hpos
  obtain ⟨hle1, hlt1⟩ := le_or_shiftRight (v := v - 1) 1 (by omega)
  obtain ⟨hle2, hlt2⟩ := le_or_shiftRight 2 hlt1
  obtain ⟨hle4, hlt4⟩ := le_or_shiftRight 4 hlt2
  obtain ⟨hle8, hlt8⟩ := le_or_shiftRight 8 hlt4
  obtain ⟨hle16, hlt16⟩ := le_or_shiftRight 16 hlt8
  rw [UInt64.le_iff_toNat_le, upperPowerOfTwo, UInt64.toNat_add, Nat.mod_eq_of_lt (by omega)]
  omega

/-- The loop ends when the first capacity is not 0. -/
theorem exists_growCapacity_of_pos {newSize : UInt64} (hsmall : newSize.toNat < 2 ^ 63)
    {doublings rounds : ℕ} {capacity : UInt64} (hpos : 0 < capacity.toNat)
    (hle : newSize.toNat ≤ capacity.toNat * 2 ^ doublings) (hrounds : doublings < rounds) :
    ∃ grown, growCapacity newSize rounds capacity = some grown ∧ newSize ≤ grown := by
  induction doublings generalizing rounds capacity with
  | zero =>
    obtain ⟨rounds, rfl⟩ := Nat.exists_eq_add_of_lt hrounds
    rw [Nat.pow_zero, Nat.mul_one, ← UInt64.le_iff_toNat_le] at hle
    exact ⟨capacity, if_neg (UInt64.not_lt.mpr hle), hle⟩
  | succ doublings ih =>
    obtain ⟨rounds, rfl⟩ : ∃ n, rounds = n + 1 := ⟨rounds - 1, by omega⟩
    rw [growCapacity]
    split_ifs with hgt hzero
    · exact absurd (congrArg UInt64.toNat hzero) (Nat.ne_of_gt hpos)
    · -- the capacity is less than the size, and so its double does not overflow
      have hlt := UInt64.lt_iff_toNat_lt.mp hgt
      have hdouble : (capacity * 2).toNat = capacity.toNat * 2 := by
        rw [UInt64.toNat_mul]
        exact Nat.mod_eq_of_lt (show capacity.toNat * 2 < 2 ^ 64 by omega)
      refine ih (by omega) ?_ (by omega)
      rw [hdouble, Nat.mul_assoc, ← Nat.pow_succ']
      exact hle
    · exact ⟨capacity, rfl, UInt64.not_lt.mp hgt⟩

/-- **The loop ends** with a capacity that is large enough, after at most 64 rounds. -/
theorem exists_growCapacity {newSize : UInt64} (hsmall : newSize.toNat < 2 ^ 63) {rounds : ℕ}
    (hrounds : 64 ≤ rounds) (capacity : UInt64) :
    ∃ grown, growCapacity newSize rounds capacity = some grown ∧ newSize ≤ grown := by
  rcases Nat.eq_zero_or_pos capacity.toNat with hzero | hpos
  · -- the first round goes to a power of two, or to some larger number
    obtain rfl : capacity = 0 := UInt64.toNat_inj.mp hzero
    obtain ⟨rounds, rfl⟩ : ∃ n, rounds = n + 2 := ⟨rounds - 2, by omega⟩
    rw [growCapacity, if_pos rfl]
    split_ifs with hgt
    · have hle := le_upperPowerOfTwo hgt hsmall
      exact ⟨upperPowerOfTwo newSize, if_neg (UInt64.not_lt.mpr hle), hle⟩
    · exact ⟨0, rfl, UInt64.not_lt.mp hgt⟩
  · have hle : newSize.toNat ≤ capacity.toNat * 2 ^ 63 :=
      Nat.le_trans (Nat.le_of_lt hsmall) (Nat.le_mul_of_pos_left _ hpos)
    exact exists_growCapacity_of_pos hsmall hpos hle (by omega)

/-- An append is one with a capacity that is large enough: the one that the buffer has, if this is. -/
theorem exists_appendGrown (b : WebXDataBuffer) (allocation : Allocation) {data : List UInt8}
    (hsmall : (b.size + UInt64.ofNat data.length).toNat < 2 ^ 63) {rounds : ℕ}
    (hrounds : 64 ≤ rounds) :
    ∃ grown, b.size + UInt64.ofNat data.length ≤ grown ∧
      (b.size + UInt64.ofNat data.length ≤ b.capacity → grown = b.capacity) ∧
      b.appendData rounds allocation data =
        some (b.appendGrown allocation data (b.size + UInt64.ofNat data.length) grown) := by
  obtain ⟨grown, hgrow, hle⟩ := exists_growCapacity hsmall hrounds b.capacity
  refine ⟨grown, hle, fun hfits => ?_, by rw [appendData, hgrow]; rfl⟩
  obtain ⟨rounds, rfl⟩ : ∃ n, rounds = n + 1 := ⟨rounds - 1, by omega⟩
  rw [growCapacity, if_neg (UInt64.not_lt.mpr hfits)] at hgrow
  exact (Option.some.inj hgrow).symm

/-- A buffer that is large enough is not allocated again. -/
theorem appendGrown_self (b : WebXDataBuffer) (allocation : Allocation) (data : List UInt8)
    (newSize : UInt64) :
    b.appendGrown allocation data newSize b.capacity = b.copyData data newSize :=
  if_neg (UInt64.lt_irrefl _)

/-- Without memory the append fails, and the block is lost. -/
theorem appendGrown_of_none {b : WebXDataBuffer} {allocation : Allocation} {capacity : UInt64}
    (hgrown : b.capacity < capacity) (h : b.allocate allocation capacity = none)
    (data : List UInt8) (newSize : UInt64) :
    b.appendGrown allocation data newSize capacity = .ok (false, { b with buffer := none }) := by
  rw [appendGrown, if_pos hgrown, h]
  rfl

/-- With memory the data are copied into the new block. -/
theorem appendGrown_of_some {b : WebXDataBuffer} {allocation : Allocation} {capacity : UInt64}
    (hgrown : b.capacity < capacity) {block : Block} (h : b.allocate allocation capacity = some block)
    (data : List UInt8) (newSize : UInt64) :
    b.appendGrown allocation data newSize capacity =
      copyData { b with buffer := some block, capacity := capacity } data newSize := by
  rw [appendGrown, if_pos hgrown, h]

/-- Memory that is refused is not there. -/
theorem allocate_none (b : WebXDataBuffer) (capacity : UInt64) : b.allocate none capacity = none := by
  rw [allocate]
  split_ifs
  · rfl
  · cases b.buffer <;> rfl

/-! ## What a buffer stores -/

/-- The bytes that a buffer stores, if they are in its block. -/
def stored (b : WebXDataBuffer) : Option (List UInt8) :=
  if b.size = 0 then some []
  else b.buffer.bind fun block =>
    if b.size.toNat ≤ block.length then some (block.first b.size.toNat) else none

end WebXDataBuffer

/-- A buffer when it has been made, with the bytes that it stores. -/
inductive Constructed : WebXDataBuffer → List UInt8 → Prop
  | empty : Constructed .empty []
  | preallocated (allocation : Allocation) (initialCapacity : UInt64) :
      Constructed (.preallocated allocation initialCapacity) []
  | wrapped (block : Block) (bufferSize : UInt64) (h : bufferSize.toNat ≤ block.length) :
      Constructed (.wrapped (some block) bufferSize) (block.first bufferSize.toNat)

/-- A call on a buffer; an append with the answer to its request for memory. -/
inductive BufferCall
  | appendData (allocation : Allocation) (data : List UInt8)
  | reset

namespace BufferCall

/-- What a call does: the value that it returns and the buffer after it. -/
def run (rounds : ℕ) (b : WebXDataBuffer) :
    BufferCall → Option (Except Fault (Bool × WebXDataBuffer))
  | appendData allocation data => b.appendData rounds allocation data
  | reset => some (.ok (true, b.reset))

/-- The bytes that are stored after a call that succeeds. -/
def contentsAfter (contents : List UInt8) : BufferCall → List UInt8
  | appendData _ data => contents ++ data
  | reset => []

/-- The total size after a call. -/
def sizeAfter (size : ℕ) : BufferCall → ℕ
  | appendData _ data => size + data.length
  | reset => 0

/-- The memory that a call needs is there: an append that does not fit in the capacity is given memory
if there is a block, and there is a block for an append that fits. -/
def MemoryGiven (b : WebXDataBuffer) : BufferCall → Prop
  | appendData allocation data =>
      if b.capacity < b.size + UInt64.ofNat data.length then
        b.buffer.isSome → allocation.isSome
      else
        data ≠ [] → b.buffer.isSome
  | reset => True

end BufferCall

/-- The total size of what is appended between two resets is below a bound. -/
def TotalBelow (bound : ℕ) : ℕ → List BufferCall → Prop
  | size, [] => size < bound
  | size, call :: calls => size < bound ∧ TotalBelow bound (call.sizeAfter size) calls

/-- A buffer stores some bytes, and their number is not more than its capacity. -/
structure WebXDataBuffer.Stores (b : WebXDataBuffer) (contents : List UInt8) : Prop where
  size : b.size.toNat = contents.length
  size_le : b.size ≤ b.capacity
  stored : b.stored = some contents

/-- **Growth is atomic** in a sequence of calls: each one ends, the bytes that are appended are stored,
and a call that fails leaves the buffer as it is. -/
def AtomicGrowth (rounds : ℕ) : WebXDataBuffer → List UInt8 → List BufferCall → Prop
  | b, contents, [] => b.Stores contents
  | b, contents, call :: calls =>
      b.Stores contents ∧ ∃ success next, call.run rounds b = some (.ok (success, next)) ∧
        (success = false → next = b) ∧
        AtomicGrowth rounds next (if success then call.contentsAfter contents else contents) calls

/-- The memory that the calls of a sequence need is there, for each of them in the state before it. -/
def AllMemoryGiven (rounds : ℕ) : WebXDataBuffer → List BufferCall → Prop
  | _, [] => True
  | b, call :: calls => call.MemoryGiven b ∧
      ∀ success next, call.run rounds b = some (.ok (success, next)) →
        AllMemoryGiven rounds next calls

/-! ## The invariant -/

/-- What holds of a buffer as long as no memory that it has is lost: its block is as long as its
capacity at least, and a buffer without a block stores nothing. -/
structure WebXDataBuffer.Sound (b : WebXDataBuffer) (contents : List UInt8) : Prop where
  size : b.size.toNat = contents.length
  size_le : b.size ≤ b.capacity
  length : ∀ block, b.buffer = some block → b.capacity.toNat ≤ block.length
  first : ∀ block, b.buffer = some block → block.first b.size.toNat = contents
  null : b.buffer = none → contents = []

/-- The first bytes are as many as asked for. -/
theorem Block.length_first (block : Block) (size : ℕ) : (block.first size).length = size := by
  rw [Block.first, List.length_map, List.length_range]

/-- The first bytes of a block after a copy behind them. -/
theorem Block.first_copy (block : Block) (offset : ℕ) (data : List UInt8) :
    (block.copy offset data).first (offset + data.length) = block.first offset ++ data := by
  rw [Block.first, List.range_add, List.map_append, List.map_map]
  congr 1
  · refine List.map_congr_left fun i hi => ?_
    exact if_pos (List.mem_range.mp hi)
  · refine List.ext_getElem (by rw [List.length_map, List.length_range]) fun i hi hi' => ?_
    rw [List.getElem_map, List.getElem_range]
    change (if offset + i < offset then _ else _) = _
    rw [if_neg (by omega), Nat.add_sub_cancel_left, List.getElem?_eq_getElem hi', Option.getD_some]

namespace WebXDataBuffer.Sound

variable {b : WebXDataBuffer} {contents : List UInt8}

/-- The bytes of a sound buffer are stored. -/
theorem stores (h : b.Sound contents) : b.Stores contents := by
  refine ⟨h.size, h.size_le, ?_⟩
  rw [WebXDataBuffer.stored]
  split_ifs with hzero
  · have hlength : contents.length = 0 := h.size.symm.trans (congrArg UInt64.toNat hzero)
    rw [List.eq_nil_of_length_eq_zero hlength]
  · obtain hnone | ⟨block, hblock⟩ := b.buffer.eq_none_or_eq_some
    · refine absurd (UInt64.toNat_inj.mp ?_) hzero
      rw [h.size, h.null hnone]
      rfl
    · have hlength := h.length block hblock
      have hle := UInt64.le_iff_toNat_le.mp h.size_le
      rw [hblock, Option.bind_some, if_pos (by omega), h.first block hblock]

/-- The copy of data that fits in the capacity. -/
theorem copyData (h : b.Sound contents) {data : List UInt8} {newSize : UInt64}
    (hsize : newSize.toNat = contents.length + data.length) (hfits : newSize ≤ b.capacity)
    (hbuffer : data ≠ [] → b.buffer.isSome) :
    ∃ next, b.copyData data newSize = .ok (true, next) ∧ next.Sound (contents ++ data) := by
  by_cases hdata : data = []
  -- a copy of no bytes: the buffer may have no memory
  · subst hdata
    have hsame : newSize.toNat = b.size.toNat := by rw [hsize, h.size]; rfl
    refine ⟨{ b with size := newSize }, rfl, ?_⟩
    rw [List.append_nil]
    exact ⟨hsize, hfits, h.length, fun block hblock => hsame ▸ h.first block hblock, h.null⟩
  · obtain ⟨block, hblock⟩ := Option.isSome_iff_exists.mp (hbuffer hdata)
    have hlength := h.length block hblock
    have hle := UInt64.le_iff_toNat_le.mp hfits
    have hcopy : memcpy b.buffer b.size.toNat data =
        .ok (some (block.copy b.size.toNat data)) := by
      rw [hblock]
      exact (if_neg hdata).trans (if_pos (by rw [h.size]; omega))
    refine ⟨_, by rw [WebXDataBuffer.copyData, hcopy]; rfl, ?_⟩
    refine ⟨by rw [List.length_append]; exact hsize, hfits, ?_, ?_, fun hnone => nomatch hnone⟩
    · rintro _ ⟨⟩
      exact hlength
    · rintro _ ⟨⟩
      change (block.copy b.size.toNat data).first newSize.toNat = _
      rw [hsize, ← h.size, Block.first_copy, h.first block hblock]

/-- A buffer with a larger block that begins with its contents. -/
theorem withBlock (h : b.Sound contents) {capacity : UInt64} (hgrown : b.capacity < capacity)
    {block : Block} (hlength : block.length = capacity.toNat)
    (hfirst : block.first b.size.toNat = contents) :
    WebXDataBuffer.Sound { b with buffer := some block, capacity := capacity } contents := by
  refine ⟨h.size, UInt64.le_of_lt (UInt64.lt_of_le_of_lt h.size_le hgrown), ?_, ?_,
    fun hnone => nomatch hnone⟩
  · rintro _ ⟨⟩
    exact Nat.le_of_eq hlength.symm
  · rintro _ ⟨⟩
    exact hfirst

/-- Without contents, every block begins with them. -/
theorem first_of_nil (h : b.Sound contents) (hcontents : contents = []) (block : Block) :
    block.first b.size.toNat = contents := by
  rw [h.size, hcontents]
  rfl

/-- A buffer whose memory has grown. -/
theorem allocate (h : b.Sound contents) {capacity : UInt64} (hgrown : b.capacity < capacity)
    (memory : UInt64 × (ℕ → UInt8)) :
    ∃ block, b.allocate (some memory) capacity = some block ∧
      WebXDataBuffer.Sound { b with buffer := some block, capacity := capacity } contents := by
  obtain ⟨address, byte⟩ := memory
  have hle := UInt64.le_iff_toNat_le.mp h.size_le
  rw [WebXDataBuffer.allocate]
  split_ifs with hzero
  · have hcontents : contents = [] := by
      refine List.eq_nil_of_length_eq_zero (h.size.symm.trans (Nat.eq_zero_of_le_zero ?_))
      rwa [hzero] at hle
    exact ⟨_, rfl, h.withBlock hgrown rfl (h.first_of_nil hcontents _)⟩
  · obtain hnone | ⟨block, hblock⟩ := b.buffer.eq_none_or_eq_some
    · rw [hnone]
      exact ⟨_, rfl, h.withBlock hgrown rfl (h.first_of_nil (h.null hnone) _)⟩
    · rw [hblock]
      refine ⟨_, rfl, h.withBlock hgrown rfl ?_⟩
      -- the bytes of the block are kept, and the contents are within it
      rw [← h.first block hblock]
      have hlength := h.length block hblock
      refine List.map_congr_left fun i hi => if_pos ?_
      have hi := List.mem_range.mp hi
      omega

/-- The size after an append does not overflow. -/
theorem toNat_newSize (h : b.Sound contents) {data : List UInt8}
    (hsmall : contents.length + data.length < 2 ^ 63) :
    (b.size + UInt64.ofNat data.length).toNat = contents.length + data.length := by
  rw [UInt64.toNat_add, UInt64.toNat_ofNat', h.size, Nat.mod_eq_of_lt (a := data.length) (by omega),
    Nat.mod_eq_of_lt (by omega)]

/-- **An append for which the memory is there** ends, and it stores the bytes or fails and changes
nothing. -/
theorem appendData (h : b.Sound contents) {rounds : ℕ} (hrounds : 64 ≤ rounds)
    {allocation : Allocation} {data : List UInt8} (hsmall : contents.length + data.length < 2 ^ 63)
    (hgiven : (BufferCall.appendData allocation data).MemoryGiven b) :
    ∃ success next, b.appendData rounds allocation data = some (.ok (success, next)) ∧
      (success = false → next = b) ∧
      next.Sound (if success then contents ++ data else contents) := by
  have hsize := h.toNat_newSize hsmall
  obtain ⟨grown, hle, hsame, happend⟩ := b.exists_appendGrown allocation (hsize ▸ hsmall) hrounds
  rw [happend]
  rw [BufferCall.MemoryGiven] at hgiven
  split_ifs at hgiven with hlarge
  · -- the data does not fit
    have hgrown : b.capacity < grown := UInt64.lt_of_lt_of_le hlarge hle
    cases allocation with
    | none =>
      have hnone : b.buffer = none := Option.not_isSome_iff_eq_none.mp fun hsome => nomatch hgiven hsome
      refine ⟨false, b, ?_, fun _ => rfl, h⟩
      rw [appendGrown_of_none hgrown (b.allocate_none grown), ← hnone]
    | some memory =>
      obtain ⟨block, hblock, hsound⟩ := h.allocate hgrown memory
      obtain ⟨next, hcopy, hnext⟩ := hsound.copyData hsize hle fun _ => rfl
      refine ⟨true, next, ?_, (fun hfalse => nomatch hfalse), hnext⟩
      rw [appendGrown_of_some hgrown hblock, hcopy]
  · -- the data fits
    have hfits := UInt64.not_lt.mp hlarge
    obtain ⟨next, hcopy, hnext⟩ := h.copyData hsize hfits hgiven
    refine ⟨true, next, ?_, (fun hfalse => nomatch hfalse), hnext⟩
    rw [hsame hfits, appendGrown_self, hcopy]

/-- **An append for which the memory is not there** faults, or it loses the block. -/
theorem memoryGiven_of_appendData (h : b.Sound contents) {rounds : ℕ} (hrounds : 64 ≤ rounds)
    {allocation : Allocation} {data : List UInt8} (hsmall : contents.length + data.length < 2 ^ 63)
    {success : Bool} {next : WebXDataBuffer}
    (happends : b.appendData rounds allocation data = some (.ok (success, next)))
    (hkept : success = false → next = b) :
    (BufferCall.appendData allocation data).MemoryGiven b := by
  have hsize := h.toNat_newSize hsmall
  obtain ⟨grown, hle, hsame, happend⟩ := b.exists_appendGrown allocation (hsize ▸ hsmall) hrounds
  rw [happend, Option.some_inj] at happends
  rw [BufferCall.MemoryGiven]
  split_ifs with hlarge
  · intro hsome
    have hgrown : b.capacity < grown := UInt64.lt_of_lt_of_le hlarge hle
    cases allocation with
    | none =>
      rw [appendGrown_of_none hgrown (b.allocate_none grown)] at happends
      obtain ⟨rfl, rfl⟩ := Prod.mk.inj (Except.ok.inj happends)
      rw [← hkept rfl] at hsome
      exact nomatch hsome
    | some memory => rfl
  · intro hdata
    by_contra hnone
    rw [Option.not_isSome_iff_eq_none] at hnone
    rw [hsame (UInt64.not_lt.mp hlarge), appendGrown_self, WebXDataBuffer.copyData, hnone, memcpy,
      if_neg hdata] at happends
    exact nomatch happends

/-- A call for which the memory is there ends with a sound buffer. -/
theorem run (h : b.Sound contents) {rounds : ℕ} (hrounds : 64 ≤ rounds) {call : BufferCall}
    (hsmall : call.sizeAfter contents.length < 2 ^ 63) (hgiven : call.MemoryGiven b) :
    ∃ success next, call.run rounds b = some (.ok (success, next)) ∧ (success = false → next = b) ∧
      next.Sound (if success then call.contentsAfter contents else contents) ∧
      (if success then call.contentsAfter contents else contents).length ≤
        call.sizeAfter contents.length := by
  cases call with
  | appendData allocation data =>
    obtain ⟨success, next, happend, hkept, hnext⟩ := h.appendData hrounds hsmall hgiven
    refine ⟨success, next, happend, hkept, hnext, ?_⟩
    cases success
    · exact Nat.le_add_right _ _
    · exact Nat.le_of_eq List.length_append
  | reset =>
    refine ⟨true, b.reset, rfl, (fun hfalse => nomatch hfalse), ?_, Nat.le_refl 0⟩
    exact ⟨rfl, UInt64.le_iff_toNat_le.mpr (Nat.zero_le _), h.length, fun _ _ => rfl, fun _ => rfl⟩

/-- The memory is there for a call that ends, and changes nothing if it fails. -/
theorem memoryGiven_of_run (h : b.Sound contents) {rounds : ℕ} (hrounds : 64 ≤ rounds)
    {call : BufferCall} (hsmall : call.sizeAfter contents.length < 2 ^ 63) {success : Bool}
    {next : WebXDataBuffer} (hrun : call.run rounds b = some (.ok (success, next)))
    (hkept : success = false → next = b) : call.MemoryGiven b := by
  cases call with
  | appendData allocation data => exact h.memoryGiven_of_appendData hrounds hsmall hrun hkept
  | reset => exact trivial

end WebXDataBuffer.Sound

/-- A buffer is sound when it has been made. -/
theorem Constructed.sound {b : WebXDataBuffer} {contents : List UInt8} (h : Constructed b contents) :
    b.Sound contents := by
  cases h with
  | empty =>
    exact ⟨rfl, UInt64.le_refl _, (fun _ hsome => nomatch hsome), (fun _ hsome => nomatch hsome),
      fun _ => rfl⟩
  | preallocated allocation initialCapacity =>
    refine ⟨rfl, UInt64.le_iff_toNat_le.mpr (Nat.zero_le _), ?_, fun _ _ => rfl, fun _ => rfl⟩
    intro block hblock
    obtain ⟨memory, -, rfl⟩ := Option.map_eq_some_iff.mp hblock
    exact Nat.le_refl _
  | wrapped block bufferSize hlength =>
    refine ⟨(block.length_first _).symm, UInt64.le_refl _, ?_, ?_, fun hnone => nomatch hnone⟩
    · rintro _ ⟨⟩
      exact hlength
    · rintro _ ⟨⟩
      rfl

/-! ## Sequences of calls -/

/-- A total size below a bound is so with less at the start. -/
theorem TotalBelow.of_le {bound : ℕ} {calls : List BufferCall} {size size' : ℕ} (hle : size' ≤ size)
    (h : TotalBelow bound size calls) : TotalBelow bound size' calls := by
  induction calls generalizing size size' with
  | nil => exact Nat.lt_of_le_of_lt hle h
  | cons call calls ih =>
    refine ⟨Nat.lt_of_le_of_lt hle h.1, ih ?_ h.2⟩
    cases call with
    | appendData _ data => exact Nat.add_le_add_right hle _
    | reset => exact Nat.le_refl 0

/-- The total size at the start is below the bound. -/
theorem TotalBelow.lt {bound size : ℕ} {calls : List BufferCall} (h : TotalBelow bound size calls) :
    size < bound := by
  cases calls with
  | nil => exact h
  | cons call calls => exact h.1

/-- **Growth is atomic from a sound buffer exactly when the memory is there.** -/
theorem WebXDataBuffer.Sound.growsAtomically_iff {rounds : ℕ} (hrounds : 64 ≤ rounds)
    {calls : List BufferCall} {b : WebXDataBuffer} {contents : List UInt8} (h : b.Sound contents)
    (hsmall : TotalBelow (2 ^ 63) contents.length calls) :
    AtomicGrowth rounds b contents calls ↔ AllMemoryGiven rounds b calls := by
  induction calls generalizing b contents with
  | nil => exact iff_of_true h.stores trivial
  | cons call calls ih =>
    obtain ⟨-, hrest⟩ := hsmall
    constructor
    · rintro ⟨-, success, next, hrun, hkept, hatomic⟩
      have hgiven := h.memoryGiven_of_run hrounds hrest.lt hrun hkept
      obtain ⟨success', next', hrun', -, hnext, hle⟩ := h.run hrounds hrest.lt hgiven
      obtain ⟨rfl, rfl⟩ := Prod.mk.inj (Except.ok.inj (Option.some.inj (hrun.symm.trans hrun')))
      refine ⟨hgiven, fun success'' next'' hrun'' => ?_⟩
      obtain ⟨rfl, rfl⟩ := Prod.mk.inj (Except.ok.inj (Option.some.inj (hrun.symm.trans hrun'')))
      exact (ih hnext (hrest.of_le hle)).mp hatomic
    · rintro ⟨hgiven, hall⟩
      obtain ⟨success, next, hrun, hkept, hnext, hle⟩ := h.run hrounds hrest.lt hgiven
      exact ⟨h.stores, success, next, hrun, hkept,
        (ih hnext (hrest.of_le hle)).mpr (hall success next hrun)⟩

/-- **Growth is atomic**, for every buffer and every sequence of calls, exactly when the memory that
each call needs is there. -/
theorem atomicGrowth_iff {b : WebXDataBuffer} {contents : List UInt8} (h : Constructed b contents)
    {calls : List BufferCall} (hsmall : TotalBelow (2 ^ 63) contents.length calls) {rounds : ℕ}
    (hrounds : 64 ≤ rounds) :
    AtomicGrowth rounds b contents calls ↔ AllMemoryGiven rounds b calls :=
  h.sound.growsAtomically_iff hrounds hsmall

/-- An empty buffer to which a byte is appended, with memory for it, and which is reset. -/
theorem atomicGrowth_iff_empty :
    AtomicGrowth 64 .empty [] [.appendData (some (4096, fun _ => 0)) [7], .reset] := by
  refine (atomicGrowth_iff .empty (by simp [TotalBelow, BufferCall.sizeAfter]) (by decide)).mpr ?_
  refine ⟨?_, fun success next _ => ⟨trivial, fun _ _ _ => trivial⟩⟩
  rw [BufferCall.MemoryGiven, if_pos (by decide)]
  exact fun _ => rfl

/-- A buffer with a capacity of 4 to which 3 bytes are appended twice; the memory for the second
append is refused. -/
theorem not_atomicGrowth :
    ¬ ∀ (b : WebXDataBuffer) (contents : List UInt8), Constructed b contents →
      ∀ calls, TotalBelow (2 ^ 63) contents.length calls → AtomicGrowth 64 b contents calls := by
  intro h
  have hcalls := h (.preallocated (some (4096, fun _ => 0)) 4) [] (.preallocated _ _)
    [.appendData none [1, 2, 3], .appendData none [4, 5, 6]]
    (by simp [TotalBelow, BufferCall.sizeAfter])
  obtain ⟨-, success, next, hfirst, -, -, success', next', hsecond, hkept, -⟩ := hcalls
  let block : Block := { address := 4096, length := 4, byte := fun _ => 0 }
  let middle : WebXDataBuffer :=
    { buffer := some (block.copy 0 [1, 2, 3]), capacity := 4, size := 3 }
  have hmiddle : BufferCall.run 64 (.preallocated (some (4096, fun _ => 0)) 4)
      (.appendData none [1, 2, 3]) = some (.ok (true, middle)) := rfl
  obtain ⟨rfl, rfl⟩ := Prod.mk.inj (Except.ok.inj (Option.some.inj (hfirst.symm.trans hmiddle)))
  have hlost : BufferCall.run 64 middle (.appendData none [4, 5, 6]) =
      some (.ok (false, { middle with buffer := none })) := rfl
  obtain ⟨rfl, rfl⟩ := Prod.mk.inj (Except.ok.inj (Option.some.inj (hsecond.symm.trans hlost)))
  exact Option.some_ne_none _ (congrArg WebXDataBuffer.buffer (hkept rfl)).symm

end WebXEngine
