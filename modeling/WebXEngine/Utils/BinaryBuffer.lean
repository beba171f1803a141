import WebXEngine.Foundations.AlignedFields
import WebXEngine.Utils.Fault
import Mathlib.Data.Nat.Basic

/-! # Binary buffers

The buffer in which messages are written and instructions are read. Both cursors are aligned on the
width of the number that is accessed, and an access past the recorded length raises an overflow.

* **`WebXBinaryBuffer`** — the memory, its recorded length (32 bits) and the two cursors.
* **`read`**, **`readSring`**, **`write`**, **`append`** — the accesses, with their overflow tests.
* **`Consumes x s len a`** — on the buffer `s` the reader `x` takes exactly `len` bytes and returns
  `a`, or overflows when fewer are left. It composes: `Consumes.bind`.
* **`Writes x fs`** — the writer `x` places the fields `fs`. It composes: `Writes.seq`. -/

namespace WebXEngine

open AlignedFields

/-- A buffer: its memory and the members of the class, all of them 32-bit numbers. -/
structure WebXBinaryBuffer where
  /-- The memory the buffer was given. -/
  bufferContent : List UInt8
  /-- The length recorded by the constructor. -/
  bufferLength : ℕ
  /-- Where the next value is written. -/
  writeOffset : ℕ
  /-- Where the next value is read. -/
  readOffset : ℕ
  deriving DecidableEq, Repr

/-- A program that uses a buffer; the buffer keeps its last state when the program fails. -/
abbrev BufferM := EStateM Fault WebXBinaryBuffer

/-- The number of values of a 32-bit number. -/
def uint32Size : ℕ := 2 ^ 32

/-- The number of bytes of the header of a message. -/
def messageHeaderSize : ℕ := 48

namespace WebXBinaryBuffer

/-- The constructor used to read received data: both cursors at the beginning, the length stored on
32 bits. -/
def ofData (data : List UInt8) : WebXBinaryBuffer where
  bufferContent := data
  bufferLength := data.length % uint32Size
  writeOffset := 0
  readOffset := 0

/-- The recorded length fits in 32 bits and is not larger than the memory. -/
structure Valid (s : WebXBinaryBuffer) : Prop where
  length_lt : s.bufferLength < uint32Size
  length_le : s.bufferLength ≤ s.bufferContent.length

/-- A buffer built over received data is valid, whatever the length of the data. -/
theorem valid_ofData (data : List UInt8) : (ofData data).Valid :=
  ⟨Nat.mod_lt _ (by decide), Nat.mod_le _ _⟩

/-! ## Accesses -/

/-- `n` bytes of the memory, wherever the recorded length is. -/
def peek (offset n : ℕ) : BufferM (List UInt8) := do
  let s ← get
  if offset + n ≤ s.bufferContent.length then
    return slice s.bufferContent offset n
  else
    throw .outOfBounds

/-- Bytes put in the memory, wherever the recorded length is. -/
def poke (offset : ℕ) (bs : List UInt8) : BufferM Unit := do
  let s ← get
  if offset + bs.length ≤ s.bufferContent.length then
    set { s with bufferContent := overwrite s.bufferContent offset bs }
  else
    throw .outOfBounds

/-- Aligns the writing cursor on `sizeOfT`, moves it behind the value and returns where the value
is to be placed. -/
def getNextWriteOffset (sizeOfT : ℕ) : BufferM ℕ := do
  let s ← get
  let padding := if s.writeOffset % sizeOfT > 0 then sizeOfT - s.writeOffset % sizeOfT else 0
  let position := (s.writeOffset + padding) % uint32Size
  set { s with writeOffset := (s.writeOffset + (sizeOfT + padding)) % uint32Size }
  return position

/-- Aligns the reading cursor on `sizeOfT`, moves it behind the value and returns where the value
is to be found. -/
def getNextReadOffset (sizeOfT : ℕ) : BufferM ℕ := do
  let s ← get
  let padding := if s.readOffset % sizeOfT > 0 then sizeOfT - s.readOffset % sizeOfT else 0
  let position := (s.readOffset + padding) % uint32Size
  set { s with readOffset := (s.readOffset + (sizeOfT + padding)) % uint32Size }
  return position

/-- Writes a number on `sizeOfT` bytes. -/
def write (sizeOfT value : ℕ) : BufferM Unit := do
  let valueOffset ← getNextWriteOffset sizeOfT
  let s ← get
  if valueOffset + sizeOfT > s.bufferLength then
    throw (.overflow valueOffset sizeOfT s.bufferLength)
  else
    poke valueOffset (LittleEndian.bytes sizeOfT value)

/-- Writes bytes at the writing cursor, without any alignment. -/
def append (buffer : List UInt8) : BufferM Unit := do
  let s ← get
  if s.writeOffset + buffer.length > s.bufferLength then
    throw (.overflow s.writeOffset (buffer.length % uint32Size) s.bufferLength)
  else
    poke s.writeOffset buffer
    modify fun s => { s with writeOffset := (s.writeOffset + buffer.length) % uint32Size }

/-- Reads a number on `sizeOfT` bytes. -/
def read (sizeOfT : ℕ) : BufferM ℕ := do
  let valueOffset ← getNextReadOffset sizeOfT
  let s ← get
  if valueOffset + sizeOfT > s.bufferLength then
    throw (.overflow valueOffset sizeOfT s.bufferLength)
  else
    return LittleEndian.value (← peek valueOffset sizeOfT)

/-- Reads `length` bytes at the reading cursor, without any alignment. -/
def readSring (length : ℕ) : BufferM (List UInt8) := do
  let s ← get
  if s.readOffset + length > s.bufferLength then
    throw (.overflow s.readOffset (length % uint32Size) s.bufferLength)
  else
    let value ← peek s.readOffset length
    modify fun s => { s with readOffset := (s.readOffset + length) % uint32Size }
    return value

/-- Moves the reading cursor. -/
def advanceReadOffset (increment : ℕ) : BufferM Unit :=
  modify fun s => { s with readOffset := (s.readOffset + increment) % uint32Size }

/-! ## Running a program in steps -/

section Running

variable {α β : Type} {x : BufferM α} {f : α → BufferM β} {s s' : WebXBinaryBuffer} {a : α}

/-- After a step that succeeds the rest of the program runs on the new buffer. -/
theorem bind_of_ok (h : x s = .ok a s') : (x >>= f) s = f a s' := by
  show EStateM.bind x f s = f a s'
  rw [EStateM.bind, h]

/-- A step that fails ends the program. -/
theorem bind_of_error {e : Fault} (h : x s = .error e s') : (x >>= f) s = .error e s' := by
  show EStateM.bind x f s = .error e s'
  rw [EStateM.bind, h]

/-- A program that begins by looking at its buffer. -/
theorem get_bind {f : WebXBinaryBuffer → BufferM β} : ((get : BufferM _) >>= f) s = f s s := rfl

end Running

/-- An access inside the memory returns the bytes found there. -/
theorem peek_eq {s : WebXBinaryBuffer} {offset n : ℕ} (h : offset + n ≤ s.bufferContent.length) :
    peek offset n s = .ok (slice s.bufferContent offset n) s := by
  rw [peek, get_bind, if_pos h]
  rfl

/-- Bytes that fit in the memory are put there. -/
theorem poke_eq {s : WebXBinaryBuffer} {offset : ℕ} {bs : List UInt8}
    (h : offset + bs.length ≤ s.bufferContent.length) :
    poke offset bs s = .ok () { s with bufferContent := overwrite s.bufferContent offset bs } := by
  rw [poke, get_bind, if_pos h]
  rfl

/-- As long as 32 bits are enough, the reading cursor moves to the aligned offset and past it. -/
theorem getNextReadOffset_eq {s : WebXBinaryBuffer} {n : ℕ}
    (h : alignUp s.readOffset n + n < uint32Size) :
    getNextReadOffset n s
      = .ok (alignUp s.readOffset n) { s with readOffset := alignUp s.readOffset n + n } := by
  have hposition : alignUp s.readOffset n % uint32Size = alignUp s.readOffset n :=
    Nat.mod_eq_of_lt (by omega)
  have hnext : (s.readOffset + (n + (alignUp s.readOffset n - s.readOffset))) % uint32Size
      = alignUp s.readOffset n + n := by
    have := le_alignUp s.readOffset n
    rw [Nat.mod_eq_of_lt] <;> omega
  rw [alignUp, Nat.add_sub_cancel_left] at hnext
  show EStateM.Result.ok _ _ = _
  rw [← alignUp, hposition, hnext]
  rfl

/-- The same for the writing cursor. -/
theorem getNextWriteOffset_eq {s : WebXBinaryBuffer} {n : ℕ}
    (h : alignUp s.writeOffset n + n < uint32Size) :
    getNextWriteOffset n s
      = .ok (alignUp s.writeOffset n) { s with writeOffset := alignUp s.writeOffset n + n } := by
  have hposition : alignUp s.writeOffset n % uint32Size = alignUp s.writeOffset n :=
    Nat.mod_eq_of_lt (by omega)
  have hnext : (s.writeOffset + (n + (alignUp s.writeOffset n - s.writeOffset))) % uint32Size
      = alignUp s.writeOffset n + n := by
    have := le_alignUp s.writeOffset n
    rw [Nat.mod_eq_of_lt] <;> omega
  rw [alignUp, Nat.add_sub_cancel_left] at hnext
  show EStateM.Result.ok _ _ = _
  rw [← alignUp, hposition, hnext]
  rfl

/-- Without padding, the writing cursor moves past the value. -/
theorem getNextWriteOffset_of_unpadded {s : WebXBinaryBuffer} {n : ℕ}
    (h : alignUp s.writeOffset n = s.writeOffset) (hoffset : s.writeOffset < uint32Size) :
    getNextWriteOffset n s
      = .ok s.writeOffset { s with writeOffset := (s.writeOffset + n) % uint32Size } := by
  have hpadding : (if s.writeOffset % n > 0 then n - s.writeOffset % n else 0) = 0 := by
    rw [alignUp] at h
    omega
  have hposition : s.writeOffset % uint32Size = s.writeOffset := Nat.mod_eq_of_lt hoffset
  show EStateM.Result.ok _ _ = _
  rw [hpadding, Nat.add_zero, Nat.add_zero, hposition]

/-- Bytes that are put in the memory leave the rest of the buffer as it is. -/
theorem eq_of_poke_eq_ok {s s' : WebXBinaryBuffer} {offset : ℕ} {bs : List UInt8}
    (h : poke offset bs s = .ok () s') :
    s' = { s with bufferContent := overwrite s.bufferContent offset bs } := by
  by_cases hmem : offset + bs.length ≤ s.bufferContent.length
  · rw [poke_eq hmem] at h
    cases h
    rfl
  · rw [poke, get_bind, if_neg hmem] at h
    cases h

/-! ## Readers -/

/-- On the buffer `s` the reader `x` takes `len` bytes from the reading cursor on and returns `a`;
when fewer than `len` bytes are left it overflows. -/
structure Consumes {α : Type} (x : BufferM α) (s : WebXBinaryBuffer) (len : ℕ) (a : α) : Prop where
  ok : s.readOffset + len ≤ s.bufferLength →
    x s = .ok a { s with readOffset := s.readOffset + len }
  overflow : s.bufferLength < s.readOffset + len →
    ∃ offset dataSize s', x s = .error (.overflow offset dataSize s.bufferLength) s'

namespace Consumes

variable {α β : Type} {s : WebXBinaryBuffer}

/-- Returning a value takes nothing. -/
theorem pure (a : α) (h : s.readOffset ≤ s.bufferLength) :
    Consumes (Pure.pure a : BufferM α) s 0 a where
  ok _ := rfl
  overflow hlt := absurd hlt (by omega)

/-- A reader followed by another takes the bytes of both. -/
theorem bind {x : BufferM α} {f : α → BufferM β} {m n : ℕ} {a : α} {b : β}
    (hx : Consumes x s m a)
    (hf : s.readOffset + m ≤ s.bufferLength →
      Consumes (f a) { s with readOffset := s.readOffset + m } n b) :
    Consumes (x >>= f) s (m + n) b where
  ok hle := by
    have hm : s.readOffset + m ≤ s.bufferLength := by omega
    rw [bind_of_ok (hx.ok hm), (hf hm).ok (by show s.readOffset + m + n ≤ s.bufferLength; omega)]
    simp only [Nat.add_assoc]
  overflow hlt := by
    by_cases hm : s.readOffset + m ≤ s.bufferLength
    · obtain ⟨offset, dataSize, s', h⟩ := (hf hm).overflow
        (by show s.bufferLength < s.readOffset + m + n; omega)
      exact ⟨offset, dataSize, s', by rw [bind_of_ok (hx.ok hm), h]⟩
    · obtain ⟨offset, dataSize, s', h⟩ := hx.overflow (by omega)
      exact ⟨offset, dataSize, s', bind_of_error h⟩

/-- A reader whose result goes through a function. -/
theorem map {x : BufferM α} {n : ℕ} {a : α} (g : α → β) (hx : Consumes x s n a) :
    Consumes (g <$> x) s n (g a) where
  ok hle := by
    show EStateM.map g x s = _
    rw [EStateM.map, hx.ok hle]
  overflow hlt := by
    obtain ⟨offset, dataSize, s', h⟩ := hx.overflow hlt
    refine ⟨offset, dataSize, s', ?_⟩
    show EStateM.map g x s = _
    rw [EStateM.map, h]

end Consumes

/-- **Reading a number at an aligned offset** takes its width. -/
theorem consumes_read {s : WebXBinaryBuffer} {n : ℕ} (hs : s.Valid) (halign : s.readOffset % n = 0)
    (hsmall : s.readOffset + n < uint32Size) :
    Consumes (read n) s n (LittleEndian.value (slice s.bufferContent s.readOffset n)) := by
  have hoff : alignUp s.readOffset n = s.readOffset := alignUp_of_mod_eq_zero halign
  have hnext := getNextReadOffset_eq (s := s) (n := n) (by rw [hoff]; exact hsmall)
  rw [hoff] at hnext
  refine ⟨fun hle => ?_, fun hlt => ?_⟩
  · have hmem : s.readOffset + n ≤ s.bufferContent.length := hle.trans hs.length_le
    rw [read, bind_of_ok hnext, get_bind,
      if_neg (by show ¬ s.readOffset + n > s.bufferLength; omega), bind_of_ok (peek_eq (by exact hmem))]
    rfl
  · refine ⟨s.readOffset, n, { s with readOffset := s.readOffset + n }, ?_⟩
    rw [read, bind_of_ok hnext, get_bind,
      if_pos (by show s.readOffset + n > s.bufferLength; omega)]
    rfl

/-- **Reading a string** takes its length. -/
theorem consumes_readSring {s : WebXBinaryBuffer} {n : ℕ} (hs : s.Valid) :
    Consumes (readSring n) s n (slice s.bufferContent s.readOffset n) := by
  refine ⟨fun hle => ?_, fun hlt => ?_⟩
  · have hmem : s.readOffset + n ≤ s.bufferContent.length := hle.trans hs.length_le
    have hmod : (s.readOffset + n) % uint32Size = s.readOffset + n :=
      Nat.mod_eq_of_lt (hle.trans_lt hs.length_lt)
    rw [readSring, get_bind, if_neg (by omega),
      bind_of_ok (peek_eq hmem)]
    show EStateM.Result.ok _ { s with readOffset := (s.readOffset + n) % uint32Size } = _
    rw [hmod]
  · refine ⟨s.readOffset, n % uint32Size, s, ?_⟩
    rw [readSring, get_bind, if_pos (by omega)]
    rfl

/-! ## Writers -/

/-- Fields that are placed behind each other without any padding. -/
def Unpadded : ℕ → List Field → Prop
  | _, [] => True
  | off, f :: fs => f.start off = off ∧ Unpadded (f.stop off) fs

/-- Fields without padding, and more of them behind. -/
theorem unpadded_append {off : ℕ} {fs gs : List Field} :
    Unpadded off (fs ++ gs) ↔ Unpadded off fs ∧ Unpadded (extent off fs) gs := by
  induction fs generalizing off with
  | nil => simp [Unpadded]
  | cons f fs ih => rw [List.cons_append, Unpadded, Unpadded, ih, extent_cons, and_assoc]

/-- The writer `x` places the fields `fs` at the writing cursor of any buffer in which they fit; when
the fields need no padding, it only succeeds on such buffers. -/
structure Writes (x : BufferM Unit) (fs : List Field) : Prop where
  ok : ∀ s : WebXBinaryBuffer, s.Valid → extent s.writeOffset fs ≤ s.bufferLength →
    x s = .ok () { s with
      bufferContent := place s.bufferContent s.writeOffset fs
      writeOffset := extent s.writeOffset fs }
  fits : ∀ s s' : WebXBinaryBuffer, s.bufferLength < uint32Size → s.writeOffset < uint32Size →
    Unpadded s.writeOffset fs → x s = .ok () s' →
    extent s.writeOffset fs ≤ max s.writeOffset s.bufferLength ∧
      s'.writeOffset = extent s.writeOffset fs ∧ s'.bufferLength = s.bufferLength

/-- A buffer in which fields were placed is still valid. -/
theorem Valid.place {s : WebXBinaryBuffer} (hs : s.Valid) {off off' : ℕ} {fs : List Field}
    (h : extent off fs ≤ s.bufferLength) :
    Valid { s with bufferContent := place s.bufferContent off fs, writeOffset := off' } where
  length_lt := hs.length_lt
  length_le := by
    show s.bufferLength ≤ (AlignedFields.place s.bufferContent off fs).length
    rw [length_place (h.trans hs.length_le)]
    exact hs.length_le

namespace Writes

/-- Writing nothing. -/
theorem nil : Writes (pure ()) [] where
  ok _ _ _ := rfl
  fits s s' _ _ _ h := by
    cases h
    exact ⟨le_max_left _ _, rfl, rfl⟩

/-- A writer followed by another places the fields of both. -/
theorem seq {x : BufferM Unit} {y : Unit → BufferM Unit} {fs gs : List Field} (hx : Writes x fs)
    (hy : Writes (y ()) gs) : Writes (x >>= y) (fs ++ gs) where
  ok s hs hle := by
    rw [extent_append] at hle
    have hfs : extent s.writeOffset fs ≤ s.bufferLength := (le_extent _ gs).trans hle
    rw [bind_of_ok (hx.ok s hs hfs), hy.ok _ (hs.place hfs) hle]
    simp only [extent_append, place_append]
  fits s s' hlength hoffset hunpadded h := by
    obtain ⟨hfs, hgs⟩ := unpadded_append.mp hunpadded
    cases hfirst : x s with
    | error e s₁ =>
        rw [bind_of_error hfirst] at h
        cases h
    | ok u s₁ =>
        rw [bind_of_ok hfirst] at h
        obtain ⟨hle, hwrite, hrecorded⟩ := hx.fits s s₁ hlength hoffset hfs hfirst
        rw [← hwrite] at hgs hle
        -- the offset after the first part still fits in 32 bits
        have hoffset₁ : s₁.writeOffset < uint32Size := hle.trans_lt (max_lt hoffset hlength)
        obtain ⟨hle', hwrite', hrecorded'⟩ :=
          hy.fits s₁ s' (hrecorded ▸ hlength) hoffset₁ hgs h
        rw [extent_append, ← hwrite]
        refine ⟨hle'.trans (max_le hle ?_), hwrite', hrecorded'.trans hrecorded⟩
        rw [hrecorded]
        exact le_max_right _ _

/-- Writing the members of a list one after the other. -/
theorem forM {α : Type} {f : α → BufferM Unit} {g : α → List Field} (l : List α)
    (h : ∀ a ∈ l, Writes (f a) (g a)) : Writes (l.forM f) (l.flatMap g) := by
  induction l with
  | nil => exact nil
  | cons a l ih =>
      rw [List.flatMap_cons]
      exact (h a List.mem_cons_self).seq (ih fun b hb => h b (List.mem_cons_of_mem a hb))

end Writes

/-- **Writing a number** places it at the next aligned offset. -/
theorem writes_write (n v : ℕ) : Writes (write n v) [.scalar n v] where
  ok s hs hle := by
    rw [extent_cons, extent_nil, Field.stop_scalar] at hle
    have hnext := getNextWriteOffset_eq (s := s) (n := n) (hle.trans_lt hs.length_lt)
    have hmem : alignUp s.writeOffset n + (LittleEndian.bytes n v).length ≤
        s.bufferContent.length := by
      rw [LittleEndian.length_bytes]
      exact hle.trans hs.length_le
    rw [write, bind_of_ok hnext, get_bind,
      if_neg (by show ¬ alignUp s.writeOffset n + n > s.bufferLength; omega), poke_eq (by exact hmem),
      extent_cons, extent_nil, Field.stop_scalar]
    rfl
  fits s s' hlength hoffset hunpadded h := by
    have hstart : alignUp s.writeOffset n = s.writeOffset := hunpadded.1
    rw [write, bind_of_ok (getNextWriteOffset_of_unpadded hstart hoffset), get_bind] at h
    dsimp only at h
    split_ifs at h with hfull
    · cases h
    · rw [eq_of_poke_eq_ok h, extent_cons, extent_nil, Field.stop_scalar, hstart]
      exact ⟨by omega, Nat.mod_eq_of_lt (by omega), rfl⟩

/-- **Appending bytes** places them at the writing cursor. -/
theorem writes_append (bs : List UInt8) : Writes (append bs) [.raw bs] where
  ok s hs hle := by
    have hend : s.writeOffset + bs.length ≤ s.bufferLength := hle
    have hmod : (s.writeOffset + bs.length) % uint32Size = s.writeOffset + bs.length :=
      Nat.mod_eq_of_lt (hend.trans_lt hs.length_lt)
    rw [append, get_bind, if_neg (by omega),
      bind_of_ok (poke_eq (hend.trans hs.length_le))]
    show EStateM.Result.ok () { s with
      bufferContent := overwrite s.bufferContent s.writeOffset bs
      writeOffset := (s.writeOffset + bs.length) % uint32Size } = _
    rw [hmod]
    rfl
  fits s s' hlength _ _ h := by
    rw [append, get_bind] at h
    split_ifs at h with hfull
    · cases h
    · cases hpoke : poke s.writeOffset bs s with
      | error e s₁ =>
          rw [bind_of_error hpoke] at h
          cases h
      | ok u s₁ =>
          rw [bind_of_ok hpoke, eq_of_poke_eq_ok hpoke] at h
          cases h
          rw [extent_cons, extent_nil, Field.stop_raw]
          have hend : s.writeOffset + bs.length < uint32Size := by omega
          exact ⟨by omega, Nat.mod_eq_of_lt hend, rfl⟩

end WebXBinaryBuffer

end WebXEngine
