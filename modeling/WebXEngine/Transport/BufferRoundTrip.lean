import WebXEngine.Transport.MessageEncoder

/-! # What is written in a buffer is read back

Numbers and bytes are written behind the header of a buffer in any order, and the same types are
read back in the same order. Both cursors are numbers on 32 bits, which start again from 0 when they
become too large: the test for an overflow then passes at the beginning of the buffer.

* **`ContentWrite`** — a number of 1, 2, 4 or 8 bytes that is written, or bytes that are appended.
* **`RoundTrips`** — what is written is read back, and the header is not touched.
* **`roundTrips_iff`** — this is so exactly when no cursor starts again. -/

namespace WebXEngine

open AlignedFields WebXBinaryBuffer

/-! ## Writes and reads -/

/-- The width of a number. -/
inductive Width
  | one
  | two
  | four
  | eight
  deriving DecidableEq, Repr

/-- The number of bytes of a width. -/
def Width.bytes : Width → ℕ
  | one => 1
  | two => 2
  | four => 4
  | eight => 8

/-- Offsets of 32 bits wrap at a multiple of every width. -/
theorem Width.bytes_dvd (width : Width) : width.bytes ∣ uint32Size := by
  cases width <;> decide

/-- A number that is written, or bytes that are appended. -/
inductive ContentWrite
  | write (width : Width) (value : Fin (256 ^ width.bytes))
  | append (buffer : List UInt8)

namespace ContentWrite

/-- The field that is written. -/
def field : ContentWrite → Field
  | write width value => .scalar width.bytes value
  | append buffer => .raw buffer

/-- The write. -/
def perform : ContentWrite → BufferM Unit
  | write width value => WebXBinaryBuffer.write width.bytes value
  | append buffer => WebXBinaryBuffer.append buffer

/-- Reads the same type, or as many bytes. -/
def readBack : ContentWrite → BufferM Field
  | write width _ => Field.scalar width.bytes <$> read width.bytes
  | append buffer => Field.raw <$> readSring buffer.length

end ContentWrite

/-- The buffer after a program; an exception is caught. -/
def bufferAfter {α : Type} (x : BufferM α) (s : WebXBinaryBuffer) : WebXBinaryBuffer :=
  match x s with
  | .ok _ s' => s'
  | .error _ s' => s'

/-- The buffer after some writes. -/
def afterWrites (contents : List ContentWrite) (s : WebXBinaryBuffer) : WebXBinaryBuffer :=
  contents.foldl (fun s content => bufferAfter content.perform s) s

/-- The buffer after the same types were read. -/
def afterReads (contents : List ContentWrite) (s : WebXBinaryBuffer) : WebXBinaryBuffer :=
  contents.foldl (fun s content => bufferAfter content.readBack s) s

/-- A program raises the exception of the overflow test. -/
def RaisesOverflow {α : Type} (x : BufferM α) (s : WebXBinaryBuffer) : Prop :=
  ∃ offset dataSize bufferLength s', x s = .error (.overflow offset dataSize bufferLength) s'

/-- The cursor behind a write, counted without starting again: bytes that do not fit leave it, a
number that does not fit moves it all the same. -/
def nextOffset (length off : ℕ) : ContentWrite → ℕ
  | .write width value => (ContentWrite.write width value).field.stop off
  | .append buffer =>
      if (ContentWrite.append buffer).field.stop off ≤ length then
        (ContentWrite.append buffer).field.stop off
      else
        off

/-- The cursor behind some writes. -/
def endOffset (length off : ℕ) (contents : List ContentWrite) : ℕ :=
  contents.foldl (nextOffset length) off

/-- **What is written in a buffer is read back**: the length is the one that was given; a write
raises the exception exactly when it does not fit, has no other fault, and changes no byte then; the
header is not touched; and reading from the header on returns what was written without an
exception. -/
structure RoundTrips (dataSize : ℕ) (s : WebXBinaryBuffer) (contents : List ContentWrite) :
    Prop where
  length : s.bufferLength = dataSize
  raises : ∀ before content after, contents = before ++ content :: after →
    (RaisesOverflow content.perform (afterWrites before s) ↔
      dataSize < content.field.stop (endOffset dataSize messageHeaderSize before))
  succeeds : ∀ before content after, contents = before ++ content :: after →
    ¬ RaisesOverflow content.perform (afterWrites before s) →
    ∃ s', content.perform (afterWrites before s) = .ok () s'
  unchanged : ∀ before content after, contents = before ++ content :: after →
    RaisesOverflow content.perform (afterWrites before s) →
    (afterWrites (before ++ [content]) s).bufferContent = (afterWrites before s).bufferContent
  header : slice (afterWrites contents s).bufferContent 0 messageHeaderSize =
    slice s.bufferContent 0 messageHeaderSize
  readBack : ∀ before content after, contents = before ++ content :: after →
    ¬ RaisesOverflow content.perform (afterWrites before s) →
    ∃ s', content.readBack (afterReads before (afterWrites contents s)) = .ok content.field s'

/-- Where a value is placed is a number on 32 bits, or the value does not fit where the cursor
starts again either. -/
def PlacedIn32Bits (length off : ℕ) (content : ContentWrite) : Prop :=
  content.field.start off < uint32Size ∨
    length < content.field.start off % uint32Size + content.field.bytes.length

/-- This is so for each write of a sequence. -/
def AllPlacedIn32Bits (length : ℕ) : ℕ → List ContentWrite → Prop
  | _, [] => True
  | off, content :: contents =>
      PlacedIn32Bits length off content ∧
        AllPlacedIn32Bits length (nextOffset length off content) contents

/-! ## One write -/

/-- The writing cursor, when it may have started again. -/
theorem getNextWriteOffset_mod {n : ℕ} (hn : n ∣ uint32Size) {s : WebXBinaryBuffer} {off : ℕ}
    (h : s.writeOffset = off % uint32Size) :
    getNextWriteOffset n s = .ok (alignUp off n % uint32Size)
      { s with writeOffset := (alignUp off n + n) % uint32Size } := by
  have hmod : off % uint32Size % n = off % n := Nat.mod_mod_of_dvd off hn
  change EStateM.Result.ok _ _ = _
  rw [h, hmod, Nat.mod_add_mod, Nat.mod_add_mod, Nat.add_comm n, ← Nat.add_assoc]
  rfl

/-- The reading cursor, when it may have started again. -/
theorem getNextReadOffset_mod {n : ℕ} (hn : n ∣ uint32Size) {s : WebXBinaryBuffer} {off : ℕ}
    (h : s.readOffset = off % uint32Size) :
    getNextReadOffset n s = .ok (alignUp off n % uint32Size)
      { s with readOffset := (alignUp off n + n) % uint32Size } := by
  have hmod : off % uint32Size % n = off % n := Nat.mod_mod_of_dvd off hn
  change EStateM.Result.ok _ _ = _
  rw [h, hmod, Nat.mod_add_mod, Nat.mod_add_mod, Nat.add_comm n, ← Nat.add_assoc]
  rfl

/-- The recorded length and the memory of a buffer are those that were given, and fit in 32 bits. -/
structure HasLength (dataSize : ℕ) (s : WebXBinaryBuffer) : Prop where
  small : dataSize < uint32Size
  length : s.bufferLength = dataSize
  content : s.bufferContent.length = dataSize

variable {dataSize off : ℕ} {s : WebXBinaryBuffer} {content : ContentWrite}

/-- Where a value ends. -/
theorem stop_eq (off : ℕ) (content : ContentWrite) :
    content.field.stop off = content.field.start off + content.field.bytes.length := rfl

/-- A value is placed in 32 bits exactly when the overflow test has the right result. -/
theorem placedIn32Bits_iff (hsmall : dataSize < uint32Size) :
    PlacedIn32Bits dataSize off content ↔
      (dataSize < content.field.start off % uint32Size + content.field.bytes.length ↔
        dataSize < content.field.stop off) := by
  rw [PlacedIn32Bits, stop_eq]
  by_cases hstart : content.field.start off < uint32Size
  · rw [Nat.mod_eq_of_lt hstart]
    exact iff_of_true (.inl hstart) Iff.rfl
  · have hlarge : dataSize < content.field.start off + content.field.bytes.length := by omega
    rw [or_iff_right hstart, iff_true_right hlarge]

/-- A value that does not fit raises the exception; the cursor is moved, and no byte is changed. -/
theorem perform_of_lt (hs : HasLength dataSize s) (hoffset : s.writeOffset = off % uint32Size)
    (h : dataSize < content.field.start off % uint32Size + content.field.bytes.length) :
    ∃ offset size, content.perform s = .error (.overflow offset size s.bufferLength)
      { s with writeOffset := nextOffset dataSize off content % uint32Size } := by
  cases content with
  | write width value =>
    rw [ContentWrite.field, Field.bytes_scalar, LittleEndian.length_bytes, Field.start_scalar] at h
    refine ⟨alignUp off width.bytes % uint32Size, width.bytes, ?_⟩
    rw [ContentWrite.perform, write, bind_of_ok (getNextWriteOffset_mod width.bytes_dvd hoffset),
      get_bind, if_pos (by change s.bufferLength < _; rw [hs.length]; exact h), nextOffset,
      ContentWrite.field, Field.stop_scalar]
    rfl
  | append buffer =>
    rw [ContentWrite.field, Field.bytes_raw, Field.start_raw] at h
    have hmod := Nat.mod_le off uint32Size
    refine ⟨s.writeOffset, buffer.length % uint32Size, ?_⟩
    rw [ContentWrite.perform, append, get_bind, if_pos (by rw [hoffset, hs.length]; exact h),
      nextOffset, ContentWrite.field, Field.stop_raw, if_neg (by omega), ← hoffset]
    rfl

/-- A value that fits in the buffer is written. -/
theorem exists_perform (hs : HasLength dataSize s) (hoffset : s.writeOffset = off % uint32Size)
    (h : content.field.start off % uint32Size + content.field.bytes.length ≤ dataSize) :
    ∃ s', content.perform s = .ok () s' := by
  cases content with
  | write width value =>
    rw [ContentWrite.field, Field.bytes_scalar, LittleEndian.length_bytes, Field.start_scalar] at h
    rw [ContentWrite.perform, write, bind_of_ok (getNextWriteOffset_mod width.bytes_dvd hoffset),
      get_bind, if_neg (by change ¬ s.bufferLength < _; rw [hs.length]; omega),
      poke_eq (by rw [LittleEndian.length_bytes]; exact h.trans hs.content.ge)]
    exact ⟨_, rfl⟩
  | append buffer =>
    rw [ContentWrite.field, Field.bytes_raw, Field.start_raw] at h
    rw [ContentWrite.perform, append, get_bind, if_neg (by rw [hoffset, hs.length]; omega),
      bind_of_ok (poke_eq (by rw [hoffset]; exact h.trans hs.content.ge))]
    exact ⟨_, rfl⟩

/-- The exception is raised exactly when a value does not fit where the cursor is. -/
theorem raisesOverflow_iff (hs : HasLength dataSize s)
    (hoffset : s.writeOffset = off % uint32Size) :
    RaisesOverflow content.perform s ↔
      dataSize < content.field.start off % uint32Size + content.field.bytes.length := by
  constructor
  · rintro ⟨offset, size, bufferLength, s', hraise⟩
    by_contra hle
    obtain ⟨s'', hok⟩ := exists_perform hs hoffset (not_lt.mp hle)
    exact nomatch hraise.symm.trans hok
  · intro h
    obtain ⟨offset, size, hraise⟩ := perform_of_lt hs hoffset h
    exact ⟨offset, size, s.bufferLength, _, hraise⟩

/-- **A value that fits** is placed where its position is counted. -/
theorem perform_of_le (hs : HasLength dataSize s) (hoffset : s.writeOffset = off % uint32Size)
    (h : content.field.stop off ≤ dataSize) :
    content.perform s = .ok () { s with
      bufferContent := overwrite s.bufferContent (content.field.start off) content.field.bytes
      writeOffset := nextOffset dataSize off content % uint32Size } := by
  have hsmall := hs.small
  have hle := content.field.le_stop off
  have hwrites : Writes content.perform [content.field] := by
    cases content with
    | write width value => exact writes_write width.bytes value
    | append buffer => exact writes_append buffer
  have hoffset' : s.writeOffset = off := by rw [hoffset, Nat.mod_eq_of_lt (by omega)]
  have hnext : nextOffset dataSize off content = content.field.stop off := by
    cases content with
    | write width value => rfl
    | append buffer => exact if_pos h
  have hvalid : s.Valid := ⟨hs.length ▸ hsmall, by rw [hs.length, hs.content]⟩
  rw [hwrites.ok s hvalid (by rw [hoffset', hs.length]; exact h), hoffset', hnext,
    Nat.mod_eq_of_lt (show content.field.stop off < uint32Size by omega)]
  rfl

/-- **One write**: the cursor is counted on, and only bytes from it on are changed. -/
theorem bufferAfter_perform (hs : HasLength dataSize s) (hoffset : s.writeOffset = off % uint32Size)
    (hplaced : PlacedIn32Bits dataSize off content) :
    bufferAfter content.perform s = { s with
      bufferContent :=
        if content.field.stop off ≤ dataSize then
          overwrite s.bufferContent (content.field.start off) content.field.bytes
        else s.bufferContent
      writeOffset := nextOffset dataSize off content % uint32Size } := by
  rw [bufferAfter]
  by_cases hfits : content.field.stop off ≤ dataSize
  · rw [perform_of_le hs hoffset hfits, if_pos hfits]
  · obtain ⟨offset, size, hraise⟩ := perform_of_lt hs hoffset
      (((placedIn32Bits_iff hs.small).mp hplaced).mpr (not_le.mp hfits))
    rw [hraise, if_neg hfits]

/-- A write does not change the length of the buffer. -/
theorem hasLength_bufferAfter (hs : HasLength dataSize s)
    (hoffset : s.writeOffset = off % uint32Size) (hplaced : PlacedIn32Bits dataSize off content) :
    HasLength dataSize (bufferAfter content.perform s) := by
  rw [bufferAfter_perform hs hoffset hplaced]
  refine ⟨hs.small, hs.length, ?_⟩
  change (if content.field.stop off ≤ dataSize then
    overwrite s.bufferContent (content.field.start off) content.field.bytes
    else s.bufferContent).length = dataSize
  split_ifs with hfits
  · rw [length_overwrite (hs.content ▸ hfits), hs.content]
  · exact hs.content

/-- A write does not move the position back. -/
theorem le_nextOffset (length off : ℕ) (content : ContentWrite) :
    off ≤ nextOffset length off content := by
  have hle := content.field.le_stop off
  cases content with
  | write width value => exact hle
  | append buffer =>
    rw [nextOffset]
    split_ifs
    · exact hle
    · exact le_refl off

/-! ## Sequences of writes -/

/-- Positions on 32 bits, of a sequence and of what follows it. -/
theorem allPlacedIn32Bits_append {before after : List ContentWrite} :
    AllPlacedIn32Bits dataSize off (before ++ after) ↔
      AllPlacedIn32Bits dataSize off before ∧
        AllPlacedIn32Bits dataSize (endOffset dataSize off before) after := by
  induction before generalizing off with
  | nil => exact ⟨fun h => ⟨trivial, h⟩, fun h => h.2⟩
  | cons content before ih =>
    rw [List.cons_append, AllPlacedIn32Bits, AllPlacedIn32Bits, ih, and_assoc]
    exact Iff.rfl

/-- The state of a buffer after some writes. -/
theorem afterWrites_spec {contents : List ContentWrite} (hs : HasLength dataSize s)
    (hoffset : s.writeOffset = off % uint32Size)
    (hplaced : AllPlacedIn32Bits dataSize off contents) :
    HasLength dataSize (afterWrites contents s) ∧
      (afterWrites contents s).writeOffset = endOffset dataSize off contents % uint32Size ∧
      (afterWrites contents s).readOffset = s.readOffset ∧
      ∀ o n, o + n ≤ off → slice (afterWrites contents s).bufferContent o n =
        slice s.bufferContent o n := by
  induction contents generalizing s off with
  | nil => exact ⟨hs, hoffset, rfl, fun o n _ => rfl⟩
  | cons content contents ih =>
    obtain ⟨hfirst, hrest⟩ := hplaced
    have hstep := bufferAfter_perform hs hoffset hfirst
    obtain ⟨hlength, hcursor, hread, hslice⟩ := ih (hasLength_bufferAfter hs hoffset hfirst)
      (by rw [hstep]) hrest
    refine ⟨hlength, hcursor, hread.trans (by rw [hstep]), fun o n hon => ?_⟩
    -- the other writes come behind the first one, which does not change what is before it
    refine (hslice o n (hon.trans (le_nextOffset dataSize off content))).trans ?_
    rw [hstep]
    dsimp only
    split_ifs with hfits
    · have hstart := content.field.le_start off
      rw [stop_eq] at hfits
      exact slice_overwrite_before (hon.trans hstart) (by rw [hs.content]; omega)
    · rfl

/-! ## Reads -/

/-- A number that is not in the buffer is not read, but the cursor is moved behind it. -/
theorem read_of_lt (hs : HasLength dataSize s) (hoffset : s.readOffset = off % uint32Size)
    {width : Width} (h : dataSize < alignUp off width.bytes % uint32Size + width.bytes) :
    ∃ fault, read width.bytes s = .error fault
      { s with readOffset := (alignUp off width.bytes + width.bytes) % uint32Size } := by
  rw [WebXBinaryBuffer.read, bind_of_ok (getNextReadOffset_mod width.bytes_dvd hoffset), get_bind,
    if_pos (by change s.bufferLength < _; rw [hs.length]; exact h)]
  exact ⟨_, rfl⟩

/-- Bytes that are not in the buffer are not read, and the cursor stays. -/
theorem readSring_of_lt (hs : HasLength dataSize s) (hoffset : s.readOffset = off % uint32Size)
    {size : ℕ} (h : dataSize < off % uint32Size + size) :
    ∃ fault, readSring size s = .error fault s := by
  rw [readSring, get_bind, if_pos (by rw [hoffset, hs.length]; exact h)]
  exact ⟨_, rfl⟩

/-- A value that did not fit is not read either, and the cursor is moved in the same way. -/
theorem readBack_of_lt (hs : HasLength dataSize s) (hoffset : s.readOffset = off % uint32Size)
    (h : dataSize < content.field.start off % uint32Size + content.field.bytes.length) :
    ∃ fault, content.readBack s = .error fault
      { s with readOffset := nextOffset dataSize off content % uint32Size } := by
  cases content with
  | write width value =>
    rw [ContentWrite.field, Field.bytes_scalar, LittleEndian.length_bytes, Field.start_scalar] at h
    obtain ⟨fault, hread⟩ := read_of_lt hs hoffset h
    refine ⟨fault, ?_⟩
    change EStateM.map (Field.scalar width.bytes) (read width.bytes) s = _
    rw [EStateM.map, hread, nextOffset, ContentWrite.field, Field.stop_scalar]
  | append buffer =>
    rw [ContentWrite.field, Field.bytes_raw, Field.start_raw] at h
    obtain ⟨fault, hread⟩ := readSring_of_lt hs hoffset h
    have hmod := Nat.mod_le off uint32Size
    refine ⟨fault, ?_⟩
    change EStateM.map Field.raw (readSring buffer.length) s = _
    rw [EStateM.map, hread, nextOffset, ContentWrite.field, Field.stop_raw, if_neg (by omega),
      ← hoffset]

/-- A number that is in the memory where its position is counted is read. -/
theorem read_of_le (hs : HasLength dataSize s) (hoffset : s.readOffset = off % uint32Size)
    {width : Width} (value : Fin (256 ^ width.bytes))
    (h : alignUp off width.bytes + width.bytes ≤ dataSize)
    (hslice : slice s.bufferContent (alignUp off width.bytes) width.bytes =
      LittleEndian.bytes width.bytes value) :
    read width.bytes s = .ok value
      { s with readOffset := (alignUp off width.bytes + width.bytes) % uint32Size } := by
  have hsmall := hs.small
  have hposition : alignUp off width.bytes % uint32Size = alignUp off width.bytes :=
    Nat.mod_eq_of_lt (by omega)
  rw [WebXBinaryBuffer.read, bind_of_ok (getNextReadOffset_mod width.bytes_dvd hoffset), get_bind,
    hposition, if_neg (by change ¬ s.bufferLength < _; rw [hs.length]; omega),
    bind_of_ok (peek_eq (by exact h.trans hs.content.ge))]
  change EStateM.Result.ok (LittleEndian.value
    (slice s.bufferContent (alignUp off width.bytes) width.bytes)) _ = _
  rw [hslice, LittleEndian.value_bytes_of_lt value.isLt]

/-- Bytes that are in the memory where their position is counted are read. -/
theorem readSring_of_le (hs : HasLength dataSize s) (hoffset : s.readOffset = off % uint32Size)
    {buffer : List UInt8} (h : off + buffer.length ≤ dataSize)
    (hslice : slice s.bufferContent off buffer.length = buffer) :
    readSring buffer.length s = .ok buffer
      { s with readOffset := (off + buffer.length) % uint32Size } := by
  have hsmall := hs.small
  have hoff : off % uint32Size = off := Nat.mod_eq_of_lt (by omega)
  rw [readSring, get_bind, hoffset, hoff, if_neg (by rw [hs.length]; omega),
    bind_of_ok (peek_eq (h.trans hs.content.ge)), hslice]
  change EStateM.Result.ok _
    { s with readOffset := (s.readOffset + buffer.length) % uint32Size } = _
  rw [hoffset, hoff]

/-- **A value that is in the memory where its position is counted** is read. -/
theorem readBack_of_le (hs : HasLength dataSize s) (hoffset : s.readOffset = off % uint32Size)
    (h : content.field.stop off ≤ dataSize)
    (hslice : slice s.bufferContent (content.field.start off) content.field.bytes.length =
      content.field.bytes) :
    content.readBack s = .ok content.field
      { s with readOffset := nextOffset dataSize off content % uint32Size } := by
  cases content with
  | write width value =>
    rw [ContentWrite.field, Field.stop_scalar] at h
    rw [ContentWrite.field, Field.bytes_scalar, LittleEndian.length_bytes, Field.start_scalar]
      at hslice
    change EStateM.map (Field.scalar width.bytes) (read width.bytes) s = _
    rw [EStateM.map, read_of_le hs hoffset value h hslice, nextOffset, ContentWrite.field,
      Field.stop_scalar]
  | append buffer =>
    rw [ContentWrite.field, Field.stop_raw] at h
    rw [ContentWrite.field, Field.bytes_raw, Field.start_raw] at hslice
    change EStateM.map Field.raw (readSring buffer.length) s = _
    rw [EStateM.map, readSring_of_le hs hoffset h hslice, nextOffset, ContentWrite.field,
      Field.stop_raw, if_pos h]

/-- Values that were not placed to be read are not written where they are. -/
theorem bufferAfter_readBack (hs : HasLength dataSize s) (hoffset : s.readOffset = off % uint32Size)
    (hplaced : PlacedIn32Bits dataSize off content)
    (hslice : content.field.stop off ≤ dataSize →
      slice s.bufferContent (content.field.start off) content.field.bytes.length =
        content.field.bytes) :
    bufferAfter content.readBack s =
      { s with readOffset := nextOffset dataSize off content % uint32Size } := by
  rw [bufferAfter]
  by_cases hfits : content.field.stop off ≤ dataSize
  · rw [readBack_of_le hs hoffset hfits (hslice hfits)]
  · obtain ⟨fault, hraise⟩ := readBack_of_lt hs hoffset
      (((placedIn32Bits_iff hs.small).mp hplaced).mpr (not_le.mp hfits))
    rw [hraise]

/-- The values of a sequence that fit are in the memory where their positions are counted. -/
def HoldsContents (length : ℕ) (mem : List UInt8) : ℕ → List ContentWrite → Prop
  | _, [] => True
  | off, content :: contents =>
      (content.field.stop off ≤ length →
        slice mem (content.field.start off) content.field.bytes.length = content.field.bytes) ∧
        HoldsContents length mem (nextOffset length off content) contents

/-- Values in the memory, of a sequence and of what follows it. -/
theorem holdsContents_append {mem : List UInt8} {before after : List ContentWrite} :
    HoldsContents dataSize mem off (before ++ after) ↔ HoldsContents dataSize mem off before ∧
      HoldsContents dataSize mem (endOffset dataSize off before) after := by
  induction before generalizing off with
  | nil => exact ⟨fun h => ⟨trivial, h⟩, fun h => h.2⟩
  | cons content before ih =>
    rw [List.cons_append, HoldsContents, HoldsContents, ih, and_assoc]
    exact Iff.rfl

/-- **The values that were written are in the memory** after all writes. -/
theorem holdsContents_afterWrites {contents : List ContentWrite} (hs : HasLength dataSize s)
    (hoffset : s.writeOffset = off % uint32Size)
    (hplaced : AllPlacedIn32Bits dataSize off contents) :
    HoldsContents dataSize (afterWrites contents s).bufferContent off contents := by
  induction contents generalizing s off with
  | nil => trivial
  | cons content contents ih =>
    obtain ⟨hfirst, hrest⟩ := hplaced
    have hstep := bufferAfter_perform hs hoffset hfirst
    have hs' := hasLength_bufferAfter hs hoffset hfirst
    have hoffset' : (bufferAfter content.perform s).writeOffset =
        nextOffset dataSize off content % uint32Size := by rw [hstep]
    refine ⟨fun hfits => ?_, ih hs' hoffset' hrest⟩
    -- the later writes come behind this one
    have hnext : content.field.stop off ≤ nextOffset dataSize off content := by
      cases content with
      | write width value => exact le_refl _
      | append buffer => exact (if_pos hfits).ge
    obtain ⟨-, -, -, hslice⟩ := afterWrites_spec hs' hoffset' hrest
    refine (hslice _ _ ((stop_eq off content).ge.trans hnext)).trans ?_
    rw [hstep]
    dsimp only
    rw [if_pos hfits, slice_overwrite_self (by rw [hs.content]; exact hfits)]

/-- The state of a buffer after some reads. -/
theorem afterReads_spec {contents : List ContentWrite} (hs : HasLength dataSize s)
    (hoffset : s.readOffset = off % uint32Size) (hplaced : AllPlacedIn32Bits dataSize off contents)
    (hholds : HoldsContents dataSize s.bufferContent off contents) :
    HasLength dataSize (afterReads contents s) ∧
      (afterReads contents s).readOffset = endOffset dataSize off contents % uint32Size ∧
      (afterReads contents s).bufferContent = s.bufferContent := by
  induction contents generalizing s off with
  | nil => exact ⟨hs, hoffset, rfl⟩
  | cons content contents ih =>
    obtain ⟨hfirst, hrest⟩ := hplaced
    have hstep := bufferAfter_readBack hs hoffset hfirst hholds.1
    have hs' : HasLength dataSize (bufferAfter content.readBack s) := by
      rw [hstep]
      exact ⟨hs.small, hs.length, hs.content⟩
    obtain ⟨hlength, hcursor, hcontent⟩ :=
      ih hs' (by rw [hstep]) hrest (by rw [hstep]; exact hholds.2)
    exact ⟨hlength, hcursor, hcontent.trans (by rw [hstep])⟩

/-! ## Round trips -/

/-- A buffer that was built with a header. -/
structure BuiltWithHeader (dataSize : ℕ) (s : WebXBinaryBuffer) : Prop where
  length : s.bufferLength = dataSize % uint32Size
  content : s.bufferContent.length = dataSize
  writeOffset : s.writeOffset = messageHeaderSize
  readOffset : s.readOffset = messageHeaderSize

/-- The constructor builds such a buffer. -/
theorem builtWithHeader_of_ofMessage {ctx : WebXMessageEncoder.Context} {message : WebXMessage}
    (h : WebXMessageEncoder.ofMessage ctx message dataSize = .ok s) :
    BuiltWithHeader dataSize s := by
  rw [WebXMessageEncoder.ofMessage] at h
  split_ifs at h with hsmall
  cases h
  refine ⟨rfl, ?_, rfl, rfl⟩
  have hfresh : (ctx.freshMemory dataSize).toList.length = dataSize := Vector.length_toList
  have hheader : extent 0 (WebXMessageEncoder.headerFields ctx message.clientIndexMask
      message.type.code dataSize) ≤ messageHeaderSize := by
    simp [WebXMessageEncoder.headerFields, alignUp, messageHeaderSize]
  exact (length_place (hheader.trans ((not_lt.mp hsmall).trans hfresh.ge))).trans hfresh

/-- **What is written is read back** when no cursor starts again. -/
theorem BuiltWithHeader.roundTrips (h : BuiltWithHeader dataSize s) (hsmall : dataSize < uint32Size)
    {contents : List ContentWrite}
    (hplaced : AllPlacedIn32Bits dataSize messageHeaderSize contents) :
    RoundTrips dataSize s contents := by
  have hs : HasLength dataSize s := ⟨hsmall, h.length.trans (Nat.mod_eq_of_lt hsmall), h.content⟩
  have hoffset : s.writeOffset = messageHeaderSize % uint32Size := h.writeOffset
  obtain ⟨hlength, -, hread, hheader⟩ := afterWrites_spec hs hoffset hplaced
  have hholds := holdsContents_afterWrites hs hoffset hplaced
  have hoffset' : (afterWrites contents s).readOffset = messageHeaderSize % uint32Size :=
    hread.trans h.readOffset
  -- the buffer before each write
  have hbefore : ∀ before content after, contents = before ++ content :: after →
      AllPlacedIn32Bits dataSize messageHeaderSize before ∧
        PlacedIn32Bits dataSize (endOffset dataSize messageHeaderSize before) content := by
    rintro before content after rfl
    obtain ⟨hearlier, hfirst, -⟩ := allPlacedIn32Bits_append.mp hplaced
    exact ⟨hearlier, hfirst⟩
  have hraises : ∀ before content after, contents = before ++ content :: after →
      (RaisesOverflow content.perform (afterWrites before s) ↔
        dataSize < content.field.stop (endOffset dataSize messageHeaderSize before)) := by
    intro before content after heq
    obtain ⟨hearlier, hfirst⟩ := hbefore before content after heq
    obtain ⟨hs', hcursor, -, -⟩ := afterWrites_spec hs hoffset hearlier
    exact (raisesOverflow_iff hs' hcursor).trans ((placedIn32Bits_iff hsmall).mp hfirst)
  refine ⟨hs.length, hraises, ?_, ?_, hheader 0 messageHeaderSize (by rw [Nat.zero_add]), ?_⟩
  · intro before content after heq hnot
    obtain ⟨hearlier, -⟩ := hbefore before content after heq
    obtain ⟨hs', hcursor, -, -⟩ := afterWrites_spec hs hoffset hearlier
    rw [raisesOverflow_iff hs' hcursor, not_lt] at hnot
    exact exists_perform hs' hcursor hnot
  · intro before content after heq hraise
    obtain ⟨hearlier, hfirst⟩ := hbefore before content after heq
    obtain ⟨hs', hcursor, -, -⟩ := afterWrites_spec hs hoffset hearlier
    have hlt := (hraises before content after heq).mp hraise
    rw [afterWrites, List.foldl_concat, ← afterWrites, bufferAfter_perform hs' hcursor hfirst]
    exact if_neg (not_le.mpr hlt)
  · intro before content after heq hnot
    have hfits := not_lt.mp (mt (hraises before content after heq).mpr hnot)
    rw [heq] at hholds
    obtain ⟨hread', hslice, -⟩ := holdsContents_append.mp hholds
    obtain ⟨hearlier, -⟩ := hbefore before content after heq
    rw [← heq] at hread' hslice
    obtain ⟨hs', hcursor, hcontent⟩ := afterReads_spec hlength hoffset' hearlier hread'
    exact ⟨_, readBack_of_le hs' hcursor hfits (by rw [hcontent]; exact hslice hfits)⟩

/-- Nothing starts again when everything is written and read back. -/
theorem allPlacedIn32Bits_of_raises {contents : List ContentWrite} (hs : HasLength dataSize s)
    (hoffset : s.writeOffset = off % uint32Size)
    (hraises : ∀ before content after, contents = before ++ content :: after →
      (RaisesOverflow content.perform (afterWrites before s) ↔
        dataSize < content.field.stop (endOffset dataSize off before))) :
    AllPlacedIn32Bits dataSize off contents := by
  induction contents generalizing s off with
  | nil => trivial
  | cons content contents ih =>
    have hfirst : PlacedIn32Bits dataSize off content :=
      (placedIn32Bits_iff hs.small).mpr
        ((raisesOverflow_iff hs hoffset).symm.trans (hraises [] content contents rfl))
    refine ⟨hfirst, ih (hasLength_bufferAfter hs hoffset hfirst)
      (by rw [bufferAfter_perform hs hoffset hfirst]) ?_⟩
    rintro before next after rfl
    exact hraises (content :: before) next after rfl

/-- **What is written in a buffer with a header is read back exactly when its length is a number on
32 bits and no cursor starts again.** -/
theorem roundTrips_iff {ctx : WebXMessageEncoder.Context} {message : WebXMessage}
    (h : WebXMessageEncoder.ofMessage ctx message dataSize = .ok s) (contents : List ContentWrite) :
    RoundTrips dataSize s contents ↔
      dataSize < uint32Size ∧ AllPlacedIn32Bits dataSize messageHeaderSize contents := by
  have hbuilt := builtWithHeader_of_ofMessage h
  constructor
  · intro hround
    have hsmall : dataSize < uint32Size := by
      rw [← hround.length, hbuilt.length]
      exact Nat.mod_lt _ (by decide)
    exact ⟨hsmall, allPlacedIn32Bits_of_raises ⟨hsmall, hround.length, hbuilt.content⟩
      hbuilt.writeOffset hround.raises⟩
  · rintro ⟨hsmall, hplaced⟩
    exact hbuilt.roundTrips hsmall hplaced

/-- Three bytes between two numbers, in a buffer of 64 bytes. -/
theorem roundTrips_iff_bytes :
    ∃ s, WebXMessageEncoder.ofMessage
        ⟨Vector.replicate 16 0, 0, 0, fun size => Vector.replicate size 0⟩ ⟨1, .ping⟩ 64 = .ok s ∧
      RoundTrips 64 s
        [.write .four ⟨7, by decide⟩, .append [1, 2, 3], .write .eight ⟨9, by decide⟩] := by
  have hbuilt : WebXMessageEncoder.ofMessage
      ⟨Vector.replicate 16 0, 0, 0, fun size => Vector.replicate size 0⟩ ⟨1, .ping⟩ 64 = .ok _ :=
    if_neg (by decide)
  refine ⟨_, hbuilt, (roundTrips_iff hbuilt _).mpr ⟨by decide, ?_⟩⟩
  exact ⟨.inl (by decide), .inl (by decide), .inl (by decide), trivial⟩

/-- When three bytes are left before the position 2³², a number of eight bytes is written over the
header. -/
theorem not_roundTrips :
    ∃ s, WebXMessageEncoder.ofMessage
        ⟨Vector.replicate 16 0, 0, 0, fun size => Vector.replicate size 0⟩ ⟨1, .ping⟩ (2 ^ 32 - 1) =
          .ok s ∧
      ¬ RoundTrips (2 ^ 32 - 1) s
        [.append (List.replicate (2 ^ 32 - 52) 0), .write .eight ⟨1, by decide⟩] := by
  have hbuilt : WebXMessageEncoder.ofMessage
      ⟨Vector.replicate 16 0, 0, 0, fun size => Vector.replicate size 0⟩ ⟨1, .ping⟩ (2 ^ 32 - 1) =
        .ok _ :=
    if_neg (by norm_num [messageHeaderSize])
  refine ⟨_, hbuilt, fun hround => ?_⟩
  have hb := builtWithHeader_of_ofMessage hbuilt
  have hs : HasLength (2 ^ 32 - 1) _ := ⟨by decide, hround.length, hb.content⟩
  have hoffset : messageHeaderSize = messageHeaderSize % uint32Size := rfl
  obtain ⟨-, hplaced, -⟩ :=
    allPlacedIn32Bits_of_raises hs (hb.writeOffset.trans hoffset) hround.raises
  -- the cursor is four bytes before 2³² after the bytes
  have hlength : (List.replicate (2 ^ 32 - 52) (0 : UInt8)).length = 2 ^ 32 - 52 :=
    List.length_replicate
  have hstop : (ContentWrite.append (List.replicate (2 ^ 32 - 52) 0)).field.stop messageHeaderSize =
      2 ^ 32 - 4 := by
    rw [ContentWrite.field, Field.stop_raw, hlength, messageHeaderSize]
    norm_num
  have hcursor : nextOffset (2 ^ 32 - 1) messageHeaderSize
      (.append (List.replicate (2 ^ 32 - 52) 0)) = 2 ^ 32 - 4 := by
    rw [nextOffset, hstop, if_pos (by norm_num)]
  rw [hcursor, PlacedIn32Bits, ContentWrite.field, Field.start_scalar, Field.bytes_scalar,
    LittleEndian.length_bytes] at hplaced
  revert hplaced
  norm_num [Width.bytes, alignUp, uint32Size]

end WebXEngine
