import WebXEngine.Transport.InstructionDecoder
import Mathlib.Tactic.NormNum
import Mathlib.Tactic.Tauto

/-! # The format of the instructions

The layout of the instructions as it is documented, read at fixed offsets of the data, and what the
decoder makes of any data.

* **`requiredLength b`** — how many bytes the data `b` needs for the content its header announces.
* **`documentedInstruction b`** — the instruction the data `b` denotes.
* **`decode_of_le`**, **`decode_of_lt`** — the decoder returns that instruction when the length it
  records is enough, and overflows otherwise.
* **`encode`** — the documented encoding of an instruction. -/

namespace WebXEngine

open AlignedFields

namespace InstructionFormat

/-! ## Documented layout -/

/-- The number on 32 bits at an offset. -/
def wordAt (b : List UInt8) (off : ℕ) : UInt32 := UInt32.ofNat (LittleEndian.value (slice b off 4))

/-- The number on 64 bits at an offset. -/
def longAt (b : List UInt8) (off : ℕ) : UInt64 := UInt64.ofNat (LittleEndian.value (slice b off 8))

/-- The number of bytes of the header: session, client, type, identifier and padding. -/
def headerLength : ℕ := 32

/-- The type announced by the header, whatever its top bit. -/
def typeOf (b : List UInt8) : Option WebXInstructionType :=
  WebXInstructionType.ofCode (WebXInstructionDecoder.typeOfDetails (wordAt b 20))

/-- The length of the string announced at the beginning of a content. -/
def stringLength (b : List UInt8) : ℕ := (wordAt b 32).toNat

/-- The length of the content of a type; the two contents that carry a string announce its length in
their first word. -/
def contentLength (b : List UInt8) : WebXInstructionType → ℕ
  | .windows => 0
  | .image => 4
  | .screen => 0
  | .mouse => 12
  | .keyboard => 8
  | .cursor => 4
  | .quality => 4
  | .pong => 8
  | .dataAck => 12
  | .clipboard => 4 + stringLength b
  | .shape => 4
  | .screenResize => 8
  | .keyboardLayout => 4 + stringLength b

/-- How many bytes the announced instruction takes; the header alone when the type is not known. -/
def requiredLength (b : List UInt8) : ℕ :=
  headerLength + (typeOf b).elim 0 (contentLength b)

/-- The content found behind the header. -/
def documentedContent (now : UInt64) (b : List UInt8) :
    WebXInstructionType → WebXInstruction.Content
  | .windows => .windows
  | .image => .image (wordAt b 32)
  | .screen => .screen
  | .mouse => .mouse (wordAt b 32).toInt32 (wordAt b 36).toInt32 (wordAt b 40)
  | .keyboard => .keyboard (wordAt b 32).toInt32 (wordAt b 36 > 0)
  | .cursor => .cursor (wordAt b 32)
  | .quality => .quality (wordAt b 32)
  | .pong => .pong (longAt b 32) now
  | .dataAck => .dataAck (longAt b 32) now (wordAt b 40)
  | .clipboard => .clipboard (slice b 36 (stringLength b))
  | .shape => .shape (wordAt b 32)
  | .screenResize => .screenResize (wordAt b 32) (wordAt b 36)
  | .keyboardLayout => .keyboardLayout (slice b 36 (stringLength b))

/-- The instruction denoted by the data, when its type is known. -/
def documentedInstruction (now : UInt64) (b : List UInt8) : Option WebXInstruction :=
  (typeOf b).map fun type => ⟨wordAt b 16, wordAt b 24, documentedContent now b type⟩

/-- Every instruction has a header. -/
theorem headerLength_le_requiredLength (b : List UInt8) : headerLength ≤ requiredLength b :=
  Nat.le_add_right _ _

/-- Data of an unknown type needs no more than its header. -/
theorem requiredLength_of_none {b : List UInt8} (h : typeOf b = none) :
    requiredLength b = headerLength := by
  rw [requiredLength, h]
  rfl

/-! ## What the decoder reads -/

open WebXBinaryBuffer WebXInstructionDecoder

/-- A buffer over the data `b` with the reading cursor at `off`. -/
def cursorAt (b : List UInt8) (off : ℕ) : WebXBinaryBuffer := { ofData b with readOffset := off }

section Readers

variable (b : List UInt8) (off : ℕ)

/-- The cursor may be anywhere in the data. -/
theorem valid_cursorAt : (cursorAt b off).Valid :=
  ⟨(valid_ofData b).length_lt, (valid_ofData b).length_le⟩

/-- A word of the data is read. -/
theorem consumes_readUInt32 (halign : off % 4 = 0) (hsmall : off ≤ 64) :
    Consumes readUInt32 (cursorAt b off) 4 (wordAt b off) :=
  (consumes_read (valid_cursorAt b off) halign
    (show off + 4 < 2 ^ 32 by omega)).map UInt32.ofNat

/-- A signed word of the data is read. -/
theorem consumes_readInt32 (halign : off % 4 = 0) (hsmall : off ≤ 64) :
    Consumes readInt32 (cursorAt b off) 4 (wordAt b off).toInt32 :=
  (consumes_read (valid_cursorAt b off) halign
    (show off + 4 < 2 ^ 32 by omega)).map fun n => (UInt32.ofNat n).toInt32

/-- Two words of the data are read as one number. -/
theorem consumes_readUInt64 (halign : off % 8 = 0) (hsmall : off ≤ 64) :
    Consumes readUInt64 (cursorAt b off) 8 (longAt b off) :=
  (consumes_read (valid_cursorAt b off) halign
    (show off + 8 < 2 ^ 32 by omega)).map UInt64.ofNat

end Readers

/-- **Every reader of a content takes the documented length** and returns the documented content. -/
theorem consumes_createInstruction (now : UInt64) (clientId instructionId : UInt32)
    (b : List UInt8) (h : headerLength ≤ b.length % uint32Size) (type : WebXInstructionType) :
    Consumes (createInstruction now clientId instructionId type) (cursorAt b headerLength)
      (contentLength b type) ⟨clientId, instructionId, documentedContent now b type⟩ := by
  -- a reader of one number, of two, and of a string whose length is read first
  have word {f : UInt32 → WebXInstruction} :
      Consumes (do return f (← readUInt32)) (cursorAt b 32) 4 (f (wordAt b 32)) :=
    (consumes_readUInt32 b _ (by rfl) (by decide)).bind (n := 0) fun hle => .pure _ hle
  cases type with
  | windows => exact .pure _ h
  | screen => exact .pure _ h
  | image => exact word
  | shape => exact word
  | quality => exact word
  | cursor =>
      exact (consumes_readInt32 b _ (by rfl) (by decide)).bind (n := 0) fun hle => .pure _ hle
  | mouse =>
      refine (consumes_readInt32 b _ (by rfl) (by decide)).bind (n := 8) fun _ => ?_
      refine (consumes_readInt32 b 36 (by rfl) (by decide)).bind (n := 4) fun _ => ?_
      exact (consumes_readUInt32 b 40 (by rfl) (by decide)).bind (n := 0)
        fun hle => .pure _ hle
  | keyboard =>
      refine (consumes_readUInt32 b _ (by rfl) (by decide)).bind (n := 4) fun _ => ?_
      exact (consumes_readUInt32 b 36 (by rfl) (by decide)).bind (n := 0)
        fun hle => .pure _ hle
  | screenResize =>
      refine (consumes_readInt32 b _ (by rfl) (by decide)).bind (n := 4) fun _ => ?_
      exact (consumes_readInt32 b 36 (by rfl) (by decide)).bind (n := 0)
        fun hle => .pure _ hle
  | pong =>
      exact (consumes_readUInt64 b _ (by rfl) (by decide)).bind (n := 0) fun hle => .pure _ hle
  | dataAck =>
      refine (consumes_readUInt64 b _ (by rfl) (by decide)).bind (n := 4) fun _ => ?_
      exact (consumes_readUInt32 b 40 (by rfl) (by decide)).bind (n := 0)
        fun hle => .pure _ hle
  | clipboard =>
      refine (consumes_readUInt32 b _ (by rfl) (by decide)).bind fun _ => ?_
      exact (consumes_readSring (valid_cursorAt b 36)).bind (n := 0) fun hle => .pure _ hle
  | keyboardLayout =>
      refine (consumes_readUInt32 b _ (by rfl) (by decide)).bind fun _ => ?_
      exact (consumes_readSring (valid_cursorAt b 36)).bind (n := 0) fun hle => .pure _ hle

/-- The part of the decoder behind the session. -/
theorem consumes_readInstruction (now : UInt64) (b : List UInt8) :
    ∃ x : BufferM (Option WebXInstruction),
      readInstruction now = (do advanceReadOffset 16; x) ∧
        Consumes x (cursorAt b 16) (4 + (4 + (4 + (4 + (typeOf b).elim 0 (contentLength b)))))
          (documentedInstruction now b) := by
  -- what is read once the header has been read
  have hcontent (h : headerLength ≤ b.length % uint32Size) : Consumes
      (createKnownInstruction now (wordAt b 16) (wordAt b 24) (typeOf b))
      (cursorAt b headerLength) ((typeOf b).elim 0 (contentLength b))
      (documentedInstruction now b) := by
    rw [documentedInstruction]
    cases typeOf b with
    | none => exact .pure _ h
    | some type => exact (consumes_createInstruction now _ _ b h type).map some
  refine ⟨_, rfl, ?_⟩
  refine (consumes_readUInt32 b _ (by rfl) (by decide)).bind fun _ => ?_
  refine (consumes_readUInt32 b 20 (by rfl) (by decide)).bind fun _ => ?_
  refine (consumes_readUInt32 b 24 (by rfl) (by decide)).bind fun _ => ?_
  exact (consumes_readUInt32 b 28 (by rfl) (by decide)).bind hcontent

/-- **Data long enough for its instruction is decoded to it.** -/
theorem decode_of_le (now : UInt64) {b : List UInt8}
    (h : requiredLength b ≤ b.length % uint32Size) :
    decode now b = .ok (documentedInstruction now b) := by
  obtain ⟨x, hx, hconsumes⟩ := consumes_readInstruction now b
  have hskip : advanceReadOffset 16 (ofData b) = .ok () (cursorAt b 16) := rfl
  have hfit : 16 + (4 + (4 + (4 + (4 + (typeOf b).elim 0 (contentLength b)))))
      ≤ b.length % uint32Size := by
    rw [requiredLength, headerLength] at h
    omega
  rw [decode, hx, bind_of_ok hskip, hconsumes.ok hfit]

/-- **Data too short for its instruction overflows.** -/
theorem decode_of_lt (now : UInt64) {b : List UInt8}
    (h : b.length % uint32Size < requiredLength b) :
    ∃ offset dataSize, decode now b
      = .error (.overflow offset dataSize (b.length % uint32Size)) := by
  obtain ⟨x, hx, hconsumes⟩ := consumes_readInstruction now b
  have hskip : advanceReadOffset 16 (ofData b) = .ok () (cursorAt b 16) := rfl
  have hshort : b.length % uint32Size
      < 16 + (4 + (4 + (4 + (4 + (typeOf b).elim 0 (contentLength b))))) := by
    rw [requiredLength, headerLength] at h
    omega
  obtain ⟨offset, dataSize, s', hoverflow⟩ := hconsumes.overflow hshort
  refine ⟨offset, dataSize, ?_⟩
  rw [decode, hx, bind_of_ok hskip, hoverflow]
  rfl

/-- The decoder never reads outside its data. -/
theorem decode_ne_outOfBounds (now : UInt64) (b : List UInt8) :
    decode now b ≠ .error .outOfBounds := by
  by_cases h : requiredLength b ≤ b.length % uint32Size
  · rw [decode_of_le now h]
    exact nofun
  · obtain ⟨offset, dataSize, hoverflow⟩ := decode_of_lt now (not_le.mp h)
    rw [hoverflow]
    exact fun heq => nomatch Except.error.inj heq

/-! ## Documented encoding -/

/-- The word that holds the type: the top bit is free. -/
def detailsOf (topBit : Bool) (type : WebXInstructionType) : UInt32 :=
  type.code ||| if topBit then 0x80000000 else 0

/-- The fields of a content. -/
def contentFields : WebXInstruction.Content → List Field
  | .windows => []
  | .image windowId => [.scalar 4 windowId.toNat]
  | .screen => []
  | .mouse x y buttonMask =>
      [.scalar 4 x.toUInt32.toNat, .scalar 4 y.toUInt32.toNat, .scalar 4 buttonMask.toNat]
  | .keyboard key pressed => [.scalar 4 key.toUInt32.toNat, .scalar 4 pressed.toNat]
  | .cursor cursorId => [.scalar 4 cursorId.toNat]
  | .quality qualityIndex => [.scalar 4 qualityIndex.toNat]
  | .pong sendTimestampMs _ => [.scalar 8 sendTimestampMs.toNat]
  | .dataAck sendTimestampMs _ dataLength =>
      [.scalar 8 sendTimestampMs.toNat, .scalar 4 dataLength.toNat]
  | .clipboard clipboardContent => [.scalar 4 clipboardContent.length, .raw clipboardContent]
  | .shape windowId => [.scalar 4 windowId.toNat]
  | .screenResize width height => [.scalar 4 width.toNat, .scalar 4 height.toNat]
  | .keyboardLayout keyboardLayout => [.scalar 4 keyboardLayout.length, .raw keyboardLayout]

/-- The fields of the header. -/
def headerFields (sessionId : Vector UInt8 16) (topBit : Bool) (padding : UInt32)
    (i : WebXInstruction) : List Field :=
  [.raw sessionId.toList, .scalar 4 i.clientId.toNat, .scalar 4 (detailsOf topBit i.type).toNat,
    .scalar 4 i.id.toNat, .scalar 4 padding.toNat]

/-- The documented encoding of an instruction. -/
def encode (sessionId : Vector UInt8 16) (topBit : Bool) (padding : UInt32) (i : WebXInstruction) :
    List UInt8 :=
  concat (headerFields sessionId topBit padding i ++ contentFields i.content)

/-- The strings of an instruction are short enough for their length to be announced. -/
def StringsFit (i : WebXInstruction) : Prop :=
  match i.content with
  | .clipboard clipboardContent => clipboardContent.length < uint32Size
  | .keyboardLayout keyboardLayout => keyboardLayout.length < uint32Size
  | _ => True

instance (i : WebXInstruction) : Decidable (StringsFit i) := by
  unfold StringsFit
  split <;> infer_instance

/-- The top bit of the type word is dropped by the decoder. -/
theorem typeOfDetails_detailsOf (topBit : Bool) (type : WebXInstructionType) :
    typeOfDetails (detailsOf topBit type) = type.code := by
  cases type <;> cases topBit <;> rfl

/-- The encoding has no padding: the session takes 16 bytes and 8-byte numbers come first. -/
theorem contiguous_encode (sessionId : Vector UInt8 16) (topBit : Bool) (padding : UInt32)
    (i : WebXInstruction) :
    Contiguous 0 (headerFields sessionId topBit padding i ++ contentFields i.content) := by
  cases hc : i.content <;>
    simp [headerFields, contentFields, Contiguous, alignUp]

/-- The documented encoding holds its fields, whatever follows it. -/
theorem holds_encode (sessionId : Vector UInt8 16) (topBit : Bool) (padding : UInt32)
    (i : WebXInstruction) (trailing : List UInt8) :
    Holds (encode sessionId topBit padding i ++ trailing) 0
      (headerFields sessionId topBit padding i ++ contentFields i.content) :=
  (contiguous_encode sessionId topBit padding i).holds_concat [] trailing

/-! ## Reading back an encoding -/

section ReadingBack

variable {b : List UInt8}

/-- A number on 32 bits is found where its bytes are. -/
theorem wordAt_eq {off : ℕ} {w : UInt32} (h : slice b off 4 = LittleEndian.bytes 4 w.toNat) :
    wordAt b off = w := by
  rw [wordAt, h, LittleEndian.value_bytes_of_lt w.toNat_lt, UInt32.ofNat_toNat]

/-- A number on 64 bits is found where its bytes are. -/
theorem longAt_eq {off : ℕ} {w : UInt64} (h : slice b off 8 = LittleEndian.bytes 8 w.toNat) :
    longAt b off = w := by
  rw [longAt, h, LittleEndian.value_bytes_of_lt w.toNat_lt, UInt64.ofNat_toNat]

/-- A signed number on 32 bits is found where its bytes are. -/
theorem toInt32_wordAt_eq {off : ℕ} {w : Int32}
    (h : slice b off 4 = LittleEndian.bytes 4 w.toUInt32.toNat) : (wordAt b off).toInt32 = w := by
  rw [wordAt_eq h, Int32.toInt32_toUInt32]

/-- A boolean is found where its bytes are. -/
theorem wordAt_pos_eq {off : ℕ} {pressed : Bool}
    (h : slice b off 4 = LittleEndian.bytes 4 pressed.toNat) :
    decide (wordAt b off > 0) = pressed := by
  rw [wordAt_eq (w := if pressed then 1 else 0) (by rw [h]; cases pressed <;> rfl)]
  cases pressed <;> rfl

/-- The length announced for a string is found before the string. -/
theorem stringLength_eq {s : List UInt8} (hfit : s.length < uint32Size)
    (h : slice b 32 4 = LittleEndian.bytes 4 s.length) : stringLength b = s.length := by
  have hlength : (UInt32.ofNat s.length).toNat = s.length := UInt32.toNat_ofNat_of_lt' hfit
  rw [stringLength, wordAt, h, LittleEndian.value_bytes_of_lt hfit, hlength]

/-- **Data that holds the fields of a content denotes that content.** -/
theorem documentedContent_eq (now : UInt64) {i : WebXInstruction} (hfit : StringsFit i)
    (h : Holds b 32 (contentFields i.content)) :
    documentedContent now b i.type = i.content.receivedAt now ∧
      contentLength b i.type = (concat (contentFields i.content)).length := by
  obtain ⟨clientId, id, content⟩ := i
  cases content <;> simp [contentFields, Holds, alignUp] at h
  case windows => exact ⟨rfl, rfl⟩
  case screen => exact ⟨rfl, rfl⟩
  case image windowId => exact ⟨congrArg _ (wordAt_eq h.2), rfl⟩
  case shape windowId => exact ⟨congrArg _ (wordAt_eq h.2), rfl⟩
  case cursor cursorId => exact ⟨congrArg _ (wordAt_eq h.2), rfl⟩
  case quality qualityIndex => exact ⟨congrArg _ (wordAt_eq h.2), rfl⟩
  case pong sendTimestampMs recvTimestampMs =>
      exact ⟨congrArg (WebXInstruction.Content.pong · now) (longAt_eq h.2), rfl⟩
  case dataAck sendTimestampMs recvTimestampMs dataLength =>
      obtain ⟨-, hsend, -, hlength⟩ := h
      exact ⟨congrArg₂ (WebXInstruction.Content.dataAck · now ·) (longAt_eq hsend)
        (wordAt_eq hlength), rfl⟩
  case mouse x y buttonMask =>
      obtain ⟨-, hx, -, hy, -, hmask⟩ := h
      refine ⟨?_, rfl⟩
      show WebXInstruction.Content.mouse _ _ _ = .mouse x y buttonMask
      rw [toInt32_wordAt_eq hx, toInt32_wordAt_eq hy, wordAt_eq hmask]
  case keyboard key pressed =>
      obtain ⟨-, hkey, -, hpressed⟩ := h
      exact ⟨congrArg₂ _ (toInt32_wordAt_eq hkey) (wordAt_pos_eq hpressed), rfl⟩
  case screenResize width height =>
      obtain ⟨-, hwidth, -, hheight⟩ := h
      exact ⟨congrArg₂ _ (wordAt_eq hwidth) (wordAt_eq hheight), rfl⟩
  -- the two texts: the length that is announced is the length of the string, as it fits
  case clipboard clipboardContent =>
      obtain ⟨-, hlength, -, hstring⟩ := h
      have hannounced := stringLength_eq hfit hlength
      refine ⟨?_, ?_⟩
      · show WebXInstruction.Content.clipboard (slice b 36 (stringLength b)) = _
        rw [hannounced, hstring]
        rfl
      · show 4 + stringLength b = _
        rw [hannounced]
        simp [contentFields]
  case keyboardLayout keyboardLayout =>
      obtain ⟨-, hlength, -, hstring⟩ := h
      have hannounced := stringLength_eq hfit hlength
      refine ⟨?_, ?_⟩
      · show WebXInstruction.Content.keyboardLayout (slice b 36 (stringLength b)) = _
        rw [hannounced, hstring]
        rfl
      · show 4 + stringLength b = _
        rw [hannounced]
        simp [contentFields]

end ReadingBack

section Encoding

variable (sessionId : Vector UInt8 16) (topBit : Bool) (padding : UInt32) {i : WebXInstruction}
  (hfit : StringsFit i) (trailing : List UInt8)

/-- What the header of an encoding announces. -/
theorem header_encode (i : WebXInstruction) :
    wordAt (encode sessionId topBit padding i ++ trailing) 16 = i.clientId ∧
      typeOf (encode sessionId topBit padding i ++ trailing) = some i.type ∧
      wordAt (encode sessionId topBit padding i ++ trailing) 24 = i.id := by
  have hheader := (holds_append.mp (holds_encode sessionId topBit padding i trailing)).1
  simp [headerFields, Holds, alignUp] at hheader
  obtain ⟨-, -, -, hclient, -, hdetails, -, hid, -⟩ := hheader
  refine ⟨wordAt_eq hclient, ?_, wordAt_eq hid⟩
  rw [typeOf, wordAt_eq hdetails, typeOfDetails_detailsOf, WebXInstructionType.ofCode_code]

/-- The content of an encoding begins behind the header. -/
theorem holds_content (i : WebXInstruction) :
    Holds (encode sessionId topBit padding i ++ trailing) 32 (contentFields i.content) := by
  have hcontent := (holds_append.mp (holds_encode sessionId topBit padding i trailing)).2
  simpa [headerFields, alignUp] using hcontent

include hfit

/-- An encoding denotes its instruction. -/
theorem documentedInstruction_encode (now : UInt64) :
    documentedInstruction now (encode sessionId topBit padding i ++ trailing)
      = some (i.receivedAt now) := by
  obtain ⟨hclient, htype, hid⟩ := header_encode sessionId topBit padding trailing i
  have hcontent := documentedContent_eq now hfit (holds_content sessionId topBit padding trailing i)
  rw [documentedInstruction, htype, Option.map_some, hclient, hid, hcontent.1]
  rfl

/-- An encoding has the length its header requires. -/
theorem requiredLength_encode :
    requiredLength (encode sessionId topBit padding i ++ trailing)
      = (encode sessionId topBit padding i).length := by
  obtain ⟨-, htype, -⟩ := header_encode sessionId topBit padding trailing i
  have hcontent := documentedContent_eq 0 hfit (holds_content sessionId topBit padding trailing i)
  have hheader : (concat (headerFields sessionId topBit padding i)).length = headerLength := by
    simp [headerFields, headerLength]
  rw [requiredLength, htype, Option.elim_some, hcontent.2, encode, concat_append,
    List.length_append, hheader]

end Encoding

/-! ## Acceptance -/

/-- The data is an instruction: its type is known and it is long enough for it. -/
def WellFormed (b : List UInt8) : Prop := (typeOf b).isSome ∧ requiredLength b ≤ b.length

/-- The data has a header whose type is unknown. -/
def UnknownType (b : List UInt8) : Prop := headerLength ≤ b.length ∧ typeOf b = none

/-- The decoder treats the data as the documentation says. -/
structure DecodesAsDocumented (now : UInt64) (b : List UInt8) : Prop where
  accepts : (∃ i, decode now b = .ok (some i)) ↔ WellFormed b
  ignores : decode now b = .ok none ↔ UnknownType b
  rejects : (∃ offset dataSize bufferLength,
    decode now b = .error (.overflow offset dataSize bufferLength)) ↔
      ¬ WellFormed b ∧ ¬ UnknownType b
  inside : decode now b ≠ .error .outOfBounds

/-- When the data is long enough, so is the length the decoder records for it. -/
def FitsCursor (b : List UInt8) : Prop :=
  requiredLength b ≤ b.length → requiredLength b ≤ b.length % uint32Size

instance (b : List UInt8) : Decidable (FitsCursor b) := by
  unfold FitsCursor
  infer_instance

/-- Data of at least the required length is an instruction or has an unknown type. -/
theorem wellFormed_or_unknownType {b : List UInt8} (h : requiredLength b ≤ b.length) :
    WellFormed b ∨ UnknownType b := by
  cases htype : typeOf b with
  | none => exact .inr ⟨(headerLength_le_requiredLength b).trans h, htype⟩
  | some type => exact .inl ⟨by rw [htype]; rfl, h⟩

/-- Data that is an instruction or has an unknown type is of at least the required length. -/
theorem requiredLength_le {b : List UInt8} (h : WellFormed b ∨ UnknownType b) :
    requiredLength b ≤ b.length := by
  rcases h with hwell | hunknown
  · exact hwell.2
  · rw [requiredLength_of_none hunknown.2]
    exact hunknown.1

/-- Data whose required length is within the recorded length is decoded as documented. -/
theorem decodesAsDocumented_of_le (now : UInt64) {b : List UInt8}
    (h : requiredLength b ≤ b.length % uint32Size) : DecodesAsDocumented now b := by
  have hlength : requiredLength b ≤ b.length := h.trans (Nat.mod_le _ _)
  have hdecode := decode_of_le now h
  rw [documentedInstruction] at hdecode
  refine ⟨?_, ?_, ?_, decode_ne_outOfBounds now b⟩
  · rw [hdecode, WellFormed]
    cases typeOf b <;> simp [hlength]
  · rw [hdecode, UnknownType]
    have hheader := (headerLength_le_requiredLength b).trans hlength
    cases typeOf b <;> simp [hheader]
  · rw [hdecode]
    refine ⟨nofun, fun hneither => absurd (wellFormed_or_unknownType hlength) ?_⟩
    rintro (hwell | hunknown)
    · exact hneither.1 hwell
    · exact hneither.2 hunknown

/-- Data shorter than its required length is rejected, as documented. -/
theorem decodesAsDocumented_of_lt (now : UInt64) {b : List UInt8}
    (h : b.length < requiredLength b) : DecodesAsDocumented now b := by
  obtain ⟨offset, dataSize, hdecode⟩ := decode_of_lt now ((Nat.mod_le _ _).trans_lt h)
  have hneither : ¬ (WellFormed b ∨ UnknownType b) :=
    fun hor => absurd (requiredLength_le hor) (not_le.mpr h)
  rw [not_or] at hneither
  refine ⟨?_, ?_, ?_, decode_ne_outOfBounds now b⟩
  · rw [hdecode]
    exact ⟨fun ⟨_, hok⟩ => (nomatch hok), fun hwell => absurd hwell hneither.1⟩
  · rw [hdecode]
    exact ⟨nofun, fun hunknown => absurd hunknown hneither.2⟩
  · exact ⟨fun _ => hneither, fun _ => ⟨_, _, _, hdecode⟩⟩

/-- Data that is long enough but whose recorded length is not is rejected against the
documentation. -/
theorem not_decodesAsDocumented (now : UInt64) {b : List UInt8} (hle : requiredLength b ≤ b.length)
    (hlt : b.length % uint32Size < requiredLength b) : ¬ DecodesAsDocumented now b := by
  intro hdocumented
  obtain ⟨offset, dataSize, hdecode⟩ := decode_of_lt now hlt
  obtain ⟨hwell, hunknown⟩ := hdocumented.rejects.mp ⟨_, _, _, hdecode⟩
  rcases wellFormed_or_unknownType hle with h | h
  · exact hwell h
  · exact hunknown h

/-- **The instruction format**: the decoder accepts, ignores and rejects data as documented exactly
when the length it records on 32 bits is enough where the length of the data is, and on the same
condition the documented encoding of an instruction is decoded to it. -/
theorem decode_documented_iff (now : UInt64) :
    (∀ b, DecodesAsDocumented now b ↔ FitsCursor b) ∧
      ∀ (sessionId : Vector UInt8 16) (topBit : Bool) (padding : UInt32) (i : WebXInstruction)
        (trailing : List UInt8), StringsFit i →
        (decode now (encode sessionId topBit padding i ++ trailing) = .ok (some (i.receivedAt now))
          ↔ FitsCursor (encode sessionId topBit padding i ++ trailing)) := by
  refine ⟨fun b => ⟨fun hdocumented hle => ?_, fun hfits => ?_⟩, ?_⟩
  · by_contra hlt
    exact not_decodesAsDocumented now hle (not_le.mp hlt) hdocumented
  · by_cases hle : requiredLength b ≤ b.length
    · exact decodesAsDocumented_of_le now (hfits hle)
    · exact decodesAsDocumented_of_lt now (not_le.mp hle)
  · intro sessionId topBit padding i trailing hfit
    -- what is written is long enough, so that only the place of the cursor matters
    have hrequired := requiredLength_encode sessionId topBit padding hfit trailing
    have hlength : requiredLength (encode sessionId topBit padding i ++ trailing)
        ≤ (encode sessionId topBit padding i ++ trailing).length := by
      rw [hrequired, List.length_append]
      exact Nat.le_add_right _ _
    refine ⟨fun hdecode _ => ?_, fun hfits => ?_⟩
    · by_contra hlt
      obtain ⟨offset, dataSize, hoverflow⟩ := decode_of_lt now (not_le.mp hlt)
      rw [hoverflow] at hdecode
      exact nomatch hdecode
    · rw [decode_of_le now (hfits hlength),
        documentedInstruction_encode sessionId topBit padding hfit trailing now]

/-- The format on a clipboard instruction of two characters. -/
theorem decode_documented_iff_clipboard :
    decode 7 (encode (Vector.replicate 16 0) true 0 ⟨1, 2, .clipboard [104, 105]⟩ ++ [255])
        = .ok (some ⟨1, 2, .clipboard [104, 105]⟩) :=
  ((decode_documented_iff 7).2 _ true 0 ⟨1, 2, .clipboard [104, 105]⟩ [255] (by decide)).mpr
    (by decide +kernel)

/-- Data of `2 ^ 32` zero bytes has the header of an unknown type, and is not ignored: the decoder
records the length 0 for it. -/
theorem not_decodesAsDocumented_replicate :
    ¬ DecodesAsDocumented 0 (List.replicate uint32Size 0) := by
  have hword : wordAt (List.replicate uint32Size 0) 20 = 0 := by
    rw [wordAt, slice, List.drop_replicate, List.take_replicate]
    rfl
  have htype : typeOf (List.replicate uint32Size 0) = none := by
    rw [typeOf, hword]
    rfl
  refine not_decodesAsDocumented 0 ?_ ?_ <;>
    rw [requiredLength_of_none htype, List.length_replicate] <;> decide

end InstructionFormat

end WebXEngine
