import Mathlib.Logic.Basic
import Mathlib.Tactic.SplitIfs
import WebXEngine.Foundations.LittleEndian
import WebXEngine.Models.WindowUpdate

/-! # The clipboard

The engine shares the CLIPBOARD selection with the applications. The content is kept in one place,
which the clients and the applications write.

* **`ClipboardState`** — the content, and what X knows about the selection.
* **`updateClipboard`**, **`onClipboardDataNotify`** — the content of an application is asked for and read.
* **`setClipboardContent`**, **`onClipboardContentRequest`** — the content of a client is offered.
* **`onClipboardDataNotify_eq_self_or`** — what a reply to a conversion can do. -/

namespace WebXEngine

/-- An atom of X, which stands for its name. -/
structure Atom where
  name : String
  deriving DecidableEq, Repr

namespace Atom

def clipboard : Atom := ⟨"CLIPBOARD"⟩
def utf8 : Atom := ⟨"UTF8_STRING"⟩
def targets : Atom := ⟨"TARGETS"⟩
def webXClipboardProperty : Atom := ⟨"WEBX_CLIPBOARD"⟩
def incr : Atom := ⟨"INCR"⟩
def xaString : Atom := ⟨"STRING"⟩
def xaAtom : Atom := ⟨"ATOM"⟩

end Atom

/-- The owner of the selection: the window of the engine, or that of an application. -/
inductive SelectionOwner
  | clipboardWindow
  | application (window : UInt32)
  deriving DecidableEq, Repr

/-- The elements of a property, of 8, 16 or 32 bits. -/
inductive PropertyData
  | bytes (content : List UInt8)
  | shorts (content : List UInt16)
  | longs (content : List UInt32)
  deriving DecidableEq, Repr

namespace PropertyData

/-- The bytes of a property in the server. -/
def size : PropertyData → ℕ
  | bytes content => content.length
  | shorts content => 2 * content.length
  | longs content => 4 * content.length

/-- The memory that the engine gets for a property: elements of 32 bits come as integers of 64 bits. -/
def memory : PropertyData → List UInt8
  | bytes content => content
  | shorts content => content.flatMap fun value => LittleEndian.bytes 2 value.toNat
  | longs content =>
      content.flatMap fun value => LittleEndian.bytes 8 value.toInt32.toInt64.toUInt64.toNat

end PropertyData

/-- A property of a window. -/
structure WindowProperty where
  type : Atom
  data : PropertyData
  deriving DecidableEq, Repr

/-- The content of a property as the engine reads it: as many bytes of the memory as the property has in
the server, and nothing without a property. -/
def WindowProperty.read : Option WindowProperty → List UInt8
  | some property => property.data.memory.take property.data.size
  | none => []

/-- Of two numbers of 32 bits the engine reads the first, widened. -/
example : WindowProperty.read (some ⟨.xaAtom, .longs [0x04030201, 5]⟩) = [1, 2, 3, 4, 0, 0, 0, 0] := by
  decide

/-- The elements that the engine writes to a property: a text, or a list of atoms. -/
inductive AnswerData
  | bytes (content : List UInt8)
  | atoms (content : List Atom)
  deriving DecidableEq, Repr

/-- A property that the engine writes to the window of a requestor. -/
structure AnswerProperty where
  type : Atom
  data : AnswerData
  deriving DecidableEq, Repr

/-- A conversion of the selection that the engine asked for. -/
structure Conversion where
  selection : Atom
  target : Atom
  property : Atom
  deriving DecidableEq, Repr

/-- An event of X: somebody requests the selection. An obsolete program names no property. -/
structure XSelectionRequestEvent where
  requestor : UInt32
  selection : Atom
  target : Atom
  property : Option Atom
  time : UInt32
  deriving DecidableEq, Repr

/-- An event of X: a conversion was made, or not when there is no property. -/
structure XSelectionEvent where
  requestor : UInt32
  selection : Atom
  target : Atom
  property : Option Atom
  time : UInt32
  deriving DecidableEq, Repr

/-- A request was answered: the property of the requestor that was changed, and the event that was
sent. -/
structure SelectionAnswer where
  property : Option (Atom × AnswerProperty)
  event : XSelectionEvent
  deriving DecidableEq, Repr

/-- A target that the engine supports for texts. -/
def TextTarget (target : Atom) : Prop := target = .utf8 ∨ target = .xaString

instance (target : Atom) : Decidable (TextTarget target) :=
  inferInstanceAs (Decidable (target = _ ∨ target = _))

/-- The requestor gets a text in the property that it named. -/
def SelectionAnswer.Gives (answer : SelectionAnswer) (request : XSelectionRequestEvent)
    (content : List UInt8) : Prop :=
  ∃ property, request.property = some property ∧
    answer.property = some (property, ⟨.utf8, .bytes content⟩) ∧
    answer.event = ⟨request.requestor, request.selection, request.target, some property, request.time⟩

/-- The clipboard: the fields of the engine, then the owner of the selection, the conversions that
nobody answered, and the property of the window of the engine. -/
structure ClipboardState where
  clipboardContent : List UInt8
  lastClipboardReadTime : Time
  owner : Option SelectionOwner
  conversions : List Conversion
  property : Option WindowProperty
  deriving DecidableEq, Repr

namespace ClipboardState

/-- The clipboard at the start of the engine. -/
def create (owner : Option SelectionOwner) : ClipboardState where
  clipboardContent := []
  lastClipboardReadTime := 0
  owner := owner
  conversions := []
  property := none

/-- The least time between two conversions. -/
def clipboardRefreshRateMs : ℤ := 500

variable (state : ClipboardState)

/-- Asks for the content of another owner. -/
def updateClipboard (now : Time) : ClipboardState :=
  if Time.toMs (now - state.lastClipboardReadTime) > clipboardRefreshRateMs then
    let state := match state.owner with
      | none => state
      | some .clipboardWindow => state
      | some (.application _) =>
          let conversion : Conversion := ⟨.clipboard, .utf8, .webXClipboardProperty⟩
          { state with conversions := state.conversions ++ [conversion] }
    { state with lastClipboardReadTime := now }
  else state

/-- Reads the content that was asked for, when there is a property. The second part is the content that
the clients are told. -/
def onClipboardDataNotify (event : XSelectionEvent) : ClipboardState × Option (List UInt8) :=
  if event.property = none then (state, none)
  else if state.property.map WindowProperty.type = some Atom.incr then (state, none)
  else
    let clipboardContent := WindowProperty.read state.property
    let state := { state with property := none }
    if clipboardContent ≠ state.clipboardContent then
      ({ state with clipboardContent := clipboardContent }, some clipboardContent)
    else (state, none)

/-- The change of a property, which X refuses when there is none to change. -/
def changeProperty (property : Option Atom) (value : AnswerProperty) : Option (Atom × AnswerProperty) :=
  property.map fun property => (property, value)

/-- The answer to a request. Of the three supported targets, two are listed. -/
def onClipboardContentRequest (request : XSelectionRequestEvent) : SelectionAnswer :=
  let event : XSelectionEvent :=
    { requestor := request.requestor
      selection := request.selection
      target := request.target
      property := none
      time := request.time }
  if request.target = .targets then
    let supportedTargets := [Atom.utf8, .xaString, .targets]
    { property := changeProperty request.property ⟨.xaAtom, .atoms (supportedTargets.take 2)⟩
      event := { event with property := request.property } }
  else if request.target = .utf8 ∨ request.target = .xaString then
    { property := changeProperty request.property ⟨.utf8, .bytes state.clipboardContent⟩
      event := { event with property := request.property } }
  else { property := none, event := event }

/-- Offers the content of a client. -/
def setClipboardContent (content : List UInt8) : ClipboardState :=
  { state with clipboardContent := content, owner := some .clipboardWindow }

variable {state}

/-! ## What the functions do -/

/-- A conversion leaves the content and the owner. -/
theorem updateClipboard_spec (state : ClipboardState) (now : Time) :
    (state.updateClipboard now).clipboardContent = state.clipboardContent ∧
      (state.updateClipboard now).owner = state.owner := by
  rw [updateClipboard]
  split_ifs
  · cases howner : state.owner with
    | none => exact ⟨rfl, howner⟩
    | some owner =>
        cases owner with
        | clipboardWindow => exact ⟨rfl, howner⟩
        | application window => exact ⟨rfl, rfl⟩
  · exact ⟨rfl, rfl⟩

/-- The engine asks nothing of itself. -/
theorem conversions_updateClipboard (howner : state.owner = some .clipboardWindow) (now : Time) :
    (state.updateClipboard now).conversions = state.conversions := by
  rw [updateClipboard, howner]
  split_ifs <;> rfl

/-- An event brings a content: there is a property, which the engine reads. -/
def Brings (state : ClipboardState) (event : XSelectionEvent) (content : List UInt8) : Prop :=
  event.property ≠ none ∧ state.property.map WindowProperty.type ≠ some Atom.incr ∧
    content = WindowProperty.read state.property

/-- **A reply** leaves the owner, and changes the content to what it brings, which is then told. -/
theorem onClipboardDataNotify_spec (state : ClipboardState) (event : XSelectionEvent) :
    (state.onClipboardDataNotify event).1.owner = state.owner ∧
      (((state.onClipboardDataNotify event).1.clipboardContent = state.clipboardContent ∧
          (state.onClipboardDataNotify event).2 = none ∧
          ∀ content, state.Brings event content → content = state.clipboardContent) ∨
        ∃ content, state.Brings event content ∧ content ≠ state.clipboardContent ∧
          (state.onClipboardDataNotify event).1.clipboardContent = content ∧
          (state.onClipboardDataNotify event).2 = some content) := by
  rw [onClipboardDataNotify]
  dsimp only
  split_ifs with hproperty hincr hchanged
  · exact ⟨rfl, .inl ⟨rfl, rfl, fun _ hbrings => absurd hproperty hbrings.1⟩⟩
  · exact ⟨rfl, .inl ⟨rfl, rfl, fun _ hbrings => absurd hincr hbrings.2.1⟩⟩
  · exact ⟨rfl, .inr ⟨_, ⟨hproperty, hincr, rfl⟩, hchanged, rfl, rfl⟩⟩
  · refine ⟨rfl, .inl ⟨rfl, rfl, fun content hbrings => ?_⟩⟩
    rw [hbrings.2.2]
    exact not_not.mp hchanged

/-- **The content is given** to those who request a text and name a property, and to no others. -/
theorem gives_onClipboardContentRequest_iff {request : XSelectionRequestEvent}
    (htext : TextTarget request.target) (content : List UInt8) :
    (state.onClipboardContentRequest request).Gives request content ↔
      request.property ≠ none ∧ content = state.clipboardContent := by
  have htargets : request.target ≠ .targets := by
    rintro h
    rw [h] at htext
    exact absurd htext (by decide)
  rw [onClipboardContentRequest, if_neg htargets,
    if_pos (show request.target = .utf8 ∨ request.target = .xaString from htext)]
  -- the content is given in the property that the request names
  cases hproperty : request.property with
  | none =>
      constructor
      · rintro ⟨property, hnone, -⟩
        rw [hproperty] at hnone
        cases hnone
      · exact fun h => absurd rfl h.1
  | some property =>
      constructor
      · rintro ⟨other, -, hanswer, -⟩
        cases hanswer
        exact ⟨Option.some_ne_none _, rfl⟩
      · rintro ⟨-, rfl⟩
        exact ⟨property, hproperty, rfl, rfl⟩

end ClipboardState

end WebXEngine
