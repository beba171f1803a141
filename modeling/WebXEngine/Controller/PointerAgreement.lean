import Mathlib.Logic.Function.Basic
import WebXEngine.Display.Mouse
import WebXEngine.Foundations.BitMasks
import WebXEngine.Foundations.Runs
import WebXEngine.Models.Message

/-! # The position of the pointer

Every client knows the last position that it sent or that it was told. The controller tells the others
where a client moved the pointer, and all of them when a refresh finds that it moved.

* **`MouseControllerState.step`** — the instructions of clients, the refreshes, and other programs.
* **`PointerAgreement`** — after a refresh that finds nothing, the clients know where the pointer is.
* **`pointerAgreement`** — they do when X takes the positions of the instructions. -/

namespace WebXEngine

open BitMask

/-- The index of a client. -/
abbrev ClientIndex := {index : UInt64 // SingleBit index}

/-- The mouse, and the positions that the clients know. -/
structure MouseControllerState where
  display : PointerState
  lastKnown : ClientIndex → Option WebXPosition

/-- What happens to the mouse. -/
inductive MouseAction
  /-- The instruction of a client; the screen, and where another program moves the pointer meanwhile. -/
  | instruction (client : ClientIndex) (x y : Int32) (buttonMask : UInt32) (screen : Screen)
      (moved : Option ScreenPosition)
  /-- The position is refreshed by the loop of the controller. -/
  | refresh
  /-- Another program moves the pointer. -/
  | move (position : ScreenPosition)
  /-- X has a new cursor, which may be null. -/
  | updateCursor (cursor : Option UInt32)
  /-- The clients are told the cursor. -/
  | notifyCursorChanged

namespace MouseControllerState

/-- The start of the engine. -/
def init (pointer : ScreenPosition) (cursor : Option UInt32) : MouseControllerState where
  display := .create pointer cursor
  lastKnown := fun _ => none

variable (state : MouseControllerState)

/-- Sends a message: a client in its mask takes the position, unless it is -1, -1. -/
def sendMessage (message : WebXMessage) : MouseControllerState :=
  { state with
    lastKnown := fun client =>
      if message.clientIndexMask &&& client.1 = 0 then state.lastKnown client
      else match message.content with
        | .mouse x y _ => if x = -1 ∧ y = -1 then state.lastKnown client else some ⟨x, y⟩
        | _ => state.lastKnown client }

/-- The instruction of a client. The client knows the position that it sent; the others are told when
it is not the one of the engine. -/
def onClientMouseInstruction (client : ClientIndex) (x y : Int32) (buttonMask : UInt32)
    (screen : Screen) (moved : Option ScreenPosition) : Except Fault MouseControllerState := do
  let previousMousePosition := state.display.mouse.state.position
  let state : MouseControllerState :=
    { display := state.display.sendClientInstruction screen moved x y buttonMask
      lastKnown := Function.update state.lastKnown client (some ⟨x, y⟩) }
  if previousMousePosition.x ≠ x ∨ previousMousePosition.y ≠ y then
    let cursorId ← state.display.getCursorId
    let state := state.sendMessage ⟨~~~client.1, .mouse x y cursorId⟩
    .ok (state.sendMessage ⟨client.1, .mouse (-1) (-1) cursorId⟩)
  else .ok state

/-- Tells the clients the cursor. -/
def notifyCursorChanged : Except Fault MouseControllerState := do
  let cursorId ← state.display.getCursorId
  .ok (state.sendMessage ⟨globalClientIndexMask, .mouse (-1) (-1) cursorId⟩)

/-- Tells the clients the position. -/
def notifyMousePositionChanged : Except Fault MouseControllerState := do
  let mouseState := state.display.mouse.state
  let cursorId ← state.display.getCursorId
  .ok (state.sendMessage ⟨globalClientIndexMask, .mouse mouseState.x mouseState.y cursorId⟩)

/-- Refreshes the position. -/
def refresh : Except Fault MouseControllerState := do
  let state := { state with display := state.display.updatePosition }
  if state.display.mouse.isDirty then
    let state ← state.notifyMousePositionChanged
    .ok { state with display := state.display.setDirty false }
  else .ok state

/-- One action. -/
def step : MouseAction → Except Fault MouseControllerState
  | .instruction client x y buttonMask screen moved =>
      state.onClientMouseInstruction client x y buttonMask screen moved
  | .refresh => state.refresh
  | .move position => .ok { state with display := state.display.moved (some position) }
  | .updateCursor cursor => .ok { state with display := state.display.updateCursor cursor }
  | .notifyCursorChanged => state.notifyCursorChanged

/-- When its position is taken, the pointer is where the client sent it. -/
def TakesPosition : MouseAction → Prop
  | .instruction _ x y _ screen moved => state.display.positionTaken screen moved x y = ⟨x, y⟩
  | _ => True

end MouseControllerState

/-- In all runs from a start of the engine, after a refresh that finds the mouse clean, the clients that
know a position know that of the pointer. -/
def PointerAgreement (pointer : ScreenPosition) (cursor : Option UInt32)
    (condition : MouseControllerState → MouseAction → Prop) : Prop :=
  ∀ actions state,
    Run MouseControllerState.step condition (.init pointer cursor) actions state →
    state.display.updatePosition.mouse.isDirty = false →
    ∀ state', state.step .refresh = .ok state' → ∀ client position,
      state'.lastKnown client = some position → position = state'.display.pointer.toWebXPosition

namespace MouseControllerState

variable {state state' : MouseControllerState}

/-! ## Messages -/

/-- A message without a position tells nothing. -/
theorem lastKnown_sendMessage_cursor (clientIndexMask : UInt64) (cursorId : UInt32) :
    (state.sendMessage ⟨clientIndexMask, .mouse (-1) (-1) cursorId⟩) = state := by
  rw [sendMessage]
  congr 1
  funext client
  split_ifs
  · rfl
  · exact if_pos ⟨rfl, rfl⟩

/-- The mask of the others leaves out one client only. -/
theorem not_and_eq_zero_iff (client other : ClientIndex) :
    ~~~client.1 &&& other.1 = 0 ↔ other = client := by
  obtain ⟨k, -, hclient⟩ := client.2
  obtain ⟨l, hl, hother⟩ := other.2
  rw [Subtype.ext_iff, and_eq_zero]
  constructor
  · intro hnone
    have hbit : bit client.1 l = true := by
      by_contra hclear
      exact hnone l ⟨by simp [hl, hclear], by rw [bit_of_toNat_eq hother, decide_eq_true rfl]⟩
    rw [bit_of_toNat_eq hclient, decide_eq_true_eq] at hbit
    exact UInt64.toNat_inj.mp (by rw [hclient, hother, hbit])
  · rintro hsame i ⟨hnot, hbit⟩
    rw [hsame] at hbit
    simp [hbit] at hnot

/-- The others are told the position of an instruction, which is not negative. -/
theorem lastKnown_sendMessage_others (client : ClientIndex) {x y : Int32} (hx : x ≠ -1)
    (cursorId : UInt32) (other : ClientIndex) :
    (state.sendMessage ⟨~~~client.1, .mouse x y cursorId⟩).lastKnown other =
      if other = client then state.lastKnown other else some ⟨x, y⟩ := by
  rw [sendMessage]
  dsimp only
  by_cases hsame : other = client
  · rw [if_pos ((not_and_eq_zero_iff client other).mpr hsame), if_pos hsame]
  · rw [if_neg (mt (not_and_eq_zero_iff client other).mp hsame), if_neg hsame,
      if_neg fun hnone => hx hnone.1]

/-- All clients are told a position, which is not negative. -/
theorem lastKnown_sendMessage_all {x y : Int32} (hx : x ≠ -1) (cursorId : UInt32)
    (client : ClientIndex) :
    (state.sendMessage ⟨globalClientIndexMask, .mouse x y cursorId⟩).lastKnown client =
      some ⟨x, y⟩ := by
  rw [sendMessage]
  dsimp only
  rw [globalClientIndexMask_and, if_neg client.2.ne_zero, if_neg fun hnone => hx hnone.1]

/-! ## The agreement -/

/-- The mouse is clean, and the clients that know a position know that of the engine. -/
structure Agrees (state : MouseControllerState) : Prop where
  clean : state.display.mouse.isDirty = false
  known : ∀ client position, state.lastKnown client = some position →
    position = state.display.mouse.state.position

/-- The engine starts with the position that X has. -/
theorem agrees_init (pointer : ScreenPosition) (cursor : Option UInt32) :
    Agrees (init pointer cursor) := ⟨rfl, fun _ _ h => by cases h⟩

/-- The pointer is never at -1. -/
theorem x_ne_neg_one (position : ScreenPosition) : position.x ≠ -1 := by
  intro h
  have hnonneg := position.x_nonneg
  rw [h] at hnonneg
  exact absurd hnonneg (by decide)

/-- An instruction whose position X takes. -/
theorem Agrees.onClientMouseInstruction (h : Agrees state) {client : ClientIndex} {x y : Int32}
    {buttonMask : UInt32} {screen : Screen} {moved : Option ScreenPosition}
    (htakes : state.display.positionTaken screen moved x y = ⟨x, y⟩)
    (hstep : state.onClientMouseInstruction client x y buttonMask screen moved = .ok state') :
    Agrees state' := by
  obtain ⟨hposition, hpointer, hclean, -⟩ :=
    PointerState.sendClientInstruction_spec state.display screen moved x y buttonMask
  rw [htakes] at hposition hpointer
  have hx : x ≠ -1 := by
    have hsame := congrArg WebXPosition.x hpointer
    exact ne_of_eq_of_ne hsame.symm (x_ne_neg_one _)
  rw [MouseControllerState.onClientMouseInstruction] at hstep
  dsimp only at hstep
  split_ifs at hstep with hchanged
  · -- the others are told the position
    cases hcursor : (state.display.sendClientInstruction screen moved x y buttonMask).getCursorId with
    | error fault =>
        rw [hcursor] at hstep
        cases hstep
    | ok cursorId =>
        rw [hcursor] at hstep
        cases hstep
        rw [lastKnown_sendMessage_cursor]
        refine ⟨hclean, fun other position hknown => ?_⟩
        rw [lastKnown_sendMessage_others client hx] at hknown
        split_ifs at hknown with hsame
        · dsimp only at hknown
          rw [hsame, Function.update_self, Option.some.injEq] at hknown
          exact hknown.symm.trans hposition.symm
        · cases hknown
          exact hposition.symm
  · -- the others know the position already
    rw [not_or, not_not, not_not] at hchanged
    cases hstep
    refine ⟨hclean, fun other position hknown => ?_⟩
    dsimp only at hknown
    by_cases hsame : other = client
    · rw [hsame, Function.update_self, Option.some.injEq] at hknown
      exact hknown.symm.trans hposition.symm
    · rw [Function.update_of_ne hsame] at hknown
      have hbefore : state.display.mouse.state.position = ⟨x, y⟩ := by rw [← hchanged.1, ← hchanged.2]
      exact (h.known other position hknown).trans (hbefore.trans hposition.symm)

/-- A refresh that finds the mouse clean changes nothing. -/
theorem refresh_of_clean (h : state.display.updatePosition.mouse.isDirty = false) :
    state.refresh = .ok state := by
  have hsame := PointerState.updatePosition_of_clean h
  rw [MouseControllerState.refresh]
  dsimp only
  rw [if_neg (by rw [h]; decide), hsame]

/-- A refresh tells all clients where the pointer is, when it finds that it moved. -/
theorem Agrees.refresh (h : Agrees state) (hstep : state.refresh = .ok state') : Agrees state' := by
  cases hdirty : state.display.updatePosition.mouse.isDirty with
  | false =>
      cases (refresh_of_clean hdirty).symm.trans hstep
      exact h
  | true =>
      rw [MouseControllerState.refresh] at hstep
      dsimp only at hstep
      rw [if_pos hdirty, MouseControllerState.notifyMousePositionChanged] at hstep
      dsimp only at hstep
      cases hcursor : state.display.updatePosition.getCursorId with
      | error fault =>
          rw [hcursor] at hstep
          cases hstep
      | ok cursorId =>
          rw [hcursor] at hstep
          cases hstep
          refine ⟨rfl, fun client position hknown => ?_⟩
          -- a position that was read is not the one that stands for none
          have hx : state.display.updatePosition.mouse.state.x ≠ -1 := by
            have hsame := congrArg WebXPosition.x
              (PointerState.position_updatePosition state.display)
            exact ne_of_eq_of_ne hsame (x_ne_neg_one _)
          dsimp only at hknown
          rw [lastKnown_sendMessage_all hx] at hknown
          cases hknown
          rfl

/-- **Every action keeps the agreement**, as long as X takes the positions of the instructions. -/
theorem Agrees.step (h : Agrees state) {action : MouseAction} (htakes : state.TakesPosition action)
    (hstep : state.step action = .ok state') : Agrees state' := by
  cases action with
  | instruction client x y buttonMask screen moved => exact h.onClientMouseInstruction htakes hstep
  | refresh => exact h.refresh hstep
  | move position =>
      cases hstep
      exact ⟨h.clean, h.known⟩
  | updateCursor cursor =>
      cases hstep
      exact ⟨h.clean, h.known⟩
  | notifyCursorChanged =>
      rw [MouseControllerState.step, MouseControllerState.notifyCursorChanged] at hstep
      cases hcursor : state.display.getCursorId with
      | error fault =>
          rw [hcursor] at hstep
          cases hstep
      | ok cursorId =>
          rw [hcursor] at hstep
          cases hstep
          rw [lastKnown_sendMessage_cursor]
          exact h

end MouseControllerState

/-- **The clients know where the pointer is**, after a refresh that finds the mouse clean, when X takes
the positions of the instructions. -/
theorem pointerAgreement (pointer : ScreenPosition) (cursor : Option UInt32) :
    PointerAgreement pointer cursor MouseControllerState.TakesPosition := by
  intro actions state hrun hclean state' hstep client position hknown
  have hagrees : state.Agrees :=
    hrun.invariant (P := MouseControllerState.Agrees) (fun _ _ _ h htakes hstep => h.step htakes hstep)
      (MouseControllerState.agrees_init pointer cursor)
  cases (MouseControllerState.refresh_of_clean hclean).symm.trans hstep
  have hposition := PointerState.position_updatePosition state.display
  rw [PointerState.updatePosition_of_clean hclean] at hposition
  exact (hagrees.known client position hknown).trans hposition

namespace MouseControllerState

/-- A screen with 100 columns and 100 lines. -/
def smallScreen : Screen := ⟨99, 99, by decide, by decide⟩

/-- A client sends the pointer to a place on the screen; then another program moves it, which a refresh
tells. -/
def sendInside : List MouseAction :=
  [.instruction ⟨1, 0, by decide, rfl⟩ 50 60 0 smallScreen none,
    .move ⟨⟨10, 20⟩, by decide, by decide⟩, .refresh]

/-- The client knows the position at the end. -/
theorem pointerAgreement_sendInside : ∃ state,
    Run step TakesPosition (init ⟨⟨0, 0⟩, by decide, by decide⟩ (some 7)) sendInside state ∧
      state.lastKnown ⟨1, 0, by decide, rfl⟩ = some ⟨10, 20⟩ ∧
      (⟨10, 20⟩ : WebXPosition) = state.display.pointer.toWebXPosition := by
  obtain ⟨state, hrun, hclean, hknown⟩ : ∃ state,
      Run step TakesPosition (init ⟨⟨0, 0⟩, by decide, by decide⟩ (some 7)) sendInside state ∧
        state.display.updatePosition.mouse.isDirty = false ∧
        state.lastKnown ⟨1, 0, by decide, rfl⟩ = some ⟨10, 20⟩ :=
    ⟨_, .cons (by rw [TakesPosition]; decide +kernel) rfl
      (.cons trivial rfl (.cons trivial rfl (.nil _))), by decide +kernel, rfl⟩
  exact ⟨state, hrun, hknown, pointerAgreement _ _ sendInside state hrun hclean state
    (refresh_of_clean hclean) _ _ hknown⟩

/-- A client sends the pointer to the right of the screen. -/
def sendOutside : List MouseAction :=
  [.instruction ⟨1, 0, by decide, rfl⟩ 500 50 0 smallScreen none]

/-- X leaves the pointer on the screen, which no client is told. -/
theorem not_pointerAgreement :
    ¬ PointerAgreement ⟨⟨0, 0⟩, by decide, by decide⟩ (some 7) fun _ _ => True := by
  intro h
  obtain ⟨state, hrun, hclean, hknown, hpointer⟩ : ∃ state,
      Run step (fun _ _ => True) (init ⟨⟨0, 0⟩, by decide, by decide⟩ (some 7)) sendOutside state ∧
        state.display.updatePosition.mouse.isDirty = false ∧
        state.lastKnown ⟨1, 0, by decide, rfl⟩ = some ⟨500, 50⟩ ∧
        state.display.pointer.toWebXPosition = ⟨99, 50⟩ :=
    ⟨_, .cons trivial rfl (.nil _), by decide +kernel, rfl, by decide +kernel⟩
  have hsame := h sendOutside state hrun hclean state (refresh_of_clean hclean) _ _ hknown
  rw [hpointer] at hsame
  exact absurd hsame (by decide)

end MouseControllerState

end WebXEngine
