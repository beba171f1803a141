import WebXEngine.Controller.PointerAgreement
import WebXEngine.Foundations.SwitchLogs

/-! # The buttons of the mouse

The clients share the buttons of one mouse. An instruction has the buttons that its client holds, and X
is told those that differ from the last instruction, whichever client sent it.

* **`heldButtons`** — the buttons of the last instruction.
* **`PointerState.ButtonsRight`** — what X was told alternates and leaves the buttons of the mouse.
* **`buttons_of_run`** — X has the buttons of the last instruction, after every run. -/

namespace WebXEngine

open SwitchLog

/-- A mask has the bit of a button. -/
def pressed (buttonMask mask : UInt32) : Bool := decide (buttonMask &&& mask ≠ 0)

/-- A bit of a mask of one bit. -/
theorem pressed_eq_testBit {mask : UInt32} {k : ℕ} (h : mask.toNat = 2 ^ k) (buttonMask : UInt32) :
    pressed buttonMask mask = buttonMask.toNat.testBit k := by
  rw [pressed, Bool.eq_iff_iff, decide_eq_true_eq, Ne, ← UInt32.toNat_inj, UInt32.toNat_and, h,
    Nat.and_two_pow]
  cases buttonMask.toNat.testBit k <;> simp

/-- The bits in which two masks differ. -/
theorem pressed_xor {mask : UInt32} {k : ℕ} (h : mask.toNat = 2 ^ k) (m n : UInt32) :
    pressed (m ^^^ n) mask = (pressed m mask ^^ pressed n mask) := by
  rw [pressed_eq_testBit h, pressed_eq_testBit h, pressed_eq_testBit h, UInt32.toNat_xor,
    Nat.testBit_xor]

/-- The buttons that the client of an instruction holds; other actions leave them. -/
def MouseAction.heldButtons (held : UInt32) : MouseAction → UInt32
  | .instruction _ _ _ buttonMask _ _ => buttonMask
  | _ => held

/-- The buttons of the last instruction. -/
def heldButtons (actions : List MouseAction) : UInt32 := actions.foldl MouseAction.heldButtons 0

namespace PointerState

variable {state : PointerState}

/-- The presses and the releases of an instruction. -/
def buttonChanges (before after : UInt32) : List (ℕ × Bool) :=
  (buttonMasks.filter fun button => (before ^^^ after) &&& button.1 ≠ 0).map fun button =>
    (button.2, decide (after &&& button.1 ≠ 0))

/-- Every button has one bit. -/
theorem exists_two_pow_of_mem_buttonMasks {button : UInt32 × ℕ} (h : button ∈ buttonMasks) :
    ∃ k, button.1.toNat = 2 ^ k := by
  have hall : ∀ button ∈ buttonMasks, button.1.toNat = 2 ^ (button.2 + 7) := by decide
  exact ⟨_, hall button h⟩

/-- A button has one mask. -/
theorem eq_of_mem_buttonMasks {button other : UInt32 × ℕ} (h : button ∈ buttonMasks)
    (hother : other ∈ buttonMasks) (hsame : button.2 = other.2) : button = other := by
  have hall : ∀ button ∈ buttonMasks, ∀ other ∈ buttonMasks,
      button.2 = other.2 → button = other := by decide
  exact hall button h other hother hsame

/-- A button is pressed or released once by an instruction. -/
theorem nodup_buttonChanges (before after : UInt32) :
    ((buttonChanges before after).map Prod.fst).Nodup := by
  rw [buttonChanges, List.map_map]
  have hall : (buttonMasks.map Prod.snd).Nodup := by decide
  exact hall.sublist (List.filter_sublist.map _)

/-- **An instruction presses the buttons that its client did not hold before, and releases those that
it does not hold any more.** -/
theorem mem_buttonChanges {before after : UInt32} {mask : UInt32} {button : ℕ}
    (h : (mask, button) ∈ buttonMasks) (on : Bool) :
    (button, on) ∈ buttonChanges before after ↔
      pressed after mask = on ∧ pressed before mask = !on := by
  obtain ⟨k, hk⟩ := exists_two_pow_of_mem_buttonMasks h
  have hxor := pressed_xor hk before after
  rw [buttonChanges, List.mem_map]
  constructor
  · rintro ⟨other, hother, heq⟩
    obtain ⟨hmem, hdelta⟩ := List.mem_filter.mp hother
    obtain ⟨hbutton, hon⟩ := Prod.mk.inj heq
    -- the mask is that of the button
    cases eq_of_mem_buttonMasks hmem h hbutton
    have hchange : (pressed before mask ^^ pressed after mask) = true := hxor.symm.trans hdelta
    have hafter : pressed after mask = on := hon
    refine ⟨hafter, ?_⟩
    rw [hafter] at hchange
    cases on <;> simpa using hchange
  · rintro ⟨hafter, hbefore⟩
    refine ⟨(mask, button), List.mem_filter.mpr ⟨h, ?_⟩, Prod.ext rfl hafter⟩
    have hchange : pressed (before ^^^ after) mask = true := by
      rw [hxor, hafter, hbefore]
      cases on <;> rfl
    exact hchange

/-- What X was told alternates between presses and releases of each button, and leaves the buttons of
the mouse pressed. -/
structure ButtonsRight (state : PointerState) : Prop where
  alternates : Alternates state.buttons
  held : ∀ button ∈ buttonMasks,
    isOn state.buttons button.2 = pressed state.mouse.state.buttonMask button.1

/-- No button is down at the beginning. -/
theorem buttonsRight_create (pointer : ScreenPosition) (cursor : Option UInt32) :
    (create pointer cursor).ButtonsRight := by
  refine ⟨fun _ => trivial, fun button _ => ?_⟩
  rw [pressed, create, UInt32.zero_and]
  rfl

/-- An instruction that changes the buttons. -/
theorem ButtonsRight.changed {state' : PointerState} {buttonMask : UInt32} (h : state.ButtonsRight)
    (hbuttons : state'.buttons =
      state.buttons ++ buttonChanges state.mouse.state.buttonMask buttonMask)
    (hmask : state'.mouse.state.buttonMask = buttonMask) : state'.ButtonsRight := by
  have hnodup := nodup_buttonChanges state.mouse.state.buttonMask buttonMask
  constructor
  · rw [hbuttons]
    refine h.alternates.append hnodup fun button on hchange => ?_
    have hchange' := hchange
    rw [buttonChanges, List.mem_map] at hchange'
    obtain ⟨entry, hentry, heq⟩ := hchange'
    obtain ⟨rfl, -⟩ := Prod.mk.inj heq
    have hmem := (List.mem_filter.mp hentry).1
    -- the button was not in the state that it is told now
    rw [h.held entry hmem, ((mem_buttonChanges hmem on).mp hchange).2, Bool.not_not]
  · rintro ⟨mask, button⟩ hmem
    have hon (on : Bool) : (button, on) ∈ buttonChanges state.mouse.state.buttonMask buttonMask ↔
        pressed buttonMask mask = on ∧ pressed state.mouse.state.buttonMask mask = !on :=
      mem_buttonChanges hmem on
    rw [hbuttons, isOn_append hnodup, hmask, h.held _ hmem]
    dsimp only
    rw [if_congr (hon true) rfl rfl, if_congr (hon false) rfl rfl]
    cases pressed buttonMask mask <;> cases pressed state.mouse.state.buttonMask mask <;> rfl

/-- The movement leaves the buttons. -/
theorem buttons_sendMouseMovement (screen : Screen) (newX newY : Int32) :
    (state.sendMouseMovement screen newX newY).buttons = state.buttons := by
  rw [sendMouseMovement]
  split_ifs <;> rfl

/-- Taking the position leaves the buttons. -/
theorem buttons_updatePosition (state : PointerState) :
    state.updatePosition.buttons = state.buttons ∧
      state.updatePosition.mouse.state.buttonMask = state.mouse.state.buttonMask := by
  rw [updatePosition]
  split_ifs
  · exact ⟨rfl, rfl⟩
  · exact ⟨rfl, rfl⟩

/-- **The buttons after an instruction.** -/
theorem buttons_sendClientInstruction (state : PointerState) (screen : Screen)
    (position : Option ScreenPosition) (x y : Int32) (buttonMask : UInt32) :
    let after := state.sendClientInstruction screen position x y buttonMask
    after.buttons = state.buttons ++ buttonChanges state.mouse.state.buttonMask buttonMask ∧
      after.mouse.state.buttonMask = buttonMask := by
  let moved := (((state.sendMouseMovement screen x y).sendMouseButtons buttonMask).setState x y
    buttonMask).moved position
  obtain ⟨hbuttons, hmask⟩ := buttons_updatePosition moved
  refine ⟨hbuttons.trans ?_, hmask⟩
  have hsend : moved.buttons = (state.sendMouseMovement screen x y).buttons ++
      buttonChanges (state.sendMouseMovement screen x y).mouse.state.buttonMask buttonMask := rfl
  rw [hsend, buttons_sendMouseMovement, mouse_sendMouseMovement]

/-- The buttons do not depend on the rest of the state. -/
theorem ButtonsRight.congr {state' : PointerState} (h : state.ButtonsRight)
    (hbuttons : state'.buttons = state.buttons)
    (hmask : state'.mouse.state.buttonMask = state.mouse.state.buttonMask) : state'.ButtonsRight := by
  refine ⟨?_, fun button hmem => ?_⟩
  · rw [hbuttons]
    exact h.alternates
  · rw [hbuttons, hmask]
    exact h.held button hmem

end PointerState

namespace MouseControllerState

variable {state state' : MouseControllerState}

/-- Only an instruction changes the buttons. -/
theorem buttons_step {action : MouseAction} (hstep : state.step action = .ok state') :
    (state'.display.buttons = state.display.buttons ++
        PointerState.buttonChanges state.display.mouse.state.buttonMask
          state'.display.mouse.state.buttonMask ∨
      state'.display.buttons = state.display.buttons ∧
        state'.display.mouse.state.buttonMask = state.display.mouse.state.buttonMask) ∧
      state'.display.mouse.state.buttonMask =
        action.heldButtons state.display.mouse.state.buttonMask := by
  cases action with
  | instruction client x y buttonMask screen moved =>
      obtain ⟨hbuttons, hmask⟩ := PointerState.buttons_sendClientInstruction state.display screen moved
        x y buttonMask
      have hdisplay : state'.display =
          state.display.sendClientInstruction screen moved x y buttonMask := by
        rw [step, onClientMouseInstruction] at hstep
        dsimp only at hstep
        split_ifs at hstep
        · obtain ⟨cursorId, -, hstep⟩ := exists_of_bind_eq_ok hstep
          cases hstep
          rfl
        · cases hstep
          rfl
      rw [hdisplay]
      refine ⟨.inl (hbuttons.trans ?_), hmask⟩
      rw [hmask]
  | refresh =>
      obtain ⟨hbuttons, hmask⟩ := PointerState.buttons_updatePosition state.display
      rw [step, refresh] at hstep
      dsimp only at hstep
      split_ifs at hstep
      · obtain ⟨told, htold, hstep⟩ := exists_of_bind_eq_ok hstep
        obtain ⟨cursorId, -, htold⟩ := exists_of_bind_eq_ok htold
        cases htold
        cases hstep
        exact ⟨.inr ⟨hbuttons, hmask⟩, hmask⟩
      · cases hstep
        exact ⟨.inr ⟨hbuttons, hmask⟩, hmask⟩
  | move position =>
      cases hstep
      exact ⟨.inr ⟨rfl, rfl⟩, rfl⟩
  | updateCursor cursor =>
      cases hstep
      exact ⟨.inr ⟨rfl, rfl⟩, rfl⟩
  | notifyCursorChanged =>
      obtain ⟨cursorId, -, hstep⟩ := exists_of_bind_eq_ok hstep
      cases hstep
      exact ⟨.inr ⟨rfl, rfl⟩, rfl⟩

/-- Every action keeps the buttons right. -/
theorem buttonsRight_step {action : MouseAction} (h : state.display.ButtonsRight)
    (hstep : state.step action = .ok state') : state'.display.ButtonsRight := by
  obtain ⟨hchanged | ⟨hbuttons, hmask⟩, -⟩ := buttons_step hstep
  · exact h.changed hchanged rfl
  · exact h.congr hbuttons hmask

/-- The mouse has the buttons of the last instruction. -/
theorem buttonMask_of_run {actions : List MouseAction}
    {allowed : MouseControllerState → MouseAction → Prop}
    (hrun : Run step allowed state actions state') :
    state'.display.mouse.state.buttonMask =
      actions.foldl MouseAction.heldButtons state.display.mouse.state.buttonMask := by
  induction hrun with
  | nil state => rfl
  | cons _ hstep _ ih =>
      rw [List.foldl_cons, ← (buttons_step hstep).2]
      exact ih

end MouseControllerState

/-- **X has the buttons of the last instruction.** Whatever clients send, and whatever else moves the
pointer, X is told the presses and the releases of each button in turn, the first one a press, and the
buttons that it was told last are those of the last instruction. -/
theorem buttons_of_run (pointer : ScreenPosition) (cursor : Option UInt32)
    {actions : List MouseAction} {state : MouseControllerState}
    (hrun : Run MouseControllerState.step (fun _ _ => True) (.init pointer cursor) actions state) :
    Alternates state.display.buttons ∧
      ∀ button ∈ PointerState.buttonMasks,
        isOn state.display.buttons button.2 = pressed (heldButtons actions) button.1 := by
  have hright : state.display.ButtonsRight :=
    hrun.invariant (P := fun state => state.display.ButtonsRight)
      (fun _ _ _ h _ hstep => MouseControllerState.buttonsRight_step h hstep)
      (PointerState.buttonsRight_create pointer cursor)
  refine ⟨hright.alternates, fun button hmem => ?_⟩
  rw [hright.held button hmem, MouseControllerState.buttonMask_of_run hrun]
  rfl

/-- A client holds the first button, another one moves the mouse without it. -/
def pressAndMove (holder mover : ClientIndex) : List MouseAction :=
  [.instruction holder 5 5 0x100 MouseControllerState.smallScreen none,
    .instruction mover 6 5 0 MouseControllerState.smallScreen none]

/-- The button is pressed and released. -/
theorem buttons_of_run_pressAndMove :
    ∃ state : MouseControllerState, state.display.buttons = [(1, true), (1, false)] ∧
      Alternates state.display.buttons ∧
      ∀ button ∈ PointerState.buttonMasks,
        isOn state.display.buttons button.2 =
          pressed (heldButtons (pressAndMove ⟨1, 0, by decide, rfl⟩ ⟨2, 1, by decide, rfl⟩)) button.1 :=
  ⟨_, rfl, buttons_of_run ⟨⟨0, 0⟩, by decide, by decide⟩ (some 7)
    (.cons trivial rfl (.cons trivial rfl (.nil _)))⟩

end WebXEngine
