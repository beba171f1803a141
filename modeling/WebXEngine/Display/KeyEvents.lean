import WebXEngine.Display.HeldKeys

/-! # The key events that are sent to X

The keyboard sends presses and releases of keycodes to X, one after the other. Here they are kept in a
log, which says what X holds down at each moment and how often the key of a lock was pressed.

* **`XTestKeyboard.handleKeySym`** — a key is pressed or released, with the events for it.
* **`heldAfter`** — the keycodes that X holds down after some events.
* **`KeysAgree.handleKeySym`** — the events hold down what the model of the keyboard holds down.
* **`handleKeySym_press`**, **`handleKeySym_release`** — the events of a press and of a release.
* **`pressesRight`** — the modifiers are right when a key goes down. -/

namespace WebXEngine

/-- An event for a key. -/
structure XTestKeyEvent where
  keycode : Int32
  isPress : Bool
  deriving DecidableEq, Repr

/-- The keyboard, and the events that it sent. -/
structure XTestKeyboard where
  keyboard : WebXKeyboard
  sent : List XTestKeyEvent
  deriving DecidableEq, Repr

open WebXKeyboard

namespace XTestKeyboard

/-- Sends some events. -/
def send (state : XTestKeyboard) (events : List XTestKeyEvent) : XTestKeyboard :=
  { state with sent := state.sent ++ events }

/-- Sends an event. -/
def fakeKeyEvent (state : XTestKeyboard) (keycode : Int32) (isPress : Bool) : XTestKeyboard :=
  state.send [⟨keycode, isPress⟩]

@[simp] theorem sent_send (state : XTestKeyboard) (events : List XTestKeyEvent) :
    (state.send events).sent = state.sent ++ events := rfl

@[simp] theorem send_nil (state : XTestKeyboard) : state.send [] = state := by
  rw [send, List.append_nil]

@[simp] theorem send_send (state : XTestKeyboard) (events events' : List XTestKeyEvent) :
    (state.send events).send events' = state.send (events ++ events') := by
  rw [send, send, send, List.append_assoc]

/-! ## Modifiers and locks -/

section

variable (handleKeySym : XTestKeyboard → Int32 → Bool → Except Fault XTestKeyboard)

/-- The part of the modifiers that is about shift. -/
def updateShift (state : XTestKeyboard) (modifiersToSet modifiersToClear : Int32) :
    Except Fault XTestKeyboard :=
  if hasKey modifiersToSet shiftModifierKey then handleKeySym state keysymLShift true
  else if hasKey modifiersToClear shiftModifierKey then do
    let state ← handleKeySym state keysymLShift false
    handleKeySym state keysymRShift false
  else .ok state

/-- The part of the modifiers that is about AltGr. -/
def updateAltGr (state : XTestKeyboard) (modifiersToSet modifiersToClear : Int32) :
    Except Fault XTestKeyboard :=
  if hasKey modifiersToSet altGrModifierKey then handleKeySym state keysymAltGr true
  else if hasKey modifiersToClear altGrModifierKey then do
    let state ← handleKeySym state keysymAltGr false
    let state ← handleKeySym state keysymLAlt false
    handleKeySym state keysymRAlt false
  else .ok state

/-- Presses and releases modifiers. -/
def updateModifiers (state : XTestKeyboard) (modifiersToSet modifiersToClear : Int32) :
    Except Fault XTestKeyboard := do
  let state ← updateShift handleKeySym state modifiersToSet modifiersToClear
  updateAltGr handleKeySym state modifiersToSet modifiersToClear

/-- Releases modifiers. -/
def releaseModifiers (state : XTestKeyboard) (modifiers : Int32) : Except Fault XTestKeyboard := do
  let state ←
    if hasKey modifiers shiftModifierKey then handleKeySym state keysymLShift false else .ok state
  if hasKey modifiers altGrModifierKey then handleKeySym state keysymAltGr false else .ok state

/-- Sets the lock, unless it is set. -/
def updateLocks (state : XTestKeyboard) (locks : Int32) : Except Fault XTestKeyboard := do
  if hasKey locks numLockKey ∧ ¬ hasKey state.keyboard.locksSet numLockKey then
    let state ← handleKeySym state keysymNumLock true
    let state ← handleKeySym state keysymNumLock false
    .ok { state with
      keyboard := { state.keyboard with locksSet := state.keyboard.locksSet ||| numLockKey } }
  else .ok state

/-- Clears the lock when it is set. -/
def releaseLocks (state : XTestKeyboard) (locks : Int32) : Except Fault XTestKeyboard := do
  if hasKey locks numLockKey ∧ hasKey state.keyboard.locksSet numLockKey then
    let state ← handleKeySym state keysymNumLock true
    let state ← handleKeySym state keysymNumLock false
    .ok { state with
      keyboard := { state.keyboard with locksSet := state.keyboard.locksSet &&& ~~~numLockKey } }
  else .ok state

end

/-- Handles a keysym. The stack has room for `depth` calls. -/
def handleKeySym : ℕ → XTestKeyboard → (keysym : Int32) → (pressed isFromClient : Bool) →
    Except Fault XTestKeyboard
  | 0, _, _, _, _ => .error .stackOverflow
  | depth + 1, state, keysym, pressed, isFromClient =>
      let handle (state : XTestKeyboard) (keysym : Int32) (pressed : Bool) :
          Except Fault XTestKeyboard := handleKeySym depth state keysym pressed false
      match activeDefinition state.keyboard keysym with
      | none => .ok state
      | some keysymDef =>
          if pressed then do
            let state ← updateModifiers handle state keysymDef.modifiersToSet
              keysymDef.modifiersToClear
            let state ← updateLocks handle state keysymDef.locksToSet
            .ok (fakeKeyEvent state keysymDef.keycode true)
          else do
            let state ← releaseModifiers handle (fakeKeyEvent state keysymDef.keycode false)
              keysymDef.modifiersToSet
            if isFromClient then releaseLocks handle state keysymDef.locksToSet else .ok state

end XTestKeyboard

/-! ## What X holds down -/

/-- The keycodes that are held down after some events. -/
def heldAfter (held : Set Int32) (events : List XTestKeyEvent) : Set Int32 :=
  events.foldl
    (fun held event => if event.isPress then insert event.keycode held else held \ {event.keycode})
    held

@[simp] theorem heldAfter_nil (held : Set Int32) : heldAfter held [] = held := rfl

@[simp] theorem heldAfter_append (held : Set Int32) (events events' : List XTestKeyEvent) :
    heldAfter held (events ++ events') = heldAfter (heldAfter held events) events' :=
  List.foldl_append

@[simp] theorem heldAfter_press (held : Set Int32) (keycode : Int32) (events : List XTestKeyEvent) :
    heldAfter held (⟨keycode, true⟩ :: events) = heldAfter (insert keycode held) events := rfl

@[simp] theorem heldAfter_release (held : Set Int32) (keycode : Int32)
    (events : List XTestKeyEvent) :
    heldAfter held (⟨keycode, false⟩ :: events) = heldAfter (held \ {keycode}) events := rfl

/-! ## The keycodes that are held down -/

/-- The two models of the keyboard agree: `held` was held down before the events. -/
structure KeysAgree (held : Set Int32) (state : KeyboardState) (log : XTestKeyboard) : Prop where
  keyboard : state.keyboard = log.keyboard
  held : ∀ keycode, state.held keycode ≠ none ↔ keycode ∈ heldAfter held log.sent

namespace KeysAgree

variable {held : Set Int32} {state : KeyboardState} {log : XTestKeyboard} {client : Int32}

/-- The press of a keycode holds it down in both models. -/
theorem press (h : KeysAgree held state log) (keycode : Int32) :
    KeysAgree held (fakeKeyPress client state keycode) (log.fakeKeyEvent keycode true) := by
  refine ⟨(keyboard_fakeKeyPress keycode).trans h.keyboard, fun other => ?_⟩
  rw [XTestKeyboard.fakeKeyEvent, XTestKeyboard.sent_send, heldAfter_append, heldAfter_press,
    heldAfter_nil, Set.mem_insert_iff, ← h.held, fakeKeyPress]
  split_ifs with hheld
  · refine (or_iff_right_of_imp ?_).symm
    rintro rfl
    exact Option.isSome_iff_ne_none.mp hheld
  · by_cases hsame : other = keycode
    · simp [hsame]
    · simp [hsame]

/-- The release of a keycode releases it in both models. -/
theorem release (h : KeysAgree held state log) (keycode : Int32) :
    KeysAgree held (fakeKeyRelease state keycode) (log.fakeKeyEvent keycode false) := by
  refine ⟨h.keyboard, fun other => ?_⟩
  rw [XTestKeyboard.fakeKeyEvent, XTestKeyboard.sent_send, heldAfter_append, heldAfter_release,
    heldAfter_nil, Set.mem_sdiff, ← h.held, fakeKeyRelease]
  by_cases hsame : other = keycode
  · simp [hsame]
  · simp [hsame]

section

variable {handle : KeyboardState → Int32 → Bool → Except Fault KeyboardState}
  {handle' : XTestKeyboard → Int32 → Bool → Except Fault XTestKeyboard}
  (hhandle : ∀ state log, KeysAgree held state log → ∀ keysym pressed,
    ResultsAgree (KeysAgree held) (handle state keysym pressed) (handle' log keysym pressed))
include hhandle

/-- The modifiers before a press. -/
theorem updateModifiers (h : KeysAgree held state log) (modifiersToSet modifiersToClear : Int32) :
    ResultsAgree (KeysAgree held)
      (WebXKeyboard.updateModifiers handle state modifiersToSet modifiersToClear)
      (log.updateModifiers handle' modifiersToSet modifiersToClear) := by
  refine ResultsAgree.bind (R := KeysAgree held) ?_ fun state log h => ?_
  · refine .ite (hhandle _ _ h _ _) (.ite ?_ (.ok h))
    exact (hhandle _ _ h _ _).bind fun state log h => hhandle _ _ h _ _
  · refine .ite (hhandle _ _ h _ _) (.ite ?_ (.ok h))
    refine (hhandle _ _ h _ _).bind fun state log h => ?_
    exact (hhandle _ _ h _ _).bind fun state log h => hhandle _ _ h _ _

/-- The modifiers after a release. -/
theorem releaseModifiers (h : KeysAgree held state log) (modifiers : Int32) :
    ResultsAgree (KeysAgree held) (WebXKeyboard.releaseModifiers handle state modifiers)
      (log.releaseModifiers handle' modifiers) := by
  rw [WebXKeyboard.releaseModifiers, XTestKeyboard.releaseModifiers]
  refine .ite ((hhandle _ _ h _ _).bind fun state log h => ?_) ?_
  · exact .ite (hhandle _ _ h _ _) (.ok h)
  · exact .ite (hhandle _ _ h _ _) (.ok h)

/-- The lock before a press. -/
theorem updateLocks (h : KeysAgree held state log) (locks : Int32) :
    ResultsAgree (KeysAgree held) (WebXKeyboard.updateLocks handle client state locks)
      (log.updateLocks handle' locks) := by
  rw [WebXKeyboard.updateLocks, XTestKeyboard.updateLocks, h.keyboard]
  refine .ite ?_ (.ok h)
  refine (hhandle _ _ h _ _).bind fun state log h => ?_
  refine (hhandle _ _ h _ _).bind fun state log h => ?_
  rw [h.keyboard]
  exact .ok ⟨rfl, h.held⟩

/-- The lock after a release. -/
theorem releaseLocks (h : KeysAgree held state log) (locks : Int32) :
    ResultsAgree (KeysAgree held) (WebXKeyboard.releaseLocks handle state locks)
      (log.releaseLocks handle' locks) := by
  rw [WebXKeyboard.releaseLocks, XTestKeyboard.releaseLocks, h.keyboard]
  refine .ite ?_ (.ok h)
  refine (hhandle _ _ h _ _).bind fun state log h => ?_
  refine (hhandle _ _ h _ _).bind fun state log h => ?_
  rw [h.keyboard]
  exact .ok ⟨rfl, h.held⟩

end

/-- **The events hold down what the model of the keyboard holds down.** -/
theorem handleKeySym (client : Int32) (depth : ℕ) :
    ∀ {state : KeyboardState} {log : XTestKeyboard}, KeysAgree held state log →
      ∀ keysym pressed isFromClient, ResultsAgree (KeysAgree held)
        (WebXKeyboard.handleKeySym client depth state keysym pressed isFromClient)
        (log.handleKeySym depth keysym pressed isFromClient) := by
  induction depth with
  | zero => exact fun _ _ _ _ => .error _
  | succ depth ih =>
      intro state log h keysym pressed isFromClient
      -- what is typed for the modifiers and the locks is one level deeper
      have hhandle (state : KeyboardState) (log : XTestKeyboard) (h : KeysAgree held state log)
          (keysym : Int32) (pressed : Bool) := ih h keysym pressed false
      rw [WebXKeyboard.handleKeySym, XTestKeyboard.handleKeySym, h.keyboard]
      cases activeDefinition log.keyboard keysym with
      | none => exact .ok h
      | some keysymDef =>
          refine .ite ?_ ?_
          · refine (h.updateModifiers hhandle _ _).bind fun state log h => ?_
            refine (h.updateLocks hhandle _).bind fun state log h => ?_
            exact .ok (h.press _)
          · refine ((h.release _).releaseModifiers hhandle _).bind fun state log h => ?_
            exact .ite (h.releaseLocks hhandle _) (.ok h)

end KeysAgree

/-! ## The events of a key -/

namespace XTestKeyboard

/-- The events for shift. -/
def shiftEvents (mapping : WebXKeyboardMapping) (modifiersToSet modifiersToClear : Int32) :
    List XTestKeyEvent :=
  if hasKey modifiersToSet shiftModifierKey then [⟨keycodeOf mapping keysymLShift, true⟩]
  else if hasKey modifiersToClear shiftModifierKey then
    [⟨keycodeOf mapping keysymLShift, false⟩, ⟨keycodeOf mapping keysymRShift, false⟩]
  else []

/-- The events for AltGr. -/
def altGrEvents (mapping : WebXKeyboardMapping) (modifiersToSet modifiersToClear : Int32) :
    List XTestKeyEvent :=
  if hasKey modifiersToSet altGrModifierKey then [⟨keycodeOf mapping keysymAltGr, true⟩]
  else if hasKey modifiersToClear altGrModifierKey then
    [⟨keycodeOf mapping keysymAltGr, false⟩, ⟨keycodeOf mapping keysymLAlt, false⟩,
      ⟨keycodeOf mapping keysymRAlt, false⟩]
  else []

/-- A tap on the key of the lock, or nothing. -/
def numLockTap (mapping : WebXKeyboardMapping) (isTapped : Bool) : List XTestKeyEvent :=
  if isTapped then
    [⟨keycodeOf mapping keysymNumLock, true⟩, ⟨keycodeOf mapping keysymNumLock, false⟩]
  else []

/-- The lock has to be set for some locks. -/
def setsNumLock (keyboard : WebXKeyboard) (locks : Int32) : Bool :=
  hasKey locks numLockKey && !hasKey keyboard.locksSet numLockKey

/-- The lock has to be cleared for some locks. -/
def clearsNumLock (keyboard : WebXKeyboard) (locks : Int32) : Bool :=
  hasKey locks numLockKey && hasKey keyboard.locksSet numLockKey

/-- The keyboard, with the lock set for some locks. -/
def withLocks (keyboard : WebXKeyboard) (locks : Int32) : WebXKeyboard :=
  if setsNumLock keyboard locks then { keyboard with locksSet := keyboard.locksSet ||| numLockKey }
  else keyboard

/-- The keyboard, with the lock cleared for some locks. -/
def withoutLocks (keyboard : WebXKeyboard) (locks : Int32) : WebXKeyboard :=
  if clearsNumLock keyboard locks then
    { keyboard with locksSet := keyboard.locksSet &&& ~~~numLockKey }
  else keyboard

/-- The events before the press of a key. -/
def eventsBefore (mapping : WebXKeyboardMapping) (keyboard : WebXKeyboard)
    (keysymDef : WebXKeySymDefinition) : List XTestKeyEvent :=
  shiftEvents mapping keysymDef.modifiersToSet keysymDef.modifiersToClear ++
    altGrEvents mapping keysymDef.modifiersToSet keysymDef.modifiersToClear ++
    numLockTap mapping (setsNumLock keyboard keysymDef.locksToSet)

variable {mapping : WebXKeyboardMapping} {state : XTestKeyboard}

/-- The recursive calls send one event for the key of a modifier. -/
def SendsModifiers (mapping : WebXKeyboardMapping)
    (handle : XTestKeyboard → Int32 → Bool → Except Fault XTestKeyboard) : Prop :=
  ∀ state : XTestKeyboard, state.keyboard.keyboardMapping = some mapping →
    ∀ keysym ∈ modifierKeysyms, ∀ pressed,
      handle state keysym pressed = .ok (state.send [⟨keycodeOf mapping keysym, pressed⟩])

/-- The key of a modifier needs no other key, so that one event is sent for it. -/
theorem sendsModifiers (hneutral : mapping.Neutral) (depth : ℕ) :
    SendsModifiers mapping fun state keysym pressed =>
      handleKeySym (depth + 1) state keysym pressed false := by
  intro state hmapping keysym hkeysym pressed
  obtain ⟨keysymDef, hdef, hkeycode, hset, hclear, hlocks⟩ :=
    activeDefinition_modifier hneutral hmapping hkeysym
  dsimp only
  rw [handleKeySym, hdef, ← hkeycode]
  cases pressed
  · simp [releaseModifiers, hset]
    rfl
  · simp [updateModifiers, updateShift, updateAltGr, updateLocks, hset, hclear, hlocks]
    rfl

/-- Events that are sent one after the other. -/
theorem bind_send {x : Except Fault XTestKeyboard} {f : XTestKeyboard → Except Fault XTestKeyboard}
    {events events' : List XTestKeyEvent} (hx : x = .ok (state.send events))
    (hf : f (state.send events) = .ok ((state.send events).send events')) :
    x >>= f = .ok (state.send (events ++ events')) := by
  rw [hx, ← send_send]
  exact hf

section

variable {handle : XTestKeyboard → Int32 → Bool → Except Fault XTestKeyboard}
  (hhandle : SendsModifiers mapping handle)
  (hmapping : state.keyboard.keyboardMapping = some mapping)
include hhandle hmapping

/-- The events for shift before a press. -/
theorem updateShift_eq (modifiersToSet modifiersToClear : Int32) :
    updateShift handle state modifiersToSet modifiersToClear =
      .ok (state.send (shiftEvents mapping modifiersToSet modifiersToClear)) := by
  rw [updateShift, shiftEvents]
  split_ifs
  · exact hhandle state hmapping _ (by decide) _
  · exact bind_send (hhandle _ hmapping _ (by decide) _) (hhandle (send _ _) hmapping _ (by decide) _)
  · rw [send_nil]

/-- The events for AltGr before a press. -/
theorem updateAltGr_eq (modifiersToSet modifiersToClear : Int32) :
    updateAltGr handle state modifiersToSet modifiersToClear =
      .ok (state.send (altGrEvents mapping modifiersToSet modifiersToClear)) := by
  rw [updateAltGr, altGrEvents]
  split_ifs
  · exact hhandle state hmapping _ (by decide) _
  · refine bind_send (hhandle _ hmapping _ (by decide) _) ?_
    exact bind_send (hhandle (send _ _) hmapping _ (by decide) _)
      (hhandle (send (send _ _) _) hmapping _ (by decide) _)
  · rw [send_nil]

/-- The events for the modifiers before a press: shift comes first. -/
theorem updateModifiers_eq (modifiersToSet modifiersToClear : Int32) :
    updateModifiers handle state modifiersToSet modifiersToClear =
      .ok (state.send (shiftEvents mapping modifiersToSet modifiersToClear ++
        altGrEvents mapping modifiersToSet modifiersToClear)) :=
  bind_send (updateShift_eq hhandle hmapping _ _) (updateAltGr_eq hhandle
    (show (state.send _).keyboard.keyboardMapping = some mapping from hmapping) _ _)

/-- The events for the modifiers after a release. -/
theorem releaseModifiers_eq (modifiers : Int32) :
    releaseModifiers handle state modifiers =
      .ok (state.send ((modifierKeycodes mapping modifiers).map (⟨·, false⟩))) := by
  rw [releaseModifiers, modifierKeycodes]
  split_ifs
  · exact bind_send (hhandle _ hmapping _ (by decide) _) (hhandle (send _ _) hmapping _ (by decide) _)
  · exact (bind_pure _).trans (hhandle _ hmapping _ (by decide) _)
  · exact hhandle _ hmapping _ (by decide) _
  · exact congrArg _ (send_nil state).symm

/-- Pressing and releasing the key of the lock. -/
theorem numLock_eq : (do
      let state ← handle state keysymNumLock true
      handle state keysymNumLock false) = .ok (state.send (numLockTap mapping true)) :=
  bind_send (hhandle _ hmapping _ (by decide) _) (hhandle (send _ _) hmapping _ (by decide) _)

/-- The lock is tapped before a press when it is needed and not set. -/
theorem updateLocks_eq (locks : Int32) :
    updateLocks handle state locks = .ok { state.send
        (numLockTap mapping (setsNumLock state.keyboard locks)) with
      keyboard := withLocks state.keyboard locks } := by
  rw [updateLocks, setsNumLock, withLocks, setsNumLock]
  by_cases hlock : hasKey locks numLockKey ∧ ¬ hasKey state.keyboard.locksSet numLockKey
  · have hboth : (hasKey locks numLockKey && !hasKey state.keyboard.locksSet numLockKey) = true := by
      simpa using hlock
    rw [if_pos hlock, hboth, if_pos rfl, ← bind_assoc, numLock_eq hhandle hmapping]
    rfl
  · have hboth : (hasKey locks numLockKey && !hasKey state.keyboard.locksSet numLockKey) = false := by
      simpa using hlock
    rw [if_neg hlock, hboth, numLockTap, if_neg Bool.false_ne_true, if_neg Bool.false_ne_true, send_nil]

/-- The lock is tapped after a release when it was set for the key. -/
theorem releaseLocks_eq (locks : Int32) :
    releaseLocks handle state locks = .ok { state.send
        (numLockTap mapping (clearsNumLock state.keyboard locks)) with
      keyboard := withoutLocks state.keyboard locks } := by
  rw [releaseLocks, clearsNumLock, withoutLocks, clearsNumLock]
  by_cases hlock : hasKey locks numLockKey ∧ hasKey state.keyboard.locksSet numLockKey
  · have hboth : (hasKey locks numLockKey && hasKey state.keyboard.locksSet numLockKey) = true := by
      simpa using hlock
    rw [if_pos hlock, hboth, if_pos rfl, ← bind_assoc, numLock_eq hhandle hmapping]
    rfl
  · have hboth : (hasKey locks numLockKey && hasKey state.keyboard.locksSet numLockKey) = false := by
      simpa using hlock
    rw [if_neg hlock, hboth, numLockTap, if_neg Bool.false_ne_true, if_neg Bool.false_ne_true, send_nil]

end

section

variable (hneutral : mapping.Neutral) (hmapping : state.keyboard.keyboardMapping = some mapping)
  {keysym : Int32} {keysymDef : WebXKeySymDefinition}
  (hdef : activeDefinition state.keyboard keysym = some keysymDef) (depth : ℕ)
include hneutral hmapping hdef

/-- **The events of a press**: those for the modifiers and the lock, and then the key's own. -/
theorem handleKeySym_press (isFromClient : Bool) :
    state.handleKeySym (depth + 2) keysym true isFromClient = .ok
      { state.send (eventsBefore mapping state.keyboard keysymDef ++ [⟨keysymDef.keycode, true⟩]) with
        keyboard := withLocks state.keyboard keysymDef.locksToSet } := by
  have hhandle := sendsModifiers hneutral depth
  rw [handleKeySym, hdef, eventsBefore, ← send_send, ← send_send]
  dsimp only
  rw [if_pos rfl, updateModifiers_eq hhandle hmapping]
  change updateLocks _ (state.send _) keysymDef.locksToSet >>= _ = _
  rw [updateLocks_eq hhandle (by exact hmapping)]
  rfl

/-- **The events of a client's release**: the key's own, and then those for the modifiers and the
lock. -/
theorem handleKeySym_release :
    state.handleKeySym (depth + 2) keysym false true = .ok
      { state.send (⟨keysymDef.keycode, false⟩ ::
          (modifierKeycodes mapping keysymDef.modifiersToSet).map (⟨·, false⟩) ++
          numLockTap mapping (clearsNumLock state.keyboard keysymDef.locksToSet)) with
        keyboard := withoutLocks state.keyboard keysymDef.locksToSet } := by
  have hhandle := sendsModifiers hneutral depth
  let released := (state.send [⟨keysymDef.keycode, false⟩]).send
    ((modifierKeycodes mapping keysymDef.modifiersToSet).map (⟨·, false⟩))
  have hlocks := releaseLocks_eq hhandle
    (show released.keyboard.keyboardMapping = some mapping from hmapping) keysymDef.locksToSet
  rw [handleKeySym, hdef, ← List.singleton_append, ← send_send, ← send_send]
  dsimp only
  rw [if_neg Bool.false_ne_true, fakeKeyEvent, releaseModifiers_eq hhandle (by exact hmapping)]
  exact hlocks

end

/-! ## The modifiers of a press -/

section

variable {held : Set Int32} {keycode : Int32}

/-- What is held down after the events for shift. -/
theorem mem_heldAfter_shiftEvents (modifiersToSet modifiersToClear : Int32) :
    keycode ∈ heldAfter held (shiftEvents mapping modifiersToSet modifiersToClear) ↔
      if hasKey modifiersToSet shiftModifierKey then
        keycode = keycodeOf mapping keysymLShift ∨ keycode ∈ held
      else keycode ∈ held ∧ (hasKey modifiersToClear shiftModifierKey →
        keycode ≠ keycodeOf mapping keysymLShift ∧ keycode ≠ keycodeOf mapping keysymRShift) := by
  rw [shiftEvents]
  split_ifs with hset hclear
  · simp
  · simp [hclear, and_assoc]
  · simp [hclear]

/-- What is held down after the events for AltGr. -/
theorem mem_heldAfter_altGrEvents (modifiersToSet modifiersToClear : Int32) :
    keycode ∈ heldAfter held (altGrEvents mapping modifiersToSet modifiersToClear) ↔
      if hasKey modifiersToSet altGrModifierKey then
        keycode = keycodeOf mapping keysymAltGr ∨ keycode ∈ held
      else keycode ∈ held ∧ (hasKey modifiersToClear altGrModifierKey →
        keycode ≠ keycodeOf mapping keysymAltGr ∧ keycode ≠ keycodeOf mapping keysymLAlt ∧
          keycode ≠ keycodeOf mapping keysymRAlt) := by
  rw [altGrEvents]
  split_ifs with hset hclear
  · simp
  · simp [hclear, and_assoc]
  · simp [hclear]

/-- A tap leaves its own key released. -/
theorem mem_heldAfter_numLockTap (isTapped : Bool) :
    keycode ∈ heldAfter held (numLockTap mapping isTapped) ↔
      keycode ∈ held ∧ (isTapped → keycode ≠ keycodeOf mapping keysymNumLock) := by
  rw [numLockTap]
  split_ifs with htap
  · rw [heldAfter_press, heldAfter_release, heldAfter_nil, Set.mem_sdiff, Set.mem_insert_iff,
      Set.mem_singleton_iff]
    tauto
  · simp [htap]

end

end XTestKeyboard

/-- The keycodes of the modifiers that the press of a key sets or clears. -/
def WebXKeySymDefinition.adjustedKeycodes (mapping : WebXKeyboardMapping)
    (keysymDef : WebXKeySymDefinition) : List Int32 :=
  ((if hasKey keysymDef.modifiersToSet shiftModifierKey then [keysymLShift]
    else if hasKey keysymDef.modifiersToClear shiftModifierKey then [keysymLShift, keysymRShift]
    else []) ++
    if hasKey keysymDef.modifiersToSet altGrModifierKey then [keysymAltGr]
    else if hasKey keysymDef.modifiersToClear altGrModifierKey then
      [keysymAltGr, keysymLAlt, keysymRAlt]
    else []).map (keycodeOf mapping)

/-- What is held down when a key goes down, `held` before its press and `held'` at its own event: the
modifiers are as its definition needs them, and the other keycodes are as before. -/
structure WebXKeySymDefinition.ModifiersRight (mapping : WebXKeyboardMapping)
    (keysymDef : WebXKeySymDefinition) (tapsNumLock : Bool) (held held' : Set Int32) : Prop where
  shiftSet : hasKey keysymDef.modifiersToSet shiftModifierKey = true →
    keycodeOf mapping keysymLShift ∈ held'
  shiftClear : hasKey keysymDef.modifiersToSet shiftModifierKey = false →
    hasKey keysymDef.modifiersToClear shiftModifierKey = true →
      keycodeOf mapping keysymLShift ∉ held' ∧ keycodeOf mapping keysymRShift ∉ held'
  altGrSet : hasKey keysymDef.modifiersToSet altGrModifierKey = true →
    keycodeOf mapping keysymAltGr ∈ held'
  altGrClear : hasKey keysymDef.modifiersToSet altGrModifierKey = false →
    hasKey keysymDef.modifiersToClear altGrModifierKey = true →
      keycodeOf mapping keysymAltGr ∉ held' ∧ keycodeOf mapping keysymLAlt ∉ held' ∧
        keycodeOf mapping keysymRAlt ∉ held'
  others : ∀ keycode ∉ keysymDef.adjustedKeycodes mapping,
    (tapsNumLock = true → keycode ≠ keycodeOf mapping keysymNumLock) →
      (keycode ∈ held' ↔ keycode ∈ held)

/-- The key of a modifier that is set is not one that is cleared or tapped with it. -/
def WebXKeyboardMapping.SeparatesModifiers (mapping : WebXKeyboardMapping) : Prop :=
  (∀ other ∈ [keysymAltGr, keysymLAlt, keysymRAlt, keysymNumLock],
    keycodeOf mapping keysymLShift ≠ keycodeOf mapping other) ∧
  ∀ other ∈ [keysymRShift, keysymNumLock],
    keycodeOf mapping keysymAltGr ≠ keycodeOf mapping other

instance (mapping : WebXKeyboardMapping) : Decidable mapping.SeparatesModifiers :=
  @instDecidableAnd _ _ (List.decidableBAll _ _) (List.decidableBAll _ _)

/-- The key of a definition is not that of a modifier or of the lock. -/
def WebXKeyboardMapping.IsOrdinary (mapping : WebXKeyboardMapping)
    (keysymDef : WebXKeySymDefinition) : Prop :=
  ∀ modifier ∈ modifierKeysyms, keysymDef.keycode ≠ keycodeOf mapping modifier

instance (mapping : WebXKeyboardMapping) (keysymDef : WebXKeySymDefinition) :
    Decidable (mapping.IsOrdinary keysymDef) := List.decidableBAll _ modifierKeysyms

namespace XTestKeyboard

/-- A press ends with the key's own event, and the modifiers are right at that moment. -/
def PressesRight (condition : WebXKeyboardMapping → WebXKeySymDefinition → Prop) : Prop :=
  ∀ mapping : WebXKeyboardMapping, mapping.Neutral → ∀ keysym keysymDef,
    getKeySymDefinition mapping keysym = some keysymDef → keysym ≠ keysymCapsLock →
    condition mapping keysymDef → ∀ state : XTestKeyboard,
      state.keyboard.keyboardMapping = some mapping → ∀ held depth isFromClient,
        ∃ keyboard before, state.handleKeySym (depth + 2) keysym true isFromClient =
            .ok ⟨keyboard, state.sent ++ (before ++ [⟨keysymDef.keycode, true⟩])⟩ ∧
          keysymDef.ModifiersRight mapping (setsNumLock state.keyboard keysymDef.locksToSet) held
            (heldAfter held before)

/-- **The modifiers are right when a key goes down**, in the layouts that separate them. -/
theorem pressesRight : PressesRight fun mapping _ => mapping.SeparatesModifiers := by
  intro mapping hneutral keysym keysymDef hdef hkeysym hseparate state hmapping held depth isFromClient
  have hactive : activeDefinition state.keyboard keysym = some keysymDef := by
    rw [activeDefinition, hmapping, Option.bind_some, hdef]
    simp [ignoreKeysym, hkeysym]
  refine ⟨_, eventsBefore mapping state.keyboard keysymDef,
    handleKeySym_press hneutral hmapping hactive depth isFromClient, ?_⟩
  obtain ⟨hshift, haltGr⟩ := hseparate
  simp only [List.forall_mem_cons, List.not_mem_nil, false_implies, implies_true, and_true]
    at hshift haltGr
  have hheld (keycode : Int32) := show
      keycode ∈ heldAfter held (eventsBefore mapping state.keyboard keysymDef) ↔ _ by
    rw [eventsBefore, heldAfter_append, heldAfter_append, mem_heldAfter_numLockTap,
      mem_heldAfter_altGrEvents, mem_heldAfter_shiftEvents]
  refine ⟨fun hset => ?_, fun hset hclear => ?_, fun hset => ?_, fun hset hclear => ?_,
    fun keycode hother htap => ?_⟩
  · -- neither AltGr nor the lock touch the key of shift
    rw [hheld, if_pos hset]
    refine ⟨?_, fun _ => hshift.2.2.2⟩
    split_ifs
    · exact .inr (.inl rfl)
    · exact ⟨.inl rfl, fun _ => ⟨hshift.1, hshift.2.1, hshift.2.2.1⟩⟩
  · rw [hheld, hheld, hset]
    simp only [Bool.false_eq_true, if_false, hclear]
    split_ifs
    · simp [hshift.1, haltGr.1.symm]
    · simp
  · rw [hheld, if_pos hset]
    exact ⟨.inl rfl, fun _ => haltGr.2⟩
  · rw [hheld, hheld, hheld, hset]
    simp [hclear]
  · rw [hheld, and_iff_left htap]
    -- the keycode is none of those that are adjusted, so none of the three parts moves it
    rw [WebXKeySymDefinition.adjustedKeycodes, List.map_append, List.mem_append, not_or] at hother
    obtain ⟨hnotShift, hnotAltGr⟩ := hother
    split_ifs at hnotShift hnotAltGr ⊢ <;> simp_all

/-- The two layouts of `gbAndFr` do so. -/
example : (KeyboardState.gbAndFr.maps.all fun mapping => mapping.SeparatesModifiers) = true := by
  decide +kernel

/-- A small letter is pressed while shift is held down: shift is up when the key goes down. -/
theorem pressesRight_smallLetter : ∃ mapping ∈ KeyboardState.gbAndFr.maps, ∃ keyboard before,
    handleKeySym 2 ⟨⟨some mapping, 0⟩, []⟩ 0x61 true true = .ok ⟨keyboard, before ++ [⟨0x26, true⟩]⟩ ∧
      keycodeOf mapping keysymLShift ∉ heldAfter {keycodeOf mapping keysymLShift} before := by
  have hmapping : KeyboardState.gbAndFr.maps.head (by decide +kernel) ∈ KeyboardState.gbAndFr.maps :=
    List.head_mem _
  obtain ⟨keyboard, before, hpress, hright⟩ := pressesRight _ (KeyboardState.gbAndFr.neutral _ hmapping)
    0x61 ⟨0x26, 0, 3, 0⟩ (by decide +kernel) (by decide) (by decide +kernel)
    ⟨⟨some (KeyboardState.gbAndFr.maps.head (by decide +kernel)), 0⟩, []⟩ rfl
    {keycodeOf (KeyboardState.gbAndFr.maps.head (by decide +kernel)) keysymLShift} 0 true
  exact ⟨_, hmapping, keyboard, before, hpress, (hright.shiftClear (by decide) (by decide)).1⟩

/-- A layout in which shift on the left and Alt on the right are one key. -/
def sharedShift : WebXKeyboardMapping where
  name := ascii "en-gb-qwerty"
  layout := ascii "gb"
  mapping :=
    [(keysymLShift, ⟨0x32, 0, 0, 0⟩), (keysymRShift, ⟨0x3E, 0, 0, 0⟩), (keysymLAlt, ⟨0x40, 0, 0, 0⟩),
      (keysymRAlt, ⟨0x32, 0, 0, 0⟩), (keysymAltGr, ⟨0x5C, 0, 0, 0⟩), (keysymNumLock, ⟨0x4D, 0, 0, 0⟩),
      (0x41, ⟨0x26, 1, 2, 0⟩)]

/-- An ordinary key may go down without the shift that it needs. -/
theorem not_pressesRight : ¬ PressesRight WebXKeyboardMapping.IsOrdinary := by
  intro h
  let keyboard : WebXKeyboard := ⟨some sharedShift, 0⟩
  obtain ⟨keyboard', before, hrun, hright⟩ := h sharedShift (by decide +kernel) 0x41 ⟨0x26, 1, 2, 0⟩
    (by decide +kernel) (by decide) (by decide +kernel) ⟨keyboard, []⟩ rfl ∅ 0 true
  have hbefore : before = [⟨0x32, true⟩, ⟨0x5C, false⟩, ⟨0x40, false⟩, ⟨0x32, false⟩] := by
    have hevents : ((XTestKeyboard.handleKeySym 2 ⟨keyboard, []⟩ 0x41 true true).toOption.map
        XTestKeyboard.sent) =
        some ([⟨0x32, true⟩, ⟨0x5C, false⟩, ⟨0x40, false⟩, ⟨0x32, false⟩] ++ [⟨0x26, true⟩]) := by
      decide +kernel
    rw [hrun] at hevents
    exact List.append_cancel_right (Option.some.inj hevents)
  have hshift := hright.shiftSet (by decide)
  rw [hbefore, show keycodeOf sharedShift keysymLShift = 0x32 by decide +kernel] at hshift
  simp at hshift

end XTestKeyboard

end WebXEngine
