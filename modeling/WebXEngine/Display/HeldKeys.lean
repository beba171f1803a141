import Mathlib.Data.Set.Basic
import WebXEngine.Display.Keyboard
import WebXEngine.Foundations.Runs

/-! # The keys that are held down

The press of a key holds down the keycode of its keysym and those of its modifiers; the release of the
same keysym releases what the layout in force types it with.

* **`handleKeySym_press`**, **`handleKeySym_release`** — what a press and a release leave held down.
* **`ReleasesItsKeys`** — a release releases what the presses of its keysym hold down.
* **`noStuckKeys`** — nothing is held down once all keys are released. -/

namespace WebXEngine

namespace WebXKeyboard

variable {mapping : WebXKeyboardMapping} {state state' : KeyboardState} {client : Int32}

/-! ## The keys of the modifiers -/

/-- The keycode of a keysym that has a definition. -/
def keycodeOf (mapping : WebXKeyboardMapping) (keysym : Int32) : Int32 :=
  ((getKeySymDefinition mapping keysym).map WebXKeySymDefinition.keycode).getD 0

/-- A mask without bits has no key. -/
@[simp] theorem hasKey_zero (key : Int32) : hasKey 0 key = false := by simp [hasKey]

/-- The modifiers have a definition, which needs nothing. -/
theorem activeDefinition_modifier {keyboard : WebXKeyboard} (hneutral : mapping.Neutral)
    (hmapping : keyboard.keyboardMapping = some mapping) {keysym : Int32}
    (hkeysym : keysym ∈ modifierKeysyms) :
    ∃ keysymDef, activeDefinition keyboard keysym = some keysymDef ∧
      keysymDef.keycode = keycodeOf mapping keysym ∧ keysymDef.modifiersToSet = 0 ∧
      keysymDef.modifiersToClear = 0 ∧ keysymDef.locksToSet = 0 := by
  obtain ⟨keysymDef, hdef, hnothing⟩ := (Option.any_eq_true _ _).mp (hneutral keysym hkeysym)
  have hhandled : ignoreKeysym keysym = false := by
    simp only [modifierKeysyms, List.mem_cons, List.not_mem_nil, or_false] at hkeysym
    rcases hkeysym with rfl | rfl | rfl | rfl | rfl | rfl <;> decide
  refine ⟨keysymDef, ?_, ?_, ?_⟩
  · rw [activeDefinition, hmapping, Option.bind_some, hdef, hhandled]
    rfl
  · rw [keycodeOf, hdef]
    rfl
  · simpa [WebXKeySymDefinition.neutral, and_assoc] using hnothing

/-- The recursive call for a modifier: one keycode is pressed or released. -/
theorem handleKeySym_modifier (hneutral : mapping.Neutral)
    (hmapping : state.keyboard.keyboardMapping = some mapping) {keysym : Int32}
    (hkeysym : keysym ∈ modifierKeysyms) (depth : ℕ) (pressed : Bool) :
    handleKeySym client (depth + 1) state keysym pressed false =
      .ok (if pressed then fakeKeyPress client state (keycodeOf mapping keysym)
        else fakeKeyRelease state (keycodeOf mapping keysym)) := by
  obtain ⟨keysymDef, hdef, hkeycode, hset, hclear, hlocks⟩ :=
    activeDefinition_modifier hneutral hmapping hkeysym
  rw [handleKeySym, hdef]
  cases pressed
  · simp [releaseModifiers, hset, hkeycode]
    rfl
  · simp [updateModifiers, updateShift, updateAltGr, updateLocks, hset, hclear, hlocks, hkeycode]
    rfl

/-- The recursive calls handle the keys of the modifiers of a layout. -/
def HandlesModifiers (mapping : WebXKeyboardMapping) (client : Int32)
    (handle : KeyboardState → Int32 → Bool → Except Fault KeyboardState) : Prop :=
  ∀ state : KeyboardState, state.keyboard.keyboardMapping = some mapping →
    ∀ keysym ∈ modifierKeysyms, ∀ pressed, handle state keysym pressed =
      .ok (if pressed then fakeKeyPress client state (keycodeOf mapping keysym)
        else fakeKeyRelease state (keycodeOf mapping keysym))

@[simp] theorem keyboard_fakeKeyPress (keycode : Int32) :
    (fakeKeyPress client state keycode).keyboard = state.keyboard := by
  rw [fakeKeyPress]
  split_ifs <;> rfl

@[simp] theorem keyboard_fakeKeyRelease (keycode : Int32) :
    (fakeKeyRelease state keycode).keyboard = state.keyboard := rfl

/-- A keycode that is pressed and released at once is released. -/
theorem fakeKeyRelease_fakeKeyPress (keycode : Int32) :
    fakeKeyRelease (fakeKeyPress client state keycode) keycode = fakeKeyRelease state keycode := by
  rw [fakeKeyPress]
  split_ifs
  · rfl
  · simp [fakeKeyRelease]

/-- Releases some keycodes. -/
def releaseAll (keycodes : List Int32) (state : KeyboardState) : KeyboardState :=
  keycodes.foldl fakeKeyRelease state

/-- The first keycode is released first. -/
theorem releaseAll_cons (keycode : Int32) (keycodes : List Int32) :
    releaseAll (keycode :: keycodes) state = releaseAll keycodes (fakeKeyRelease state keycode) := rfl

/-- Releasing changes nothing but the keycodes. -/
theorem releaseAll_eq (keycodes : List Int32) :
    releaseAll keycodes state =
      { state with held := fun keycode => if keycode ∈ keycodes then none else state.held keycode } := by
  induction keycodes generalizing state with
  | nil => simp [releaseAll]
  | cons keycode keycodes ih =>
      rw [releaseAll_cons, ih]
      congr 1
      funext other
      by_cases hmem : other ∈ keycodes
      · simp [hmem]
      · by_cases hsame : other = keycode <;> simp [fakeKeyRelease, Function.update, hmem, hsame]

/-- The released keycodes are held by no keysym, and the others by the same one. -/
theorem held_releaseAll (keycodes : List Int32) (keycode : Int32) :
    (releaseAll keycodes state).held keycode =
      if keycode ∈ keycodes then none else state.held keycode := by rw [releaseAll_eq]

/-- The keycodes of modifiers. -/
def modifierKeycodes (mapping : WebXKeyboardMapping) (modifiers : Int32) : List Int32 :=
  (if hasKey modifiers shiftModifierKey then [keycodeOf mapping keysymLShift] else []) ++
    if hasKey modifiers altGrModifierKey then [keycodeOf mapping keysymAltGr] else []

section

variable {handle : KeyboardState → Int32 → Bool → Except Fault KeyboardState}
  (hhandle : HandlesModifiers mapping client handle)
  (hmapping : state.keyboard.keyboardMapping = some mapping)
include hhandle hmapping

/-- Releasing modifiers releases their keycodes. -/
theorem releaseModifiers_eq (modifiers : Int32) :
    releaseModifiers handle state modifiers =
      .ok (releaseAll (modifierKeycodes mapping modifiers) state) := by
  have hshift := hhandle state hmapping keysymLShift (by decide) false
  have haltGr (keycodes : List Int32) := hhandle (releaseAll keycodes state)
    (by rw [releaseAll_eq]; exact hmapping) keysymAltGr (by decide) false
  rw [releaseModifiers, modifierKeycodes]
  split_ifs
  · rw [hshift]
    exact haltGr [keycodeOf mapping keysymLShift]
  · rw [hshift]
    rfl
  · exact haltGr []
  · rfl

/-- Pressing and releasing the key of the lock. -/
theorem numLock_eq : (do
      let state ← handle state keysymNumLock true
      handle state keysymNumLock false) =
    .ok (fakeKeyRelease state (keycodeOf mapping keysymNumLock)) := by
  have hpress := hhandle state hmapping keysymNumLock (by decide) true
  have hrelease := hhandle (fakeKeyPress client state (keycodeOf mapping keysymNumLock))
    (by rw [keyboard_fakeKeyPress]; exact hmapping) keysymNumLock (by decide) false
  rw [hpress]
  refine hrelease.trans ?_
  rw [if_neg Bool.false_ne_true, fakeKeyRelease_fakeKeyPress]

/-- The lock is set. -/
theorem updateLocks_eq (locks : Int32) :
    updateLocks handle client state locks =
      .ok (if hasKey locks numLockKey ∧ ¬ hasKey state.keyboard.locksSet numLockKey then
        { fakeKeyRelease state (keycodeOf mapping keysymNumLock) with
          keyboard := { state.keyboard with locksSet := state.keyboard.locksSet ||| numLockKey }
          lockHolder := some client }
      else state) := by
  rw [updateLocks]
  split_ifs with hlock
  · rw [← bind_assoc, numLock_eq hhandle hmapping]
    rfl
  · rfl

/-- The lock is cleared. -/
theorem releaseLocks_eq (locks : Int32) :
    releaseLocks handle state locks =
      .ok (if hasKey locks numLockKey ∧ hasKey state.keyboard.locksSet numLockKey then
        { fakeKeyRelease state (keycodeOf mapping keysymNumLock) with
          keyboard := { state.keyboard with locksSet := state.keyboard.locksSet &&& ~~~numLockKey }
          lockHolder := none }
      else state) := by
  rw [releaseLocks]
  split_ifs with hlock
  · rw [← bind_assoc, numLock_eq hhandle hmapping]
    rfl
  · rfl

end

/-! ## What a press leaves -/

end WebXKeyboard

/-- The lock is set exactly when a client's key set it. -/
def KeyboardState.LockAgrees (state : KeyboardState) : Prop :=
  state.keyboard.locksSet = 0 ∧ state.lockHolder = none ∨
    state.keyboard.locksSet = WebXKeyboard.numLockKey ∧ state.lockHolder ≠ none

namespace WebXKeyboard

variable {mapping : WebXKeyboardMapping} {state state' : KeyboardState} {client : Int32}

/-- In a change, a client's key may press some keycodes and set the lock. -/
structure Presses (client : Int32) (keycodes : List Int32) (locks : Bool)
    (state state' : KeyboardState) : Prop where
  keyboardMapping : state'.keyboard.keyboardMapping = state.keyboard.keyboardMapping
  held : ∀ keycode keysym, state'.held keycode = some keysym →
    state.held keycode = some keysym ∨ keysym = client ∧ keycode ∈ keycodes
  lockHolder : ∀ keysym, state'.lockHolder = some keysym →
    state.lockHolder = some keysym ∨ keysym = client ∧ locks = true
  lockAgrees : state.LockAgrees → state'.LockAgrees

namespace Presses

variable {keycodes : List Int32} {locks : Bool} {state'' : KeyboardState}

/-- Nothing is pressed. -/
theorem refl (client : Int32) (keycodes : List Int32) (locks : Bool) (state : KeyboardState) :
    Presses client keycodes locks state state :=
  ⟨rfl, fun _ _ h => .inl h, fun _ h => .inl h, id⟩

/-- Two changes for the same key. -/
theorem trans (h : Presses client keycodes locks state state')
    (h' : Presses client keycodes locks state' state'') :
    Presses client keycodes locks state state'' where
  keyboardMapping := h'.keyboardMapping.trans h.keyboardMapping
  held := fun keycode keysym hheld =>
    (h'.held keycode keysym hheld).elim (h.held keycode keysym) .inr
  lockHolder := fun keysym hholder => (h'.lockHolder keysym hholder).elim (h.lockHolder keysym) .inr
  lockAgrees := h'.lockAgrees ∘ h.lockAgrees

/-- Pressing one of the keycodes. -/
theorem press {keycode : Int32} (hkeycode : keycode ∈ keycodes) :
    Presses client keycodes locks state (fakeKeyPress client state keycode) := by
  rw [fakeKeyPress]
  split_ifs
  · exact refl client keycodes locks state
  · refine ⟨rfl, fun other keysym hheld => ?_, fun _ h => .inl h, id⟩
    dsimp only at hheld
    by_cases hsame : other = keycode
    · subst hsame
      rw [Function.update_self, Option.some.injEq] at hheld
      exact .inr ⟨hheld.symm, hkeycode⟩
    · rw [Function.update_of_ne hsame] at hheld
      exact .inl hheld

/-- Releasing any keycode. -/
theorem release (keycode : Int32) :
    Presses client keycodes locks state (fakeKeyRelease state keycode) := by
  refine ⟨rfl, fun other keysym hheld => .inl ?_, fun _ h => .inl h, id⟩
  dsimp only [fakeKeyRelease] at hheld
  by_cases hsame : other = keycode
  · subst hsame
    rw [Function.update_self] at hheld
    cases hheld
  · rwa [Function.update_of_ne hsame] at hheld

/-- One change after the other. -/
theorem bind {x : Except Fault KeyboardState} {f : KeyboardState → Except Fault KeyboardState}
    (hx : ∃ state', x = .ok state' ∧ Presses client keycodes locks state state')
    (hf : ∀ state', state'.keyboard.keyboardMapping = state.keyboard.keyboardMapping →
      ∃ state'', f state' = .ok state'' ∧ Presses client keycodes locks state' state'') :
    ∃ state'', x >>= f = .ok state'' ∧ Presses client keycodes locks state state'' := by
  obtain ⟨state', rfl, hpresses⟩ := hx
  obtain ⟨state'', hrun, hpresses'⟩ := hf state' hpresses.keyboardMapping
  exact ⟨state'', hrun, hpresses.trans hpresses'⟩

end Presses

section

variable {handle : KeyboardState → Int32 → Bool → Except Fault KeyboardState}
  (hhandle : HandlesModifiers mapping client handle)
  (hmapping : state.keyboard.keyboardMapping = some mapping) {keycodes : List Int32} {locks : Bool}
include hhandle hmapping

/-- Pressing the key of a modifier. -/
theorem exists_press {keysym : Int32} (hkeysym : keysym ∈ modifierKeysyms)
    (hkeycode : keycodeOf mapping keysym ∈ keycodes) :
    ∃ state', handle state keysym true = .ok state' ∧
      Presses client keycodes locks state state' :=
  ⟨_, hhandle state hmapping keysym hkeysym true, .press hkeycode⟩

/-- Releasing the key of a modifier. -/
theorem exists_release {keysym : Int32} (hkeysym : keysym ∈ modifierKeysyms) :
    ∃ state', handle state keysym false = .ok state' ∧
      Presses client keycodes locks state state' :=
  ⟨_, hhandle state hmapping keysym hkeysym false, .release _⟩

/-- Updating the modifiers presses at most those to set. -/
theorem exists_updateModifiers (modifiersToSet modifiersToClear : Int32)
    (hset : modifierKeycodes mapping modifiersToSet ⊆ keycodes) :
    ∃ state', updateModifiers handle state modifiersToSet modifiersToClear = .ok state' ∧
      Presses client keycodes locks state state' := by
  have hmem {keycode : Int32} (h : keycode ∈ modifierKeycodes mapping modifiersToSet) :
      keycode ∈ keycodes := hset h
  rw [updateModifiers]
  refine Presses.bind ?_ fun state' hsame => ?_
  -- shift is pressed, or both keys for it are released
  · rw [updateShift]
    split_ifs with hshift hclear
    · exact exists_press hhandle hmapping (by decide) (hmem (by simp [modifierKeycodes, hshift]))
    · refine Presses.bind (exists_release hhandle hmapping (by decide)) fun state' hsame => ?_
      exact exists_release hhandle (hsame.trans hmapping) (by decide)
    · exact ⟨state, rfl, .refl _ _ _ _⟩
  · have hmapping' := hsame.trans hmapping
    -- likewise for AltGr, for which three keys are released
    rw [updateAltGr]
    split_ifs with haltGr hclear
    · exact exists_press hhandle hmapping' (by decide) (hmem (by simp [modifierKeycodes, haltGr]))
    · refine Presses.bind (exists_release hhandle hmapping' (by decide)) fun state'' hsame' => ?_
      refine Presses.bind (exists_release hhandle (hsame'.trans hmapping') (by decide))
        fun state''' hsame'' => ?_
      exact exists_release hhandle (hsame''.trans (hsame'.trans hmapping')) (by decide)
    · exact ⟨state', rfl, .refl _ _ _ _⟩

/-- Updating the locks sets at most the lock. -/
theorem exists_updateLocks (locksToSet : Int32) (hlocks : hasKey locksToSet numLockKey = true →
      locks = true) :
    ∃ state', updateLocks handle client state locksToSet = .ok state' ∧
      Presses client keycodes locks state state' := by
  refine ⟨_, updateLocks_eq hhandle hmapping locksToSet, ?_⟩
  split_ifs with hlock
  · refine ⟨rfl, (@Presses.release _ client keycodes locks _).held, ?_, ?_⟩
    · rintro keysym hholder
      cases hholder
      exact .inr ⟨rfl, hlocks hlock.1⟩
    · rintro (⟨hnone, -⟩ | ⟨hset, -⟩)
      · refine .inr ⟨?_, Option.some_ne_none _⟩
        dsimp only
        rw [hnone]
        rfl
      · exact absurd (by rw [hset]; decide) hlock.2
  · exact .refl _ _ _ _

end

/-! ## Presses and releases of the clients -/

/-- The keycodes that a keysym is typed with. -/
def typedKeycodes (keyboard : WebXKeyboard) (keysym : Int32) : List Int32 :=
  match keyboard.keyboardMapping, activeDefinition keyboard keysym with
  | some mapping, some keysymDef =>
      keysymDef.keycode :: modifierKeycodes mapping keysymDef.modifiersToSet
  | _, _ => []

/-- A keysym is typed with the lock. -/
def typedLock (keyboard : WebXKeyboard) (keysym : Int32) : Bool :=
  (activeDefinition keyboard keysym).any fun keysymDef => hasKey keysymDef.locksToSet numLockKey

/-- The keycodes that the release of a keysym releases: those it is typed with, and the key of the
lock when it is cleared. -/
def releasedKeycodes (keyboard : WebXKeyboard) (keysym : Int32) : List Int32 :=
  typedKeycodes keyboard keysym ++
    match keyboard.keyboardMapping with
    | some mapping =>
        if typedLock keyboard keysym ∧ hasKey keyboard.locksSet numLockKey then
          [keycodeOf mapping keysymNumLock]
        else []
    | none => []

/-- The recursive calls handle the modifiers of a layout of the engine. -/
theorem handlesModifiers (hneutral : mapping.Neutral) (client : Int32) (depth : ℕ) :
    HandlesModifiers mapping client fun state keysym pressed =>
      handleKeySym client (depth + 1) state keysym pressed false :=
  fun _ hmapping _ hkeysym pressed => handleKeySym_modifier hneutral hmapping hkeysym depth pressed

/-- There is no definition without a layout. -/
theorem exists_mapping {keyboard : WebXKeyboard} {keysym : Int32} {keysymDef : WebXKeySymDefinition}
    (h : activeDefinition keyboard keysym = some keysymDef) :
    ∃ mapping, keyboard.keyboardMapping = some mapping := by
  obtain ⟨mapping, hmapping, -⟩ := Option.bind_eq_some_iff.mp h
  exact ⟨mapping, hmapping⟩

/-- **What a press leaves held down**: what was held down before, and the keycodes that the keysym is
typed with. -/
theorem sendKeyboard_press
    (hneutral : ∀ mapping, state.keyboard.keyboardMapping = some mapping → mapping.Neutral)
    (depth : ℕ) (keysym : Int32) :
    ∃ state', state.sendKeyboard (depth + 2) keysym true = .ok state' ∧
      Presses keysym (typedKeycodes state.keyboard keysym) (typedLock state.keyboard keysym) state
        state' := by
  rw [KeyboardState.sendKeyboard, handleKeySym]
  cases hdef : activeDefinition state.keyboard keysym with
  | none => exact ⟨state, rfl, .refl _ _ _ _⟩
  | some keysymDef =>
      obtain ⟨mapping, hmapping⟩ := exists_mapping hdef
      have hhandle := handlesModifiers (hneutral mapping hmapping) keysym depth
      -- the keys that can be pressed: the one of the keysym, and those of its modifiers
      have hcodes : typedKeycodes state.keyboard keysym =
          keysymDef.keycode :: modifierKeycodes mapping keysymDef.modifiersToSet := by
        rw [typedKeycodes, hmapping, hdef]
      have hlock : typedLock state.keyboard keysym = hasKey keysymDef.locksToSet numLockKey := by
        rw [typedLock, hdef]
        rfl
      rw [hcodes, hlock]
      dsimp only
      rw [if_pos rfl]
      -- first the modifiers, then the lock, then the key
      refine Presses.bind ?_ fun state' hsame => ?_
      · exact exists_updateModifiers hhandle hmapping _ _ (List.subset_cons_self _ _)
      · refine Presses.bind ?_ fun state'' hsame' => ?_
        · exact exists_updateLocks hhandle (hsame.trans hmapping) _ id
        · exact ⟨_, rfl, .press List.mem_cons_self⟩

/-- **What a release leaves held down**: what was held down before, without the keycodes that the
release of the keysym releases. -/
theorem sendKeyboard_release
    (hneutral : ∀ mapping, state.keyboard.keyboardMapping = some mapping → mapping.Neutral)
    (depth : ℕ) (keysym : Int32) :
    ∃ state', state.sendKeyboard (depth + 2) keysym false = .ok state' ∧
      state'.keyboard.keyboardMapping = state.keyboard.keyboardMapping ∧
      (∀ keycode, state'.held keycode =
        if keycode ∈ releasedKeycodes state.keyboard keysym then none else state.held keycode) ∧
      (state.LockAgrees → state'.LockAgrees ∧ state'.lockHolder =
        if typedLock state.keyboard keysym then none else state.lockHolder) := by
  rw [KeyboardState.sendKeyboard, handleKeySym]
  cases hdef : activeDefinition state.keyboard keysym with
  | none =>
      have hlock : typedLock state.keyboard keysym = false := by rw [typedLock, hdef]; rfl
      have hcodes : releasedKeycodes state.keyboard keysym = [] := by
        rw [releasedKeycodes, typedKeycodes, hdef, hlock]
        cases state.keyboard.keyboardMapping <;> rfl
      refine ⟨state, rfl, rfl, fun keycode => ?_, fun hagrees => ⟨hagrees, ?_⟩⟩
      · rw [hcodes, if_neg List.not_mem_nil]
      · rw [hlock, if_neg Bool.false_ne_true]
  | some keysymDef =>
      obtain ⟨mapping, hmapping⟩ := exists_mapping hdef
      have hhandle := handlesModifiers (hneutral mapping hmapping) keysym depth
      have hlock : typedLock state.keyboard keysym = hasKey keysymDef.locksToSet numLockKey := by
        rw [typedLock, hdef]
        rfl
      let keycodes := keysymDef.keycode :: modifierKeycodes mapping keysymDef.modifiersToSet
      have hcodes : releasedKeycodes state.keyboard keysym = keycodes ++
          if hasKey keysymDef.locksToSet numLockKey ∧ hasKey state.keyboard.locksSet numLockKey then
            [keycodeOf mapping keysymNumLock]
          else [] := by
        rw [releasedKeycodes, hlock, typedKeycodes, hmapping, hdef]
      have hreleased : (releaseAll keycodes state).keyboard = state.keyboard := by rw [releaseAll_eq]
      have hmapping' : (releaseAll keycodes state).keyboard.keyboardMapping = some mapping :=
        hreleased ▸ hmapping
      have hmodifiers := releaseModifiers_eq hhandle
        (show (fakeKeyRelease state keysymDef.keycode).keyboard.keyboardMapping = some mapping from
          hmapping) keysymDef.modifiersToSet
      have hlocks := releaseLocks_eq hhandle hmapping' keysymDef.locksToSet
      dsimp only
      rw [if_neg Bool.false_ne_true, hmodifiers]
      refine ⟨_, hlocks, ?_⟩
      rw [hreleased, hcodes, hlock]
      by_cases hboth : hasKey keysymDef.locksToSet numLockKey ∧ hasKey state.keyboard.locksSet numLockKey
      · -- the lock is cleared
        rw [if_pos hboth, if_pos hboth, if_pos hboth.1]
        refine ⟨rfl, fun keycode => ?_, fun hagrees => ⟨.inl ⟨?_, rfl⟩, rfl⟩⟩
        · rw [← held_releaseAll, releaseAll, releaseAll, List.foldl_append]
          rfl
        · rcases hagrees with ⟨hnone, -⟩ | ⟨hset, -⟩
          · exact absurd hboth.2 (by rw [hnone]; decide)
          · dsimp only
            rw [hset]
            decide
      · rw [if_neg hboth, if_neg hboth, List.append_nil]
        refine ⟨congrArg _ hreleased, held_releaseAll keycodes, fun hagrees => ?_⟩
        rw [releaseAll_eq]
        refine ⟨hagrees, ?_⟩
        split_ifs with htyped
        · -- a lock that is not set has no holder
          rcases hagrees with ⟨-, hnone⟩ | ⟨hset, -⟩
          · exact hnone
          · exact absurd ⟨htyped, by rw [hset]; decide⟩ hboth
        · rfl

end WebXKeyboard

/-! ## Runs -/

/-- What the clients ask of the keyboard. -/
inductive KeyAction
  | press (keysym : Int32)
  | release (keysym : Int32)
  | loadKeyboardLayout (layoutOrName : List UInt8) (answers : XkbAnswers)

namespace KeyboardState

open WebXKeyboard

/-- One action; the stack has room for `depth` calls. -/
def step (keyMaps : List WebXKeyboardMapping) (depth : ℕ) (state : KeyboardState) :
    KeyAction → Except Fault KeyboardState
  | .press keysym => state.sendKeyboard depth keysym true
  | .release keysym => state.sendKeyboard depth keysym false
  | .loadKeyboardLayout layoutOrName answers =>
      .ok (state.loadKeyboardLayout keyMaps answers layoutOrName).2

/-- No key is held down and no lock is set. -/
structure Idle (state : KeyboardState) : Prop where
  held : ∀ keycode, state.held keycode = none
  locksSet : state.keyboard.locksSet = 0
  lockHolder : state.lockHolder = none

/-- The release of a keysym releases everything that its press holds down: the keycodes, and the lock.
It does not when the layout in force types the keysym in another way than the one before. -/
def ReleasesItsKeys (state : KeyboardState) : KeyAction → Prop
  | .release keysym =>
      (∀ keycode, state.held keycode = some keysym →
        keycode ∈ releasedKeycodes state.keyboard keysym) ∧
      (state.lockHolder = some keysym → typedLock state.keyboard keysym = true)
  | _ => True

/-- The layout only changes while nothing is held down. -/
def ChangesIdleLayout (state : KeyboardState) : KeyAction → Prop
  | .loadKeyboardLayout _ _ => state.Idle
  | _ => True

/-- The keysyms that are pressed and not released yet. -/
def pressedAfter (pressed : Set Int32) : KeyAction → Set Int32
  | .press keysym => insert keysym pressed
  | .release keysym => pressed \ {keysym}
  | .loadKeyboardLayout _ _ => pressed

/-- Every keysym that is pressed is released later. -/
def AllReleased (actions : List KeyAction) : Prop :=
  ∀ before keysym after, actions = before ++ .press keysym :: after → .release keysym ∈ after

/-- A keysym that is still pressed has no release after its last press. -/
theorem mem_foldl_pressedAfter {keysym : Int32} (actions : List KeyAction) :
    ∀ {pressed : Set Int32}, keysym ∈ actions.foldl pressedAfter pressed →
      keysym ∈ pressed ∧ .release keysym ∉ actions ∨
        ∃ before after, actions = before ++ .press keysym :: after ∧ .release keysym ∉ after := by
  induction actions with
  | nil => exact fun h => .inl ⟨h, List.not_mem_nil⟩
  | cons action actions ih =>
      intro pressed h
      rw [List.foldl_cons] at h
      rcases ih h with ⟨hpressed, hrelease⟩ | ⟨before, after, rfl, hrelease⟩
      · cases action with
        | press other =>
            -- the keysym is pressed now, or it was before, and it is not released later
            rcases hpressed with rfl | hpressed
            · exact .inr ⟨[], actions, rfl, hrelease⟩
            · refine .inl ⟨hpressed, ?_⟩
              rw [List.mem_cons, not_or]
              exact ⟨by simp, hrelease⟩
        | release other =>
            refine .inl ⟨hpressed.1, ?_⟩
            rw [List.mem_cons, not_or]
            refine ⟨fun hsame => hpressed.2 ?_, hrelease⟩
            cases hsame
            rfl
        | loadKeyboardLayout layoutOrName answers =>
            refine .inl ⟨hpressed, ?_⟩
            rw [List.mem_cons, not_or]
            exact ⟨by simp, hrelease⟩
      · exact .inr ⟨action :: before, after, rfl, hrelease⟩

/-- When every key is released, no keysym is pressed at the end. -/
theorem AllReleased.foldl_eq_empty {actions : List KeyAction} (h : AllReleased actions) :
    actions.foldl pressedAfter ∅ = ∅ := by
  refine Set.eq_empty_iff_forall_notMem.mpr fun keysym hmem => ?_
  rcases mem_foldl_pressedAfter actions hmem with ⟨hnone, -⟩ | ⟨before, after, heq, hrelease⟩
  · exact hnone
  · exact hrelease (h before keysym after heq)

/-- What is held down is held by a keysym that is pressed. -/
structure HeldBy (pressed : Set Int32) (state : KeyboardState) : Prop where
  neutral : ∀ mapping, state.keyboard.keyboardMapping = some mapping → mapping.Neutral
  lockAgrees : state.LockAgrees
  held : ∀ keycode keysym, state.held keycode = some keysym → keysym ∈ pressed
  lockHolder : ∀ keysym, state.lockHolder = some keysym → keysym ∈ pressed

variable {keyMaps : KeyMaps} {state state' : KeyboardState} {pressed : Set Int32}

/-- A layout that becomes active is one of the engine. -/
theorem loadKeyboardLayout_spec (answers : XkbAnswers) (layoutOrName : List UInt8)
    (hneutral : ∀ mapping, state.keyboard.keyboardMapping = some mapping → mapping.Neutral) :
    let state' := (state.loadKeyboardLayout keyMaps.maps answers layoutOrName).2
    (∀ mapping, state'.keyboard.keyboardMapping = some mapping → mapping.Neutral) ∧
      state'.keyboard.locksSet = state.keyboard.locksSet ∧ state'.held = state.held ∧
      state'.lockHolder = state.lockHolder := by
  rw [loadKeyboardLayout]
  split_ifs
  · rw [WebXKeyboard.loadKeyboardLayout]
    cases hfound : getKeyboardMapping keyMaps.maps layoutOrName with
    | none => exact ⟨hneutral, rfl, rfl, rfl⟩
    | some mapping =>
        refine ⟨fun mapping' hsame => ?_, rfl, rfl, rfl⟩
        cases hsame
        exact keyMaps.neutral mapping (List.mem_of_find?_eq_some hfound)
  · exact ⟨hneutral, rfl, rfl, rfl⟩

/-- No action fails. -/
theorem exists_step (hneutral : ∀ mapping, state.keyboard.keyboardMapping = some mapping →
    mapping.Neutral) (depth : ℕ) (action : KeyAction) :
    ∃ state', state.step keyMaps.maps (depth + 2) action = .ok state' := by
  cases action with
  | press keysym =>
      obtain ⟨state', hstep, -⟩ := sendKeyboard_press hneutral depth keysym
      exact ⟨state', hstep⟩
  | release keysym =>
      obtain ⟨state', hstep, -⟩ := sendKeyboard_release hneutral depth keysym
      exact ⟨state', hstep⟩
  | loadKeyboardLayout layoutOrName answers => exact ⟨_, rfl⟩

/-- **What is held down stays held by a keysym that is pressed**, as long as each release releases what
its keysym holds. -/
theorem HeldBy.step (h : HeldBy pressed state) {depth : ℕ} {action : KeyAction}
    (hreleases : ReleasesItsKeys state action)
    (hstep : state.step keyMaps.maps (depth + 2) action = .ok state') :
    HeldBy (pressedAfter pressed action) state' := by
  cases action with
  | press keysym =>
      obtain ⟨after, heq, hpresses⟩ := sendKeyboard_press h.neutral depth keysym
      cases heq.symm.trans hstep
      refine ⟨hpresses.keyboardMapping ▸ h.neutral, hpresses.lockAgrees h.lockAgrees, ?_, ?_⟩
      -- a key is held as before, or by the keysym that is pressed now
      · intro keycode holder hheld
        rcases hpresses.held keycode holder hheld with hbefore | ⟨rfl, -⟩
        · exact .inr (h.held keycode holder hbefore)
        · exact .inl rfl
      · intro holder hheld
        rcases hpresses.lockHolder holder hheld with hbefore | ⟨rfl, -⟩
        · exact .inr (h.lockHolder holder hbefore)
        · exact .inl rfl
  | release keysym =>
      obtain ⟨after, heq, hmapping, hheld, hlock⟩ := sendKeyboard_release h.neutral depth keysym
      cases heq.symm.trans hstep
      obtain ⟨hagrees, hholder⟩ := hlock h.lockAgrees
      refine ⟨hmapping ▸ h.neutral, hagrees, fun keycode holder hstill => ?_, fun holder hstill => ?_⟩
      · rw [hheld] at hstill
        split_ifs at hstill with hreleased
        -- its keysym was not released: the release lets go of all keys that it holds
        refine ⟨h.held keycode holder hstill, fun hsame => hreleased ?_⟩
        cases hsame
        exact hreleases.1 keycode hstill
      · rw [hholder] at hstill
        split_ifs at hstill with hreleased
        refine ⟨h.lockHolder holder hstill, fun hsame => hreleased ?_⟩
        cases hsame
        exact hreleases.2 hstill
  | loadKeyboardLayout layoutOrName answers =>
      obtain ⟨hneutral, hlocks, hheld, hholder⟩ :=
        @loadKeyboardLayout_spec keyMaps _ answers layoutOrName h.neutral
      cases hstep
      refine ⟨hneutral, ?_, hheld ▸ h.held, hholder ▸ h.lockHolder⟩
      rw [LockAgrees, hlocks, hholder]
      exact h.lockAgrees

/-- Runs keep what is held down held by a keysym that is pressed. -/
theorem HeldBy.run {depth : ℕ} {actions : List KeyAction} (h : HeldBy pressed state)
    (hrun : Run (KeyboardState.step keyMaps.maps (depth + 2)) ReleasesItsKeys state actions state') :
    HeldBy (actions.foldl pressedAfter pressed) state' := by
  induction hrun generalizing pressed with
  | nil state => exact h
  | cons hreleases hstep _ ih => exact ih (h.step hreleases hstep)

/-- A keyboard on which nothing is held down, with a layout of the engine if it has one. -/
structure Start (keyMaps : KeyMaps) (state : KeyboardState) : Prop where
  mapping : ∀ mapping, state.keyboard.keyboardMapping = some mapping → mapping ∈ keyMaps.maps
  idle : state.Idle

/-- Nothing is held down at the beginning. -/
theorem Start.heldBy (h : Start keyMaps state) : HeldBy ∅ state where
  neutral := fun mapping hmapping => keyMaps.neutral mapping (h.mapping mapping hmapping)
  lockAgrees := .inl ⟨h.idle.locksSet, h.idle.lockHolder⟩
  held := fun keycode keysym hheld => by rw [h.idle.held] at hheld; cases hheld
  lockHolder := fun keysym hholder => by rw [h.idle.lockHolder] at hholder; cases hholder

/-- In the runs from a keyboard on which nothing is held down, no action fails; and nothing is held
down any more when all the keys that were pressed are released. -/
def NoStuckKeys (keyMaps : KeyMaps) (condition : KeyboardState → KeyAction → Prop) : Prop :=
  ∀ start, Start keyMaps start → ∀ depth actions state,
    Run (KeyboardState.step keyMaps.maps (depth + 2)) condition start actions state →
      (∀ action, ∃ state', state.step keyMaps.maps (depth + 2) action = .ok state') ∧
      (AllReleased actions →
        (∀ keycode, state.held keycode = none) ∧ state.keyboard.locksSet = 0)

/-- **No key stays held down** when each release releases what the press of its keysym holds. -/
theorem noStuckKeys (keyMaps : KeyMaps) : NoStuckKeys keyMaps ReleasesItsKeys := by
  intro start hstart depth actions state hrun
  have hheldBy := hstart.heldBy.run hrun
  refine ⟨exists_step hheldBy.neutral depth, fun hall => ?_⟩
  rw [hall.foldl_eq_empty] at hheldBy
  refine ⟨fun keycode => ?_, ?_⟩
  · rw [Option.eq_none_iff_forall_ne_some]
    exact fun keysym hheld => hheldBy.held keycode keysym hheld
  · rcases hheldBy.lockAgrees with ⟨hnone, -⟩ | ⟨-, hset⟩
    · exact hnone
    · obtain ⟨keysym, hholder⟩ := Option.ne_none_iff_exists'.mp hset
      exact absurd (hheldBy.lockHolder keysym hholder) (Set.notMem_empty keysym)

/-! ## The condition for layouts that change on an idle keyboard -/

/-- What is held down is what the layout in force types its keysym with. -/
structure TypedBy (state : KeyboardState) : Prop where
  neutral : ∀ mapping, state.keyboard.keyboardMapping = some mapping → mapping.Neutral
  lockAgrees : state.LockAgrees
  held : ∀ keycode keysym, state.held keycode = some keysym →
    keycode ∈ typedKeycodes state.keyboard keysym
  lockHolder : ∀ keysym, state.lockHolder = some keysym → typedLock state.keyboard keysym = true

/-- Only the layout matters for what a keysym is typed with. -/
theorem typed_congr {keyboard keyboard' : WebXKeyboard}
    (h : keyboard'.keyboardMapping = keyboard.keyboardMapping) (keysym : Int32) :
    typedKeycodes keyboard' keysym = typedKeycodes keyboard keysym ∧
      typedLock keyboard' keysym = typedLock keyboard keysym := by
  have hdef : activeDefinition keyboard' keysym = activeDefinition keyboard keysym := by
    rw [activeDefinition, activeDefinition, h]
  exact ⟨by rw [typedKeycodes, typedKeycodes, hdef, h], by rw [typedLock, typedLock, hdef]⟩

/-- A release releases what the layout in force types its keysym with. -/
theorem TypedBy.releasesItsKeys (h : TypedBy state) (action : KeyAction) :
    ReleasesItsKeys state action := by
  cases action with
  | release keysym =>
      exact ⟨fun keycode hheld => List.mem_append_left _ (h.held keycode keysym hheld),
        h.lockHolder keysym⟩
  | _ => trivial

/-- A layout that changes while nothing is held down keeps what is held down typed by it. -/
theorem TypedBy.step (h : TypedBy state) {depth : ℕ} {action : KeyAction}
    (hidle : ChangesIdleLayout state action)
    (hstep : state.step keyMaps.maps (depth + 2) action = .ok state') : TypedBy state' := by
  cases action with
  | press keysym =>
      obtain ⟨after, heq, hpresses⟩ := sendKeyboard_press h.neutral depth keysym
      cases heq.symm.trans hstep
      have hsame := hpresses.keyboardMapping
      refine ⟨hsame ▸ h.neutral, hpresses.lockAgrees h.lockAgrees, ?_, ?_⟩
      -- a key is held as before, or by the keysym that is pressed now
      · intro keycode holder hheld
        rw [(typed_congr hsame holder).1]
        rcases hpresses.held keycode holder hheld with hbefore | ⟨rfl, htyped⟩
        · exact h.held keycode holder hbefore
        · exact htyped
      · intro holder hheld
        rw [(typed_congr hsame holder).2]
        rcases hpresses.lockHolder holder hheld with hbefore | ⟨rfl, htyped⟩
        · exact h.lockHolder holder hbefore
        · exact htyped
  | release keysym =>
      obtain ⟨after, heq, hsame, hheld, hlock⟩ := sendKeyboard_release h.neutral depth keysym
      cases heq.symm.trans hstep
      obtain ⟨hagrees, hholder⟩ := hlock h.lockAgrees
      refine ⟨hsame ▸ h.neutral, hagrees, fun keycode holder hstill => ?_, fun holder hstill => ?_⟩
      -- a key that is held after a release was held before it
      · rw [hheld] at hstill
        split_ifs at hstill with hreleased
        exact (typed_congr hsame holder).1 ▸ h.held keycode holder hstill
      · rw [hholder] at hstill
        split_ifs at hstill with hreleased
        exact (typed_congr hsame holder).2 ▸ h.lockHolder holder hstill
  | loadKeyboardLayout layoutOrName answers =>
      obtain ⟨hneutral, hlocks, hheld, hholder⟩ :=
        @loadKeyboardLayout_spec keyMaps _ answers layoutOrName h.neutral
      cases hstep
      refine ⟨hneutral, ?_, fun keycode holder hstill => ?_, fun holder hstill => ?_⟩
      -- the layout changes while nothing is held
      · rw [LockAgrees, hlocks, hholder]
        exact h.lockAgrees
      · rw [hheld, hidle.held] at hstill
        cases hstill
      · rw [hholder, hidle.lockHolder] at hstill
        cases hstill

/-- **Layouts that change while nothing is held down do no harm**: the releases of such a run release
what the presses hold. In particular, they do when the layout never changes. -/
theorem releasesItsKeys_of_changesIdleLayout {start : KeyboardState} (hstart : Start keyMaps start)
    {depth : ℕ} {actions : List KeyAction}
    (hrun : Run (KeyboardState.step keyMaps.maps (depth + 2)) ChangesIdleLayout start actions state) :
    Run (KeyboardState.step keyMaps.maps (depth + 2)) ReleasesItsKeys start actions state := by
  have htyped : TypedBy start := by
    refine ⟨hstart.heldBy.neutral, hstart.heldBy.lockAgrees, fun _ _ hheld => ?_, fun _ hholder => ?_⟩
    · rw [hstart.idle.held] at hheld
      cases hheld
    · rw [hstart.idle.lockHolder] at hholder
      cases hholder
  clear hstart
  induction hrun with
  | nil state => exact .nil state
  | cons hidle hstep _ ih =>
      exact .cons (htyped.releasesItsKeys _) hstep (ih (htyped.step hidle hstep))

/-! ## A layout that changes while a key is held down -/

/-- A part of the layouts of Great Britain and of France: the modifiers and the letter a. -/
def gbAndFr : KeyMaps :=
  let modifiers : List (Int32 × WebXKeySymDefinition) :=
    [(keysymLShift, ⟨0x32, 0, 0, 0⟩), (keysymRShift, ⟨0x3E, 0, 0, 0⟩), (keysymLAlt, ⟨0x40, 0, 0, 0⟩),
      (keysymRAlt, ⟨0x40, 0, 0, 0⟩), (keysymAltGr, ⟨0x5C, 0, 0, 0⟩), (keysymNumLock, ⟨0x4D, 0, 0, 0⟩)]
  { maps :=
      [⟨ascii "en-gb-qwerty", ascii "gb", (0x61, ⟨0x26, 0, 3, 0⟩) :: modifiers⟩,
        ⟨ascii "fr-fr-azerty", ascii "fr", (0x61, ⟨0x18, 0, 3, 0⟩) :: modifiers⟩]
    neutral := by decide +kernel }

/-- The steps of the extension for keyboards, when they all succeed. -/
def xkbSuccess : XkbAnswers where
  namesProp := some ⟨some (ascii "evdev"), some (ascii "pc105"), some (ascii "gb"), none⟩
  components := some ⟨none, none, none, none, none, none⟩
  keyboardByName := true
  setNamesProp := true

/-- A layout is loaded, and two keys are pressed and released. -/
def twoKeys : List KeyAction :=
  [.loadKeyboardLayout (ascii "fr") xkbSuccess, .press keysymLShift, .press 0x61, .release keysymLShift,
    .release 0x61]

/-- Both keys are released. -/
theorem allReleased_twoKeys : AllReleased twoKeys := by
  intro before keysym after heq
  rcases before with _ | ⟨first, _ | ⟨second, _ | ⟨third, _ | ⟨fourth, _ | ⟨fifth, before⟩⟩⟩⟩⟩ <;>
    simp [twoKeys] at heq
  · obtain ⟨-, rfl, rfl⟩ := heq
    simp
  · obtain ⟨-, -, rfl, rfl⟩ := heq
    simp

/-- Nothing is held down at the end. -/
theorem noStuckKeys_twoKeys : ∃ state,
    Run (KeyboardState.step gbAndFr.maps 2) ReleasesItsKeys .create twoKeys state ∧
      (∀ keycode, state.held keycode = none) ∧ state.keyboard.locksSet = 0 := by
  have hstart : Start gbAndFr .create :=
    ⟨fun mapping hmapping => (by cases hmapping), fun _ => rfl, rfl, rfl⟩
  obtain ⟨state, hrun⟩ : ∃ state,
      Run (KeyboardState.step gbAndFr.maps 2) ChangesIdleLayout .create twoKeys state :=
    ⟨_, .cons hstart.idle rfl (.cons trivial rfl (.cons trivial rfl (.cons trivial rfl
      (.cons trivial rfl (.nil _)))))⟩
  have hreleases := @releasesItsKeys_of_changesIdleLayout _ _ _ hstart 0 _ hrun
  exact ⟨state, hreleases,
    (noStuckKeys gbAndFr .create hstart 0 twoKeys state hreleases).2 allReleased_twoKeys⟩

/-- The layout changes between the press and the release of a key. -/
def changeWhileHeld : List KeyAction :=
  [.loadKeyboardLayout (ascii "gb") xkbSuccess, .press 0x61,
    .loadKeyboardLayout (ascii "fr") xkbSuccess, .release 0x61]

/-- The key is released, with the other layout. -/
theorem allReleased_changeWhileHeld : AllReleased changeWhileHeld := by
  intro before keysym after heq
  rcases before with _ | ⟨first, _ | ⟨second, _ | ⟨third, _ | ⟨fourth, before⟩⟩⟩⟩ <;>
    simp [changeWhileHeld] at heq
  obtain ⟨-, rfl, rfl⟩ := heq
  simp

/-- The key of the first layout stays held down. -/
theorem not_noStuckKeys : ¬ NoStuckKeys gbAndFr fun _ _ => True := by
  intro h
  have hstart : Start gbAndFr .create :=
    ⟨fun mapping hmapping => (by cases hmapping), fun _ => rfl, rfl, rfl⟩
  have hheld : ((changeWhileHeld.foldlM (KeyboardState.step gbAndFr.maps 2) .create).toOption.map
      fun state => state.held 0x26) = some (some 0x61) := by decide +kernel
  obtain ⟨state, hstate, hstill⟩ := Option.map_eq_some_iff.mp hheld
  cases hrun : changeWhileHeld.foldlM (KeyboardState.step gbAndFr.maps 2) .create with
  | error fault =>
      rw [hrun] at hstate
      cases hstate
  | ok final =>
      rw [hrun] at hstate
      cases hstate
      have hreleased := (h .create hstart 0 changeWhileHeld state (Run.of_foldlM hrun)).2
        allReleased_changeWhileHeld
      rw [hreleased.1] at hstill
      cases hstill

end KeyboardState

end WebXEngine
