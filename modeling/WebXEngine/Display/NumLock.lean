import Mathlib.Data.List.Induction
import Mathlib.Data.Nat.Bits
import WebXEngine.Display.KeyEvents

/-! # The lock of the keypad

Each press of its key toggles the lock. The keyboard taps the key before the first key that needs the
lock, taps it again when such a key is released, and remembers in a bit of its own that it did. A tap
of the clients on the same key toggles the lock too, but not the bit.

* **`numLockOn`** — the lock after some events.
* **`TracksNumLock`** — the lock is what the clients made of it, toggled once more while the bit is set.
* **`numLockRight_iff`** — the lock is on for the keys that need it exactly when the clients have left
  it off. -/

namespace WebXEngine

open WebXKeyboard XTestKeyboard

/-! ## The toggle -/

/-- The lock after some events, off at the start: every press of its key toggles it. -/
def numLockOn (mapping : WebXKeyboardMapping) (events : List XTestKeyEvent) : Bool :=
  (events.count ⟨keycodeOf mapping keysymNumLock, true⟩).bodd

variable {mapping : WebXKeyboardMapping}

@[simp] theorem numLockOn_nil : numLockOn mapping [] = false := by
  rw [numLockOn, List.count_nil, Nat.bodd_zero]

@[simp] theorem numLockOn_append (events events' : List XTestKeyEvent) :
    numLockOn mapping (events ++ events') = (numLockOn mapping events ^^ numLockOn mapping events') := by
  rw [numLockOn, List.count_append, Nat.bodd_add]
  rfl

/-- Releases do not toggle the lock. -/
theorem numLockOn_releases (keycodes : List Int32) :
    numLockOn mapping (keycodes.map (⟨·, false⟩)) = false := by
  rw [numLockOn, List.count_eq_zero_of_not_mem, Nat.bodd_zero]
  simp

@[simp] theorem numLockOn_numLockTap (isTapped : Bool) :
    numLockOn mapping (numLockTap mapping isTapped) = isTapped := by
  cases isTapped
  · exact numLockOn_nil
  · simp [numLockOn, numLockTap]

/-- The events of a press toggle the lock as the presses of its modifiers do, and once more when the
lock is set for it. -/
theorem numLockOn_eventsBefore (keyboard : WebXKeyboard) (keysymDef : WebXKeySymDefinition) :
    numLockOn mapping (eventsBefore mapping keyboard keysymDef) =
      (numLockOn mapping ((modifierKeycodes mapping keysymDef.modifiersToSet).map (⟨·, true⟩)) ^^
        setsNumLock keyboard keysymDef.locksToSet) := by
  have hreleases := @numLockOn_releases mapping
  rw [eventsBefore, numLockOn_append, numLockOn_append, numLockOn_numLockTap, modifierKeycodes,
    List.map_append, numLockOn_append]
  -- the keys for shift count as pressed or not at all, and so do the others
  congr 2
  · rw [shiftEvents]
    split_ifs
    · rfl
    · rw [List.map_nil, numLockOn_nil]
      exact hreleases [keycodeOf mapping keysymLShift, keycodeOf mapping keysymRShift]
    · rfl
  · rw [altGrEvents]
    split_ifs
    · rfl
    · rw [List.map_nil, numLockOn_nil]
      exact hreleases
        [keycodeOf mapping keysymAltGr, keycodeOf mapping keysymLAlt, keycodeOf mapping keysymRAlt]
    · rfl

/-! ## The bit -/

/-- The bit after the lock is set. -/
theorem hasKey_withLocks (keyboard : WebXKeyboard) (locks : Int32) :
    hasKey (withLocks keyboard locks).locksSet numLockKey =
      (hasKey keyboard.locksSet numLockKey ^^ setsNumLock keyboard locks) := by
  have hor (mask : Int32) : hasKey (mask ||| numLockKey) numLockKey = true := by
    have habsorb : (mask ||| numLockKey) &&& numLockKey = numLockKey := by
      refine Int32.toBitVec_inj.mp (BitVec.eq_of_getLsbD_eq fun i _ => ?_)
      rw [Int32.toBitVec_and, Int32.toBitVec_or, BitVec.getLsbD_and, BitVec.getLsbD_or]
      cases mask.toBitVec.getLsbD i <;> simp
    rw [hasKey, habsorb]
    decide
  rw [withLocks, setsNumLock]
  cases hlocks : hasKey locks numLockKey <;> cases hbit : hasKey keyboard.locksSet numLockKey <;>
    simp [hbit, hor]

/-- The bit after the lock is cleared. -/
theorem hasKey_withoutLocks (keyboard : WebXKeyboard) (locks : Int32) :
    hasKey (withoutLocks keyboard locks).locksSet numLockKey =
      (hasKey keyboard.locksSet numLockKey ^^ clearsNumLock keyboard locks) := by
  have hnot (mask : Int32) : hasKey (mask &&& ~~~numLockKey) numLockKey = false := by
    rw [hasKey, Int32.and_assoc, Int32.not_and_self, Int32.and_zero]
    rfl
  rw [withoutLocks, clearsNumLock]
  cases hlocks : hasKey locks numLockKey <;> cases hbit : hasKey keyboard.locksSet numLockKey <;>
    simp [hbit, hnot]

@[simp] theorem keyboardMapping_withLocks (keyboard : WebXKeyboard) (locks : Int32) :
    (withLocks keyboard locks).keyboardMapping = keyboard.keyboardMapping := by
  rw [withLocks]
  split_ifs <;> rfl

@[simp] theorem keyboardMapping_withoutLocks (keyboard : WebXKeyboard) (locks : Int32) :
    (withoutLocks keyboard locks).keyboardMapping = keyboard.keyboardMapping := by
  rw [withoutLocks]
  split_ifs <;> rfl

/-! ## Runs -/

/-- A key that a client presses or releases. -/
structure ClientKey where
  keysym : Int32
  pressed : Bool
  deriving DecidableEq, Repr

/-- The function of the display for the keys of the clients. -/
def XTestKeyboard.sendKeyboard (depth : ℕ) (state : XTestKeyboard) (key : ClientKey) :
    Except Fault XTestKeyboard := state.handleKeySym depth key.keysym key.pressed true

/-- The keys of a run, from a keyboard with a layout that sent nothing yet. -/
def XTestKeyboard.run (mapping : WebXKeyboardMapping) (depth : ℕ) (keys : List ClientKey) :
    Except Fault XTestKeyboard := keys.foldlM (sendKeyboard depth) ⟨⟨some mapping, 0⟩, []⟩

/-- One more key after a run. -/
theorem XTestKeyboard.run_concat {depth : ℕ} {keys : List ClientKey} {key : ClientKey}
    {state state' : XTestKeyboard} (hrun : run mapping depth keys = .ok state)
    (hsend : state.sendKeyboard depth key = .ok state') :
    run mapping depth (keys ++ [key]) = .ok state' := by
  rw [run, List.foldlM_append, ← run, hrun]
  exact (bind_pure _).trans hsend

/-- The keysyms that are pressed and not released yet. -/
def pressedKeysyms (keys : List ClientKey) : Set Int32 :=
  keys.foldl
    (fun held key => if key.pressed then insert key.keysym held else held \ {key.keysym}) ∅

/-- The presses of keycodes by which the keys of the clients are typed. -/
def clientPresses (mapping : WebXKeyboardMapping) (keys : List ClientKey) : List XTestKeyEvent :=
  keys.flatMap fun key =>
    if key.pressed then (typedKeycodes ⟨some mapping, 0⟩ key.keysym).map (⟨·, true⟩) else []

/-- A keysym needs the lock. -/
def NeedsNumLock (mapping : WebXKeyboardMapping) (keysym : Int32) : Prop :=
  typedLock ⟨some mapping, 0⟩ keysym = true

/-- The lock is what the clients made of it, toggled once more while the bit is set; and the bit is set
for a key that is pressed. -/
structure TracksNumLock (mapping : WebXKeyboardMapping) (keys : List ClientKey)
    (state : XTestKeyboard) : Prop where
  keyboardMapping : state.keyboard.keyboardMapping = some mapping
  toggle : numLockOn mapping state.sent =
    (numLockOn mapping (clientPresses mapping keys) ^^ hasKey state.keyboard.locksSet numLockKey)
  bit : hasKey state.keyboard.locksSet numLockKey = true →
    ∃ keysym ∈ pressedKeysyms keys, NeedsNumLock mapping keysym

/-- A keysym is pressed. -/
theorem pressedKeysyms_press (keys : List ClientKey) (keysym : Int32) :
    pressedKeysyms (keys ++ [⟨keysym, true⟩]) = insert keysym (pressedKeysyms keys) :=
  List.foldl_append

/-- A keysym is released. -/
theorem pressedKeysyms_release (keys : List ClientKey) (keysym : Int32) :
    pressedKeysyms (keys ++ [⟨keysym, false⟩]) = pressedKeysyms keys \ {keysym} :=
  List.foldl_append

/-- A press is typed with the keycodes of its keysym. -/
theorem clientPresses_press (keys : List ClientKey) (keysym : Int32) :
    clientPresses mapping (keys ++ [⟨keysym, true⟩]) = clientPresses mapping keys ++
      (typedKeycodes ⟨some mapping, 0⟩ keysym).map (⟨·, true⟩) := by
  rw [clientPresses, List.flatMap_append, List.flatMap_singleton]
  rfl

/-- A release presses no keycode. -/
theorem clientPresses_release (keys : List ClientKey) (keysym : Int32) :
    clientPresses mapping (keys ++ [⟨keysym, false⟩]) = clientPresses mapping keys := by
  rw [clientPresses, List.flatMap_append, List.flatMap_singleton]
  exact List.append_nil _

namespace TracksNumLock

variable {keys : List ClientKey} {state : XTestKeyboard}

/-- Only the layout matters for a definition. -/
theorem activeDefinition_eq (h : TracksNumLock mapping keys state) (keysym : Int32) :
    activeDefinition state.keyboard keysym = activeDefinition ⟨some mapping, 0⟩ keysym := by
  rw [activeDefinition, h.keyboardMapping]
  rfl

/-- **A press keeps the lock what it is**: the bit is set when the key of the lock is tapped. -/
theorem press (h : TracksNumLock mapping keys state) (hneutral : mapping.Neutral) (depth : ℕ)
    (keysym : Int32) : ∃ state', state.sendKeyboard (depth + 2) ⟨keysym, true⟩ = .ok state' ∧
      TracksNumLock mapping (keys ++ [⟨keysym, true⟩]) state' := by
  rw [sendKeyboard]
  cases hdef : activeDefinition ⟨some mapping, 0⟩ keysym with
  | none =>
      refine ⟨state, ?_, h.keyboardMapping, ?_, fun hbit => ?_⟩
      · rw [XTestKeyboard.handleKeySym, h.activeDefinition_eq, hdef]
      · rw [clientPresses_press, typedKeycodes, hdef, List.map_nil, List.append_nil, h.toggle]
      · obtain ⟨other, hpressed, hneeds⟩ := h.bit hbit
        exact ⟨other, pressedKeysyms_press keys keysym ▸ .inr hpressed, hneeds⟩
  | some keysymDef =>
      have hactive := (h.activeDefinition_eq keysym).trans hdef
      have htyped : (typedKeycodes ⟨some mapping, 0⟩ keysym).map (XTestKeyEvent.mk · true) =
          [⟨keysymDef.keycode, true⟩] ++
            (modifierKeycodes mapping keysymDef.modifiersToSet).map (⟨·, true⟩) := by
        rw [typedKeycodes, hdef]
        rfl
      refine ⟨_, XTestKeyboard.handleKeySym_press hneutral h.keyboardMapping hactive depth true,
        ?_, ?_, fun hbit => ?_⟩
      · exact (keyboardMapping_withLocks _ _).trans h.keyboardMapping
      · rw [sent_send, numLockOn_append, numLockOn_append, h.toggle, numLockOn_eventsBefore,
          hasKey_withLocks, clientPresses_press, numLockOn_append, htyped, numLockOn_append]
        simp only [Bool.xor_assoc, Bool.xor_comm, Bool.xor_left_comm]
      · -- the bit was set before, or is set for this key
        rw [hasKey_withLocks] at hbit
        cases hsets : setsNumLock state.keyboard keysymDef.locksToSet with
        | true =>
            have hneeds := (Bool.and_eq_true_iff.mp hsets).1
            refine ⟨keysym, pressedKeysyms_press keys keysym ▸ .inl rfl, ?_⟩
            rw [NeedsNumLock, typedLock, hdef]
            exact hneeds
        | false =>
            rw [hsets, Bool.xor_false] at hbit
            obtain ⟨other, hpressed, hneeds⟩ := h.bit hbit
            exact ⟨other, pressedKeysyms_press keys keysym ▸ .inr hpressed, hneeds⟩

/-- **A release keeps the lock what it is**: the bit is cleared when the key of the lock is tapped. -/
theorem release (h : TracksNumLock mapping keys state) (hneutral : mapping.Neutral) (depth : ℕ)
    (keysym : Int32) : ∃ state', state.sendKeyboard (depth + 2) ⟨keysym, false⟩ = .ok state' ∧
      TracksNumLock mapping (keys ++ [⟨keysym, false⟩]) state' := by
  rw [sendKeyboard]
  -- a key that needs the lock stays pressed unless it is the one that is released
  have hstays {other : Int32} (hpressed : other ∈ pressedKeysyms keys) (hne : other ≠ keysym) :
      other ∈ pressedKeysyms (keys ++ [⟨keysym, false⟩]) :=
    pressedKeysyms_release keys keysym ▸ ⟨hpressed, hne⟩
  cases hdef : activeDefinition ⟨some mapping, 0⟩ keysym with
  | none =>
      refine ⟨state, ?_, h.keyboardMapping, ?_, fun hbit => ?_⟩
      · rw [XTestKeyboard.handleKeySym, h.activeDefinition_eq, hdef]
      · rw [clientPresses_release, h.toggle]
      · obtain ⟨other, hpressed, hneeds⟩ := h.bit hbit
        refine ⟨other, hstays hpressed ?_, hneeds⟩
        rintro rfl
        rw [NeedsNumLock, typedLock, hdef] at hneeds
        cases hneeds
  | some keysymDef =>
      have hactive := (h.activeDefinition_eq keysym).trans hdef
      refine ⟨_, XTestKeyboard.handleKeySym_release hneutral h.keyboardMapping hactive depth, ?_, ?_,
        fun hbit => ?_⟩
      · exact (keyboardMapping_withoutLocks _ _).trans h.keyboardMapping
      · rw [sent_send, numLockOn_append, numLockOn_append, h.toggle, numLockOn_numLockTap,
          hasKey_withoutLocks, clientPresses_release,
          show numLockOn mapping (⟨keysymDef.keycode, false⟩ :: _) = false from
            numLockOn_releases (keysymDef.keycode :: _)]
        ac_rfl
      · -- the bit is still set, thus the key did not need the lock
        have hbit' := hbit
        rw [hasKey_withoutLocks] at hbit
        cases hbefore : hasKey state.keyboard.locksSet numLockKey with
        | true =>
            obtain ⟨other, hpressed, hneeds⟩ := h.bit hbefore
            refine ⟨other, hstays hpressed ?_, hneeds⟩
            rintro rfl
            rw [NeedsNumLock, typedLock, hdef] at hneeds
            rw [clearsNumLock, hbefore, show hasKey keysymDef.locksToSet numLockKey = true from hneeds]
              at hbit
            cases hbit
        | false =>
            rw [clearsNumLock, hbefore, Bool.and_false] at hbit
            cases hbit

/-- The lock when a key that needs it goes down: it is on, unless the clients have turned it on too. -/
theorem numLockOn_before (h : TracksNumLock mapping keys state) {keysymDef : WebXKeySymDefinition}
    (hlocks : hasKey keysymDef.locksToSet numLockKey = true) :
    numLockOn mapping (state.sent ++ eventsBefore mapping state.keyboard keysymDef) =
      !numLockOn mapping (clientPresses mapping keys ++
        (modifierKeycodes mapping keysymDef.modifiersToSet).map (⟨·, true⟩)) := by
  rw [numLockOn_append, numLockOn_append, h.toggle, numLockOn_eventsBefore, setsNumLock, hlocks]
  cases hasKey state.keyboard.locksSet numLockKey <;> simp

/-- **In every run, the lock is what the clients made of it**, but for the bit. -/
theorem run (hneutral : mapping.Neutral) (depth : ℕ) (keys : List ClientKey) :
    ∃ state, XTestKeyboard.run mapping (depth + 2) keys = .ok state ∧
      TracksNumLock mapping keys state := by
  induction keys using List.reverseRecOn with
  | nil =>
      have hbit : hasKey 0 numLockKey = false := hasKey_zero numLockKey
      refine ⟨_, rfl, rfl, ?_, fun hset => absurd hset (hbit ▸ Bool.false_ne_true)⟩
      rw [hbit, clientPresses, List.flatMap_nil, numLockOn_nil]
      rfl
  | append_singleton keys key ih =>
      obtain ⟨state, hrun, h⟩ := ih
      obtain ⟨keysym, pressed⟩ := key
      have hstep : ∃ state', state.sendKeyboard (depth + 2) ⟨keysym, pressed⟩ = .ok state' ∧
          TracksNumLock mapping (keys ++ [⟨keysym, pressed⟩]) state' := by
        cases pressed with
        | true => exact h.press hneutral depth keysym
        | false => exact h.release hneutral depth keysym
      obtain ⟨state', hsend, h'⟩ := hstep
      exact ⟨state', run_concat hrun hsend, h'⟩

end TracksNumLock

/-! ## The keys that need the lock -/

/-- The lock is on whenever a key that needs it goes down, and is what the clients made of it whenever no
such key is pressed. -/
structure NumLockRight (mapping : WebXKeyboardMapping) (depth : ℕ) (keys : List ClientKey) :
    Prop where
  on : ∀ before keysym keysymDef, before ++ [⟨keysym, true⟩] <+: keys →
    activeDefinition ⟨some mapping, 0⟩ keysym = some keysymDef →
    hasKey keysymDef.locksToSet numLockKey = true →
      ∃ state keyboard events, run mapping depth before = .ok state ∧
        state.sendKeyboard depth ⟨keysym, true⟩ =
          .ok ⟨keyboard, events ++ [⟨keysymDef.keycode, true⟩]⟩ ∧
        numLockOn mapping events = true
  restored : ∀ before, before <+: keys →
    (∀ keysym ∈ pressedKeysyms before, ¬ NeedsNumLock mapping keysym) →
      ∃ state, run mapping depth before = .ok state ∧
        numLockOn mapping state.sent = numLockOn mapping (clientPresses mapping before)

/-- The presses of the clients leave the lock off whenever a key that needs it goes down. -/
def ClientsLeaveNumLockOff (mapping : WebXKeyboardMapping) (keys : List ClientKey) : Prop :=
  ∀ before keysym keysymDef, before ++ [⟨keysym, true⟩] <+: keys →
    activeDefinition ⟨some mapping, 0⟩ keysym = some keysymDef →
    hasKey keysymDef.locksToSet numLockKey = true →
      numLockOn mapping (clientPresses mapping before ++
        (modifierKeycodes mapping keysymDef.modifiersToSet).map (⟨·, true⟩)) = false

/-- **The lock is right exactly in the runs in which the clients leave it off** for the keys that need
it: the keyboard does not know what the clients made of it. -/
theorem numLockRight_iff (hneutral : mapping.Neutral) (depth : ℕ) (keys : List ClientKey) :
    NumLockRight mapping (depth + 2) keys ↔ ClientsLeaveNumLockOff mapping keys := by
  constructor
  · intro hright before keysym keysymDef hpre hdef hlocks
    obtain ⟨state, keyboard, events, hrun, hsend, hon⟩ :=
      hright.on before keysym keysymDef hpre hdef hlocks
    obtain ⟨state', hrun', htracks⟩ := TracksNumLock.run hneutral depth before
    cases hrun.symm.trans hrun'
    have hpress := XTestKeyboard.handleKeySym_press hneutral htracks.keyboardMapping
      ((htracks.activeDefinition_eq keysym).trans hdef) depth true
    have hsent := congrArg XTestKeyboard.sent (Except.ok.inj (hsend.symm.trans hpress))
    rw [sent_send, ← List.append_assoc] at hsent
    rw [List.append_cancel_right hsent, htracks.numLockOn_before hlocks] at hon
    exact (Bool.not_eq_true' _).mp hon
  · intro hoff
    refine ⟨fun before keysym keysymDef hpre hdef hlocks => ?_, fun before _ hnone => ?_⟩
    · obtain ⟨state, hrun, htracks⟩ := TracksNumLock.run hneutral depth before
      have hpress := XTestKeyboard.handleKeySym_press hneutral htracks.keyboardMapping
        ((htracks.activeDefinition_eq keysym).trans hdef) depth true
      refine ⟨state, withLocks state.keyboard keysymDef.locksToSet,
        state.sent ++ eventsBefore mapping state.keyboard keysymDef, hrun, ?_, ?_⟩
      · rw [List.append_assoc]
        exact hpress
      · rw [htracks.numLockOn_before hlocks, hoff before keysym keysymDef hpre hdef hlocks]
        rfl
    · obtain ⟨state, hrun, htracks⟩ := TracksNumLock.run hneutral depth before
      refine ⟨state, hrun, ?_⟩
      -- the bit is not set, since no key needs it
      have hbit : hasKey state.keyboard.locksSet numLockKey = false := by
        rw [← Bool.not_eq_true]
        intro hset
        obtain ⟨keysym, hpressed, hneeds⟩ := htracks.bit hset
        exact hnone keysym hpressed hneeds
      rw [htracks.toggle, hbit, Bool.xor_false]

/-- A part of the layout of Great Britain: the modifiers and the one of the keypad. -/
def gbKeypad : WebXKeyboardMapping where
  name := ascii "en-gb-qwerty"
  layout := ascii "gb"
  mapping :=
    [(keysymLShift, ⟨0x32, 0, 0, 0⟩), (keysymRShift, ⟨0x3E, 0, 0, 0⟩), (keysymLAlt, ⟨0x40, 0, 0, 0⟩),
      (keysymRAlt, ⟨0x40, 0, 0, 0⟩), (keysymAltGr, ⟨0x5C, 0, 0, 0⟩), (keysymNumLock, ⟨0x4D, 0, 0, 0⟩),
      (0xFFB1, ⟨0x57, 0, 1, 1⟩)]

/-- One press of a key of the keypad, with the lock off. -/
theorem numLockRight_iff_keypad :
    NumLockRight gbKeypad 2 [⟨0xFFB1, true⟩] ↔ ClientsLeaveNumLockOff gbKeypad [⟨0xFFB1, true⟩] :=
  numLockRight_iff (by decide +kernel) 0 _

/-- A client that has turned the lock on itself types with the lock off. -/
theorem not_numLockRight :
    ¬ ∀ mapping : WebXKeyboardMapping, mapping.Neutral → ∀ depth keys,
      NumLockRight mapping (depth + 2) keys := by
  intro h
  let typed : List ClientKey := [⟨keysymNumLock, true⟩, ⟨keysymNumLock, false⟩]
  obtain ⟨state, keyboard, events, hrun, hsend, hon⟩ :=
    (h gbKeypad (by decide +kernel) 0 (typed ++ [⟨0xFFB1, true⟩])).on typed 0xFFB1 ⟨0x57, 0, 1, 1⟩
      (List.prefix_refl _) (by decide +kernel) (by decide)
  -- the key of the lock goes down twice, for the client and for the keyboard
  have hsent : ((run gbKeypad 2 (typed ++ [⟨0xFFB1, true⟩])).toOption.map XTestKeyboard.sent) =
      some ([⟨0x4D, true⟩, ⟨0x4D, false⟩, ⟨0x32, false⟩, ⟨0x3E, false⟩, ⟨0x4D, true⟩,
        ⟨0x4D, false⟩] ++ [⟨0x57, true⟩]) := by
    decide +kernel
  rw [run_concat hrun hsend] at hsent
  rw [List.append_cancel_right (Option.some.inj hsent), numLockOn,
    show keycodeOf gbKeypad keysymNumLock = 0x4D by decide +kernel,
    show List.count _ _ = 2 by decide, Nat.bodd_two] at hon
  exact Bool.false_ne_true hon

end WebXEngine
