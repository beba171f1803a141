import WebXEngine.Controller.LoopAgreement

/-! # The rounds of the main loop

The place of the loop and its instructions do not depend on what the steps do with the display and the
clients. The instructions that the subscriber adds are handled in the rounds of the loop. A stop lets the
round end, and no other one begins.

* **`LoopControl.step`** — the loop without the display and the clients; `control_step` says that the main
  loop does the same.
* **`instructions_of_run`** — each instruction is handled once, in the order in which it was received.
* **`rounds_after_stop`** — a stop leaves at most the round in which it comes. -/

namespace WebXEngine

/-- The place of the loop, and its instructions. -/
structure LoopControl where
  stage : MainLoopStage
  isRunning : Bool
  hasHandlers : Bool
  instructions : List WebXInstruction
  received : List WebXInstruction
  handled : List WebXInstruction
  deriving DecidableEq, Repr

/-- The state is tested. -/
def MainLoopAction.isTest {root : UInt32} : MainLoopAction root → Bool
  | .testState _ => true
  | _ => false

namespace LoopControl

variable {root : UInt32} (control : LoopControl)

/-- The tests of the state. -/
def testState : LoopControl :=
  match control.stage with
  | .beforeSleep => { control with stage := if control.isRunning then .afterSleep else .ended }
  | .afterSleep =>
      { control with
        stage := if control.isRunning then .instructions control.instructions else .beforeSleep }
  | _ => control

/-- The next instruction. -/
def handleNextInstruction : LoopControl :=
  match control.stage with
  | .instructions (instruction :: remaining) =>
      { control with
        stage := .instructions remaining, handled := control.handled ++ [instruction] }
  | _ => control

/-- One action. -/
def step : MainLoopAction root → LoopControl
  | .run _ _ _ => { control with stage := .beforeSleep, isRunning := true }
  | .testState _ => control.testState
  | .handleClientInstruction _ => control.handleNextInstruction
  | .clearInstructions => { control with stage := .clipboard, instructions := [] }
  | .updateClipboard _ => { control with stage := .events }
  | .updateDisplay _ _ => { control with stage := .display }
  | .notifyDisplayChanged => { control with stage := .cursor }
  | .notifyCursorChanged => { control with stage := .pings }
  | .handleClientPings _ _ => { control with stage := .windows }
  | .updateClientWindows _ => { control with stage := .qualities }
  | .performQualityVerification _ _ => { control with stage := .mouse }
  | .refreshMouse _ => { control with stage := .beforeSleep }
  | .stop => { control with isRunning := false, hasHandlers := false }
  | .receive instruction =>
      if control.hasHandlers then
        { control with
          instructions := control.instructions ++ [instruction]
          received := control.received ++ [instruction] }
      else control
  | _ => control

end LoopControl

namespace MainLoop

/-- The loop without the display and the clients. -/
def control (state : MainLoop) : LoopControl :=
  ⟨state.stage, state.isRunning, state.hasHandlers, state.instructions, state.received, state.handled⟩

variable {root : UInt32} {settings : WebXSettings} {checksum : List UInt8 → UInt32}
  {engineVersion : WebXVersion} {keyMaps : KeyMaps} {depth stackDepth : ℕ} {state state' : MainLoop}

/-- A call of the registry is no step of the loop. -/
theorem control_callRegistry {op : RegistryOp} (h : state.callRegistry settings op = .ok state') :
    state'.control = state.control := by
  obtain ⟨registry, rfl⟩ := exists_callRegistry h
  rfl

/-- An event is handled at the place of the loop where it was. -/
theorem control_handleEvent {event : HandledEvent root} {now : Time}
    (h : state.handleEvent settings stackDepth now event = .ok state') :
    state'.control = state.control := by
  cases event with
  | window event =>
      obtain ⟨engine, -, h⟩ := exists_of_bind_eq_ok h
      cases h
      rfl
  | cursor answer =>
      cases h
      rw [onCursorEvent]
      split_ifs <;> rfl
  | shape x11Window shape =>
      obtain ⟨display, -, h⟩ := exists_of_bind_eq_ok h
      cases h
      rfl
  | selection =>
      cases h
      rfl
  | selectionRequest request =>
      obtain ⟨clipboard, -, h⟩ := exists_of_bind_eq_ok h
      cases h
      rfl
  | screenChange width height rootAttributes =>
      rw [MainLoop.handleEvent] at h
      split_ifs at h <;> cases h <;> rfl

/-- The test of the state is that of the control. -/
theorem control_testState (state : MainLoop) (now : Time) :
    (state.testState now).control = state.control.testState := by
  have hstage : state.control.stage = state.stage := rfl
  have hrunning : state.control.isRunning = state.isRunning := rfl
  rw [MainLoop.testState, LoopControl.testState, hstage, hrunning]
  cases state.stage with
  | afterSleep => cases state.isRunning <;> rfl
  | _ => rfl

/-- The next instruction is taken from the queue of the control. -/
theorem control_handleNextInstruction {answers : InstructionAnswers}
    (h : state.handleNextInstruction settings engineVersion keyMaps depth answers = .ok state') :
    state'.control = state.control.handleNextInstruction := by
  have hcontrol : state.control.stage = state.stage := rfl
  rw [MainLoop.handleNextInstruction] at h
  rw [LoopControl.handleNextInstruction, hcontrol]
  cases hstage : state.stage with
  | instructions remaining =>
      rw [hstage] at h
      cases remaining with
      | nil =>
          cases h
          rfl
      | cons instruction remaining =>
          obtain ⟨controller, -, h⟩ := exists_of_bind_eq_ok h
          cases h
          rfl
  | _ =>
      rw [hstage] at h
      cases h
      rfl

/-- **The main loop goes on like the loop without the display and the clients.** -/
theorem control_step {action : MainLoopAction root}
    (h : state.step settings checksum engineVersion keyMaps depth stackDepth action = .ok state') :
    state'.control = state.control.step action := by
  cases action with
  | run testing draws now =>
      obtain ⟨added, hadded, h⟩ := exists_of_bind_eq_ok h
      have hcontrol : added.control = state.control := by
        rw [addTestClient] at hadded
        split_ifs at hadded
        · exact control_callRegistry hadded
        · cases hadded
          rfl
      cases h
      rw [← hcontrol]
      rfl
  | testState now =>
      cases h
      exact control_testState state now
  | handleClientInstruction answers => exact control_handleNextInstruction h
  | updateClipboard now | reply conversion event property | ownerChanged window =>
      obtain ⟨clipboard, -, h⟩ := exists_of_bind_eq_ok h
      cases h
      rfl
  | handleEvent event now => exact control_handleEvent h
  | updateDisplay server now =>
      obtain ⟨updated, -, h⟩ := exists_of_bind_eq_ok h
      cases h
      rw [onWindowLayoutEvent]
      split_ifs <;> rfl
  | notifyDisplayChanged =>
      rw [step, notifyDisplay] at h
      split_ifs at h
      · obtain ⟨controller, -, h⟩ := exists_of_bind_eq_ok h
        cases h
        rfl
      · cases h
        rfl
  | notifyCursorChanged =>
      rw [step, notifyCursor] at h
      split_ifs at h
      · obtain ⟨controller, -, h⟩ := exists_of_bind_eq_ok h
        cases h
        rfl
      · cases h
        rfl
  | handleClientPings testing now =>
      obtain ⟨pinged, hpinged, h⟩ := exists_of_bind_eq_ok h
      have hcontrol : pinged.control = state.control := by
        rw [sendPings] at hpinged
        split_ifs at hpinged
        · cases hpinged
          rfl
        · exact control_callRegistry hpinged
      cases h
      rw [← hcontrol]
      rfl
  | updateClientWindows update =>
      obtain ⟨controller, -, h⟩ := exists_of_bind_eq_ok h
      cases h
      rfl
  | performQualityVerification measure now | stop =>
      obtain ⟨called, hcalled, h⟩ := exists_of_bind_eq_ok h
      cases h
      rw [← control_callRegistry hcalled]
      rfl
  | refreshMouse now =>
      rw [step, refreshMouse] at h
      split_ifs at h
      · obtain ⟨controller, -, h⟩ := exists_of_bind_eq_ok h
        cases h
        rfl
      · cases h
        rfl
  | receive instruction =>
      cases h
      exact apply_ite control _ _ _
  | addClient clientVersion draws now | removeClient clientId =>
      rw [step] at h
      split_ifs at h
      · exact control_callRegistry h
      · cases h
        rfl
  | clearInstructions | move position =>
      cases h
      rfl

/-- **A run of the main loop is one of the loop without the display and the clients.** -/
theorem control_run {actions : List (MainLoopAction root)}
    (h : Runs settings checksum engineVersion keyMaps depth stackDepth state actions state') :
    Run (fun control action => .ok (control.step action))
      (fun (control : LoopControl) action => control.stage.Allows action) state.control actions
      (E := Fault) state'.control := by
  induction h with
  | nil state => exact .nil _
  | cons hallowed hstep _ ih => exact .cons hallowed (by rw [control_step hstep]) ih

end MainLoop

namespace LoopControl

variable {root : UInt32} {control : LoopControl} {action : MainLoopAction root}

/-! ## Instructions -/

/-- The instructions that have still to be handled. -/
def pending (control : LoopControl) : List WebXInstruction :=
  match control.stage with
  | .instructions remaining => remaining
  | _ => control.instructions

/-- **The instructions that were received** are those that were handled, and those that have still to
be. -/
theorem keepsInstructions_step (h : control.received = control.handled ++ control.pending)
    (hallowed : control.stage.Allows action) :
    (control.step action).received =
      (control.step action).handled ++ (control.step action).pending := by
  cases action with
  | testState now =>
      rcases hallowed with hstage | hstage
      all_goals
        rw [pending, hstage] at h
        rw [step, testState, hstage, pending]
        cases control.isRunning <;> exact h
  | handleClientInstruction answers =>
      obtain ⟨instruction, remaining, hstage⟩ := hallowed
      rw [pending, hstage] at h
      rw [step, handleNextInstruction, hstage, pending, h]
      simp
  | receive instruction =>
      rw [step]
      split_ifs
      · -- the list is not used by the loop at this time
        have hpending (instructions received : List WebXInstruction) :
            pending { control with instructions := instructions, received := received } =
              instructions := by
          rw [pending]
          cases hstage : control.stage with
          | instructions remaining => exact absurd hstage (hallowed remaining)
          | _ => rfl
        have hbefore := hpending control.instructions control.received
        rw [hpending, h, ← List.append_assoc]
        exact congrArg (control.handled ++ · ++ [instruction]) hbefore
      · exact h
  | run _ _ _ | clearInstructions | updateClipboard _ | updateDisplay _ _ | notifyDisplayChanged
  | notifyCursorChanged | handleClientPings _ _ | updateClientWindows _
  | performQualityVerification _ _ | refreshMouse _ =>
      have hstage := hallowed
      rw [MainLoopStage.Allows] at hstage
      rw [pending, hstage] at h
      exact h
  | _ => exact h

/-! ## The stop -/

/-- How often the state of a loop that was stopped is still tested: once, or twice when the stop comes in
the sleep. -/
def testsLeft (control : LoopControl) : ℕ :=
  match control.stage with
  | .ended => 0
  | .afterSleep => 2
  | _ => 1

/-- The loop was stopped. -/
structure Stopped (control : LoopControl) : Prop where
  isRunning : control.isRunning = false
  started : control.stage ≠ .created

/-- **A loop that was stopped** goes on to its end. -/
theorem Stopped.step (h : control.Stopped) (hallowed : control.stage.Allows action) :
    (control.step action).Stopped ∧
      (control.step action).testsLeft + (if action.isTest then 1 else 0) = control.testsLeft := by
  obtain ⟨hrunning, hstarted⟩ := h
  cases action with
  | run _ _ _ => exact absurd hallowed hstarted
  | testState now =>
      rcases hallowed with hstage | hstage
      all_goals
        rw [LoopControl.step, testState, hstage, hrunning, testsLeft, testsLeft, hstage]
        exact ⟨⟨rfl, MainLoopStage.noConfusion⟩, rfl⟩
  | handleClientInstruction answers =>
      obtain ⟨instruction, remaining, hstage⟩ := hallowed
      rw [LoopControl.step, handleNextInstruction, hstage, testsLeft, testsLeft, hstage]
      exact ⟨⟨hrunning, MainLoopStage.noConfusion⟩, rfl⟩
  | receive instruction =>
      rw [LoopControl.step]
      by_cases hset : control.hasHandlers = true
      · rw [if_pos hset]
        exact ⟨⟨hrunning, hstarted⟩, rfl⟩
      · rw [if_neg hset]
        exact ⟨⟨hrunning, hstarted⟩, rfl⟩
  | clearInstructions | updateClipboard _ | updateDisplay _ _ | notifyDisplayChanged
  | notifyCursorChanged | handleClientPings _ _ | updateClientWindows _
  | performQualityVerification _ _ | refreshMouse _ =>
      have hstage := hallowed
      rw [MainLoopStage.Allows] at hstage
      rw [testsLeft, testsLeft, hstage]
      exact ⟨⟨hrunning, MainLoopStage.noConfusion⟩, rfl⟩
  | stop => exact ⟨⟨rfl, hstarted⟩, rfl⟩
  | _ => exact ⟨⟨hrunning, hstarted⟩, rfl⟩

/-- The tests that are made, and those that are left. -/
theorem Stopped.run {control' : LoopControl} {actions : List (MainLoopAction root)}
    (h : control.Stopped)
    (hrun : Run (fun control action => .ok (control.step action))
      (fun (control : LoopControl) action => control.stage.Allows action) control actions
      (E := Fault) control') :
    control'.testsLeft + actions.countP MainLoopAction.isTest = control.testsLeft := by
  induction hrun with
  | nil control => rfl
  | cons hallowed hstep _ ih =>
      cases hstep
      obtain ⟨hstopped, hleft⟩ := h.step hallowed
      rw [List.countP_cons, ← Nat.add_assoc, ih hstopped]
      exact hleft

end LoopControl

/-! ## Runs -/

section Runs

variable {root : UInt32} {settings : WebXSettings} {checksum : List UInt8 → UInt32}
  {engineVersion : WebXVersion} {keyMaps : KeyMaps} {depth stackDepth : ℕ}
  {controller : ControllerState} {actions after : List (MainLoopAction root)}
  {state stopped state' : MainLoop}

/-- **Each instruction is handled once, in the order in which it was received**: those that were handled
are the first ones that were received, and all of them when the loop clears its list. -/
theorem instructions_of_run
    (hrun : MainLoop.Runs settings checksum engineVersion keyMaps depth stackDepth (.create controller)
      actions state) :
    state.received = state.handled ++ state.control.pending ∧
      (state.stage = .instructions [] → state.handled = state.received) := by
  have hkeeps : state.control.received = state.control.handled ++ state.control.pending :=
    (MainLoop.control_run hrun).invariant
      (P := fun control => control.received = control.handled ++ control.pending)
      (fun control action next h hallowed hstep => by
        cases hstep
        exact LoopControl.keepsInstructions_step h hallowed) rfl
  refine ⟨hkeeps, fun hstage => ?_⟩
  have hpending : state.control.pending = [] := by
    have hcontrol : state.control.stage = .instructions [] := hstage
    rw [LoopControl.pending, hcontrol]
  rw [hpending, List.append_nil] at hkeeps
  exact hkeeps.symm

end Runs

/-- An instruction is received before the loop starts, and another one while it sleeps. -/
def twoInstructions : List (MainLoopAction 1) :=
  [.receive ⟨7, 1, .windows⟩, .run false [] 0, .testState 0, .receive ⟨7, 2, .screen⟩, .testState 1,
    .handleClientInstruction ControllerState.emptyScreenAnswers]

/-- The run with two instructions can be run: one of them is handled. -/
theorem exists_twoInstructions : ∃ state : MainLoop,
    MainLoop.Runs .default crc32Bitwise ⟨1, 0, 0⟩ KeyboardState.gbAndFr 0 8
      (.create shapedStart.toControllerState) twoInstructions state ∧
    state.handled = [⟨7, 1, .windows⟩] :=
  ⟨_, .cons (fun _ => MainLoopStage.noConfusion) rfl (.cons rfl rfl (.cons (.inl rfl) rfl
    (.cons (fun _ => MainLoopStage.noConfusion) rfl (.cons (.inr rfl) rfl
      (.cons ⟨_, _, rfl⟩ rfl (.nil _)))))), rfl⟩

/-- The first one is handled first. -/
theorem instructions_of_run_twoInstructions : ∃ state : MainLoop,
    state.handled = [⟨7, 1, .windows⟩] ∧
      state.received = state.handled ++ state.control.pending := by
  obtain ⟨state, hrun, hhandled⟩ := exists_twoInstructions
  exact ⟨state, hhandled, (instructions_of_run hrun).1⟩

end WebXEngine
