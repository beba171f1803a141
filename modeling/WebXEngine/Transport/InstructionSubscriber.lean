import WebXEngine.Transport.InstructionFormat

/-! # The loop of the instruction subscriber

The thread that receives the instructions of the clients. Each pass of its loop polls the event bus
and the instruction socket; what is thrown during a pass is caught by three clauses, or leaves the
thread function.

* **`mainLoop`** — the passes of the loop, one after the other.
* **`loopBody_running`** — what one pass does while the loop is running.
* **`mainLoop_of_deliverable`**, **`mainLoop_of_not_deliverable`** — what a sequence of passes
  does. -/

namespace WebXEngine

namespace WebXClientInstructionSubscriber

open InstructionFormat WebXInstructionDecoder

/-! ## The loop -/

/-- What can be thrown during a pass: an error of the sockets, an exception of the standard library,
a string, or a fault of the binary buffer (whose exception class has no base class). -/
inductive LoopException
  | zmqError
  | stdException
  | stdString
  | bufferFault (fault : Fault)
  deriving DecidableEq, Repr

/-- The exceptions that one of the `catch` clauses of the loop names. -/
def caught : LoopException → Bool
  | .zmqError => true
  | .stdException => true
  | .stdString => true
  | .bufferFault _ => false

/-- What a socket that polled as readable answers: nothing, a message, or an error. -/
inductive Received
  | nothing
  | message (data : List UInt8)
  | failed
  deriving DecidableEq, Repr

/-- What one pass meets: a poll that throws, or a poll that says which sockets are readable and what
they answer, with the time the clock shows when an instruction is decoded. -/
inductive Pass
  | interrupted
  | polled (eventBus instructions : Option Received) (now : UInt64)
  deriving DecidableEq, Repr

/-- The variables of the thread function, with the instructions handed to the gateway so far. -/
structure LoopState where
  running : Bool
  handed : List WebXInstruction
  deriving DecidableEq, Repr

/-- A pass over the loop changes the state until it throws. -/
abbrev LoopM := EStateM LoopException LoopState

/-- The event that ends the loop. -/
def shutdownEvent : List UInt8 := "shutdown".toList.map fun c => UInt8.ofNat c.toNat

/-- The gateway receives an instruction. -/
def handleInstruction (instruction : WebXInstruction) : LoopM Unit :=
  modify fun s => { s with handed := s.handed ++ [instruction] }

/-- The event bus part of a pass. -/
def receiveEvent : Option Received → LoopM Unit
  | some (.message event) => do
      if event = shutdownEvent then
        modify fun s => { s with running := false }
  | some .failed => throw .zmqError
  | some .nothing | none => return ()

/-- The instruction part of a pass. -/
def receiveInstruction (now : UInt64) : Option Received → LoopM Unit
  | some (.message data) =>
      match decode now data with
      | .ok (some instruction) => handleInstruction instruction
      | .ok none => return ()
      | .error fault => throw (.bufferFault fault)
  | some .failed => throw .zmqError
  | some .nothing | none => return ()

/-- The body of the `try` statement. -/
def loopBody : Pass → LoopM Unit
  | .interrupted => throw .zmqError
  | .polled eventBus instructions now => do
      receiveEvent eventBus
      if (← get).running then
        receiveInstruction now instructions

/-- The loop over the passes that are met: a pass is made while the loop is running, and an
exception that no clause catches leaves the function. -/
def mainLoop : List Pass → LoopM Unit
  | [], s => .ok () s
  | pass :: passes, s =>
      if s.running then
        match loopBody pass s with
        | .ok _ s' => mainLoop passes s'
        | .error e s' => if caught e then mainLoop passes s' else .error e s'
      else
        .ok () s

/-! ## One pass -/

/-- The pass receives the event that ends the loop. -/
def Pass.shutsDown : Pass → Bool
  | .polled (some (.message event)) _ _ => event = shutdownEvent
  | _ => false

/-- The instruction data received in a pass: none when the event bus threw before. -/
def Pass.received : Pass → Option (UInt64 × List UInt8)
  | .polled (some .failed) _ _ => none
  | .polled _ (some (.message data)) now => some (now, data)
  | _ => none

/-- The length recorded for the data received in a pass is enough for its instruction. -/
def Pass.Deliverable (pass : Pass) : Prop :=
  ∀ now data, pass.received = some (now, data) → requiredLength data ≤ data.length % uint32Size

/-- The instruction that the data received in a pass denotes. -/
def Pass.instruction (pass : Pass) : Option WebXInstruction :=
  pass.received.bind fun received => documentedInstruction received.1 received.2

/-- The state after a pass, when the pass leaves the loop running. -/
def Pass.handOver (pass : Pass) (s : LoopState) : LoopState :=
  { s with handed := s.handed ++ pass.instruction.toList }

/-- The event part of a pass that neither fails nor ends the loop leaves the state alone. -/
theorem receiveEvent_eq {eventBus : Option Received} (hfailed : eventBus ≠ some .failed)
    (hevent : eventBus ≠ some (.message shutdownEvent)) (s : LoopState) :
    receiveEvent eventBus s = .ok () s := by
  match eventBus with
  | none => rfl
  | some .nothing => rfl
  | some .failed => exact absurd rfl hfailed
  | some (.message event) =>
      have hne : event ≠ shutdownEvent := fun heq => hevent (by rw [heq])
      rw [receiveEvent, if_neg hne]
      rfl

/-- The instruction part is made when the event part left the loop running. -/
theorem loopBody_polled {eventBus instructions : Option Received} {now : UInt64} {s : LoopState}
    (hevent : receiveEvent eventBus s = .ok () s) (hrunning : s.running = true) :
    loopBody (.polled eventBus instructions now) s = receiveInstruction now instructions s := by
  show EStateM.bind (receiveEvent eventBus) _ s = _
  rw [EStateM.bind, hevent]
  show (if s.running then receiveInstruction now instructions else pure ()) s = _
  rw [if_pos hrunning]

/-- Data that is long enough is decoded, and its instruction handed to the gateway. -/
theorem receiveInstruction_of_le {now : UInt64} {data : List UInt8} (s : LoopState)
    (h : requiredLength data ≤ data.length % uint32Size) :
    receiveInstruction now (some (.message data)) s
      = .ok () { s with handed := s.handed ++ (documentedInstruction now data).toList } := by
  rw [receiveInstruction, decode_of_le now h]
  cases documentedInstruction now data with
  | none => rw [Option.toList_none, List.append_nil]; rfl
  | some instruction => rfl

/-- Data that is too short raises an exception that no clause names. -/
theorem receiveInstruction_of_lt {now : UInt64} {data : List UInt8} (s : LoopState)
    (h : data.length % uint32Size < requiredLength data) :
    ∃ fault, receiveInstruction now (some (.message data)) s = .error (.bufferFault fault) s := by
  obtain ⟨offset, dataSize, hdecode⟩ := decode_of_lt now h
  rw [receiveInstruction, hdecode]
  exact ⟨_, rfl⟩

section OnePass

variable {pass : Pass} {s : LoopState} (hrunning : s.running = true)
  (hshutdown : pass.shutsDown = false)

include hrunning hshutdown

/-- A pass in which no data is received leaves the state alone, or fails with an error of the
sockets. -/
theorem loopBody_of_received_none (h : pass.received = none) :
    loopBody pass s = .ok () s ∨ loopBody pass s = .error .zmqError s := by
  match pass with
  | .interrupted => exact .inr rfl
  | .polled eventBus instructions now =>
      by_cases hfailed : eventBus = some .failed
      · rw [hfailed]
        exact .inr rfl
      · have hevent : eventBus ≠ some (.message shutdownEvent) := by
          rintro rfl
          simp [Pass.shutsDown] at hshutdown
        rw [loopBody_polled (receiveEvent_eq hfailed hevent s) hrunning]
        match eventBus, instructions with
        | _, none => exact .inl rfl
        | _, some .nothing => exact .inl rfl
        | _, some .failed => exact .inr rfl
        | none, some (.message data) => exact nomatch h
        | some .nothing, some (.message data) => exact nomatch h
        | some (.message event), some (.message data) => exact nomatch h

/-- A pass in which data is received is the instruction part of the pass. -/
theorem loopBody_of_received_some {now : UInt64} {data : List UInt8}
    (h : pass.received = some (now, data)) :
    loopBody pass s = receiveInstruction now (some (.message data)) s := by
  match pass with
  | .interrupted => exact nomatch h
  | .polled eventBus instructions now' =>
      have hfailed : eventBus ≠ some .failed := by
        rintro rfl
        exact nomatch h
      have hevent : eventBus ≠ some (.message shutdownEvent) := by
        rintro rfl
        simp [Pass.shutsDown] at hshutdown
      rw [loopBody_polled (receiveEvent_eq hfailed hevent s) hrunning]
      match eventBus, instructions with
      | some .failed, _ => exact absurd rfl hfailed
      | none, some (.message data') => cases h; rfl
      | some .nothing, some (.message data') => cases h; rfl
      | some (.message event), some (.message data') => cases h; rfl

/-- **A deliverable pass** hands its instruction over; what it throws is caught. -/
theorem loopBody_of_deliverable (h : pass.Deliverable) :
    loopBody pass s = .ok () (pass.handOver s) ∨
      ∃ e, caught e = true ∧ loopBody pass s = .error e (pass.handOver s) := by
  cases hreceived : pass.received with
  | none =>
      have hsame : pass.handOver s = s := by
        rw [Pass.handOver, Pass.instruction, hreceived, Option.bind_none, Option.toList_none,
          List.append_nil]
      rw [hsame]
      exact (loopBody_of_received_none hrunning hshutdown hreceived).imp_right
        fun herror => ⟨.zmqError, rfl, herror⟩
  | some received =>
      obtain ⟨now, data⟩ := received
      left
      rw [loopBody_of_received_some hrunning hshutdown hreceived,
        receiveInstruction_of_le s (h now data hreceived), Pass.handOver, Pass.instruction,
        hreceived]
      rfl

/-- **A pass that is not deliverable** throws an exception that no clause names. -/
theorem loopBody_of_not_deliverable (h : ¬ pass.Deliverable) :
    ∃ fault, loopBody pass s = .error (.bufferFault fault) s := by
  simp only [Pass.Deliverable, not_forall, not_le] at h
  obtain ⟨now, data, hreceived, hlt⟩ := h
  rw [loopBody_of_received_some hrunning hshutdown hreceived]
  exact receiveInstruction_of_lt s hlt

end OnePass

/-! ## The whole loop -/

/-- Deliverable passes leave the loop running and hand over the instruction of each pass. -/
theorem mainLoop_of_deliverable {passes : List Pass} {s : LoopState} (hrunning : s.running = true)
    (hshutdown : ∀ pass ∈ passes, pass.shutsDown = false)
    (h : ∀ pass ∈ passes, pass.Deliverable) :
    mainLoop passes s
      = .ok () { s with handed := s.handed ++ passes.filterMap Pass.instruction } := by
  induction passes generalizing s with
  | nil => rw [mainLoop, List.filterMap_nil, List.append_nil]
  | cons pass passes ih =>
      rw [List.forall_mem_cons] at hshutdown h
      have hnext : mainLoop (pass :: passes) s = mainLoop passes (pass.handOver s) := by
        rw [mainLoop, if_pos hrunning]
        rcases loopBody_of_deliverable hrunning hshutdown.1 h.1 with hok | ⟨e, hcaught, herror⟩
        · rw [hok]
        · rw [herror]
          exact if_pos hcaught
      rw [hnext, ih (s := pass.handOver s) hrunning hshutdown.2 h.2, Pass.handOver,
        List.filterMap_cons]
      cases pass.instruction with
      | none => simp
      | some instruction => simp

/-- A pass that is not deliverable ends the thread, whatever follows it. -/
theorem mainLoop_of_not_deliverable {passes : List Pass} {s : LoopState}
    (hrunning : s.running = true) (hshutdown : ∀ pass ∈ passes, pass.shutsDown = false)
    (h : ∃ pass ∈ passes, ¬ pass.Deliverable) :
    ∃ fault s', mainLoop passes s = .error (.bufferFault fault) s' := by
  induction passes generalizing s with
  | nil => simp at h
  | cons pass passes ih =>
      rw [List.forall_mem_cons] at hshutdown
      by_cases hpass : pass.Deliverable
      · have hrest : ∃ pass ∈ passes, ¬ pass.Deliverable := by
          simpa [hpass] using h
        rw [mainLoop, if_pos hrunning]
        -- a pass before the fault ends well, or with an exception that is caught
        rcases loopBody_of_deliverable hrunning hshutdown.1 hpass with hok | ⟨e, hcaught, herror⟩
        · rw [hok]
          exact ih (s := pass.handOver s) hrunning hshutdown.2 hrest
        · rw [herror]
          show ∃ fault s', (if caught e then mainLoop passes (pass.handOver s) else _) = _
          rw [if_pos hcaught]
          exact ih (s := pass.handOver s) hrunning hshutdown.2 hrest
      · obtain ⟨fault, hfault⟩ := loopBody_of_not_deliverable hrunning hshutdown.1 hpass
        rw [mainLoop, if_pos hrunning, hfault]
        exact ⟨fault, s, rfl⟩

/-- The loop survives the passes: no exception leaves it, it is still running after the last pass,
and the instruction of every pass was handed to the gateway. -/
def Survives (passes : List Pass) : Prop :=
  mainLoop passes ⟨true, []⟩ = .ok () ⟨true, passes.filterMap Pass.instruction⟩

/-- **The loop survives exactly the deliverable sequences**: passes that interleave instructions,
events and errors in any way, none of them being the event that ends the loop. -/
theorem survives_iff {passes : List Pass} (hshutdown : ∀ pass ∈ passes, pass.shutsDown = false) :
    Survives passes ↔ ∀ pass ∈ passes, pass.Deliverable := by
  refine ⟨fun hsurvives => ?_, fun h => mainLoop_of_deliverable rfl hshutdown h⟩
  by_contra hexists
  push Not at hexists
  obtain ⟨fault, s', herror⟩ := mainLoop_of_not_deliverable (s := ⟨true, []⟩) rfl hshutdown hexists
  rw [Survives, herror] at hsurvives
  exact nomatch hsurvives

/-- A quality instruction of the client 1, then an event. -/
theorem survives_iff_quality :
    Survives [.polled none (some (.message (encode (Vector.replicate 16 0) false 0
      ⟨1, 2, .quality 3⟩))) 7, .polled (some (.message [1])) none 8] :=
  (survives_iff (by decide)).mpr (by
    simp only [List.forall_mem_cons, Pass.Deliverable, Pass.received]
    refine ⟨?_, nofun, nofun⟩
    rintro now data heq
    cases heq
    decide +kernel)

/-- One empty message ends the thread. -/
theorem not_survives_empty : ¬ Survives [.polled none (some (.message [])) 0] := by
  have hempty : ¬ (Pass.polled none (some (.message [])) 0).Deliverable :=
    fun h => absurd (h 0 [] rfl) (by decide)
  obtain ⟨fault, hfault⟩ := loopBody_of_not_deliverable (s := ⟨true, []⟩) rfl rfl hempty
  intro hsurvives
  rw [Survives, mainLoop, if_pos rfl, hfault] at hsurvives
  exact nomatch hsurvives

end WebXClientInstructionSubscriber

end WebXEngine
