import WebXEngine.Foundations.BusLoops
import WebXEngine.Transport.ClientConnector
import WebXEngine.Transport.InstructionSubscriber
import WebXEngine.Transport.MessagePublisher

/-! # The threads of the transport

The transport starts the threads of the connector, of the publisher and of the instruction subscriber. To
stop them it sends one event on its event bus, which ends the loops of the connector and of the subscriber,
and waits for the three threads in turn.

* **`connectorBody`**, **`collectorBody`** — the rounds of the two loops.
* **`WebXTransport.step`** — what the threads do: they interleave in any way.
* **`WebXTransport.step_cases`** — one of them makes a step of its own.
* **`WebXTransport.stops_iff`** — the stop returns exactly when each loop has subscribed before it. -/

namespace WebXEngine

/-! ## The two loops -/

section Collector

open WebXClientInstructionSubscriber

/-- What a pass of the instruction subscriber finds on the event bus. -/
def WebXClientInstructionSubscriber.Pass.answer : Pass → BusAnswer (List UInt8)
  | .interrupted => .interrupted
  | .polled none _ _ => .nothing
  | .polled (some (.message event)) _ _ => .event event
  | .polled (some .nothing) _ _ | .polled (some .failed) _ _ => .failed

/-- A pass of the instruction subscriber; an exception that is not caught ends the program. -/
def collectorRound (s : LoopState) (pass : WebXClientInstructionSubscriber.Pass) :
    Except LoopException LoopState :=
  match mainLoop [pass] s with
  | .ok _ t => .ok t
  | .error e _ => .error e

/-- A pass ends the loop exactly when it receives the event. -/
theorem shutsDown_iff (pass : WebXClientInstructionSubscriber.Pass) :
    pass.shutsDown = true ↔ pass.answer = .event shutdownEvent := by
  match pass with
  | .interrupted | .polled none _ _ | .polled (some .nothing) _ _ | .polled (some .failed) _ _ =>
      simp [Pass.shutsDown, Pass.answer]
  | .polled (some (.message event)) _ _ => simp [Pass.shutsDown, Pass.answer]

/-- The event is received before the instructions are looked at. -/
theorem loopBody_of_shutsDown {pass : WebXClientInstructionSubscriber.Pass}
    (h : pass.shutsDown = true) (s : LoopState) :
    loopBody pass s = .ok () { s with running := false } := by
  match pass with
  | .interrupted | .polled none _ _ | .polled (some .nothing) _ _ | .polled (some .failed) _ _ =>
      exact absurd h (by simp [Pass.shutsDown])
  | .polled (some (.message event)) instructions now =>
      obtain rfl : event = shutdownEvent := by simpa [Pass.shutsDown] using h
      rfl

/-- A pass ends the loop exactly when it receives the event. -/
theorem collectorRound_ends {s t : LoopState} {pass : WebXClientInstructionSubscriber.Pass}
    (hrunning : s.running = true) (hround : collectorRound s pass = .ok t) :
    t.running = false ↔ pass.answer = .event shutdownEvent := by
  rw [← shutsDown_iff]
  rw [collectorRound, mainLoop, if_pos hrunning] at hround
  by_cases hshutdown : pass.shutsDown = true
  · rw [loopBody_of_shutsDown hshutdown] at hround
    obtain rfl := Except.ok.inj hround
    exact iff_of_true rfl hshutdown
  · have hnot : pass.shutsDown = false := Bool.eq_false_of_not_eq_true hshutdown
    have hsame : t.running = true := by
      by_cases hdeliverable : pass.Deliverable
      · rcases loopBody_of_deliverable hrunning hnot hdeliverable with hok | ⟨e, hcaught, herror⟩
        · rw [hok] at hround
          obtain rfl := Except.ok.inj hround
          exact hrunning
        · rw [herror] at hround
          dsimp only at hround
          rw [if_pos hcaught] at hround
          obtain rfl := Except.ok.inj hround
          exact hrunning
      · -- what is thrown is not caught
        obtain ⟨fault, hfault⟩ := loopBody_of_not_deliverable hrunning hnot hdeliverable
        rw [hfault] at hround
        cases hround
    rw [hsame]
    exact iff_of_false (by simp) hshutdown

/-- The loop of the instruction subscriber. -/
def collectorBody :
    LoopBody LoopState WebXClientInstructionSubscriber.Pass (List UInt8) LoopException where
  round := collectorRound
  running := LoopState.running
  answer := Pass.answer
  shutdown := shutdownEvent
  Inv := fun _ => True
  keeps := fun _ _ _ => trivial
  ends := fun _ hrunning hround => collectorRound_ends hrunning hround
  stoppable := fun {s} _ hrunning => by
    refine ⟨.polled (some (.message shutdownEvent)) none 0, { s with running := false }, rfl, ?_⟩
    rw [collectorRound, mainLoop, if_pos hrunning, loopBody_of_shutsDown (by decide)]
    rfl

end Collector

section Connector

variable {settings : WebXSettings} {state : ConnectorState} {input : ConnectorInput}

/-- What a round of the connector finds on the event bus. -/
def Poll.answer : Poll → BusAnswer (List UInt8)
  | .error => .interrupted
  | .ready none _ => .nothing
  | .ready (some (.message event)) _ => .event event
  | .ready (some .error) _ => .failed

/-- What is done with the message of a client does not end the loop. -/
theorem ConnectorState.running_handleClientResponder (hinv : state.registryState.registry.Inv)
    {responder : Option Recv} {next : ConnectorState}
    (h : state.handleClientResponder settings input responder = .ok next) :
    next.running = state.running := by
  rw [handleClientResponder.eq_def] at h
  split at h
  · split_ifs at h with hrunning
    · rename_i request
      obtain ⟨text, registry, heq, -⟩ := @handleInstruction_spec settings (state.receive request) input
        hinv request
      rw [heq] at h
      obtain rfl := Except.ok.inj h
      cases text <;> rfl
    · exact (Except.ok.inj h) ▸ rfl
  · exact (Except.ok.inj h) ▸ rfl

/-- A round ends the loop exactly when it receives the event. -/
theorem ConnectorState.mainLoop_ends (hinv : state.Inv) (hrunning : state.running = true)
    {next : ConnectorState} (hround : state.mainLoop settings input = .ok next) :
    next.running = false ↔ input.poll.answer = .event (ascii "shutdown") := by
  obtain ⟨block, hblock, hnext⟩ := exists_of_map_eq_ok hround
  have hsame : next.running = block.running := by
    rw [← hnext]
    split_ifs <;> rfl
  rw [hsame]
  rw [tryBlock] at hblock
  cases hpoll : input.poll with
  | error =>
      rw [hpoll] at hblock
      obtain rfl := Except.ok.inj hblock
      simp [hrunning, Poll.answer]
  | ready eventBus responder =>
      rw [hpoll] at hblock
      dsimp only at hblock
      -- the event is received before the message of a client
      rcases eventBus with _ | event | _
      · rw [handleEvent] at hblock
        dsimp only at hblock
        rw [if_neg (not_not.mpr hinv.socket)] at hblock
        rw [running_handleClientResponder hinv.registry hblock]
        simp [hrunning, Poll.answer]
      · rw [handleEvent] at hblock
        by_cases hshutdown : event = ascii "shutdown"
        · rw [if_pos hshutdown] at hblock
          dsimp only at hblock
          rw [if_neg (not_not.mpr hinv.socket)] at hblock
          rw [@running_handleClientResponder settings { state with running := false } input
            hinv.registry _ _ hblock]
          simp [hshutdown, Poll.answer]
        · rw [if_neg hshutdown] at hblock
          dsimp only at hblock
          rw [if_neg (not_not.mpr hinv.socket)] at hblock
          rw [running_handleClientResponder hinv.registry hblock]
          simp [hrunning, hshutdown, Poll.answer]
      · rw [handleEvent] at hblock
        obtain rfl := Except.ok.inj hblock
        simp [hrunning, Poll.answer]

/-- A round keeps the invariant, whether it receives a request or not. -/
theorem ConnectorState.inv_mainLoop (hinv : state.Inv) (hrunning : state.running = true)
    {next : ConnectorState} (hround : state.mainLoop settings input = .ok next) : next.Inv := by
  cases hrequest : input.poll.request with
  | none =>
      obtain ⟨state', heq, hinv', -⟩ := ConnectorState.mainLoop_of_none hinv hrequest
      exact Except.ok.inj (heq.symm.trans hround) ▸ hinv'
  | some request =>
      obtain ⟨state', reply, heq, hinv', -⟩ :=
        ConnectorState.mainLoop_of_request hinv hrunning hrequest
      exact Except.ok.inj (heq.symm.trans hround) ▸ hinv'

/-- More than 64 different numbers are drawn. -/
theorem card_range_ofNat : 64 < ((List.range 65).map UInt32.ofNat).toFinset.card := by decide

/-- Numbers that are drawn. -/
def someNumbers : RandomNumbers := ⟨(List.range 65).map UInt32.ofNat, card_range_ofNat⟩

/-- The input of a round that finds the event and no message of a client. -/
def shutdownInput : ConnectorInput :=
  ⟨.ready (some (.message (ascii "shutdown"))) none, someNumbers, 0⟩

/-- The loop of the connector. -/
def connectorBody (settings : WebXSettings) :
    LoopBody ConnectorState ConnectorInput (List UInt8) ConnectorHalt where
  round := fun state input => state.mainLoop settings input
  running := ConnectorState.running
  answer := fun input => input.poll.answer
  shutdown := ascii "shutdown"
  Inv := ConnectorState.Inv
  keeps := fun hinv hrunning hround => ConnectorState.inv_mainLoop hinv hrunning hround
  ends := fun hinv hrunning hround => ConnectorState.mainLoop_ends hinv hrunning hround
  stoppable := fun hinv _ => by
    obtain ⟨next, heq, -⟩ := @ConnectorState.mainLoop_of_none _ settings shutdownInput hinv rfl
    exact ⟨shutdownInput, next, rfl, heq⟩

end Connector

/-! ## The transport -/

/-- How far the main thread is: in the calls that start the threads; between the start and the stop; in the
calls of the stop; behind it. -/
inductive MainPlace
  | created
  | connectorRuns
  | publisherRuns
  | running
  | told
  | connectorStopped
  | publisherStopping
  | publisherStopped
  | stopped
  deriving DecidableEq, Repr

/-- The event has been sent. -/
def MainPlace.sent : MainPlace → Bool
  | .created | .connectorRuns | .publisherRuns | .running => false
  | .told | .connectorStopped | .publisherStopping | .publisherStopped | .stopped => true

/-- The main thread and the threads that it starts. -/
structure WebXTransport where
  main : MainPlace
  connector : BusLoop ConnectorState (List UInt8)
  publisher : Publisher
  collector : BusLoop WebXClientInstructionSubscriber.LoopState (List UInt8)

/-- A step of one of the threads. -/
inductive TransportAction
  | runConnector
  | runPublisher
  | runCollector
  | sendShutdown
  | stopConnector
  | stopPublisher
  | publisherStopped
  | stopCollector
  | connectorConnects
  | connectorSubscribed
  | connectorRound (input : ConnectorInput)
  | connectorChanged (action : ConnectorAction)
  | collectorConnects
  | collectorSubscribed
  | collectorRound (pass : WebXClientInstructionSubscriber.Pass)
  | publisher (action : PublisherAction)

/-- Why the program can end in a step. -/
inductive TransportFailure
  | connector (halt : ConnectorHalt)
  | collector (exception : WebXClientInstructionSubscriber.LoopException)
  | fault (fault : Fault)

namespace WebXTransport

/-- The transport before its start. -/
def new (publisherPort collectorPort : ℤ) (sessionId : List UInt8) : WebXTransport :=
  ⟨.created, .new (.init publisherPort collectorPort sessionId), .new, .new ⟨true, []⟩⟩

variable (settings : WebXSettings) (sessionId : Vector UInt8 16) (t : WebXTransport)

/-- The event is sent to the subscribers. -/
def sendShutdown : WebXTransport :=
  { t with
    main := .told
    connector := t.connector.deliver (connectorBody settings).shutdown
    collector := t.collector.deliver collectorBody.shutdown }

/-- A step. -/
def step : TransportAction → Except TransportFailure WebXTransport
  | .runConnector => pure { t with main := .connectorRuns, connector := t.connector.run }
  | .runPublisher => pure { t with main := .publisherRuns, publisher := t.publisher.run }
  | .runCollector => pure { t with main := .running, collector := t.collector.run }
  | .sendShutdown => pure (t.sendShutdown settings)
  | .stopConnector => pure { t with main := .connectorStopped, connector := t.connector.join }
  | .stopPublisher => pure { t with main := .publisherStopping, publisher := t.publisher.clearRunning }
  | .publisherStopped => pure { t with main := .publisherStopped }
  | .stopCollector => pure { t with main := .stopped, collector := t.collector.join }
  | .connectorConnects => pure { t with connector := t.connector.connect }
  | .connectorSubscribed => pure { t with connector := t.connector.subscribe }
  | .connectorRound input =>
      match t.connector.round (connectorBody settings) input with
      | .ok connector => pure { t with connector := connector }
      | .error halt => throw (.connector halt)
  | .connectorChanged action =>
      match t.connector.state.step settings action with
      | .ok state => pure { t with connector := { t.connector with state := state } }
      | .error halt => throw (.connector halt)
  | .collectorConnects => pure { t with collector := t.collector.connect }
  | .collectorSubscribed => pure { t with collector := t.collector.subscribe }
  | .collectorRound pass =>
      match t.collector.round collectorBody pass with
      | .ok collector => pure { t with collector := collector }
      | .error exception => throw (.collector exception)
  | .publisher action =>
      match t.publisher.step sessionId action with
      | .ok publisher => pure { t with publisher := publisher }
      | .error fault => throw (.fault fault)

/-- The steps of the publisher that are not the first one of `run` and `stop`. -/
def goesOn : PublisherAction → Bool
  | .run | .clearRunning => false
  | .stopQueue | .join | .call _ | .put _ _ | .test | .get | .wake | .publish _ _ _ => true

/-- What others do to the state of the connector. -/
def changes : ConnectorAction → Bool
  | .poll _ => false
  | .registry _ | .gateway _ => true

/-- The steps that can be taken. A transport that is not started is stopped as well. -/
def Allowed : TransportAction → Prop
  | .runConnector => t.main = .created
  | .runPublisher => t.main = .connectorRuns
  | .runCollector => t.main = .publisherRuns
  | .sendShutdown => t.main = .created ∨ t.main = .running
  | .stopConnector => t.main = .told ∧ t.connector.Left
  | .stopPublisher => t.main = .connectorStopped
  | .publisherStopped => t.main = .publisherStopping ∧ t.publisher.stage = .idle
  | .stopCollector => t.main = .publisherStopped ∧ t.collector.Left
  | .connectorConnects => t.connector.place = .starting
  | .connectorSubscribed => t.connector.place = .polling
  | .connectorRound input => t.connector.Allowed (connectorBody settings) input
  | .connectorChanged action => changes action = true
  | .collectorConnects => t.collector.place = .starting
  | .collectorSubscribed => t.collector.place = .polling
  | .collectorRound pass => t.collector.Allowed collectorBody pass
  | .publisher action => goesOn action = true ∧ t.publisher.Allowed action

/-! ## What holds of the transport -/

/-- What holds of a transport. -/
structure Sound (t : WebXTransport) : Prop where
  connector : t.connector.Sound (connectorBody settings) t.main.sent
  publisher : t.publisher.Sound sessionId
  collector : t.collector.Sound collectorBody t.main.sent
  /-- The publisher is being stopped only in its call. -/
  stage : t.publisher.stage ≠ .idle → t.main = .publisherStopping
  /-- Threads that were not started are not there. -/
  created : t.main = .created → t.connector.place = .absent ∧ t.collector.place = .absent
  collectorAbsent : t.main = .connectorRuns ∨ t.main = .publisherRuns → t.collector.place = .absent
  /-- Threads that were waited for are gone. -/
  connectorGone : t.main ∈ [.connectorStopped, .publisherStopping, .publisherStopped, .stopped] →
    t.connector.Left
  publisherOff : t.main ∈ [.publisherStopping, .publisherStopped, .stopped] →
    t.publisher.running = false
  collectorGone : t.main = .stopped → t.collector.Left

variable {settings sessionId t}

/-- Threads that were not started. -/
theorem sound_new (publisherPort collectorPort : ℤ) (id : List UInt8) :
    (new publisherPort collectorPort id).Sound settings sessionId where
  connector := BusLoop.sound_new ⟨WebXClientRegistry.inv_create, rfl⟩ rfl
  publisher := Publisher.sound_new
  collector := BusLoop.sound_new trivial rfl
  stage := fun h => absurd rfl h
  created := fun _ => ⟨rfl, rfl⟩
  collectorAbsent := fun h => by rcases h with h | h <;> cases h
  connectorGone := fun h => by simp [new] at h
  publisherOff := fun h => by simp [new] at h
  collectorGone := fun h => by cases h

/-- What others do to the state of the connector keeps its invariant. -/
theorem inv_of_changes {state next : ConnectorState} (hinv : state.Inv) {action : ConnectorAction}
    (hchanges : changes action = true) (hstep : state.step settings action = .ok next) :
    next.Inv ∧ next.running = state.running := by
  cases action with
  | poll input => cases hchanges
  | registry op =>
      obtain ⟨registryState, heq, hregistry⟩ := RegistryState.inv_step settings state.registryState op
        hinv.registry
      rw [ConnectorState.step, heq] at hstep
      obtain rfl := Except.ok.inj hstep
      exact ⟨⟨hregistry, hinv.socket⟩, rfl⟩
  | gateway gateway =>
      obtain rfl := Except.ok.inj hstep
      exact ⟨⟨hinv.registry, hinv.socket⟩, rfl⟩

/-- Steps of the connector. -/
theorem Sound.withConnector (h : t.Sound settings sessionId)
    {connector : BusLoop ConnectorState (List UInt8)}
    (hsound : connector.Sound (connectorBody settings) t.main.sent)
    (hplace : connector.place = t.connector.place ∨ ¬ t.connector.Left) :
    Sound settings sessionId { t with connector := connector } where
  connector := hsound
  publisher := h.publisher
  collector := h.collector
  stage := h.stage
  created := fun hmain => by
    obtain ⟨habsent, hcollector⟩ := h.created hmain
    exact ⟨(hplace.resolve_right fun hnot => hnot (.inl habsent)).trans habsent, hcollector⟩
  collectorAbsent := h.collectorAbsent
  connectorGone := fun hmain => by
    have hleft := h.connectorGone hmain
    rw [BusLoop.Left, hplace.resolve_right fun hnot => hnot hleft]
    exact hleft
  publisherOff := h.publisherOff
  collectorGone := h.collectorGone

/-- Steps of the instruction subscriber. -/
theorem Sound.withCollector (h : t.Sound settings sessionId)
    {collector : BusLoop WebXClientInstructionSubscriber.LoopState (List UInt8)}
    (hsound : collector.Sound collectorBody t.main.sent)
    (hplace : collector.place = t.collector.place ∨ ¬ t.collector.Left) :
    Sound settings sessionId { t with collector := collector } where
  connector := h.connector
  publisher := h.publisher
  collector := hsound
  stage := h.stage
  created := fun hmain => by
    obtain ⟨hconnector, habsent⟩ := h.created hmain
    exact ⟨hconnector, (hplace.resolve_right fun hnot => hnot (.inl habsent)).trans habsent⟩
  collectorAbsent := fun hmain => by
    have habsent := h.collectorAbsent hmain
    exact (hplace.resolve_right fun hnot => hnot (.inl habsent)).trans habsent
  connectorGone := h.connectorGone
  publisherOff := h.publisherOff
  collectorGone := fun hmain => by
    have hleft := h.collectorGone hmain
    rw [BusLoop.Left, hplace.resolve_right fun hnot => hnot hleft]
    exact hleft

/-- A step of the publisher does not start it, and does not begin to stop it. -/
theorem step_of_goesOn {p next : Publisher} {action : PublisherAction} (hgoes : goesOn action = true)
    (hallowed : p.Allowed action) (hstep : p.step sessionId action = .ok next) :
    next.running = p.running ∧ (p.stage = .idle → next.stage = .idle) := by
  cases action with
  | run | clearRunning => cases hgoes
  | stopQueue =>
      obtain rfl := Except.ok.inj hstep
      have hcleared : p.stage = .cleared := hallowed
      refine ⟨?_, fun hidle => by rw [hcleared] at hidle; cases hidle⟩
      rw [Publisher.stopQueue]
      split <;> rfl
  | join =>
      obtain rfl := Except.ok.inj hstep
      exact ⟨rfl, fun _ => rfl⟩
  | call message =>
      obtain rfl := Except.ok.inj hstep
      rw [Publisher.call]
      split_ifs <;> exact ⟨rfl, id⟩
  | put caller notified =>
      obtain ⟨message, hcaller, -⟩ := hallowed
      have hput : p.put caller notified = .ok next := hstep
      rw [Publisher.put, hcaller] at hput
      obtain ⟨threads, -, hnext⟩ := exists_of_bind_eq_ok hput
      obtain rfl := Except.ok.inj hnext
      exact ⟨rfl, id⟩
  | test | get | wake =>
      obtain rfl := Except.ok.inj hstep
      exact ⟨rfl, id⟩
  | publish timestampMs freshMemory sent =>
      rcases Publisher.publish_cases hstep with ⟨_, _, _, _, _, rfl⟩ | ⟨_, _, _, rfl⟩ | ⟨_, rfl⟩ <;>
        exact ⟨rfl, id⟩

/-- Steps of the publisher. -/
theorem Sound.withPublisher (h : t.Sound settings sessionId) {action : PublisherAction}
    (hgoes : goesOn action = true) (hallowed : t.publisher.Allowed action) {publisher : Publisher}
    (hstep : t.publisher.step sessionId action = .ok publisher) :
    Sound settings sessionId { t with publisher := publisher } where
  connector := h.connector
  publisher := h.publisher.step hallowed hstep
  collector := h.collector
  stage := fun hstage => h.stage fun hidle => hstage ((step_of_goesOn hgoes hallowed hstep).2 hidle)
  created := h.created
  collectorAbsent := h.collectorAbsent
  connectorGone := h.connectorGone
  publisherOff := fun hmain => (step_of_goesOn hgoes hallowed hstep).1.trans (h.publisherOff hmain)
  collectorGone := h.collectorGone

/-- A publisher that is not being stopped. -/
theorem Sound.idle (h : t.Sound settings sessionId) (hmain : t.main ≠ .publisherStopping) :
    t.publisher.stage = .idle := by
  by_contra hstage
  exact hmain (h.stage hstage)

/-- The steps of the main thread that start the others. -/
theorem Sound.start (h : t.Sound settings sessionId) :
    (t.main = .created →
      Sound settings sessionId { t with main := .connectorRuns, connector := t.connector.run }) ∧
    (t.main = .connectorRuns →
      Sound settings sessionId { t with main := .publisherRuns, publisher := t.publisher.run }) ∧
    (t.main = .publisherRuns →
      Sound settings sessionId { t with main := .running, collector := t.collector.run }) := by
  obtain ⟨main, connector, publisher, collector⟩ := t
  refine ⟨?_, ?_, ?_⟩ <;> rintro rfl
  · exact
      { connector := h.connector.run (h.created rfl).1 rfl
        publisher := h.publisher
        collector := h.collector
        stage := fun hstage => absurd (h.idle (by simp)) hstage
        created := fun hmain => by cases hmain
        collectorAbsent := fun _ => (h.created rfl).2
        connectorGone := fun hmain => by simp at hmain
        publisherOff := fun hmain => by simp at hmain
        collectorGone := fun hmain => by cases hmain }
  · exact
      { connector := h.connector
        publisher := h.publisher.run (h.idle (by simp))
        collector := h.collector
        stage := fun hstage => absurd (h.idle (by simp)) hstage
        created := fun hmain => by cases hmain
        collectorAbsent := fun _ => h.collectorAbsent (.inl rfl)
        connectorGone := fun hmain => by simp at hmain
        publisherOff := fun hmain => by simp at hmain
        collectorGone := fun hmain => by cases hmain }
  · exact
      { connector := h.connector
        publisher := h.publisher
        collector := h.collector.run (h.collectorAbsent (.inr rfl)) rfl
        stage := fun hstage => absurd (h.idle (by simp)) hstage
        created := fun hmain => by cases hmain
        collectorAbsent := fun hmain => by rcases hmain with hmain | hmain <;> cases hmain
        connectorGone := fun hmain => by simp at hmain
        publisherOff := fun hmain => by simp at hmain
        collectorGone := fun hmain => by cases hmain }

/-- The event is sent to both loops. -/
theorem Sound.sendShutdown (h : t.Sound settings sessionId) (hsent : t.main.sent = false) :
    (t.sendShutdown settings).Sound settings sessionId where
  connector := (hsent ▸ h.connector).deliver
  publisher := h.publisher
  collector := (hsent ▸ h.collector).deliver
  stage := fun hstage => absurd (h.idle fun hmain => by simp [hmain, MainPlace.sent] at hsent) hstage
  created := fun hmain => by cases hmain
  collectorAbsent := fun hmain => by rcases hmain with hmain | hmain <;> cases hmain
  connectorGone := fun hmain => by simp [WebXTransport.sendShutdown] at hmain
  publisherOff := fun hmain => by simp [WebXTransport.sendShutdown] at hmain
  collectorGone := fun hmain => by cases hmain

/-- A thread that was waited for has left. -/
theorem left_join {S Event : Type*} (loop : BusLoop S Event) : loop.join.Left := by
  cases hplace : loop.place <;> simp [BusLoop.join, BusLoop.Left, hplace]

/-- The steps of the main thread that wait for the others. -/
theorem Sound.stop (h : t.Sound settings sessionId) :
    (t.main = .told → t.connector.Left →
      Sound settings sessionId { t with main := .connectorStopped, connector := t.connector.join }) ∧
    (t.main = .connectorStopped → Sound settings sessionId
      { t with main := .publisherStopping, publisher := t.publisher.clearRunning }) ∧
    (t.main = .publisherStopping → t.publisher.stage = .idle →
      Sound settings sessionId { t with main := .publisherStopped }) ∧
    (t.main = .publisherStopped → t.collector.Left →
      Sound settings sessionId { t with main := .stopped, collector := t.collector.join }) := by
  obtain ⟨main, connector, publisher, collector⟩ := t
  refine ⟨?_, ?_, ?_, ?_⟩ <;> rintro rfl
  · exact fun hleft =>
      { connector := BusLoop.Sound.join h.connector hleft
        publisher := h.publisher
        collector := h.collector
        stage := fun hstage => absurd (h.idle (by simp)) hstage
        created := fun hmain => by cases hmain
        collectorAbsent := fun hmain => by rcases hmain with hmain | hmain <;> cases hmain
        connectorGone := fun _ => left_join connector
        publisherOff := fun hmain => by simp at hmain
        collectorGone := fun hmain => by cases hmain }
  · exact
      { connector := h.connector
        publisher := h.publisher.clearRunning (h.idle (by simp))
        collector := h.collector
        stage := fun _ => rfl
        created := fun hmain => by cases hmain
        collectorAbsent := fun hmain => by rcases hmain with hmain | hmain <;> cases hmain
        connectorGone := fun _ => h.connectorGone (by simp)
        publisherOff := fun _ => rfl
        collectorGone := fun hmain => by cases hmain }
  · exact fun hidle =>
      { connector := h.connector
        publisher := h.publisher
        collector := h.collector
        stage := fun hstage => absurd hidle hstage
        created := fun hmain => by cases hmain
        collectorAbsent := fun hmain => by rcases hmain with hmain | hmain <;> cases hmain
        connectorGone := fun _ => h.connectorGone (by simp)
        publisherOff := fun _ => h.publisherOff (by simp)
        collectorGone := fun hmain => by cases hmain }
  · exact fun hleft =>
      { connector := h.connector
        publisher := h.publisher
        collector := BusLoop.Sound.join h.collector hleft
        stage := fun hstage => absurd (h.idle (by simp)) hstage
        created := fun hmain => by cases hmain
        collectorAbsent := fun hmain => by rcases hmain with hmain | hmain <;> cases hmain
        connectorGone := fun _ => h.connectorGone (by simp)
        publisherOff := fun _ => h.publisherOff (by simp)
        collectorGone := fun _ => left_join collector }

/-! ## One step -/

/-- The steps of the main thread. -/
inductive MainStep (settings : WebXSettings) (t : WebXTransport) : WebXTransport → Prop
  | runConnector (h : t.main = .created) :
      MainStep settings t { t with main := .connectorRuns, connector := t.connector.run }
  | runPublisher (h : t.main = .connectorRuns) :
      MainStep settings t { t with main := .publisherRuns, publisher := t.publisher.run }
  | runCollector (h : t.main = .publisherRuns) :
      MainStep settings t { t with main := .running, collector := t.collector.run }
  | sendShutdown (h : t.main.sent = false) : MainStep settings t (t.sendShutdown settings)
  | stopConnector (h : t.main = .told) (hleft : t.connector.Left) :
      MainStep settings t { t with main := .connectorStopped, connector := t.connector.join }
  | stopPublisher (h : t.main = .connectorStopped) : MainStep settings t
      { t with main := .publisherStopping, publisher := t.publisher.clearRunning }
  | publisherStopped (h : t.main = .publisherStopping) (hidle : t.publisher.stage = .idle) :
      MainStep settings t { t with main := .publisherStopped }
  | stopCollector (h : t.main = .publisherStopped) (hleft : t.collector.Left) :
      MainStep settings t { t with main := .stopped, collector := t.collector.join }

/-- **What a step can do**: one of the threads makes a step of its own. -/
theorem step_cases (h : t.Sound settings sessionId) {action : TransportAction}
    (hallowed : t.Allowed settings action) {next : WebXTransport}
    (hstep : t.step settings sessionId action = .ok next) :
    MainStep settings t next ∨
    (∃ connector, t.connector.Step (connectorBody settings) connector ∧
      next = { t with connector := connector }) ∨
    (∃ collector, t.collector.Step collectorBody collector ∧
      next = { t with collector := collector }) ∨
    ∃ action publisher, goesOn action = true ∧ t.publisher.Allowed action ∧
      t.publisher.step sessionId action = .ok publisher ∧ next = { t with publisher := publisher } := by
  cases action with
  | runConnector => exact .inl (Except.ok.inj hstep ▸ .runConnector hallowed)
  | runPublisher => exact .inl (Except.ok.inj hstep ▸ .runPublisher hallowed)
  | runCollector => exact .inl (Except.ok.inj hstep ▸ .runCollector hallowed)
  | sendShutdown =>
      refine .inl (Except.ok.inj hstep ▸ .sendShutdown ?_)
      rcases hallowed with hmain | hmain <;> rw [hmain] <;> rfl
  | stopConnector => exact .inl (Except.ok.inj hstep ▸ .stopConnector hallowed.1 hallowed.2)
  | stopPublisher => exact .inl (Except.ok.inj hstep ▸ .stopPublisher hallowed)
  | publisherStopped => exact .inl (Except.ok.inj hstep ▸ .publisherStopped hallowed.1 hallowed.2)
  | stopCollector => exact .inl (Except.ok.inj hstep ▸ .stopCollector hallowed.1 hallowed.2)
  | connectorConnects =>
      exact .inr (.inl ⟨_, .connect hallowed, (Except.ok.inj hstep).symm⟩)
  | connectorSubscribed =>
      exact .inr (.inl ⟨_, .subscribe hallowed, (Except.ok.inj hstep).symm⟩)
  | connectorRound input =>
      rw [step] at hstep
      cases hround : t.connector.round (connectorBody settings) input with
      | error halt =>
          rw [hround] at hstep
          cases hstep
      | ok connector =>
          rw [hround] at hstep
          exact .inr (.inl ⟨_, .round hallowed hround, (Except.ok.inj hstep).symm⟩)
  | connectorChanged action =>
      rw [step] at hstep
      cases hchange : t.connector.state.step settings action with
      | error halt =>
          rw [hchange] at hstep
          cases hstep
      | ok state =>
          rw [hchange] at hstep
          obtain ⟨hinv, hrunning⟩ := inv_of_changes h.connector.inv hallowed hchange
          exact .inr (.inl ⟨_, .changed (fun _ => hinv) hrunning, (Except.ok.inj hstep).symm⟩)
  | collectorConnects =>
      exact .inr (.inr (.inl ⟨_, .connect hallowed, (Except.ok.inj hstep).symm⟩))
  | collectorSubscribed =>
      exact .inr (.inr (.inl ⟨_, .subscribe hallowed, (Except.ok.inj hstep).symm⟩))
  | collectorRound pass =>
      rw [step] at hstep
      cases hround : t.collector.round collectorBody pass with
      | error exception =>
          rw [hround] at hstep
          cases hstep
      | ok collector =>
          rw [hround] at hstep
          exact .inr (.inr (.inl ⟨_, .round hallowed hround, (Except.ok.inj hstep).symm⟩))
  | publisher action =>
      rw [step] at hstep
      cases hpublisher : t.publisher.step sessionId action with
      | error fault =>
          rw [hpublisher] at hstep
          cases hstep
      | ok publisher =>
          rw [hpublisher] at hstep
          exact .inr (.inr (.inr ⟨action, publisher, hallowed.1, hallowed.2, hpublisher,
            (Except.ok.inj hstep).symm⟩))

/-- **Every step of the main thread** keeps what holds of the threads. -/
theorem Sound.mainStep (h : t.Sound settings sessionId) {next : WebXTransport}
    (hstep : MainStep settings t next) : next.Sound settings sessionId := by
  cases hstep with
  | runConnector hmain => exact h.start.1 hmain
  | runPublisher hmain => exact h.start.2.1 hmain
  | runCollector hmain => exact h.start.2.2 hmain
  | sendShutdown hsent => exact h.sendShutdown hsent
  | stopConnector hmain hleft => exact h.stop.1 hmain hleft
  | stopPublisher hmain => exact h.stop.2.1 hmain
  | publisherStopped hmain hidle => exact h.stop.2.2.1 hmain hidle
  | stopCollector hmain hleft => exact h.stop.2.2.2 hmain hleft

/-- **A step keeps what holds of the transport.** -/
theorem Sound.step (h : t.Sound settings sessionId) {action : TransportAction}
    (hallowed : t.Allowed settings action) {next : WebXTransport}
    (hstep : t.step settings sessionId action = .ok next) : next.Sound settings sessionId := by
  rcases step_cases h hallowed hstep with hmain | ⟨connector, hconnector, rfl⟩ |
    ⟨collector, hcollector, rfl⟩ | ⟨action, publisher, hgoes, hpublisher, hstep', rfl⟩
  · exact h.mainStep hmain
  · exact h.withConnector (hconnector.sound h.connector) hconnector.place
  · exact h.withCollector (hcollector.sound h.collector) hcollector.place
  · exact h.withPublisher hgoes hpublisher hstep'

/-- What holds of the threads holds after every run. -/
theorem sound_of_reached {publisherPort collectorPort : ℤ} {id : List UInt8}
    {actions : List TransportAction}
    (hrun : Run (step settings sessionId) (Allowed settings) (new publisherPort collectorPort id)
      actions t) : t.Sound settings sessionId :=
  hrun.invariant (fun _ _ _ h hallowed hstep => h.step hallowed hstep)
    (sound_new publisherPort collectorPort id)

/-! ## Threads that do not hear the event -/

/-- The main thread waits for a thread that does not end, or will wait for it. -/
def Stuck (t : WebXTransport) : Prop :=
  t.main = .told ∧ t.connector.Deaf ∨
    t.main.sent = true ∧ t.main ≠ .stopped ∧ t.collector.Deaf

/-- **A transport that is stuck stays so.** -/
theorem Stuck.step (hstuck : t.Stuck) (h : t.Sound settings sessionId) {action : TransportAction}
    (hallowed : t.Allowed settings action) {next : WebXTransport}
    (hstep : t.step settings sessionId action = .ok next) : next.Stuck := by
  rcases step_cases h hallowed hstep with hmain | ⟨connector, hconnector, rfl⟩ |
    ⟨collector, hcollector, rfl⟩ | ⟨action, publisher, hgoes, hpublisher, hstep', rfl⟩
  · have hsent : t.main.sent = true := by
      rcases hstuck with ⟨htold, -⟩ | ⟨hsent, -⟩
      · rw [htold]
        rfl
      · exact hsent
    cases hmain with
    | runConnector hplace | runPublisher hplace | runCollector hplace =>
        rw [hplace] at hsent
        cases hsent
    | sendShutdown hnot =>
        rw [hnot] at hsent
        cases hsent
    | stopConnector hplace hleft =>
        rcases hstuck with ⟨-, hdeaf⟩ | ⟨-, -, hdeaf⟩
        · exact absurd hleft hdeaf.not_left
        · exact .inr ⟨rfl, by simp, hdeaf⟩
    | stopPublisher hplace | publisherStopped hplace hidle =>
        rcases hstuck with ⟨htold, -⟩ | ⟨-, -, hdeaf⟩
        · rw [hplace] at htold
          cases htold
        · exact .inr ⟨rfl, by simp, hdeaf⟩
    | stopCollector hplace hleft =>
        rcases hstuck with ⟨htold, -⟩ | ⟨-, -, hdeaf⟩
        · rw [hplace] at htold
          cases htold
        · exact absurd hleft hdeaf.not_left
  · exact hstuck.imp_left fun ⟨htold, hdeaf⟩ => ⟨htold, hconnector.deaf h.connector hdeaf⟩
  · exact hstuck.imp_right fun ⟨hsent, hnot, hdeaf⟩ =>
      ⟨hsent, hnot, hcollector.deaf h.collector hdeaf⟩
  · exact hstuck

/-- **The stop stays stuck**, whatever the threads do. -/
theorem Stuck.of_run (hstuck : t.Stuck) (h : t.Sound settings sessionId) {actions : List TransportAction}
    {u : WebXTransport} (hrun : Run (WebXTransport.step settings sessionId) (Allowed settings) t actions u) :
    u.Sound settings sessionId ∧ u.Stuck :=
  hrun.invariant (P := fun u => u.Sound settings sessionId ∧ u.Stuck)
    (fun _ _ _ hu hallowed hstep => ⟨hu.1.step hallowed hstep, hu.2.step hu.1 hallowed hstep⟩)
    ⟨h, hstuck⟩

/-! ## Threads that hear the event -/

/-- Both loops can end after the event was sent. -/
structure Hearing (settings : WebXSettings) (t : WebXTransport) : Prop where
  sent : t.main.sent = true
  connector : t.connector.Hears (connectorBody settings)
  collector : t.collector.Hears collectorBody

/-- **A step keeps the loops hearing.** -/
theorem Hearing.step (hhearing : t.Hearing settings) (h : t.Sound settings sessionId)
    {action : TransportAction} (hallowed : t.Allowed settings action) {next : WebXTransport}
    (hstep : t.step settings sessionId action = .ok next) : next.Hearing settings := by
  rcases step_cases h hallowed hstep with hmain | ⟨connector, hconnector, rfl⟩ |
    ⟨collector, hcollector, rfl⟩ | ⟨action, publisher, hgoes, hpublisher, hstep', rfl⟩
  · have hsent := hhearing.sent
    cases hmain with
    | runConnector hplace | runPublisher hplace | runCollector hplace =>
        rw [hplace] at hsent
        cases hsent
    | sendShutdown hnot =>
        rw [hnot] at hsent
        cases hsent
    | stopConnector hplace hleft => exact ⟨rfl, .inl (left_join t.connector), hhearing.collector⟩
    | stopPublisher hplace | publisherStopped hplace hidle =>
        exact ⟨rfl, hhearing.connector, hhearing.collector⟩
    | stopCollector hplace hleft => exact ⟨rfl, hhearing.connector, .inl (left_join t.collector)⟩
  · exact ⟨hhearing.sent, hconnector.hears h.connector hhearing.connector, hhearing.collector⟩
  · exact ⟨hhearing.sent, hhearing.connector, hcollector.hears h.collector hhearing.collector⟩
  · exact ⟨hhearing.sent, hhearing.connector, hhearing.collector⟩

/-- Loops that can hear the event hear it after every run. -/
theorem Hearing.of_run (hhearing : t.Hearing settings) (h : t.Sound settings sessionId)
    {actions : List TransportAction} {u : WebXTransport}
    (hrun : Run (WebXTransport.step settings sessionId) (Allowed settings) t actions u) :
    u.Sound settings sessionId ∧ u.Hearing settings :=
  hrun.invariant (P := fun u => u.Sound settings sessionId ∧ u.Hearing settings)
    (fun _ _ _ hu hallowed hstep => ⟨hu.1.step hallowed hstep, hu.2.step hu.1 hallowed hstep⟩)
    ⟨h, hhearing⟩

/-- The rounds that a thread has to make. -/
def roundsLeft {S Event : Type*} (loop : BusLoop S Event) : ℕ := if loop.Left then 0 else 1

/-- The steps that the stop of the publisher has to make. -/
def publisherLeft (p : Publisher) : ℕ :=
  match p.stage with
  | .idle => 0
  | .joining => 1 + p.stepsLeft
  | .cleared => 5

/-- How far the stop is from its end. -/
def rank (t : WebXTransport) : ℕ :=
  match t.main with
  | .told => 40 + roundsLeft t.connector
  | .connectorStopped => 30
  | .publisherStopping => 20 + publisherLeft t.publisher
  | .publisherStopped => 10 + roundsLeft t.collector
  | .created | .connectorRuns | .publisherRuns | .running | .stopped => 0

/-- A thread has one round to make at most. -/
theorem roundsLeft_le {S Event : Type*} (loop : BusLoop S Event) : roundsLeft loop ≤ 1 := by
  rw [roundsLeft]
  split_ifs <;> decide

/-- The stop of the publisher goes on. -/
theorem exists_publisher_step {p : Publisher} (h : p.Sound sessionId) (hstage : p.stage ≠ .idle) :
    ∃ action publisher, goesOn action = true ∧ p.Allowed action ∧
      p.step sessionId action = .ok publisher ∧
      publisherLeft publisher < publisherLeft p := by
  cases hplace : p.stage with
  | idle => exact absurd hplace hstage
  | cleared =>
      refine ⟨.stopQueue, _, rfl, hplace, rfl, ?_⟩
      have hstopped : publisherLeft p.stopQueue ≤ 4 := by
        rw [Publisher.stopQueue]
        split
        · exact Nat.zero_le 4
        · exact Nat.add_le_add_left (Publisher.stepsLeft_le _) 1
      rw [publisherLeft.eq_def p, hplace]
      exact Nat.lt_succ_of_le hstopped
  | joining =>
      by_cases hended : p.place = .ended
      · refine ⟨.join, _, rfl, ⟨hplace, hended⟩, rfl, ?_⟩
        rw [publisherLeft.eq_def p, hplace]
        exact Nat.lt_of_lt_of_le Nat.zero_lt_one (Nat.le_add_right 1 _)
      · obtain ⟨action, hthread, hallowed, next, hstep⟩ := h.exists_step_of_joining hplace hended
        have hjoin : action ≠ .join := by
          rintro rfl
          cases hthread
        obtain ⟨hnext, hle⟩ := h.step_joining hplace hallowed hjoin hstep
        have hgoes : goesOn action = true := by
          cases action <;> first | rfl | cases hthread
        refine ⟨action, next, hgoes, hallowed, hstep, ?_⟩
        rw [hthread, Bool.toNat_true] at hle
        rw [publisherLeft.eq_def p, publisherLeft, hplace, hnext]
        dsimp only
        omega

/-- **The stop is never blocked** when the loops hear the event. -/
theorem Hearing.progress (hhearing : t.Hearing settings) (h : t.Sound settings sessionId)
    (hmain : t.main ≠ .stopped) : ∃ action next, t.Allowed settings action ∧
      t.step settings sessionId action = .ok next ∧ next.rank < t.rank := by
  obtain ⟨main, connector, publisher, collector⟩ := t
  have hsent : main.sent = true := hhearing.sent
  cases main with
  | created | connectorRuns | publisherRuns | running => cases hsent
  | stopped => exact absurd rfl hmain
  | told =>
      by_cases hleft : connector.Left
      · refine ⟨.stopConnector, _, ⟨rfl, hleft⟩, rfl, ?_⟩
        exact Nat.lt_of_lt_of_le (by decide : 30 < 40) (Nat.le_add_right 40 _)
      · obtain ⟨-, input, next, hallowed, hround, hended⟩ :=
          hhearing.connector.exists_round h.connector hleft
        refine ⟨.connectorRound input, _, hallowed, by rw [WebXTransport.step, hround]; rfl, ?_⟩
        simp [rank, roundsLeft, hended, hleft]
  | connectorStopped => exact ⟨.stopPublisher, _, rfl, rfl, (by decide : 20 + 5 < 30)⟩
  | publisherStopping =>
      by_cases hidle : publisher.stage = .idle
      · refine ⟨.publisherStopped, _, ⟨rfl, hidle⟩, rfl, ?_⟩
        have hrounds := roundsLeft_le collector
        simp only [rank]
        omega
      · obtain ⟨action, next, hgoes, hallowed, hstep, hlt⟩ :=
          exists_publisher_step h.publisher hidle
        refine ⟨.publisher action, _, ⟨hgoes, hallowed⟩,
          by rw [WebXTransport.step, hstep]; rfl, ?_⟩
        exact Nat.add_lt_add_left hlt 20
  | publisherStopped =>
      by_cases hleft : collector.Left
      · exact ⟨.stopCollector, _, ⟨rfl, hleft⟩, rfl, Nat.lt_of_lt_of_le (by decide : 0 < 10)
          (Nat.le_add_right 10 _)⟩
      · obtain ⟨-, pass, next, hallowed, hround, hended⟩ :=
          hhearing.collector.exists_round h.collector hleft
        refine ⟨.collectorRound pass, _, hallowed, by rw [WebXTransport.step, hround]; rfl, ?_⟩
        simp [rank, roundsLeft, hended, hleft]

/-- **The stop returns exactly when each loop has subscribed before it**: it can return from every state
that follows, whatever the threads do, if the event bus knows the subscription of each loop that was
started when the event is sent; otherwise it never returns. When it has returned, no thread is left. -/
theorem stops_iff {publisherPort collectorPort : ℤ} {id : List UInt8}
    {actions actions' : List TransportAction} {s : WebXTransport}
    (hrun : Run (step settings sessionId) (Allowed settings) (new publisherPort collectorPort id)
      actions s)
    (hmain : s.main = .created ∨ s.main = .running)
    (hrun' : Run (step settings sessionId) (Allowed settings) (s.sendShutdown settings) actions' t) :
    ((∃ actions u, Run (step settings sessionId) (Allowed settings) t actions u ∧ u.main = .stopped) ↔
      (s.connector.place = .absent ∨ s.connector.subscribed = true) ∧
        (s.collector.place = .absent ∨ s.collector.subscribed = true)) ∧
    (t.main = .stopped →
      t.connector.Left ∧ t.publisher.place = .absent ∧ t.collector.Left) := by
  have hs := sound_of_reached hrun
  have hsent : s.main.sent = false := by
    rcases hmain with hmain | hmain <;> rw [hmain] <;> rfl
  have hsend := hs.sendShutdown hsent
  have ht : t.Sound settings sessionId :=
    hrun'.invariant (fun _ _ _ h hallowed hstep => h.step hallowed hstep) hsend
  refine ⟨⟨?_, ?_⟩, fun hstopped => ⟨ht.connectorGone (by simp [hstopped]), ?_,
    ht.collectorGone hstopped⟩⟩
  · rintro ⟨actions'', u, hrun'', hstopped⟩
    -- a loop that has not subscribed keeps the transport stuck
    have hnever : ¬ (s.sendShutdown settings).Stuck := by
      intro hstuck
      obtain ⟨ht, hstuck⟩ := hstuck.of_run hsend hrun'
      obtain ⟨-, hu⟩ := hstuck.of_run ht hrun''
      rcases hu with ⟨htold, -⟩ | ⟨-, hnot, -⟩
      · rw [hstopped] at htold
        cases htold
      · exact hnot hstopped
    constructor
    · by_contra hnot
      rw [not_or] at hnot
      exact hnever (.inl ⟨rfl, BusLoop.Sound.deaf_deliver (hsent ▸ hs.connector) hnot.1 hnot.2⟩)
    · by_contra hnot
      rw [not_or] at hnot
      exact hnever (.inr ⟨rfl, by simp [sendShutdown],
        BusLoop.Sound.deaf_deliver (hsent ▸ hs.collector) hnot.1 hnot.2⟩)
  · rintro ⟨hconnector, hcollector⟩
    have hhearing : (s.sendShutdown settings).Hearing settings :=
      ⟨rfl, BusLoop.Sound.hears_deliver (hsent ▸ hs.connector) hconnector,
        BusLoop.Sound.hears_deliver (hsent ▸ hs.collector) hcollector⟩
    refine Run.exists_of_rank rank
      (fun r (hr : r.Sound settings sessionId ∧ r.Hearing settings) hnot => ?_) t
      (hhearing.of_run hsend hrun')
    obtain ⟨action, next, hallowed, hstep, hlt⟩ := hr.2.progress hr.1 hnot
    exact ⟨action, next, hallowed, hstep,
      ⟨hr.1.step hallowed hstep, hr.2.step hr.1 hallowed hstep⟩, hlt⟩
  · -- a publisher that is not being stopped, and does not run, has no thread
    by_contra hplace
    have hruns := ht.publisher.runs (ht.idle (by simp [hstopped])) hplace
    rw [ht.publisherOff (by simp [hstopped])] at hruns
    cases hruns

/-- The engine is stopped before the instruction subscriber has made its sockets. -/
theorem stops_iff_early : ∃ s : WebXTransport, s.main = .running ∧
    ¬ ∃ actions u, Run (step .default (Vector.replicate 16 0)) (Allowed .default)
      (s.sendShutdown .default) actions u ∧ u.main = .stopped := by
  have hrun : Run (step .default (Vector.replicate 16 0)) (Allowed .default) (new 5555 5556 [])
      [.runConnector, .connectorConnects, .connectorSubscribed, .runPublisher, .runCollector] _ :=
    .cons rfl rfl (.cons rfl rfl (.cons rfl rfl (.cons rfl rfl (.single rfl rfl))))
  have hstops := (stops_iff hrun (.inr rfl) (.nil _)).1
  have hunknown (h : LoopPlace.starting = .absent ∨ false = true) : False := by
    rcases h with h | h <;> cases h
  exact ⟨_, rfl, fun hreturns => hunknown (hstops.mp hreturns).2⟩

end WebXTransport

end WebXEngine
