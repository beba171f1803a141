import WebXEngine.Controller.RegistryClients
import WebXEngine.Utils.StringUtils

/-! # The connector of the clients

The thread that answers the requests of clients to connect and to disconnect. Its socket must be
received from and sent to in turns, which the state of the socket follows; a request that no branch
replies to, or that leaves by an exception, gets an empty reply at the end of the loop. The registry
is only used under its mutex, by this thread and by others.

* **`ConnectorState.mainLoop`** — one round of the loop.
* **`ConnectorAction`**, **`ConnectorState.step`** — the rounds, and what other threads do between them.
* **`connectorProtocol`** — each request gets exactly one reply, and few of them change the registry. -/

namespace WebXEngine

open WebXStringUtils

/-! ## The version of a client -/

namespace WebXVersion

/-- One component: a number that takes the whole part. -/
def parsePart (part : List UInt8) : Option UInt32 :=
  (stoi part).bind fun parsed =>
    if parsed.2 ≠ part.length ∨ parsed.1 < 0 then none else some parsed.1.toNat.toUInt32

/-- A version that cannot be parsed has the number 0.0.0. -/
def parseAll (versionStr : List UInt8) : WebXVersion :=
  match (split versionStr 46).map parsePart with
  | [some major, some minor, some patch] => ⟨major, minor, patch⟩
  | _ => ⟨0, 0, 0⟩

end WebXVersion

/-! ## The connector -/

/-- What the socket waits for. -/
inductive SocketState
  | waitingRecv
  | waitingSend
  deriving DecidableEq, Repr

/-- The fields of the connector. -/
structure WebXClientConnector where
  publisherPort : ℤ
  collectorPort : ℤ
  sessionId : List UInt8
  socketState : SocketState
  deriving DecidableEq, Repr

/-- The functions of the gateway, which are those of the registry when they are set. -/
structure WebXGateway where
  clientConnectFunc : Bool
  clientDisconnectFunc : Bool
  deriving DecidableEq, Repr

/-- What went through the socket of the clients. -/
inductive SocketEvent
  | received (request : List UInt8)
  | sent (messageText : List UInt8)
  deriving DecidableEq, Repr

/-- The numbers that are drawn for the identifier of a client: a generator that draws long enough
draws more than 64 different ones. -/
structure RandomNumbers where
  draws : List UInt32
  many : 64 < draws.toFinset.card

/-- Receiving, which waits for a message: it returns one or throws. -/
inductive Recv
  | message (data : List UInt8)
  | error
  deriving DecidableEq, Repr

/-- What polling the two sockets returns: it throws, or some of them have a message. -/
inductive Poll
  | error
  | ready (eventBus clientResponder : Option Recv)
  deriving DecidableEq, Repr

/-- What a round of the loop takes from outside. -/
structure ConnectorInput where
  poll : Poll
  numbers : RandomNumbers
  now : Time

/-- Why the thread can stop in a round of the loop. -/
inductive ConnectorHalt
  | exit
  | drawing
  | fault (fault : Fault)
  deriving DecidableEq, Repr

/-- The connector, its surroundings, and what went through its socket. -/
structure ConnectorState where
  connector : WebXClientConnector
  gateway : WebXGateway
  registryState : RegistryState
  running : Bool
  events : List SocketEvent

namespace ConnectorState

/-- A connector at the start of the engine. -/
def init (publisherPort collectorPort : ℤ) (sessionId : List UInt8) : ConnectorState where
  connector := ⟨publisherPort, collectorPort, sessionId, .waitingRecv⟩
  gateway := ⟨true, true⟩
  registryState := .init
  running := true
  events := []

variable (settings : WebXSettings) (state : ConnectorState) (input : ConnectorInput)

/-- Sends a reply. -/
def sendMessage (messageText : List UInt8) : ConnectorState :=
  { state with
    connector := { state.connector with socketState := .waitingRecv }
    events := state.events ++ [.sent messageText] }

/-- Receives a request. -/
def receive (request : List UInt8) : ConnectorState :=
  { state with
    connector := { state.connector with socketState := .waitingSend }
    events := state.events ++ [.received request] }

/-- Changes the registry. -/
def withRegistry (registry : WebXClientRegistry) : ConnectorState :=
  { state with registryState := { state.registryState with registry := registry } }

/-- The function of the gateway that adds a client. -/
def onClientConnect (clientVersion : WebXVersion) :
    Except ConnectorHalt (Except String (UInt32 × UInt64) × ConnectorState) :=
  if state.gateway.clientConnectFunc then
    match state.registryState.registry.addClient settings clientVersion input.numbers.draws
        input.now with
    | some result => .ok (result.1, state.withRegistry result.2)
    | none => .error .drawing
  else .ok (.error "engine configuration error", state)

/-- The function of the gateway that removes a client. -/
def onClientDisconnect (clientId : UInt32) : Except String Unit × ConnectorState :=
  if state.gateway.clientDisconnectFunc then
    let result := state.registryState.registry.removeClient clientId
    (result.1, state.withRegistry result.2)
  else (.error "engine configuration error", state)

/-- The reply to a client that asked to connect. -/
def connectReply : Except String (UInt32 × UInt64) → List UInt8
  | .ok (id, index) => hexNumeral 8 id.toNat ++ ascii "," ++ hexNumeral 16 index.toNat
  | .error error => ascii error

/-- Connects a client. -/
def connectClient (sessionId : List UInt8) (clientVersion : WebXVersion) :
    Except ConnectorHalt (List UInt8 × ConnectorState) :=
  if sessionId = state.connector.sessionId then
    (state.onClientConnect settings input clientVersion).map fun result =>
      (connectReply result.1, result.2)
  else .ok (ascii "session id error", state)

/-- Disconnects a client; no reply when an exception leaves the function. -/
def disconnectClient (sessionId clientIdString : List UInt8) : Option (List UInt8) × ConnectorState :=
  if sessionId = state.connector.sessionId then
    match HexUtils.toUint32 clientIdString with
    | some (.ok clientId) =>
        let result := state.onClientDisconnect clientId
        match result.1 with
        | .ok () => (some (ascii "success"), result.2)
        | .error error => (some (ascii error), result.2)
    | some (.error _) => (some (ascii "client id is invalid"), state)
    | none => (none, state)
  else (some (ascii "session id error"), state)

/-- Sends a reply, when there is one. -/
def reply (result : Option (List UInt8) × ConnectorState) : ConnectorState :=
  result.1.elim result.2 result.2.sendMessage

/-- The reply to a ping that has the identifier of a session. -/
def pingReply (sessionId : List UInt8) : List UInt8 :=
  if sessionId ≠ state.connector.sessionId then
    ascii "pang," ++ sessionId ++ ascii ",Invalid session Id"
  else ascii "pong," ++ sessionId

/-- The branches for the requests; no branch replies to an unknown one. -/
def handleInstruction (instruction : List UInt8) : Except ConnectorHalt ConnectorState :=
  let elements := split instruction 44
  if instruction = ascii "comm" then
    .ok (state.sendMessage (ascii (toString state.connector.publisherPort) ++ ascii "," ++
      ascii (toString state.connector.collectorPort)))
  else if (ascii "ping").isPrefixOf instruction then
    match elements[1]? with
    | none => .ok (state.sendMessage (ascii "pong"))
    | some sessionId => .ok (state.sendMessage (state.pingReply sessionId))
  else if (ascii "connect").isPrefixOf instruction then
    match elements[1]? with
    | none => .ok (state.sendMessage (ascii "invalid connect command"))
    | some sessionId =>
        let clientVersion := (elements[2]?).elim ⟨0, 0, 0⟩ WebXVersion.parseAll
        (state.connectClient settings input sessionId clientVersion).map fun result =>
          result.2.sendMessage result.1
  else if (ascii "disconnect").isPrefixOf instruction then
    match elements[1]?, elements[2]? with
    | some sessionId, some clientIdString =>
        .ok (reply (state.disconnectClient sessionId clientIdString))
    | _, _ => .ok (state.sendMessage (ascii "invalid disconnect command"))
  else .ok state

/-- The message of the event bus; none when receiving it throws. -/
def handleEvent : Option Recv → Option ConnectorState
  | none => some state
  | some (.message event) =>
      some (if event = ascii "shutdown" then { state with running := false } else state)
  | some .error => none

/-- The message of a client. An exception ends the block in the state it is thrown in. -/
def handleClientResponder : Option Recv → Except ConnectorHalt ConnectorState
  | some (.message request) =>
      if state.running then (state.receive request).handleInstruction settings input request
      else .ok state
  | _ => .ok state

/-- The block in which exceptions are caught. -/
def tryBlock : Except ConnectorHalt ConnectorState :=
  match input.poll with
  | .error => .ok state
  | .ready eventBus clientResponder =>
      match state.handleEvent eventBus with
      | none => .ok state
      | some state =>
          if state.connector.socketState ≠ .waitingRecv then .error .exit
          else state.handleClientResponder settings input clientResponder

/-- One round of the loop. -/
def mainLoop : Except ConnectorHalt ConnectorState :=
  (state.tryBlock settings input).map fun state =>
    if state.connector.socketState = .waitingSend ∧ state.running then state.sendMessage [] else state

end ConnectorState

/-- A round of the loop, or what other threads do between the rounds: a call made to the registry, and
setting or removing the functions of the gateway. -/
inductive ConnectorAction
  | poll (input : ConnectorInput)
  | registry (op : RegistryOp)
  | gateway (gateway : WebXGateway)

/-- One action; the loop has ended when it is not running. -/
def ConnectorState.step (settings : WebXSettings) (state : ConnectorState) :
    ConnectorAction → Except ConnectorHalt ConnectorState
  | .poll input => if state.running then state.mainLoop settings input else .ok state
  | .registry op =>
      match state.registryState.step settings op with
      | .ok registryState => .ok { state with registryState := registryState }
      | .error fault => .error (.fault fault)
  | .gateway gateway => .ok { state with gateway := gateway }

namespace ConnectorState

variable {settings : WebXSettings} {state : ConnectorState} {input : ConnectorInput}

/-! ## What is done with a request -/

/-- The elements of a request. -/
def elements (request : List UInt8) : List (List UInt8) := split request 44

/-- What is made of a request: the text that is replied with, and a new registry. -/
structure Handles (state : ConnectorState) (request reply : List UInt8)
    (registry : WebXClientRegistry) : Prop where
  /-- The registry only changes when a client of the session connects or disconnects. -/
  changes : registry ≠ state.registryState.registry →
    (ascii "connect" <+: request ∨ ascii "disconnect" <+: request ∧ 3 ≤ (elements request).length) ∧
      (elements request)[1]? = some state.connector.sessionId
  /-- A client of the session that connects is added, or told why not. -/
  connects : ascii "connect" <+: request →
    (elements request)[1]? = some state.connector.sessionId →
      (∃ client, registry.clients = state.registryState.registry.clients ++ [client] ∧
        state.registryState.registry.getClientById client.id = none ∧
        reply = hexNumeral 8 client.id.toNat ++ ascii "," ++ hexNumeral 16 client.index.toNat) ∨
      ∃ error ∈ ["no client indices available", "engine configuration error"],
        reply = ascii error ∧ registry = state.registryState.registry

/-- A request that is not about connecting leaves the registry as it is. -/
theorem Handles.of_not_connect {request : List UInt8} (h : ¬ ascii "connect" <+: request)
    (reply : List UInt8) : state.Handles request reply state.registryState.registry where
  changes := fun hne => absurd rfl hne
  connects := fun hconnect => absurd hconnect h

/-- So does one that is not of the session. -/
theorem Handles.of_other_session {request : List UInt8}
    (h : (elements request)[1]? ≠ some state.connector.sessionId) (reply : List UInt8) :
    state.Handles request reply state.registryState.registry where
  changes := fun hne => absurd rfl hne
  connects := fun _ hsession => absurd hsession h

/-- Connecting a client. -/
theorem connectClient_spec (hinv : state.registryState.registry.Inv) {request sessionId : List UInt8}
    (hconnect : ascii "connect" <+: request) (hsession : (elements request)[1]? = some sessionId)
    (clientVersion : WebXVersion) :
    ∃ text registry, state.connectClient settings input sessionId clientVersion =
        .ok (text, state.withRegistry registry) ∧ registry.Inv ∧
      state.Handles request text registry := by
  rw [connectClient]
  split_ifs with hid
  · subst hid
    rw [onClientConnect]
    split_ifs with hset
    · rcases hinv.addClient_cases clientVersion input.numbers.many input.now with
        hadd | ⟨client, registry', hadd, hclients, hnew⟩
      · refine ⟨_, _, by rw [hadd]; rfl, hinv, ?_⟩
        -- all bits are taken, and the client is told so
        exact ⟨fun hne => absurd rfl hne, fun _ _ => .inr ⟨_, List.mem_cons_self, rfl, rfl⟩⟩
      · refine ⟨_, registry', by rw [hadd]; rfl, hinv.addClient hadd, ?_⟩
        exact ⟨fun _ => ⟨.inl hconnect, hsession⟩, fun _ _ => .inl ⟨client, hclients, hnew, rfl⟩⟩
    -- nothing is set up to accept clients
    · refine ⟨_, state.registryState.registry, rfl, hinv, fun hne => absurd rfl hne,
        fun _ _ => .inr ?_⟩
      exact ⟨_, List.mem_cons_of_mem _ List.mem_cons_self, rfl, rfl⟩
  · refine ⟨_, state.registryState.registry, rfl, hinv, Handles.of_other_session ?_ _⟩
    rw [hsession, ne_eq, Option.some.injEq]
    exact hid

/-- The function of the gateway that removes a client only changes the registry. -/
theorem onClientDisconnect_spec (hinv : state.registryState.registry.Inv) (clientId : UInt32) :
    ∃ result registry, state.onClientDisconnect clientId = (result, state.withRegistry registry) ∧
      registry.Inv := by
  rw [onClientDisconnect]
  split_ifs
  · exact ⟨_, _, rfl, hinv.removeClient clientId⟩
  · exact ⟨_, state.registryState.registry, rfl, hinv⟩

/-- Disconnecting a client. -/
theorem disconnectClient_spec (hinv : state.registryState.registry.Inv)
    {request sessionId clientIdString : List UInt8}
    (hdisconnect : ascii "disconnect" <+: request) (hconnect : ¬ ascii "connect" <+: request)
    (hsession : (elements request)[1]? = some sessionId)
    (hid : (elements request)[2]? = some clientIdString) :
    ∃ text registry, state.disconnectClient sessionId clientIdString =
        (text, state.withRegistry registry) ∧ registry.Inv ∧
      state.Handles request (text.getD []) registry := by
  have hlength : 3 ≤ (elements request).length := (List.getElem?_eq_some_iff.mp hid).1
  rw [disconnectClient]
  split_ifs with hsame
  · subst hsame
    have hhandles (reply : List UInt8) (registry : WebXClientRegistry) :
        state.Handles request reply registry :=
      ⟨fun _ => ⟨.inr ⟨hdisconnect, hlength⟩, hsession⟩, fun h => absurd h hconnect⟩
    cases HexUtils.toUint32 clientIdString with
    | none => exact ⟨_, state.registryState.registry, rfl, hinv, hhandles _ _⟩
    | some result =>
        cases result with
        | error error => exact ⟨_, state.registryState.registry, rfl, hinv, hhandles _ _⟩
        | ok clientId =>
            obtain ⟨result, registry, hresult, hinv'⟩ := onClientDisconnect_spec hinv clientId
            dsimp only
            rw [hresult]
            cases result <;> exact ⟨_, _, rfl, hinv', hhandles _ _⟩
  · exact ⟨_, state.registryState.registry, rfl, hinv, Handles.of_not_connect hconnect _⟩

/-- The commands are different. -/
theorem not_connect_of_prefix {command request : List UInt8} (hcommand : command <+: request)
    (hhead : command.head? ≠ some 99) (hnil : command ≠ []) : ¬ ascii "connect" <+: request := by
  rintro ⟨rest, rfl⟩
  obtain ⟨after, happend⟩ := hcommand
  obtain ⟨c, command, rfl⟩ := List.exists_cons_of_ne_nil hnil
  have hc := congrArg List.head? happend
  exact hhead hc

/-- **What is done with a request**: there is a reply, or it is left to the end of the loop, and the
registry may change. -/
theorem handleInstruction_spec (hinv : state.registryState.registry.Inv) (request : List UInt8) :
    ∃ text registry, state.handleInstruction settings input request =
        .ok (reply (text, state.withRegistry registry)) ∧ registry.Inv ∧
      state.Handles request (text.getD []) registry := by
  rw [handleInstruction]
  split_ifs with hcomm hping hconnect hdisconnect
  -- a request for the ports is no request for a connection
  · refine ⟨some _, state.registryState.registry, rfl, hinv, Handles.of_not_connect ?_ _⟩
    rw [hcomm]
    decide
  · rw [List.isPrefixOf_iff_prefix] at hping
    have hnot := not_connect_of_prefix hping (by decide) (by decide)
    cases (split request 44)[1]? <;>
      exact ⟨some _, state.registryState.registry, rfl, hinv, Handles.of_not_connect hnot _⟩
  · rw [List.isPrefixOf_iff_prefix] at hconnect
    cases hsession : (split request 44)[1]? with
    | none =>
        -- a request without a session
        refine ⟨some _, state.registryState.registry, rfl, hinv, Handles.of_other_session ?_ _⟩
        rw [elements, hsession]
        exact Option.some_ne_none _ ∘ Eq.symm
    | some sessionId =>
        obtain ⟨text, registry, heq, hinv', hhandles⟩ := connectClient_spec hinv hconnect hsession
          ((split request 44)[2]?.elim ⟨0, 0, 0⟩ WebXVersion.parseAll)
        exact ⟨some text, registry, by dsimp only; rw [heq]; rfl, hinv', hhandles⟩
  · rw [List.isPrefixOf_iff_prefix] at hconnect hdisconnect
    cases hsession : (split request 44)[1]? with
    | none =>
        exact ⟨some _, state.registryState.registry, rfl, hinv, Handles.of_not_connect hconnect _⟩
    | some sessionId =>
        cases hid : (split request 44)[2]? with
        | none =>
            exact ⟨some _, state.registryState.registry, rfl, hinv, Handles.of_not_connect hconnect _⟩
        | some clientIdString =>
            obtain ⟨text, registry, heq, hinv', hhandles⟩ :=
              disconnectClient_spec hinv hdisconnect hconnect hsession hid
            exact ⟨text, registry, by dsimp only; rw [heq], hinv', hhandles⟩
  · rw [List.isPrefixOf_iff_prefix] at hconnect
    exact ⟨none, state.registryState.registry, rfl, hinv, Handles.of_not_connect hconnect _⟩

/-! ## The rounds of the loop -/

end ConnectorState

/-- The request that is received in a round. -/
def Poll.request : Poll → Option (List UInt8)
  | .ready eventBus (some (.message request)) =>
      if eventBus = some .error ∨ eventBus = some (.message (ascii "shutdown")) then none
      else some request
  | _ => none

namespace ConnectorState

/-- A request is received and gets one reply. -/
structure Answers (state state' : ConnectorState) (request reply : List UInt8) : Prop where
  connector : state'.connector = state.connector
  events : state'.events = state.events ++ [.received request, .sent reply]
  handles : state.Handles request reply state'.registryState.registry

/-- Between two rounds, the socket waits for a request. -/
structure Inv (state : ConnectorState) : Prop where
  registry : state.registryState.registry.Inv
  socket : state.connector.socketState = .waitingRecv

/-- An event that is received and is not the shutdown changes nothing. -/
theorem handleEvent_eq_self (state : ConnectorState) {eventBus : Option Recv}
    (herror : eventBus ≠ some .error) (hshutdown : eventBus ≠ some (.message (ascii "shutdown"))) :
    state.handleEvent eventBus = some state := by
  cases eventBus with
  | none => rfl
  | some event =>
      cases event with
      | error => exact absurd rfl herror
      | message event =>
          exact congrArg some (if_neg fun heq => hshutdown (by rw [heq]))

/-- A round that receives a request. -/
theorem mainLoop_of_request (h : Inv state) (hrunning : state.running = true) {request : List UInt8}
    (hrequest : input.poll.request = some request) :
    ∃ state' reply, state.mainLoop settings input = .ok state' ∧ state'.Inv ∧
      state.Answers state' request reply := by
  obtain ⟨text, registry, heq, hinv, hhandles⟩ :=
    @handleInstruction_spec settings (state.receive request) input h.registry request
  have hblock : state.tryBlock settings input =
      .ok (reply (text, (state.receive request).withRegistry registry)) := by
    -- a poll with a request has no error, and no message that shuts the thread down
    rw [Poll.request.eq_def] at hrequest
    split at hrequest
    · rename_i eventBus request' hpoll
      rw [Option.ite_none_left_eq_some, not_or] at hrequest
      obtain ⟨⟨herror, hshutdown⟩, hsame⟩ := hrequest
      cases hsame
      rw [tryBlock, hpoll]
      dsimp only
      rw [state.handleEvent_eq_self herror hshutdown]
      dsimp only
      rw [if_neg (not_not.mpr h.socket), handleClientResponder, if_pos hrunning, heq]
    · cases hrequest
  refine ⟨((state.receive request).withRegistry registry).sendMessage (text.getD []), text.getD [],
    ?_, ⟨hinv, rfl⟩, ⟨?_, ?_, ⟨hhandles.changes, hhandles.connects⟩⟩⟩
  · rw [mainLoop, hblock]
    cases text with
    | none => exact congrArg Except.ok (if_pos ⟨rfl, hrunning⟩)
    | some text => exact congrArg Except.ok (if_neg fun hwaiting => by cases hwaiting.1)
  · rw [sendMessage, withRegistry, receive, ← h.socket]
  · exact List.append_assoc _ _ _

/-- A round that receives no request. -/
theorem mainLoop_of_none (h : Inv state) (hrequest : input.poll.request = none) :
    ∃ state', state.mainLoop settings input = .ok state' ∧ state'.Inv ∧
      state'.connector = state.connector ∧ state'.events = state.events ∧
      state'.registryState = state.registryState := by
  have hblock : ∃ running, state.tryBlock settings input = .ok { state with running := running } := by
    rw [tryBlock]
    cases hpoll : input.poll with
    | error => exact ⟨state.running, rfl⟩
    | ready eventBus clientResponder =>
        by_cases herror : eventBus = some .error
        · subst herror
          exact ⟨state.running, rfl⟩
        by_cases hshutdown : eventBus = some (.message (ascii "shutdown"))
        · -- the loop ends, and a request that waits is not received
          subst hshutdown
          have hevent : state.handleEvent (some (.message (ascii "shutdown"))) =
              some { state with running := false } := rfl
          refine ⟨false, ?_⟩
          dsimp only
          rw [hevent]
          dsimp only
          rw [if_neg (not_not.mpr h.socket), handleClientResponder.eq_def]
          split <;> rfl
        · have hnone : ∀ request, clientResponder ≠ some (.message request) := by
            rintro request rfl
            rw [hpoll, Poll.request, if_neg (not_or.mpr ⟨herror, hshutdown⟩)] at hrequest
            cases hrequest
          refine ⟨state.running, ?_⟩
          dsimp only
          rw [state.handleEvent_eq_self herror hshutdown]
          dsimp only
          rw [if_neg (not_not.mpr h.socket), handleClientResponder.eq_def]
          split
          · exact absurd rfl (hnone _)
          · rfl
  obtain ⟨running, hblock⟩ := hblock
  refine ⟨{ state with running := running }, ?_, ⟨h.registry, h.socket⟩, rfl, rfl, rfl⟩
  rw [mainLoop, hblock]
  refine congrArg Except.ok (if_neg fun hwaiting => ?_)
  rw [h.socket] at hwaiting
  cases hwaiting.1

/-- The requests were answered one after the other. -/
def Alternates (state : ConnectorState) : Prop :=
  ∃ exchanges : List (List UInt8 × List UInt8),
    state.events = exchanges.flatMap fun exchange => [.received exchange.1, .sent exchange.2]

/-- One more exchange. -/
theorem Alternates.of_answers (h : Alternates state) {state' : ConnectorState}
    {request reply : List UInt8} (hanswers : state.Answers state' request reply) :
    Alternates state' := by
  obtain ⟨exchanges, hevents⟩ := h
  refine ⟨exchanges ++ [(request, reply)], ?_⟩
  rw [hanswers.events, hevents, List.flatMap_append, List.flatMap_singleton]

/-- **Every action goes well**, keeps the identifier of the session, the invariant, and the requests
answered. -/
theorem step_spec (h : Inv state) (halternates : Alternates state) (action : ConnectorAction) :
    ∃ state', state.step settings action = .ok state' ∧ state'.Inv ∧ Alternates state' ∧
      state'.connector = state.connector := by
  obtain ⟨exchanges, hevents⟩ := id halternates
  cases action with
  | poll input =>
      rw [step]
      split_ifs with hrunning
      · cases hrequest : input.poll.request with
        | none =>
            -- without a request nothing is received or sent
            obtain ⟨state', heq, hinv, hconnector, hsame, -⟩ := mainLoop_of_none h hrequest
            exact ⟨state', heq, hinv, ⟨exchanges, hsame.trans hevents⟩, hconnector⟩
        | some request =>
            obtain ⟨state', reply, heq, hinv, hanswers⟩ := mainLoop_of_request h hrunning hrequest
            exact ⟨state', heq, hinv, halternates.of_answers hanswers, hanswers.connector⟩
      · exact ⟨state, rfl, h, halternates, rfl⟩
  | registry op =>
      obtain ⟨registryState, heq, hinv⟩ := RegistryState.inv_step settings state.registryState op
        h.registry
      refine ⟨{ state with registryState := registryState }, ?_, ⟨hinv, h.socket⟩,
        ⟨exchanges, hevents⟩, rfl⟩
      rw [step, heq]
  | gateway gateway =>
      exact ⟨{ state with gateway := gateway }, rfl, ⟨h.registry, h.socket⟩, ⟨exchanges, hevents⟩, rfl⟩

/-- How the connector serves the clients of a session. -/
structure Serves (settings : WebXSettings) (sessionId : List UInt8) (state : ConnectorState) :
    Prop where
  session : state.connector.sessionId = sessionId
  /-- Every request got one reply before the next was received. -/
  alternates : Alternates state
  /-- A round that receives a request ends after its reply. -/
  requests : state.running = true → ∀ input request, input.poll.request = some request →
    ∃ state' reply, state.step settings (.poll input) = .ok state' ∧
      state.Answers state' request reply
  /-- The other rounds neither send anything nor change the registry. -/
  others : ∀ input, (state.running = true → input.poll.request = none) →
    ∃ state', state.step settings (.poll input) = .ok state' ∧ state'.events = state.events ∧
      state'.registryState = state.registryState

/-- **A connector with the invariant serves its requests.** -/
theorem Inv.serves (h : Inv state) (halternates : Alternates state) :
    state.Serves settings state.connector.sessionId where
  session := rfl
  alternates := halternates
  requests := by
    intro hrunning input request hrequest
    obtain ⟨state', reply, heq, -, hanswers⟩ := mainLoop_of_request h hrunning hrequest
    exact ⟨state', reply, (if_pos hrunning).trans heq, hanswers⟩
  others := by
    intro input hnone
    by_cases hrunning : state.running = true
    · obtain ⟨state', heq, -, -, hevents, hregistry⟩ := mainLoop_of_none h (hnone hrunning)
      exact ⟨state', (if_pos hrunning).trans heq, hevents, hregistry⟩
    · exact ⟨state, if_neg hrunning, rfl, rfl⟩

end ConnectorState

/-- **The connector answers every request exactly once.** Whatever is received, and whatever other
threads do to the registry and the gateway in between, the loop goes on; each request gets one reply
before the next is received; the registry is only changed by the clients of the session that connect
or disconnect, and connecting either adds exactly one client, whose identifier and index are the
reply, or replies with an error and changes nothing. -/
theorem connectorProtocol (settings : WebXSettings) (publisherPort collectorPort : ℤ)
    (sessionId : List UInt8) (actions : List ConnectorAction) :
    ∃ state, actions.foldlM (ConnectorState.step settings)
        (.init publisherPort collectorPort sessionId) = .ok state ∧
      state.Serves settings sessionId := by
  let Kept (state : ConnectorState) : Prop :=
    state.Inv ∧ state.Alternates ∧ state.connector.sessionId = sessionId
  have hkeep : ∀ state action, Kept state →
      ∃ state', ConnectorState.step settings state action = .ok state' ∧ Kept state' := by
    rintro state action ⟨hinv, halternates, hsession⟩
    obtain ⟨state', heq, hinv', halternates', hconnector⟩ :=
      ConnectorState.step_spec hinv halternates action
    exact ⟨state', heq, hinv', halternates', by rw [hconnector, hsession]⟩
  have hinit : Kept (.init publisherPort collectorPort sessionId) :=
    ⟨⟨WebXClientRegistry.inv_create, rfl⟩, ⟨[], rfl⟩, rfl⟩
  obtain ⟨state, hrun, hinv, halternates, hsession⟩ := foldlM_of_invariant hkeep actions hinit
  exact ⟨state, hrun, hsession ▸ hinv.serves halternates⟩

end WebXEngine
