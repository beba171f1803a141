import WebXEngine.Controller.ClientGroup
import WebXEngine.Utils.Fault

/-! # The registry of clients

The clients of the engine and the groups they are in. A client is in the group of its quality, which
is created for its first client and deleted with its last one. All the functions of the registry hold
its mutex, so that they happen one after the other.

A function of the registry has one time. The source reads the clock again for each client and each
window that it creates or looks at, and those times differ by what the call itself takes.

* **`WebXClientRegistry`** — the clients, the groups and the messages sent.
* **`addClient`**, **`removeClient`**, **`setClientQuality`**, … — the functions of the registry.
* **`RegistryOp`**, **`RegistryState.step`** — the calls made to a registry, one after the other. -/

namespace WebXEngine

open BitMask

/-- The registry. A null pointer to a group or a client that is used without a test is a fault. -/
structure WebXClientRegistry where
  clientIndexMask : UInt64
  clients : List WebXClient
  groups : List WebXClientGroup
  sent : List WebXMessage
  deriving DecidableEq, Repr

namespace WebXClientRegistry

/-- A registry without clients. -/
def create : WebXClientRegistry where
  clientIndexMask := 0
  clients := []
  groups := []
  sent := []

variable (settings : WebXSettings) (registry : WebXClientRegistry)

/-- The client of an identifier. -/
def getClientById (id : UInt32) : Option WebXClient := registry.clients.find? fun client => client.id = id

/-- The identifier is that of a client. -/
def isValidClient (clientId : UInt32) : Bool := (registry.getClientById clientId).isSome

/-- The group of a client. -/
def getGroupWithClientId (clientId : UInt32) : Option WebXClientGroup :=
  registry.groups.find? fun group => group.contains clientId

/-- The group of a quality. -/
def getGroupByQuality (quality : WebXQuality) : Option WebXClientGroup :=
  registry.groups.find? fun group => group.quality.index = quality.index

/-- Gives a message to the handler of the registry. -/
def clientMessage (message : WebXMessage) : WebXClientRegistry :=
  { registry with sent := registry.sent ++ [message] }

/-- Changes a client in place. -/
def updateClient (clientId : UInt32) (change : WebXClient → WebXClient) : WebXClientRegistry :=
  { registry with
    clients := updateFirst (fun client => client.id = clientId) (fun client => some (change client))
      registry.clients }

/-- Creates the group of a quality when there is none. -/
def getOrCreateGroupByQuality (quality : WebXQuality) : WebXClientRegistry :=
  if (registry.getGroupByQuality quality).isSome then
    registry
  else
    { registry with groups := registry.groups ++ [.create quality] }

/-- Adds a client to the group of a quality; a client that was not in that group loses its rates. -/
def addClientToGroup (client : WebXClientRef) (quality : WebXQuality) : WebXClientRegistry :=
  let registry := registry.getOrCreateGroupByQuality quality
  let isMember := (registry.getGroupByQuality quality).any fun group => group.contains client.id
  let registry : WebXClientRegistry :=
    { registry with
      groups := updateFirst (fun group => group.quality.index = quality.index)
        (fun group => some (group.addClient client)) registry.groups }
  if isMember then registry else registry.updateClient client.id WebXClient.resetBitrateData

/-- Removes a client from its group, and the group with it when it was the last one. -/
def removeClientFromGroups (clientId : UInt32) : WebXClientRegistry :=
  { registry with
    groups := updateFirst (fun group => group.contains clientId)
      (fun group =>
        let group := group.removeClient clientId
        if group.hasClients then none else some group)
      registry.groups }

/-- Adds a client with the lowest free index and the first identifier drawn that no client has. No
result when all of the given draws are taken: the loop goes on drawing, and nothing has changed. -/
def addClient (clientVersion : WebXVersion) (draws : List UInt32) (now : Time) :
    Option (Except String (UInt32 × UInt64) × WebXClientRegistry) :=
  if ~~~registry.clientIndexMask = 0 then
    some (.error "no client indices available", registry)
  else
    let clientIndex := firstFreeBit registry.clientIndexMask 64 1
    (draws.find? fun clientId => (registry.getClientById clientId).isNone).map fun clientId =>
      let defaultQuality := settings.quality.max.maxQuality
      let client := WebXClient.create clientId clientIndex clientVersion defaultQuality
        settings.controller.clientPingResponseTimeoutMs now
      let registry : WebXClientRegistry :=
        { registry with
          clients := registry.clients ++ [client]
          clientIndexMask := registry.clientIndexMask ||| clientIndex }
      (.ok (clientId, clientIndex), registry.addClientToGroup client.ref defaultQuality)

/-- Removes a client. -/
def removeClient (clientId : UInt32) : Except String Unit × WebXClientRegistry :=
  match registry.getClientById clientId with
  | some client =>
      let registry : WebXClientRegistry :=
        { registry with
          clients := registry.clients.eraseP fun client => client.id = clientId
          clientIndexMask := registry.clientIndexMask &&& ~~~client.index }
      (.ok (), registry.removeClientFromGroups clientId)
  | none => (.error "client id is unknown", registry.removeClientFromGroups clientId)

/-- Moves a client to the group of a quality, and tells it its quality. -/
def setClientQuality (client : WebXClientRef) (quality : WebXQuality) : WebXClientRegistry :=
  let registry :=
    match registry.getGroupWithClientId client.id with
    | none => registry.addClientToGroup client quality
    | some oldGroup =>
        if oldGroup.quality.index ≠ quality.index then
          (registry.removeClientFromGroups client.id).addClientToGroup client quality
        else
          registry
  registry.clientMessage ⟨client.index, .quality quality⟩

/-- A new largest quality for a client, which gets that quality. -/
def setClientMaxQuality (clientId : UInt32) (quality : WebXQuality) : WebXClientRegistry :=
  match registry.getClientById clientId with
  | some client =>
      let registry := registry.updateClient clientId fun client => client.setMaxQuality quality
      if (registry.getGroupWithClientId clientId).all fun group =>
          group.quality.index ≠ quality.index then
        registry.setClientQuality client.ref quality
      else
        registry
  | none => registry

/-- The clients whose pong did not come in time are told so and removed. -/
def removeTimedOutClients (clientsWithTimeout : List WebXClient) : WebXClientRegistry :=
  clientsWithTimeout.foldl (fun registry client =>
    ((registry.clientMessage ⟨client.index, .disconnect⟩).removeClient client.id).2) registry

/-- Sends a ping to the clients that need one. -/
def sendPings (now : Time) : WebXClientRegistry :=
  let requiresPing (client : WebXClient) : Bool := client.pingStatus = .requiresPing
  { registry with
    clients := registry.clients.map fun client =>
      if requiresPing client then client.onPingSent now else client
    sent := registry.sent ++
      (registry.clients.filter requiresPing).map fun client => ⟨client.index, .ping⟩ }

/-- Follows the pings of the clients. -/
def handleClientPings (now : Time) : WebXClientRegistry :=
  let registry : WebXClientRegistry :=
    { registry with clients := registry.clients.map fun client => client.updatePingStatus now }
  let clientsWithTimeout := registry.clients.filter fun client => client.pingStatus = .pongTimeout
  (registry.removeTimedOutClients clientsWithTimeout).sendPings now

/-- A pong was received. -/
def onPongReceived (clientId : UInt32) (now : Time) : WebXClientRegistry :=
  registry.updateClient clientId fun client => client.onPongReceived now

/-- The rates of the clients of the groups are verified. -/
def performGroupQualityVerifications (measure : UInt32 → WebXClientMeasure) (now : Time) :
    WebXClientRegistry :=
  registry.groups.foldl (fun registry group =>
    group.clients.foldl (fun registry client => registry.updateClient client.id fun c =>
      c.performQualityVerification group.averageImageMbps (measure client.id) now) registry) registry

/-- The index suggested for a client: one less when most of its bandwidth is used, one more when
little of it is, between 1 and the largest index of the client. -/
def suggestedQualityIndex (quality : WebXQuality) (bitrateMeans : WebXClientBitrateMeans)
    (maxQuality : WebXQuality) : ℕ :=
  let suggestedQualityDelta : ℤ :=
    if bitrateMeans.meanBitrateRatio ≥ 4 / 5 then -1
    else if bitrateMeans.meanBitrateRatio < 1 / 5 then 1
    else 0
  let suggestedQualityIndex : ℤ := quality.index + suggestedQualityDelta
  let bounded : ℤ :=
    if suggestedQualityIndex < 1 then 1
    else if suggestedQualityIndex > maxQuality.index then maxQuality.index
    else suggestedQualityIndex
  bounded.toNat

/-- The quality that a client of a group should have instead of that of the group. -/
def suggestedQuality (client : WebXClient) (clientGroup : WebXClientGroup) : Option WebXQuality :=
  client.bitrateMeans.bind fun bitrateMeans =>
    let newQuality := settings.quality.max.qualityForIndex
      (suggestedQualityIndex clientGroup.quality bitrateMeans client.maxQuality)
    if newQuality.index ≠ clientGroup.quality.index then some newQuality else none

/-- One round of the loop over the clients. -/
def verifyClientQuality (registry : WebXClientRegistry) (client : WebXClient) :
    Except Fault WebXClientRegistry :=
  match registry.getGroupWithClientId client.id with
  | some clientGroup =>
      match suggestedQuality settings client clientGroup with
      | some newQuality => .ok (registry.setClientQuality client.ref newQuality)
      | none => .ok registry
  | none => .error .nullDereference

/-- Adapts the qualities of the clients to their rates. -/
def performQualityVerification (measure : UInt32 → WebXClientMeasure) (now : Time) :
    Except Fault WebXClientRegistry :=
  let registry := registry.performGroupQualityVerifications measure now
  registry.clients.foldlM (verifyClientQuality settings) registry

/-- Adds damage to a window in all groups. -/
def addWindowDamage (damage : WebXWindowDamage) (now : Time) : WebXClientRegistry :=
  { registry with
    groups := registry.groups.map fun group => group.addWindowDamage settings.quality damage now }

/-- The windows of all groups become those that are visible. -/
def updateVisibleWindows (windowVisibilities : List WebXWindowVisibility) (now : Time) :
    WebXClientRegistry :=
  { registry with
    groups := registry.groups.map fun group =>
      group.updateVisibleWindows settings.quality windowVisibilities now }

/-- The loop over the groups. -/
def handleGroups {σ : Type*} (updateHandler : UpdateHandler σ) (now : Time) :
    List WebXClientGroup → σ → List WebXClientGroup × σ
  | [], state => ([], state)
  | group :: groups, state =>
      let first := group.handleWindowGraphicalUpdates settings.quality updateHandler now state
      let others := handleGroups updateHandler now groups first.2
      (first.1 :: others.1, others.2)

/-- The windows of all groups that have something to send are given to the handler. -/
def handleWindowGraphicalUpdates {σ : Type*} (updateHandler : UpdateHandler σ) (now : Time)
    (state : σ) : WebXClientRegistry × σ :=
  let handled := handleGroups settings updateHandler now registry.groups state
  ({ registry with groups := handled.1 }, handled.2)

/-- Tells all clients that the engine stops, and forgets them; their indices stay taken. -/
def disconnectAll : WebXClientRegistry :=
  { registry with
    clients := []
    groups := []
    sent := registry.sent ++ registry.clients.map fun client => ⟨client.index, .disconnect⟩ }

/-! ## The cases of the operations -/

/-- A client that is known is removed, its index is free again, and its group loses it. -/
theorem removeClient_of_some {clientId : UInt32} {client : WebXClient}
    (h : registry.getClientById clientId = some client) :
    registry.removeClient clientId =
      (.ok (), removeClientFromGroups
        { registry with
          clients := registry.clients.eraseP fun client => client.id = clientId
          clientIndexMask := registry.clientIndexMask &&& ~~~client.index } clientId) := by
  rw [removeClient, h]

/-- Without a client of that identifier there is an error, and the groups are searched all the same. -/
theorem removeClient_of_none {clientId : UInt32} (h : registry.getClientById clientId = none) :
    registry.removeClient clientId =
      (.error "client id is unknown", registry.removeClientFromGroups clientId) := by
  rw [removeClient, h]

/-- A client that has a group moves to the group of the quality, and is told the quality even when it
is the one of its group. -/
theorem setClientQuality_of_some {client : WebXClientRef} {oldGroup : WebXClientGroup}
    (h : registry.getGroupWithClientId client.id = some oldGroup) (quality : WebXQuality) :
    registry.setClientQuality client quality =
      (if oldGroup.quality.index ≠ quality.index then
        (registry.removeClientFromGroups client.id).addClientToGroup client quality
      else
        registry).clientMessage ⟨client.index, .quality quality⟩ := by
  rw [setClientQuality, h]

/-- The first identifier drawn that no client has. -/
theorem exists_find?_free {draws : List UInt32} {drawn : UInt32} (hdrawn : drawn ∈ draws)
    (hnone : registry.getClientById drawn = none) :
    ∃ clientId, (draws.find? fun clientId => (registry.getClientById clientId).isNone) =
        some clientId ∧ registry.getClientById clientId = none := by
  have hsome : (draws.find? fun clientId => (registry.getClientById clientId).isNone).isSome := by
    rw [List.find?_isSome]
    exact ⟨drawn, hdrawn, by rw [hnone]; rfl⟩
  obtain ⟨clientId, hclientId⟩ := Option.isSome_iff_exists.mp hsome
  have hfree := List.find?_some hclientId
  exact ⟨clientId, hclientId, Option.isNone_iff_eq_none.mp hfree⟩

/-- A client that is known gets the largest quality, and moves to its group unless it is there. -/
theorem setClientMaxQuality_of_some {clientId : UInt32} {client : WebXClient}
    (h : registry.getClientById clientId = some client) (quality : WebXQuality) :
    registry.setClientMaxQuality clientId quality =
      let registry := registry.updateClient clientId fun client => client.setMaxQuality quality
      if (registry.getGroupWithClientId clientId).all fun group =>
          group.quality.index ≠ quality.index then
        registry.setClientQuality client.ref quality
      else
        registry := by
  rw [setClientMaxQuality, h]

/-- Nothing is done for an identifier that is unknown. -/
theorem setClientMaxQuality_of_none {clientId : UInt32}
    (h : registry.getClientById clientId = none) (quality : WebXQuality) :
    registry.setClientMaxQuality clientId quality = registry := by
  rw [setClientMaxQuality, h]

/-- A client that has a group gets the quality that is suggested, if there is one. -/
theorem verifyClientQuality_of_some {settings : WebXSettings} {registry : WebXClientRegistry}
    {client : WebXClient} {clientGroup : WebXClientGroup}
    (h : registry.getGroupWithClientId client.id = some clientGroup) :
    verifyClientQuality settings registry client =
      .ok ((suggestedQuality settings client clientGroup).elim registry
        (registry.setClientQuality client.ref)) := by
  rw [verifyClientQuality, h]
  dsimp only
  cases suggestedQuality settings client clientGroup <;> rfl

/-- What one round of the loop can do, when it does not fail. -/
theorem verifyClientQuality_cases {settings : WebXSettings} {registry registry' : WebXClientRegistry}
    {client : WebXClient} (h : verifyClientQuality settings registry client = .ok registry') :
    registry' = registry ∨ ∃ quality, registry' = registry.setClientQuality client.ref quality := by
  cases hgroup : registry.getGroupWithClientId client.id with
  | none =>
      rw [verifyClientQuality, hgroup] at h
      cases h
  | some clientGroup =>
      rw [verifyClientQuality_of_some hgroup] at h
      cases h
      cases suggestedQuality settings client clientGroup with
      | none => exact .inl rfl
      | some quality => exact .inr ⟨quality, rfl⟩

end WebXClientRegistry

/-! ## The calls made to a registry -/

/-- A call of an update handler. -/
structure UpdateCall where
  window : WebXClientWindow
  clientIndexMask : UInt64
  deriving DecidableEq, Repr

/-- A call made to the registry, with what comes from outside: the clock, the random numbers, the
measured rates, and what the update handler answers, which may depend on what it was asked before. -/
inductive RegistryOp
  | addClient (clientVersion : WebXVersion) (draws : List UInt32) (now : Time)
  | removeClient (clientId : UInt32)
  | setClientMaxQuality (clientId : UInt32) (quality : WebXQuality)
  | handleClientPings (now : Time)
  | onPongReceived (clientId : UInt32) (now : Time)
  | performQualityVerification (measure : UInt32 → WebXClientMeasure) (now : Time)
  | addWindowDamage (damage : WebXWindowDamage) (now : Time)
  | updateVisibleWindows (windowVisibilities : List WebXWindowVisibility) (now : Time)
  | handleWindowGraphicalUpdates
      (answer : List UpdateCall → UpdateCall → Except String WebXWindowImageTransferData)
      (now : Time)
  | disconnectAll

/-- A registry, and the calls that it made of update handlers. -/
structure RegistryState where
  registry : WebXClientRegistry
  calls : List UpdateCall

namespace RegistryState

/-- A registry at the start of the engine. -/
def init : RegistryState := ⟨.create, []⟩

/-- The update handler that records its calls. -/
def recordingHandler
    (answer : List UpdateCall → UpdateCall → Except String WebXWindowImageTransferData) :
    UpdateHandler (List UpdateCall) :=
  fun window clientIndexMask calls =>
    (answer calls ⟨window, clientIndexMask⟩, calls ++ [⟨window, clientIndexMask⟩])

/-- One call made to a registry. -/
def step (settings : WebXSettings) (state : RegistryState) :
    RegistryOp → Except Fault RegistryState
  | .addClient clientVersion draws now =>
      .ok { state with
        registry := ((state.registry.addClient settings clientVersion draws now).map Prod.snd).getD
          state.registry }
  | .removeClient clientId => .ok { state with registry := (state.registry.removeClient clientId).2 }
  | .setClientMaxQuality clientId quality =>
      .ok { state with registry := state.registry.setClientMaxQuality clientId quality }
  | .handleClientPings now => .ok { state with registry := state.registry.handleClientPings now }
  | .onPongReceived clientId now =>
      .ok { state with registry := state.registry.onPongReceived clientId now }
  | .performQualityVerification measure now =>
      (state.registry.performQualityVerification settings measure now).map fun registry =>
        { state with registry := registry }
  | .addWindowDamage damage now =>
      .ok { state with registry := state.registry.addWindowDamage settings damage now }
  | .updateVisibleWindows windowVisibilities now =>
      .ok { state with
        registry := state.registry.updateVisibleWindows settings windowVisibilities now }
  | .handleWindowGraphicalUpdates answer now =>
      let handled := state.registry.handleWindowGraphicalUpdates settings (recordingHandler answer)
        now state.calls
      .ok ⟨handled.1, handled.2⟩
  | .disconnectAll => .ok { state with registry := state.registry.disconnectAll }

/-- What the verification of the qualities leaves, when it does not fail. -/
theorem step_performQualityVerification {settings : WebXSettings} {state state' : RegistryState}
    {measure : UInt32 → WebXClientMeasure} {now : Time}
    (hstep : state.step settings (.performQualityVerification measure now) = .ok state') :
    ∃ registry', state.registry.performQualityVerification settings measure now = .ok registry' ∧
      state' = { state with registry := registry' } := by
  rw [step] at hstep
  cases hrun : state.registry.performQualityVerification settings measure now with
  | error fault =>
      rw [hrun] at hstep
      cases hstep
  | ok registry' =>
      rw [hrun] at hstep
      cases hstep
      exact ⟨registry', rfl, rfl⟩

end RegistryState

end WebXEngine
