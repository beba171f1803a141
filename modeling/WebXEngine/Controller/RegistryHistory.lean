import WebXEngine.Controller.RegistryClients

/-! # Histories of a registry

The calls made to a registry since it was created, the latest one first, with the states around them.

* **`RegistryStep`** — a call, the states around it and the messages that it sent.
* **`History`** — the calls that lead to a state.
* **`History.addressed`** — every message has the bit of a client that was registered when it was
  sent.
* **`History.registered_anew`** — a client that is gone only comes back by being added. -/

namespace WebXEngine

open BitMask

/-- A call, with the states before and after it. -/
structure RegistryStep where
  before : RegistryState
  op : RegistryOp
  after : RegistryState

/-- The messages that a call sent. -/
def RegistryStep.messages (s : RegistryStep) : List WebXMessage :=
  s.after.registry.sent.drop s.before.registry.sent.length

/-- The messages of a call are those after the ones that were there. -/
theorem RegistryStep.messages_eq {s : RegistryStep} {messages : List WebXMessage}
    (hsent : s.after.registry.sent = s.before.registry.sent ++ messages) : s.messages = messages := by
  rw [RegistryStep.messages, hsent, List.drop_left]

/-- The client was registered before a call. -/
def RegistryStep.Knows (s : RegistryStep) (client : WebXClientRef) : Prop :=
  client ∈ s.before.registry.refs

instance (s : RegistryStep) (client : WebXClientRef) : Decidable (s.Knows client) :=
  inferInstanceAs (Decidable (client ∈ s.before.registry.refs))

/-- The calls that lead from a new registry to a state, the latest one first. -/
inductive History (settings : WebXSettings) : List RegistryStep → RegistryState → Prop
  | start : History settings [] .init
  | call {steps : List RegistryStep} {state state' : RegistryState} {op : RegistryOp}
      (h : History settings steps state) (hstep : state.step settings op = .ok state') :
      History settings (⟨state, op, state'⟩ :: steps) state'

/-! ## The messages of the calls -/

namespace WebXClientRegistry

variable {settings : WebXSettings} {registry : WebXClientRegistry} {client : WebXClientRef}
  {quality : WebXQuality}

/-- A change of quality is told to the client. -/
@[simp] theorem sent_setClientQuality :
    (registry.setClientQuality client quality).sent =
      registry.sent ++ [⟨client.index, .quality quality⟩] := by
  refine congrArg (· ++ [_]) ?_
  cases registry.getGroupWithClientId client.id with
  | none => exact sent_addClientToGroup
  | some oldGroup =>
      dsimp only
      split_ifs
      · exact sent_addClientToGroup
      · rfl

/-- The registry sent some messages of given types, all of them with the bit of a client. -/
def SentToClients (types : List WebXMessageType) (registry registry' : WebXClientRegistry) : Prop :=
  ∃ messages, registry'.sent = registry.sent ++ messages ∧
    ∀ message ∈ messages, message.type ∈ types ∧
      ∃ client ∈ registry.refs, message.clientIndexMask = client.index

/-- Nothing was sent. -/
theorem SentToClients.of_sent_eq {types : List WebXMessageType} {registry' : WebXClientRegistry}
    (h : registry'.sent = registry.sent) : SentToClients types registry registry' :=
  ⟨[], by rw [h, List.append_nil], by simp⟩

/-- A client that is added is told nothing. -/
theorem sentToClients_addClient {clientVersion : WebXVersion} {draws : List UInt32} {now : Time}
    {result : Except String (UInt32 × UInt64)} {registry' : WebXClientRegistry}
    (hadd : registry.addClient settings clientVersion draws now = some (result, registry')) :
    SentToClients [] registry registry' := by
  rw [addClient] at hadd
  split_ifs at hadd
  · cases hadd
    exact .of_sent_eq rfl
  · obtain ⟨clientId, -, heq⟩ := Option.map_eq_some_iff.mp hadd
    cases heq
    exact .of_sent_eq sent_addClientToGroup

/-- A client that is added gets the lowest bit that is free. -/
theorem addClient_registered {clientVersion : WebXVersion} {draws : List UInt32} {now : Time}
    {result : Except String (UInt32 × UInt64) × WebXClientRegistry}
    (hadd : registry.addClient settings clientVersion draws now = some result)
    (hafter : client ∈ result.2.refs) (hbefore : client ∉ registry.refs) :
    ~~~registry.clientIndexMask ≠ 0 ∧ client.index = firstFreeBit registry.clientIndexMask 64 1 := by
  rw [addClient] at hadd
  split_ifs at hadd with hfull
  · cases hadd
    exact absurd hafter hbefore
  · obtain ⟨clientId, -, heq⟩ := Option.map_eq_some_iff.mp hadd
    cases heq
    rw [refs_addClientToGroup, refs, List.map_append, List.mem_append] at hafter
    rcases hafter with hold | hnew
    · exact absurd hold hbefore
    · rw [List.map_singleton, List.mem_singleton] at hnew
      exact ⟨hfull, by rw [hnew]; rfl⟩

/-- A client that sets its largest quality is told a quality. -/
theorem sentToClients_setClientMaxQuality (clientId : UInt32) :
    SentToClients [.quality] registry (registry.setClientMaxQuality clientId quality) := by
  cases hclient : registry.getClientById clientId with
  | none =>
      rw [setClientMaxQuality_of_none _ hclient]
      exact .of_sent_eq rfl
  | some c =>
      rw [setClientMaxQuality_of_some _ hclient]
      dsimp only
      split_ifs
      · refine ⟨_, sent_setClientQuality, ?_⟩
        intro message hmessage
        rw [List.mem_singleton] at hmessage
        subst hmessage
        exact ⟨List.mem_singleton_self _, c.ref, (ref_mem_refs hclient).1, rfl⟩
      · exact .of_sent_eq rfl

/-- The pings and the messages of the clients that timed out. -/
theorem Inv.sentToClients_handleClientPings (h : Inv registry) (now : Time) :
    SentToClients [.disconnect, .ping] registry (registry.handleClientPings now) := by
  refine ⟨_, h.sent_handleClientPings now, fun message hmessage => ?_⟩
  have hrefs : (registry.updatedClients now).map WebXClient.ref = registry.refs :=
    map_ref_map fun c => c.ref_updatePingStatus now
  rw [List.mem_append, List.mem_map, List.mem_map] at hmessage
  rcases hmessage with ⟨c, hc, rfl⟩ | ⟨c, hc, rfl⟩
  · exact ⟨List.mem_cons_self, c.ref,
      hrefs ▸ List.mem_map_of_mem (List.mem_of_mem_filter hc), rfl⟩
  · exact ⟨List.mem_cons_of_mem _ List.mem_cons_self, c.ref,
      hrefs ▸ List.mem_map_of_mem (List.mem_of_mem_filter hc), rfl⟩

/-- The loop over the clients only sends messages to them. -/
theorem sentToClients_foldlM_verifyClientQuality (clients : List WebXClient) :
    ∀ {registry registry' : WebXClientRegistry}, (∀ c ∈ clients, c.ref ∈ registry.refs) →
      clients.foldlM (verifyClientQuality settings) registry = .ok registry' →
      SentToClients [.quality] registry registry' := by
  induction clients with
  | nil =>
      rintro registry registry' - ⟨⟩
      exact .of_sent_eq rfl
  | cons c clients ih =>
      intro registry registry' hmem hrun
      rw [List.forall_mem_cons] at hmem
      rw [List.foldlM_cons] at hrun
      obtain ⟨next, hstep, hrest⟩ := exists_of_bind_eq_ok hrun
      obtain rfl | ⟨quality, rfl⟩ := verifyClientQuality_cases hstep
      · exact ih hmem.2 hrest
      · have hrefs : (registry.setClientQuality c.ref quality).refs = registry.refs :=
          refs_setClientQuality
        obtain ⟨messages, hsent, haddressed⟩ := ih (fun d hd => hrefs.symm ▸ hmem.2 d hd) hrest
        -- one message to this client, and those to the other ones
        rw [sent_setClientQuality, List.append_assoc] at hsent
        refine ⟨_, hsent, ?_⟩
        rw [List.singleton_append, List.forall_mem_cons]
        rw [hrefs] at haddressed
        exact ⟨⟨List.mem_singleton_self _, c.ref, hmem.1, rfl⟩, haddressed⟩

/-- The verification tells qualities to the clients. -/
theorem sentToClients_performQualityVerification {measure : UInt32 → WebXClientMeasure} {now : Time}
    {registry' : WebXClientRegistry}
    (hrun : registry.performQualityVerification settings measure now = .ok registry') :
    SentToClients [.quality] registry registry' := by
  obtain ⟨clients, hrefs, heq⟩ := performGroupQualityVerifications_eq registry measure now
  rw [performQualityVerification, heq] at hrun
  obtain ⟨messages, hsent, haddressed⟩ :=
    sentToClients_foldlM_verifyClientQuality clients (fun c hc => List.mem_map_of_mem hc) hrun
  refine ⟨messages, hsent, fun message hmessage => ?_⟩
  obtain ⟨htype, client, hclient, hmask⟩ := haddressed message hmessage
  exact ⟨htype, client, hrefs ▸ hclient, hmask⟩

/-- All clients are told that the engine stops. -/
theorem sentToClients_disconnectAll :
    SentToClients [.disconnect] registry registry.disconnectAll := by
  refine ⟨_, rfl, fun message hmessage => ?_⟩
  obtain ⟨c, hc, rfl⟩ := List.mem_map.mp hmessage
  exact ⟨List.mem_singleton_self _, c.ref, List.mem_map_of_mem hc, rfl⟩

end WebXClientRegistry

/-- The types of the messages that a call may send. -/
def RegistryOp.messageTypes : RegistryOp → List WebXMessageType
  | .setClientMaxQuality _ _ => [.quality]
  | .performQualityVerification _ _ => [.quality]
  | .handleClientPings _ => [.disconnect, .ping]
  | .disconnectAll => [.disconnect]
  | _ => []

namespace RegistryState

open WebXClientRegistry

variable {settings : WebXSettings} {state state' : RegistryState} {op : RegistryOp}

/-- Every call only sends messages to the clients that were registered before it. -/
theorem sentToClients_step (hinv : state.registry.Inv) (hstep : state.step settings op = .ok state') :
    SentToClients op.messageTypes state.registry state'.registry := by
  cases op with
  | addClient clientVersion draws now =>
      cases hstep
      cases hadd : state.registry.addClient settings clientVersion draws now with
      | none => exact .of_sent_eq rfl
      | some result => exact sentToClients_addClient hadd
  | removeClient clientId =>
      cases hstep
      exact .of_sent_eq (sent_removeClient _ clientId)
  | setClientMaxQuality clientId quality =>
      cases hstep
      exact sentToClients_setClientMaxQuality clientId
  | handleClientPings now =>
      cases hstep
      -- the pings, and the disconnections of those who did not answer
      exact hinv.sentToClients_handleClientPings now
  | performQualityVerification measure now =>
      obtain ⟨registry', hrun, rfl⟩ := step_performQualityVerification hstep
      exact sentToClients_performQualityVerification hrun
  | disconnectAll =>
      cases hstep
      exact sentToClients_disconnectAll
  | onPongReceived clientId now | addWindowDamage damage now
  | updateVisibleWindows windowVisibilities now | handleWindowGraphicalUpdates answer now =>
      cases hstep
      exact .of_sent_eq rfl

/-- Only the addition of a client registers one. -/
theorem refs_subset_step (hinv : state.registry.Inv) (hstep : state.step settings op = .ok state')
    (hadd : ∀ clientVersion draws now, op ≠ .addClient clientVersion draws now) :
    ∀ client ∈ state'.registry.refs, client ∈ state.registry.refs := by
  intro client hclient
  cases op with
  | addClient clientVersion draws now => exact absurd rfl (hadd clientVersion draws now)
  | removeClient clientId =>
      cases hstep
      obtain ⟨c, hc, rfl⟩ := List.mem_map.mp hclient
      rw [hinv.clients_removeClient] at hc
      exact List.mem_map_of_mem (List.mem_of_mem_filter hc)
  | setClientMaxQuality clientId quality =>
      cases hstep
      -- a client that changes its quality may change its group, but keeps its reference
      have hrefs : (state.registry.setClientMaxQuality clientId quality).refs =
          state.registry.refs := by
        cases hc : state.registry.getClientById clientId with
        | none => rw [setClientMaxQuality_of_none _ hc]
        | some c =>
            have hkeep := refs_updateClient state.registry clientId
              fun c => c.ref_setMaxQuality quality
            rw [setClientMaxQuality_of_some _ hc]
            dsimp only
            split_ifs
            · exact refs_setClientQuality.trans hkeep
            · exact hkeep
      exact hrefs ▸ hclient
  | handleClientPings now =>
      cases hstep
      obtain ⟨c, hc, rfl⟩ := List.mem_map.mp hclient
      -- the clients after the pings are those before that have not timed out, with a new status
      rw [hinv.clients_handleClientPings] at hc
      obtain ⟨d, hd, rfl⟩ := List.mem_map.mp hc
      obtain ⟨e, he, rfl⟩ := List.mem_map.mp (List.mem_of_mem_filter hd)
      rw [ref_pinged, WebXClient.ref_updatePingStatus]
      exact List.mem_map_of_mem he
  | onPongReceived clientId now =>
      cases hstep
      exact refs_updateClient state.registry clientId (fun c => c.ref_onPongReceived now) ▸ hclient
  | performQualityVerification measure now =>
      obtain ⟨registry', hrun, rfl⟩ := step_performQualityVerification hstep
      rw [← refs_performQualityVerification hrun]
      exact hclient
  | addWindowDamage damage now | updateVisibleWindows windowVisibilities now
  | handleWindowGraphicalUpdates answer now =>
      cases hstep
      exact hclient
  | disconnectAll =>
      cases hstep
      cases hclient

/-- Only the addition of a client registers one, which gets the lowest bit that is free. -/
theorem registered_step (hinv : state.registry.Inv) (hstep : state.step settings op = .ok state')
    {client : WebXClientRef} (hafter : client ∈ state'.registry.refs)
    (hbefore : client ∉ state.registry.refs) :
    (∃ clientVersion draws now, op = .addClient clientVersion draws now) ∧
      ~~~state.registry.clientIndexMask ≠ 0 ∧
      client.index = firstFreeBit state.registry.clientIndexMask 64 1 := by
  by_cases hadd : ∃ clientVersion draws now, op = .addClient clientVersion draws now
  · refine ⟨hadd, ?_⟩
    obtain ⟨clientVersion, draws, now, rfl⟩ := hadd
    cases hstep
    cases hresult : state.registry.addClient settings clientVersion draws now with
    | none =>
        rw [hresult] at hafter
        exact absurd hafter hbefore
    | some result =>
        rw [hresult] at hafter
        exact addClient_registered hresult hafter hbefore
  · push Not at hadd
    exact absurd (refs_subset_step hinv hstep hadd client hafter) hbefore

end RegistryState

/-! ## Histories -/

namespace History

open WebXClientRegistry

variable {settings : WebXSettings} {steps later middle earlier : List RegistryStep}
  {s : RegistryStep} {state : RegistryState}

/-- The registry keeps its invariant. -/
theorem inv (h : History settings steps state) : state.registry.Inv := by
  induction h with
  | start => exact inv_create
  | @call steps state state' op h hstep ih =>
      obtain ⟨state'', hstep', hinv⟩ := RegistryState.inv_step settings state op ih
      cases hstep.symm.trans hstep'
      exact hinv

/-- Any calls have a history. -/
theorem exists_of_ops (settings : WebXSettings) (ops : List RegistryOp) :
    ∃ steps state, History settings steps state ∧ steps.map RegistryStep.op = ops := by
  induction ops with
  | nil => exact ⟨[], _, .start, rfl⟩
  | cons op ops ih =>
      obtain ⟨steps, state, h, rfl⟩ := ih
      obtain ⟨state', hstep, -⟩ := RegistryState.inv_step settings state op h.inv
      exact ⟨_, _, h.call hstep, rfl⟩

/-- A step of a history, with the history before it. -/
theorem split (h : History settings (later ++ s :: earlier) state) :
    History settings earlier s.before ∧ s.before.step settings s.op = .ok s.after := by
  generalize hsteps : later ++ s :: earlier = steps at h
  induction h generalizing later with
  | start => simp at hsteps
  | @call steps state state' op h hstep ih =>
      cases later with
      | nil =>
          rw [List.nil_append, List.cons.injEq] at hsteps
          obtain ⟨rfl, rfl⟩ := hsteps
          exact ⟨h, hstep⟩
      | cons t later =>
          rw [List.cons_append, List.cons.injEq] at hsteps
          exact ih hsteps.2

/-- A step is the last one of a history. -/
theorem split_after (h : History settings (later ++ s :: earlier) state) :
    History settings (s :: earlier) s.after := by
  obtain ⟨hbefore, hstep⟩ := h.split
  exact .call hbefore hstep

/-- **Every message is addressed to a client**, which is registered when it is sent. -/
theorem addressed (h : History settings (later ++ s :: earlier) state) :
    ∀ message ∈ s.messages, message.type ∈ s.op.messageTypes ∧
      ∃ client ∈ s.before.registry.refs, message.clientIndexMask = client.index := by
  obtain ⟨hbefore, hstep⟩ := h.split
  obtain ⟨messages, hsent, haddressed⟩ := RegistryState.sentToClients_step hbefore.inv hstep
  rwa [RegistryStep.messages_eq hsent]

/-- **A client that is gone only comes back by being added.** -/
theorem registered_anew (h : History settings (later ++ s :: earlier) state) {client : WebXClientRef}
    (hgone : client ∉ s.after.registry.refs) (hback : client ∈ state.registry.refs) :
    ∃ t ∈ later, (∃ clientVersion draws now, t.op = .addClient clientVersion draws now) ∧
      client ∉ t.before.registry.refs ∧ client ∈ t.after.registry.refs := by
  generalize hsteps : later ++ s :: earlier = steps at h
  induction h generalizing later with
  | start => simp at hsteps
  | @call steps state state' op h hstep ih =>
      cases later with
      | nil =>
          rw [List.nil_append, List.cons.injEq] at hsteps
          obtain ⟨rfl, -⟩ := hsteps
          exact absurd hback hgone
      | cons t later =>
          rw [List.cons_append, List.cons.injEq] at hsteps
          obtain ⟨rfl, hsteps⟩ := hsteps
          -- the client was back before the last step, or comes back with it
          by_cases hbefore : client ∈ state.registry.refs
          · obtain ⟨t, ht, hanew⟩ := ih hbefore hsteps
            exact ⟨t, List.mem_cons_of_mem _ ht, hanew⟩
          · refine ⟨_, List.mem_cons_self, ?_, hbefore, hback⟩
            by_contra hnot
            refine hbefore (RegistryState.refs_subset_step h.inv hstep ?_ client hback)
            rintro clientVersion draws now rfl
            exact hnot ⟨clientVersion, draws, now, rfl⟩

end History

end WebXEngine
