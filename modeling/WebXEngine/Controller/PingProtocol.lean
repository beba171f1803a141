import WebXEngine.Controller.RegistryHistory

/-! # The ping protocol

A client is pinged some time after its last pong, and has some time to answer. What was sent to it and
received from it is read off the history of the registry.

* **`unansweredPing`** — when the last ping was sent to a client that has not answered it.
* **`PingInv`** — the status of a client tells whether it has a ping to answer.
* **`History.pingProtocol`** — pings are answered before the next one, and a client that does not
  answer in time is told so once and is removed. -/

namespace WebXEngine

open BitMask

/-! ## The messages of a tick -/

namespace WebXClientRegistry

variable {settings : WebXSettings} {registry : WebXClientRegistry} {now : Time}

/-- The messages that the pings send. -/
def pingMessages (registry : WebXClientRegistry) (now : Time) : List WebXMessage :=
  ((registry.updatedClients now).filter fun c => c.pingStatus = .pongTimeout).map
      (fun c => ⟨c.index, .disconnect⟩) ++
    ((registry.updatedClients now).filter fun c => c.pingStatus = .requiresPing).map
      fun c => ⟨c.index, .ping⟩

/-- A client is told that its time is over when it is. -/
theorem Inv.disconnect_mem_pingMessages (h : Inv registry) {c : WebXClient}
    (hc : c ∈ registry.updatedClients now) :
    ⟨c.index, .disconnect⟩ ∈ registry.pingMessages now ↔ c.pingStatus = .pongTimeout := by
  rw [pingMessages, List.mem_append, List.mem_map, List.mem_map]
  constructor
  · rintro (⟨d, hd, heq⟩ | ⟨d, hd, heq⟩)
    · rw [List.mem_filter, decide_eq_true_eq] at hd
      have hindex : d.index = c.index := congrArg WebXMessage.clientIndexMask heq
      rw [← (h.updatedClients now).eq_of_index_eq hd.1 hc hindex]
      exact hd.2
    · cases congrArg WebXMessage.content heq
  · intro htimeout
    exact .inl ⟨c, List.mem_filter.mpr ⟨hc, decide_eq_true htimeout⟩, rfl⟩

/-- A client is pinged when it requires it. -/
theorem Inv.ping_mem_pingMessages (h : Inv registry) {c : WebXClient}
    (hc : c ∈ registry.updatedClients now) :
    ⟨c.index, .ping⟩ ∈ registry.pingMessages now ↔ c.pingStatus = .requiresPing := by
  rw [pingMessages, List.mem_append, List.mem_map, List.mem_map]
  constructor
  · rintro (⟨d, hd, heq⟩ | ⟨d, hd, heq⟩)
    · cases congrArg WebXMessage.content heq
    · rw [List.mem_filter, decide_eq_true_eq] at hd
      have hindex : d.index = c.index := congrArg WebXMessage.clientIndexMask heq
      rw [← (h.updatedClients now).eq_of_index_eq hd.1 hc hindex]
      exact hd.2
  · intro hrequires
    exact .inr ⟨c, List.mem_filter.mpr ⟨hc, decide_eq_true hrequires⟩, rfl⟩

/-- A registered client is told that its time is over when the time that has passed says so. -/
theorem Inv.disconnect_mem_pingMessages_iff (h : Inv registry) {c : WebXClient}
    (hc : c ∈ registry.clients) :
    ⟨c.index, .disconnect⟩ ∈ registry.pingMessages now ↔
      (c.updatePingStatus now).pingStatus = .pongTimeout := by
  have hmem := h.disconnect_mem_pingMessages (show c.updatePingStatus now ∈ registry.updatedClients now
    from List.mem_map_of_mem hc)
  rwa [WebXClient.index_updatePingStatus] at hmem

/-- A registered client is sent a ping when the time that has passed says so. -/
theorem Inv.ping_mem_pingMessages_iff (h : Inv registry) {c : WebXClient}
    (hc : c ∈ registry.clients) :
    ⟨c.index, .ping⟩ ∈ registry.pingMessages now ↔
      (c.updatePingStatus now).pingStatus = .requiresPing := by
  have hmem := h.ping_mem_pingMessages (show c.updatePingStatus now ∈ registry.updatedClients now
    from List.mem_map_of_mem hc)
  rwa [WebXClient.index_updatePingStatus] at hmem

/-- No message is sent twice. -/
theorem Inv.nodup_pingMessages (h : Inv registry) (now : Time) :
    (registry.pingMessages now).Nodup := by
  have hupdated := h.updatedClients now
  have hnodup : (registry.updatedClients now).Nodup := by
    have hids := hupdated.members.ids
    rw [refs, List.map_map] at hids
    exact hids.of_map
  -- the messages of one kind have different bits
  have hkind (kind : WebXMessage.Content) (p : WebXClient → Bool) :
      (((registry.updatedClients now).filter p).map
        fun c => (⟨c.index, kind⟩ : WebXMessage)).Nodup := by
    refine (hnodup.filter p).map_on fun c hc d hd heq => ?_
    exact hupdated.eq_of_index_eq (List.mem_of_mem_filter hc) (List.mem_of_mem_filter hd)
      (congrArg WebXMessage.clientIndexMask heq)
  refine (hkind .disconnect _).append (hkind .ping _) ?_
  intro message hdisconnect hping
  obtain ⟨c, -, rfl⟩ := List.mem_map.mp hdisconnect
  obtain ⟨d, -, heq⟩ := List.mem_map.mp hping
  cases congrArg WebXMessage.content heq

end WebXClientRegistry

/-! ## Pings and pongs of a client -/

/-- The call sent a ping to the client. -/
def RegistryStep.Pings (s : RegistryStep) (client : WebXClientRef) : Prop :=
  s.Knows client ∧ ⟨client.index, .ping⟩ ∈ s.messages

instance (s : RegistryStep) (client : WebXClientRef) : Decidable (s.Pings client) :=
  inferInstanceAs (Decidable (_ ∧ _))

/-- The call is the reception of a pong of the client. -/
def RegistryStep.IsPongOf (s : RegistryStep) (client : WebXClientRef) : Prop :=
  ∃ now, s.op = .onPongReceived client.id now

/-- When the last ping was sent to a client, as long as it has stayed registered and has sent no pong
since. -/
def unansweredPing (client : WebXClientRef) : List RegistryStep → Option Time
  | [] => none
  | s :: earlier =>
      if s.Knows client then
        match s.op with
        | .onPongReceived clientId _ =>
            if clientId = client.id then none else unansweredPing client earlier
        | .handleClientPings now =>
            if s.Pings client then some now else unansweredPing client earlier
        | _ => unansweredPing client earlier
      else
        none

variable {settings : WebXSettings} {client : WebXClientRef} {earlier steps : List RegistryStep}
  {state state' : RegistryState} {op : RegistryOp} {now : Time}

/-- A client that was not registered has no ping to answer. -/
theorem unansweredPing_of_not_knows {s : RegistryStep} (h : ¬ s.Knows client) :
    unansweredPing client (s :: earlier) = none := by
  rw [unansweredPing, if_neg h]

/-- The calls other than those about pings change nothing. -/
theorem unansweredPing_of_other {s : RegistryStep} (h : s.Knows client)
    (htick : ∀ now, s.op ≠ .handleClientPings now) (hpong : ¬ s.IsPongOf client) :
    unansweredPing client (s :: earlier) = unansweredPing client earlier := by
  rw [unansweredPing, if_pos h]
  obtain ⟨before, op, after⟩ := s
  cases op with
  | handleClientPings now => exact absurd rfl (htick now)
  | onPongReceived clientId now =>
      refine if_neg ?_
      rintro rfl
      exact hpong ⟨now, rfl⟩
  | _ => rfl

/-- A pong answers the ping, if there is one. -/
theorem unansweredPing_of_pong {s : RegistryStep} (h : s.IsPongOf client) :
    unansweredPing client (s :: earlier) = none := by
  obtain ⟨before, op, after⟩ := s
  obtain ⟨now, rfl⟩ := h
  by_cases hknows : RegistryStep.Knows ⟨before, .onPongReceived client.id now, after⟩ client
  · rw [unansweredPing, if_pos hknows]
    exact if_pos rfl
  · exact unansweredPing_of_not_knows hknows

/-- A tick sends a ping, or leaves the one that is not answered. -/
theorem unansweredPing_of_tick {s : RegistryStep} (h : s.Knows client)
    (htick : s.op = .handleClientPings now) :
    unansweredPing client (s :: earlier) =
      if s.Pings client then some now else unansweredPing client earlier := by
  obtain ⟨before, op, after⟩ := s
  cases htick
  rw [unansweredPing, if_pos h]

/-! ## The status of a client -/

/-- The status of a client tells whether it has a ping to answer, and since when. -/
def PingInv (settings : WebXSettings) (steps : List RegistryStep) (registry : WebXClientRegistry) :
    Prop :=
  ∀ c ∈ registry.clients,
    c.pingResponseTimeoutMs = settings.controller.clientPingResponseTimeoutMs ∧
      (c.pingStatus = .waitingForPong ∧ unansweredPing c.ref steps = some c.pingSentTime ∨
        c.pingStatus = .waitingToPing ∧ unansweredPing c.ref steps = none)

/-- What the pings change of a client. -/
def pingView (c : WebXClient) : WebXClientRef × ℤ × PingStatus × Time :=
  (c.ref, c.pingResponseTimeoutMs, c.pingStatus, c.pingSentTime)

open WebXClientRegistry

/-- The calls other than those about pings leave the status of the clients as it is. -/
theorem pingView_step (hinv : state.registry.Inv) (hstep : state.step settings op = .ok state')
    (htick : ∀ now, op ≠ .handleClientPings now)
    (hpong : ∀ clientId now, op ≠ .onPongReceived clientId now) :
    ∀ c ∈ state'.registry.clients, (∃ d ∈ state.registry.clients, pingView c = pingView d) ∨
      c.ref ∉ state.registry.refs ∧ c.pingStatus = .waitingToPing ∧
        c.pingResponseTimeoutMs = settings.controller.clientPingResponseTimeoutMs := by
  have hkept (hmap : state'.registry.clients.map pingView = state.registry.clients.map pingView)
      (c : WebXClient) (hc : c ∈ state'.registry.clients) :
      ∃ d ∈ state.registry.clients, pingView c = pingView d := by
    obtain ⟨d, hd, hview⟩ := List.mem_map.mp (hmap ▸ List.mem_map_of_mem hc)
    exact ⟨d, hd, hview.symm⟩
  intro c hc
  cases op with
  | addClient clientVersion draws now =>
      cases hstep
      cases hadd : state.registry.addClient settings clientVersion draws now with
      | none =>
          rw [hadd] at hc
          exact .inl ⟨c, hc, rfl⟩
      | some result =>
          rw [hadd] at hc
          obtain ⟨(error | ⟨clientId, clientIndex⟩), registry'⟩ := result
          · -- no index is free: the clients are the same
            rw [addClient_eq_of_error hadd] at hc
            exact .inl ⟨c, hc, rfl⟩
          · obtain ⟨hnew, hmap⟩ := map_clients_addClient (g := pingView) (fun c => rfl) hadd
            have hview : pingView c ∈ registry'.clients.map pingView := List.mem_map_of_mem hc
            rw [hmap, List.mem_append, List.mem_map, List.mem_singleton] at hview
            -- `c` was there before, or is the client that is added
            rcases hview with ⟨d, hd, hview⟩ | hview
            · exact .inl ⟨d, hd, hview.symm⟩
            · have hid : c.id = clientId := congrArg (fun view => view.1.id) hview
              exact .inr ⟨notMem_refs hnew hid, congrArg (fun view => view.2.2.1) hview,
                congrArg (fun view => view.2.1) hview⟩
  | removeClient clientId =>
      cases hstep
      rw [hinv.clients_removeClient] at hc
      exact .inl ⟨c, List.mem_of_mem_filter hc, rfl⟩
  | setClientMaxQuality clientId quality =>
      cases hstep
      exact .inl (hkept (map_clients_setClientMaxQuality (fun c => rfl) fun c => rfl) c hc)
  | handleClientPings now => exact absurd rfl (htick now)
  | onPongReceived clientId now => exact absurd rfl (hpong clientId now)
  | performQualityVerification measure now =>
      obtain ⟨registry', hrun, rfl⟩ := RegistryState.step_performQualityVerification hstep
      refine .inl (hkept (map_clients_performQualityVerification (fun c => rfl) ?_ hrun) c hc)
      intro c means measure
      unfold WebXClient.performQualityVerification
      split <;> rfl
  | addWindowDamage damage now | updateVisibleWindows windowVisibilities now
  | handleWindowGraphicalUpdates answer now =>
      cases hstep
      exact .inl ⟨c, hc, rfl⟩
  | disconnectAll =>
      cases hstep
      cases hc

/-- A client that waits for a pong goes on waiting, or its time is over. -/
theorem updatePingStatus_of_waitingForPong {c : WebXClient} (h : c.pingStatus = .waitingForPong) :
    c.updatePingStatus now =
      if now - c.pingSentTime > Time.ofMs c.pingResponseTimeoutMs then
        { c with pingStatus := .pongTimeout }
      else c := by
  rw [WebXClient.updatePingStatus, h]

/-- A client that waits for its next ping goes on waiting, or requires it. -/
theorem updatePingStatus_of_waitingToPing {c : WebXClient} (h : c.pingStatus = .waitingToPing) :
    c.updatePingStatus now =
      if now - c.pongReceivedTime > WebXClient.pingWaitInterval then
        { c with pingStatus := .requiresPing }
      else c := by
  rw [WebXClient.updatePingStatus, h]

/-- The messages of a tick. -/
theorem messages_tick (hinv : state.registry.Inv) (now : Time) :
    RegistryStep.messages ⟨state, .handleClientPings now,
      { state with registry := state.registry.handleClientPings now }⟩ =
        state.registry.pingMessages now :=
  RegistryStep.messages_eq (hinv.sent_handleClientPings now)

/-- A tick pings the clients that require it. -/
theorem pings_tick (hinv : state.registry.Inv) {d : WebXClient} (hd : d ∈ state.registry.clients) :
    RegistryStep.Pings ⟨state, .handleClientPings now,
      { state with registry := state.registry.handleClientPings now }⟩ d.ref ↔
        (d.updatePingStatus now).pingStatus = .requiresPing := by
  rw [RegistryStep.Pings, messages_tick hinv, ← hinv.ping_mem_pingMessages_iff hd]
  exact and_iff_right (List.mem_map_of_mem hd)

/-- A tick keeps the agreement of the status of the clients with the pings. -/
theorem PingInv.tick (h : PingInv settings steps state.registry) (hinv : state.registry.Inv)
    (now : Time) :
    PingInv settings (⟨state, .handleClientPings now,
        { state with registry := state.registry.handleClientPings now }⟩ :: steps)
      (state.registry.handleClientPings now) := by
  intro c hc
  rw [hinv.clients_handleClientPings] at hc
  obtain ⟨u, hu, rfl⟩ := List.mem_map.mp hc
  rw [List.mem_filter, decide_eq_true_eq] at hu
  obtain ⟨hu, hstays⟩ := hu
  obtain ⟨d, hd, rfl⟩ := List.mem_map.mp hu
  have hknows : RegistryStep.Knows ⟨state, .handleClientPings now,
      { state with registry := state.registry.handleClientPings now }⟩ d.ref := List.mem_map_of_mem hd
  obtain ⟨htimeout, hstatus⟩ := h d hd
  rw [ref_pinged, WebXClient.ref_updatePingStatus, unansweredPing_of_tick hknows rfl]
  simp only [pings_tick hinv hd]
  rcases hstatus with ⟨hwaiting, hsince⟩ | ⟨hwaiting, hnone⟩
  · -- a ping was sent, and there is still time to answer
    rw [updatePingStatus_of_waitingForPong hwaiting] at hstays ⊢
    by_cases hlate : now - d.pingSentTime > Time.ofMs d.pingResponseTimeoutMs
    · rw [if_pos hlate] at hstays
      exact absurd rfl hstays
    · have hnot : d.pingStatus ≠ .requiresPing := by rw [hwaiting]; decide
      rw [if_neg hlate, if_neg hnot, pinged, if_neg hnot]
      exact ⟨htimeout, .inl ⟨hwaiting, hsince⟩⟩
  · rw [updatePingStatus_of_waitingToPing hwaiting]
    by_cases hdue : now - d.pongReceivedTime > WebXClient.pingWaitInterval
    · -- a ping is sent now
      rw [if_pos hdue, if_pos rfl, pinged, if_pos rfl]
      exact ⟨htimeout, .inl ⟨rfl, rfl⟩⟩
    · have hnot : d.pingStatus ≠ .requiresPing := by rw [hwaiting]; decide
      rw [if_neg hdue, if_neg hnot, pinged, if_neg hnot]
      exact ⟨htimeout, .inr ⟨hwaiting, hnone⟩⟩

/-- A pong keeps the agreement of the status of the clients with the pings. -/
theorem PingInv.pong (h : PingInv settings steps state.registry) (hinv : state.registry.Inv)
    (clientId : UInt32) (now : Time) :
    PingInv settings (⟨state, .onPongReceived clientId now,
        { state with registry := state.registry.onPongReceived clientId now }⟩ :: steps)
      (state.registry.onPongReceived clientId now) := by
  intro c hc
  rw [WebXClientRegistry.onPongReceived, hinv.clients_updateClient] at hc
  obtain ⟨d, hd, rfl⟩ := List.mem_map.mp hc
  obtain ⟨htimeout, hstatus⟩ := h d hd
  by_cases hid : d.id = clientId
  · rw [if_pos hid]
    subst hid
    exact ⟨htimeout, .inr ⟨rfl, unansweredPing_of_pong ⟨now, rfl⟩⟩⟩
  · rw [if_neg hid, unansweredPing_of_other (List.mem_map_of_mem hd) (by intro _ h; cases h)]
    · exact ⟨htimeout, hstatus⟩
    · rintro ⟨_, hop⟩
      cases hop
      exact hid rfl

/-- **Every call keeps the agreement** of the status of the clients with the pings. -/
theorem PingInv.step (h : PingInv settings steps state.registry) (hinv : state.registry.Inv)
    (hstep : state.step settings op = .ok state') :
    PingInv settings (⟨state, op, state'⟩ :: steps) state'.registry := by
  by_cases htick : ∃ now, op = .handleClientPings now
  · obtain ⟨now, rfl⟩ := htick
    cases hstep
    exact h.tick hinv now
  · by_cases hpong : ∃ clientId now, op = .onPongReceived clientId now
    · obtain ⟨clientId, now, rfl⟩ := hpong
      cases hstep
      exact h.pong hinv clientId now
    -- other calls keep what the agreement is about, or add the client
    · push Not at htick hpong
      intro c hc
      rcases pingView_step hinv hstep htick hpong c hc with ⟨d, hd, hview⟩ | ⟨hnew, hwaiting, htimeout⟩
      · obtain ⟨hdtimeout, hdstatus⟩ := h d hd
        have href : c.ref = d.ref := congrArg (fun view => view.1) hview
        have hsettings : c.pingResponseTimeoutMs = d.pingResponseTimeoutMs :=
          congrArg (fun view => view.2.1) hview
        have hstatus : c.pingStatus = d.pingStatus := congrArg (fun view => view.2.2.1) hview
        have hsent : c.pingSentTime = d.pingSentTime := congrArg (fun view => view.2.2.2) hview
        rw [hsettings, hstatus, hsent, href, unansweredPing_of_other (List.mem_map_of_mem hd) htick]
        · exact ⟨hdtimeout, hdstatus⟩
        · rintro ⟨now, hop⟩
          exact hpong _ now hop
      · exact ⟨htimeout, .inr ⟨hwaiting, unansweredPing_of_not_knows hnew⟩⟩

/-- The status of the clients tells which of them have a ping to answer. -/
theorem History.pingInv (h : History settings steps state) : PingInv settings steps state.registry := by
  induction h with
  | start => intro c hc; cases hc
  | call h hstep ih => exact ih.step h.inv hstep

/-! ## The protocol -/

/-- The client has not answered its last ping for too long. -/
def TimedOut (settings : WebXSettings) (earlier : List RegistryStep) (client : WebXClientRef)
    (now : Time) : Prop :=
  ∃ pinged, unansweredPing client earlier = some pinged ∧
    now - pinged > Time.ofMs settings.controller.clientPingResponseTimeoutMs

/-- What the history of a registry says about pings. -/
structure PingProtocol (settings : WebXSettings) (steps : List RegistryStep) : Prop where
  /-- Between two pings to a client that stays registered there is a pong of it. -/
  answered : ∀ later second middle first earlier client,
    steps = later ++ second :: (middle ++ first :: earlier) →
    second.Pings client → first.Pings client → (∀ s ∈ middle, s.Knows client) →
      ∃ s ∈ middle, s.IsPongOf client
  /-- A call sends at most one ping to a client. -/
  pinged_once : ∀ s ∈ steps, ∀ client : WebXClientRef, s.messages.count ⟨client.index, .ping⟩ ≤ 1
  /-- A tick tells a registered client that its time is over exactly when it is. -/
  disconnected : ∀ later s earlier client now, steps = later ++ s :: earlier →
    s.op = .handleClientPings now → s.Knows client →
      (⟨client.index, .disconnect⟩ ∈ s.messages ↔ TimedOut settings earlier client now)
  /-- It was not over in any tick before, while the client was registered. -/
  disconnected_first : ∀ later s middle t earlier client now now',
    steps = later ++ s :: (middle ++ t :: earlier) →
    s.op = .handleClientPings now → t.op = .handleClientPings now' →
    (∀ u ∈ s :: (middle ++ [t]), u.Knows client) → ¬ TimedOut settings earlier client now'
  /-- The client is told so once, and is neither in the registry nor in a group any more. -/
  removed : ∀ later s earlier client now, steps = later ++ s :: earlier →
    s.op = .handleClientPings now → s.Knows client → ⟨client.index, .disconnect⟩ ∈ s.messages →
      s.messages.count ⟨client.index, .disconnect⟩ = 1 ∧ client ∉ s.after.registry.refs ∧
        ∀ group ∈ s.after.registry.groups, client ∉ group.clients
  /-- Until a client is added with the identifier and the bit of the removed one, the removed one is
  not registered. -/
  stays_removed : ∀ later t middle s earlier (client : WebXClientRef),
    steps = later ++ t :: (middle ++ s :: earlier) → client ∉ s.after.registry.refs → t.Knows client →
      ∃ u ∈ middle, (∃ clientVersion draws now, u.op = .addClient clientVersion draws now) ∧
        ¬ u.Knows client ∧ client ∈ u.after.registry.refs
  /-- Every message is addressed to exactly one client, which is registered. -/
  addressed : ∀ s ∈ steps, ∀ message ∈ s.messages,
    ∃! client, s.Knows client ∧ message.clientIndexMask = client.index
  /-- After every call, each client either waits for its next ping or for a pong. -/
  settled : ∀ s ∈ steps, ∀ c ∈ s.after.registry.clients,
    c.pingStatus ≠ .requiresPing ∧ c.pingStatus ≠ .pongTimeout

namespace History

variable {later middle : List RegistryStep} {s first second : RegistryStep}

/-- Only ticks send pings. -/
theorem tick_of_ping (h : History settings (later ++ s :: earlier) state)
    {message : WebXMessage} (hmem : message ∈ s.messages) (hping : message.type = .ping) :
    ∃ now, s.op = .handleClientPings now := by
  obtain ⟨htype, -⟩ := h.addressed message hmem
  rw [hping] at htype
  generalize s.op = op at htype
  cases op with
  | handleClientPings now => exact ⟨now, rfl⟩
  | _ => simp [RegistryOp.messageTypes] at htype

/-- The messages of a tick of a history. -/
theorem messages_tick (h : History settings (later ++ s :: earlier) state)
    (htick : s.op = .handleClientPings now) :
    s.messages = s.before.registry.pingMessages now ∧
      s.after.registry = s.before.registry.handleClientPings now := by
  obtain ⟨hbefore, hstep⟩ := h.split
  obtain ⟨before, op, after⟩ := s
  dsimp only at htick hstep hbefore ⊢
  subst htick
  cases hstep
  exact ⟨WebXEngine.messages_tick hbefore.inv now, rfl⟩

/-- A registered client is told that its time is over exactly when it is. -/
theorem disconnect_mem_iff (h : History settings (later ++ s :: earlier) state)
    (htick : s.op = .handleClientPings now) (hknows : s.Knows client) :
    ⟨client.index, .disconnect⟩ ∈ s.messages ↔ TimedOut settings earlier client now := by
  obtain ⟨hbefore, -⟩ := h.split
  obtain ⟨c, hc, rfl⟩ := List.mem_map.mp hknows
  rw [(h.messages_tick htick).1]
  refine (hbefore.inv.disconnect_mem_pingMessages_iff hc).trans ?_
  obtain ⟨htimeout, ⟨hwaiting, hsince⟩ | ⟨hwaiting, hnone⟩⟩ := hbefore.pingInv c hc
  · rw [updatePingStatus_of_waitingForPong hwaiting, htimeout, TimedOut, hsince]
    simp only [Option.some.injEq, exists_eq_left']
    split_ifs with hlate
    · simp [hlate]
    · simp [hlate, hwaiting]
  · rw [updatePingStatus_of_waitingToPing hwaiting, TimedOut, hnone]
    split_ifs <;> simp [hwaiting]

/-- A client that is told that its time is over is removed. -/
theorem removed_of_disconnect (h : History settings (later ++ s :: earlier) state)
    (htick : s.op = .handleClientPings now) (hknows : s.Knows client)
    (hmem : ⟨client.index, .disconnect⟩ ∈ s.messages) : client ∉ s.after.registry.refs := by
  obtain ⟨hbefore, -⟩ := h.split
  obtain ⟨hmessages, hafter⟩ := h.messages_tick htick
  rw [hmessages] at hmem
  rw [hafter]
  intro hclient
  obtain ⟨c, hc, rfl⟩ := List.mem_map.mp hclient
  rw [hbefore.inv.clients_handleClientPings] at hc
  obtain ⟨u, hu, rfl⟩ := List.mem_map.mp hc
  rw [List.mem_filter, decide_eq_true_eq] at hu
  rw [ref_pinged] at hmem
  exact hu.2 ((hbefore.inv.disconnect_mem_pingMessages hu.1).mp hmem)

/-- A ping is only sent to a client that has answered the one before. -/
theorem unansweredPing_of_pings (h : History settings (later ++ s :: earlier) state)
    (hpings : s.Pings client) : unansweredPing client earlier = none := by
  obtain ⟨hbefore, -⟩ := h.split
  obtain ⟨hknows, hmem⟩ := hpings
  obtain ⟨now, htick⟩ := h.tick_of_ping hmem rfl
  obtain ⟨c, hc, rfl⟩ := List.mem_map.mp hknows
  rw [(h.messages_tick htick).1] at hmem
  have hrequires := (hbefore.inv.ping_mem_pingMessages_iff hc).mp hmem
  obtain ⟨-, ⟨hwaiting, -⟩ | ⟨-, hnone⟩⟩ := hbefore.pingInv c hc
  · rw [updatePingStatus_of_waitingForPong hwaiting] at hrequires
    split_ifs at hrequires
    rw [hwaiting] at hrequires
    cases hrequires
  · exact hnone

/-- A ping stays unanswered until there is a pong. -/
theorem unansweredPing_ne_none (hfirst : unansweredPing client earlier ≠ none)
    (hknows : ∀ s ∈ middle, s.Knows client) (hpong : ∀ s ∈ middle, ¬ s.IsPongOf client) :
    unansweredPing client (middle ++ earlier) ≠ none := by
  induction middle with
  | nil => exact hfirst
  | cons s middle ih =>
      rw [List.forall_mem_cons] at hknows hpong
      have hrest := ih hknows.2 hpong.2
      rw [List.cons_append]
      by_cases htick : ∃ now, s.op = .handleClientPings now
      · obtain ⟨now, htick⟩ := htick
        rw [unansweredPing_of_tick hknows.1 htick]
        split_ifs
        · exact Option.some_ne_none _
        · exact hrest
      · rw [unansweredPing_of_other hknows.1 (fun now hop => htick ⟨now, hop⟩) hpong.1]
        exact hrest

/-- The protocol of the pings is kept. -/
theorem keepsPingProtocol (h : History settings steps state) : PingProtocol settings steps where
  answered := by
    rintro later second middle first earlier client rfl hsecond hfirst hknows
    have hnone := h.unansweredPing_of_pings hsecond
    have hfirstHistory : History settings (first :: earlier) first.after := by
      obtain ⟨hbefore, -⟩ := h.split
      exact hbefore.split_after
    have hlatest : History settings ([] ++ first :: earlier) first.after := hfirstHistory
    obtain ⟨now, htick⟩ := tick_of_ping hlatest hfirst.2 rfl
    have hpinged : unansweredPing client (first :: earlier) ≠ none := by
      rw [unansweredPing_of_tick hfirst.1 htick, if_pos hfirst]
      exact Option.some_ne_none _
    by_contra hpong
    push Not at hpong
    exact unansweredPing_ne_none hpinged hknows hpong hnone
  pinged_once := by
    intro s hs client
    obtain ⟨later, earlier, rfl⟩ := List.append_of_mem hs
    by_cases hmem : ⟨client.index, .ping⟩ ∈ s.messages
    · obtain ⟨now, htick⟩ := h.tick_of_ping hmem rfl
      rw [(h.messages_tick htick).1]
      exact List.nodup_iff_count_le_one.mp (h.split.1.inv.nodup_pingMessages now) _
    · rw [List.count_eq_zero_of_not_mem hmem]
      exact Nat.zero_le 1
  disconnected := by
    rintro later s earlier client now rfl htick hknows
    exact h.disconnect_mem_iff htick hknows
  disconnected_first := by
    rintro later s middle t earlier client now now' rfl - htick' hknows htimedOut
    rw [List.forall_mem_cons, List.forall_mem_append] at hknows
    obtain ⟨hs, hmiddle, ht⟩ := hknows
    have htknows := ht t (List.mem_singleton_self t)
    obtain ⟨hbefore, -⟩ := h.split
    -- it would have been removed then
    have hgone := hbefore.removed_of_disconnect htick' htknows
      ((hbefore.disconnect_mem_iff htick' htknows).mpr htimedOut)
    obtain ⟨u, hu, -, hunknown, -⟩ := hbefore.registered_anew hgone hs
    exact hunknown (hmiddle u hu)
  removed := by
    rintro later s earlier client now rfl htick hknows hmem
    have hgone := h.removed_of_disconnect htick hknows hmem
    refine ⟨?_, hgone, fun group hgroup hclient => ?_⟩
    · rw [(h.messages_tick htick).1] at hmem ⊢
      exact List.count_eq_one_of_mem (h.split.1.inv.nodup_pingMessages now) hmem
    · exact hgone (h.split_after.inv.groups.mem_members hgroup hclient)
  stays_removed := by
    rintro later t middle s earlier client rfl hgone hknows
    exact h.split.1.registered_anew hgone hknows
  addressed := by
    intro s hs message hmessage
    obtain ⟨later, earlier, rfl⟩ := List.append_of_mem hs
    obtain ⟨-, client, hclient, hmask⟩ := h.addressed message hmessage
    refine ⟨client, ⟨hclient, hmask⟩, ?_⟩
    rintro other ⟨hother, hothermask⟩
    exact h.split.1.inv.members.eq_of_index_eq hother hclient (hothermask.symm.trans hmask)
  settled := by
    intro s hs c hc
    obtain ⟨later, earlier, rfl⟩ := List.append_of_mem hs
    obtain ⟨-, ⟨hstatus, -⟩ | ⟨hstatus, -⟩⟩ := h.split_after.pingInv c hc
    · rw [hstatus]
      decide
    · rw [hstatus]
      decide

end History

/-- **The protocol of the pings is kept** whatever calls are made to a registry, in any order and at
any times. -/
theorem pingProtocol (settings : WebXSettings) (ops : List RegistryOp) :
    ∃ steps state, History settings steps state ∧ steps.map RegistryStep.op = ops ∧
      PingProtocol settings steps := by
  obtain ⟨steps, state, h, hops⟩ := History.exists_of_ops settings ops
  exact ⟨steps, state, h, hops, h.keepsPingProtocol⟩

end WebXEngine
