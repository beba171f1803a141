import WebXEngine.Controller.RegistryHistory
import WebXEngine.Foundations.Runs

/-! # Messages for one client

A message is addressed to the bit of a client. It waits in the queue of the publisher, and the client
may leave meanwhile; its bit is the first one that the next client gets.

* **`AddressingState.step`** — the steps of the connector, the controller and the publisher.
* **`AlwaysAddressed`** — no client is sent what was created for another one.
* **`alwaysAddressed`** — this is so as long as no client gets a bit that is still in use for another
  one. -/

namespace WebXEngine

open BitMask WebXClientRegistry

/-- A message for the clients; the number of the client when it was created for one in particular. -/
structure Envelope where
  message : WebXMessage
  recipient : Option ℕ
  deriving DecidableEq, Repr

/-- A message was published: the numbers of the clients that had a bit of its mask. -/
structure Publication where
  envelope : Envelope
  addressed : List ℕ
  deriving DecidableEq, Repr

/-- The registry with the numbers of its clients, the client that the controller looked up with its
number, the queue of the publisher, the message that it took, and what it published. Identifiers and
bits come back, numbers do not. -/
structure AddressingState where
  registry : RegistryState
  numbers : UInt32 → ℕ
  next : ℕ
  client : Option (WebXClientRef × ℕ)
  queue : List Envelope
  taken : Option Envelope
  published : List Publication

/-- The steps of the three threads. The registry is called by the connector, to add or remove a client,
and by the controller; its functions hold its mutex. -/
inductive AddressingAction
  | callRegistry (op : RegistryOp)
  /-- The controller looks up the client of an instruction. -/
  | getClientById (clientId : UInt32)
  /-- The controller answers the client that it looked up. -/
  | respond (content : WebXMessage.Content)
  /-- The controller has handled the instruction. -/
  | endInstruction
  /-- The controller sends a message to a group, or to all. -/
  | sendMessage (message : WebXMessage)
  /-- The publisher takes the first message. -/
  | get
  /-- The publisher sends the message that it took. -/
  | publish

namespace AddressingState

/-- The start of the engine. -/
def init : AddressingState where
  registry := .init
  numbers := fun _ => 0
  next := 0
  client := none
  queue := []
  taken := none
  published := []

variable (settings : WebXSettings) (state : AddressingState)

/-- The number of the client that has a bit. -/
def numberOf (index : UInt64) : Option ℕ :=
  (state.registry.registry.refs.find? fun client => client.index = index).map fun client =>
    state.numbers client.id

/-- The numbers of the clients that have a bit of a mask. -/
def addressed (clientIndexMask : UInt64) : List ℕ :=
  (state.registry.registry.refs.filter fun client => client.index &&& clientIndexMask ≠ 0).map
    fun client => state.numbers client.id

/-- A call of the registry, which sends messages to single clients. A client that is added gets the
next number. -/
def callRegistry (op : RegistryOp) : Except Fault AddressingState :=
  (state.registry.step settings op).map fun registry =>
    let messages := registry.registry.sent.drop state.registry.registry.sent.length
    { state with
      registry := registry
      numbers := fun clientId =>
        if state.registry.registry.isValidClient clientId then state.numbers clientId else state.next
      next := state.next + 1
      queue := state.queue ++ messages.map fun message =>
        ⟨message, state.numberOf message.clientIndexMask⟩ }

/-- Looks up a client; the pointer is kept while its instruction is handled. -/
def getClientById (clientId : UInt32) : AddressingState :=
  { state with
    client := (state.registry.registry.getClientById clientId).map fun client =>
      (client.ref, state.numbers client.id) }

/-- Answers the client that was looked up. -/
def respond (content : WebXMessage.Content) : AddressingState :=
  { state with
    queue := state.queue ++ state.client.toList.map fun client =>
      ⟨⟨client.1.index, content⟩, some client.2⟩ }

/-- Drops the client that was looked up. -/
def endInstruction : AddressingState := { state with client := none }

/-- Takes the first message, once the one before has been sent. -/
def get : AddressingState :=
  match state.taken, state.queue with
  | none, envelope :: queue => { state with queue := queue, taken := some envelope }
  | _, _ => state

/-- Sends the message that was taken. -/
def publish : AddressingState :=
  { state with
    taken := none
    published := state.published ++ state.taken.toList.map fun envelope =>
      ⟨envelope, state.addressed envelope.message.clientIndexMask⟩ }

/-- One step of a thread. -/
def step : AddressingAction → Except Fault AddressingState
  | .callRegistry op => state.callRegistry settings op
  | .getClientById clientId => .ok (state.getClientById clientId)
  | .respond content => .ok (state.respond content)
  | .endInstruction => .ok state.endInstruction
  | .sendMessage message => .ok { state with queue := state.queue ++ [⟨message, none⟩] }
  | .get => .ok state.get
  | .publish => .ok state.publish

/-- The bits in use, each with the number of the client that it is in use for: those of the messages
for one client that were not sent, and that of the client that was looked up. -/
def inUse : List (UInt64 × ℕ) :=
  (state.taken.toList ++ state.queue).filterMap (fun envelope =>
      envelope.recipient.map fun number => (envelope.message.clientIndexMask, number)) ++
    state.client.toList.map fun client => (client.1.index, client.2)

/-- A client that is added gets a bit that is not in use. -/
def GivesFreshBit : AddressingAction → Prop
  | .callRegistry (.addClient _ _ _) =>
      ~~~state.registry.registry.clientIndexMask ≠ 0 → ∀ use ∈ state.inUse,
        use.1 ≠ firstFreeBit state.registry.registry.clientIndexMask 64 1
  | _ => True

end AddressingState

/-- What was created for one client was not published to another one. -/
def Publication.Addressed (publication : Publication) : Prop :=
  ∀ number ∈ publication.envelope.recipient, ∀ other ∈ publication.addressed, other = number

/-- In all runs, what is created for one client is not published to another one. -/
def AlwaysAddressed (settings : WebXSettings)
    (condition : AddressingState → AddressingAction → Prop) : Prop :=
  ∀ actions state, Run (AddressingState.step settings) condition .init actions state →
    ∀ publication ∈ state.published, publication.Addressed

namespace AddressingState

variable {settings : WebXSettings} {state state' : AddressingState}

/-! ## The bits in use -/

/-- A use of an index is that of an envelope that is queued or taken, or of the client whose
instruction is being handled. -/
theorem mem_inUse {use : UInt64 × ℕ} : use ∈ state.inUse ↔
    (∃ envelope ∈ state.taken.toList ++ state.queue, envelope.message.clientIndexMask = use.1 ∧
        envelope.recipient = some use.2) ∨
      ∃ client ∈ state.client, client.1.index = use.1 ∧ client.2 = use.2 := by
  rw [inUse, List.mem_append, List.mem_filterMap, List.mem_map]
  refine or_congr (exists_congr fun envelope => and_congr_right fun _ => ?_)
    (exists_congr fun client => ?_)
  · cases envelope.recipient with
    | none => simp
    | some number => simp [Prod.ext_iff]
  · rw [Option.mem_toList, Prod.ext_iff]
    exact Iff.rfl

/-- A message that was not sent uses the bit of its client. -/
theorem envelope_mem_inUse {envelope : Envelope} (h : envelope ∈ state.taken.toList ++ state.queue)
    {number : ℕ} (hrecipient : envelope.recipient = some number) :
    (envelope.message.clientIndexMask, number) ∈ state.inUse :=
  mem_inUse.mpr (.inl ⟨envelope, h, rfl, hrecipient⟩)

/-- Messages are put into the queue: those for one client use its bit. -/
theorem mem_inUse_of_queue (state : AddressingState) {use : UInt64 × ℕ} (huse : use ∈ state'.inUse)
    {envelopes : List Envelope} (hqueue : state'.queue = state.queue ++ envelopes)
    (htaken : state'.taken = state.taken) (hclient : state'.client = state.client) :
    use ∈ state.inUse ∨
      ∃ envelope ∈ envelopes, envelope.message.clientIndexMask = use.1 ∧
        envelope.recipient = some use.2 := by
  rw [mem_inUse, htaken, hqueue, hclient, ← List.append_assoc] at huse
  rcases huse with ⟨envelope, henvelope, hmask, hrecipient⟩ | hclient
  · rcases List.mem_append.mp henvelope with hold | hnew
    · exact .inl (mem_inUse.mpr (.inl ⟨envelope, hold, hmask, hrecipient⟩))
    · exact .inr ⟨envelope, hnew, hmask, hrecipient⟩
  · exact .inl (mem_inUse.mpr (.inr hclient))

/-! ## What the steps keep -/

/-- A bit in use is a single one; a client that has it is the one that it is in use for. -/
structure Tracked (state : AddressingState) : Prop where
  inv : state.registry.registry.Inv
  singleBit : ∀ use ∈ state.inUse, SingleBit use.1
  number : ∀ use ∈ state.inUse, ∀ client ∈ state.registry.registry.refs, client.index = use.1 →
    state.numbers client.id = use.2
  published : ∀ publication ∈ state.published, publication.Addressed

/-- Before the first client there is nothing to track. -/
theorem tracked_init : Tracked init where
  inv := inv_create
  singleBit := fun _ h => by cases h
  number := fun _ h => by cases h
  published := fun _ h => by cases h

/-- The registry does not change, and no bit comes into use. -/
theorem Tracked.of_inUse_subset (h : Tracked state) (hregistry : state'.registry = state.registry)
    (hnumbers : state'.numbers = state.numbers) (hinUse : ∀ use ∈ state'.inUse, use ∈ state.inUse)
    (hpublished : ∀ publication ∈ state'.published, publication.Addressed) : Tracked state' where
  inv := hregistry ▸ h.inv
  singleBit := fun use huse => h.singleBit use (hinUse use huse)
  number := by
    intro use huse
    rw [hregistry, hnumbers]
    exact h.number use (hinUse use huse)
  published := hpublished

/-- A client that is registered is found by its bit. -/
theorem Tracked.numberOf (h : Tracked state) {client : WebXClientRef}
    (hclient : client ∈ state.registry.registry.refs) :
    state.numberOf client.index = some (state.numbers client.id) := by
  have hsome : (state.registry.registry.refs.find? fun c => c.index = client.index).isSome := by
    rw [List.find?_isSome]
    exact ⟨client, hclient, decide_eq_true rfl⟩
  obtain ⟨found, hfound⟩ := Option.isSome_iff_exists.mp hsome
  have hindex : found.index = client.index := by simpa using List.find?_some hfound
  rw [AddressingState.numberOf, hfound,
    h.inv.members.eq_of_index_eq (List.mem_of_find?_eq_some hfound) hclient hindex]
  rfl

/-- A client keeps its number. -/
theorem isValidClient_of_mem {registry : WebXClientRegistry} {client : WebXClientRef}
    (hclient : client ∈ registry.refs) : registry.isValidClient client.id = true := by
  obtain ⟨c, hc, rfl⟩ := List.mem_map.mp hclient
  rw [isValidClient, WebXClientRegistry.getClientById, List.find?_isSome]
  exact ⟨c, hc, decide_eq_true rfl⟩

/-- **A call of the registry** leaves the bits in use to their clients, as long as a client that is
added gets another one. -/
theorem Tracked.callRegistry (h : Tracked state) {op : RegistryOp}
    (hfresh : state.GivesFreshBit (.callRegistry op))
    (hstep : state.callRegistry settings op = .ok state') : Tracked state' := by
  rw [AddressingState.callRegistry] at hstep
  obtain ⟨registry, hregistry, hinv⟩ := RegistryState.inv_step settings state.registry op h.inv
  obtain ⟨messages, hsent, haddressed⟩ := RegistryState.sentToClients_step h.inv hregistry
  rw [hregistry] at hstep
  cases hstep
  -- a client that has a bit in use was registered before
  have hknown : ∀ use : UInt64 × ℕ, (use ∈ state.inUse ∨ op.messageTypes ≠ []) →
      ∀ client ∈ registry.registry.refs, client.index = use.1 →
        client ∈ state.registry.registry.refs := by
    intro use huse client hclient hindex
    by_contra hnew
    obtain ⟨⟨clientVersion, draws, now, rfl⟩, hfull, hbit⟩ :=
      RegistryState.registered_step h.inv hregistry hclient hnew
    rcases huse with huse | htypes
    · exact hfresh hfull use huse (hindex.symm.trans hbit)
    · exact htypes rfl
  have hkeep : ∀ client ∈ state.registry.registry.refs,
      (if state.registry.registry.isValidClient client.id then state.numbers client.id
        else state.next) = state.numbers client.id :=
    fun client hclient => if_pos (isValidClient_of_mem hclient)
  -- the bits that come into use are those of clients
  have hnew : ∀ envelope : Envelope, envelope ∈
      (registry.registry.sent.drop state.registry.registry.sent.length).map (fun message =>
        (⟨message, state.numberOf message.clientIndexMask⟩ : Envelope)) →
      op.messageTypes ≠ [] ∧ ∃ client ∈ state.registry.registry.refs,
        envelope.message.clientIndexMask = client.index ∧
          envelope.recipient = some (state.numbers client.id) := by
    intro envelope henvelope
    rw [hsent, List.drop_left] at henvelope
    obtain ⟨message, hmessage, rfl⟩ := List.mem_map.mp henvelope
    obtain ⟨htype, client, hclient, hindex⟩ := haddressed message hmessage
    exact ⟨List.ne_nil_of_mem htype, client, hclient, hindex,
      (congrArg state.numberOf hindex).trans (h.numberOf hclient)⟩
  refine ⟨hinv, fun use huse => ?_, fun use huse client hclient hindex => ?_, h.published⟩
  · rcases mem_inUse_of_queue state huse rfl rfl rfl with hold | ⟨envelope, henvelope, hmask, -⟩
    · exact h.singleBit use hold
    · obtain ⟨-, c, hc, hindex, -⟩ := hnew envelope henvelope
      exact hmask ▸ hindex ▸ h.inv.members.singleBit c hc
  · rcases mem_inUse_of_queue state huse rfl rfl rfl with hold | ⟨envelope, henvelope, hmask, hnumber⟩
    · have hbefore := hknown use (.inl hold) client hclient hindex
      exact (hkeep client hbefore).trans (h.number use hold client hbefore hindex)
    · obtain ⟨htypes, c, hc, hindex', hnumber'⟩ := hnew envelope henvelope
      have hbefore := hknown use (.inr htypes) client hclient hindex
      have hsame := h.inv.members.eq_of_index_eq hbefore hc
        (hindex.trans (hmask.symm.trans hindex'))
      exact (hkeep client hbefore).trans
        (hsame ▸ Option.some.inj (hnumber'.symm.trans hnumber))

/-- The client that is looked up uses its bit from now on. -/
theorem Tracked.getClientById (h : Tracked state) (clientId : UInt32) :
    Tracked (state.getClientById clientId) := by
  have hinUse : ∀ use ∈ (state.getClientById clientId).inUse, use ∈ state.inUse ∨
      ∃ client ∈ state.registry.registry.refs, client.index = use.1 ∧
        state.numbers client.id = use.2 := by
    intro use huse
    rcases mem_inUse.mp huse with henvelope | ⟨client, hclient, hindex, hnumber⟩
    · exact .inl (mem_inUse.mpr (.inl henvelope))
    · obtain ⟨c, hc, rfl⟩ := Option.map_eq_some_iff.mp hclient
      exact .inr ⟨c.ref, (ref_mem_refs hc).1, hindex, hnumber⟩
  refine ⟨h.inv, fun use huse => ?_, fun use huse client hclient hindex => ?_, h.published⟩
  · rcases hinUse use huse with hold | ⟨c, hc, hindex, -⟩
    · exact h.singleBit use hold
    · exact hindex ▸ h.inv.members.singleBit c hc
  · rcases hinUse use huse with hold | ⟨c, hc, hindex', hnumber⟩
    · exact h.number use hold client hclient hindex
    · have hsame := h.inv.members.eq_of_index_eq hclient hc (hindex.trans hindex'.symm)
      exact hsame ▸ hnumber

/-- An answer uses the bit of the client that was looked up. -/
theorem Tracked.respond (h : Tracked state) (content : WebXMessage.Content) :
    Tracked (state.respond content) := by
  refine h.of_inUse_subset rfl rfl (fun use huse => ?_) h.published
  rcases mem_inUse_of_queue state huse rfl rfl rfl with hold | ⟨envelope, henvelope, hmask, hrecipient⟩
  · exact hold
  · obtain ⟨client, hclient, rfl⟩ := List.mem_map.mp henvelope
    exact mem_inUse.mpr
      (.inr ⟨client, Option.mem_toList.mp hclient, hmask, Option.some.inj hrecipient⟩)

/-- The client that was looked up does not use its bit any more. -/
theorem Tracked.endInstruction (h : Tracked state) : Tracked state.endInstruction := by
  refine h.of_inUse_subset rfl rfl (fun use huse => ?_) h.published
  rcases mem_inUse.mp huse with henvelope | ⟨client, hclient, -⟩
  · exact mem_inUse.mpr (.inl henvelope)
  · cases hclient

/-- A message for a group, or for all, is for no client in particular. -/
theorem Tracked.sendMessage (h : Tracked state) (message : WebXMessage) :
    Tracked { state with queue := state.queue ++ [⟨message, none⟩] } := by
  refine h.of_inUse_subset rfl rfl (fun use huse => ?_) h.published
  rcases mem_inUse_of_queue state huse rfl rfl rfl with hold | ⟨envelope, henvelope, -, hrecipient⟩
  · exact hold
  · cases List.mem_singleton.mp henvelope
    cases hrecipient

/-- A message that is taken is still to be sent. -/
theorem Tracked.get (h : Tracked state) : Tracked state.get := by
  rw [AddressingState.get]
  split
  · rename_i envelope queue htaken hqueue
    refine h.of_inUse_subset rfl rfl (fun use huse => ?_) h.published
    rw [mem_inUse] at huse ⊢
    rw [htaken, hqueue]
    exact huse
  · exact h

/-- **A message that is sent** for one client reaches no other one. -/
theorem Tracked.publish (h : Tracked state) : Tracked state.publish := by
  refine h.of_inUse_subset rfl rfl (fun use huse => ?_) fun publication hpublication => ?_
  · rcases mem_inUse.mp huse with ⟨envelope, henvelope, hmask, hrecipient⟩ | hclient
    · exact mem_inUse.mpr
        (.inl ⟨envelope, List.mem_append_right _ henvelope, hmask, hrecipient⟩)
    · exact mem_inUse.mpr (.inr hclient)
  · rcases List.mem_append.mp hpublication with hold | hnew
    · exact h.published publication hold
    · obtain ⟨envelope, htaken, rfl⟩ := List.mem_map.mp hnew
      intro number hrecipient other hother
      have huse := envelope_mem_inUse (List.mem_append_left _ htaken) hrecipient
      obtain ⟨client, hclient, rfl⟩ := List.mem_map.mp hother
      obtain ⟨hmem, hshares⟩ := List.mem_filter.mp hclient
      -- the mask is a single bit, so that the client has this bit
      have hindex := (h.inv.members.singleBit client hmem).eq_of_and_ne_zero
        (h.singleBit _ huse) (of_decide_eq_true hshares)
      exact h.number _ huse client hmem hindex

/-- Every step keeps the bits in use to their clients. -/
theorem Tracked.step (h : Tracked state) {action : AddressingAction}
    (hfresh : state.GivesFreshBit action) (hstep : state.step settings action = .ok state') :
    Tracked state' := by
  cases action with
  | callRegistry op => exact h.callRegistry hfresh hstep
  | getClientById clientId =>
      cases hstep
      exact h.getClientById clientId
  | respond content =>
      cases hstep
      exact h.respond content
  | endInstruction =>
      cases hstep
      exact h.endInstruction
  | sendMessage message =>
      cases hstep
      exact h.sendMessage message
  | get =>
      cases hstep
      exact h.get
  | publish =>
      cases hstep
      exact h.publish

end AddressingState

/-- **What is created for one client is published to no other one**, as long as a client that is added
gets a bit that is not in use. -/
theorem alwaysAddressed (settings : WebXSettings) :
    AlwaysAddressed settings AddressingState.GivesFreshBit := by
  intro actions state hrun
  have htracked : state.Tracked :=
    hrun.invariant (P := AddressingState.Tracked) (fun _ _ _ h hfresh hstep => h.step hfresh hstep)
      AddressingState.tracked_init
  exact htracked.published

namespace AddressingState

/-- A client gets a ping and an answer, leaves, and another one comes. -/
def answeredBefore : List AddressingAction :=
  [.callRegistry (.addClient ⟨1, 0, 0⟩ [7] 0), .callRegistry (.handleClientPings (Time.ofMs 2000)),
    .getClientById 7, .respond (.windows 1 []), .endInstruction, .get, .publish, .get, .publish,
    .callRegistry (.removeClient 7), .callRegistry (.addClient ⟨1, 0, 0⟩ [8] (Time.ofMs 2000))]

/-- The ping and the answer are sent to the first client only. -/
theorem alwaysAddressed_answeredBefore : ∃ state,
    Run (step .default) GivesFreshBit init answeredBefore state ∧
      state.published.map Publication.addressed = [[0], [0]] ∧
      ∀ publication ∈ state.published, publication.Addressed := by
  obtain ⟨state, hrun, haddressed⟩ : ∃ state,
      Run (step .default) GivesFreshBit init answeredBefore state ∧
        state.published.map Publication.addressed = [[0], [0]] :=
    ⟨_, .cons (fun _ _ huse => nomatch huse) rfl (.cons trivial rfl (.cons trivial rfl
      (.cons trivial rfl (.cons trivial rfl (.cons trivial rfl (.cons trivial rfl (.cons trivial rfl
        (.cons trivial rfl (.cons trivial rfl (.cons (fun _ _ huse => nomatch huse) rfl
          (.nil _))))))))))), by decide +kernel⟩
  exact ⟨state, hrun, haddressed, alwaysAddressed .default answeredBefore state hrun⟩

/-- A client leaves before its ping is sent, and another one comes. -/
def reconnection : List AddressingAction :=
  [.callRegistry (.addClient ⟨1, 0, 0⟩ [7] 0), .callRegistry (.handleClientPings (Time.ofMs 2000)),
    .callRegistry (.removeClient 7), .callRegistry (.addClient ⟨1, 0, 0⟩ [8] (Time.ofMs 2000)),
    .get, .publish]

/-- The ping is sent to the other client. -/
theorem not_alwaysAddressed : ¬ AlwaysAddressed .default fun _ _ => True := by
  intro h
  obtain ⟨state, hrun, hpublished⟩ : ∃ state,
      Run (step .default) (fun _ _ => True) init reconnection state ∧
        state.published = [⟨⟨⟨1, .ping⟩, some 0⟩, [3]⟩] :=
    ⟨_, .cons trivial rfl (.cons trivial rfl (.cons trivial rfl (.cons trivial rfl
      (.cons trivial rfl (.cons trivial rfl (.nil _)))))), by decide +kernel⟩
  have haddressed := h _ state hrun ⟨⟨⟨1, .ping⟩, some 0⟩, [3]⟩
    (by rw [hpublished]; exact List.mem_singleton_self _) 0 rfl 3 (List.mem_singleton_self _)
  exact absurd haddressed (by decide)

end AddressingState

end WebXEngine
