import WebXEngine.Controller.RegistryInvariant

/-! # The bits of the clients

The mask of the registry says which bits are taken. Every operation that registers or removes clients
has to change it too, or bits are lost for the clients to come.

* **`WebXClientRegistry.NoLeak`** — the mask is the union of the bits of the clients.
* **`WebXClientRegistry.AcceptsClients`** — a client is accepted exactly when fewer than 64 are
  registered.
* **`RegistryState.alwaysAcceptsClients`** — this is so in the runs that do not disconnect all clients while
  there are some. -/

namespace WebXEngine

open BitMask

namespace WebXClientRegistry

variable {settings : WebXSettings} {registry : WebXClientRegistry} {client : WebXClientRef}
  {quality : WebXQuality}

/-- The mask is the union of the bits of the clients. -/
def NoLeak (registry : WebXClientRegistry) : Prop :=
  registry.clientIndexMask = orAll (registry.refs.map WebXClientRef.index)

/-- A registry without clients has no index in use. -/
theorem noLeak_create : NoLeak create := rfl

/-- Only the mask and the pointers to the clients matter. -/
theorem NoLeak.congr {registry' : WebXClientRegistry} (h : NoLeak registry)
    (hmask : registry'.clientIndexMask = registry.clientIndexMask)
    (hrefs : registry'.refs = registry.refs) : NoLeak registry' := by
  rw [NoLeak, hmask, hrefs]
  exact h

/-! ## Operations -/

/-- A client that is added takes the index that is marked for it. -/
theorem NoLeak.addClient (h : NoLeak registry) {clientVersion : WebXVersion} {draws : List UInt32}
    {now : Time} {result : Except String (UInt32 × UInt64)} {registry' : WebXClientRegistry}
    (hadd : registry.addClient settings clientVersion draws now = some (result, registry')) :
    NoLeak registry' := by
  rw [WebXClientRegistry.addClient] at hadd
  split_ifs at hadd with hfull
  · cases hadd
    exact h
  · obtain ⟨clientId, -, heq⟩ := Option.map_eq_some_iff.mp hadd
    cases heq
    rw [NoLeak, clientIndexMask_addClientToGroup, refs_addClientToGroup, refs, List.map_append,
      List.map_append]
    change registry.clientIndexMask ||| _ = orAll (registry.refs.map WebXClientRef.index ++ [_])
    rw [orAll_concat, ← h]
    rfl

/-- The bit of a client that leaves is free again. -/
theorem NoLeak.removeClient (h : NoLeak registry) (hinv : Inv registry) (clientId : UInt32) :
    NoLeak (registry.removeClient clientId).2 := by
  cases hclient : registry.getClientById clientId with
  | none => rwa [hinv.removeClient_of_none hclient]
  | some c =>
      obtain ⟨hmem, rfl⟩ := ref_mem_refs hclient
      have hperm := (List.perm_cons_erase hmem).map WebXClientRef.index
      rw [NoLeak, refs_removeClient hclient, removeClient_of_some _ hclient]
      change registry.clientIndexMask &&& ~~~c.index = _
      rw [h, orAll_perm hperm, List.map_cons, orAll_cons]
      refine orAll_clear fun n hn => ?_
      -- no other client has the bit
      obtain ⟨m, hm, rfl⟩ := List.mem_map.mp hn
      have hne : c.ref ≠ m := by
        rintro rfl
        exact (List.Nodup.of_map _ hinv.members.ids).not_mem_erase hm
      exact hinv.members.and_eq_zero hmem (List.mem_of_mem_erase hm) hne

/-- A change of quality does not change the mask. -/
@[simp] theorem clientIndexMask_setClientQuality :
    (registry.setClientQuality client quality).clientIndexMask = registry.clientIndexMask := by
  cases hgroup : registry.getGroupWithClientId client.id with
  | none =>
      rw [WebXClientRegistry.setClientQuality, hgroup]
      exact clientIndexMask_addClientToGroup
  | some oldGroup =>
      rw [setClientQuality_of_some _ hgroup]
      split_ifs
      · exact clientIndexMask_addClientToGroup
      · rfl

/-- The largest quality of a client has nothing to do with the indices. -/
theorem NoLeak.setClientMaxQuality (h : NoLeak registry) (clientId : UInt32)
    (quality : WebXQuality) : NoLeak (registry.setClientMaxQuality clientId quality) := by
  cases hclient : registry.getClientById clientId with
  | none => rwa [setClientMaxQuality_of_none _ hclient]
  | some c =>
      rw [setClientMaxQuality_of_some _ hclient]
      have hrefs := refs_updateClient registry clientId fun c => c.ref_setMaxQuality quality
      dsimp only
      split_ifs
      · exact h.congr clientIndexMask_setClientQuality (refs_setClientQuality.trans hrefs)
      · exact h.congr rfl hrefs

/-- The clients that did not answer give their indices back, one after the other. -/
theorem NoLeak.removeTimedOutClients (clientsWithTimeout : List WebXClient) :
    ∀ {registry : WebXClientRegistry}, NoLeak registry → Inv registry →
      NoLeak (registry.removeTimedOutClients clientsWithTimeout) := by
  induction clientsWithTimeout with
  | nil => exact fun h _ => h
  | cons c clients ih =>
      intro registry h hinv
      have hsent := hinv.clientMessage ⟨c.index, .disconnect⟩
      have hnoLeak : NoLeak (registry.clientMessage ⟨c.index, .disconnect⟩) := h.congr rfl rfl
      exact ih (hnoLeak.removeClient hsent c.id) (hsent.removeClient c.id)

/-- The pings remove clients with their indices, and keep the others. -/
theorem NoLeak.handleClientPings (h : NoLeak registry) (hinv : Inv registry) (now : Time) :
    NoLeak (registry.handleClientPings now) := by
  have hrefs : (registry.clients.map fun c => c.updatePingStatus now).map WebXClient.ref =
      registry.refs := map_ref_map fun c => c.ref_updatePingStatus now
  have hupdated := hinv.of_refs_eq hrefs registry.sent
  have hnoLeak : NoLeak { registry with
      clients := registry.clients.map fun c => c.updatePingStatus now } := h.congr rfl hrefs
  exact NoLeak.congr (NoLeak.removeTimedOutClients _ hnoLeak hupdated) rfl (refs_sendPings _ now)

/-- A check of the qualities moves clients between groups and keeps their indices. -/
theorem NoLeak.performQualityVerification (h : NoLeak registry)
    {measure : UInt32 → WebXClientMeasure} {now : Time} {registry' : WebXClientRegistry}
    (hrun : registry.performQualityVerification settings measure now = .ok registry') :
    NoLeak registry' := by
  obtain ⟨clients, hrefs, heq⟩ := performGroupQualityVerifications_eq registry measure now
  rw [WebXClientRegistry.performQualityVerification, heq] at hrun
  have hnoLeak : NoLeak { registry with clients := clients } := h.congr rfl hrefs
  -- the loop over the clients changes neither the mask nor the pointers
  exact foldlM_verifyClientQuality_invariant
    (fun _ _ h => h.congr clientIndexMask_setClientQuality refs_setClientQuality) hnoLeak hrun

/-- All clients are forgotten with their bits when there is none. -/
theorem NoLeak.disconnectAll (h : NoLeak registry) (hnone : registry.clients = []) :
    NoLeak registry.disconnectAll := by
  refine h.congr rfl ?_
  rw [refs, refs, hnone]
  rfl

/-! ## Clients are accepted while there are bits -/

/-- A client is accepted exactly when fewer than 64 are registered; the search of its bit ends, and no
bit is taken but those of the clients. -/
structure AcceptsClients (settings : WebXSettings) (registry : WebXClientRegistry) : Prop where
  /-- With 64 clients, no client is accepted. -/
  refused : 64 ≤ registry.clients.length → ∀ clientVersion draws now,
    registry.addClient settings clientVersion draws now =
      some (.error "no client indices available", registry)
  /-- With fewer, a client is accepted as soon as an identifier is drawn that no client has. After
  some number of rounds that is less than 64, the search of its bit has ended. -/
  accepted : registry.clients.length < 64 → ∀ clientVersion draws now,
    (∃ clientId ∈ draws, registry.getClientById clientId = none) →
      ∃ clientId index registry', registry.addClient settings clientVersion draws now =
          some (.ok (clientId, index), registry') ∧
        ∃ rounds < 64, ∀ n, rounds < n → firstFreeBit registry.clientIndexMask n 1 = index
  /-- Every bit of the mask is that of a client. -/
  no_leak : ∀ i, bit registry.clientIndexMask i = true →
    ∃ client ∈ registry.clients, bit client.index i = true

/-- The mask is full when there are 64 clients. -/
theorem NoLeak.not_eq_zero_iff (h : NoLeak registry) (hinv : Inv registry) :
    ~~~registry.clientIndexMask = 0 ↔ 64 ≤ registry.clients.length := by
  have hcard : (bits registry.clientIndexMask).card = registry.clients.length := by
    rw [h, card_bits_orAll (List.forall_mem_map.mpr hinv.members.singleBit)
      (List.pairwise_map.mpr hinv.members.disjoint), List.length_map, refs, List.length_map]
  rw [not_eq_zero_iff_card, hcard]

/-- **A registry without leaked indices accepts clients** as long as one of the indices is free. -/
theorem NoLeak.acceptsClients (h : NoLeak registry) (hinv : Inv registry) (settings : WebXSettings) :
    AcceptsClients settings registry where
  refused := by
    intro hfull clientVersion draws now
    rw [WebXClientRegistry.addClient, if_pos ((h.not_eq_zero_iff hinv).mpr hfull)]
  accepted := by
    rintro hfew clientVersion draws now ⟨drawn, hdrawn, hnone⟩
    -- with fewer than 64 clients some bit is free, and its search ends
    have hfree : ¬ ~~~registry.clientIndexMask = 0 := fun hfull =>
      absurd ((h.not_eq_zero_iff hinv).mp hfull) (not_le.mpr hfew)
    obtain ⟨clientId, hclientId, -⟩ := registry.exists_find?_free hdrawn hnone
    obtain ⟨rounds, hrounds, -, -, hends⟩ := firstFreeBit_rounds hfree
    rw [WebXClientRegistry.addClient, if_neg hfree, hclientId]
    exact ⟨clientId, _, _, rfl, rounds, hrounds, hends⟩
  no_leak := by
    intro i hi
    rw [h] at hi
    obtain ⟨index, hindex, hbit⟩ := bit_orAll.mp hi
    obtain ⟨ref, href, rfl⟩ := List.mem_map.mp hindex
    obtain ⟨client, hclient, rfl⟩ := List.mem_map.mp href
    exact ⟨client, hclient, hbit⟩

end WebXClientRegistry

/-! ## Runs -/

namespace RegistryState

open WebXClientRegistry

/-- Every call keeps the bits that are taken those of the clients, unless it forgets all clients. -/
theorem noLeak_step {settings : WebXSettings} {state state' : RegistryState} {op : RegistryOp}
    (h : state.registry.NoLeak) (hinv : state.registry.Inv)
    (hforgets : op = .disconnectAll → state.registry.clients = [])
    (hstep : state.step settings op = .ok state') : state'.registry.NoLeak := by
  cases op with
  | addClient clientVersion draws now =>
      cases hstep
      cases hadd : state.registry.addClient settings clientVersion draws now with
      | none => exact h
      | some result => exact h.addClient hadd
  | removeClient clientId =>
      cases hstep
      exact h.removeClient hinv clientId
  | setClientMaxQuality clientId quality =>
      cases hstep
      exact h.setClientMaxQuality clientId quality
  | handleClientPings now =>
      cases hstep
      exact h.handleClientPings hinv now
  | onPongReceived clientId now =>
      cases hstep
      exact h.congr rfl (refs_updateClient _ clientId fun c => c.ref_onPongReceived now)
  | performQualityVerification measure now =>
      obtain ⟨registry', hrun, rfl⟩ := step_performQualityVerification hstep
      exact h.performQualityVerification hrun
  | addWindowDamage damage now =>
      cases hstep
      exact h.congr rfl rfl
  | updateVisibleWindows windowVisibilities now =>
      cases hstep
      exact h.congr rfl rfl
  | handleWindowGraphicalUpdates answer now =>
      cases hstep
      exact h.congr rfl rfl
  | disconnectAll =>
      cases hstep
      -- the clients are forgotten without giving back their bits, which is right when there are none
      exact h.disconnectAll (hforgets rfl)

/-- In the states reached by the calls that satisfy a condition, clients are accepted as long as there
are fewer than 64. -/
def AlwaysAcceptsClients (settings : WebXSettings) (condition : RegistryState → RegistryOp → Prop) :
    Prop :=
  ∀ ops state, Run (step settings) condition .init ops state → state.registry.AcceptsClients settings

/-- **No bit is lost as long as the clients are not all disconnected at once.** -/
theorem alwaysAcceptsClients (settings : WebXSettings) :
    AlwaysAcceptsClients settings fun state op =>
      op = .disconnectAll → state.registry.clients = [] := by
  intro ops state hrun
  obtain ⟨hinv, hnoLeak⟩ := hrun.invariant
    (P := fun state => state.registry.Inv ∧ state.registry.NoLeak)
    (fun s op t hs hforgets hstep => by
      obtain ⟨t', hstep', ht⟩ := inv_step settings s op hs.1
      cases hstep.symm.trans hstep'
      exact ⟨ht, noLeak_step hs.2 hs.1 hforgets hstep⟩)
    ⟨inv_create, noLeak_create⟩
  exact hnoLeak.acceptsClients hinv settings

/-- A client that comes and goes leaves its bit to the next one. -/
theorem acceptsClients_return : ∃ state, [.addClient ⟨1, 0, 0⟩ [7] 0, .removeClient 7,
      .disconnectAll, .addClient ⟨1, 0, 0⟩ [7] 0].foldlM (step .default) .init = .ok state ∧
    state.registry.AcceptsClients .default := by
  refine ⟨_, rfl, alwaysAcceptsClients .default [.addClient ⟨1, 0, 0⟩ [7] 0, .removeClient 7,
    .disconnectAll, .addClient ⟨1, 0, 0⟩ [7] 0] _ ?_⟩
  exact .cons (by intro h; cases h) rfl (.cons (by intro h; cases h) rfl (.cons (fun _ => rfl) rfl
    (.cons (by intro h; cases h) rfl (.nil _))))

/-- A client connects, then all clients are disconnected, 64 times. -/
def reconnections : List RegistryOp :=
  (List.replicate 64 [.addClient ⟨1, 0, 0⟩ [7] 0, .disconnectAll]).flatten

/-- There is no client any more, and no bit either. -/
theorem exhausted_reconnections :
    (reconnections.foldlM (step .default) .init).toOption.map (fun state =>
      (state.registry.clients, state.registry.clientIndexMask)) = some ([], 0xFFFFFFFFFFFFFFFF) := by
  decide +kernel

/-- Without any client, none is accepted. -/
theorem not_alwaysAcceptsClients : ¬ AlwaysAcceptsClients .default fun _ _ => True := by
  intro h
  obtain ⟨state, hrun, -⟩ := foldlM_of_invariant (P := fun state => state.registry.Inv)
    (fun s op hs => inv_step .default s op hs) reconnections
    (show RegistryState.init.registry.Inv from inv_create)
  have hexhausted := exhausted_reconnections
  rw [hrun, Except.toOption, Option.map_some, Option.some.injEq, Prod.mk.injEq] at hexhausted
  obtain ⟨hnone, hmask⟩ := hexhausted
  have haccepts := h reconnections state (Run.of_foldlM hrun)
  obtain ⟨clientId, index, registry', hadd, -⟩ := haccepts.accepted (by rw [hnone]; decide) ⟨1, 0, 0⟩
    [7] 0 ⟨7, List.mem_singleton_self 7, by rw [getClientById, hnone]; rfl⟩
  rw [addClient, if_pos (by rw [hmask]; decide)] at hadd
  cases hadd

end RegistryState

end WebXEngine
