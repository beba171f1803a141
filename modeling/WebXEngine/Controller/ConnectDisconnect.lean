import WebXEngine.Controller.RegistryClients

/-! # Connecting and disconnecting

A client that connects and leaves again leaves no trace. It gets a bit and joins the group of the
largest quality, which may be created for it; each of these is undone when it is removed, without an
effect on the others.

* **`removeClient_addClient`** — a group that a new client joins and leaves.
* **`removeClientFromGroups_addClientToGroup`** — the same for all groups.
* **`connectDisconnect`** — the registry is the same as before, in all the states that it reaches. -/

namespace WebXEngine

open BitMask

/-! ## Groups -/

namespace WebXClientGroup

variable {group : WebXClientGroup} {client : WebXClientRef}

/-- A client that joins is found. -/
theorem getClientById_addClient (hnew : ∀ m ∈ group.clients, m.id ≠ client.id) :
    (group.addClient client).getClientById client.id = some client := by
  have hnone : group.clients.find? (fun m => m.id = client.id) = none := by
    rw [List.find?_eq_none]
    simpa using hnew
  rw [getClientById, (GroupsConsistent.clients_addClient hnew).1, List.find?_append, hnone]
  simp

/-- A group that a new client with a new bit joins and leaves. -/
theorem removeClient_addClient (hnew : ∀ m ∈ group.clients, m.id ≠ client.id)
    (hfree : client.index &&& group.clientIndexMask = 0) :
    (group.addClient client).removeClient client.id = group := by
  have hnone : group.getClientById client.id = none := by
    rw [getClientById, List.find?_eq_none]
    simpa using hnew
  have hnot : client ∉ group.clients := fun hmem => hnew client hmem rfl
  rw [removeClient, getClientById_addClient hnew, addClient, if_pos hnone]
  dsimp only
  rw [or_and_not hfree, List.erase_append_right _ hnot, List.erase_cons_head, List.append_nil]

end WebXClientGroup

namespace GroupsConsistent

variable {groups : List WebXClientGroup} {members : List WebXClientRef} {mask : UInt64}

/-- The bits of the clients of a group are those of clients of the registry. -/
theorem and_clientIndexMask_eq_zero (h : GroupsConsistent groups members)
    (hm : MembersConsistent mask members) {index : UInt64} (hfree : index &&& mask = 0)
    {group : WebXClientGroup} (hgroup : group ∈ groups) : index &&& group.clientIndexMask = 0 := by
  rw [h.mask group hgroup]
  refine and_eq_zero.mpr ?_
  rintro i ⟨hindex, hbit⟩
  obtain ⟨_, hmem, hi⟩ := bit_orAll.mp hbit
  obtain ⟨m, hclient, rfl⟩ := List.mem_map.mp hmem
  have hmasked := hm.masked m (h.mem_members hgroup hclient)
  exact and_eq_zero.mp hfree i ⟨hindex, and_eq_left.mp hmasked i hi⟩

/-- No group contains an identifier that no client has. -/
theorem not_contains (h : GroupsConsistent groups members) {clientId : UInt32}
    (hnew : ∀ m ∈ members, m.id ≠ clientId) {group : WebXClientGroup} (hgroup : group ∈ groups) :
    ¬ group.contains clientId = true := by
  rw [group.contains_iff]
  rintro ⟨m, hmem, hid⟩
  exact hnew m (h.mem_members hgroup hmem) hid

end GroupsConsistent

/-! ## The registry -/

namespace WebXClientRegistry

variable {settings : WebXSettings} {registry : WebXClientRegistry} {client : WebXClientRef}
  {members : List WebXClientRef}

/-- Groups that a new client joins and leaves. A group that was created for it is deleted with it, and
no other group ever becomes empty. -/
theorem removeClientFromGroups_addClientToGroup {mask : UInt64}
    (h : GroupsConsistent registry.groups members) (hm : MembersConsistent mask members)
    (hnew : ∀ m ∈ members, m.id ≠ client.id) (hfree : client.index &&& mask = 0)
    (quality : WebXQuality) :
    ((registry.addClientToGroup client quality).removeClientFromGroups client.id).groups =
      registry.groups := by
  have hothers : ∀ group ∈ registry.groups, ¬ group.contains client.id = true :=
    fun group hgroup => h.not_contains hnew hgroup
  rw [removeClientFromGroups]
  dsimp only
  cases hgroup : registry.getGroupByQuality quality with
  | none =>
      -- the group was created for the client: it is empty again, and is removed
      have hcreated : ((WebXClientGroup.create quality).addClient client).removeClient client.id =
          .create quality :=
        WebXClientGroup.removeClient_addClient (by simp [WebXClientGroup.create])
          (by simp [WebXClientGroup.create])
      rw [groups_addClientToGroup_of_none hgroup]
      refine updateFirst_concat_cancel hothers
        (WebXClientGroup.contains_addClient_self _ client) ?_
      rw [hcreated]
      rfl
  | some group =>
      -- the group has other clients: it stays, with the mask it had
      have hmem : group ∈ registry.groups := List.mem_of_find?_eq_some hgroup
      have hback : (group.addClient client).removeClient client.id = group :=
        WebXClientGroup.removeClient_addClient (fun m hclient => hnew m (h.mem_members hmem hclient))
          (h.and_clientIndexMask_eq_zero hm hfree hmem)
      have hmany : ¬ group.hasClients = true := fun hempty =>
        h.nonempty group hmem (List.isEmpty_iff.mp hempty)
      rw [groups_addClientToGroup_of_some hgroup]
      refine updateFirst_updateFirst_cancel hgroup rfl hothers
        (WebXClientGroup.contains_addClient_self _ client) ?_
      rw [hback, if_neg hmany]

/-- A client that is added is the last one; it has a new identifier and a free bit. -/
theorem addClient_eq {clientVersion : WebXVersion} {draws : List UInt32} {now : Time}
    {clientId : UInt32} {clientIndex : UInt64} {registry' : WebXClientRegistry}
    (hadd : registry.addClient settings clientVersion draws now =
      some (.ok (clientId, clientIndex), registry')) :
    registry.getClientById clientId = none ∧ clientIndex &&& registry.clientIndexMask = 0 ∧
      ∃ client : WebXClient, client.ref = ⟨clientId, clientIndex⟩ ∧
        client.resetBitrateData = client ∧
        registry' = addClientToGroup
          { registry with
            clients := registry.clients ++ [client]
            clientIndexMask := registry.clientIndexMask ||| clientIndex }
          client.ref settings.quality.max.maxQuality := by
  rw [addClient] at hadd
  split_ifs at hadd with hfull
  · cases hadd
  · obtain ⟨drawn, hdraw, heq⟩ := Option.map_eq_some_iff.mp hadd
    cases heq
    exact ⟨by simpa using List.find?_some hdraw, (firstFreeBit_one hfull).2, _, rfl, rfl, rfl⟩

/-- **A client that is added and removed leaves the registry as it was.** -/
theorem Inv.removeClient_addClient (h : Inv registry) {clientVersion : WebXVersion}
    {draws : List UInt32} {now : Time} {clientId : UInt32} {clientIndex : UInt64}
    {registry' : WebXClientRegistry}
    (hadd : registry.addClient settings clientVersion draws now =
      some (.ok (clientId, clientIndex), registry')) :
    registry'.removeClient clientId = (.ok (), registry) := by
  obtain ⟨hnone, hfree, client, href, hrates, rfl⟩ := addClient_eq hadd
  have hid : client.id = clientId := congrArg WebXClientRef.id href
  have hindex : client.index = clientIndex := congrArg WebXClientRef.index href
  subst hid hindex
  have hnew : ∀ m ∈ registry.refs, m.id ≠ client.ref.id := by
    rintro m hm heq
    exact notMem_refs hnone heq hm
  have hclients := @clients_addClientToGroup_concat registry.clients client
    settings.quality.max.maxQuality hnone hrates (registry.clientIndexMask ||| client.index)
    registry.groups registry.sent
  -- the registry with the new client, before and after it has joined a group
  let added : WebXClientRegistry :=
    { registry with
      clients := registry.clients ++ [client]
      clientIndexMask := registry.clientIndexMask ||| client.index }
  let joined := added.addClientToGroup client.ref settings.quality.max.maxQuality
  change joined.removeClient client.id = _
  have hfind : joined.getClientById client.id = some client := by
    rw [getClientById] at hnone
    rw [getClientById, hclients, List.find?_append, hnone]
    simp
  have herase : (joined.clients.eraseP fun c => c.id = client.id) = registry.clients := by
    rw [getClientById, List.find?_eq_none] at hnone
    rw [hclients, List.eraseP_append_right _ hnone]
    simp
  have hmask : joined.clientIndexMask &&& ~~~client.index = registry.clientIndexMask := by
    rw [clientIndexMask_addClientToGroup]
    exact or_and_not hfree
  have hgroups : (joined.removeClientFromGroups client.id).groups = registry.groups :=
    @removeClientFromGroups_addClientToGroup added client.ref registry.refs _ h.groups h.members hnew
      hfree _
  have hsent : joined.sent = registry.sent := sent_addClientToGroup
  rw [removeClient_of_some _ hfind, herase, hmask]
  exact congrArg (Prod.mk _) (congrArg₂ (WebXClientRegistry.mk _ _) hgroups hsent)

end WebXClientRegistry

/-- **Connecting and disconnecting is the identity**: after any calls, a client that the registry
accepts and then removes leaves its clients, its mask, its groups and its messages as they were. -/
theorem connectDisconnect (settings : WebXSettings) (ops : List RegistryOp) :
    ∃ state, ops.foldlM (RegistryState.step settings) .init = .ok state ∧
      ∀ clientVersion draws now clientId clientIndex registry',
        state.registry.addClient settings clientVersion draws now =
            some (.ok (clientId, clientIndex), registry') →
          registry'.removeClient clientId = (.ok (), state.registry) := by
  obtain ⟨state, hrun, hinv⟩ :=
    foldlM_of_invariant (P := fun state => state.registry.Inv)
      (fun s op h => RegistryState.inv_step settings s op h) ops
      (show RegistryState.init.registry.Inv from WebXClientRegistry.inv_create)
  exact ⟨state, hrun, fun _ _ _ _ _ _ hadd => hinv.removeClient_addClient hadd⟩

/-- Another quality than the largest. -/
private def fourthQuality : WebXQuality := WebXSettings.default.quality.max.qualityForIndex 4

/-- A second client comes and leaves, while the first one has another quality than the largest. -/
theorem connectDisconnect_secondClient : ∃ state registry',
    [.addClient ⟨1, 0, 0⟩ [7] 0, .setClientMaxQuality 7 fourthQuality].foldlM
        (RegistryState.step .default) .init = .ok state ∧
      state.registry.addClient .default ⟨1, 0, 0⟩ [7, 8] 0 = some (.ok (8, 2), registry') ∧
      registry'.removeClient 8 = (.ok (), state.registry) := by
  obtain ⟨state, hstate, hidentity⟩ :=
    connectDisconnect .default [.addClient ⟨1, 0, 0⟩ [7] 0, .setClientMaxQuality 7 fourthQuality]
  obtain ⟨registry', hadd⟩ : ∃ registry',
      state.registry.addClient .default ⟨1, 0, 0⟩ [7, 8] 0 = some (.ok (8, 2), registry') := by
    cases hstate
    exact ⟨_, rfl⟩
  exact ⟨state, registry', hstate, hadd, hidentity _ _ _ _ _ _ hadd⟩

end WebXEngine
