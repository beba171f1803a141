import WebXEngine.Controller.RegistryInvariant

/-! # What the operations of the registry do to the group of a client

The group of a client only changes when the client moves. What stays the same is said for any image
`f` of the groups that does not depend on their clients.

* **`map_group_setClientQuality_of_ne`** and the like — another client moves, comes or goes.
* **`map_group_join`**, **`Inv.map_group_move`** — the client itself joins a group or moves to one.
* **`GroupProperty`** — what all groups satisfy when the new ones do, and moves of clients keep it. -/

namespace WebXEngine

namespace WebXClientRegistry

variable {settings : WebXSettings} {registry : WebXClientRegistry} {client : WebXClientRef}
  {clientId : UInt32} {quality : WebXQuality} {β : Type*} {f : WebXClientGroup → β}

/-! ## Other clients -/

/-- A client that joins a group changes the groups of the other clients only as adding it does. -/
theorem map_group_addClientToGroup
    (hadd : ∀ group client, f (WebXClientGroup.addClient group client) = f group)
    (hne : client.id ≠ clientId) :
    ((registry.addClientToGroup client quality).getGroupWithClientId clientId).map f =
      (registry.getGroupWithClientId clientId).map f := by
  unfold getGroupWithClientId
  cases hgroup : registry.getGroupByQuality quality with
  | none =>
      have hnew : (WebXClientGroup.create quality).contains clientId = false := rfl
      rw [groups_addClientToGroup_of_none hgroup, List.find?_append]
      simp [WebXClientGroup.contains_addClient _ hne, hnew]
  | some group =>
      rw [groups_addClientToGroup_of_some hgroup]
      refine map_find?_updateFirst _ fun group _ => ⟨(fun h => nomatch h), ?_⟩
      rintro _ ⟨⟩
      exact ⟨group.contains_addClient hne, fun _ => hadd group client⟩

/-- A client that leaves its group changes the groups of the other clients only as removing it does. -/
theorem map_group_removeClientFromGroups
    (hremove : ∀ group clientId, f (WebXClientGroup.removeClient group clientId) = f group)
    {other : UInt32} (hne : other ≠ clientId) :
    ((registry.removeClientFromGroups other).getGroupWithClientId clientId).map f =
      (registry.getGroupWithClientId clientId).map f := by
  unfold getGroupWithClientId
  refine map_find?_updateFirst _ fun group _ => ?_
  by_cases hempty : (group.removeClient other).hasClients = true
  · simp only [hempty, if_true]
    refine ⟨fun _ => ?_, fun _ h => nomatch h⟩
    rw [← group.contains_removeClient hne]
    exact (group.removeClient other).contains_of_hasClients hempty clientId
  · simp only [hempty]
    refine ⟨(fun h => nomatch h), ?_⟩
    rintro _ ⟨⟩
    exact ⟨group.contains_removeClient hne, fun _ => hremove group other⟩

/-- A client that moves changes what the groups of the other clients are only in ways that `f` does not
see. -/
theorem map_group_setClientQuality_of_ne
    (hadd : ∀ group client, f (WebXClientGroup.addClient group client) = f group)
    (hremove : ∀ group clientId, f (WebXClientGroup.removeClient group clientId) = f group)
    (hne : client.id ≠ clientId) :
    ((registry.setClientQuality client quality).getGroupWithClientId clientId).map f =
      (registry.getGroupWithClientId clientId).map f := by
  cases hgroup : registry.getGroupWithClientId client.id with
  | none =>
      rw [setClientQuality, hgroup]
      exact map_group_addClientToGroup hadd hne
  | some oldGroup =>
      rw [setClientQuality_of_some _ hgroup]
      split_ifs
      · exact (map_group_addClientToGroup hadd hne).trans (map_group_removeClientFromGroups hremove hne)
      · rfl

/-- Another client is removed. -/
theorem Inv.map_group_removeClient (h : Inv registry)
    (hremove : ∀ group clientId, f (WebXClientGroup.removeClient group clientId) = f group)
    {other : UInt32} (hstays : client ∈ (registry.removeClient other).2.refs) :
    ((registry.removeClient other).2.getGroupWithClientId client.id).map f =
      (registry.getGroupWithClientId client.id).map f := by
  cases hother : registry.getClientById other with
  | none => rw [h.removeClient_of_none hother]
  | some c =>
      obtain ⟨hmem, rfl⟩ := ref_mem_refs hother
      rw [refs_removeClient hother] at hstays
      have hne : c.id ≠ client.id := by
        intro hid
        have := h.members.eq_of_id_eq hmem (List.mem_of_mem_erase hstays) hid
        subst this
        exact (List.Nodup.of_map _ h.members.ids).not_mem_erase hstays
      rw [removeClient_of_some _ hother]
      exact map_group_removeClientFromGroups hremove hne

/-- Another client is added. -/
theorem map_group_addClient
    (hadd : ∀ group client, f (WebXClientGroup.addClient group client) = f group)
    (hclient : client ∈ registry.refs) {clientVersion : WebXVersion} {draws : List UInt32} {now : Time}
    {result : Except String (UInt32 × UInt64)} {registry' : WebXClientRegistry}
    (hresult : registry.addClient settings clientVersion draws now = some (result, registry')) :
    (registry'.getGroupWithClientId client.id).map f =
      (registry.getGroupWithClientId client.id).map f := by
  rw [addClient] at hresult
  split_ifs at hresult
  · cases hresult
    rfl
  · obtain ⟨clientId, hdraw, heq⟩ := Option.map_eq_some_iff.mp hresult
    cases heq
    refine map_group_addClientToGroup hadd fun hid => ?_
    obtain ⟨c, hc, rfl⟩ := List.mem_map.mp hclient
    have hnone := List.find?_some hdraw
    rw [Option.isNone_iff_eq_none, getClientById, List.find?_eq_none] at hnone
    exact hnone c hc (decide_eq_true hid.symm)

/-- The clients whose pong is late are removed. -/
theorem map_group_removeTimedOutClients
    (hremove : ∀ group clientId, f (WebXClientGroup.removeClient group clientId) = f group)
    (clientsWithTimeout : List WebXClient) :
    ∀ {registry : WebXClientRegistry}, Inv registry →
      client ∈ (registry.removeTimedOutClients clientsWithTimeout).refs →
      client ∈ registry.refs ∧
        ((registry.removeTimedOutClients clientsWithTimeout).getGroupWithClientId client.id).map f =
          (registry.getGroupWithClientId client.id).map f := by
  induction clientsWithTimeout with
  | nil => exact fun _ hstays => ⟨hstays, rfl⟩
  | cons c clients ih =>
      intro registry h hstays
      have hsent : Inv (registry.clientMessage ⟨c.index, .disconnect⟩) := h.clientMessage _
      obtain ⟨hnext, hgroup⟩ := ih (hsent.removeClient c.id) hstays
      refine ⟨?_, hgroup.trans (hsent.map_group_removeClient hremove hnext)⟩
      -- a client that stays after this removal was there before it
      cases hother : (registry.clientMessage ⟨c.index, .disconnect⟩).getClientById c.id with
      | none =>
          rw [hsent.removeClient_of_none hother] at hnext
          exact hnext
      | some d =>
          rw [refs_removeClient hother] at hnext
          exact List.mem_of_mem_erase hnext

/-- The group of a client after a change of the groups that keeps their members. -/
theorem getGroupWithClientId_map {change : WebXClientGroup → WebXClientGroup}
    (hkeep : ∀ group, (change group).membership = group.membership) :
    ({ registry with groups := registry.groups.map change } :
        WebXClientRegistry).getGroupWithClientId clientId =
      (registry.getGroupWithClientId clientId).map change := by
  rw [getGroupWithClientId, getGroupWithClientId, List.find?_map]
  simp only [Function.comp_def, WebXClientGroup.contains_of_membership_eq (hkeep _)]

/-! ## The client itself -/

/-- A client that is in no group joins one, which is created when there is none. -/
theorem map_group_join (hadd : ∀ group client, f (WebXClientGroup.addClient group client) = f group)
    (hnone : registry.getGroupWithClientId client.id = none) :
    ((registry.addClientToGroup client quality).getGroupWithClientId client.id).map f =
      some (((registry.getGroupByQuality quality).map f).getD (f (.create quality))) := by
  rw [getGroupWithClientId] at hnone
  cases hgroup : registry.getGroupByQuality quality with
  | none =>
      have hself := (WebXClientGroup.create quality).contains_addClient_self client
      rw [getGroupWithClientId, groups_addClientToGroup_of_none hgroup, List.find?_append, hnone,
        Option.none_or, List.find?_cons_of_pos (p := (WebXClientGroup.contains · client.id)) hself]
      exact congrArg some (hadd (.create quality) client)
  | some group =>
      rw [getGroupWithClientId, groups_addClientToGroup_of_some hgroup,
        find?_updateFirst_of_find?_eq_none hnone
          fun g _ => ⟨_, rfl, g.contains_addClient_self client⟩]
      rw [getGroupByQuality] at hgroup
      simp [hgroup, hadd]

/-- A client leaves its group and joins another. -/
theorem Inv.map_group_move (h : Inv registry)
    (hadd : ∀ group client, f (WebXClientGroup.addClient group client) = f group)
    (hremove : ∀ group clientId, f (WebXClientGroup.removeClient group clientId) = f group)
    (hclient : client ∈ registry.refs) {oldGroup : WebXClientGroup}
    (hold : registry.getGroupWithClientId client.id = some oldGroup)
    (hquality : oldGroup.quality.index ≠ quality.index) :
    (((registry.removeClientFromGroups client.id).addClientToGroup client
      quality).getGroupWithClientId client.id).map f =
      some (((registry.getGroupByQuality quality).map f).getD (f (.create quality))) := by
  -- the client is in no group after it has left its own
  have hnone : (registry.removeClientFromGroups client.id).getGroupWithClientId client.id = none := by
    have hleave := h.groups.leave h.members hclient
    rw [WebXClientRegistry.getGroupWithClientId, List.find?_eq_none]
    intro group hgroup hcontains
    obtain ⟨member, hmember, hid⟩ := group.contains_iff.mp hcontains
    have hmem := hleave.mem_members hgroup hmember
    have := h.members.eq_of_id_eq (List.mem_of_mem_erase hmem) hclient hid
    subst this
    exact (List.Nodup.of_map _ h.members.ids).not_mem_erase hmem
  -- the group it moves to is not the one that may have been deleted
  have htarget : ((registry.removeClientFromGroups client.id).getGroupByQuality quality).map f =
      (registry.getGroupByQuality quality).map f := by
    refine map_find?_updateFirst _ fun group hfound => ?_
    cases hold.symm.trans hfound
    by_cases hempty : (oldGroup.removeClient client.id).hasClients = true
    · simp only [hempty, if_true]
      refine ⟨fun _ => by simpa using hquality, ?_⟩
      intro _ hkept
      cases hkept
    · simp only [hempty]
      refine ⟨?_, ?_⟩
      · intro hdeleted
        cases hdeleted
      · rintro _ ⟨⟩
        simp [hremove]
  rw [map_group_join hadd hnone, htarget]

/-! ## All groups -/

/-- A property of groups that the new ones have, and that does not depend on the clients. -/
structure GroupProperty (Q : WebXClientGroup → Prop) : Prop where
  create : ∀ quality, Q (.create quality)
  addClient : ∀ group client, Q group → Q (group.addClient client)
  removeClient : ∀ group clientId, Q group → Q (group.removeClient clientId)

namespace GroupProperty

variable {Q : WebXClientGroup → Prop}

/-- A client joins a group, or a new group of its quality. -/
theorem addClientToGroup (hQ : GroupProperty Q) (h : ∀ group ∈ registry.groups, Q group) :
    ∀ group ∈ (registry.addClientToGroup client quality).groups, Q group := by
  intro group hgroup
  cases hfind : registry.getGroupByQuality quality with
  | none =>
      rw [groups_addClientToGroup_of_none hfind, List.mem_append, List.mem_singleton] at hgroup
      rcases hgroup with hgroup | rfl
      · exact h group hgroup
      · exact hQ.addClient _ client (hQ.create quality)
  | some found =>
      rw [groups_addClientToGroup_of_some hfind] at hgroup
      rcases mem_updateFirst hgroup with hgroup | ⟨old, hold, heq⟩
      · exact h group hgroup
      · cases heq
        exact hQ.addClient old client (h old (List.mem_of_find?_eq_some hold))

/-- A client leaves its group, which goes with its last client. -/
theorem removeClientFromGroups (hQ : GroupProperty Q) (h : ∀ group ∈ registry.groups, Q group) :
    ∀ group ∈ (registry.removeClientFromGroups clientId).groups, Q group := by
  intro group hgroup
  rcases mem_updateFirst hgroup with hgroup | ⟨old, hold, heq⟩
  · exact h group hgroup
  · have hkept := hQ.removeClient old clientId (h old (List.mem_of_find?_eq_some hold))
    dsimp only at heq
    split_ifs at heq
    cases heq
    exact hkept

/-- A client moves from one group to another. -/
theorem setClientQuality (hQ : GroupProperty Q) (h : ∀ group ∈ registry.groups, Q group) :
    ∀ group ∈ (registry.setClientQuality client quality).groups, Q group := by
  cases hgroup : registry.getGroupWithClientId client.id with
  | none =>
      rw [WebXClientRegistry.setClientQuality, hgroup]
      exact hQ.addClientToGroup h
  | some oldGroup =>
      rw [setClientQuality_of_some _ hgroup]
      split_ifs
      · exact hQ.addClientToGroup (hQ.removeClientFromGroups h)
      · exact h

/-- A new client joins the group of the largest quality. -/
theorem addClientToRegistry (hQ : GroupProperty Q) (h : ∀ group ∈ registry.groups, Q group)
    {clientVersion : WebXVersion} {draws : List UInt32} {now : Time}
    {result : Except String (UInt32 × UInt64)} {registry' : WebXClientRegistry}
    (hadd : registry.addClient settings clientVersion draws now = some (result, registry')) :
    ∀ group ∈ registry'.groups, Q group := by
  rw [WebXClientRegistry.addClient] at hadd
  split_ifs at hadd
  · cases hadd
    exact h
  · obtain ⟨clientId, -, heq⟩ := Option.map_eq_some_iff.mp hadd
    cases heq
    exact hQ.addClientToGroup h

/-- A client that is removed leaves its group. -/
theorem removeClientOfRegistry (hQ : GroupProperty Q) (h : ∀ group ∈ registry.groups, Q group) :
    ∀ group ∈ (registry.removeClient clientId).2.groups, Q group := by
  cases hclient : registry.getClientById clientId with
  | none =>
      rw [removeClient_of_none _ hclient]
      exact hQ.removeClientFromGroups h
  | some c =>
      rw [removeClient_of_some _ hclient]
      exact hQ.removeClientFromGroups h

/-- A client whose largest quality is set moves to the group of that quality. -/
theorem setClientMaxQuality (hQ : GroupProperty Q) (h : ∀ group ∈ registry.groups, Q group) :
    ∀ group ∈ (registry.setClientMaxQuality clientId quality).groups, Q group := by
  cases hclient : registry.getClientById clientId with
  | none =>
      rw [setClientMaxQuality_of_none _ hclient]
      exact h
  | some c =>
      rw [setClientMaxQuality_of_some _ hclient]
      dsimp only
      split_ifs
      · exact hQ.setClientQuality h
      · exact h

/-- The clients that did not answer leave their groups, one after the other. -/
theorem removeTimedOutClients (hQ : GroupProperty Q) (clientsWithTimeout : List WebXClient) :
    ∀ {registry : WebXClientRegistry}, (∀ group ∈ registry.groups, Q group) →
      ∀ group ∈ (registry.removeTimedOutClients clientsWithTimeout).groups, Q group := by
  induction clientsWithTimeout with
  | nil => exact fun h => h
  | cons c clients ih => exact fun h => ih (hQ.removeClientOfRegistry h)

/-- The clients move to the groups of the qualities that are suggested. -/
theorem performQualityVerification (hQ : GroupProperty Q) (h : ∀ group ∈ registry.groups, Q group)
    {measure : UInt32 → WebXClientMeasure} {now : Time} {registry' : WebXClientRegistry}
    (hrun : registry.performQualityVerification settings measure now = .ok registry') :
    ∀ group ∈ registry'.groups, Q group := by
  obtain ⟨clients, -, heq⟩ := performGroupQualityVerifications_eq registry measure now
  rw [WebXClientRegistry.performQualityVerification, heq] at hrun
  have h' : ∀ group ∈ groups { registry with clients := clients }, Q group := h
  exact foldlM_verifyClientQuality_invariant (P := fun registry => ∀ group ∈ registry.groups, Q group)
    (fun _ _ hgroups => hQ.setClientQuality hgroups) h' hrun

end GroupProperty

end WebXClientRegistry

end WebXEngine
