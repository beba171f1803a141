import WebXEngine.Controller.ClientRegistry
import WebXEngine.Controller.GroupMembership
import WebXEngine.Foundations.Runs

/-! # The invariant of the registry of clients

The clients are kept twice, in the registry and in the groups, and their indices twice more, in the
mask of the registry and in those of the groups. All operations keep these in agreement.

* **`WebXClientRegistry.Inv`** — the invariant; there is one lemma for each operation.
* **`WebXClientRegistry.Consistent`** — the agreement, clause by clause. -/

namespace WebXEngine

open BitMask

/-! ## The registry -/

namespace WebXClientRegistry

/-- The pointers to the clients. -/
def refs (registry : WebXClientRegistry) : List WebXClientRef := registry.clients.map WebXClient.ref

/-- The invariant of the registry. -/
structure Inv (registry : WebXClientRegistry) : Prop where
  members : MembersConsistent registry.clientIndexMask registry.refs
  groups : GroupsConsistent registry.groups registry.refs

variable {settings : WebXSettings} {registry : WebXClientRegistry} {client : WebXClientRef}
  {quality : WebXQuality} {members : List WebXClientRef}

/-- A new registry has neither clients nor groups. -/
theorem inv_create : Inv create :=
  ⟨.nil 0, ⟨.refl _, by simp [create], .nil, by simp [create]⟩⟩

/-- The pointers to the clients do not change when the clients do. -/
theorem refs_updateClient (registry : WebXClientRegistry) (clientId : UInt32)
    {change : WebXClient → WebXClient} (hkeep : ∀ client, (change client).ref = client.ref) :
    (registry.updateClient clientId change).refs = registry.refs :=
  map_updateFirst WebXClient.ref (fun client _ => by simp [hkeep]) _

/-- Clients may change as long as the pointers to them do not, and messages do not matter. -/
theorem Inv.of_refs_eq (h : Inv registry) {clients : List WebXClient}
    (hrefs : clients.map WebXClient.ref = registry.refs) (sent : List WebXMessage) :
    Inv { registry with clients := clients, sent := sent } := by
  have hmembers := h.members
  have hgroups := h.groups
  rw [← hrefs] at hmembers hgroups
  exact ⟨hmembers, hgroups⟩

/-- A change of a client leaves the pointer to it. -/
theorem Inv.updateClient (h : Inv registry) (clientId : UInt32) {change : WebXClient → WebXClient}
    (hkeep : ∀ client, (change client).ref = client.ref) :
    Inv (registry.updateClient clientId change) :=
  h.of_refs_eq (refs_updateClient registry clientId hkeep) registry.sent

/-- A message changes no client and no group. -/
theorem Inv.clientMessage (h : Inv registry) (message : WebXMessage) :
    Inv (registry.clientMessage message) := h.of_refs_eq rfl _

/-! ### Groups of the registry -/

/-- Joining a group leaves the pointers to the clients as they are. -/
@[simp] theorem refs_addClientToGroup :
    (registry.addClientToGroup client quality).refs = registry.refs := by
  unfold addClientToGroup getOrCreateGroupByQuality
  dsimp only
  split_ifs <;> first | rfl | exact refs_updateClient _ _ WebXClient.ref_resetBitrateData

/-- Joining a group leaves the mask of the registry as it is. -/
@[simp] theorem clientIndexMask_addClientToGroup :
    (registry.addClientToGroup client quality).clientIndexMask = registry.clientIndexMask := by
  unfold addClientToGroup getOrCreateGroupByQuality
  dsimp only
  split_ifs <;> rfl

/-- Joining a group that exists. -/
theorem groups_addClientToGroup_of_some {group : WebXClientGroup}
    (h : registry.getGroupByQuality quality = some group) :
    (registry.addClientToGroup client quality).groups =
      updateFirst (fun group => group.quality.index = quality.index)
        (fun group => some (group.addClient client)) registry.groups := by
  unfold addClientToGroup getOrCreateGroupByQuality
  simp only [h, Option.isSome_some, if_true]
  split_ifs <;> rfl

/-- Joining a group that does not exist. -/
theorem groups_addClientToGroup_of_none (h : registry.getGroupByQuality quality = none) :
    (registry.addClientToGroup client quality).groups =
      registry.groups ++ [(WebXClientGroup.create quality).addClient client] := by
  have hfirst : updateFirst (fun group => decide (group.quality.index = quality.index))
      (fun group => some (group.addClient client)) (registry.groups ++ [.create quality]) =
      registry.groups ++ [(WebXClientGroup.create quality).addClient client] := by
    have hquality : (WebXClientGroup.create quality).quality.index = quality.index := rfl
    rw [updateFirst_append_of_find?_eq_none _ h, updateFirst_cons_of_pos _ _ (by simp [hquality])]
    rfl
  unfold addClientToGroup getOrCreateGroupByQuality
  simp only [h, Option.isSome_none, Bool.false_eq_true, if_false]
  split_ifs <;> exact hfirst

/-- A new client joins a group. -/
theorem groupsConsistent_addClientToGroup (h : GroupsConsistent registry.groups members)
    (hnew : ∀ m ∈ members, m.id ≠ client.id) :
    GroupsConsistent (registry.addClientToGroup client quality).groups (members ++ [client]) := by
  cases hgroup : registry.getGroupByQuality quality with
  | none =>
      rw [groups_addClientToGroup_of_none hgroup]
      exact h.create client hgroup
  | some group =>
      rw [groups_addClientToGroup_of_some hgroup]
      exact h.join hnew hgroup

/-- The group of a client is never missing. -/
theorem Inv.getGroupWithClientId (h : Inv registry) (hclient : client ∈ registry.refs) :
    ∃ group ∈ registry.groups, registry.getGroupWithClientId client.id = some group :=
  h.groups.exists_find? hclient

/-- The group of a client is the one that has it. -/
theorem Inv.getGroupWithClientId_eq (h : Inv registry) {group : WebXClientGroup}
    (hgroup : group ∈ registry.groups) (hclient : client ∈ group.clients) :
    registry.getGroupWithClientId client.id = some group := by
  have hmem := h.groups.mem_members hgroup hclient
  obtain ⟨found, hfound, hfind⟩ := h.getGroupWithClientId hmem
  have hcontains : found.contains client.id = true :=
    List.find?_some (p := (WebXClientGroup.contains · client.id)) hfind
  obtain ⟨member, hmember, hid⟩ := found.contains_iff.mp hcontains
  have := h.members.eq_of_id_eq (h.groups.mem_members hfound hmember) hmem hid
  subst this
  -- two groups have no client in common
  have hnodup := h.groups.perm.nodup_iff.mpr (List.Nodup.of_map _ h.members.ids)
  have hdisjoint := (List.nodup_flatMap.mp hnodup).2
  rw [hfind, Option.some.injEq]
  by_contra hne
  have : Std.Symm (Function.onFun List.Disjoint WebXClientGroup.clients) := ⟨fun _ _ => List.Disjoint.symm⟩
  exact hdisjoint.forall hfound hgroup hne hmember hclient

/-- No group has a client that is not registered. -/
theorem Inv.getGroupWithClientId_eq_none (h : Inv registry) {clientId : UInt32}
    (hclient : registry.getClientById clientId = none) :
    registry.getGroupWithClientId clientId = none := by
  rw [WebXClientRegistry.getGroupWithClientId, List.find?_eq_none]
  rintro group hgroup hcontains
  obtain ⟨member, hmember, hid⟩ := group.contains_iff.mp hcontains
  obtain ⟨c, hc, rfl⟩ := List.mem_map.mp (h.groups.mem_members hgroup hmember)
  rw [getClientById, List.find?_eq_none] at hclient
  exact hclient c hc (decide_eq_true hid)

/-! ### Operations -/

/-- The client that is found is registered. -/
theorem ref_mem_refs {clientId : UInt32} {c : WebXClient}
    (h : registry.getClientById clientId = some c) : c.ref ∈ registry.refs ∧ c.id = clientId := by
  rw [getClientById] at h
  exact ⟨List.mem_map_of_mem (List.mem_of_find?_eq_some h), by simpa using List.find?_some h⟩

/-- **A client that is added** has a new identifier and a bit that was free, and is in one group. -/
theorem Inv.addClient (h : Inv registry) {clientVersion : WebXVersion} {draws : List UInt32}
    {now : Time} {result : Except String (UInt32 × UInt64)} {registry' : WebXClientRegistry}
    (hadd : registry.addClient settings clientVersion draws now = some (result, registry')) :
    Inv registry' := by
  rw [WebXClientRegistry.addClient] at hadd
  split_ifs at hadd with hfull
  · cases hadd
    exact h
  · obtain ⟨clientId, hdraw, heq⟩ := Option.map_eq_some_iff.mp hadd
    cases heq
    obtain ⟨hbit, hfree⟩ := firstFreeBit_one hfull
    -- the identifier that was drawn is new
    let client : WebXClientRef := ⟨clientId, firstFreeBit registry.clientIndexMask 64 1⟩
    have hnew : ∀ m ∈ registry.refs, m.id ≠ client.id := by
      intro m hm hid
      obtain ⟨c, hc, rfl⟩ := List.mem_map.mp hm
      have hnone := List.find?_some hdraw
      rw [Option.isNone_iff_eq_none, getClientById, List.find?_eq_none] at hnone
      exact hnone c hc (decide_eq_true hid)
    refine ⟨?_, ?_⟩
    · rw [clientIndexMask_addClientToGroup, refs_addClientToGroup, refs, List.map_append]
      exact @MembersConsistent.concat _ _ h.members client hnew hbit hfree
    · rw [refs_addClientToGroup, refs, List.map_append]
      exact groupsConsistent_addClientToGroup h.groups hnew

/-- Erasing a client erases the pointer to it. -/
theorem map_ref_eraseP {clients : List WebXClient} {clientId : UInt32} {c : WebXClient}
    (h : clients.find? (fun client => client.id = clientId) = some c) :
    (clients.eraseP fun client => client.id = clientId).map WebXClient.ref =
      (clients.map WebXClient.ref).erase c.ref := by
  induction clients with
  | nil => exact nomatch h
  | cons d clients ih =>
      by_cases hd : d.id = clientId
      · rw [List.find?_cons_of_pos (by simpa using hd), Option.some.injEq] at h
        rw [List.eraseP_cons_of_pos (by simpa using hd), h, List.map_cons, List.erase_cons_head]
      · rw [List.find?_cons_of_neg (by simpa using hd)] at h
        have hid : c.id = clientId := by simpa using List.find?_some h
        have hne : d.ref ≠ c.ref := fun heq => hd ((congrArg WebXClientRef.id heq).trans hid)
        rw [List.eraseP_cons_of_neg (by simpa using hd), List.map_cons, List.map_cons, ih h,
          List.erase_cons_tail (by simpa using hne)]

/-- The pointers after a client has been removed. -/
theorem refs_removeClient {clientId : UInt32} {c : WebXClient}
    (h : registry.getClientById clientId = some c) :
    (registry.removeClient clientId).2.refs = registry.refs.erase c.ref := by
  rw [removeClient_of_some _ h]
  exact map_ref_eraseP h

/-- Removing a client that is not registered changes nothing. -/
theorem Inv.removeClient_of_none (h : Inv registry) {clientId : UInt32}
    (hclient : registry.getClientById clientId = none) :
    registry.removeClient clientId = (.error "client id is unknown", registry) := by
  have hgroup := h.getGroupWithClientId_eq_none hclient
  rw [WebXClientRegistry.getGroupWithClientId] at hgroup
  rw [WebXClientRegistry.removeClient_of_none _ hclient, removeClientFromGroups,
    updateFirst_of_find?_eq_none hgroup]

/-- **A client that is removed** leaves no pointer, and an empty group goes with it. -/
theorem Inv.removeClient (h : Inv registry) (clientId : UInt32) :
    Inv (registry.removeClient clientId).2 := by
  cases hclient : registry.getClientById clientId with
  | none => rwa [h.removeClient_of_none hclient]
  | some c =>
      obtain ⟨hmem, rfl⟩ := ref_mem_refs hclient
      have hrefs := refs_removeClient hclient
      refine ⟨?_, ?_⟩
      · rw [hrefs, removeClient_of_some _ hclient]
        exact h.members.erase hmem
      · rw [hrefs, removeClient_of_some _ hclient]
        exact h.groups.leave h.members hmem

/-- **A client that changes its quality** leaves its group before it joins the other one. -/
theorem Inv.setClientQuality (h : Inv registry) (hclient : client ∈ registry.refs)
    (quality : WebXQuality) : Inv (registry.setClientQuality client quality) := by
  obtain ⟨group, -, hgroup⟩ := h.getGroupWithClientId hclient
  rw [setClientQuality_of_some _ hgroup]
  refine Inv.clientMessage ?_ _
  split_ifs with hquality
  · -- the client leaves its group and joins the other
    have hleave := h.groups.leave h.members hclient
    have hnew : ∀ m ∈ registry.refs.erase client, m.id ≠ client.id := by
      intro m hm hid
      have := h.members.eq_of_id_eq (List.mem_of_mem_erase hm) hclient hid
      subst this
      exact (List.Nodup.of_map _ h.members.ids).not_mem_erase hm
    have hjoin : GroupsConsistent
        ((registry.removeClientFromGroups client.id).addClientToGroup client quality).groups
        (registry.refs.erase client ++ [client]) :=
      groupsConsistent_addClientToGroup hleave hnew
    refine ⟨?_, ?_⟩
    · rw [clientIndexMask_addClientToGroup, refs_addClientToGroup]
      exact h.members
    · rw [refs_addClientToGroup]
      exact hjoin.of_perm
        ((List.perm_append_singleton _ _).trans (List.perm_cons_erase hclient).symm)
  · exact h

/-- A change of quality leaves the pointers to the clients as they are. -/
@[simp] theorem refs_setClientQuality :
    (registry.setClientQuality client quality).refs = registry.refs := by
  cases hgroup : registry.getGroupWithClientId client.id with
  | none =>
      rw [WebXClientRegistry.setClientQuality, hgroup]
      exact refs_addClientToGroup
  | some oldGroup =>
      rw [setClientQuality_of_some _ hgroup]
      split_ifs
      · exact refs_addClientToGroup
      · rfl

/-- The largest quality of a client is none of what the invariant is about; its move is a change of
quality. -/
theorem Inv.setClientMaxQuality (h : Inv registry) (clientId : UInt32) (quality : WebXQuality) :
    Inv (registry.setClientMaxQuality clientId quality) := by
  cases hclient : registry.getClientById clientId with
  | none => rwa [setClientMaxQuality_of_none _ hclient]
  | some c =>
      rw [setClientMaxQuality_of_some _ hclient]
      have hkeep (c : WebXClient) : (c.setMaxQuality quality).ref = c.ref := rfl
      have h' := h.updateClient clientId hkeep
      dsimp only
      split_ifs
      · refine h'.setClientQuality ?_ quality
        rw [refs_updateClient _ _ hkeep]
        exact (ref_mem_refs hclient).1
      · exact h'

/-- The clients whose pong is late are removed one after the other. -/
theorem Inv.removeTimedOutClients (clientsWithTimeout : List WebXClient) :
    ∀ {registry : WebXClientRegistry}, Inv registry →
      Inv (registry.removeTimedOutClients clientsWithTimeout) := by
  induction clientsWithTimeout with
  | nil => exact id
  | cons c clients ih => exact fun h => ih ((h.clientMessage _).removeClient c.id)

/-- The pointers do not change when the clients do. -/
theorem map_ref_map {clients : List WebXClient} {change : WebXClient → WebXClient}
    (hkeep : ∀ client, (change client).ref = client.ref) :
    (clients.map change).map WebXClient.ref = clients.map WebXClient.ref := by
  rw [List.map_map]
  exact List.map_congr_left fun c _ => hkeep c

/-- The pings leave the pointers to the clients as they are. -/
theorem refs_sendPings (registry : WebXClientRegistry) (now : Time) :
    (registry.sendPings now).refs = registry.refs := by
  refine map_ref_map fun c => ?_
  split <;> rfl

/-- **A tick** updates the clients, and removes those whose pong is late. -/
theorem Inv.handleClientPings (h : Inv registry) (now : Time) :
    Inv (registry.handleClientPings now) := by
  have hupdated := h.of_refs_eq (map_ref_map fun c => c.ref_updatePingStatus now) registry.sent
  exact (Inv.removeTimedOutClients _ hupdated).of_refs_eq (refs_sendPings _ now) _

/-! ### The verification of the qualities -/

/-- The verification of the rates only changes the states of clients. -/
theorem performGroupQualityVerifications_eq (registry : WebXClientRegistry)
    (measure : UInt32 → WebXClientMeasure) (now : Time) :
    ∃ clients : List WebXClient, clients.map WebXClient.ref = registry.refs ∧
      registry.performGroupQualityVerifications measure now = { registry with clients := clients } := by
  -- what one call does, the two loops do
  have hclients (members : List WebXClientRef) (means : Option ℚ) (r : WebXClientRegistry) :
      ∃ clients : List WebXClient, clients.map WebXClient.ref = r.refs ∧
        members.foldl (fun registry client => registry.updateClient client.id fun c =>
          c.performQualityVerification means (measure client.id) now) r =
          { r with clients := clients } := by
    induction members generalizing r with
    | nil => exact ⟨r.clients, rfl, rfl⟩
    | cons m members ih =>
        obtain ⟨clients, hrefs, heq⟩ := ih _
        refine ⟨clients, hrefs.trans ?_, heq⟩
        exact refs_updateClient r m.id fun c => c.ref_performQualityVerification _ _ _
  have hgroups (groups : List WebXClientGroup) (r : WebXClientRegistry) :
      ∃ clients : List WebXClient, clients.map WebXClient.ref = r.refs ∧
        groups.foldl (fun registry group =>
          group.clients.foldl (fun registry client => registry.updateClient client.id fun c =>
            c.performQualityVerification group.averageImageMbps (measure client.id) now) registry) r =
          { r with clients := clients } := by
    induction groups generalizing r with
    | nil => exact ⟨r.clients, rfl, rfl⟩
    | cons g groups ih =>
        obtain ⟨clients, hrefs, heq⟩ := hclients g.clients g.averageImageMbps r
        obtain ⟨clients', hrefs', heq'⟩ := ih { r with clients := clients }
        refine ⟨clients', hrefs'.trans hrefs, ?_⟩
        rw [List.foldl_cons, heq, heq']
  exact hgroups registry.groups registry

/-- **The rule of the loop over the clients**: what the changes of the qualities keep, it keeps. -/
theorem foldlM_verifyClientQuality_invariant {settings : WebXSettings}
    {P : WebXClientRegistry → Prop}
    (hkeep : ∀ {registry : WebXClientRegistry} (client : WebXClientRef) (quality : WebXQuality),
      P registry → P (registry.setClientQuality client quality))
    {clients : List WebXClient} {registry registry' : WebXClientRegistry} (h : P registry)
    (hrun : clients.foldlM (verifyClientQuality settings) registry = .ok registry') :
    P registry' := by
  refine (Run.of_foldlM hrun).invariant (fun registry c next hregistry _ hstep => ?_) h
  obtain rfl | ⟨quality, rfl⟩ := verifyClientQuality_cases hstep
  · exact hregistry
  · exact hkeep c.ref quality hregistry

/-- The loop over the clients never meets a client without a group. -/
theorem Inv.foldlM_verifyClientQuality (settings : WebXSettings) (clients : List WebXClient) :
    ∀ {registry : WebXClientRegistry}, Inv registry → (∀ c ∈ clients, c.ref ∈ registry.refs) →
      ∃ registry', clients.foldlM (verifyClientQuality settings) registry = .ok registry' ∧
        Inv registry' ∧ registry'.refs = registry.refs := by
  induction clients with
  | nil => exact fun h _ => ⟨_, rfl, h, rfl⟩
  | cons c clients ih =>
      intro registry h hmem
      rw [List.forall_mem_cons] at hmem
      obtain ⟨group, -, hgroup⟩ := h.getGroupWithClientId hmem.1
      rw [List.foldlM_cons, verifyClientQuality_of_some hgroup]
      have hnext : Inv ((suggestedQuality settings c group).elim registry
          (registry.setClientQuality c.ref)) ∧
          ((suggestedQuality settings c group).elim registry
            (registry.setClientQuality c.ref)).refs = registry.refs := by
        cases suggestedQuality settings c group with
        | none => exact ⟨h, rfl⟩
        | some quality => exact ⟨h.setClientQuality hmem.1 quality, refs_setClientQuality⟩
      obtain ⟨registry', hrun, hinv, hrefs⟩ := ih hnext.1 fun d hd => hnext.2.symm ▸ hmem.2 d hd
      exact ⟨registry', hrun, hinv, hrefs.trans hnext.2⟩

/-- The verification never uses a null group. -/
theorem Inv.performQualityVerification (h : Inv registry) (settings : WebXSettings)
    (measure : UInt32 → WebXClientMeasure) (now : Time) :
    ∃ registry', registry.performQualityVerification settings measure now = .ok registry' ∧
      Inv registry' := by
  obtain ⟨clients, hrefs, heq⟩ := performGroupQualityVerifications_eq registry measure now
  have hverified : Inv { registry with clients := clients } := h.of_refs_eq hrefs registry.sent
  obtain ⟨registry', hrun, hinv, -⟩ :=
    Inv.foldlM_verifyClientQuality settings clients hverified
      fun c hc => List.mem_map_of_mem hc
  refine ⟨registry', ?_, hinv⟩
  rw [WebXClientRegistry.performQualityVerification, heq]
  exact hrun

/-! ### The windows -/

/-- The groups may change as long as their qualities, masks and clients do not. -/
theorem Inv.of_membership_eq (h : Inv registry) {groups : List WebXClientGroup}
    (heq : groups.map WebXClientGroup.membership = registry.groups.map WebXClientGroup.membership) :
    Inv { registry with groups := groups } := ⟨h.members, h.groups.of_membership_eq heq⟩

/-- **Damage** changes the windows of the groups only. -/
theorem Inv.addWindowDamage (h : Inv registry) (damage : WebXWindowDamage) (now : Time) :
    Inv (registry.addWindowDamage settings damage now) := by
  refine h.of_membership_eq ?_
  simp [Function.comp_def]

/-- **The visible windows** change the windows of the groups only. -/
theorem Inv.updateVisibleWindows (h : Inv registry) (windowVisibilities : List WebXWindowVisibility)
    (now : Time) : Inv (registry.updateVisibleWindows settings windowVisibilities now) := by
  refine h.of_membership_eq ?_
  simp [Function.comp_def]

/-- The updates of the windows do not change the members of the groups. -/
theorem map_membership_handleGroups {σ : Type*} (updateHandler : UpdateHandler σ) (now : Time)
    (groups : List WebXClientGroup) (state : σ) :
    (handleGroups settings updateHandler now groups state).1.map WebXClientGroup.membership =
      groups.map WebXClientGroup.membership := by
  induction groups generalizing state with
  | nil => rfl
  | cons group groups ih => simp [handleGroups, ih]

/-- **A pass over the windows** changes the windows of the groups only. -/
theorem Inv.handleWindowGraphicalUpdates {σ : Type*} (h : Inv registry)
    (updateHandler : UpdateHandler σ) (now : Time) (state : σ) :
    Inv (registry.handleWindowGraphicalUpdates settings updateHandler now state).1 :=
  h.of_membership_eq (map_membership_handleGroups updateHandler now registry.groups state)

/-- Without clients, no group is left; the bits in the mask do not matter. -/
theorem Inv.disconnectAll (registry : WebXClientRegistry) : Inv registry.disconnectAll :=
  ⟨.nil _, ⟨.refl _, by simp [WebXClientRegistry.disconnectAll], .nil,
    by simp [WebXClientRegistry.disconnectAll]⟩⟩

end WebXClientRegistry

/-! ## Runs -/

namespace RegistryState

open WebXClientRegistry

/-- No call fails, and every call keeps the invariant. -/
theorem inv_step (settings : WebXSettings) (state : RegistryState) (op : RegistryOp)
    (h : state.registry.Inv) :
    ∃ state', state.step settings op = .ok state' ∧ state'.registry.Inv := by
  cases op with
  | addClient clientVersion draws now =>
      refine ⟨_, rfl, ?_⟩
      cases hadd : state.registry.addClient settings clientVersion draws now with
      | none => exact h
      | some result => exact h.addClient hadd
  | removeClient clientId => exact ⟨_, rfl, h.removeClient clientId⟩
  | setClientMaxQuality clientId quality => exact ⟨_, rfl, h.setClientMaxQuality clientId quality⟩
  | handleClientPings now => exact ⟨_, rfl, h.handleClientPings now⟩
  | onPongReceived clientId now => exact ⟨_, rfl, h.updateClient clientId fun c => c.ref_onPongReceived now⟩
  | performQualityVerification measure now =>
      -- the only call that could fail: it looks for the group of each client
      obtain ⟨registry', hrun, hinv⟩ := h.performQualityVerification settings measure now
      refine ⟨{ state with registry := registry' }, ?_, hinv⟩
      rw [step, hrun]
      rfl
  | addWindowDamage damage now => exact ⟨_, rfl, h.addWindowDamage damage now⟩
  | updateVisibleWindows windowVisibilities now =>
      exact ⟨_, rfl, h.updateVisibleWindows windowVisibilities now⟩
  | handleWindowGraphicalUpdates answer now =>
      exact ⟨_, rfl, h.handleWindowGraphicalUpdates _ now state.calls⟩
  | disconnectAll => exact ⟨_, rfl, Inv.disconnectAll state.registry⟩

end RegistryState

/-! ## The agreement of the registry, clause by clause -/

/-- The clients and the groups of a registry agree with each other. -/
structure WebXClientRegistry.Consistent (registry : WebXClientRegistry) : Prop where
  /-- The identifiers of the clients are different. -/
  ids_nodup : (registry.clients.map WebXClient.id).Nodup
  /-- The index of a client is a single bit. -/
  singleBit : ∀ client ∈ registry.clients, SingleBit client.index
  /-- The bits of the clients are disjoint. -/
  disjoint : registry.clients.Pairwise fun c d => c.index &&& d.index = 0
  /-- The bits of the clients are set in the mask of the registry. -/
  masked : ∀ client ∈ registry.clients, client.index &&& registry.clientIndexMask = client.index
  /-- Each client is in exactly one group. -/
  one_group : ∀ client ∈ registry.clients,
    registry.groups.countP (fun group => client.ref ∈ group.clients) = 1
  /-- The members of the groups are clients of the registry. -/
  registered : ∀ group ∈ registry.groups, ∀ member ∈ group.clients,
    ∃ client ∈ registry.clients, client.ref = member
  /-- No group is empty. -/
  nonempty : ∀ group ∈ registry.groups, group.clients ≠ []
  /-- The groups have different qualities, which are compared by their index. -/
  qualities_nodup : (registry.groups.map fun group => group.quality.index).Nodup
  /-- The mask of a group is the union of the bits of its members. -/
  mask_eq : ∀ group ∈ registry.groups,
    group.clientIndexMask = orAll (group.clients.map WebXClientRef.index)

/-- Lists without a common element contain an element at most once. -/
theorem countP_mem_eq_one {α β : Type*} [DecidableEq β] {f : α → List β} {b : β} {as : List α}
    (hnodup : (as.flatMap f).Nodup) (hb : b ∈ as.flatMap f) :
    as.countP (fun a => b ∈ f a) = 1 := by
  induction as with
  | nil => exact nomatch hb
  | cons a as ih =>
      rw [List.flatMap_cons] at hnodup hb
      obtain ⟨-, htail, hdisjoint⟩ := List.nodup_append.mp hnodup
      rw [List.countP_cons]
      by_cases ha : b ∈ f a
      · have hnone : as.countP (fun a => b ∈ f a) = 0 := by
          rw [List.countP_eq_zero]
          intro a' ha' hmem
          exact hdisjoint b ha b (List.mem_flatMap.mpr ⟨a', ha', of_decide_eq_true hmem⟩) rfl
        simp [ha, hnone]
      · have htailMem := (List.mem_append.mp hb).resolve_left ha
        simp [ha, ih htail htailMem]

namespace WebXClientRegistry

/-- **What the invariant says in the words of the registry.** -/
theorem Inv.consistent {registry : WebXClientRegistry} (h : Inv registry) : registry.Consistent where
  ids_nodup := by
    have hids := h.members.ids
    rwa [refs, List.map_map] at hids
  singleBit := fun client hclient => h.members.singleBit _ (List.mem_map_of_mem hclient)
  disjoint := List.pairwise_map.mp h.members.disjoint
  masked := fun client hclient => h.members.masked _ (List.mem_map_of_mem hclient)
  one_group := by
    intro client hclient
    have hnodup := h.groups.perm.nodup_iff.mpr (List.Nodup.of_map _ h.members.ids)
    exact countP_mem_eq_one hnodup (h.groups.perm.mem_iff.mpr (List.mem_map_of_mem hclient))
  registered := fun group hgroup member hmember =>
    List.mem_map.mp (h.groups.mem_members hgroup hmember)
  nonempty := h.groups.nonempty
  qualities_nodup := h.groups.qualities
  mask_eq := h.groups.mask

/-- Adding a client changes nothing when it is refused. -/
theorem addClient_eq_of_error {settings : WebXSettings} {registry registry' : WebXClientRegistry}
    {clientVersion : WebXVersion} {draws : List UInt32} {now : Time} {error : String}
    (h : registry.addClient settings clientVersion draws now = some (.error error, registry')) :
    registry' = registry := by
  rw [addClient] at h
  split_ifs at h with hfull
  · cases h
    rfl
  · obtain ⟨clientId, -, heq⟩ := Option.map_eq_some_iff.mp h
    exact nomatch heq

/-- Removing a client changes nothing when it is refused. -/
theorem Inv.removeClient_eq_of_error {registry registry' : WebXClientRegistry} (h : Inv registry)
    {clientId : UInt32} {error : String}
    (hremove : registry.removeClient clientId = (.error error, registry')) : registry' = registry := by
  cases hclient : registry.getClientById clientId with
  | none =>
      rw [h.removeClient_of_none hclient] at hremove
      exact (congrArg Prod.snd hremove).symm
  | some c =>
      rw [removeClient_of_some _ hclient] at hremove
      exact nomatch congrArg Prod.fst hremove

/-- **The registry of clients is always consistent.** Whatever calls are made to a new registry, none
of them uses a null group; the clients and the groups agree with each other, and adding or removing a
client changes nothing when it is refused. -/
theorem foldlM_step_consistent (settings : WebXSettings) (ops : List RegistryOp) :
    ∃ state, ops.foldlM (RegistryState.step settings) .init = .ok state ∧
      state.registry.Consistent ∧
      (∀ clientVersion draws now error registry',
        state.registry.addClient settings clientVersion draws now = some (.error error, registry') →
          registry' = state.registry) ∧
      ∀ clientId error registry',
        state.registry.removeClient clientId = (.error error, registry') →
          registry' = state.registry := by
  obtain ⟨state, hrun, hinv⟩ :=
    foldlM_of_invariant (P := fun state => state.registry.Inv)
      (fun s op h => RegistryState.inv_step settings s op h) ops
      (show RegistryState.init.registry.Inv from inv_create)
  exact ⟨state, hrun, hinv.consistent, fun _ _ _ _ _ h => addClient_eq_of_error h,
    fun _ _ _ h => hinv.removeClient_eq_of_error h⟩

end WebXClientRegistry

end WebXEngine
