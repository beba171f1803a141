import WebXEngine.Controller.RegistryInvariant

/-! # What the operations of the registry do to the clients

Most operations leave most of a client as it is. What they leave is said for any image `g` of the
clients that the changes made by an operation keep.

* **`map_clients_setClientQuality`** and the like — the images of the clients stay the same.
* **`clients_handleClientPings`**, **`sent_handleClientPings`** — the clients and the messages after
  the pings.
* **`Inv.addClient_cases`** — a client is refused, or added behind the others.
* **`clients_performGroupQualityVerifications`** — the rates of each client are verified once. -/

namespace WebXEngine

open BitMask

namespace WebXClientRegistry

variable {settings : WebXSettings} {registry : WebXClientRegistry} {client : WebXClientRef}
  {quality : WebXQuality} {α : Type*} {g : WebXClient → α}

/-- Clients are known by their pointers. -/
theorem Inv.eq_of_ref_eq (h : Inv registry) {c d : WebXClient} (hc : c ∈ registry.clients)
    (hd : d ∈ registry.clients) (hid : c.id = d.id) : c = d := by
  have hids := h.members.ids
  rw [refs, List.map_map] at hids
  exact List.inj_on_of_nodup_map hids hc hd hid

/-- Clients are known by their bits. -/
theorem Inv.eq_of_index_eq (h : Inv registry) {c d : WebXClient} (hc : c ∈ registry.clients)
    (hd : d ∈ registry.clients) (hindex : c.index = d.index) : c = d := by
  have href : c.ref = d.ref :=
    h.members.eq_of_index_eq (List.mem_map_of_mem hc) (List.mem_map_of_mem hd) hindex
  exact h.eq_of_ref_eq hc hd (congrArg WebXClientRef.id href)

/-! ## Images of the clients -/

/-- A change of a client leaves the others as they are. -/
theorem Inv.clients_updateClient (h : Inv registry) (clientId : UInt32)
    (change : WebXClient → WebXClient) :
    (registry.updateClient clientId change).clients =
      registry.clients.map fun c => if c.id = clientId then change c else c := by
  have hids := h.members.ids
  rw [refs, List.map_map] at hids
  exact updateFirst_eq_map clientId change hids

/-- A change that an image of the clients does not show. -/
theorem map_clients_updateClient (registry : WebXClientRegistry) (clientId : UInt32)
    {change : WebXClient → WebXClient} (hkeep : ∀ c, g (change c) = g c) :
    (registry.updateClient clientId change).clients.map g = registry.clients.map g :=
  map_updateFirst g (fun c _ => by simp [hkeep]) _

/-- A client that joins a group may lose its rates. -/
theorem map_clients_addClientToGroup (hreset : ∀ c, g c.resetBitrateData = g c) :
    (registry.addClientToGroup client quality).clients.map g = registry.clients.map g := by
  unfold addClientToGroup getOrCreateGroupByQuality
  dsimp only
  split_ifs <;> first | rfl | exact map_clients_updateClient _ _ hreset

/-- Joining a group sends nothing. -/
@[simp] theorem sent_addClientToGroup :
    (registry.addClientToGroup client quality).sent = registry.sent := by
  unfold addClientToGroup getOrCreateGroupByQuality
  dsimp only
  split_ifs <;> rfl

/-- A client whose quality changes may lose its rates. -/
theorem map_clients_setClientQuality (hreset : ∀ c, g c.resetBitrateData = g c) :
    (registry.setClientQuality client quality).clients.map g = registry.clients.map g := by
  cases hgroup : registry.getGroupWithClientId client.id with
  | none =>
      rw [setClientQuality, hgroup]
      exact map_clients_addClientToGroup hreset
  | some oldGroup =>
      rw [setClientQuality_of_some _ hgroup]
      split_ifs
      · exact map_clients_addClientToGroup hreset
      · rfl

/-- A client that sets its largest quality may lose its rates. -/
theorem map_clients_setClientMaxQuality (hreset : ∀ c, g c.resetBitrateData = g c)
    (hmax : ∀ c, g (c.setMaxQuality quality) = g c) {clientId : UInt32} :
    (registry.setClientMaxQuality clientId quality).clients.map g = registry.clients.map g := by
  cases hclient : registry.getClientById clientId with
  | none => rw [setClientMaxQuality_of_none _ hclient]
  | some c =>
      rw [setClientMaxQuality_of_some _ hclient]
      have hkeep := map_clients_updateClient registry clientId hmax
      dsimp only
      split_ifs
      · exact (map_clients_setClientQuality hreset).trans hkeep
      · exact hkeep

/-- No client has an identifier that is not found. -/
theorem notMem_refs {clientId : UInt32} (h : registry.getClientById clientId = none)
    (hid : client.id = clientId) : client ∉ registry.refs := by
  rintro hclient
  obtain ⟨c, hc, rfl⟩ := List.mem_map.mp hclient
  rw [getClientById, List.find?_eq_none] at h
  exact h c hc (decide_eq_true hid)

/-- A client that is added has a new identifier. -/
theorem map_clients_addClient (hreset : ∀ c, g c.resetBitrateData = g c)
    {clientVersion : WebXVersion} {draws : List UInt32} {now : Time} {clientId : UInt32}
    {clientIndex : UInt64} {registry' : WebXClientRegistry}
    (hadd : registry.addClient settings clientVersion draws now =
      some (.ok (clientId, clientIndex), registry')) :
    registry.getClientById clientId = none ∧
      registry'.clients.map g = registry.clients.map g ++
        [g (.create clientId clientIndex clientVersion settings.quality.max.maxQuality
          settings.controller.clientPingResponseTimeoutMs now)] := by
  rw [addClient] at hadd
  split_ifs at hadd
  · cases hadd
  · obtain ⟨drawn, hdraw, heq⟩ := Option.map_eq_some_iff.mp hadd
    cases heq
    refine ⟨?_, ?_⟩
    · simpa using List.find?_some hdraw
    · rw [map_clients_addClientToGroup hreset, List.map_append, List.map_singleton]

/-- The loop over the clients only makes clients lose their rates. -/
theorem map_clients_foldlM_verifyClientQuality (hreset : ∀ c, g c.resetBitrateData = g c)
    {clients : List WebXClient} {registry registry' : WebXClientRegistry}
    (hrun : clients.foldlM (verifyClientQuality settings) registry = .ok registry') :
    registry'.clients.map g = registry.clients.map g :=
  foldlM_verifyClientQuality_invariant (P := fun r => r.clients.map g = registry.clients.map g)
    (fun _ _ hmap => (map_clients_setClientQuality hreset).trans hmap) rfl hrun

/-- The verification of the rates changes each client by itself. -/
theorem map_clients_performGroupQualityVerifications {measure : UInt32 → WebXClientMeasure}
    {now : Time}
    (hverify : ∀ c means measure, g (WebXClient.performQualityVerification c means measure now) = g c) :
    (registry.performGroupQualityVerifications measure now).clients.map g =
      registry.clients.map g := by
  -- what one call does, the two loops do
  have hclients (members : List WebXClientRef) (means : Option ℚ) (r : WebXClientRegistry) :
      (members.foldl (fun registry client => registry.updateClient client.id fun c =>
        c.performQualityVerification means (measure client.id) now) r).clients.map g =
        r.clients.map g := by
    induction members generalizing r with
    | nil => rfl
    | cons m members ih =>
        exact (ih _).trans (map_clients_updateClient r m.id fun c => hverify c _ _)
  have hgroups (groups : List WebXClientGroup) (r : WebXClientRegistry) :
      (groups.foldl (fun registry group =>
        group.clients.foldl (fun registry client => registry.updateClient client.id fun c =>
          c.performQualityVerification group.averageImageMbps (measure client.id) now) registry)
        r).clients.map g = r.clients.map g := by
    induction groups generalizing r with
    | nil => rfl
    | cons group groups ih => exact (ih _).trans (hclients group.clients _ r)
  exact hgroups registry.groups registry

/-- Changes of different clients, one after the other. -/
theorem Inv.clients_foldl_updateClient {A : Type*} {key : A → UInt32}
    {change : A → WebXClient → WebXClient} (hkeep : ∀ a c, (change a c).ref = c.ref) (changes : List A) :
    (changes.map key).Nodup → ∀ {registry : WebXClientRegistry}, Inv registry →
      (changes.foldl (fun registry a => registry.updateClient (key a) (change a)) registry).clients =
        registry.clients.map fun c =>
          ((changes.find? fun a => key a = c.id).map fun a => change a c).getD c := by
  induction changes with
  | nil => exact fun _ _ _ => (List.map_id' _).symm
  | cons a changes ih =>
      intro hnodup registry h
      rw [List.map_cons, List.nodup_cons] at hnodup
      rw [List.foldl_cons, ih hnodup.2 (h.updateClient (key a) (hkeep a)), h.clients_updateClient,
        List.map_map]
      refine List.map_congr_left fun c hc => ?_
      by_cases hid : c.id = key a
      · -- the client is changed now, and not again
        have hnone : (changes.find? fun b => key b = (change a c).id) = none := by
          rw [List.find?_eq_none]
          rintro b hb hkey
          have hidkept : (change a c).id = c.id := congrArg WebXClientRef.id (hkeep a c)
          rw [decide_eq_true_eq, hidkept, hid] at hkey
          exact hnodup.1 (hkey ▸ List.mem_map_of_mem hb)
        rw [Function.comp_apply, if_pos hid, hnone, List.find?_cons_of_pos (by simpa using hid.symm)]
        rfl
      · rw [Function.comp_apply, if_neg hid, List.find?_cons_of_neg (by simpa using Ne.symm hid)]

/-- **The rates of each client are verified once**, with the mean of its group. -/
theorem Inv.clients_performGroupQualityVerifications (h : Inv registry)
    (measure : UInt32 → WebXClientMeasure) (now : Time) :
    (registry.performGroupQualityVerifications measure now).clients =
      registry.clients.map fun c => c.performQualityVerification
        ((registry.getGroupWithClientId c.id).bind WebXClientGroup.averageImageMbps) (measure c.id)
        now := by
  -- the two loops are one over the members of the groups
  let changes : List (WebXClientRef × Option ℚ) :=
    registry.groups.flatMap fun group => group.clients.map fun client => (client, group.averageImageMbps)
  have hloops : registry.performGroupQualityVerifications measure now =
      changes.foldl (fun registry a => registry.updateClient a.1.id fun c =>
        c.performQualityVerification a.2 (measure a.1.id) now) registry := by
    rw [performGroupQualityVerifications, List.foldl_flatMap]
    simp only [List.foldl_map]
  have hmembers : changes.map Prod.fst = registry.groups.flatMap WebXClientGroup.clients := by
    simp [changes, List.map_flatMap, List.map_map, Function.comp_def]
  have hnodup : (changes.map fun a => a.1.id).Nodup := by
    have hids := (h.groups.perm.map WebXClientRef.id).nodup_iff.mpr h.members.ids
    rwa [← hmembers, List.map_map] at hids
  rw [hloops, Inv.clients_foldl_updateClient
    (fun a c => c.ref_performQualityVerification a.2 (measure a.1.id) now) changes hnodup h]
  refine List.map_congr_left fun c hc => ?_
  obtain ⟨group, hgroup, hclient⟩ := h.groups.exists_group (List.mem_map_of_mem hc)
  have hmem : (c.ref, group.averageImageMbps) ∈ changes :=
    List.mem_flatMap.mpr ⟨group, hgroup, List.mem_map_of_mem hclient⟩
  have hfind : (changes.find? fun a => a.1.id = c.id) = some (c.ref, group.averageImageMbps) := by
    have hsome : (changes.find? fun a => a.1.id = c.id).isSome := by
      rw [List.find?_isSome]
      exact ⟨_, hmem, decide_eq_true rfl⟩
    obtain ⟨a, ha⟩ := Option.isSome_iff_exists.mp hsome
    have hid : a.1.id = c.id := by simpa using List.find?_some ha
    rw [ha, List.inj_on_of_nodup_map hnodup (List.mem_of_find?_eq_some ha) hmem hid]
  have hown : registry.getGroupWithClientId c.id = some group := h.getGroupWithClientId_eq hgroup hclient
  rw [hfind, hown]
  rfl

/-- The verification changes the rates of the clients only. -/
theorem map_clients_performQualityVerification (hreset : ∀ c, g c.resetBitrateData = g c)
    {measure : UInt32 → WebXClientMeasure} {now : Time}
    (hverify : ∀ c means measure, g (WebXClient.performQualityVerification c means measure now) = g c)
    {registry' : WebXClientRegistry}
    (hrun : registry.performQualityVerification settings measure now = .ok registry') :
    registry'.clients.map g = registry.clients.map g :=
  (map_clients_foldlM_verifyClientQuality hreset hrun).trans
    (map_clients_performGroupQualityVerifications hverify)

/-- The verification of the qualities leaves the pointers to the clients as they are. -/
theorem refs_performQualityVerification {measure : UInt32 → WebXClientMeasure} {now : Time}
    {registry' : WebXClientRegistry}
    (hrun : registry.performQualityVerification settings measure now = .ok registry') :
    registry'.refs = registry.refs :=
  map_clients_performQualityVerification WebXClient.ref_resetBitrateData
    (fun c means measure => c.ref_performQualityVerification means measure now) hrun

/-! ## Removed clients -/

/-- The clients without one of them. -/
theorem Inv.clients_removeClient (h : Inv registry) (clientId : UInt32) :
    (registry.removeClient clientId).2.clients =
      registry.clients.filter fun c => c.id ≠ clientId := by
  have hnodup : (registry.clients.map WebXClient.id).Nodup := by
    have hids := h.members.ids
    rwa [refs, List.map_map] at hids
  cases hclient : registry.getClientById clientId with
  | none =>
      rw [h.removeClient_of_none hclient, eq_comm, List.filter_eq_self]
      rw [getClientById, List.find?_eq_none] at hclient
      intro c hc
      simpa using hclient c hc
  | some c =>
      rw [removeClient_of_some _ hclient]
      change (registry.clients.eraseP fun client => client.id = clientId) = _
      clear hclient
      revert hnodup
      -- only one client has the identifier
      induction registry.clients with
      | nil => intro _; rfl
      | cons d clients ih =>
          intro hnodup
          rw [List.map_cons, List.nodup_cons] at hnodup
          by_cases hd : d.id = clientId
          · have hothers : ∀ e ∈ clients, e.id ≠ clientId := by
              rintro e he rfl
              exact hnodup.1 (hd ▸ List.mem_map_of_mem he)
            rw [List.eraseP_cons_of_pos (by simpa using hd),
              List.filter_cons_of_neg (by simpa using hd), eq_comm, List.filter_eq_self]
            simpa using hothers
          · rw [List.eraseP_cons_of_neg (by simpa using hd),
              List.filter_cons_of_pos (by simpa using hd), ih hnodup.2]

/-- Removing a client sends nothing. -/
theorem sent_removeClient (registry : WebXClientRegistry) (clientId : UInt32) :
    (registry.removeClient clientId).2.sent = registry.sent := by
  cases hclient : registry.getClientById clientId with
  | none =>
      rw [removeClient_of_none _ hclient]
      rfl
  | some c =>
      rw [removeClient_of_some _ hclient]
      rfl

/-- The clients whose pong did not come in time are told so, each once, and removed. -/
theorem removeTimedOutClients_spec (clientsWithTimeout : List WebXClient) :
    ∀ {registry : WebXClientRegistry}, Inv registry →
      (registry.removeTimedOutClients clientsWithTimeout).clients =
          registry.clients.filter (fun c => c.id ∉ clientsWithTimeout.map WebXClient.id) ∧
        (registry.removeTimedOutClients clientsWithTimeout).sent =
          registry.sent ++ clientsWithTimeout.map fun c => ⟨c.index, .disconnect⟩ := by
  induction clientsWithTimeout with
  | nil => exact fun _ => ⟨by simp [removeTimedOutClients], by simp [removeTimedOutClients]⟩
  | cons d clients ih =>
      intro registry h
      have hsent := h.clientMessage ⟨d.index, .disconnect⟩
      obtain ⟨hclients, hmessages⟩ := ih (hsent.removeClient d.id)
      rw [hsent.clients_removeClient] at hclients
      rw [sent_removeClient] at hmessages
      refine ⟨hclients.trans ?_, hmessages.trans ?_⟩
      · rw [List.filter_filter]
        refine List.filter_congr fun c _ => ?_
        rw [Bool.eq_iff_iff]
        simp [not_or, and_comm]
      · simp [clientMessage]

/-! ## Pings -/

/-- The clients with the status that they get from the time that has passed. -/
def updatedClients (registry : WebXClientRegistry) (now : Time) : List WebXClient :=
  registry.clients.map fun c => c.updatePingStatus now

/-- The registry when the time that has passed was looked at. -/
theorem Inv.updatedClients (h : Inv registry) (now : Time) :
    Inv { registry with clients := registry.updatedClients now } :=
  h.of_refs_eq (map_ref_map fun c => c.ref_updatePingStatus now) registry.sent

/-- What the sending of a ping does to a client. -/
def pinged (now : Time) (c : WebXClient) : WebXClient :=
  if c.pingStatus = .requiresPing then c.onPingSent now else c

@[simp] theorem ref_pinged (now : Time) (c : WebXClient) : (pinged now c).ref = c.ref := by
  unfold pinged
  split <;> rfl

/-- The clients that require a ping get one. -/
theorem clients_sendPings (registry : WebXClientRegistry) (now : Time) :
    (registry.sendPings now).clients = registry.clients.map (pinged now) := by
  refine List.map_congr_left fun c _ => ?_
  rw [pinged]
  simp only [decide_eq_true_eq]

/-- A client that requires a ping is sent one. -/
theorem sent_sendPings (registry : WebXClientRegistry) (now : Time) :
    (registry.sendPings now).sent = registry.sent ++
      (registry.clients.filter fun c => c.pingStatus = .requiresPing).map
        fun c => ⟨c.index, .ping⟩ := rfl

/-- **The clients after the pings** are those that did not time out. -/
theorem Inv.clients_handleClientPings (h : Inv registry) (now : Time) :
    (registry.handleClientPings now).clients =
      ((registry.updatedClients now).filter fun c => c.pingStatus ≠ .pongTimeout).map
        (pinged now) := by
  have hupdated := h.updatedClients now
  have hnodup : ((registry.updatedClients now).map WebXClient.id).Nodup := by
    have hids := hupdated.members.ids
    rwa [refs, List.map_map] at hids
  obtain ⟨hclients, -⟩ := removeTimedOutClients_spec
    ((registry.updatedClients now).filter fun c => c.pingStatus = .pongTimeout) hupdated
  rw [WebXClientRegistry.handleClientPings, clients_sendPings]
  change ((WebXClientRegistry.removeTimedOutClients _ _).clients.map (pinged now)) = _
  rw [show registry.clients.map (fun c => c.updatePingStatus now) = registry.updatedClients now
    from rfl, hclients]
  refine congrArg (List.map (pinged now)) (List.filter_congr fun c hc => ?_)
  -- a client times out when one with its identifier does
  rw [decide_eq_decide]
  refine not_congr ?_
  rw [List.mem_map]
  constructor
  · rintro ⟨d, hd, hid⟩
    rw [List.mem_filter, decide_eq_true_eq] at hd
    rw [← List.inj_on_of_nodup_map hnodup hd.1 hc hid]
    exact hd.2
  · intro htimeout
    exact ⟨c, List.mem_filter.mpr ⟨hc, decide_eq_true htimeout⟩, rfl⟩

/-- **The messages of the pings**: first those to the clients that timed out, then the pings. -/
theorem Inv.sent_handleClientPings (h : Inv registry) (now : Time) :
    (registry.handleClientPings now).sent = registry.sent ++
      (((registry.updatedClients now).filter fun c => c.pingStatus = .pongTimeout).map
          (fun c => ⟨c.index, .disconnect⟩) ++
        ((registry.updatedClients now).filter fun c => c.pingStatus = .requiresPing).map
          fun c => ⟨c.index, .ping⟩) := by
  have hupdated := h.updatedClients now
  have hnodup : ((registry.updatedClients now).map WebXClient.id).Nodup := by
    have hids := hupdated.members.ids
    rwa [refs, List.map_map] at hids
  obtain ⟨hclients, hmessages⟩ := removeTimedOutClients_spec
    ((registry.updatedClients now).filter fun c => c.pingStatus = .pongTimeout) hupdated
  rw [WebXClientRegistry.handleClientPings, sent_sendPings]
  change (WebXClientRegistry.removeTimedOutClients _ _).sent ++
    ((WebXClientRegistry.removeTimedOutClients _ _).clients.filter _).map _ = _
  rw [show registry.clients.map (fun c => c.updatePingStatus now) = registry.updatedClients now
    from rfl, hclients, hmessages, List.append_assoc]
  refine congrArg (registry.sent ++ ·) (congrArg (_ ++ ·) (congrArg (List.map _) ?_))
  rw [List.filter_filter]
  refine List.filter_congr fun c hc => ?_
  -- a client that requires a ping has not timed out, and is the only one with its identifier
  by_cases hrequires : c.pingStatus = .requiresPing
  · have hkept : c.id ∉ ((registry.updatedClients now).filter fun c =>
        c.pingStatus = .pongTimeout).map WebXClient.id := by
      rw [List.mem_map]
      rintro ⟨d, hd, hid⟩
      rw [List.mem_filter, decide_eq_true_eq] at hd
      rw [List.inj_on_of_nodup_map hnodup hd.1 hc hid, hrequires] at hd
      cases hd.2
    simp [hrequires, hkept]
  · simp [hrequires]

/-! ## Adding a client -/

/-- There are never more than 64 clients. -/
theorem Inv.length_clients_le (h : Inv registry) : registry.clients.length ≤ 64 := by
  have hcard : (bits (orAll (registry.refs.map WebXClientRef.index))).card =
      registry.clients.length := by
    rw [card_bits_orAll (List.forall_mem_map.mpr h.members.singleBit)
      (List.pairwise_map.mpr h.members.disjoint), List.length_map, refs, List.length_map]
  exact hcard ▸ card_bits_le _

/-- Some identifier that is drawn is not that of a client. -/
theorem Inv.exists_draw (h : Inv registry) {draws : List UInt32}
    (hmany : 64 < draws.toFinset.card) :
    ∃ clientId ∈ draws, registry.getClientById clientId = none := by
  by_contra hall
  push Not at hall
  have hsubset : draws.toFinset ⊆ (registry.clients.map WebXClient.id).toFinset := by
    intro clientId hdrawn
    obtain ⟨c, hc⟩ := Option.ne_none_iff_exists'.mp (hall clientId (List.mem_toFinset.mp hdrawn))
    obtain ⟨hmem, hid⟩ := ref_mem_refs hc
    rw [List.mem_toFinset, ← hid]
    exact List.mem_map_of_mem (List.mem_of_find?_eq_some hc)
  have hcard := (Finset.card_le_card hsubset).trans (List.toFinset_card_le _)
  rw [List.length_map] at hcard
  have hlength := h.length_clients_le
  omega

/-- A new client that joins a group has no rates to lose. -/
theorem clients_addClientToGroup_concat {clients : List WebXClient} {client : WebXClient}
    {quality : WebXQuality} (hnew : clients.find? (fun c => c.id = client.id) = none)
    (hrates : client.resetBitrateData = client) (clientIndexMask : UInt64)
    (groups : List WebXClientGroup) (sent : List WebXMessage) :
    (addClientToGroup ⟨clientIndexMask, clients ++ [client], groups, sent⟩ client.ref
      quality).clients = clients ++ [client] := by
  have hupdate : updateFirst (fun c => c.id = client.id) (fun c => some c.resetBitrateData)
      (clients ++ [client]) = clients ++ [client] := by
    have hclient : updateFirst (fun c => c.id = client.id) (fun c => some c.resetBitrateData)
        [client] = [client.resetBitrateData] := updateFirst_cons_of_pos _ [] (decide_eq_true rfl)
    rw [updateFirst_append_of_find?_eq_none _ hnew, hclient, hrates]
  unfold addClientToGroup getOrCreateGroupByQuality
  dsimp only
  split_ifs <;> first | rfl | exact hupdate

/-- A client is refused without a free index, and is otherwise added behind the others. -/
theorem Inv.addClient_cases (h : Inv registry) (clientVersion : WebXVersion) {draws : List UInt32}
    (hmany : 64 < draws.toFinset.card) (now : Time) :
    registry.addClient settings clientVersion draws now =
        some (.error "no client indices available", registry) ∨
      ∃ client registry', registry.addClient settings clientVersion draws now =
          some (.ok (client.id, client.index), registry') ∧
        registry'.clients = registry.clients ++ [client] ∧
        registry.getClientById client.id = none := by
  by_cases hfull : ~~~registry.clientIndexMask = 0
  · left
    rw [WebXClientRegistry.addClient, if_pos hfull]
  -- at most 64 identifiers are taken, so that a free one is drawn
  · obtain ⟨drawn, hdrawn, hnone⟩ := h.exists_draw hmany
    obtain ⟨clientId, hclientId, hnew⟩ := registry.exists_find?_free hdrawn hnone
    right
    rw [WebXClientRegistry.addClient, if_neg hfull, hclientId]
    refine ⟨.create clientId (firstFreeBit registry.clientIndexMask 64 1) clientVersion
      settings.quality.max.maxQuality settings.controller.clientPingResponseTimeoutMs now, _, rfl, ?_,
      hnew⟩
    exact @clients_addClientToGroup_concat registry.clients (.create ..) _ hnew rfl _ _ _

end WebXClientRegistry

end WebXEngine
