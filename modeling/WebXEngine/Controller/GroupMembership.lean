import WebXEngine.Controller.ClientGroup
import Mathlib.Data.List.Pairwise

/-! # Clients and groups

The groups share out the clients of the registry. The clients are given by the pointers to them: an
identifier and the bit by which messages are addressed.

* **`MembersConsistent`** — the identifiers and the bits of the clients.
* **`GroupsConsistent`** — the groups share out the clients; `join`, `create` and `leave` say that
  this stays so when a client joins or leaves a group. -/

namespace WebXEngine

open BitMask

/-! ## The clients -/

/-- The clients of a registry have different identifiers and different single bits of its mask. -/
structure MembersConsistent (mask : UInt64) (members : List WebXClientRef) : Prop where
  ids : (members.map WebXClientRef.id).Nodup
  singleBit : ∀ m ∈ members, SingleBit m.index
  disjoint : members.Pairwise fun m n => m.index &&& n.index = 0
  masked : ∀ m ∈ members, m.index &&& mask = m.index

namespace MembersConsistent

variable {mask : UInt64} {members : List WebXClientRef}

/-- Without groups and clients no index is in a mask. -/
theorem nil (mask : UInt64) : MembersConsistent mask [] := ⟨.nil, by simp, .nil, by simp⟩

/-- Two clients with the same identifier are the same. -/
theorem eq_of_id_eq (h : MembersConsistent mask members) {m n : WebXClientRef} (hm : m ∈ members)
    (hn : n ∈ members) (hid : m.id = n.id) : m = n :=
  List.inj_on_of_nodup_map h.ids hm hn hid

/-- Two different clients share no bit. -/
theorem and_eq_zero (h : MembersConsistent mask members) {m n : WebXClientRef} (hm : m ∈ members)
    (hn : n ∈ members) (hne : m ≠ n) : m.index &&& n.index = 0 := by
  have : Std.Symm fun m n : WebXClientRef => m.index &&& n.index = 0 :=
    ⟨fun _ _ hab => (UInt64.and_comm _ _).trans hab⟩
  exact h.disjoint.forall hm hn hne

/-- Two clients with the same bit are the same. -/
theorem eq_of_index_eq (h : MembersConsistent mask members) {m n : WebXClientRef} (hm : m ∈ members)
    (hn : n ∈ members) (hindex : m.index = n.index) : m = n := by
  by_contra hne
  have hzero := h.and_eq_zero hm hn hne
  rw [hindex, UInt64.and_self] at hzero
  exact (h.singleBit n hn).ne_zero hzero

/-- A new client with a free bit. -/
theorem concat (h : MembersConsistent mask members) {client : WebXClientRef}
    (hid : ∀ m ∈ members, m.id ≠ client.id) (hbit : SingleBit client.index)
    (hfree : client.index &&& mask = 0) :
    MembersConsistent (mask ||| client.index) (members ++ [client]) where
  ids := by
    rw [List.map_append, List.nodup_append]
    refine ⟨h.ids, List.nodup_singleton _, ?_⟩
    simpa using hid
  singleBit := by
    intro m hm
    rw [List.mem_append, List.mem_singleton] at hm
    rcases hm with hm | rfl
    · exact h.singleBit m hm
    · exact hbit
  disjoint := by
    refine List.pairwise_append.mpr ⟨h.disjoint, List.pairwise_singleton _ _, ?_⟩
    intro m hm n hn
    rw [List.mem_singleton] at hn
    subst hn
    -- a bit of an old client is in the mask, a bit of the new one is not
    refine BitMask.and_eq_zero.mpr fun i hi => ?_
    exact BitMask.and_eq_zero.mp hfree i ⟨hi.2, and_eq_left.mp (h.masked m hm) i hi.1⟩
  masked := by
    intro m hm
    refine and_eq_left.mpr fun i hi => ?_
    rw [bit_or, Bool.or_eq_true]
    rw [List.mem_append, List.mem_singleton] at hm
    rcases hm with hm | rfl
    · exact .inl (and_eq_left.mp (h.masked m hm) i hi)
    · exact .inr hi

/-- A client leaves, and its bit with it. -/
theorem erase (h : MembersConsistent mask members) {client : WebXClientRef}
    (hclient : client ∈ members) :
    MembersConsistent (mask &&& ~~~client.index) (members.erase client) where
  ids := h.ids.sublist (List.erase_sublist.map _)
  singleBit := fun m hm => h.singleBit m (List.mem_of_mem_erase hm)
  disjoint := h.disjoint.sublist List.erase_sublist
  masked := by
    intro m hm
    have hmem := List.mem_of_mem_erase hm
    have hne : m ≠ client := by
      rintro rfl
      exact (List.Nodup.of_map _ h.ids).not_mem_erase hm
    -- a bit of another member stays, as it is not one of the member that leaves
    refine and_eq_left.mpr fun i hi => ?_
    have hmask : bit mask i = true := and_eq_left.mp (h.masked m hmem) i hi
    have hnot : ¬ bit client.index i = true := fun hc =>
      BitMask.and_eq_zero.mp (h.and_eq_zero hmem hclient hne) i ⟨hi, hc⟩
    have hlt : i < 64 := by
      by_contra hle
      rw [bit_of_le _ (not_lt.mp hle)] at hi
      exact nomatch hi
    simp [hmask, hnot, hlt]

end MembersConsistent

/-! ## The groups -/

/-- The groups share out some clients: each of them has at least one, they have different qualities
and their masks are the unions of the bits of their clients. -/
structure GroupsConsistent (groups : List WebXClientGroup) (members : List WebXClientRef) : Prop where
  perm : (groups.flatMap WebXClientGroup.clients).Perm members
  nonempty : ∀ group ∈ groups, group.clients ≠ []
  qualities : (groups.map fun group => group.quality.index).Nodup
  mask : ∀ group ∈ groups, group.clientIndexMask = orAll (group.clients.map WebXClientRef.index)

namespace GroupsConsistent

variable {groups : List WebXClientGroup} {members : List WebXClientRef} {mask : UInt64}

/-- A client of a group is one of the clients. -/
theorem mem_members (h : GroupsConsistent groups members) {group : WebXClientGroup}
    (hgroup : group ∈ groups) {client : WebXClientRef} (hclient : client ∈ group.clients) :
    client ∈ members :=
  h.perm.mem_iff.mp (List.mem_flatMap.mpr ⟨group, hgroup, hclient⟩)

/-- A client is in a group. -/
theorem exists_group (h : GroupsConsistent groups members) {client : WebXClientRef}
    (hclient : client ∈ members) : ∃ group ∈ groups, client ∈ group.clients :=
  List.mem_flatMap.mp (h.perm.mem_iff.mpr hclient)

/-- The clients may be listed in another order. -/
theorem of_perm (h : GroupsConsistent groups members) {members' : List WebXClientRef}
    (hperm : members.Perm members') : GroupsConsistent groups members' :=
  ⟨h.perm.trans hperm, h.nonempty, h.qualities, h.mask⟩

/-- Only the qualities, the masks and the clients of the groups matter. -/
theorem of_membership_eq (h : GroupsConsistent groups members) {groups' : List WebXClientGroup}
    (heq : groups'.map WebXClientGroup.membership = groups.map WebXClientGroup.membership) :
    GroupsConsistent groups' members := by
  have hmem {group' : WebXClientGroup} (hgroup' : group' ∈ groups') :
      ∃ group ∈ groups, group.membership = group'.membership := by
    rw [← List.mem_map, ← heq]
    exact List.mem_map_of_mem hgroup'
  -- all that the agreement is about is in what both lists have in common
  refine ⟨?_, ?_, ?_, ?_⟩
  · have hclients := congrArg (List.flatMap fun m => m.2.2) heq
    simp only [List.flatMap_map, WebXClientGroup.membership] at hclients
    exact hclients ▸ h.perm
  · intro group' hgroup'
    obtain ⟨group, hgroup, hview⟩ := hmem hgroup'
    have hclients : group.clients = group'.clients := congrArg (·.2.2) hview
    exact hclients ▸ h.nonempty group hgroup
  · have hqualities := congrArg (List.map fun m => m.1) heq
    simp only [List.map_map, Function.comp_def, WebXClientGroup.membership] at hqualities
    exact hqualities ▸ h.qualities
  · intro group' hgroup'
    obtain ⟨group, hgroup, hview⟩ := hmem hgroup'
    have hclients : group.clients = group'.clients := congrArg (·.2.2) hview
    have hmask : group.clientIndexMask = group'.clientIndexMask := congrArg (·.2.1) hview
    rw [← hclients, ← hmask]
    exact h.mask group hgroup

/-- The group with one client more. -/
theorem clients_addClient {group : WebXClientGroup} {client : WebXClientRef}
    (hnew : ∀ m ∈ group.clients, m.id ≠ client.id) :
    (group.addClient client).clients = group.clients ++ [client] ∧
      (group.addClient client).clientIndexMask = group.clientIndexMask ||| client.index := by
  have hnone : group.getClientById client.id = none := by
    rw [WebXClientGroup.getClientById, List.find?_eq_none]
    simpa using hnew
  rw [WebXClientGroup.addClient, if_pos hnone]
  exact ⟨rfl, rfl⟩

/-- A new client joins the group of a quality. -/
theorem join (h : GroupsConsistent groups members) {client : WebXClientRef}
    (hnew : ∀ m ∈ members, m.id ≠ client.id) {quality : WebXQuality} {group : WebXClientGroup}
    (hfind : groups.find? (fun group => group.quality.index = quality.index) = some group) :
    GroupsConsistent
      (updateFirst (fun group => group.quality.index = quality.index)
        (fun group => some (group.addClient client)) groups) (members ++ [client]) := by
  obtain ⟨before, after, rfl, -, -, heq⟩ :=
    updateFirst_eq_append (fun group => some (group.addClient client)) hfind
  have hgroup : group ∈ before ++ group :: after :=
    List.mem_append_right _ List.mem_cons_self
  obtain ⟨hclients, hmask⟩ :=
    clients_addClient fun m hm => hnew m (h.mem_members hgroup hm)
  rw [heq, Option.toList_some, List.singleton_append]
  refine ⟨?_, ?_, ?_, ?_⟩
  · have hperm := h.perm
    simp only [List.flatMap_append, List.flatMap_cons, hclients] at hperm ⊢
    refine List.Perm.trans ?_ (hperm.append_right [client])
    -- the client is moved behind the members of the later groups
    simp only [List.append_assoc]
    exact ((List.perm_append_comm).append_left _).append_left _
  · intro g hg
    rw [List.mem_append, List.mem_cons] at hg
    rcases hg with hg | rfl | hg
    · exact h.nonempty g (List.mem_append_left _ hg)
    · simp [hclients]
    · exact h.nonempty g (List.mem_append_right _ (List.mem_cons_of_mem _ hg))
  · simpa using h.qualities
  · intro g hg
    rw [List.mem_append, List.mem_cons] at hg
    rcases hg with hg | rfl | hg
    · exact h.mask g (List.mem_append_left _ hg)
    · rw [hmask, hclients, List.map_append, List.map_singleton, orAll_concat, h.mask group hgroup]
    · exact h.mask g (List.mem_append_right _ (List.mem_cons_of_mem _ hg))

/-- A new client joins a group that is created for it. -/
theorem create (h : GroupsConsistent groups members) (client : WebXClientRef) {quality : WebXQuality}
    (hfind : groups.find? (fun group => group.quality.index = quality.index) = none) :
    GroupsConsistent (groups ++ [(WebXClientGroup.create quality).addClient client])
      (members ++ [client]) := by
  have hnone : ∀ m ∈ (WebXClientGroup.create quality).clients, m.id ≠ client.id := by
    simp [WebXClientGroup.create]
  obtain ⟨hclients, hmask⟩ := clients_addClient hnone
  -- the members, then the new group has one, its quality is new, and its mask is the bit of the client
  refine ⟨?_, ?_, ?_, ?_⟩
  · rw [List.flatMap_append, List.flatMap_singleton, hclients]
    exact h.perm.append_right _
  · intro g hg
    rw [List.mem_append, List.mem_singleton] at hg
    rcases hg with hg | rfl
    · exact h.nonempty g hg
    · simp [hclients]
  · rw [List.map_append, List.nodup_append]
    refine ⟨h.qualities, List.nodup_singleton _, ?_⟩
    simpa [WebXClientGroup.create] using hfind
  · intro g hg
    rw [List.mem_append, List.mem_singleton] at hg
    rcases hg with hg | rfl
    · exact h.mask g hg
    · rw [hmask, hclients]
      simp [WebXClientGroup.create]

/-- The group without a client. -/
theorem clients_removeClient {group : WebXClientGroup} {client : WebXClientRef}
    (hfind : group.getClientById client.id = some client) :
    (group.removeClient client.id).clients = group.clients.erase client ∧
      (group.removeClient client.id).clientIndexMask =
        group.clientIndexMask &&& ~~~client.index := by
  rw [WebXClientGroup.removeClient, hfind]
  exact ⟨rfl, rfl⟩

/-- The search of a client in a group that contains its identifier finds it. -/
theorem getClientById_eq (h : GroupsConsistent groups members) (hm : MembersConsistent mask members)
    {client : WebXClientRef} (hclient : client ∈ members) {group : WebXClientGroup}
    (hgroup : group ∈ groups) (hcontains : group.contains client.id = true) :
    group.getClientById client.id = some client := by
  obtain ⟨found, hfound⟩ := Option.isSome_iff_exists.mp hcontains
  obtain ⟨hmem, hid⟩ := group.mem_of_getClientById hfound
  rw [hfound, hm.eq_of_id_eq (h.mem_members hgroup hmem) hclient hid]

/-- The group of a client is found. -/
theorem exists_find? (h : GroupsConsistent groups members) {client : WebXClientRef}
    (hclient : client ∈ members) :
    ∃ group ∈ groups, groups.find? (fun group => group.contains client.id) = some group := by
  obtain ⟨group, hgroup, hmem⟩ := h.exists_group hclient
  have hsome : (groups.find? fun group => group.contains client.id).isSome := by
    rw [List.find?_isSome]
    exact ⟨group, hgroup, group.contains_iff.mpr ⟨client, hmem, rfl⟩⟩
  obtain ⟨found, hfound⟩ := Option.isSome_iff_exists.mp hsome
  exact ⟨found, List.mem_of_find?_eq_some hfound, hfound⟩

/-- The clients of a group are different. -/
theorem nodup_clients (h : GroupsConsistent groups members) (hm : MembersConsistent mask members)
    {group : WebXClientGroup} (hgroup : group ∈ groups) : group.clients.Nodup :=
  (List.nodup_flatMap.mp (h.perm.nodup_iff.mpr (List.Nodup.of_map _ hm.ids))).1 group hgroup

/-- The mask of a group after a client has left it. -/
theorem mask_removeClient (h : GroupsConsistent groups members) (hm : MembersConsistent mask members)
    {client : WebXClientRef} {group : WebXClientGroup} (hgroup : group ∈ groups)
    (hin : client ∈ group.clients) :
    group.clientIndexMask &&& ~~~client.index =
      orAll ((group.clients.erase client).map WebXClientRef.index) := by
  have hperm := (List.perm_cons_erase hin).map WebXClientRef.index
  rw [h.mask group hgroup, orAll_perm hperm, List.map_cons, orAll_cons]
  refine orAll_clear fun n hn => ?_
  obtain ⟨m, hmem, rfl⟩ := List.mem_map.mp hn
  have hne : m ≠ client := by
    rintro rfl
    exact (h.nodup_clients hm hgroup).not_mem_erase hmem
  exact hm.and_eq_zero (h.mem_members hgroup hin)
    (h.mem_members hgroup (List.mem_of_mem_erase hmem)) hne.symm

/-- The clients of the groups when one of them has left its group. -/
theorem perm_erase {before after : List WebXClientGroup} {group : WebXClientGroup}
    (h : GroupsConsistent (before ++ group :: after) members) (hm : MembersConsistent mask members)
    {client : WebXClientRef} (hin : client ∈ group.clients) :
    (before.flatMap WebXClientGroup.clients ++
      (group.clients.erase client ++ after.flatMap WebXClientGroup.clients)).Perm
      (members.erase client) := by
  have hall := h.perm
  rw [List.flatMap_append, List.flatMap_cons] at hall
  -- the client is in no other group
  have hbefore : client ∉ before.flatMap WebXClientGroup.clients := by
    intro hb
    have hnodup := hall.nodup_iff.mpr (List.Nodup.of_map _ hm.ids)
    exact (List.nodup_append.mp hnodup).2.2 client hb client (List.mem_append_left _ hin) rfl
  have herase := hall.erase client
  rwa [List.erase_append_right _ hbefore, List.erase_append_left _ hin] at herase

/-- A client leaves its group; a group that becomes empty is deleted. -/
theorem leave (h : GroupsConsistent groups members) (hm : MembersConsistent mask members)
    {client : WebXClientRef} (hclient : client ∈ members) :
    GroupsConsistent
      (updateFirst (fun group => group.contains client.id)
        (fun group =>
          let group := group.removeClient client.id
          if group.hasClients then none else some group) groups) (members.erase client) := by
  obtain ⟨group, hgroup, hfind⟩ := h.exists_find? hclient
  obtain ⟨before, after, rfl, hcontains, -, heq⟩ := updateFirst_eq_append
    (fun group => if (group.removeClient client.id).hasClients then none
      else some (group.removeClient client.id)) hfind
  have hget := h.getClientById_eq hm hclient hgroup hcontains
  have hin : client ∈ group.clients := (group.mem_of_getClientById hget).1
  obtain ⟨hclients, hmask⟩ := clients_removeClient hget
  have hperm := h.perm_erase hm hin
  have hsublist : (before ++ after).Sublist (before ++ group :: after) :=
    (List.Sublist.refl _).append (List.sublist_cons_self _ _)
  dsimp only
  rw [heq]
  by_cases hempty : (group.removeClient client.id).hasClients = true
  · -- the client was the last one of the group
    have hnil : group.clients.erase client = [] := by
      rw [← hclients]
      exact List.isEmpty_iff.mp hempty
    rw [hnil, List.nil_append, ← List.flatMap_append] at hperm
    rw [if_pos hempty, Option.toList_none, List.nil_append]
    exact ⟨hperm, fun g hg => h.nonempty g (hsublist.subset hg),
      h.qualities.sublist (hsublist.map _), fun g hg => h.mask g (hsublist.subset hg)⟩
  · rw [if_neg hempty, Option.toList_some, List.singleton_append]
    have hcases {g : WebXClientGroup}
        (hg : g ∈ before ++ group.removeClient client.id :: after) :
        g = group.removeClient client.id ∨ g ∈ before ++ group :: after := by
      rw [List.mem_append, List.mem_cons, or_left_comm] at hg
      exact hg.imp_right fun hg => hsublist.subset (List.mem_append.mpr hg)
    refine ⟨?_, ?_, ?_, ?_⟩
    · rw [List.flatMap_append, List.flatMap_cons, hclients]
      exact hperm
    · intro g hg
      rcases hcases hg with rfl | hg
      · exact fun hnil => hempty (List.isEmpty_iff.mpr hnil)
      · exact h.nonempty g hg
    · simpa using h.qualities
    · intro g hg
      rcases hcases hg with rfl | hg
      · rw [hmask, hclients]
        exact h.mask_removeClient hm hgroup hin
      · exact h.mask g hg

end GroupsConsistent

end WebXEngine
