import WebXEngine.Controller.GroupMoves
import WebXEngine.Controller.RegistryHistory

/-! # Clients, groups and what the clients are told agree on the qualities

A client is in the group of its quality, has a largest quality, and is told its quality when it
changes.

* **`ClientStep`** — what a call can do to the quality of a client.
* **`qualityAgreement`** — in every run, the quality of a client is that of its group and the one the
  client was told; it stays within its bounds, and changes by itself one level at a time. -/

namespace WebXEngine

/-! ## The qualities of the table -/

namespace RuntimeMaxQuality

variable {max : RuntimeMaxQuality} {q q' : WebXQuality}

/-- A quality that some index gives. -/
def Allows (max : RuntimeMaxQuality) (q : WebXQuality) : Prop := ∃ k, q = max.qualityForIndex k

/-- The indices of the qualities are those from 1 to the largest one that is allowed. -/
theorem Allows.bounds (h : max.Allows q) : 1 ≤ q.index ∧ q.index ≤ max.index := by
  obtain ⟨k, rfl⟩ := h
  exact max.index_qualityForIndex_mem k

/-- A quality is given by its own index. -/
theorem Allows.qualityForIndex_index (h : max.Allows q) : max.qualityForIndex q.index = q := by
  obtain ⟨k, rfl⟩ := h
  have hpos := max.pos
  by_cases hlow : k < 1
  · have hq : max.qualityForIndex k = max.qualityAt 1 Nat.one_pos hpos := dif_pos hlow
    rw [hq, index_qualityAt, qualityForIndex, dif_neg (by omega), dif_neg (by omega)]
  · by_cases hhigh : k > max.index
    · have hq : max.qualityForIndex k = max.maxQuality := by
        rw [qualityForIndex, dif_neg hlow, dif_pos hhigh]
      rw [hq, maxQuality, index_qualityAt, qualityForIndex, dif_neg (by omega), dif_neg (by omega)]
    · have hq : max.qualityForIndex k = max.qualityAt k (by omega) (by omega) := by
        rw [qualityForIndex, dif_neg hlow, dif_neg hhigh]
      rw [hq, index_qualityAt, hq]

/-- Two qualities with the same index are the same. -/
theorem Allows.eq_of_index_eq (h : max.Allows q) (h' : max.Allows q') (hindex : q.index = q'.index) :
    q = q' := by
  rw [← h.qualityForIndex_index, hindex, h'.qualityForIndex_index]

/-- The largest quality is given by its index. -/
theorem allows_maxQuality (max : RuntimeMaxQuality) : max.Allows max.maxQuality := by
  have hpos := max.pos
  refine ⟨max.index, ?_⟩
  rw [qualityForIndex, dif_neg (by omega), dif_neg (by omega)]
  rfl

end RuntimeMaxQuality

/-! ## The quality of the group of a client -/

namespace WebXClientRegistry

variable {settings : WebXSettings} {registry registry' : WebXClientRegistry} {client : WebXClientRef}
  {quality : WebXQuality} {max : RuntimeMaxQuality}

/-- The quality of the group of a client. -/
def groupQuality (registry : WebXClientRegistry) (clientId : UInt32) : Option WebXQuality :=
  (registry.getGroupWithClientId clientId).map WebXClientGroup.quality

/-- The groups of the clients have qualities of the table. -/
def AllowedQualities (max : RuntimeMaxQuality) (registry : WebXClientRegistry) : Prop :=
  ∀ client ∈ registry.refs, ∃ q, registry.groupQuality client.id = some q ∧ max.Allows q

/-- All groups have qualities of the table, because none of them is empty. -/
theorem AllowedQualities.groups (h : AllowedQualities max registry) (hinv : Inv registry)
    {group : WebXClientGroup} (hgroup : group ∈ registry.groups) : max.Allows group.quality := by
  obtain ⟨member, hmember⟩ := List.exists_mem_of_ne_nil _ (hinv.groups.nonempty group hgroup)
  obtain ⟨q, hq, hallowed⟩ := h member (hinv.groups.mem_members hgroup hmember)
  rw [groupQuality, hinv.getGroupWithClientId_eq hgroup hmember] at hq
  cases hq
  exact hallowed

/-- A group that is found for a quality has that quality. -/
theorem AllowedQualities.getGroupByQuality (h : AllowedQualities max registry) (hinv : Inv registry)
    (hallowed : max.Allows quality) :
    ((registry.getGroupByQuality quality).map WebXClientGroup.quality).getD quality = quality := by
  cases hgroup : registry.getGroupByQuality quality with
  | none => rfl
  | some group =>
      rw [WebXClientRegistry.getGroupByQuality] at hgroup
      have hindex : group.quality.index = quality.index := by simpa using List.find?_some hgroup
      exact (h.groups hinv (List.mem_of_find?_eq_some hgroup)).eq_of_index_eq hallowed hindex

/-- A client that changes its quality is in the group of the new one. -/
theorem AllowedQualities.groupQuality_setClientQuality (h : AllowedQualities max registry)
    (hinv : Inv registry) (hallowed : max.Allows quality) (hclient : client ∈ registry.refs) :
    (registry.setClientQuality client quality).groupQuality client.id = some quality := by
  obtain ⟨oldGroup, hold, hfind⟩ := hinv.getGroupWithClientId hclient
  rw [setClientQuality_of_some _ hfind]
  split_ifs with hindex
  · have hmove := hinv.map_group_move WebXClientGroup.quality_addClient
      WebXClientGroup.quality_removeClient hclient hfind hindex
    exact hmove.trans (congrArg some (h.getGroupByQuality hinv hallowed))
  · have hsame := (h.groups hinv hold).eq_of_index_eq hallowed (not_not.mp hindex)
    change (registry.getGroupWithClientId client.id).map WebXClientGroup.quality = _
    rw [hfind, Option.map_some, hsame]

/-- The others stay in theirs. -/
theorem groupQuality_setClientQuality_of_ne {clientId : UInt32} (hne : client.id ≠ clientId) :
    (registry.setClientQuality client quality).groupQuality clientId =
      registry.groupQuality clientId :=
  map_group_setClientQuality_of_ne WebXClientGroup.quality_addClient
    WebXClientGroup.quality_removeClient hne

/-- A change of quality keeps to the table. -/
theorem AllowedQualities.setClientQuality (h : AllowedQualities max registry) (hinv : Inv registry)
    (hallowed : max.Allows quality) (hclient : client ∈ registry.refs) :
    AllowedQualities max (registry.setClientQuality client quality) := by
  intro other hother
  rw [refs_setClientQuality] at hother
  by_cases hid : client.id = other.id
  · exact ⟨quality, hid ▸ h.groupQuality_setClientQuality hinv hallowed hclient, hallowed⟩
  · rw [groupQuality_setClientQuality_of_ne hid]
    exact h other hother

/-! ## The suggested qualities -/

/-- The quality suggested to a client whose group has a quality. -/
def suggestion (settings : WebXSettings) (c : WebXClient) (q : WebXQuality) : Option WebXQuality :=
  suggestedQuality settings c (.create q)

/-- Only the quality of the group matters for what is suggested. -/
theorem suggestedQuality_eq (c : WebXClient) (group : WebXClientGroup) :
    suggestedQuality settings c group = suggestion settings c group.quality := rfl

/-- A suggested index is at most one level away, and within the bounds of the client. -/
theorem suggestedQualityIndex_spec {q maxQuality : WebXQuality} (means : WebXClientBitrateMeans)
    (hpos : 1 ≤ q.index) (hle : q.index ≤ maxQuality.index) :
    1 ≤ suggestedQualityIndex q means maxQuality ∧
      suggestedQualityIndex q means maxQuality ≤ maxQuality.index ∧
      suggestedQualityIndex q means maxQuality ≤ q.index + 1 ∧
      q.index ≤ suggestedQualityIndex q means maxQuality + 1 := by
  unfold suggestedQualityIndex
  dsimp only
  split_ifs <;> omega

/-- **A suggested quality is one level away**, and within the bounds of the client. -/
theorem suggestion_spec {c : WebXClient} {q q' : WebXQuality}
    (hq : settings.quality.max.Allows q) (hmax : settings.quality.max.Allows c.maxQuality)
    (hle : q.index ≤ c.maxQuality.index) (h : suggestion settings c q = some q') :
    c.bitrateMeans ≠ none ∧ settings.quality.max.Allows q' ∧
      (q'.index = q.index + 1 ∨ q'.index + 1 = q.index) ∧ q'.index ≤ c.maxQuality.index := by
  rw [suggestion, suggestedQuality] at h
  obtain ⟨means, hmeans, h⟩ := Option.bind_eq_some_iff.mp h
  have hnew : (if (settings.quality.max.qualityForIndex
        (suggestedQualityIndex q means c.maxQuality)).index ≠ q.index then
      some (settings.quality.max.qualityForIndex (suggestedQualityIndex q means c.maxQuality))
    else none) = some q' := h
  obtain ⟨hlow, hhigh, hup, hdown⟩ := suggestedQualityIndex_spec means hq.bounds.1 hle
  -- the bounds of the client are within those of the table
  have hindex : (settings.quality.max.qualityForIndex
      (suggestedQualityIndex q means c.maxQuality)).index =
        suggestedQualityIndex q means c.maxQuality :=
    settings.quality.max.index_qualityForIndex_of_mem hlow (hhigh.trans hmax.bounds.2)
  by_cases hne : (settings.quality.max.qualityForIndex
      (suggestedQualityIndex q means c.maxQuality)).index ≠ q.index
  · rw [if_pos hne, Option.some.injEq] at hnew
    rw [hindex] at hne
    rw [← hnew, hindex]
    refine ⟨by rw [hmeans]; exact Option.some_ne_none _, ⟨_, rfl⟩, ?_, hhigh⟩
    omega
  · rw [if_neg hne] at hnew
    cases hnew

/-! ## What the clients are told -/

/-- The quality that a message tells to the client with a bit. -/
def qualityFor (index : UInt64) (message : WebXMessage) : Option WebXQuality :=
  match message.content with
  | .quality q => if message.clientIndexMask = index then some q else none
  | _ => none

/-- The last quality that some messages tell to the client with a bit. -/
def lastQuality (index : UInt64) (messages : List WebXMessage) : Option WebXQuality :=
  (messages.filterMap (qualityFor index)).getLast?

@[simp] theorem lastQuality_nil (index : UInt64) : lastQuality index [] = none := rfl

/-- The last quality that is told counts. -/
theorem lastQuality_append (index : UInt64) (messages messages' : List WebXMessage) :
    lastQuality index (messages ++ messages') =
      (lastQuality index messages').or (lastQuality index messages) := by
  rw [lastQuality, lastQuality, lastQuality, List.filterMap_append, List.getLast?_append]

/-- What is told to one client is not told to another. -/
theorem lastQuality_map_quality (index index' : UInt64) (told : Option WebXQuality) :
    lastQuality index (told.toList.map fun q => ⟨index', .quality q⟩) =
      if index' = index then told else none := by
  cases told with
  | none => simp [lastQuality]
  | some q =>
      rw [Option.toList_some, List.map_singleton, lastQuality, List.filterMap_cons, qualityFor]
      split_ifs <;> rfl

/-- Messages of other types tell no quality. -/
theorem lastQuality_eq_none {index : UInt64} {messages : List WebXMessage}
    (h : ∀ message ∈ messages, message.type ≠ .quality) : lastQuality index messages = none := by
  have hnone : messages.filterMap (qualityFor index) = [] := by
    rw [List.filterMap_eq_nil_iff]
    intro message hmessage
    obtain ⟨mask, content⟩ := message
    cases content with
    | quality q => exact absurd rfl (h _ hmessage)
    | _ => rfl
  rw [lastQuality, hnone]
  rfl

/-- **A round of the loop over the clients** gives a client the quality suggested to it, and tells it. -/
theorem verifyClientQuality_spec (hinv : Inv registry)
    (hallowed : AllowedQualities settings.quality.max registry) {c : WebXClient}
    (hc : c.ref ∈ registry.refs) (hmax : settings.quality.max.Allows c.maxQuality) {q : WebXQuality}
    (hq : registry.groupQuality c.id = some q) (hle : q.index ≤ c.maxQuality.index) :
    ∃ next, verifyClientQuality settings registry c = .ok next ∧ Inv next ∧
      AllowedQualities settings.quality.max next ∧ next.refs = registry.refs ∧
      next.sent = registry.sent ++
        (suggestion settings c q).toList.map (fun q' => ⟨c.index, .quality q'⟩) ∧
      next.groupQuality c.id = some ((suggestion settings c q).getD q) ∧
      ∀ clientId, c.id ≠ clientId → next.groupQuality clientId = registry.groupQuality clientId := by
  obtain ⟨group, hgroup, hfind⟩ := hinv.getGroupWithClientId hc
  have hquality : group.quality = q := by
    have hown : registry.groupQuality c.ref.id = some group.quality := by
      rw [groupQuality, hfind]
      rfl
    exact Option.some.inj (hown.symm.trans hq)
  subst hquality
  refine ⟨_, verifyClientQuality_of_some hfind, ?_⟩
  rw [suggestedQuality_eq]
  cases hsuggestion : suggestion settings c group.quality with
  | none =>
      -- nothing is suggested, and nothing changes
      exact ⟨hinv, hallowed, rfl, (List.append_nil _).symm, hq, fun _ _ => rfl⟩
  | some quality =>
      -- the client moves to the group of the new quality, and is told
      obtain ⟨-, hnew, -, -⟩ := suggestion_spec (hallowed.groups hinv hgroup) hmax hle hsuggestion
      exact ⟨hinv.setClientQuality hc quality, hallowed.setClientQuality hinv hnew hc,
        refs_setClientQuality, sent_setClientQuality,
        hallowed.groupQuality_setClientQuality hinv hnew hc,
        fun clientId hne => groupQuality_setClientQuality_of_ne hne⟩

/-- **The loop over the clients** gives each of them the quality suggested to it, and tells it. -/
theorem foldlM_verifyClientQuality_spec (clients : List WebXClient) :
    ∀ {registry registry' : WebXClientRegistry}, Inv registry →
      AllowedQualities settings.quality.max registry →
      (∀ c ∈ clients, c.ref ∈ registry.refs ∧ settings.quality.max.Allows c.maxQuality ∧
        ∀ q, registry.groupQuality c.id = some q → q.index ≤ c.maxQuality.index) →
      (clients.map WebXClient.id).Nodup →
      clients.foldlM (verifyClientQuality settings) registry = .ok registry' →
      ∃ messages, registry'.sent = registry.sent ++ messages ∧
        ∀ client ∈ registry.refs, ∀ q, registry.groupQuality client.id = some q →
          registry'.groupQuality client.id = some (((clients.find? fun c => c.id = client.id).bind
              fun c => suggestion settings c q).getD q) ∧
            lastQuality client.index messages =
              (clients.find? fun c => c.id = client.id).bind fun c => suggestion settings c q := by
  induction clients with
  | nil =>
      rintro registry registry' - - - - hrun
      cases hrun
      exact ⟨[], (List.append_nil _).symm, fun client hclient q hq => ⟨hq, rfl⟩⟩
  | cons c clients ih =>
      intro registry registry' hinv hallowed hclients hnodup hrun
      rw [List.forall_mem_cons] at hclients
      rw [List.map_cons, List.nodup_cons] at hnodup
      obtain ⟨⟨hc, hmax, hcapped⟩, hothers⟩ := hclients
      obtain ⟨q, hq, -⟩ := hallowed c.ref hc
      obtain ⟨next, hnext, hinv', hallowed', hrefs, hsent', hown, hstay⟩ :=
        verifyClientQuality_spec hinv hallowed hc hmax hq (hcapped q hq)
      rw [List.foldlM_cons, hnext] at hrun
      obtain ⟨messages, hsent, hspec⟩ := ih hinv' hallowed'
        (fun d hd => by
          have hne : c.id ≠ d.id := fun hid => hnodup.1 (hid ▸ List.mem_map_of_mem hd)
          rw [hrefs, hstay d.id hne]
          exact hothers d hd) hnodup.2 hrun
      refine ⟨_, by rw [hsent, hsent', List.append_assoc], fun client hclient q' hq' => ?_⟩
      rw [lastQuality_append, lastQuality_map_quality]
      by_cases hid : c.id = client.id
      · -- the client has its turn now, and not again
        have href : c.ref = client := hinv.members.eq_of_id_eq hc hclient hid
        subst href
        cases hq.symm.trans hq'
        obtain ⟨hlast, htold⟩ := hspec c.ref (hrefs ▸ hc) _ hown
        have hnone : (clients.find? fun d => d.id = c.ref.id) = none := by
          rw [List.find?_eq_none]
          intro d hd hdid
          have hsame : d.id = c.id := of_decide_eq_true hdid
          exact hnodup.1 (hsame ▸ List.mem_map_of_mem hd)
        rw [hnone] at hlast htold
        rw [List.find?_cons_of_pos (by simpa using hid), htold]
        exact ⟨hlast, if_pos rfl⟩
      · have hindex : c.index ≠ client.index := fun heq =>
          hid (congrArg WebXClientRef.id (hinv.members.eq_of_index_eq hc hclient heq))
        rw [← hstay client.id hid] at hq'
        obtain ⟨hlast, htold⟩ := hspec client (hrefs ▸ hclient) q' hq'
        rw [List.find?_cons_of_neg (by simpa using hid), htold, if_neg hindex, Option.or_none]
        exact ⟨hlast, rfl⟩

/-! ## What a call does to the quality of a client -/

/-- What a call does to a client: `d` becomes `c`, the quality of its group `q` becomes `q'`, and it
is told a quality or not. -/
inductive ClientStep (max : RuntimeMaxQuality) (op : RegistryOp) (d c : WebXClient) (q q' : WebXQuality)
    (told : Option WebXQuality) : Prop
  /-- Nothing changes. -/
  | same (hmax : c.maxQuality = d.maxQuality) (hquality : q' = q) (htold : told = none)
      (hlast : d.lastQualityVerificationTime ≤ c.lastQualityVerificationTime)
  /-- The client asked for another largest quality, and has it. -/
  | requested (hop : ∃ clientId, op = .setClientMaxQuality clientId q') (hallowed : max.Allows q')
      (hmax : c.maxQuality = q')
      (htold : told = if q.index = q'.index then none else some q')
      (hlast : c.lastQualityVerificationTime = d.lastQualityVerificationTime)
  /-- At the end of a verification period, the quality was adapted. -/
  | automatic {measure : UInt32 → WebXClientMeasure} {now : Time}
      (hop : op = .performQualityVerification measure now) (hallowed : max.Allows q')
      (hmax : c.maxQuality = d.maxQuality)
      (hlevel : q'.index = q.index + 1 ∨ q'.index + 1 = q.index)
      (hbound : q'.index ≤ d.maxQuality.index) (htold : told = some q')
      (hperiod : now - d.lastQualityVerificationTime ≥ WebXClient.leastVerificationPeriod)
      (hlast : c.lastQualityVerificationTime = now)

/-- What the qualities depend on in a client. -/
def qualityView (c : WebXClient) : WebXClientRef × WebXQuality × Time :=
  (c.ref, c.maxQuality, c.lastQualityVerificationTime)

/-- A client is the same to the qualities. -/
theorem ClientStep.of_view_eq {op : RegistryOp} {c d : WebXClient} {q : WebXQuality}
    (hview : qualityView c = qualityView d) : ClientStep max op d c q q none :=
  .same (congrArg (fun view => view.2.1) hview) rfl rfl
    (congrArg (fun view => view.2.2) hview).ge

/-- The qualities of the groups and those of the clients keep to the table, and no group has a quality
above the largest one of a client. -/
structure QualityInv (settings : WebXSettings) (registry : WebXClientRegistry) : Prop where
  allowed : AllowedQualities settings.quality.max registry
  clients : ∀ c ∈ registry.clients, settings.quality.max.Allows c.maxQuality ∧
    ∀ q, registry.groupQuality c.id = some q → q.index ≤ c.maxQuality.index

/-- The group of a client only depends on the qualities and the clients of the groups. -/
theorem groupQuality_congr
    (h : registry'.groups.map (fun group => (group.quality, group.clients)) =
      registry.groups.map fun group => (group.quality, group.clients)) (clientId : UInt32) :
    registry'.groupQuality clientId = registry.groupQuality clientId := by
  have hfind (groups : List WebXClientGroup) :
      (groups.find? fun group => group.contains clientId).map WebXClientGroup.quality =
        ((groups.map fun group => (group.quality, group.clients)).find? fun key =>
          (key.2.find? fun client => client.id = clientId).isSome).map Prod.fst := by
    rw [List.find?_map, Option.map_map]
    rfl
  rw [groupQuality, groupQuality, getGroupWithClientId, getGroupWithClientId, hfind, hfind, h]

/-- The groups may change as long as their qualities and clients do not. -/
theorem groupQuality_map {change : WebXClientGroup → WebXClientGroup}
    (hkeep : ∀ group, (change group).quality = group.quality ∧ (change group).clients = group.clients)
    (clientId : UInt32) :
    groupQuality { registry with groups := registry.groups.map change } clientId =
      registry.groupQuality clientId := by
  refine groupQuality_congr ?_ clientId
  rw [List.map_map]
  refine List.map_congr_left fun group _ => ?_
  rw [Function.comp_apply, (hkeep group).1, (hkeep group).2]

/-- The windows do not matter to the qualities. -/
theorem map_quality_handleGroups {σ : Type*} (updateHandler : UpdateHandler σ) (now : Time)
    (groups : List WebXClientGroup) (state : σ) :
    (handleGroups settings updateHandler now groups state).1.map
        (fun group => (group.quality, group.clients)) =
      groups.map fun group => (group.quality, group.clients) := by
  induction groups generalizing state with
  | nil => rfl
  | cons group groups ih =>
      rw [handleGroups, List.map_cons, List.map_cons, ih]
      rfl

/-! ### Each of the calls -/

/-- A client after a call: it has just joined with the largest quality, or was there before. -/
def ClientOutcome (settings : WebXSettings) (op : RegistryOp) (registry registry' : WebXClientRegistry)
    (messages : List WebXMessage) (c : WebXClient) : Prop :=
  (c.ref ∉ registry.refs ∧ c.maxQuality = settings.quality.max.maxQuality ∧
      registry'.groupQuality c.id = some settings.quality.max.maxQuality) ∨
    ∃ d ∈ registry.clients, d.ref = c.ref ∧ ∃ q q', registry.groupQuality d.id = some q ∧
      registry'.groupQuality c.id = some q' ∧
      ClientStep settings.quality.max op d c q q' (lastQuality c.index messages)

/-- Nothing changes for a client when neither it nor its group changes. -/
theorem QualityInv.outcome_same (h : QualityInv settings registry) {op : RegistryOp}
    {messages : List WebXMessage} {c d : WebXClient} (hd : d ∈ registry.clients)
    (hview : qualityView c = qualityView d)
    (hgroup : registry'.groupQuality d.id = registry.groupQuality d.id)
    (htold : lastQuality c.index messages = none) :
    ClientOutcome settings op registry registry' messages c := by
  have href : c.ref = d.ref := congrArg (fun view => view.1) hview
  have hid : c.id = d.id := congrArg WebXClientRef.id href
  obtain ⟨q, hq, -⟩ := h.allowed d.ref (List.mem_map_of_mem hd)
  refine .inr ⟨d, hd, href.symm, q, q, hq, ?_, ?_⟩
  · rw [hid, hgroup]
    exact hq
  · rw [htold]
    exact .of_view_eq hview

/-- A client whose view is in a list of views. -/
theorem exists_of_map_view_eq {clients clients' : List WebXClient}
    (hmap : clients'.map qualityView = clients.map qualityView) {c : WebXClient} (hc : c ∈ clients') :
    ∃ d ∈ clients, qualityView c = qualityView d := by
  obtain ⟨d, hd, hview⟩ := List.mem_map.mp (hmap ▸ List.mem_map_of_mem hc)
  exact ⟨d, hd, hview.symm⟩

/-- **A client is added** to the group of the largest quality; nothing changes for the others. -/
theorem QualityInv.addClient (h : QualityInv settings registry) (hinv : Inv registry)
    {op : RegistryOp} {clientVersion : WebXVersion} {draws : List UInt32} {now : Time}
    {result : Except String (UInt32 × UInt64)}
    (hadd : registry.addClient settings clientVersion draws now = some (result, registry')) :
    ∀ c ∈ registry'.clients, ClientOutcome settings op registry registry' [] c := by
  intro c hc
  cases result with
  | error error =>
      rw [addClient_eq_of_error hadd] at hc ⊢
      exact h.outcome_same hc rfl rfl rfl
  | ok added =>
      obtain ⟨clientId, clientIndex⟩ := added
      obtain ⟨hnew, hmap⟩ := map_clients_addClient (g := qualityView) (fun c => rfl) hadd
      have hview : qualityView c ∈ registry'.clients.map qualityView := List.mem_map_of_mem hc
      rw [hmap, List.mem_append, List.mem_map, List.mem_singleton] at hview
      rcases hview with ⟨d, hd, hview⟩ | hview
      · exact h.outcome_same hd hview.symm (map_group_addClient WebXClientGroup.quality_addClient
          (List.mem_map_of_mem hd) hadd) rfl
      · -- the new client is in the group of the largest quality
        have hid : c.id = clientId := congrArg (fun view => view.1.id) hview
        refine .inl ⟨notMem_refs hnew hid, congrArg (fun view => view.2.1) hview, ?_⟩
        have hnone := hinv.getGroupWithClientId_eq_none hnew
        rw [WebXClientRegistry.addClient] at hadd
        split_ifs at hadd
        · cases hadd
        · obtain ⟨drawn, hdraw, heq⟩ := Option.map_eq_some_iff.mp hadd
          cases heq
          rw [hid, groupQuality]
          refine Eq.trans (map_group_join WebXClientGroup.quality_addClient hnone) ?_
          exact congrArg some (h.allowed.getGroupByQuality hinv
            settings.quality.max.allows_maxQuality)

/-- **A client is removed**; nothing changes for the others. -/
theorem QualityInv.removeClient (h : QualityInv settings registry) (hinv : Inv registry)
    {op : RegistryOp} (clientId : UInt32) :
    ∀ c ∈ (registry.removeClient clientId).2.clients,
      ClientOutcome settings op registry (registry.removeClient clientId).2 [] c := by
  intro c hc
  have hstays : c.ref ∈ (registry.removeClient clientId).2.refs := List.mem_map_of_mem hc
  rw [hinv.clients_removeClient] at hc
  exact h.outcome_same (List.mem_of_mem_filter hc) rfl
    (hinv.map_group_removeClient WebXClientGroup.quality_removeClient hstays) rfl

/-- **A tick** removes the clients whose pong is late, and tells no quality. -/
theorem QualityInv.handleClientPings (h : QualityInv settings registry) (hinv : Inv registry)
    {op : RegistryOp} {messages : List WebXMessage} (now : Time)
    (htold : ∀ message ∈ messages, message.type ≠ .quality) :
    ∀ c ∈ (registry.handleClientPings now).clients,
      ClientOutcome settings op registry (registry.handleClientPings now) messages c := by
  intro c hc
  have hstays : c.ref ∈ (registry.handleClientPings now).refs := List.mem_map_of_mem hc
  rw [hinv.clients_handleClientPings] at hc
  obtain ⟨u, hu, rfl⟩ := List.mem_map.mp hc
  obtain ⟨d, hd, rfl⟩ := List.mem_map.mp (List.mem_of_mem_filter hu)
  have hview : qualityView (pinged now (d.updatePingStatus now)) = qualityView d := by
    unfold pinged WebXClient.updatePingStatus
    cases d.pingStatus <;> dsimp only <;> split_ifs <;> rfl
  refine h.outcome_same hd hview ?_ (lastQuality_eq_none htold)
  rw [ref_pinged, WebXClient.ref_updatePingStatus, WebXClientRegistry.handleClientPings,
    refs_sendPings] at hstays
  exact (map_group_removeTimedOutClients WebXClientGroup.quality_removeClient _
    (hinv.updatedClients now) hstays).2

/-- What a new largest quality changes when the client is known. -/
theorem QualityInv.setClientMaxQuality_spec (h : QualityInv settings registry) (hinv : Inv registry)
    {e : WebXClient} (he : e.ref ∈ registry.refs) (hclient : registry.getClientById e.id = some e)
    (hquality : settings.quality.max.Allows quality) :
    ∃ q, registry.groupQuality e.id = some q ∧
      (registry.setClientMaxQuality e.id quality).clients.map qualityView =
        (registry.clients.map fun c => if c.id = e.id then c.setMaxQuality quality else c).map
          qualityView ∧
      (registry.setClientMaxQuality e.id quality).sent = registry.sent ++
        (if q.index = quality.index then none else some quality).toList.map
          (fun q' => ⟨e.index, .quality q'⟩) ∧
      (registry.setClientMaxQuality e.id quality).groupQuality e.id = some quality ∧
      ∀ clientId, e.id ≠ clientId →
        (registry.setClientMaxQuality e.id quality).groupQuality clientId =
          registry.groupQuality clientId := by
  have hkeep (c : WebXClient) : (c.setMaxQuality quality).ref = c.ref := rfl
  have hrefs := refs_updateClient registry e.id hkeep
  have hupdated := congrArg (List.map qualityView)
    (hinv.clients_updateClient e.id fun c => c.setMaxQuality quality)
  obtain ⟨group, hgroup, hfind⟩ := hinv.getGroupWithClientId he
  have hfind' : (registry.updateClient e.id fun c => c.setMaxQuality quality).getGroupWithClientId
      e.id = some group := hfind
  have hallowed : AllowedQualities settings.quality.max
      (registry.updateClient e.id fun c => c.setMaxQuality quality) :=
    fun client hmem => h.allowed client (hrefs ▸ hmem)
  have hown : registry.groupQuality e.id = some group.quality := congrArg (Option.map _) hfind
  refine ⟨group.quality, hown, ?_⟩
  rw [setClientMaxQuality_of_some _ hclient]
  dsimp only
  rw [hfind', Option.all_some]
  by_cases hsame : group.quality.index = quality.index
  · -- the client is already in the right group
    rw [if_neg (by simpa using hsame), if_pos hsame]
    have hq := (h.allowed.groups hinv hgroup).eq_of_index_eq hquality hsame
    exact ⟨hupdated, (List.append_nil _).symm, hq ▸ hown, fun _ _ => rfl⟩
  · rw [if_pos (by simpa using hsame), if_neg hsame]
    refine ⟨(map_clients_setClientQuality fun c => rfl).trans hupdated, sent_setClientQuality, ?_,
      fun clientId hne => groupQuality_setClientQuality_of_ne hne⟩
    exact hallowed.groupQuality_setClientQuality (hinv.updateClient e.id hkeep) hquality
      (hrefs.symm ▸ he)

/-- **A client sets its largest quality**: it gets that quality and is told so; nothing changes for the
others. -/
theorem QualityInv.setClientMaxQuality (h : QualityInv settings registry) (hinv : Inv registry)
    (clientId : UInt32) (hquality : settings.quality.max.Allows quality) :
    ∃ messages, (registry.setClientMaxQuality clientId quality).sent = registry.sent ++ messages ∧
      ∀ c ∈ (registry.setClientMaxQuality clientId quality).clients,
        ClientOutcome settings (.setClientMaxQuality clientId quality) registry
          (registry.setClientMaxQuality clientId quality) messages c := by
  cases hclient : registry.getClientById clientId with
  | none =>
      rw [setClientMaxQuality_of_none _ hclient]
      exact ⟨[], (List.append_nil _).symm, fun c hc => h.outcome_same hc rfl rfl rfl⟩
  | some e =>
      obtain ⟨he, rfl⟩ := ref_mem_refs hclient
      obtain ⟨q, hq, hmap, hsent, hown, hothers⟩ := h.setClientMaxQuality_spec hinv he hclient hquality
      refine ⟨_, hsent, fun c hc => ?_⟩
      obtain ⟨u, hu, hview⟩ := exists_of_map_view_eq hmap hc
      obtain ⟨d, hd, rfl⟩ := List.mem_map.mp hu
      by_cases hid : d.id = e.id
      · -- the client that asked for it
        rw [if_pos hid] at hview
        have hcd : c.ref = d.ref := congrArg (fun view => view.1) hview
        have href : d.ref = e.ref := hinv.members.eq_of_id_eq (List.mem_map_of_mem hd) he hid
        have hcid : c.id = e.id := (congrArg WebXClientRef.id hcd).trans hid
        have hindex : e.index = c.index := congrArg WebXClientRef.index (hcd.trans href).symm
        refine .inr ⟨d, hd, hcd.symm, q, quality, hid ▸ hq, hcid ▸ hown, ?_⟩
        rw [lastQuality_map_quality, if_pos hindex]
        exact .requested ⟨e.id, rfl⟩ hquality (congrArg (fun view => view.2.1) hview) rfl
          (congrArg (fun view => view.2.2) hview)
      · rw [if_neg hid] at hview
        refine h.outcome_same hd hview (hothers d.id (Ne.symm hid)) ?_
        have hcd : c.ref = d.ref := congrArg (fun view => view.1) hview
        rw [lastQuality_map_quality, if_neg]
        intro hindex
        have hde := hinv.members.eq_of_index_eq (List.mem_map_of_mem hd) he
          ((congrArg WebXClientRef.index hcd).symm.trans hindex.symm)
        exact hid (congrArg WebXClientRef.id hde)

/-- The verification of the rates of a client, when it has rates afterwards. -/
theorem performQualityVerification_spec (c : WebXClient) (means : Option ℚ) (measure : WebXClientMeasure)
    {now : Time} (hmeans : (c.performQualityVerification means measure now).bitrateMeans ≠ none) :
    now - c.lastQualityVerificationTime ≥ WebXClient.leastVerificationPeriod ∧
      (c.performQualityVerification means measure now).lastQualityVerificationTime = now := by
  unfold WebXClient.performQualityVerification at hmeans ⊢
  split_ifs at hmeans ⊢ with hperiod
  · exact ⟨(WebXClient.verification_due_iff _).mp hperiod, rfl⟩
  · exact absurd rfl hmeans

/-- The time of the last verification never goes back. -/
theorem lastQualityVerificationTime_le (c : WebXClient) (means : Option ℚ)
    (measure : WebXClientMeasure) (now : Time) :
    c.lastQualityVerificationTime ≤
      (c.performQualityVerification means measure now).lastQualityVerificationTime := by
  unfold WebXClient.performQualityVerification
  split_ifs with hperiod
  · have hpos : (0 : ℤ) ≤ WebXClient.leastVerificationPeriod := by decide
    exact sub_nonneg.mp (hpos.trans ((WebXClient.verification_due_iff _).mp hperiod))
  · exact le_refl _

/-- **The verification of the qualities**: each client keeps its quality, or moves by one level and is
told so. -/
theorem QualityInv.performQualityVerification (h : QualityInv settings registry) (hinv : Inv registry)
    {measure : UInt32 → WebXClientMeasure} {now : Time}
    (hrun : registry.performQualityVerification settings measure now = .ok registry') :
    ∃ messages, registry'.sent = registry.sent ++ messages ∧
      ∀ c ∈ registry'.clients,
        ClientOutcome settings (.performQualityVerification measure now) registry registry' messages c := by
  obtain ⟨clients, hrefs, heq⟩ := performGroupQualityVerifications_eq registry measure now
  have hclients := hinv.clients_performGroupQualityVerifications measure now
  have hmap := map_clients_foldlM_verifyClientQuality (g := qualityView) (fun c => rfl) hrun
  rw [WebXClientRegistry.performQualityVerification, heq] at hrun
  rw [heq] at hclients hmap
  change clients = _ at hclients
  have hinv' : Inv { registry with clients := clients } := hinv.of_refs_eq hrefs registry.sent
  -- what the verification of the rates keeps
  have hkept {u : WebXClient} (hu : u ∈ clients) : ∃ d ∈ registry.clients, u.ref = d.ref ∧
      u.maxQuality = d.maxQuality ∧
      d.lastQualityVerificationTime ≤ u.lastQualityVerificationTime ∧
      (u.bitrateMeans ≠ none →
        now - d.lastQualityVerificationTime ≥ WebXClient.leastVerificationPeriod ∧
          u.lastQualityVerificationTime = now) := by
    rw [hclients] at hu
    obtain ⟨d, hd, rfl⟩ := List.mem_map.mp hu
    refine ⟨d, hd, d.ref_performQualityVerification _ _ _, ?_,
      lastQualityVerificationTime_le d _ _ now, performQualityVerification_spec d _ _⟩
    unfold WebXClient.performQualityVerification
    split <;> rfl
  have hnodup : (clients.map WebXClient.id).Nodup := by
    have hids := hinv'.members.ids
    rwa [refs, List.map_map] at hids
  obtain ⟨messages, hsent, hspec⟩ := foldlM_verifyClientQuality_spec clients hinv'
    (fun client hclient => h.allowed client (hrefs ▸ hclient))
    (fun u hu => by
      obtain ⟨d, hd, href, hmax, -⟩ := hkept hu
      have hid : u.id = d.id := congrArg WebXClientRef.id href
      rw [hmax]
      refine ⟨List.mem_map_of_mem hu, (h.clients d hd).1, fun q hq => (h.clients d hd).2 q ?_⟩
      exact hid ▸ hq) hnodup hrun
  refine ⟨messages, hsent, fun c hc => ?_⟩
  obtain ⟨u, hu, hview⟩ := exists_of_map_view_eq hmap hc
  obtain ⟨d, hd, href, hmax, hle, hmeans⟩ := hkept hu
  have hcu : c.ref = u.ref := congrArg (fun view => view.1) hview
  have hcmax : c.maxQuality = u.maxQuality := congrArg (fun view => view.2.1) hview
  have hclast : c.lastQualityVerificationTime = u.lastQualityVerificationTime :=
    congrArg (fun view => view.2.2) hview
  have hid : d.id = c.id := congrArg WebXClientRef.id (hcu.trans href).symm
  obtain ⟨q, hq, hallowed⟩ := h.allowed d.ref (List.mem_map_of_mem hd)
  have hqd : registry.groupQuality d.id = some q := hq
  have hqc : registry.groupQuality c.id = some q := hid ▸ hqd
  have hmem : c.ref ∈ refs { registry with clients := clients } := hcu ▸ List.mem_map_of_mem hu
  obtain ⟨hlast, htold⟩ := hspec c.ref hmem q hqc
  -- the client that is found is the one that was verified
  have hfind : (clients.find? fun e => e.id = c.ref.id) = some u := by
    have hsome : (clients.find? fun e => e.id = c.ref.id).isSome := by
      rw [List.find?_isSome]
      exact ⟨u, hu, decide_eq_true (congrArg WebXClientRef.id hcu).symm⟩
    obtain ⟨e, he⟩ := Option.isSome_iff_exists.mp hsome
    have heid : e.id = c.ref.id := by simpa using List.find?_some he
    rw [he, List.inj_on_of_nodup_map hnodup (List.mem_of_find?_eq_some he) hu
      (heid.trans (congrArg WebXClientRef.id hcu))]
  rw [hfind, Option.bind_some] at hlast htold
  have hqle : q.index ≤ u.maxQuality.index := hmax ▸ (h.clients d hd).2 q hqd
  have hmaxAllowed : settings.quality.max.Allows u.maxQuality := hmax ▸ (h.clients d hd).1
  refine .inr ⟨d, hd, (hcu.trans href).symm, q, _, hqd, hlast, ?_⟩
  have hindex : c.ref.index = c.index := rfl
  rw [← hindex, htold]
  cases hsuggestion : suggestion settings u q with
  | none => exact .same (hcmax.trans hmax) rfl rfl (hclast.symm ▸ hle)
  | some q' =>
      obtain ⟨hsome, hnew, hlevel, hbound⟩ := suggestion_spec hallowed hmaxAllowed hqle hsuggestion
      obtain ⟨hperiod, hnow⟩ := hmeans hsome
      exact .automatic rfl hnew (hcmax.trans hmax) hlevel (hmax ▸ hbound) rfl hperiod (hclast.trans hnow)

end WebXClientRegistry

/-! ## Runs -/

open WebXClientRegistry

variable {settings : WebXSettings} {steps earlier : List RegistryStep} {state state' : RegistryState}
  {op : RegistryOp}

/-- The largest quality of a client is only set to one that some index of the client gives. -/
def RegistryOp.FromIndices (settings : WebXSettings) : RegistryOp → Prop
  | .setClientMaxQuality _ quality => ∃ qualityIndex : UInt32,
      quality = settings.quality.max.qualityForIndex qualityIndex.toNat
  | _ => True

/-- **What any call does to the clients**, and what it tells them. -/
theorem WebXClientRegistry.QualityInv.step (h : QualityInv settings state.registry)
    (hinv : state.registry.Inv) (hop : op.FromIndices settings)
    (hstep : state.step settings op = .ok state') :
    ∃ messages, state'.registry.sent = state.registry.sent ++ messages ∧
      ∀ c ∈ state'.registry.clients,
        ClientOutcome settings op state.registry state'.registry messages c := by
  cases op with
  | addClient clientVersion draws now =>
      cases hstep
      cases hadd : state.registry.addClient settings clientVersion draws now with
      | none => exact ⟨[], (List.append_nil _).symm, fun c hc => h.outcome_same hc rfl rfl rfl⟩
      | some result =>
          obtain ⟨messages, hsent, htypes⟩ := sentToClients_addClient hadd
          have hnone : messages = [] :=
            List.eq_nil_iff_forall_not_mem.mpr fun message hmessage => by
              cases (htypes message hmessage).1
          subst hnone
          exact ⟨[], hsent, h.addClient hinv hadd⟩
  | removeClient clientId =>
      cases hstep
      refine ⟨[], ?_, h.removeClient hinv clientId⟩
      rw [sent_removeClient, List.append_nil]
  | setClientMaxQuality clientId quality =>
      cases hstep
      obtain ⟨qualityIndex, hquality⟩ := hop
      exact h.setClientMaxQuality hinv clientId ⟨_, hquality⟩
  | handleClientPings now =>
      cases hstep
      obtain ⟨messages, hsent, haddressed⟩ := hinv.sentToClients_handleClientPings now
      refine ⟨messages, hsent, h.handleClientPings hinv now fun message hmessage htype => ?_⟩
      have hmem := (haddressed message hmessage).1
      rw [htype] at hmem
      simp at hmem
  | onPongReceived clientId now =>
      cases hstep
      refine ⟨[], (List.append_nil _).symm, fun c hc => ?_⟩
      -- a pong changes nothing that the quality depends on
      have hmap : (state.registry.onPongReceived clientId now).clients.map qualityView =
          state.registry.clients.map qualityView :=
        map_clients_updateClient state.registry clientId fun c => rfl
      obtain ⟨d, hd, hview⟩ := exists_of_map_view_eq hmap hc
      exact h.outcome_same hd hview rfl rfl
  | performQualityVerification measure now =>
      obtain ⟨registry', hrun, rfl⟩ := RegistryState.step_performQualityVerification hstep
      exact h.performQualityVerification hinv hrun
  | addWindowDamage damage now =>
      cases hstep
      -- the groups change their windows, but neither their qualities nor their members
      refine ⟨[], (List.append_nil _).symm, fun c hc => h.outcome_same hc rfl ?_ rfl⟩
      refine groupQuality_map (fun group => ?_) c.id
      exact ⟨group.quality_addWindowDamage settings.quality damage now,
        congrArg (fun m => m.2.2) (group.membership_addWindowDamage settings.quality damage now)⟩
  | updateVisibleWindows windowVisibilities now =>
      cases hstep
      refine ⟨[], (List.append_nil _).symm, fun c hc => h.outcome_same hc rfl ?_ rfl⟩
      refine groupQuality_map (fun group => ?_) c.id
      exact ⟨group.quality_updateVisibleWindows settings.quality windowVisibilities now,
        congrArg (fun m => m.2.2)
          (group.membership_updateVisibleWindows settings.quality windowVisibilities now)⟩
  | handleWindowGraphicalUpdates answer now =>
      cases hstep
      refine ⟨[], (List.append_nil _).symm, fun c hc => h.outcome_same hc rfl ?_ rfl⟩
      exact groupQuality_congr (map_quality_handleGroups _ now _ _) c.id
  | disconnectAll =>
      cases hstep
      obtain ⟨messages, hsent, -⟩ := @sentToClients_disconnectAll state.registry
      exact ⟨messages, hsent, fun c hc => by cases hc⟩

/-- A call keeps the qualities within their bounds. -/
theorem WebXClientRegistry.QualityInv.step_inv (h : QualityInv settings state.registry)
    (hinv : state.registry.Inv) (hop : op.FromIndices settings)
    (hstep : state.step settings op = .ok state') :
    QualityInv settings state'.registry := by
  obtain ⟨messages, -, houtcome⟩ := h.step hinv hop hstep
  -- the quality of the group and the largest quality of each client
  have hclient : ∀ c ∈ state'.registry.clients, ∃ q, state'.registry.groupQuality c.id = some q ∧
      settings.quality.max.Allows q ∧ settings.quality.max.Allows c.maxQuality ∧
        q.index ≤ c.maxQuality.index := by
    intro c hc
    rcases houtcome c hc with ⟨-, hmax, hquality⟩ | ⟨d, hd, href, q, q', hq, hq', hcase⟩
    · refine ⟨_, hquality, settings.quality.max.allows_maxQuality, ?_, hmax ▸ le_refl _⟩
      rw [hmax]
      exact settings.quality.max.allows_maxQuality
    · obtain ⟨hdmax, hdle⟩ := h.clients d hd
      have hallowed : settings.quality.max.Allows q := by
        obtain ⟨p, hp, hallowed⟩ := h.allowed d.ref (List.mem_map_of_mem hd)
        exact Option.some.inj (hp.symm.trans hq) ▸ hallowed
      refine ⟨q', hq', ?_⟩
      cases hcase with
      | same hmax hquality htold hlast =>
          rw [hquality, hmax]
          exact ⟨hallowed, hdmax, hdle q hq⟩
      | requested hop hnew hmax htold hlast =>
          rw [hmax]
          exact ⟨hnew, hnew, le_refl _⟩
      | automatic hop hnew hmax hlevel hbound htold hperiod hlast =>
          rw [hmax]
          exact ⟨hnew, hdmax, hbound⟩
  refine ⟨fun client hmem => ?_, fun c hc => ?_⟩
  · obtain ⟨c, hc, rfl⟩ := List.mem_map.mp hmem
    obtain ⟨q, hq, hallowed, -⟩ := hclient c hc
    exact ⟨q, hq, hallowed⟩
  · obtain ⟨q, hq, -, hmax, hle⟩ := hclient c hc
    refine ⟨hmax, fun q' hq' => ?_⟩
    rw [← Option.some.inj (hq.symm.trans hq')]
    exact hle

/-- The quality that a client was last told since it has joined; it joins with the largest one. -/
def toldQuality (max : RuntimeMaxQuality) (client : WebXClientRef) : List RegistryStep → WebXQuality
  | [] => max.maxQuality
  | s :: earlier =>
      if s.Knows client then
        (lastQuality client.index s.messages).getD (toldQuality max client earlier)
      else
        max.maxQuality

/-- The verification of the qualities gave the client another quality. -/
def RegistryStep.Adapts (s : RegistryStep) (client : WebXClientRef) (now : Time) : Prop :=
  s.Knows client ∧ (∃ measure, s.op = .performQualityVerification measure now) ∧
    s.after.registry.groupQuality client.id ≠ s.before.registry.groupQuality client.id

/-- What the history of a registry says about qualities, for a time between two changes. -/
structure QualityAgreement (settings : WebXSettings) (period : Time) (steps : List RegistryStep) : Prop where
  /-- The quality of the group of a client lies between 1 and the largest one of the client, which is
  at most that of the settings. -/
  bounded : ∀ s ∈ steps, ∀ c ∈ s.after.registry.clients,
    ∃ group, s.after.registry.getGroupWithClientId c.id = some group ∧
      1 ≤ group.quality.index ∧ group.quality.index ≤ c.maxQuality.index ∧
        c.maxQuality.index ≤ settings.quality.max.index
  /-- The quality that a client was last told is that of its group. -/
  told : ∀ later s earlier, steps = later ++ s :: earlier → ∀ c ∈ s.after.registry.clients,
    s.after.registry.groupQuality c.id = some (toldQuality settings.quality.max c.ref (s :: earlier))
  /-- The verification of the qualities changes the quality of a client by one level, or not. -/
  one_level : ∀ s ∈ steps, ∀ measure now, s.op = .performQualityVerification measure now →
    ∀ client, s.Knows client → ∃ q q', s.before.registry.groupQuality client.id = some q ∧
      s.after.registry.groupQuality client.id = some q' ∧
        (q' = q ∨ q'.index = q.index + 1 ∨ q'.index + 1 = q.index)
  /-- Between two changes for the same client there is such a time. -/
  apart : ∀ later s middle t earlier client now now',
    steps = later ++ s :: (middle ++ t :: earlier) → s.Adapts client now → t.Adapts client now' →
      (∀ u ∈ middle, u.Knows client) → now - now' ≥ period

namespace History

variable {later middle : List RegistryStep} {s t : RegistryStep} {client : WebXClientRef}

/-- The bounds of the qualities hold in every run. -/
theorem qualityInv (h : History settings steps state)
    (hops : ∀ s ∈ steps, s.op.FromIndices settings) : QualityInv settings state.registry := by
  induction h with
  | start =>
      exact ⟨fun client hclient => (by cases hclient), fun c hc => (by cases hc)⟩
  | call h hstep ih =>
      rw [List.forall_mem_cons] at hops
      exact (ih hops.2).step_inv h.inv hops.1 hstep

/-- What a call of a history does to a client. -/
theorem outcome (h : History settings (later ++ s :: earlier) state)
    (hops : ∀ u ∈ later ++ s :: earlier, u.op.FromIndices settings) :
    ∀ c ∈ s.after.registry.clients,
      ClientOutcome settings s.op s.before.registry s.after.registry s.messages c := by
  obtain ⟨hbefore, hstep⟩ := h.split
  have hearlier : ∀ u ∈ earlier, u.op.FromIndices settings := fun u hu =>
    hops u (List.mem_append_right _ (List.mem_cons_of_mem _ hu))
  have hop : s.op.FromIndices settings := hops s (List.mem_append_right _ List.mem_cons_self)
  obtain ⟨messages, hsent, houtcome⟩ := (hbefore.qualityInv hearlier).step hbefore.inv hop hstep
  rw [RegistryStep.messages_eq hsent]
  exact houtcome

/-- What a call of a history does to a client that it knows. -/
theorem clientStep (h : History settings (later ++ s :: earlier) state)
    (hops : ∀ u ∈ later ++ s :: earlier, u.op.FromIndices settings) {c : WebXClient}
    (hc : c ∈ s.after.registry.clients) (hknows : s.Knows c.ref) :
    ∃ d ∈ s.before.registry.clients, d.ref = c.ref ∧ ∃ q q',
      s.before.registry.groupQuality c.id = some q ∧ s.after.registry.groupQuality c.id = some q' ∧
      ClientStep settings.quality.max s.op d c q q' (lastQuality c.index s.messages) := by
  rcases h.outcome hops c hc with ⟨hnew, -⟩ | ⟨d, hd, href, q, q', hq, hq', hcase⟩
  · exact absurd hknows hnew
  · have hid : d.id = c.id := congrArg WebXClientRef.id href
    exact ⟨d, hd, href, q, q', hid ▸ hq, hq', hcase⟩

/-- The quality that a client was told is that of its group. -/
theorem groupQuality_eq_toldQuality (h : History settings steps state)
    (hops : ∀ s ∈ steps, s.op.FromIndices settings) :
    ∀ c ∈ state.registry.clients,
      state.registry.groupQuality c.id = some (toldQuality settings.quality.max c.ref steps) := by
  induction h with
  | start => exact fun c hc => by cases hc
  | @call steps state state' op h hstep ih =>
      intro c hc
      have hcall : History settings ([] ++ ⟨state, op, state'⟩ :: steps) state' := h.call hstep
      have houtcome := hcall.outcome hops c hc
      rw [List.forall_mem_cons] at hops
      rw [toldQuality]
      rcases houtcome with
        ⟨hnew, -, hquality⟩ | ⟨d, hd, href, q, q', hq, hq', hcase⟩
      · rw [if_neg (show ¬ RegistryStep.Knows ⟨state, op, state'⟩ c.ref from hnew)]
        exact hquality
      · have htoldBefore := ih hops.2 d hd
        rw [hq, href, Option.some.injEq] at htoldBefore
        have hknows : RegistryStep.Knows ⟨state, op, state'⟩ c.ref := href ▸ List.mem_map_of_mem hd
        rw [if_pos hknows, ← htoldBefore]
        refine hq'.trans (congrArg some ?_)
        change q' = (lastQuality c.index _).getD q
        cases hcase with
        | same hmax hquality htold hlast => rw [htold, hquality, Option.getD_none]
        | requested hop hnew hmax htold hlast =>
            rw [htold]
            -- no message is sent when the quality has the same index: it is the same quality
            split_ifs with hindex
            · obtain ⟨p, hp, hallowed⟩ := (h.qualityInv hops.2).allowed d.ref (List.mem_map_of_mem hd)
              have hpq : p = q := Option.some.inj (hp.symm.trans hq)
              exact hnew.eq_of_index_eq (hpq ▸ hallowed) hindex.symm
            · rfl
        | automatic hop hnew hmax hlevel hbound htold hperiod hlast => rw [htold, Option.getD_some]

/-- The time of the last verification of a client that stays registered never goes back. -/
theorem lastQualityVerificationTime_mono (h : History settings (middle ++ t :: earlier) state)
    (hops : ∀ s ∈ middle ++ t :: earlier, s.op.FromIndices settings)
    (hknows : ∀ u ∈ middle, u.Knows client) {c : WebXClient} (hc : c ∈ t.after.registry.clients)
    (href : c.ref = client) :
    ∀ c' ∈ state.registry.clients, c'.ref = client →
      c.lastQualityVerificationTime ≤ c'.lastQualityVerificationTime := by
  induction middle generalizing state with
  | nil =>
      intro c' hc' href'
      have hinv := h.inv
      cases h
      rw [hinv.eq_of_ref_eq hc' hc (congrArg WebXClientRef.id (href'.trans href.symm))]
  | cons u middle ih =>
      intro c' hc' href'
      rw [List.forall_mem_cons] at hknows
      have hcalls : ∀ s ∈ [] ++ u :: (middle ++ t :: earlier), s.op.FromIndices settings := hops
      have hu : History settings ([] ++ u :: (middle ++ t :: earlier)) state := h
      obtain ⟨hbefore, -⟩ := hu.split
      have hstate : state = u.after := by
        cases h
        rfl
      subst hstate
      obtain ⟨d, hd, hdref, q, q', -, -, hcase⟩ := hu.clientStep hcalls hc' (href' ▸ hknows.1)
      have hle := ih hbefore (fun s hs => hcalls s (List.mem_cons_of_mem u hs)) hknows.2 d hd
        (hdref.trans href')
      refine hle.trans ?_
      cases hcase with
      | same hmax hquality htold hlast => exact hlast
      | requested hop hnew hmax htold hlast => exact hlast.ge
      | automatic hop hnew hmax hlevel hbound htold hperiod hlast =>
          -- the time is set to one that is at least a period later
          have hpos : (0 : ℤ) ≤ WebXClient.leastVerificationPeriod := by decide
          rw [hlast]
          exact sub_nonneg.mp (hpos.trans hperiod)

/-- What the verification of the qualities does to a client: nothing, or a change by one level at the
end of a verification period. -/
theorem verified (h : History settings (later ++ s :: earlier) state)
    (hops : ∀ u ∈ later ++ s :: earlier, u.op.FromIndices settings)
    {measure : UInt32 → WebXClientMeasure} {now : Time}
    (hop : s.op = .performQualityVerification measure now) (hknows : s.Knows client) :
    ∃ d ∈ s.before.registry.clients, ∃ c ∈ s.after.registry.clients, d.ref = client ∧
      c.ref = client ∧ ∃ q q', s.before.registry.groupQuality client.id = some q ∧
        s.after.registry.groupQuality client.id = some q' ∧
        (q' = q ∨ (q'.index = q.index + 1 ∨ q'.index + 1 = q.index) ∧
          now - d.lastQualityVerificationTime ≥ WebXClient.leastVerificationPeriod ∧
          c.lastQualityVerificationTime = now) := by
  obtain ⟨hbefore, hstep⟩ := h.split
  obtain ⟨registry', hrun, -⟩ := hbefore.inv.performQualityVerification settings measure now
  have hmem : client ∈ s.after.registry.refs := by
    rw [hop, RegistryState.step, hrun] at hstep
    injection hstep with hafter
    rw [← hafter]
    change client ∈ registry'.refs
    rw [refs_performQualityVerification hrun]
    exact hknows
  obtain ⟨c, hc, rfl⟩ := List.mem_map.mp hmem
  obtain ⟨d, hd, href, q, q', hq, hq', hcase⟩ := h.clientStep hops hc hknows
  refine ⟨d, hd, c, hc, href, rfl, q, q', hq, hq', ?_⟩
  cases hcase with
  | same hmax hquality htold hlast => exact .inl hquality
  | requested hrequest hnew hmax htold hlast =>
      -- the call is not a request of a client
      obtain ⟨clientId, hrequest⟩ := hrequest
      rw [hop] at hrequest
      cases hrequest
  | automatic hverify hnew hmax hlevel hbound htold hperiod hlast =>
      rw [hop] at hverify
      cases hverify
      exact .inr ⟨hlevel, hperiod, hlast⟩

/-- A client whose quality was adapted at some time had no verification in the period before, and has
one then. -/
theorem adapted (h : History settings (later ++ s :: earlier) state)
    (hops : ∀ u ∈ later ++ s :: earlier, u.op.FromIndices settings) {now : Time}
    (hadapts : s.Adapts client now) :
    ∃ d ∈ s.before.registry.clients, ∃ c ∈ s.after.registry.clients, d.ref = client ∧
      c.ref = client ∧ now - d.lastQualityVerificationTime ≥ WebXClient.leastVerificationPeriod ∧
        c.lastQualityVerificationTime = now := by
  obtain ⟨hknows, ⟨measure, hop⟩, hchanged⟩ := hadapts
  obtain ⟨d, hd, c, hc, hdref, href, q, q', hq, hq', hcase⟩ := h.verified hops hop hknows
  rcases hcase with rfl | ⟨-, hperiod, hlast⟩
  · exact absurd (hq'.trans hq.symm) hchanged
  · exact ⟨d, hd, c, hc, hdref, href, hperiod, hlast⟩

/-- The registry, the groups and the clients agree on the qualities. -/
theorem keepsQualityAgreement (h : History settings steps state)
    (hops : ∀ s ∈ steps, s.op.FromIndices settings) :
    QualityAgreement settings WebXClient.leastVerificationPeriod steps where
  bounded := by
    intro s hs c hc
    obtain ⟨later, earlier, rfl⟩ := List.append_of_mem hs
    have hinv := h.split_after.qualityInv fun u hu => hops u (List.mem_append_right _ hu)
    obtain ⟨q, hq, hallowed⟩ := hinv.allowed c.ref (List.mem_map_of_mem hc)
    obtain ⟨group, hgroup, rfl⟩ := Option.map_eq_some_iff.mp hq
    exact ⟨group, hgroup, hallowed.bounds.1, (hinv.clients c hc).2 _ hq,
      (hinv.clients c hc).1.bounds.2⟩
  told := by
    rintro later s earlier rfl c hc
    exact h.split_after.groupQuality_eq_toldQuality
      (fun u hu => hops u (List.mem_append_right _ hu)) c hc
  one_level := by
    intro s hs measure now hop client hknows
    obtain ⟨later, earlier, rfl⟩ := List.append_of_mem hs
    obtain ⟨d, -, c, -, -, -, q, q', hq, hq', hcase⟩ := h.verified hops hop hknows
    exact ⟨q, q', hq, hq', hcase.imp_right And.left⟩
  apart := by
    rintro later s middle t earlier client now now' rfl hs ht hknows
    obtain ⟨hbefore, -⟩ := h.split
    have hearlier : ∀ u ∈ middle ++ t :: earlier, u.op.FromIndices settings := fun u hu =>
      hops u (List.mem_append_right _ (List.mem_cons_of_mem _ hu))
    obtain ⟨-, -, c, hc, -, href, -, hlast⟩ := hbefore.adapted hearlier ht
    obtain ⟨d, hd, -, -, hdref, -, hperiod, -⟩ := h.adapted hops hs
    -- between the two changes, the time of the last verification has not gone back
    have hmono := hbefore.lastQualityVerificationTime_mono hearlier hknows hc href d hd hdref
    rw [hlast] at hmono
    exact hperiod.trans (sub_le_sub_left hmono now)

end History

/-- **The clients, their groups and what the clients were told agree on the qualities** whatever calls
are made to a registry, when the clients choose their largest qualities by an index. -/
theorem qualityAgreement (settings : WebXSettings) (ops : List RegistryOp)
    (hops : ∀ op ∈ ops, op.FromIndices settings) :
    ∃ steps state, History settings steps state ∧ steps.map RegistryStep.op = ops ∧
      QualityAgreement settings WebXClient.leastVerificationPeriod steps := by
  obtain ⟨steps, state, h, rfl⟩ := History.exists_of_ops settings ops
  exact ⟨steps, state, h, rfl, h.keepsQualityAgreement fun s hs =>
    hops s.op (List.mem_map_of_mem hs)⟩

namespace History

/-! ## A client whose quality is lowered -/

/-- The states of a history come from its calls. -/
theorem foldlM_eq (h : History settings steps state) :
    (steps.map RegistryStep.op).reverse.foldlM (RegistryState.step settings) .init = .ok state := by
  induction h with
  | start => rfl
  | call _ hstep ih =>
      rw [List.map_cons, List.reverse_cons, List.foldlM_append, ih]
      change RegistryState.step settings _ _ >>= pure = _
      rw [hstep]
      rfl

/-- What can be seen of a client after some calls: the clients, the quality of its group, and the
messages. -/
def observed (clientId : UInt32) (ops : List RegistryOp) :
    Option (List WebXClientRef × Option WebXQuality × List WebXMessage) :=
  (ops.foldlM (RegistryState.step .default) .init).toOption.map fun state =>
    (state.registry.refs, state.registry.groupQuality clientId, state.registry.sent)

/-- What can be seen of a client after the calls of a history. -/
theorem observed_eq (h : History .default steps state) (clientId : UInt32) :
    observed clientId (steps.map RegistryStep.op).reverse =
      some (state.registry.refs, state.registry.groupQuality clientId, state.registry.sent) := by
  rw [observed, h.foldlM_eq]
  rfl

/-- A client uses most of its bandwidth. -/
def lowRate (now : Time) : RegistryOp :=
  .performQualityVerification (fun _ => ⟨some 10, some 5, some (9 / 10)⟩) now

/-- The rates of the groups are measured. -/
def noImages (now : Time) : RegistryOp := .handleWindowGraphicalUpdates (fun _ _ => .error "") now

/-- A client joins, and its quality is lowered, and again after a time. -/
def lowerTwice (time : Time) : List RegistryOp :=
  [.addClient ⟨1, 0, 0⟩ [7] 0, noImages 0, lowRate (Time.ofMs 10000), noImages (Time.ofMs 10000),
    lowRate (Time.ofMs 10000 + time)]

/-- No call of the run sets a quality. -/
theorem fromIndices_lowerTwice (time : Time) :
    ∀ op ∈ (lowerTwice time).reverse, op.FromIndices .default := by
  simp only [lowerTwice, List.mem_reverse, List.forall_mem_cons]
  exact ⟨trivial, trivial, trivial, trivial, trivial, List.forall_mem_nil _⟩

variable (client) in
/-- A change that can be seen before and after a call. -/
theorem adapts_of_observed (h : History .default (later ++ s :: earlier) state)
    {measure : UInt32 → WebXClientMeasure} {now : Time} (hop : s.op = .performQualityVerification measure now)
    {refs refs' : List WebXClientRef} {q q' : Option WebXQuality} {sent told : List WebXMessage}
    (hbefore : observed client.id (earlier.map RegistryStep.op).reverse = some (refs, q, sent))
    (hafter : observed client.id ((s :: earlier).map RegistryStep.op).reverse =
      some (refs', q', sent ++ told))
    (hmem : client ∈ refs) (hne : q' ≠ q) : s.Adapts client now ∧ s.messages = told := by
  have hfirst := hbefore.symm.trans (h.split.1.observed_eq client.id)
  have hlast := hafter.symm.trans (h.split_after.observed_eq client.id)
  simp only [Option.some.injEq, Prod.mk.injEq] at hfirst hlast
  obtain ⟨rfl, rfl, rfl⟩ := hfirst
  obtain ⟨rfl, rfl, hsent⟩ := hlast
  exact ⟨⟨hmem, ⟨measure, hop⟩, hne⟩, RegistryStep.messages_eq hsent.symm⟩

/-- The two changes are made, and told. -/
theorem adapts_lowerTwice (h : History .default steps state)
    (hops : steps.map RegistryStep.op = (lowerTwice WebXClient.leastVerificationPeriod).reverse) :
    ∃ s t middle earlier, steps = [] ++ s :: ([middle] ++ t :: earlier) ∧
      s.Adapts ⟨7, 1⟩ (Time.ofMs 10000 + WebXClient.leastVerificationPeriod) ∧
      t.Adapts ⟨7, 1⟩ (Time.ofMs 10000) ∧ middle.Knows ⟨7, 1⟩ ∧
      s.messages = [⟨1, .quality (WebXSettings.default.quality.max.qualityForIndex 10)⟩] ∧
      t.messages = [⟨1, .quality (WebXSettings.default.quality.max.qualityForIndex 11)⟩] := by
  obtain ⟨s, rest, rfl, hs, hrest⟩ := List.map_eq_cons_iff.mp hops
  obtain ⟨middle, rest, rfl, hmiddle, hrest⟩ := List.map_eq_cons_iff.mp hrest
  obtain ⟨t, earlier, rfl, ht, hearlier⟩ := List.map_eq_cons_iff.mp hrest
  have hsecond : History .default ([] ++ s :: ([middle] ++ t :: earlier)) state := h
  have hfirst : History .default (([s, middle] : List RegistryStep) ++ t :: earlier) state := h
  have htold : observed 7 ((t :: earlier).map RegistryStep.op).reverse = some ([⟨7, 1⟩],
      some (WebXSettings.default.quality.max.qualityForIndex 11),
      [] ++ [⟨1, .quality (WebXSettings.default.quality.max.qualityForIndex 11)⟩]) := by
    rw [List.map_cons, ht, hearlier]
    decide +kernel
  have hstarted : observed 7 (earlier.map RegistryStep.op).reverse = some ([⟨7, 1⟩],
      some (WebXSettings.default.quality.max.qualityForIndex 12), []) := by
    rw [hearlier]
    decide +kernel
  obtain ⟨hadapts, hmessages⟩ := hfirst.adapts_of_observed ⟨7, 1⟩ ht hstarted htold
    (List.mem_singleton_self _) (by decide +kernel)
  have hmid : History .default (([s] : List RegistryStep) ++ middle :: t :: earlier) state := h
  have hknown := htold.symm.trans (hmid.split.1.observed_eq 7)
  simp only [Option.some.injEq, Prod.mk.injEq] at hknown
  have hlowered : observed 7 (([middle] ++ t :: earlier).map RegistryStep.op).reverse = some ([⟨7, 1⟩],
      some (WebXSettings.default.quality.max.qualityForIndex 11),
      [⟨1, .quality (WebXSettings.default.quality.max.qualityForIndex 11)⟩]) := by
    simp only [List.map_cons, List.map_append, List.map_nil, hmiddle, ht, hearlier]
    decide +kernel
  have htold' : observed 7 ((s :: ([middle] ++ t :: earlier)).map RegistryStep.op).reverse =
      some ([⟨7, 1⟩], some (WebXSettings.default.quality.max.qualityForIndex 10),
        [⟨1, .quality (WebXSettings.default.quality.max.qualityForIndex 11)⟩] ++
          [⟨1, .quality (WebXSettings.default.quality.max.qualityForIndex 10)⟩]) := by
    simp only [List.map_cons, List.map_append, List.map_nil, hs, hmiddle, ht, hearlier]
    decide +kernel
  obtain ⟨hadapts', hmessages'⟩ := hsecond.adapts_of_observed ⟨7, 1⟩ hs hlowered htold'
    (List.mem_singleton_self _) (by decide +kernel)
  refine ⟨s, t, middle, earlier, rfl, hadapts', hadapts, ?_, hmessages', hmessages⟩
  rw [RegistryStep.Knows, ← hknown.1]
  exact List.mem_singleton_self _

end History

/-- A client uses most of its bandwidth, and its quality is lowered twice. -/
theorem qualityAgreement_lowered : ∃ steps state,
    History .default steps state ∧
      (∃ s ∈ steps, s.Adapts ⟨7, 1⟩ (Time.ofMs 10000) ∧
        s.messages = [⟨1, .quality (WebXSettings.default.quality.max.qualityForIndex 11)⟩]) ∧
      QualityAgreement .default WebXClient.leastVerificationPeriod steps := by
  obtain ⟨steps, state, h, hops, hagreement⟩ := qualityAgreement .default
    (History.lowerTwice WebXClient.leastVerificationPeriod).reverse (History.fromIndices_lowerTwice _)
  obtain ⟨s, t, middle, earlier, rfl, -, hadapts, -, -, htold⟩ := h.adapts_lowerTwice hops
  exact ⟨_, state, h, ⟨t, by simp, hadapts, htold⟩, hagreement⟩

/-- The two changes are less than ten seconds apart. -/
theorem not_qualityAgreement_tenSeconds : ¬ ∀ settings steps state, History settings steps state →
    (∀ s ∈ steps, s.op.FromIndices settings) → QualityAgreement settings (Time.ofMs 10000) steps := by
  intro hall
  obtain ⟨steps, state, h, hops⟩ := History.exists_of_ops .default
    (History.lowerTwice WebXClient.leastVerificationPeriod).reverse
  have hindices : ∀ s ∈ steps, s.op.FromIndices .default := fun s hs =>
    History.fromIndices_lowerTwice _ s.op (hops ▸ List.mem_map_of_mem hs)
  obtain ⟨s, t, middle, earlier, rfl, hs, ht, hmiddle, -⟩ := h.adapts_lowerTwice hops
  have hapart := (hall .default _ state h hindices).apart [] s [middle] t earlier ⟨7, 1⟩ _ _ rfl hs ht
    (List.forall_mem_singleton.mpr hmiddle)
  exact absurd hapart (by decide)

end WebXEngine
