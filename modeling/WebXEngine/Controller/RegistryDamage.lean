import WebXEngine.Controller.GroupMoves

/-! # The damage of a client across changes of quality

The damage of a window is kept by the groups. A client that moves to another group leaves the damage
of the old group behind and finds that of the new group.

* **`Accounted`** — a damage is pending for a client, or was given to an update handler for it.
* **`MoveKeepsDamage`** — the group a client moves to has the damage of the group it leaves.
* **`noDamageLost`** — under this condition no damage is lost; `not_noDamageLost` loses one
  without it. -/

namespace WebXEngine

/-! ## The damage of a window in a group -/

namespace WebXClientWindow

/-- The damage kept for a window. -/
def pendingDamage (windows : List WebXClientWindow) (x11Window : UInt32) : WebXWindowDamage :=
  ((windows.find? fun window => window.id = x11Window).map damage).getD (.empty x11Window)

variable {windows : List WebXClientWindow} {x11Window : UInt32}

/-- The damage of a window that is found. -/
theorem pendingDamage_of_some {window : WebXClientWindow}
    (h : windows.find? (fun window => window.id = x11Window) = some window) :
    pendingDamage windows x11Window = window.damage := by
  rw [pendingDamage, h]
  rfl

/-- A window that is not found has no damage. -/
theorem pendingDamage_of_none (h : windows.find? (fun window => window.id = x11Window) = none) :
    pendingDamage windows x11Window = .empty x11Window := by
  rw [pendingDamage, h]
  rfl

/-- A window that is not known is not found. -/
theorem find?_eq_none_of_any
    (h : ¬ (windows.any fun window => window.id = x11Window) = true) :
    windows.find? (fun window => window.id = x11Window) = none := by
  rw [List.find?_eq_none]
  exact fun window hmem hid => h (List.any_eq_true.mpr ⟨window, hmem, hid⟩)

/-- The damage of a window that is added at the end. -/
theorem pendingDamage_concat (window : WebXClientWindow) :
    pendingDamage (windows ++ [window]) x11Window =
      if (windows.find? fun window => window.id = x11Window).isSome then
        pendingDamage windows x11Window
      else if window.id = x11Window then window.damage else .empty x11Window := by
  rw [pendingDamage, pendingDamage, List.find?_append]
  cases windows.find? fun window => window.id = x11Window with
  | some found => rfl
  | none => by_cases h : window.id = x11Window <;> simp [h]

/-- The damage of a window that is first, or that of the others. -/
theorem pendingDamage_cons (window : WebXClientWindow) :
    pendingDamage (window :: windows) x11Window =
      if window.id = x11Window then window.damage else pendingDamage windows x11Window := by
  rw [pendingDamage]
  by_cases h : window.id = x11Window
  · simp [h]
  · rw [List.find?_cons_of_neg (by simpa using h), if_neg h]
    rfl

/-- The damage stays when the windows keep their identifiers and their damage. -/
theorem pendingDamage_map {change : WebXClientWindow → WebXClientWindow}
    (hid : ∀ window, (change window).id = window.id)
    (hdamage : ∀ window, (change window).damage = window.damage) :
    pendingDamage (windows.map change) x11Window = pendingDamage windows x11Window := by
  rw [pendingDamage, pendingDamage, List.find?_map, Option.map_map]
  simp only [Function.comp_def, hid, hdamage]

end WebXClientWindow

namespace WebXClientGroup

open WebXClientWindow

variable (group : WebXClientGroup) (settings : WebXQualitySettings) (now : Time)

/-- A change of one window that keeps its identifier. -/
theorem find?_updateWindow (x11Window : UInt32) (change : WebXClientWindow → WebXClientWindow)
    (hid : ∀ window, (change window).id = window.id) (w : UInt32) :
    ((group.updateWindow x11Window change).windows.find? fun window => window.id = w) =
      (group.windows.find? fun window => window.id = w).map fun window =>
        if window.id = x11Window then change window else window := by
  rw [updateWindow]
  dsimp only
  induction group.windows with
  | nil => rfl
  | cons window windows ih =>
      by_cases hx : window.id = x11Window
      · rw [updateFirst_cons_of_pos _ _ (by simpa using hx), Option.toList_some, List.singleton_append]
        by_cases hw : window.id = w
        · rw [List.find?_cons_of_pos (by simpa [hid] using hw),
            List.find?_cons_of_pos (by simpa using hw)]
          simp [hx]
        · rw [List.find?_cons_of_neg (by simpa [hid] using hw),
            List.find?_cons_of_neg (by simpa using hw)]
          -- the windows behind are not changed, and the one looked for is another one
          cases hfind : windows.find? fun window => window.id = w with
          | none => rfl
          | some found =>
              have hfound : found.id = w := by simpa using List.find?_some hfind
              have hne : ¬ found.id = x11Window := fun h => hw (hx.trans (h.symm.trans hfound))
              simp [hne]
      · rw [updateFirst_cons_of_neg _ _ (by simpa using hx)]
        by_cases hw : window.id = w
        · rw [List.find?_cons_of_pos (by simpa using hw), List.find?_cons_of_pos (by simpa using hw)]
          simp [hx]
        · rw [List.find?_cons_of_neg (by simpa using hw), List.find?_cons_of_neg (by simpa using hw)]
          exact ih

/-- Reported damage is added to what is pending. -/
theorem covers_addWindowDamage (damage : WebXWindowDamage) (x11Window : UInt32) :
    (pendingDamage (group.addWindowDamage settings damage now).windows x11Window).Covers
        (pendingDamage group.windows x11Window) ∧
      (damage.x11Window = x11Window →
        (pendingDamage (group.addWindowDamage settings damage now).windows x11Window).Covers
          damage) := by
  rw [addWindowDamage]
  split_ifs with hknown
  · -- the window is known: its damage grows
    have hfind := group.find?_updateWindow damage.x11Window (fun window => window.addDamage damage)
      (fun window => window.id_addDamage damage) x11Window
    cases hwindow : group.windows.find? fun window => window.id = x11Window with
    | none =>
        rw [hwindow] at hfind
        rw [pendingDamage_of_none hfind, pendingDamage_of_none hwindow]
        refine ⟨WebXWindowDamage.covers_refl _, ?_⟩
        rintro rfl
        rw [List.find?_eq_none] at hwindow
        obtain ⟨window, hmem, hid⟩ := List.any_eq_true.mp hknown
        exact absurd hid (hwindow window hmem)
    | some window =>
        have hid : window.id = x11Window := by simpa using List.find?_some hwindow
        rw [hwindow, Option.map_some] at hfind
        rw [pendingDamage_of_some hfind, pendingDamage_of_some hwindow]
        by_cases heq : window.id = damage.x11Window
        · rw [if_pos heq]
          exact ⟨WebXWindowDamage.covers_add_left _ _, fun _ => WebXWindowDamage.covers_add_right _ _⟩
        · rw [if_neg heq]
          exact ⟨WebXWindowDamage.covers_refl _, fun h => absurd (hid.trans h.symm) heq⟩
  · -- a new window begins with the damage
    have hunknown := find?_eq_none_of_any hknown
    dsimp only
    rw [pendingDamage_concat]
    split_ifs with hsome hid
    · refine ⟨WebXWindowDamage.covers_refl _, ?_⟩
      rintro rfl
      rw [hunknown] at hsome
      exact nomatch hsome
    · rw [Bool.not_eq_true, Option.isSome_eq_false_iff, Option.isNone_iff_eq_none] at hsome
      rw [pendingDamage_of_none hsome]
      refine ⟨?_, fun _ => WebXWindowDamage.covers_refl _⟩
      exact WebXWindowDamage.covers_empty damage x11Window
    · rw [Bool.not_eq_true, Option.isSome_eq_false_iff, Option.isNone_iff_eq_none] at hsome
      rw [pendingDamage_of_none hsome]
      exact ⟨WebXWindowDamage.covers_refl _, fun h => absurd h hid⟩

/-- The visibility of a window does not change the damage. -/
theorem pendingDamage_updateVisibleWindow (visibility : WebXWindowVisibility) (x11Window : UInt32) :
    pendingDamage (updateVisibleWindow settings now group visibility).windows x11Window =
      pendingDamage group.windows x11Window := by
  rw [updateVisibleWindow]
  split_ifs with hknown
  -- a window that is known keeps its damage
  · have hfind := group.find?_updateWindow visibility.x11Window
      (fun window => ((window.setSize visibility.rectangle.size).setCoverage settings
        visibility.coverage now).setShapeMaskChecksum visibility.shapeMaskChecksum)
      (fun window => window.id_setSize visibility.rectangle.size) x11Window
    cases hwindow : group.windows.find? fun window => window.id = x11Window with
    | none =>
        rw [hwindow] at hfind
        rw [pendingDamage_of_none hfind, pendingDamage_of_none hwindow]
    | some window =>
        rw [hwindow, Option.map_some] at hfind
        rw [pendingDamage_of_some hfind, pendingDamage_of_some hwindow]
        split_ifs
        · exact window.damage_setSize visibility.rectangle.size
        · rfl
  -- a window that is new has none
  · have hunknown := find?_eq_none_of_any hknown
    dsimp only
    rw [pendingDamage_concat]
    split_ifs with hsome hid
    · rfl
    · subst hid
      exact (pendingDamage_of_none hunknown).symm
    · rw [Bool.not_eq_true, Option.isSome_eq_false_iff, Option.isNone_iff_eq_none] at hsome
      exact (pendingDamage_of_none hsome).symm

/-- The damage of a window that stays visible is kept. -/
theorem pendingDamage_updateVisibleWindows {windowVisibilities : List WebXWindowVisibility}
    {x11Window : UInt32}
    (hvisible : ∃ visibility ∈ windowVisibilities, visibility.x11Window = x11Window) :
    pendingDamage (group.updateVisibleWindows settings windowVisibilities now).windows x11Window =
      pendingDamage group.windows x11Window := by
  have hfoldl (visibilities : List WebXWindowVisibility) (g : WebXClientGroup) :
      pendingDamage (visibilities.foldl (updateVisibleWindow settings now) g).windows x11Window =
        pendingDamage g.windows x11Window := by
    induction visibilities generalizing g with
    | nil => rfl
    | cons visibility visibilities ih =>
        rw [List.foldl_cons, ih, pendingDamage_updateVisibleWindow]
  rw [updateVisibleWindows]
  dsimp only
  rw [pendingDamage_map (fun window => window.id_updateQuality settings now)
    (fun window => window.damage_updateQuality settings now), hfoldl]
  -- the filter does not remove the window
  rw [pendingDamage, pendingDamage, List.find?_filter]
  congr 3
  funext window
  by_cases hid : window.id = x11Window
  · obtain ⟨visibility, hmem, hx⟩ := hvisible
    simpa [hid] using ⟨visibility, hmem, hx⟩
  · simp [hid]

/-! ### Updates -/

open RegistryState (recordingHandler)

variable (answer : List UpdateCall → UpdateCall → Except String WebXWindowImageTransferData)

/-- A window stays as it is, or its update is recorded. -/
theorem handleWindowGraphicalUpdate_recording (clientIndexMask : UInt64) (window : WebXClientWindow)
    (calls : List UpdateCall) :
    let handled := handleWindowGraphicalUpdate settings (recordingHandler answer) clientIndexMask now
      window calls
    handled.1.id = window.id ∧ (handled.1 = window ∧ handled.2.2 = calls ∨
      handled.2.2 = calls ++ [⟨window, clientIndexMask⟩]) := by
  rw [handleWindowGraphicalUpdate]
  split_ifs
  · refine ⟨?_, .inr rfl⟩
    dsimp only [recordingHandler]
    cases answer calls ⟨window, clientIndexMask⟩ with
    | error e => rfl
    | ok transferData => exact window.id_onImageTransfer settings now transferData
  · exact ⟨rfl, .inl ⟨rfl, rfl⟩⟩

/-- What is pending for a window stays, or it is given to the update handler. -/
theorem handleWindows_recording (clientIndexMask : UInt64) (x11Window : UInt32)
    (windows : List WebXClientWindow) (calls : List UpdateCall) :
    let handled := handleWindows settings (recordingHandler answer) clientIndexMask now windows calls
    ∃ appended, handled.2.2 = calls ++ appended ∧
      (pendingDamage handled.1 x11Window = pendingDamage windows x11Window ∨
        ∃ call ∈ appended, call.window.id = x11Window ∧
          call.window.damage = pendingDamage windows x11Window ∧
          call.clientIndexMask = clientIndexMask) := by
  induction windows generalizing calls with
  | nil => exact ⟨[], (List.append_nil _).symm, .inl rfl⟩
  | cons window windows ih =>
      rw [handleWindows]
      dsimp only
      obtain ⟨hid, hfirst⟩ := handleWindowGraphicalUpdate_recording settings now answer
        clientIndexMask window calls
      generalize handleWindowGraphicalUpdate settings (recordingHandler answer) clientIndexMask now
        window calls = first at hid hfirst
      obtain ⟨window', sizeKB, calls'⟩ := first
      dsimp only at hid hfirst ⊢
      obtain ⟨appended, hcalls, hothers⟩ := ih calls'
      rw [hcalls, pendingDamage_cons, pendingDamage_cons, hid]
      by_cases hw : window.id = x11Window
      -- the first window is the one of the damage, so what is pending is its own
      · rw [if_pos hw, if_pos hw]
        rcases hfirst with ⟨rfl, rfl⟩ | rfl
        · exact ⟨appended, rfl, .inl rfl⟩
        · refine ⟨⟨window, clientIndexMask⟩ :: appended, List.append_assoc _ _ _, .inr ?_⟩
          exact ⟨_, List.mem_cons_self, hw, rfl, rfl⟩
      -- what is pending is that of the other windows
      · rw [if_neg hw, if_neg hw]
        rcases hfirst with ⟨-, rfl⟩ | rfl
        · exact ⟨appended, rfl, hothers⟩
        · refine ⟨⟨window, clientIndexMask⟩ :: appended, List.append_assoc _ _ _, ?_⟩
          refine hothers.imp_right ?_
          rintro ⟨call, hcall, hrest⟩
          exact ⟨call, List.mem_cons_of_mem _ hcall, hrest⟩

end WebXClientGroup

/-! ## The damage of a window for a client -/

namespace WebXClientRegistry

open WebXClientWindow

variable {settings : WebXSettings} {registry : WebXClientRegistry} {client : WebXClientRef}
  {clientId : UInt32} {quality : WebXQuality}

/-- The windows of the group of a client. -/
def clientWindows (registry : WebXClientRegistry) (clientId : UInt32) : List WebXClientWindow :=
  ((registry.getGroupWithClientId clientId).map WebXClientGroup.windows).getD []

/-- The windows of the group of a quality. -/
def qualityWindows (registry : WebXClientRegistry) (quality : WebXQuality) :
    List WebXClientWindow :=
  ((registry.getGroupByQuality quality).map WebXClientGroup.windows).getD []

/-- A client that moves to the group of a quality finds there the damage of the window that its group
had. -/
def MoveKeepsDamage (registry : WebXClientRegistry) (clientId : UInt32) (quality : WebXQuality)
    (x11Window : UInt32) : Prop :=
  ∀ oldGroup, registry.getGroupWithClientId clientId = some oldGroup →
    oldGroup.quality.index ≠ quality.index →
    (pendingDamage (registry.qualityWindows quality) x11Window).Covers
      (pendingDamage oldGroup.windows x11Window)

/-! ### Other clients -/

/-- Another client changes its quality. -/
theorem clientWindows_setClientQuality_of_ne (hne : client.id ≠ clientId) :
    (registry.setClientQuality client quality).clientWindows clientId =
      registry.clientWindows clientId :=
  congrArg (·.getD []) (map_group_setClientQuality_of_ne WebXClientGroup.windows_addClient
    WebXClientGroup.windows_removeClient hne)

/-- Another client is removed. -/
theorem clientWindows_removeClient (h : Inv registry) {other : UInt32}
    (hstays : client ∈ (registry.removeClient other).2.refs) :
    (registry.removeClient other).2.clientWindows client.id = registry.clientWindows client.id :=
  congrArg (·.getD []) (h.map_group_removeClient WebXClientGroup.windows_removeClient hstays)

/-- A client is added. -/
theorem clientWindows_addClient (hclient : client ∈ registry.refs)
    {clientVersion : WebXVersion} {draws : List UInt32} {now : Time}
    {result : Except String (UInt32 × UInt64)} {registry' : WebXClientRegistry}
    (hadd : registry.addClient settings clientVersion draws now = some (result, registry')) :
    registry'.clientWindows client.id = registry.clientWindows client.id :=
  congrArg (·.getD []) (map_group_addClient WebXClientGroup.windows_addClient hclient hadd)

/-- The clients whose pong is late are removed; the others keep their windows. -/
theorem clientWindows_removeTimedOutClients (clientsWithTimeout : List WebXClient)
    {registry : WebXClientRegistry} (h : Inv registry)
    (hstays : client ∈ (registry.removeTimedOutClients clientsWithTimeout).refs) :
    client ∈ registry.refs ∧
      (registry.removeTimedOutClients clientsWithTimeout).clientWindows client.id =
        registry.clientWindows client.id := by
  obtain ⟨hclient, hgroup⟩ :=
    map_group_removeTimedOutClients WebXClientGroup.windows_removeClient clientsWithTimeout h hstays
  exact ⟨hclient, congrArg (·.getD []) hgroup⟩

/-! ### A client that moves -/

/-- The client finds the windows of the group it moves to. -/
theorem clientWindows_move (h : Inv registry) (hclient : client ∈ registry.refs)
    {oldGroup : WebXClientGroup} (hold : registry.getGroupWithClientId client.id = some oldGroup)
    (hquality : oldGroup.quality.index ≠ quality.index) :
    ((registry.removeClientFromGroups client.id).addClientToGroup client quality).clientWindows
      client.id = registry.qualityWindows quality :=
  congrArg (·.getD []) (h.map_group_move WebXClientGroup.windows_addClient
    WebXClientGroup.windows_removeClient hclient hold hquality)

/-- A change of quality keeps the damage of a client under the condition on its moves. -/
theorem covers_setClientQuality (h : Inv registry) (hclient : client ∈ registry.refs)
    {x11Window : UInt32} (hmove : registry.MoveKeepsDamage client.id quality x11Window) :
    (pendingDamage ((registry.setClientQuality client quality).clientWindows client.id)
      x11Window).Covers (pendingDamage (registry.clientWindows client.id) x11Window) := by
  obtain ⟨oldGroup, -, hold⟩ := h.getGroupWithClientId hclient
  rw [setClientQuality_of_some _ hold]
  split_ifs with hquality
  · have hwindows : registry.clientWindows client.id = oldGroup.windows := by
      rw [clientWindows, hold]
      rfl
    have hnew := clientWindows_move h hclient hold hquality
    rw [hwindows]
    exact hnew ▸ hmove oldGroup hold hquality
  · exact WebXWindowDamage.covers_refl _

/-! ### The verification of the qualities -/

/-- In the loop over the clients, the moves of a client keep the damage of a window. -/
def VerificationKeepsDamage (settings : WebXSettings) (clientId x11Window : UInt32) :
    List WebXClient → WebXClientRegistry → Prop
  | [], _ => True
  | client :: clients, registry =>
      (client.id = clientId → ∀ clientGroup, registry.getGroupWithClientId clientId = some clientGroup →
        ∀ newQuality, suggestedQuality settings client clientGroup = some newQuality →
          registry.MoveKeepsDamage clientId newQuality x11Window) ∧
      ∀ next, verifyClientQuality settings registry client = .ok next →
        VerificationKeepsDamage settings clientId x11Window clients next

/-- **The loop over the clients** keeps the damage of a client when its moves do. -/
theorem covers_foldlM_verifyClientQuality {x11Window : UInt32} (clients : List WebXClient) :
    ∀ {registry registry' : WebXClientRegistry}, Inv registry →
      (∀ c ∈ clients, c.ref ∈ registry.refs) → client ∈ registry.refs →
      VerificationKeepsDamage settings client.id x11Window clients registry →
      clients.foldlM (verifyClientQuality settings) registry = .ok registry' →
      (pendingDamage (registry'.clientWindows client.id) x11Window).Covers
        (pendingDamage (registry.clientWindows client.id) x11Window) := by
  induction clients with
  | nil =>
      rintro registry registry' - - - - hrun
      cases hrun
      exact WebXWindowDamage.covers_refl _
  | cons c clients ih =>
      intro registry registry' h hmem hclient hkeeps hrun
      rw [List.forall_mem_cons] at hmem
      obtain ⟨group, -, hgroup⟩ := h.getGroupWithClientId hmem.1
      have hverify := @verifyClientQuality_of_some settings _ c _ hgroup
      rw [List.foldlM_cons, hverify] at hrun
      have hrest := hkeeps.2 _ hverify
      cases hsuggested : suggestedQuality settings c group with
      | none =>
          rw [hsuggested] at hrun hrest
          exact ih h hmem.2 hclient hrest hrun
      | some quality =>
          rw [hsuggested] at hrun hrest
          have hrefs : (registry.setClientQuality c.ref quality).refs = registry.refs :=
            refs_setClientQuality
          refine (ih (h.setClientQuality hmem.1 quality) (fun d hd => hrefs.symm ▸ hmem.2 d hd)
            (hrefs.symm ▸ hclient) hrest hrun).trans ?_
          by_cases hid : c.id = client.id
          · -- the client itself moves
            have href : c.ref = client := h.members.eq_of_id_eq hmem.1 hclient hid
            rw [href]
            exact covers_setClientQuality h hclient
              (hkeeps.1 hid group (hid ▸ hgroup) quality hsuggested)
          · have hothers : (registry.setClientQuality c.ref quality).clientWindows client.id =
                registry.clientWindows client.id := clientWindows_setClientQuality_of_ne hid
            exact hothers ▸ WebXWindowDamage.covers_refl _

/-- **The verification of the qualities** keeps the damage of a client when its moves do. -/
theorem covers_performQualityVerification (h : Inv registry) (hclient : client ∈ registry.refs)
    {measure : UInt32 → WebXClientMeasure} {now : Time} {x11Window : UInt32}
    (hkeeps : VerificationKeepsDamage settings client.id x11Window
      (registry.performGroupQualityVerifications measure now).clients
      (registry.performGroupQualityVerifications measure now))
    {registry' : WebXClientRegistry}
    (hrun : registry.performQualityVerification settings measure now = .ok registry') :
    (pendingDamage (registry'.clientWindows client.id) x11Window).Covers
      (pendingDamage (registry.clientWindows client.id) x11Window) := by
  obtain ⟨clients, hrefs, heq⟩ := performGroupQualityVerifications_eq registry measure now
  rw [performQualityVerification, heq] at hrun
  rw [heq] at hkeeps
  have hverified : Inv { registry with clients := clients } := h.of_refs_eq hrefs registry.sent
  have hin : client ∈ clients.map WebXClient.ref := hrefs ▸ hclient
  have hcovers := covers_foldlM_verifyClientQuality clients hverified
    (fun c hc => List.mem_map_of_mem hc) hin hkeeps hrun
  exact hcovers

/-! ### The windows -/

/-- **Damage is added**: that of a client's windows stays, and the new one is in it. -/
theorem covers_addWindowDamage (settings : WebXSettings) (h : Inv registry)
    (hclient : client ∈ registry.refs) (damage : WebXWindowDamage) (now : Time) (x11Window : UInt32) :
    (pendingDamage ((registry.addWindowDamage settings damage now).clientWindows client.id)
        x11Window).Covers (pendingDamage (registry.clientWindows client.id) x11Window) ∧
      (damage.x11Window = x11Window →
        (pendingDamage ((registry.addWindowDamage settings damage now).clientWindows client.id)
          x11Window).Covers damage) := by
  obtain ⟨group, -, hgroup⟩ := h.getGroupWithClientId hclient
  have hmap : (registry.addWindowDamage settings damage now).getGroupWithClientId client.id =
      (registry.getGroupWithClientId client.id).map _ :=
    getGroupWithClientId_map fun g => g.membership_addWindowDamage settings.quality damage now
  rw [clientWindows, clientWindows, hmap, hgroup]
  exact group.covers_addWindowDamage settings.quality now damage x11Window

/-- **The windows become those that are visible**: one of them has the damage that it had. -/
theorem pendingDamage_updateVisibleWindows (settings : WebXSettings) (registry : WebXClientRegistry)
    (clientId : UInt32) (now : Time) {windowVisibilities : List WebXWindowVisibility}
    {x11Window : UInt32}
    (hvisible : ∃ visibility ∈ windowVisibilities, visibility.x11Window = x11Window) :
    pendingDamage ((registry.updateVisibleWindows settings windowVisibilities now).clientWindows
        clientId) x11Window = pendingDamage (registry.clientWindows clientId) x11Window := by
  have hmap : (registry.updateVisibleWindows settings windowVisibilities now).getGroupWithClientId
      clientId = (registry.getGroupWithClientId clientId).map _ :=
    getGroupWithClientId_map fun g =>
      g.membership_updateVisibleWindows settings.quality windowVisibilities now
  rw [clientWindows, clientWindows, hmap]
  cases registry.getGroupWithClientId clientId with
  | none => rfl
  | some group => exact group.pendingDamage_updateVisibleWindows settings.quality now hvisible

open RegistryState (recordingHandler)

/-- What is pending for a client stays, or it is given to the update handler for its group. -/
theorem handleGroups_recording (settings : WebXSettings) (clientId : UInt32)
    (answer : List UpdateCall → UpdateCall → Except String WebXWindowImageTransferData) (now : Time)
    (x11Window : UInt32) (groups : List WebXClientGroup) (calls : List UpdateCall) :
    let handled := handleGroups settings (recordingHandler answer) now groups calls
    ∃ appended, handled.2 = calls ++ appended ∧
      ∀ group, groups.find? (fun group => group.contains clientId) = some group →
        ∃ group', handled.1.find? (fun group => group.contains clientId) = some group' ∧
          (pendingDamage group'.windows x11Window = pendingDamage group.windows x11Window ∨
            ∃ call ∈ appended, call.window.id = x11Window ∧
              call.window.damage = pendingDamage group.windows x11Window ∧
              call.clientIndexMask = group.clientIndexMask) := by
  let p (group : WebXClientGroup) : Bool := group.contains clientId
  induction groups generalizing calls with
  | nil => exact ⟨[], (List.append_nil _).symm, fun _ h => nomatch h⟩
  | cons group groups ih =>
      obtain ⟨appended, hcalls, hwindows⟩ := WebXClientGroup.handleWindows_recording settings.quality
        now answer group.clientIndexMask x11Window group.windows calls
      have hcontains := WebXClientGroup.contains_of_membership_eq
        (group.membership_handleWindowGraphicalUpdates settings.quality (recordingHandler answer) now
          calls) clientId
      have hfirst : (group.handleWindowGraphicalUpdates settings.quality (recordingHandler answer)
          now calls).2 = calls ++ appended := hcalls
      obtain ⟨appended', hcalls', hothers⟩ := ih (calls ++ appended)
      rw [handleGroups]
      dsimp only
      rw [hfirst]
      refine ⟨appended ++ appended', hcalls'.trans (List.append_assoc _ _ _), ?_⟩
      intro found hfound
      by_cases hin : group.contains clientId = true
      -- the client is in the first group
      · rw [List.find?_cons_of_pos (p := p) hin, Option.some.injEq] at hfound
        subst hfound
        refine ⟨_, List.find?_cons_of_pos (p := p) (hcontains.trans hin), ?_⟩
        refine hwindows.imp_right ?_
        rintro ⟨call, hcall, hrest⟩
        exact ⟨call, List.mem_append_left _ hcall, hrest⟩
      -- the client is in one of the other groups, and not in the first one afterwards
      · rw [List.find?_cons_of_neg (p := p) hin] at hfound
        obtain ⟨group', hgroup', hpending⟩ := hothers found hfound
        have hout : ¬ p (group.handleWindowGraphicalUpdates settings.quality
            (recordingHandler answer) now calls).1 = true := fun h => hin (hcontains.symm.trans h)
        refine ⟨group', ?_, ?_⟩
        · rw [List.find?_cons_of_neg (p := p) hout]
          exact hgroup'
        · refine hpending.imp_right ?_
          rintro ⟨call, hcall, hrest⟩
          exact ⟨call, List.mem_append_right _ hcall, hrest⟩

/-- The bit of a client is in the mask of its group. -/
theorem Inv.index_mem_mask (h : Inv registry) (hclient : client ∈ registry.refs)
    {group : WebXClientGroup} (hgroup : registry.getGroupWithClientId client.id = some group) :
    client.index &&& group.clientIndexMask = client.index := by
  have hmem : group ∈ registry.groups := List.mem_of_find?_eq_some hgroup
  have hcontains : group.contains client.id = true :=
    List.find?_some (p := (WebXClientGroup.contains · client.id)) hgroup
  have hget := h.groups.getClientById_eq h.members hclient hmem hcontains
  rw [h.groups.mask group hmem]
  refine BitMask.and_eq_left.mpr fun i hi => BitMask.bit_orAll.mpr ⟨client.index, ?_, hi⟩
  exact List.mem_map_of_mem (group.mem_of_getClientById hget).1

end WebXClientRegistry

/-! ## Runs -/

namespace RegistryState

open WebXClientRegistry WebXClientWindow

/-- A damage of a window is pending for a client, or a call of an update handler since a number of
calls was for this window, for clients of which it is one, with that damage. -/
def Accounted (client : WebXClientRef) (x11Window : UInt32) (damage : WebXWindowDamage)
    (since : ℕ) (state : RegistryState) : Prop :=
  (pendingDamage (state.registry.clientWindows client.id) x11Window).Covers damage ∨
    ∃ call ∈ state.calls.drop since, call.window.id = x11Window ∧
      call.window.damage.Covers damage ∧ client.index &&& call.clientIndexMask = client.index

/-- A step in which a client stays registered and a window is visible. -/
structure Watched (settings : WebXSettings) (client : WebXClientRef) (x11Window : UInt32)
    (state : RegistryState) (op : RegistryOp) : Prop where
  registered : client ∈ state.registry.refs
  stays : ∀ state', state.step settings op = .ok state' → client ∈ state'.registry.refs
  visible : ∀ windowVisibilities now, op = .updateVisibleWindows windowVisibilities now →
    ∃ visibility ∈ windowVisibilities, visibility.x11Window = x11Window

/-- In a step, the moves of a client keep the damage of a window. -/
def MovesKeepDamage (settings : WebXSettings) (clientId x11Window : UInt32) (state : RegistryState) :
    RegistryOp → Prop
  | .setClientMaxQuality changedId quality =>
      changedId = clientId → state.registry.MoveKeepsDamage clientId quality x11Window
  | .performQualityVerification measure now =>
      let registry := state.registry.performGroupQualityVerifications measure now
      VerificationKeepsDamage settings clientId x11Window registry.clients registry
  | _ => True

variable {settings : WebXSettings} {client : WebXClientRef} {x11Window : UInt32}
  {damage : WebXWindowDamage} {since : ℕ} {state state' : RegistryState}

/-- A damage stays accounted when what is pending does not become less. -/
theorem Accounted.of_covers (h : Accounted client x11Window damage since state)
    (hcalls : state'.calls = state.calls)
    (hcovers : (pendingDamage (state'.registry.clientWindows client.id) x11Window).Covers
      (pendingDamage (state.registry.clientWindows client.id) x11Window)) :
    Accounted client x11Window damage since state' := by
  rcases h with hpending | hcall
  · exact .inl (hcovers.trans hpending)
  · exact .inr (hcalls.symm ▸ hcall)

/-- A damage stays accounted when the windows of the client stay. -/
theorem Accounted.of_clientWindows_eq (h : Accounted client x11Window damage since state)
    (hcalls : state'.calls = state.calls)
    (hwindows : state'.registry.clientWindows client.id = state.registry.clientWindows client.id) :
    Accounted client x11Window damage since state' :=
  h.of_covers hcalls (hwindows ▸ WebXWindowDamage.covers_refl _)

/-- An update of the windows. -/
theorem Accounted.handleWindowGraphicalUpdates (hinv : state.registry.Inv)
    (hclient : client ∈ state.registry.refs) (hsince : since ≤ state.calls.length)
    (h : Accounted client x11Window damage since state)
    {answer : List UpdateCall → UpdateCall → Except String WebXWindowImageTransferData} {now : Time}
    (hstep : state.step settings (.handleWindowGraphicalUpdates answer now) = .ok state') :
    Accounted client x11Window damage since state' ∧ since ≤ state'.calls.length := by
  cases hstep
  obtain ⟨group, -, hgroup⟩ := hinv.getGroupWithClientId hclient
  obtain ⟨appended, hcalls, hgroups⟩ :=
    handleGroups_recording settings client.id answer now x11Window state.registry.groups state.calls
  obtain ⟨group', hgroup', hpending⟩ := hgroups group hgroup
  have hold : state.registry.clientWindows client.id = group.windows := by
    rw [clientWindows, hgroup]
    rfl
  have hnew : (state.registry.handleWindowGraphicalUpdates settings (recordingHandler answer) now
      state.calls).1.clientWindows client.id = group'.windows := by
    rw [clientWindows, getGroupWithClientId]
    exact congrArg (fun g => (g.map WebXClientGroup.windows).getD []) hgroup'
  have hafter : (state.registry.handleWindowGraphicalUpdates settings (recordingHandler answer) now
      state.calls).2 = state.calls ++ appended := hcalls
  unfold Accounted at h ⊢
  dsimp only
  rw [hnew, hafter, List.drop_append_of_le_length hsince]
  rw [hold] at h
  refine ⟨?_, by simp only [List.length_append]; omega⟩
  -- the damage was pending: it still is, or it is given to the handler; or it had been given before
  rcases h with hcovers | ⟨call, hcall, hrest⟩
  · rcases hpending with hsame | ⟨call, hcall, hid, hdamage, hmask⟩
    · exact .inl (hsame.symm ▸ hcovers)
    · refine .inr ⟨call, List.mem_append_right _ hcall, hid, hdamage.symm ▸ hcovers, ?_⟩
      rw [hmask]
      exact hinv.index_mem_mask hclient hgroup
  · exact .inr ⟨call, List.mem_append_left _ hcall, hrest⟩

/-- A new largest quality. -/
theorem Accounted.setClientMaxQuality (hinv : state.registry.Inv)
    (hclient : client ∈ state.registry.refs) (h : Accounted client x11Window damage since state)
    {clientId : UInt32} {quality : WebXQuality}
    (hmoves : clientId = client.id → state.registry.MoveKeepsDamage client.id quality x11Window) :
    Accounted client x11Window damage since
      { state with registry := state.registry.setClientMaxQuality clientId quality } := by
  cases hfound : state.registry.getClientById clientId with
  | none => rwa [setClientMaxQuality_of_none _ hfound]
  | some c =>
      obtain ⟨hmem, rfl⟩ := ref_mem_refs hfound
      rw [setClientMaxQuality_of_some _ hfound]
      have hkeep (d : WebXClient) : (d.setMaxQuality quality).ref = d.ref := rfl
      have hinv' := hinv.updateClient c.id hkeep
      dsimp only
      split_ifs
      · by_cases hid : c.id = client.id
        -- the client moves itself, else its windows are not touched
        · have href : c.ref = client := hinv.members.eq_of_id_eq hmem hclient hid
          rw [href]
          refine h.of_covers rfl (covers_setClientQuality hinv' ?_ (hmoves hid))
          rwa [refs_updateClient _ _ hkeep]
        · exact h.of_clientWindows_eq rfl (clientWindows_setClientQuality_of_ne hid)
      · exact h.of_clientWindows_eq rfl rfl

/-- The step lemma: a damage stays accounted. -/
theorem Accounted.step (hinv : state.registry.Inv) {op : RegistryOp}
    (hwatched : Watched settings client x11Window state op)
    (hmoves : MovesKeepDamage settings client.id x11Window state op)
    (hsince : since ≤ state.calls.length) (h : Accounted client x11Window damage since state)
    (hstep : state.step settings op = .ok state') :
    Accounted client x11Window damage since state' ∧ since ≤ state'.calls.length := by
  have hclient := hwatched.registered
  have hstays := hwatched.stays state' hstep
  cases op with
  | addClient clientVersion draws now =>
      cases hstep
      refine ⟨?_, hsince⟩
      cases hadd : state.registry.addClient settings clientVersion draws now with
      | none => exact h
      | some result => exact h.of_clientWindows_eq rfl (clientWindows_addClient hclient hadd)
  | removeClient clientId =>
      cases hstep
      exact ⟨h.of_clientWindows_eq rfl (clientWindows_removeClient hinv hstays), hsince⟩
  | setClientMaxQuality clientId quality =>
      cases hstep
      exact ⟨h.setClientMaxQuality hinv hclient hmoves, hsince⟩
  | handleClientPings now =>
      cases hstep
      have hinv' := hinv.of_refs_eq (map_ref_map fun c => c.ref_updatePingStatus now)
        state.registry.sent
      refine ⟨h.of_clientWindows_eq rfl
        (clientWindows_removeTimedOutClients _ hinv' ?_).2, hsince⟩
      -- the pings do not change who is registered
      rw [← refs_sendPings _ now]
      exact hstays
  | onPongReceived clientId now =>
      cases hstep
      exact ⟨h.of_clientWindows_eq rfl rfl, hsince⟩
  | performQualityVerification measure now =>
      obtain ⟨registry', hrun, rfl⟩ := RegistryState.step_performQualityVerification hstep
      exact ⟨h.of_covers rfl (covers_performQualityVerification hinv hclient hmoves hrun), hsince⟩
  | addWindowDamage reported now =>
      cases hstep
      exact ⟨h.of_covers rfl (covers_addWindowDamage settings hinv hclient reported now x11Window).1, hsince⟩
  | updateVisibleWindows windowVisibilities now =>
      cases hstep
      have hpending := pendingDamage_updateVisibleWindows settings state.registry client.id now
        (hwatched.visible windowVisibilities now rfl)
      exact ⟨h.of_covers rfl (hpending ▸ WebXWindowDamage.covers_refl _), hsince⟩
  | handleWindowGraphicalUpdates answer now =>
      exact h.handleWindowGraphicalUpdates hinv hclient hsince hstep
  | disconnectAll =>
      cases hstep
      cases hstays

/-- No damage is lost: in the runs whose steps satisfy a condition, the damage of a window that is
reported while a client is registered is accounted for that client as long as it stays registered and
the window is visible. -/
def NoDamageLost (settings : WebXSettings) (client : WebXClientRef) (x11Window : UInt32)
    (condition : RegistryState → RegistryOp → Prop) : Prop :=
  ∀ (ops later : List RegistryOp) (damage : WebXWindowDamage) (now : Time)
    (before reported after : RegistryState),
    ops.foldlM (step settings) .init = .ok before →
    client ∈ before.registry.refs →
    damage.x11Window = x11Window →
    before.step settings (.addWindowDamage damage now) = .ok reported →
    Run (step settings) (fun state op => Watched settings client x11Window state op ∧
      condition state op) reported later after →
    Accounted client x11Window damage before.calls.length after

/-- **No damage is lost across changes of quality, when each group a client moves to has the damage
of the group it leaves.** -/
theorem noDamageLost (settings : WebXSettings) (client : WebXClientRef) (x11Window : UInt32) :
    NoDamageLost settings client x11Window (MovesKeepDamage settings client.id x11Window) := by
  intro ops later damage now before reported after hbefore hclient hx hreport hrun
  obtain ⟨before', hbefore', hinv⟩ :=
    foldlM_of_invariant (P := fun state : RegistryState => state.registry.Inv)
      (fun s op h => inv_step settings s op h) ops
      (show RegistryState.init.registry.Inv from inv_create)
  cases hbefore.symm.trans hbefore'
  cases hreport
  have hreported := covers_addWindowDamage settings hinv hclient damage now x11Window
  refine (hrun.invariant (P := fun state => state.registry.Inv ∧
    Accounted client x11Window damage before.calls.length state ∧
    before.calls.length ≤ state.calls.length) ?_ ?_).2.1
  · rintro s op t ⟨hs, haccounted, hsince⟩ ⟨hwatched, hmoves⟩ hstep
    obtain ⟨t', hstep', ht⟩ := inv_step settings s op hs
    cases hstep.symm.trans hstep'
    exact ⟨ht, haccounted.step hs hwatched hmoves hsince hstep⟩
  · exact ⟨hinv.addWindowDamage damage now, .inl (hreported.2 hx), le_refl _⟩

/-- The case of a client that follows another one to a group that has the damage too. -/
theorem noDamageLost_follow :
    ∃ after, [.addClient ⟨1, 0, 0⟩ [7] 0, .addClient ⟨1, 0, 0⟩ [8] 0,
        .setClientMaxQuality 8 (WebXSettings.default.quality.max.qualityForIndex 5),
        .addWindowDamage (.ofArea 1 (.ofSize 0 0 10 10) true) 0,
        .setClientMaxQuality 7 (WebXSettings.default.quality.max.qualityForIndex 5)].foldlM
        (step .default) .init = .ok after ∧
      Accounted ⟨7, 1⟩ 1 (.ofArea 1 (.ofSize 0 0 10 10) true) 0 after := by
  refine ⟨_, rfl, noDamageLost .default ⟨7, 1⟩ 1 [.addClient ⟨1, 0, 0⟩ [7] 0,
    .addClient ⟨1, 0, 0⟩ [8] 0,
    .setClientMaxQuality 8 (WebXSettings.default.quality.max.qualityForIndex 5)]
    [.setClientMaxQuality 7 (WebXSettings.default.quality.max.qualityForIndex 5)]
    (.ofArea 1 (.ofSize 0 0 10 10) true) 0 _ _ _ rfl (by decide) rfl rfl (.single ⟨⟨by decide,
      (by rintro _ ⟨⟩; decide), (fun _ _ h => nomatch h)⟩, ?_⟩ rfl)⟩
  -- the group of the other client has the full damage
  intro _ oldGroup _ _
  exact .inl (by decide)

/-- A client that changes its quality loses the damage that waits in its group. -/
theorem not_noDamageLost : ¬ NoDamageLost .default ⟨7, 1⟩ 1 fun _ _ => True := by
  intro h
  have hlost := h [.addClient ⟨1, 0, 0⟩ [7] 0]
    [.setClientMaxQuality 7 (WebXSettings.default.quality.max.qualityForIndex 5)]
    (.ofArea 1 (.ofSize 0 0 10 10) true) 0 _ _ _ rfl (by decide) rfl rfl
    (.single ⟨⟨by decide, (by rintro _ ⟨⟩; decide), (fun _ _ h => nomatch h)⟩, trivial⟩ rfl)
  rcases hlost with (hfull | ⟨hnotFull, -⟩) | ⟨call, hcall, -⟩
  · exact absurd hfull (by decide)
  · exact nomatch hnotFull
  · exact nomatch hcall

end RegistryState

end WebXEngine
