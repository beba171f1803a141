import WebXEngine.Controller.Client
import WebXEngine.Controller.ClientWindow
import WebXEngine.Foundations.BitMasks
import WebXEngine.Foundations.UpdateFirst

/-! # Groups of clients

The clients that get the windows with the same quality. A group keeps the damage of the windows for
all of its clients, and addresses them together by the union of their bits.

* **`WebXClientGroup`** — a group; its clients are pointers to those of the registry.
* **`handleWindowGraphicalUpdates`** — the windows that have something to send are given to a handler,
  which sends it, and their damage is forgotten.
* **`pendingDamage`** — the damage that a group keeps for a window. -/

namespace WebXEngine

/-- A group of clients. -/
structure WebXClientGroup where
  quality : WebXQuality
  clientIndexMask : UInt64
  clients : List WebXClientRef
  windows : List WebXClientWindow
  transferDataPoints : List WebXTransferData
  averageImageMbps : Option ℚ
  deriving DecidableEq, Repr

/-- What an update handler does with a window and the mask of the clients: it changes some state of
its own, and says what was transferred or that it failed. -/
abbrev UpdateHandler (σ : Type*) :=
  WebXClientWindow → UInt64 → σ → Except String WebXWindowImageTransferData × σ

namespace WebXClientGroup

/-- How long data points are kept. -/
def bitrateDataRetentionTime : Time := Time.ofMs 4000

/-- How long a rate has to be measured. -/
def timeForValidImageKbpsMs : ℚ := 2000

/-- A group without clients. -/
def create (quality : WebXQuality) : WebXClientGroup where
  quality := quality
  clientIndexMask := 0
  clients := []
  windows := []
  transferDataPoints := []
  averageImageMbps := none

variable (group : WebXClientGroup)

/-- The client of an identifier. -/
def getClientById (id : UInt32) : Option WebXClientRef := group.clients.find? fun client => client.id = id

/-- Adds a client that is not yet in the group. -/
def addClient (client : WebXClientRef) : WebXClientGroup :=
  if group.getClientById client.id = none then
    { group with
      clients := group.clients ++ [client]
      clientIndexMask := group.clientIndexMask ||| client.index }
  else
    group

/-- Removes a client. -/
def removeClient (clientId : UInt32) : WebXClientGroup :=
  match group.getClientById clientId with
  | some client =>
      { group with
        clients := group.clients.erase client
        clientIndexMask := group.clientIndexMask &&& ~~~client.index }
  | none => group

/-- Tells, against its name, that there is no client. -/
def hasClients : Bool := group.clients.isEmpty

/-- A change of the client window of a window. -/
def updateWindow (x11Window : UInt32) (change : WebXClientWindow → WebXClientWindow) :
    WebXClientGroup :=
  { group with
    windows := updateFirst (fun window => window.id = x11Window) (fun window => some (change window))
      group.windows }

/-- Adds or updates the client window of a visible window. -/
def updateVisibleWindow (settings : WebXQualitySettings) (now : Time) (group : WebXClientGroup)
    (visibility : WebXWindowVisibility) : WebXClientGroup :=
  if group.windows.any fun window => window.id = visibility.x11Window then
    group.updateWindow visibility.x11Window fun window =>
      ((window.setSize visibility.rectangle.size).setCoverage settings visibility.coverage
        now).setShapeMaskChecksum visibility.shapeMaskChecksum
  else
    { group with windows := group.windows ++ [.ofVisibility settings group.quality visibility now] }

/-- The windows become those that are visible. -/
def updateVisibleWindows (settings : WebXQualitySettings)
    (windowVisibilities : List WebXWindowVisibility) (now : Time) : WebXClientGroup :=
  let group : WebXClientGroup :=
    { group with
      windows := group.windows.filter fun window =>
        windowVisibilities.any fun visibility => visibility.x11Window = window.id }
  let group := windowVisibilities.foldl (updateVisibleWindow settings now) group
  { group with windows := group.windows.map fun window => window.updateQuality settings now }

/-- Adds damage to a window, which may not be known yet. -/
def addWindowDamage (settings : WebXQualitySettings) (damage : WebXWindowDamage) (now : Time) :
    WebXClientGroup :=
  if group.windows.any fun window => window.id = damage.x11Window then
    group.updateWindow damage.x11Window fun window => window.addDamage damage
  else
    { group with windows := group.windows ++ [.ofDamage settings group.quality damage now] }

/-- The window has something to send, and it is time to do so. -/
def requiresUpdate (window : WebXClientWindow) (now : Time) : Bool :=
  (window.hasDamage || window.shapeRequiresUpdate) &&
    window.requiresRefresh (now - Time.ofUs window.getCurrentQuality.imageUpdateTimeUs)

/-- One round of the loop over the windows: what the window becomes, what it transferred and the
state of the handler. -/
def handleWindowGraphicalUpdate {σ : Type*} (settings : WebXQualitySettings)
    (updateHandler : UpdateHandler σ) (clientIndexMask : UInt64) (now : Time)
    (window : WebXClientWindow) (state : σ) : WebXClientWindow × ℚ × σ :=
  if requiresUpdate window now then
    let result := updateHandler window clientIndexMask state
    let handled : WebXClientWindow × ℚ :=
      match result.1 with
      | .ok transferData =>
          (window.onImageTransfer settings transferData now, transferData.imageSizeKB)
      | .error _ => (window, 0)
    -- the damage is forgotten whatever the result was
    (handled.1.resetDamage.resetShapeMaskChecksum, handled.2, result.2)
  else
    (window, 0, state)

/-- The loop over the windows. -/
def handleWindows {σ : Type*} (settings : WebXQualitySettings) (updateHandler : UpdateHandler σ)
    (clientIndexMask : UInt64) (now : Time) :
    List WebXClientWindow → σ → List WebXClientWindow × List ℚ × σ
  | [], state => ([], [], state)
  | window :: windows, state =>
      let first := handleWindowGraphicalUpdate settings updateHandler clientIndexMask now window state
      let others := handleWindows settings updateHandler clientIndexMask now windows first.2.2
      (first.1 :: others.1, first.2.1 :: others.2.1, others.2.2)

/-- The rate of the images of the last seconds. -/
def calculateImageMbps (now : Time) : WebXClientGroup :=
  let transferDataPoints := group.transferDataPoints.filter fun dataPoint =>
    ¬ now - dataPoint.timestamp > bitrateDataRetentionTime
  let averageImageMbps : Option ℚ :=
    match transferDataPoints with
    | first :: _ =>
        let duration := now - first.timestamp
        if duration.toFloatMs > timeForValidImageKbpsMs then
          some (WebXTransferData.imageMbps transferDataPoints duration)
        else
          none
    | [] => some 0
  { group with transferDataPoints := transferDataPoints, averageImageMbps := averageImageMbps }

/-- The windows that have something to send are given to the handler. -/
def handleWindowGraphicalUpdates {σ : Type*} (settings : WebXQualitySettings)
    (updateHandler : UpdateHandler σ) (now : Time) (state : σ) : WebXClientGroup × σ :=
  let handled := handleWindows settings updateHandler group.clientIndexMask now group.windows state
  let totalImageSizeKB := WebXTransferData.totalKB handled.2.1
  let group : WebXClientGroup :=
    { group with
      windows := handled.1
      transferDataPoints :=
        if totalImageSizeKB > 0 then group.transferDataPoints ++ [⟨now, totalImageSizeKB⟩]
        else group.transferDataPoints }
  (group.calculateImageMbps now, handled.2.2)

/-- A window that has something to send loses its damage, and the state is that of the handler. -/
theorem handleWindowGraphicalUpdate_of_requiresUpdate {σ : Type*} (settings : WebXQualitySettings)
    (updateHandler : UpdateHandler σ) (clientIndexMask : UInt64) {now : Time}
    {window : WebXClientWindow} (state : σ) (h : requiresUpdate window now = true) :
    (handleWindowGraphicalUpdate settings updateHandler clientIndexMask now window state).1.damage =
        window.damage.reset ∧
      (handleWindowGraphicalUpdate settings updateHandler clientIndexMask now window state).2.2 =
        (updateHandler window clientIndexMask state).2 := by
  rw [handleWindowGraphicalUpdate, if_pos h]
  refine ⟨?_, rfl⟩
  dsimp only [WebXClientWindow.resetShapeMaskChecksum, WebXClientWindow.resetDamage]
  cases (updateHandler window clientIndexMask state).1 with
  | ok transferData =>
      exact congrArg WebXWindowDamage.reset
        (window.damage_onImageTransfer settings now transferData)
  | error message => rfl

/-- A window that has nothing to send stays as it is. -/
theorem handleWindowGraphicalUpdate_of_not {σ : Type*} {settings : WebXQualitySettings}
    {updateHandler : UpdateHandler σ} {clientIndexMask : UInt64} {now : Time}
    {window : WebXClientWindow} {state : σ} (h : requiresUpdate window now = false) :
    handleWindowGraphicalUpdate settings updateHandler clientIndexMask now window state =
      (window, 0, state) := by
  rw [handleWindowGraphicalUpdate, h, if_neg Bool.false_ne_true]

/-! ## Members -/

/-- The client that is found has the identifier that was looked for. -/
theorem mem_of_getClientById {clientId : UInt32} {client : WebXClientRef}
    (h : group.getClientById clientId = some client) :
    client ∈ group.clients ∧ client.id = clientId := by
  rw [getClientById] at h
  exact ⟨List.mem_of_find?_eq_some h, by simpa using List.find?_some h⟩

/-- The group contains a client. -/
def contains (clientId : UInt32) : Bool := (group.getClientById clientId).isSome

/-- A group contains the identifiers of its clients. -/
theorem contains_iff {clientId : UInt32} :
    group.contains clientId = true ↔ ∃ client ∈ group.clients, client.id = clientId := by
  rw [contains, getClientById, List.find?_isSome]
  simp

/-- The client that joins. -/
theorem contains_addClient_self (client : WebXClientRef) :
    (group.addClient client).contains client.id = true := by
  rw [contains_iff, addClient]
  split_ifs with h
  · exact ⟨client, List.mem_append_right _ (List.mem_singleton_self _), rfl⟩
  · obtain ⟨member, hmember⟩ := Option.ne_none_iff_exists'.mp h
    obtain ⟨hmem, hid⟩ := group.mem_of_getClientById hmember
    exact ⟨member, hmem, hid⟩

/-- Another client joins. -/
theorem contains_addClient {client : WebXClientRef} {clientId : UInt32} (hne : client.id ≠ clientId) :
    (group.addClient client).contains clientId = group.contains clientId := by
  rw [Bool.eq_iff_iff, contains_iff, contains_iff, addClient]
  split_ifs
  · simp [or_and_right, exists_or, hne]
  · rfl

/-- Another client leaves. -/
theorem contains_removeClient {other clientId : UInt32} (hne : other ≠ clientId) :
    (group.removeClient other).contains clientId = group.contains clientId := by
  rw [Bool.eq_iff_iff, contains_iff, contains_iff, removeClient]
  cases hget : group.getClientById other with
  | none => rfl
  | some client =>
      have hid := (group.mem_of_getClientById hget).2
      constructor
      · rintro ⟨member, hmember, hmemberId⟩
        exact ⟨member, List.mem_of_mem_erase hmember, hmemberId⟩
      · rintro ⟨member, hmember, hmemberId⟩
        have hmemberNe : member ≠ client := by
          rintro rfl
          exact hne (hid.symm.trans hmemberId)
        exact ⟨member, (List.mem_erase_of_ne hmemberNe).mpr hmember, hmemberId⟩

/-- A group without clients contains none. -/
theorem contains_of_hasClients (h : group.hasClients = true) (clientId : UInt32) :
    group.contains clientId = false := by
  rw [hasClients, List.isEmpty_iff] at h
  rw [contains, getClientById, h]
  rfl

/-- What a group is to its clients: its quality, its mask and the clients themselves. -/
def membership : ℕ × UInt64 × List WebXClientRef :=
  (group.quality.index, group.clientIndexMask, group.clients)

/-- The clients of a group are part of what it is to them. -/
theorem contains_of_membership_eq {group group' : WebXClientGroup}
    (h : group'.membership = group.membership) (clientId : UInt32) :
    group'.contains clientId = group.contains clientId := by
  have hclients : group'.clients = group.clients := congrArg (·.2.2) h
  rw [contains, contains, getClientById, getClientById, hclients]

@[simp] theorem membership_addWindowDamage (settings : WebXQualitySettings)
    (damage : WebXWindowDamage) (now : Time) :
    (group.addWindowDamage settings damage now).membership = group.membership := by
  unfold addWindowDamage
  split <;> rfl

@[simp] theorem membership_updateVisibleWindow (settings : WebXQualitySettings) (now : Time)
    (visibility : WebXWindowVisibility) :
    (updateVisibleWindow settings now group visibility).membership = group.membership := by
  unfold updateVisibleWindow
  split <;> rfl

@[simp] theorem membership_updateVisibleWindows (settings : WebXQualitySettings)
    (windowVisibilities : List WebXWindowVisibility) (now : Time) :
    (group.updateVisibleWindows settings windowVisibilities now).membership = group.membership := by
  have hfoldl (visibilities : List WebXWindowVisibility) (g : WebXClientGroup) :
      (visibilities.foldl (updateVisibleWindow settings now) g).membership = g.membership := by
    induction visibilities generalizing g with
    | nil => rfl
    | cons visibility visibilities ih =>
        rw [List.foldl_cons, ih, membership_updateVisibleWindow]
  exact hfoldl windowVisibilities _

@[simp] theorem quality_addWindowDamage (settings : WebXQualitySettings)
    (damage : WebXWindowDamage) (now : Time) :
    (group.addWindowDamage settings damage now).quality = group.quality := by
  unfold addWindowDamage
  split <;> rfl

@[simp] theorem quality_updateVisibleWindow (settings : WebXQualitySettings) (now : Time)
    (visibility : WebXWindowVisibility) :
    (updateVisibleWindow settings now group visibility).quality = group.quality := by
  unfold updateVisibleWindow
  split <;> rfl

@[simp] theorem quality_updateVisibleWindows (settings : WebXQualitySettings)
    (windowVisibilities : List WebXWindowVisibility) (now : Time) :
    (group.updateVisibleWindows settings windowVisibilities now).quality = group.quality := by
  have hfoldl (visibilities : List WebXWindowVisibility) (g : WebXClientGroup) :
      (visibilities.foldl (updateVisibleWindow settings now) g).quality = g.quality := by
    induction visibilities generalizing g with
    | nil => rfl
    | cons visibility visibilities ih =>
        rw [List.foldl_cons, ih, quality_updateVisibleWindow]
  exact hfoldl windowVisibilities _

@[simp] theorem membership_handleWindowGraphicalUpdates {σ : Type*} (settings : WebXQualitySettings)
    (updateHandler : UpdateHandler σ) (now : Time) (state : σ) :
    (group.handleWindowGraphicalUpdates settings updateHandler now state).1.membership =
      group.membership := rfl

@[simp] theorem quality_addClient (client : WebXClientRef) :
    (group.addClient client).quality = group.quality := by
  unfold addClient
  split <;> rfl

@[simp] theorem windows_addClient (client : WebXClientRef) :
    (group.addClient client).windows = group.windows := by
  unfold addClient
  split <;> rfl

@[simp] theorem quality_removeClient (clientId : UInt32) :
    (group.removeClient clientId).quality = group.quality := by
  unfold removeClient
  cases group.getClientById clientId <;> rfl

@[simp] theorem windows_removeClient (clientId : UInt32) :
    (group.removeClient clientId).windows = group.windows := by
  unfold removeClient
  cases group.getClientById clientId <;> rfl

end WebXClientGroup

end WebXEngine
