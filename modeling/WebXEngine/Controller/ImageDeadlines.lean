import WebXEngine.Controller.ImageRates

/-! # Damaged windows do not wait

A damaged window of a group is updated by the first pass that comes after its interval, as long as the
window stays in the group.

* **`handleWindows_spec`** — a pass updates the windows that are due and keeps the others.
* **`waits_call`** — no other call makes a damaged window wait longer.
* **`updated_in_time`** — a damaged window is updated by the first pass after its interval. -/

namespace WebXEngine

/-- Damage is not lost when some is added. -/
theorem WebXWindowDamage.hasDamage_add {damage : WebXWindowDamage} (h : damage.hasDamage = true)
    (windowDamage : WebXWindowDamage) : (damage.add windowDamage).hasDamage = true := by
  have hfoldl (areas : List WebXRectangle) : ∀ {damage : WebXWindowDamage},
      damage.hasDamage = true → (areas.foldl addDamageRecange damage).hasDamage = true := by
    induction areas with
    | nil => exact fun h => h
    | cons area areas ih =>
        intro damage h
        refine ih ?_
        rw [addDamageRecange]
        split_ifs
        · exact h
        · simp [hasDamage]
  rw [add]
  split_ifs
  · exact h
  · simp [hasDamage]
  · exact hfoldl _ h

namespace WebXClientGroup

variable {settings : WebXQualitySettings} {group group' group'' : WebXClientGroup} {now : Time}
  {answer : List WindowUpdate → WebXClientWindow → UInt64 → Except String WebXWindowImageTransferData}

/-- The windows of a group are kept, and the damaged ones stay damaged. -/
def Keeps (group group' : WebXClientGroup) : Prop :=
  ∀ window ∈ group.windows, ∃ window' ∈ group'.windows, window'.timing = window.timing ∧
    (window.hasDamage = true → window'.hasDamage = true)

/-- What two steps keep is kept over both. -/
theorem Keeps.trans (h : Keeps group group') (h' : Keeps group' group'') : Keeps group group'' := by
  intro window hwindow
  obtain ⟨next, hnext, htiming, hdamage⟩ := h window hwindow
  obtain ⟨last, hlast, htiming', hdamage'⟩ := h' next hnext
  exact ⟨last, hlast, htiming'.trans htiming, fun hbefore => hdamage' (hdamage hbefore)⟩

/-- A change of a window that leaves its times and its damage keeps the timing of the group. -/
theorem keeps_updateWindow {x11Window : UInt32} {change : WebXClientWindow → WebXClientWindow}
    (htiming : ∀ window, (change window).timing = window.timing)
    (hdamage : ∀ window, window.hasDamage = true → (change window).hasDamage = true) :
    Keeps group (group.updateWindow x11Window change) := by
  have hkeeps (p : WebXClientWindow → Bool) (windows : List WebXClientWindow) : ∀ window ∈ windows,
      ∃ window' ∈ updateFirst p (fun window => some (change window)) windows,
        window'.timing = window.timing ∧ (window.hasDamage = true → window'.hasDamage = true) := by
    induction windows with
    | nil => exact fun _ hwindow => absurd hwindow List.not_mem_nil
    | cons first windows ih =>
        rw [List.forall_mem_cons]
        by_cases hfirst : p first = true
        · rw [updateFirst_cons_of_pos _ _ hfirst]
          exact ⟨⟨change first, List.mem_cons_self, htiming first, hdamage first⟩,
            fun window hwindow => ⟨window, List.mem_cons_of_mem _ hwindow, rfl, id⟩⟩
        · rw [updateFirst_cons_of_neg _ _ hfirst]
          refine ⟨⟨first, List.mem_cons_self, rfl, id⟩, fun window hwindow => ?_⟩
          obtain ⟨window', hwindow', hkept⟩ := ih window hwindow
          exact ⟨window', List.mem_cons_of_mem _ hwindow', hkept⟩
  exact hkeeps _ group.windows

/-- Damage that is added to a window keeps its times, and the damage it has. -/
theorem keeps_addWindowDamage (damage : WebXWindowDamage) :
    Keeps group (group.addWindowDamage settings damage now) := by
  unfold addWindowDamage
  split_ifs
  · exact keeps_updateWindow (fun window => window.timing_addDamage damage)
      fun window hdamage => WebXWindowDamage.hasDamage_add hdamage damage
  · exact fun window hwindow => ⟨window, List.mem_append_left _ hwindow, rfl, id⟩

/-- The visibility of a window changes neither its times nor its damage. -/
theorem keeps_updateVisibleWindow (visibility : WebXWindowVisibility) :
    Keeps group (updateVisibleWindow settings now group visibility) := by
  unfold updateVisibleWindow
  split_ifs
  · refine keeps_updateWindow (fun window => by simp) fun window hdamage => ?_
    have hsame : (window.setSize visibility.rectangle.size).damage = window.damage :=
      window.damage_setSize _
    exact (congrArg WebXWindowDamage.hasDamage hsame).trans hdamage
  · exact fun window hwindow => ⟨window, List.mem_append_left _ hwindow, rfl, id⟩

/-- The visibilities of all windows change neither times nor damage. -/
theorem keeps_foldl_updateVisibleWindow (visibilities : List WebXWindowVisibility) :
    ∀ {group : WebXClientGroup},
      Keeps group (visibilities.foldl (updateVisibleWindow settings now) group) := by
  induction visibilities with
  | nil => exact fun window hwindow => ⟨window, hwindow, rfl, id⟩
  | cons visibility visibilities ih => exact (keeps_updateVisibleWindow visibility).trans ih

/-- A window that is still visible is kept. -/
theorem exists_updateVisibleWindows {window : WebXClientWindow} (hwindow : window ∈ group.windows)
    {windowVisibilities : List WebXWindowVisibility}
    (hvisible : ∃ visibility ∈ windowVisibilities, visibility.x11Window = window.id) :
    ∃ window' ∈ (group.updateVisibleWindows settings windowVisibilities now).windows,
      window'.timing = window.timing ∧ (window.hasDamage = true → window'.hasDamage = true) := by
  obtain ⟨visibility, hmem, hid⟩ := hvisible
  have hstill : window ∈ (group.stillVisible windowVisibilities).windows :=
    List.mem_filter.mpr ⟨hwindow, List.any_eq_true.mpr ⟨visibility, hmem, decide_eq_true hid⟩⟩
  have hkeeps : Keeps (group.stillVisible windowVisibilities) (windowVisibilities.foldl
      (updateVisibleWindow settings now) (group.stillVisible windowVisibilities)) :=
    keeps_foldl_updateVisibleWindow windowVisibilities
  obtain ⟨next, hnext, htiming, hdamage⟩ := hkeeps window hstill
  refine ⟨next.updateQuality settings now, List.mem_map_of_mem hnext, ?_, fun hbefore => ?_⟩
  · rw [WebXClientWindow.timing_updateQuality, htiming]
  · rw [WebXClientWindow.hasDamage, WebXClientWindow.damage_updateQuality]
    exact hdamage hbefore

/-- Only visible windows are left. -/
theorem visible_of_mem_updateVisibleWindows {window : WebXClientWindow}
    {windowVisibilities : List WebXWindowVisibility}
    (hwindow : window ∈ (group.updateVisibleWindows settings windowVisibilities now).windows) :
    ∃ visibility ∈ windowVisibilities, visibility.x11Window = window.id := by
  have hfoldl (visibilities : List WebXWindowVisibility) : ∀ {group : WebXClientGroup},
      ∀ timing ∈ (visibilities.foldl (updateVisibleWindow settings now) group).timings,
        (∃ old ∈ group.timings, old.id = timing.id) ∨
          ∃ visibility ∈ visibilities, visibility.x11Window = timing.id := by
    induction visibilities with
    | nil => exact fun timing htiming => .inl ⟨timing, htiming, rfl⟩
    | cons visibility visibilities ih =>
        intro group timing htiming
        rcases ih timing htiming with ⟨old, hold, hid⟩ | ⟨other, hother, hid⟩
        · have hadd : MayAdd visibility.x11Window now group
              (updateVisibleWindow settings now group visibility) :=
            mayAdd_updateVisibleWindow visibility
          obtain ⟨-, hsame | ⟨hnew, -⟩⟩ := hadd
          · exact .inl ⟨old, hsame ▸ hold, hid⟩
          · rw [hnew, List.mem_append, List.mem_singleton] at hold
            rcases hold with hold | rfl
            · exact .inl ⟨old, hold, hid⟩
            · exact .inr ⟨visibility, List.mem_cons_self, hid⟩
        · exact .inr ⟨other, List.mem_cons_of_mem _ hother, hid⟩
  obtain ⟨before, hbefore, rfl⟩ := List.mem_map.mp hwindow
  rw [WebXClientWindow.id_updateQuality]
  rcases hfoldl windowVisibilities before.timing (List.mem_map_of_mem hbefore) with
    ⟨old, hold, hid⟩ | hvisible
  · -- a window that was there is still visible
    obtain ⟨still, hstill, rfl⟩ := List.mem_map.mp hold
    obtain ⟨visibility, hmem, hany⟩ := List.any_eq_true.mp (List.mem_filter.mp hstill).2
    exact ⟨visibility, hmem, (of_decide_eq_true hany).trans hid⟩
  · exact hvisible

/-- **What a pass leaves of the windows**: those whose update is due are updated, the others are kept. -/
theorem handleWindows_spec (settings : WebXQualitySettings)
    (answer : List WindowUpdate → WebXClientWindow → UInt64 → Except String WebXWindowImageTransferData)
    (clientIndexMask : UInt64) (now : Time) (windows : List WebXClientWindow) :
    ∀ updates, ∃ appended,
      (handleWindows settings (recordUpdate answer now) clientIndexMask now windows updates).2.2 =
        updates ++ appended ∧
      ∀ window ∈ windows, (∃ update ∈ appended, update.window = window) ∨
        requiresUpdate window now = false ∧
          window ∈ (handleWindows settings (recordUpdate answer now) clientIndexMask now windows
            updates).1 := by
  induction windows with
  | nil => exact fun updates => ⟨[], (List.append_nil updates).symm,
      fun _ hwindow => absurd hwindow List.not_mem_nil⟩
  | cons first windows ih =>
      intro updates
      obtain ⟨appended, hupdates, hothers⟩ := ih
        (handleWindowGraphicalUpdate settings (recordUpdate answer now) clientIndexMask now first
          updates).2.2
      rw [handleWindows]
      dsimp only
      rw [hupdates]
      obtain ⟨hnot, hwindow, hsame⟩ | ⟨-, update, hwindow, -, -, -, hnew⟩ :=
        handleWindowGraphicalUpdate_cases settings answer clientIndexMask now first updates
      · refine ⟨appended, by rw [hsame], ?_⟩
        rw [List.forall_mem_cons, hwindow]
        exact ⟨.inr ⟨hnot, List.mem_cons_self⟩, fun window hmem =>
          (hothers window hmem).imp_right fun hkept => ⟨hkept.1, List.mem_cons_of_mem _ hkept.2⟩⟩
      · refine ⟨update :: appended, by rw [hnew, List.append_assoc, List.singleton_append], ?_⟩
        rw [List.forall_mem_cons]
        refine ⟨.inl ⟨update, List.mem_cons_self, hwindow⟩, fun window hmem => ?_⟩
        rcases hothers window hmem with ⟨other, hother, heq⟩ | ⟨hnot, hkept⟩
        · exact .inl ⟨other, List.mem_cons_of_mem _ hother, heq⟩
        · exact .inr ⟨hnot, List.mem_cons_of_mem _ hkept⟩

end WebXClientGroup

namespace TimedRegistry

open WebXClientGroup WebXClientRegistry

variable {settings : WebXSettings} {start state state' : TimedRegistry} {now finished since : Time}
  {key : UInt32 × ℕ}
  {answer : List WindowUpdate → WebXClientWindow → UInt64 → Except String WebXWindowImageTransferData}

/-- The groups are handled one after the other: a window has one of the updates that are appended, or
it was not due and stays as it was. -/
theorem handleGroups_spec (settings : WebXSettings)
    (answer : List WindowUpdate → WebXClientWindow → UInt64 → Except String WebXWindowImageTransferData)
    (now : Time) (groups : List WebXClientGroup) :
    ∀ updates, ∃ appended,
      (handleGroups settings (recordUpdate answer now) now groups updates).2 = updates ++ appended ∧
      ∀ group ∈ groups, ∀ window ∈ group.windows, (∃ update ∈ appended, update.window = window) ∨
        requiresUpdate window now = false ∧
          ∃ group' ∈ (handleGroups settings (recordUpdate answer now) now groups updates).1,
            window ∈ group'.windows := by
  induction groups with
  | nil => exact fun updates => ⟨[], (List.append_nil updates).symm,
      fun _ hgroup => absurd hgroup List.not_mem_nil⟩
  | cons first groups ih =>
      intro updates
      obtain ⟨firstAppended, hfirst, hwindows⟩ := handleWindows_spec settings.quality answer
        first.clientIndexMask now first.windows updates
      obtain ⟨appended, hupdates, hothers⟩ := ih
        (first.handleWindowGraphicalUpdates settings.quality (recordUpdate answer now) now updates).2
      rw [handleGroups]
      dsimp only
      rw [hupdates]
      refine ⟨firstAppended ++ appended, ?_, ?_⟩
      · rw [← List.append_assoc, ← hfirst]
        rfl
      · rw [List.forall_mem_cons]
        refine ⟨fun window hwindow => ?_, fun group hgroup window hwindow => ?_⟩
        · rcases hwindows window hwindow with ⟨update, hupdate, heq⟩ | ⟨hnot, hkept⟩
          · exact .inl ⟨update, List.mem_append_left _ hupdate, heq⟩
          · exact .inr ⟨hnot, _, List.mem_cons_self, hkept⟩
        · rcases hothers group hgroup window hwindow with ⟨update, hupdate, heq⟩ |
            ⟨hnot, group', hgroup', hkept⟩
          · exact .inl ⟨update, List.mem_append_right _ hupdate, heq⟩
          · exact .inr ⟨hnot, group', List.mem_cons_of_mem _ hgroup', hkept⟩

/-- A group has the window. -/
def HasWindow (state : TimedRegistry) (key : UInt32 × ℕ) : Prop :=
  ∃ group ∈ state.registry.groups, ∃ window ∈ group.windows, window.key = key

/-- A group has the window, which is damaged and had its last image before a time. -/
def Waits (state : TimedRegistry) (key : UInt32 × ℕ) (since : Time) : Prop :=
  ∃ group ∈ state.registry.groups, ∃ window ∈ group.windows,
    window.key = key ∧ window.imageRefreshTime ≤ since ∧ window.hasDamage = true

/-- A window that is kept goes on waiting. -/
theorem waits_of_timing {group : WebXClientGroup} (hgroup : group ∈ state.registry.groups)
    {window window' : WebXClientWindow} (hwindow' : window' ∈ group.windows)
    (htiming : window'.timing = window.timing) (hkey : window.key = key)
    (hlast : window.imageRefreshTime ≤ since) (hdamage : window'.hasDamage = true) :
    state.Waits key since := by
  refine ⟨group, hgroup, window', hwindow', ?_, ?_, hdamage⟩
  · rw [← hkey, WebXClientWindow.key, htiming]
    rfl
  · have hsame : window'.imageRefreshTime = window.imageRefreshTime :=
      congrArg WindowTiming.imageRefreshTime htiming
    rw [hsame]
    exact hlast

/-- The windows of all groups are different. -/
theorem Inv.window_unique (h : state.Inv) {group group' : WebXClientGroup}
    (hgroup : group ∈ state.registry.groups) (hgroup' : group' ∈ state.registry.groups)
    {window window' : WebXClientWindow} (hwindow : window ∈ group.windows)
    (hwindow' : window' ∈ group'.windows) (hkey : window.key = window'.key) : window = window' := by
  have hnodup : ((state.registry.groups.flatMap WebXClientGroup.windows).map
      WebXClientWindow.key).Nodup := by
    have hkeys := h.timely_flatMap.nodup
    rw [List.map_flatMap] at hkeys ⊢
    have hsame (group : WebXClientGroup) : group.timings.map WindowTiming.key =
        group.windows.map WebXClientWindow.key := List.map_map
    simpa only [hsame] using hkeys
  exact List.inj_on_of_nodup_map hnodup (List.mem_flatMap.mpr ⟨group, hgroup, hwindow⟩)
    (List.mem_flatMap.mpr ⟨group', hgroup', hwindow'⟩) hkey

/-- The windows of a group are those of one of some groups, if it has any. -/
def HasWindowsOf (groups : List WebXClientGroup) (group : WebXClientGroup) : Prop :=
  group.windows = [] ∨ ∃ old ∈ groups, old.windows = group.windows

/-- A group has no windows, or those that were there at the beginning. -/
theorem groupProperty_hasWindowsOf (groups : List WebXClientGroup) :
    GroupProperty (HasWindowsOf groups) where
  create := fun _ => .inl rfl
  addClient := fun group client h => by
    rw [HasWindowsOf, windows_addClient]
    exact h
  removeClient := fun group clientId h => by
    rw [HasWindowsOf, windows_removeClient]
    exact h

/-- A window that is still in some group after the clients have moved goes on waiting. -/
theorem Inv.waits_of_hasWindowsOf (h : state.Inv) (hwaits : state.Waits key since)
    (hgroups : ∀ group ∈ state'.registry.groups, HasWindowsOf state.registry.groups group)
    (hstill : state'.HasWindow key) : state'.Waits key since := by
  obtain ⟨group, hgroup, window, hwindow, hkey, hlast, hdamage⟩ := hwaits
  obtain ⟨group', hgroup', window', hwindow', hkey'⟩ := hstill
  rcases hgroups group' hgroup' with hnone | ⟨old, hold, hsame⟩
  · rw [hnone] at hwindow'
    exact absurd hwindow' List.not_mem_nil
  · obtain rfl := h.window_unique hold hgroup (hsame ▸ hwindow') hwindow (hkey'.trans hkey.symm)
    exact ⟨group', hgroup', window', hwindow', hkey, hlast, hdamage⟩

/-- **A call that is not a pass** leaves a window waiting, as long as some group has the window. -/
theorem Inv.waits_call (h : state.Inv) (hwaits : state.Waits key since) {op : RegistryOp}
    (hop : op.ReadsClock now)
    (hstep : state.step settings (.call op now) = .ok state') (hstill : state'.HasWindow key) :
    state'.Waits key since := by
  obtain ⟨called, hcalled, hstep⟩ := exists_of_bind_eq_ok hstep
  cases hstep
  have hQ := groupProperty_hasWindowsOf state.registry.groups
  have hsame : ∀ group ∈ state.registry.groups, HasWindowsOf state.registry.groups group :=
    fun group hgroup => .inr ⟨group, hgroup, rfl⟩
  cases op with
  | addClient clientVersion draws time =>
      cases hcalled
      refine h.waits_of_hasWindowsOf hwaits ?_ hstill
      cases hadd : state.registry.addClient settings clientVersion draws time with
      | none => exact hsame
      | some result => exact hQ.addClientToRegistry hsame hadd
  | removeClient clientId =>
      cases hcalled
      exact h.waits_of_hasWindowsOf hwaits (hQ.removeClientOfRegistry hsame) hstill
  | setClientMaxQuality clientId quality =>
      cases hcalled
      exact h.waits_of_hasWindowsOf hwaits (hQ.setClientMaxQuality hsame) hstill
  | handleClientPings time =>
      cases hcalled
      exact h.waits_of_hasWindowsOf hwaits (hQ.removeTimedOutClients _ hsame) hstill
  | onPongReceived clientId time =>
      cases hcalled
      exact hwaits
  | performQualityVerification measure time =>
      obtain ⟨registry', hrun, rfl⟩ := RegistryState.step_performQualityVerification hcalled
      exact h.waits_of_hasWindowsOf hwaits (hQ.performQualityVerification hsame hrun) hstill
  | addWindowDamage damage time =>
      cases hcalled
      obtain ⟨group, hgroup, window, hwindow, hkey, hlast, hdamage⟩ := hwaits
      obtain ⟨window', hwindow', htiming, hkept⟩ := keeps_addWindowDamage damage window hwindow
      exact waits_of_timing (List.mem_map_of_mem hgroup) hwindow' htiming hkey hlast (hkept hdamage)
  | updateVisibleWindows windowVisibilities time =>
      cases hcalled
      obtain ⟨group, hgroup, window, hwindow, hkey, hlast, hdamage⟩ := hwaits
      -- the window is one of those that are visible
      obtain ⟨group', hgroup', other, hother, hotherKey⟩ := hstill
      obtain ⟨old, hold, rfl⟩ := List.mem_map.mp hgroup'
      obtain ⟨visibility, hvisibility, hid⟩ := visible_of_mem_updateVisibleWindows hother
      have hvisible : visibility.x11Window = window.id :=
        hid.trans (congrArg Prod.fst (hotherKey.trans hkey.symm))
      obtain ⟨window', hwindow', htiming, hkept⟩ :=
        exists_updateVisibleWindows hwindow ⟨visibility, hvisibility, hvisible⟩
      exact waits_of_timing (List.mem_map_of_mem hgroup) hwindow' htiming hkey hlast (hkept hdamage)
  | handleWindowGraphicalUpdates answer time => exact hop.elim
  | disconnectAll =>
      cases hcalled
      obtain ⟨group', hgroup', -⟩ := hstill
      exact absurd hgroup' List.not_mem_nil

/-- **A pass** updates the window or leaves it waiting; it updates it when its interval is over. -/
theorem waits_pass (hwaits : state.Waits key since)
    (hstep : state.step settings (.handleWindowGraphicalUpdates answer now finished) = .ok state') :
    ∃ appended, state'.updates = state.updates ++ appended ∧
      ((∃ update ∈ appended, update.window.key = key) ∨ state'.Waits key since ∧
        ∃ group ∈ state.registry.groups, ∃ window ∈ group.windows,
          window.key = key ∧ now ≤ since + window.imageInterval) := by
  cases hstep
  obtain ⟨group, hgroup, window, hwindow, hkey, hlast, hdamage⟩ := hwaits
  obtain ⟨appended, hupdates, hwindows⟩ :=
    handleGroups_spec settings answer now state.registry.groups state.updates
  refine ⟨appended, hupdates, ?_⟩
  rcases hwindows group hgroup window hwindow with ⟨update, hupdate, rfl⟩ |
    ⟨hnot, group', hgroup', hkept⟩
  · exact .inl ⟨update, hupdate, hkey⟩
  · refine .inr ⟨⟨group', hgroup', window, hkept, hkey, hlast, hdamage⟩,
      group, hgroup, window, hwindow, hkey, ?_⟩
    -- the window is damaged, and it was not time to send it
    rw [requiresUpdate, hdamage, Bool.true_or, Bool.true_and] at hnot
    have hrecent : ¬ window.imageRefreshTime < now - window.imageInterval := of_decide_eq_false hnot
    have hlate := sub_le_iff_le_add.mp (not_lt.mp hrecent)
    exact hlate.trans (Int.add_le_add_right hlast _)

/-- Every call of a run leaves the window in some group. -/
def KeepsWindow (settings : WebXSettings) (key : UInt32 × ℕ) (state : TimedRegistry)
    (action : TimedAction) : Prop :=
  ∀ state', state.step settings action = .ok state' → state'.HasWindow key

/-- Since some state, the window was updated, or it is still waiting. -/
def Progress (start : TimedRegistry) (key : UInt32 × ℕ) (since : Time) (state : TimedRegistry) : Prop :=
  ∃ appended, state.updates = start.updates ++ appended ∧
    ((∃ update ∈ appended, update.window.key = key) ∨ state.Waits key since)

/-- More updates. -/
theorem Progress.more {appended : List WindowUpdate} (h : start.Progress key since state)
    (hupdates : state'.updates = state.updates ++ appended)
    (hwaits : state.Waits key since →
      (∃ update ∈ appended, update.window.key = key) ∨ state'.Waits key since) :
    start.Progress key since state' := by
  obtain ⟨earlier, hearlier, hcases⟩ := h
  refine ⟨earlier ++ appended, by rw [hupdates, hearlier, List.append_assoc], ?_⟩
  rcases hcases with ⟨update, hupdate, hkey⟩ | hbefore
  · exact .inl ⟨update, List.mem_append_left _ hupdate, hkey⟩
  · rcases hwaits hbefore with ⟨update, hupdate, hkey⟩ | hafter
    · exact .inl ⟨update, List.mem_append_right _ hupdate, hkey⟩
    · exact .inr hafter

/-- **A step keeps the deadline**: the window is updated, or what is due is as due as before. -/
theorem Progress.step (h : start.Progress key since state) (hinv : state.Inv) {action : TimedAction}
    (hallowed : state.Allowed action) (hkeeps : state.KeepsWindow settings key action)
    (hstep : state.step settings action = .ok state') : start.Progress key since state' := by
  cases action with
  | call op now =>
      have hupdates : state'.updates = state.updates ++ [] := by
        obtain ⟨called, -, hstep⟩ := exists_of_bind_eq_ok hstep
        cases hstep
        exact (List.append_nil _).symm
      exact h.more hupdates fun hwaits =>
        .inr (hinv.waits_call hwaits hallowed.2 hstep (hkeeps state' hstep))
  | handleWindowGraphicalUpdates answer now finished =>
      obtain ⟨appended, hupdates, -⟩ :=
        handleGroups_spec settings answer now state.registry.groups state.updates
      have hstate' : state'.updates = state.updates ++ appended := by
        cases hstep
        exact hupdates
      refine h.more hstate' fun hwaits => ?_
      obtain ⟨other, hother, hcases⟩ := waits_pass hwaits hstep
      obtain rfl := List.append_cancel_left (hstate'.symm.trans hother)
      exact hcases.imp_right And.left

/-- **Damaged windows do not wait.** When a window of a group is damaged, and the window stays in the
group, it is updated at the latest by the first pass that comes after the damage by more than the interval
of its quality. -/
theorem updated_in_time {clock : Time} {before after : List TimedAction}
    (hbefore : Runs settings (init clock) before start)
    (hdamaged : ∃ group ∈ start.registry.groups, ∃ window ∈ group.windows,
      window.key = key ∧ window.hasDamage = true)
    (hafter : Run (step settings) (fun state action => state.Allowed action ∧
      state.KeepsWindow settings key action) start after state)
    (hstep : state.step settings (.handleWindowGraphicalUpdates answer now finished) = .ok state')
    (hlate : ∀ group ∈ state.registry.groups, ∀ window ∈ group.windows, window.key = key →
      start.clock + window.imageInterval < now) :
    ∃ appended, state'.updates = start.updates ++ appended ∧
      ∃ update ∈ appended, update.window.key = key := by
  have hinv := inv_of_run hbefore
  have hwaits : start.Waits key start.clock := by
    obtain ⟨group, hgroup, window, hwindow, hkey, hdamage⟩ := hdamaged
    exact ⟨group, hgroup, window, hwindow, hkey,
      (hinv.groups group hgroup).refreshed _ (List.mem_map_of_mem hwindow), hdamage⟩
  obtain ⟨-, earlier, hearlier, hcases⟩ := hafter.invariant
    (P := fun state => state.Inv ∧ start.Progress key start.clock state)
    (fun _ _ _ h hallowed hstep => ⟨h.1.step hallowed.1 hstep,
      h.2.step h.1 hallowed.1 hallowed.2 hstep⟩)
    ⟨hinv, [], (List.append_nil _).symm, .inr hwaits⟩
  rcases hcases with ⟨update, hupdate, hkey⟩ | hstill
  · -- it was updated before
    obtain ⟨appended, hupdates, -⟩ :=
      handleGroups_spec settings answer now state.registry.groups state.updates
    cases hstep
    refine ⟨earlier ++ appended, ?_, update, List.mem_append_left _ hupdate, hkey⟩
    rw [← List.append_assoc, ← hearlier]
    exact hupdates
  · obtain ⟨appended, hupdates, hcases⟩ := waits_pass hstill hstep
    refine ⟨earlier ++ appended, by rw [hupdates, hearlier, List.append_assoc], ?_⟩
    rcases hcases with ⟨update, hupdate, hkey⟩ | ⟨-, group, hgroup, window, hwindow, hkey, hsoon⟩
    · exact ⟨update, List.mem_append_right _ hupdate, hkey⟩
    · exact absurd (hlate group hgroup window hwindow hkey) (not_lt.mpr hsoon)

/-- The window that is damaged for the second time is updated by the third pass. -/
theorem updated_in_time_threePasses : ∃ (start state : TimedRegistry) (appended : List WindowUpdate),
    state.updates = start.updates ++ appended ∧
    ∃ update ∈ appended, update.window.key = (1, 12) := by
  have hlater : ∃ start state state', Runs .default (init 0) damagedAgain start ∧
      (∃ group ∈ start.registry.groups, ∃ window ∈ group.windows,
        window.key = (1, 12) ∧ window.hasDamage = true) ∧
      Run (step .default) (fun state action => state.Allowed action ∧
        state.KeepsWindow .default (1, 12) action) start [sendAt (Time.ofMs 1010)] state ∧
      state.step .default (sendAt (Time.ofMs 1100)) = .ok state' ∧
      ∀ group ∈ state.registry.groups, ∀ window ∈ group.windows, window.key = (1, 12) →
        start.clock + window.imageInterval < Time.ofMs 1100 := by
    refine ⟨_, _, _, .cons ⟨le_refl _, rfl⟩ rfl (.cons ⟨le_refl _, rfl⟩ rfl
      (.cons (allowed_sendAt (by decide)) rfl (.cons ⟨by decide, rfl⟩ rfl (.nil _)))), ?_,
      .single ⟨allowed_sendAt (by decide), ?_⟩ rfl, rfl, ?_⟩
    · decide +kernel
    · intro state' hstep
      cases hstep
      rw [HasWindow]
      decide +kernel
    · decide +kernel
  obtain ⟨start, state, state', hbefore, hdamaged, hafter, hstep, hlate⟩ := hlater
  obtain ⟨appended, hupdates, hupdate⟩ := updated_in_time hbefore hdamaged hafter hstep hlate
  exact ⟨start, state', appended, hupdates, hupdate⟩

end TimedRegistry

end WebXEngine
