import WebXEngine.Controller.WindowQualityCap
import WebXEngine.Foundations.SpacedTimes

/-! # How often images are sent

A group sends a window when its last image is older than the interval of its quality. The registry
with a clock that does not go back, and with the updates of the windows that were made.

* **`TimedRegistry`** — the registry, the updates and the clock.
* **`images_spaced`** — an update comes later than each image of its window by more than its interval.
* **`images_in_period`** — a group sends only so many images of a window in a period. -/

namespace WebXEngine

/-! ## Windows -/

/-- An update of a window: the window as the handler gets it, the time of the pass, and the answer. -/
structure WindowUpdate where
  window : WebXClientWindow
  now : Time
  result : Except String WebXWindowImageTransferData

/-- The time of the image, when some was sent. -/
def WindowUpdate.imageTime (update : WindowUpdate) : Option Time :=
  match update.result with
  | .ok transferData =>
      if transferData.status = .ignored then none else some transferData.timestamp
  | .error _ => none

/-- The time between two images of a window at its quality. -/
def WebXClientWindow.imageInterval (window : WebXClientWindow) : Time :=
  Time.ofUs window.getCurrentQuality.imageUpdateTimeUs

/-- What the scheduling of a window depends on: the window, the quality of its group, and the time of
its last image. -/
structure WindowTiming where
  id : UInt32
  desiredQuality : WebXQuality
  imageRefreshTime : Time

/-- The window and the quality of the group. -/
def WindowTiming.key (timing : WindowTiming) : UInt32 × ℕ := (timing.id, timing.desiredQuality.index)

namespace WebXClientWindow

variable (window : WebXClientWindow) (settings : WebXQualitySettings) (now : Time)

/-- The timing of a window. -/
def timing : WindowTiming :=
  ⟨window.id, window.qualityHandler.desiredQuality, window.imageRefreshTime⟩

/-- The window and the quality of its group. -/
def key : UInt32 × ℕ := window.timing.key

@[simp] theorem timing_addDamage (damage : WebXWindowDamage) :
    (window.addDamage damage).timing = window.timing := rfl

@[simp] theorem timing_resetDamage : window.resetDamage.timing = window.timing := rfl

@[simp] theorem timing_resetShapeMaskChecksum :
    window.resetShapeMaskChecksum.timing = window.timing := rfl

@[simp] theorem timing_setSize (size : WebXSize) : (window.setSize size).timing = window.timing := by
  unfold setSize
  split <;> rfl

@[simp] theorem timing_setCoverage (coverage : WebXWindowCoverage) :
    (window.setCoverage settings coverage now).timing = window.timing := by
  rw [timing, timing, setCoverage, WebXWindowQualityHandler.desiredQuality_setWindowCoverage]

@[simp] theorem timing_setShapeMaskChecksum (shapeMaskChecksum : UInt32) :
    (window.setShapeMaskChecksum shapeMaskChecksum).timing = window.timing := rfl

@[simp] theorem timing_updateQuality :
    (window.updateQuality settings now).timing = window.timing := by
  unfold updateQuality
  split_ifs
  · rw [timing, timing, WebXWindowQualityHandler.desiredQuality_calculateQuality]
  · rfl

/-- A new window. -/
@[simp] theorem timing_ofVisibility (quality : WebXQuality) (visibility : WebXWindowVisibility) :
    (ofVisibility settings quality visibility now).timing = ⟨visibility.x11Window, quality, now⟩ := by
  rw [timing, ofVisibility, WebXWindowQualityHandler.desiredQuality_ofCoverage]

/-- The time of a new image becomes that of the last one. -/
theorem timing_onImageTransfer (transferData : WebXWindowImageTransferData) :
    (window.onImageTransfer settings transferData now).timing =
      { window.timing with
        imageRefreshTime :=
          if transferData.status = .ignored then window.imageRefreshTime
          else transferData.timestamp } := by
  have hdesired : (window.qualityHandler.onImageTransfer settings transferData now).desiredQuality =
      window.qualityHandler.desiredQuality := by
    unfold WebXWindowQualityHandler.onImageTransfer
    split_ifs
    · rw [WebXWindowQualityHandler.desiredQuality_calculateQuality]
    · rfl
  rw [onImageTransfer, timing]
  cases transferData.status <;> simp [timing, hdesired]

end WebXClientWindow

/-! ## The updates that were made -/

/-- Each update came later than the images of its window that were sent before, by more than its
interval. -/
def SpacedUpdates (updates : List WindowUpdate) : Prop :=
  updates.Pairwise fun update later => update.window.key = later.window.key →
    ∀ time, update.imageTime = some time → time + later.window.imageInterval < later.now

/-- The windows are different, and the times of their last images are right: no image was sent after them,
and none of them is to come. -/
structure Timely (clock : Time) (updates : List WindowUpdate) (timings : List WindowTiming) : Prop where
  nodup : (timings.map WindowTiming.key).Nodup
  refreshed : ∀ timing ∈ timings, timing.imageRefreshTime ≤ clock
  images : ∀ timing ∈ timings, ∀ update ∈ updates, update.window.key = timing.key →
    ∀ time, update.imageTime = some time → time ≤ timing.imageRefreshTime

namespace Timely

variable {clock : Time} {updates : List WindowUpdate} {timings timings' : List WindowTiming}

/-- Some of the windows, later. -/
theorem sublist (h : Timely clock updates timings) (hsub : timings'.Sublist timings) {now : Time}
    (hclock : clock ≤ now) : Timely now updates timings' where
  nodup := h.nodup.sublist (hsub.map _)
  refreshed := fun timing htiming => (h.refreshed timing (hsub.subset htiming)).trans hclock
  images := fun timing htiming => h.images timing (hsub.subset htiming)

/-- A new window, which has to wait for its interval as if an image had been sent. -/
theorem concat (h : Timely clock updates timings)
    (hpast : ∀ update ∈ updates, ∀ time, update.imageTime = some time → time ≤ clock)
    {timing : WindowTiming} (hnew : timing.key ∉ timings.map WindowTiming.key)
    (htime : timing.imageRefreshTime = clock) : Timely clock updates (timings ++ [timing]) where
  nodup := by
    rw [List.map_append, List.map_singleton]
    exact List.nodup_append.mpr ⟨h.nodup, List.nodup_singleton _, fun key hkey other hother => by
      rw [List.mem_singleton] at hother
      rintro rfl
      exact hnew (hother ▸ hkey)⟩
  refreshed := fun other hother => by
    rcases List.mem_append.mp hother with hold | hsame
    · exact h.refreshed other hold
    · rw [List.mem_singleton.mp hsame, htime]
  images := fun other hother update hupdate hkey time himage => by
    rcases List.mem_append.mp hother with hold | hsame
    · exact h.images other hold update hupdate hkey time himage
    · rw [List.mem_singleton.mp hsame, htime]
      exact hpast update hupdate time himage

/-- A window is updated. -/
theorem replace {before after : List WindowTiming} {timing timing' : WindowTiming}
    {update : WindowUpdate} (h : Timely clock updates (before ++ timing :: after))
    (hkey : timing'.key = timing.key) (hupdate : update.window.key = timing.key)
    (hlater : timing.imageRefreshTime ≤ timing'.imageRefreshTime)
    (hclock : timing'.imageRefreshTime ≤ clock)
    (himage : ∀ time, update.imageTime = some time → time ≤ timing'.imageRefreshTime) :
    Timely clock (updates ++ [update]) (before ++ timing' :: after) := by
  have hmem : timing ∈ before ++ timing :: after :=
    List.mem_append_right _ List.mem_cons_self
  have hkeys : (before ++ timing' :: after).map WindowTiming.key =
      (before ++ timing :: after).map WindowTiming.key := by
    rw [List.map_append, List.map_append, List.map_cons, List.map_cons, hkey]
  -- the other windows are different
  have hothers : ∀ other ∈ before ++ after, other ∈ before ++ timing :: after ∧
      other.key ≠ timing.key := by
    intro other hother
    have hnodup := h.nodup
    rw [List.map_append, List.map_cons, List.nodup_middle, List.nodup_cons, ← List.map_append]
      at hnodup
    refine ⟨?_, fun heq => hnodup.1 (heq ▸ List.mem_map_of_mem hother)⟩
    rcases List.mem_append.mp hother with hbefore | hafter
    · exact List.mem_append_left _ hbefore
    · exact List.mem_append_right _ (List.mem_cons_of_mem _ hafter)
  have hcases : ∀ other ∈ before ++ timing' :: after, other = timing' ∨ other ∈ before ++ after := by
    intro other hother
    rw [List.mem_append, List.mem_cons] at hother
    rw [List.mem_append]
    tauto
  refine ⟨hkeys ▸ h.nodup, fun other hother => ?_, fun other hother u hu huKey time htime => ?_⟩
  · rcases hcases other hother with rfl | hrest
    · exact hclock
    · exact h.refreshed other (hothers other hrest).1
  · rw [List.mem_append, List.mem_singleton] at hu
    rcases hcases other hother with rfl | hrest
    · rcases hu with hold | rfl
      · exact (h.images timing hmem u hold (huKey.trans hkey) time htime).trans hlater
      · exact himage time htime
    · obtain ⟨hold, hne⟩ := hothers other hrest
      rcases hu with hu | rfl
      · exact h.images other hold u hu huKey time htime
      · exact absurd (huKey.symm.trans hupdate) hne

end Timely

/-! ## Groups -/

namespace WebXClientGroup

variable {settings : WebXQualitySettings} {group group' : WebXClientGroup} {clock now : Time}
  {updates : List WindowUpdate}

/-- The timings of the windows of a group. -/
def timings (group : WebXClientGroup) : List WindowTiming :=
  group.windows.map WebXClientWindow.timing

/-- The timings of the windows of a group are right, and are those for the quality of the group. -/
structure TimelyFor (clock : Time) (updates : List WindowUpdate) (group : WebXClientGroup) : Prop
    extends Timely clock updates group.timings where
  desired : ∀ timing ∈ group.timings, timing.desiredQuality = group.quality

/-- The updates of a group stay timely when clients come and go. -/
theorem groupProperty_timelyFor (clock : Time) (updates : List WindowUpdate) :
    WebXClientRegistry.GroupProperty (TimelyFor clock updates) where
  create := fun quality =>
    ⟨⟨List.nodup_nil, fun timing htiming => absurd htiming List.not_mem_nil,
      fun timing htiming => absurd htiming List.not_mem_nil⟩,
      fun timing htiming => absurd htiming List.not_mem_nil⟩
  addClient := fun group client h => by
    obtain ⟨htimely, hdesired⟩ := h
    rw [timings, ← windows_addClient group client] at htimely hdesired
    exact ⟨htimely, fun timing htiming => (hdesired timing htiming).trans
      (quality_addClient group client).symm⟩
  removeClient := fun group clientId h => by
    obtain ⟨htimely, hdesired⟩ := h
    rw [timings, ← windows_removeClient group clientId] at htimely hdesired
    exact ⟨htimely, fun timing htiming => (hdesired timing htiming).trans
      (quality_removeClient group clientId).symm⟩

/-- The group has the same windows, or a new one. -/
def MayAdd (x11Window : UInt32) (now : Time) (group group' : WebXClientGroup) : Prop :=
  group'.quality = group.quality ∧ (group'.timings = group.timings ∨
    group'.timings = group.timings ++ [⟨x11Window, group.quality, now⟩] ∧
      ∀ timing ∈ group.timings, timing.id ≠ x11Window)

/-- A new window comes late enough. -/
theorem TimelyFor.mayAdd (h : group.TimelyFor now updates) {x11Window : UInt32}
    (hpast : ∀ update ∈ updates, ∀ time, update.imageTime = some time → time ≤ now)
    (hadd : MayAdd x11Window now group group') : group'.TimelyFor now updates := by
  obtain ⟨hquality, hsame | ⟨hnew, hother⟩⟩ := hadd
  · obtain ⟨htimely, hdesired⟩ := h
    rw [← hsame] at htimely hdesired
    exact ⟨htimely, fun timing htiming => (hdesired timing htiming).trans hquality.symm⟩
  · have hkey : WindowTiming.key ⟨x11Window, group.quality, now⟩ ∉
        group.timings.map WindowTiming.key := by
      intro hmem
      obtain ⟨timing, htiming, heq⟩ := List.mem_map.mp hmem
      exact hother timing htiming (congrArg Prod.fst heq)
    have htimely := h.toTimely.concat hpast hkey rfl
    rw [← hnew] at htimely
    refine ⟨htimely, fun timing htiming => ?_⟩
    rw [hnew, List.mem_append, List.mem_singleton] at htiming
    rw [hquality]
    rcases htiming with hold | rfl
    · exact h.desired timing hold
    · rfl

/-- A change that keeps the timing of a window. -/
theorem timings_updateWindow {x11Window : UInt32} {change : WebXClientWindow → WebXClientWindow}
    (hkeep : ∀ window, (change window).timing = window.timing) :
    (group.updateWindow x11Window change).timings = group.timings :=
  map_updateFirst WebXClientWindow.timing (fun window _ => by simp [hkeep window]) _

/-- No window of the identifier, no time of the identifier. -/
theorem forall_id_ne_of_not_any {x11Window : UInt32}
    (h : ¬ (group.windows.any fun window => window.id = x11Window) = true) :
    ∀ timing ∈ group.timings, timing.id ≠ x11Window := by
  intro timing htiming heq
  obtain ⟨window, hwindow, rfl⟩ := List.mem_map.mp htiming
  exact h (List.any_eq_true.mpr ⟨window, hwindow, decide_eq_true heq⟩)

/-- Damage adds the window at most. -/
theorem mayAdd_addWindowDamage (damage : WebXWindowDamage) :
    MayAdd damage.x11Window now group (group.addWindowDamage settings damage now) := by
  refine ⟨quality_addWindowDamage group settings damage now, ?_⟩
  unfold addWindowDamage
  split_ifs with hany
  · exact .inl (timings_updateWindow fun window => window.timing_addDamage damage)
  · exact .inr ⟨List.map_append, forall_id_ne_of_not_any hany⟩

/-- A visibility adds the window at most. -/
theorem mayAdd_updateVisibleWindow (visibility : WebXWindowVisibility) :
    MayAdd visibility.x11Window now group (updateVisibleWindow settings now group visibility) := by
  refine ⟨quality_updateVisibleWindow group settings now visibility, ?_⟩
  unfold updateVisibleWindow
  split_ifs with hany
  · exact .inl (timings_updateWindow fun window => by simp)
  · refine .inr ⟨?_, forall_id_ne_of_not_any hany⟩
    rw [timings, List.map_append, List.map_singleton, WebXClientWindow.timing_ofVisibility]
    rfl

/-- **The windows become those that are visible**: the new ones have to wait. -/
theorem TimelyFor.updateVisibleWindows (h : group.TimelyFor now updates)
    (hpast : ∀ update ∈ updates, ∀ time, update.imageTime = some time → time ≤ now)
    (windowVisibilities : List WebXWindowVisibility) :
    (group.updateVisibleWindows settings windowVisibilities now).TimelyFor now updates := by
  have hstill : (group.stillVisible windowVisibilities).TimelyFor now updates := by
    have hsub : (group.stillVisible windowVisibilities).timings.Sublist group.timings :=
      List.filter_sublist.map _
    exact ⟨h.toTimely.sublist hsub (le_refl now), fun timing htiming =>
      h.desired timing (hsub.subset htiming)⟩
  have hfoldl (visibilities : List WebXWindowVisibility) :
      ∀ {group : WebXClientGroup}, group.TimelyFor now updates →
        (visibilities.foldl (updateVisibleWindow settings now) group).TimelyFor now updates := by
    induction visibilities with
    | nil => exact fun h => h
    | cons visibility visibilities ih =>
        exact fun h => ih (h.mayAdd hpast (mayAdd_updateVisibleWindow visibility))
  obtain ⟨htimely, hdesired⟩ := hfoldl windowVisibilities hstill
  have htimings : (group.updateVisibleWindows settings windowVisibilities now).timings =
      (windowVisibilities.foldl (updateVisibleWindow settings now)
        (group.stillVisible windowVisibilities)).timings := by
    rw [timings, WebXClientGroup.updateVisibleWindows, List.map_map]
    exact List.map_congr_left fun window _ => window.timing_updateQuality settings now
  rw [← htimings] at htimely hdesired
  exact ⟨htimely, hdesired⟩

/-! ## A pass -/

/-- The handler that keeps a record of the updates; what is sent may depend on what was sent before. -/
def recordUpdate
    (answer : List WindowUpdate → WebXClientWindow → UInt64 → Except String WebXWindowImageTransferData)
    (now : Time) : UpdateHandler (List WindowUpdate) :=
  fun window clientIndexMask updates =>
    let result := answer updates window clientIndexMask
    (result, updates ++ [⟨window, now, result⟩])

/-- The images are sent between the start and the end of a pass. -/
def SendsBetween (now finished : Time)
    (answer : List WindowUpdate → WebXClientWindow → UInt64 → Except String WebXWindowImageTransferData) :
    Prop :=
  ∀ updates window clientIndexMask transferData,
    answer updates window clientIndexMask = .ok transferData →
      now ≤ transferData.timestamp ∧ transferData.timestamp ≤ finished

variable {finished : Time} {clientIndexMask : UInt64}
  {answer : List WindowUpdate → WebXClientWindow → UInt64 → Except String WebXWindowImageTransferData}

/-- What a pass does with a window: nothing, or an update that is due. -/
theorem handleWindowGraphicalUpdate_cases (settings : WebXQualitySettings)
    (answer : List WindowUpdate → WebXClientWindow → UInt64 → Except String WebXWindowImageTransferData)
    (clientIndexMask : UInt64) (now : Time) (window : WebXClientWindow) (updates : List WindowUpdate) :
    let handled := handleWindowGraphicalUpdate settings (recordUpdate answer now) clientIndexMask now
      window updates
    requiresUpdate window now = false ∧ handled.1 = window ∧ handled.2.2 = updates ∨
      requiresUpdate window now = true ∧ ∃ update : WindowUpdate, update.window = window ∧
        update.now = now ∧ update.result = answer updates window clientIndexMask ∧
        handled.1.timing =
          { window.timing with
            imageRefreshTime := update.imageTime.getD window.imageRefreshTime } ∧
        handled.2.2 = updates ++ [update] := by
  dsimp only
  cases hrequires : requiresUpdate window now with
  | false =>
      rw [handleWindowGraphicalUpdate_of_not hrequires]
      exact .inl ⟨rfl, rfl, rfl⟩
  | true =>
      refine .inr ⟨rfl, ⟨window, now, answer updates window clientIndexMask⟩, rfl, rfl, rfl, ?_, ?_⟩
      · rw [handleWindowGraphicalUpdate, if_pos hrequires]
        dsimp only [recordUpdate]
        rw [WebXClientWindow.timing_resetShapeMaskChecksum, WebXClientWindow.timing_resetDamage]
        rw [WindowUpdate.imageTime]
        cases answer updates window clientIndexMask with
        | error message => rfl
        | ok transferData =>
            dsimp only
            rw [WebXClientWindow.timing_onImageTransfer]
            split_ifs <;> rfl
      · rw [handleWindowGraphicalUpdate, if_pos hrequires]
        rfl

/-- An image of an update was sent during the pass. -/
theorem imageTime_mem (hsends : SendsBetween now finished answer) {update : WindowUpdate}
    (hresult : update.result = answer updates update.window clientIndexMask) {time : Time}
    (himage : update.imageTime = some time) : now ≤ time ∧ time ≤ finished := by
  rw [WindowUpdate.imageTime, hresult] at himage
  cases hanswer : answer updates update.window clientIndexMask with
  | error message =>
      rw [hanswer] at himage
      cases himage
  | ok transferData =>
      rw [hanswer] at himage
      dsimp only at himage
      split_ifs at himage
      cases himage
      exact hsends _ _ _ _ hanswer

/-- A window whose update is due had its last image before its interval. -/
theorem imageRefreshTime_lt_of_requiresUpdate {window : WebXClientWindow}
    (h : requiresUpdate window now = true) : window.imageRefreshTime + window.imageInterval < now := by
  rw [requiresUpdate, Bool.and_eq_true] at h
  have hrefresh : window.imageRefreshTime < now - window.imageInterval := of_decide_eq_true h.2
  exact lt_sub_iff_add_lt.mp hrefresh

/-- What holds of the windows and the updates during a pass. -/
structure PassInv (finished : Time) (updates : List WindowUpdate) (timings : List WindowTiming) : Prop
    extends Timely finished updates timings where
  spaced : SpacedUpdates updates
  sent : ∀ update ∈ updates, ∀ time, update.imageTime = some time →
    update.now ≤ time ∧ time ≤ finished

/-- **A window is handled**: the update comes late enough. -/
theorem PassInv.handleWindowGraphicalUpdate {before after : List WindowTiming}
    {window : WebXClientWindow} (h : PassInv finished updates (before ++ window.timing :: after))
    (hsends : SendsBetween now finished answer) (hrefreshed : window.imageRefreshTime ≤ now)
    (settings : WebXQualitySettings) (clientIndexMask : UInt64) :
    let handled := handleWindowGraphicalUpdate settings (recordUpdate answer now) clientIndexMask now
      window updates
    PassInv finished handled.2.2 (before ++ handled.1.timing :: after) ∧
      handled.1.timing.desiredQuality = window.timing.desiredQuality := by
  obtain ⟨-, hwindow, hupdates⟩ | ⟨hdue, update, hwindow, hnow, hresult, htiming, hupdates⟩ :=
    handleWindowGraphicalUpdate_cases settings answer clientIndexMask now window updates
  · dsimp only
    rw [hwindow, hupdates]
    exact ⟨h, rfl⟩
  · dsimp only
    rw [htiming, hupdates]
    have hmem : window.timing ∈ before ++ window.timing :: after :=
      List.mem_append_right _ List.mem_cons_self
    have hkey : update.window.key = window.timing.key := congrArg WebXClientWindow.key hwindow
    have hsent : ∀ time, update.imageTime = some time → now ≤ time ∧ time ≤ finished :=
      fun time himage => imageTime_mem hsends (hwindow.symm ▸ hresult) himage
    have hold : window.imageRefreshTime ≤ finished := h.refreshed window.timing hmem
    refine ⟨⟨h.toTimely.replace rfl hkey ?_ ?_ ?_, ?_, ?_⟩, rfl⟩
    · -- the time of the last image only grows
      change window.imageRefreshTime ≤ update.imageTime.getD window.imageRefreshTime
      cases himage : update.imageTime with
      | none => exact le_refl _
      | some time => exact hrefreshed.trans (hsent time himage).1
    · change update.imageTime.getD window.imageRefreshTime ≤ finished
      cases himage : update.imageTime with
      | none => exact hold
      | some time => exact (hsent time himage).2
    · intro time himage
      change time ≤ update.imageTime.getD window.imageRefreshTime
      rw [himage]
      exact le_refl time
    · refine List.pairwise_append.mpr ⟨h.spaced, List.pairwise_singleton _ _, ?_⟩
      intro earlier hearlier later hlater hsame time himage
      rw [List.mem_singleton] at hlater
      subst hlater
      -- the earlier image is not after the time that is noted for the window
      have hlast := h.images window.timing hmem earlier hearlier (hsame.trans hkey) time himage
      have hlate := imageRefreshTime_lt_of_requiresUpdate hdue
      rw [hwindow, hnow]
      exact lt_of_le_of_lt (Int.add_le_add_right hlast _) hlate
    · intro other hother time himage
      rcases List.mem_append.mp hother with hbefore | hnew
      · exact h.sent other hbefore time himage
      · rw [List.mem_singleton.mp hnew] at himage ⊢
        rw [hnow]
        exact hsent time himage

/-- **The loop over the windows.** -/
theorem PassInv.handleWindows {after : List WindowTiming} (hsends : SendsBetween now finished answer)
    (settings : WebXQualitySettings) (clientIndexMask : UInt64) (windows : List WebXClientWindow) :
    ∀ {before : List WindowTiming} {updates : List WindowUpdate},
      PassInv finished updates (before ++ (windows.map WebXClientWindow.timing ++ after)) →
      (∀ window ∈ windows, window.imageRefreshTime ≤ now) →
      let handled := handleWindows settings (recordUpdate answer now) clientIndexMask now windows
        updates
      PassInv finished handled.2.2 (before ++ (handled.1.map WebXClientWindow.timing ++ after)) ∧
        ∀ window' ∈ handled.1, ∃ window ∈ windows,
          window'.timing.desiredQuality = window.timing.desiredQuality := by
  induction windows with
  | nil => exact fun h _ => ⟨h, fun _ hwindow' => absurd hwindow' List.not_mem_nil⟩
  | cons window windows ih =>
      intro before updates h hrefreshed
      rw [List.forall_mem_cons] at hrefreshed
      rw [List.map_cons, List.cons_append] at h
      obtain ⟨hfirst, hdesired⟩ :=
        h.handleWindowGraphicalUpdate hsends hrefreshed.1 settings clientIndexMask
      rw [← List.singleton_append, ← List.append_assoc] at hfirst
      obtain ⟨hothers, hsame⟩ := ih hfirst hrefreshed.2
      dsimp only
      rw [WebXClientGroup.handleWindows, List.map_cons]
      refine ⟨?_, ?_⟩
      · rw [List.append_assoc, List.singleton_append] at hothers
        exact hothers
      · rw [List.forall_mem_cons]
        refine ⟨⟨window, List.mem_cons_self, hdesired⟩, fun window' hwindow' => ?_⟩
        obtain ⟨other, hother, heq⟩ := hsame window' hwindow'
        exact ⟨other, List.mem_cons_of_mem _ hother, heq⟩

end WebXClientGroup

/-! ## The registry -/

/-- The registry, the updates of windows that were made, and the clock. -/
structure TimedRegistry where
  registry : WebXClientRegistry
  updates : List WindowUpdate
  clock : Time

/-- A call to the registry. A pass ends at some time, and the handler may answer what it wants. -/
inductive TimedAction
  | call (op : RegistryOp) (now : Time)
  | handleWindowGraphicalUpdates
      (answer : List WindowUpdate → WebXClientWindow → UInt64 → Except String WebXWindowImageTransferData)
      (now finished : Time)

/-- The call is not a pass, and reads a time from the clock if it reads any. -/
def RegistryOp.ReadsClock (now : Time) : RegistryOp → Prop
  | .addClient _ _ time | .handleClientPings time | .onPongReceived _ time
  | .performQualityVerification _ time | .addWindowDamage _ time
  | .updateVisibleWindows _ time => time = now
  | .removeClient _ | .setClientMaxQuality _ _ | .disconnectAll => True
  | .handleWindowGraphicalUpdates _ _ => False

namespace TimedRegistry

open WebXClientGroup WebXClientRegistry

/-- The start of the engine. -/
def init (clock : Time) : TimedRegistry := ⟨.create, [], clock⟩

/-- The clock does not go back. -/
def Allowed (state : TimedRegistry) : TimedAction → Prop
  | .call op now => state.clock ≤ now ∧ op.ReadsClock now
  | .handleWindowGraphicalUpdates answer now finished =>
      state.clock ≤ now ∧ now ≤ finished ∧ SendsBetween now finished answer

/-- One call. -/
def step (settings : WebXSettings) (state : TimedRegistry) : TimedAction → Except Fault TimedRegistry
  | .call op now => do
      let called ← RegistryState.step settings ⟨state.registry, []⟩ op
      return { state with registry := called.registry, clock := now }
  | .handleWindowGraphicalUpdates answer now finished =>
      let handled := state.registry.handleWindowGraphicalUpdates settings (recordUpdate answer now) now
        state.updates
      .ok ⟨handled.1, handled.2, finished⟩

/-- The runs of the registry with its clock. -/
abbrev Runs (settings : WebXSettings) : TimedRegistry → List TimedAction → TimedRegistry → Prop :=
  Run (step settings) Allowed

/-- The windows and the updates of the registry are right. -/
structure Inv (state : TimedRegistry) : Prop where
  registry : state.registry.Inv
  groups : ∀ group ∈ state.registry.groups, group.TimelyFor state.clock state.updates
  spaced : SpacedUpdates state.updates
  sent : ∀ update ∈ state.updates, ∀ time, update.imageTime = some time →
    update.now ≤ time ∧ time ≤ state.clock

variable {settings : WebXSettings} {state state' : TimedRegistry} {now finished : Time}
  {answer : List WindowUpdate → WebXClientWindow → UInt64 → Except String WebXWindowImageTransferData}

/-- There is no update before the first pass. -/
theorem inv_init (clock : Time) : (init clock).Inv where
  registry := inv_create
  groups := fun _ hgroup => absurd hgroup List.not_mem_nil
  spaced := List.Pairwise.nil
  sent := fun _ hupdate => absurd hupdate List.not_mem_nil

/-- The windows of all groups are different: the groups have different qualities. -/
theorem Inv.timely_flatMap (h : state.Inv) :
    Timely state.clock state.updates (state.registry.groups.flatMap timings) := by
  refine ⟨?_, fun timing htiming => ?_, fun timing htiming => ?_⟩
  · rw [List.map_flatMap, List.nodup_flatMap]
    refine ⟨fun group hgroup => (h.groups group hgroup).nodup, ?_⟩
    have hqualities := h.registry.groups.qualities
    rw [List.Nodup, List.pairwise_map] at hqualities
    refine hqualities.imp_of_mem fun {group group'} hgroup hgroup' hne key hkey hkey' => ?_
    obtain ⟨timing, htiming, rfl⟩ := List.mem_map.mp hkey
    obtain ⟨timing', htiming', heq⟩ := List.mem_map.mp hkey'
    apply hne
    rw [← (h.groups group hgroup).desired timing htiming,
      ← (h.groups group' hgroup').desired timing' htiming']
    exact (congrArg Prod.snd heq).symm
  · obtain ⟨group, hgroup, htiming⟩ := List.mem_flatMap.mp htiming
    exact (h.groups group hgroup).refreshed timing htiming
  · obtain ⟨group, hgroup, htiming⟩ := List.mem_flatMap.mp htiming
    exact (h.groups group hgroup).images timing htiming

/-- **The loop over the groups.** -/
theorem passInv_handleGroups (hsends : SendsBetween now finished answer) (groups : List WebXClientGroup) :
    ∀ {before : List WindowTiming} {updates : List WindowUpdate},
      PassInv finished updates (before ++ groups.flatMap timings) →
      (∀ group ∈ groups, (∀ window ∈ group.windows, window.imageRefreshTime ≤ now) ∧
        ∀ timing ∈ group.timings, timing.desiredQuality = group.quality) →
      let handled := handleGroups settings (recordUpdate answer now) now groups updates
      PassInv finished handled.2 (before ++ handled.1.flatMap timings) ∧
        ∀ group ∈ handled.1, ∀ timing ∈ group.timings, timing.desiredQuality = group.quality := by
  induction groups with
  | nil => exact fun h _ => ⟨h, fun _ hgroup => absurd hgroup List.not_mem_nil⟩
  | cons group groups ih =>
      intro before updates h hgroups
      rw [List.forall_mem_cons] at hgroups
      obtain ⟨⟨hrefreshed, hdesired⟩, hgroups⟩ := hgroups
      rw [List.flatMap_cons] at h
      obtain ⟨hfirst, hsame⟩ :=
        PassInv.handleWindows hsends settings.quality group.clientIndexMask group.windows h hrefreshed
      rw [← List.append_assoc] at hfirst
      obtain ⟨hothers, hothersDesired⟩ := ih hfirst hgroups
      dsimp only
      rw [handleGroups, List.flatMap_cons]
      refine ⟨?_, ?_⟩
      · rw [List.append_assoc] at hothers
        exact hothers
      · rw [List.forall_mem_cons]
        refine ⟨fun timing htiming => ?_, hothersDesired⟩
        obtain ⟨window', hwindow', rfl⟩ := List.mem_map.mp htiming
        obtain ⟨window, hwindow, heq⟩ := hsame window' hwindow'
        exact heq.trans (hdesired _ (List.mem_map_of_mem hwindow))

/-- **A call that is not a pass** leaves the times of the windows right. -/
theorem timelyFor_call {registry : WebXClientRegistry} {updates : List WindowUpdate}
    (h : ∀ group ∈ registry.groups, group.TimelyFor now updates)
    (hpast : ∀ update ∈ updates, ∀ time, update.imageTime = some time → time ≤ now)
    {op : RegistryOp} (hop : op.ReadsClock now) {called : RegistryState}
    (hstep : RegistryState.step settings ⟨registry, []⟩ op = .ok called) :
    ∀ group ∈ called.registry.groups, group.TimelyFor now updates := by
  have hQ := groupProperty_timelyFor now updates
  cases op with
  | addClient clientVersion draws time =>
      cases hstep
      cases hadd : registry.addClient settings clientVersion draws time with
      | none => exact h
      | some result => exact hQ.addClientToRegistry h hadd
  | removeClient clientId =>
      cases hstep
      exact hQ.removeClientOfRegistry h
  | setClientMaxQuality clientId quality =>
      cases hstep
      exact hQ.setClientMaxQuality h
  | handleClientPings time =>
      cases hstep
      exact hQ.removeTimedOutClients _ h
  | onPongReceived clientId time =>
      cases hstep
      exact h
  | performQualityVerification measure time =>
      obtain ⟨registry', hrun, rfl⟩ := RegistryState.step_performQualityVerification hstep
      exact hQ.performQualityVerification h hrun
  | addWindowDamage damage time =>
      obtain rfl : time = now := hop
      cases hstep
      exact List.forall_mem_map.mpr fun group hgroup =>
        (h group hgroup).mayAdd hpast (mayAdd_addWindowDamage damage)
  | updateVisibleWindows windowVisibilities time =>
      obtain rfl : time = now := hop
      cases hstep
      exact List.forall_mem_map.mpr fun group hgroup =>
        (h group hgroup).updateVisibleWindows hpast windowVisibilities
  | handleWindowGraphicalUpdates answer time => exact hop.elim
  | disconnectAll =>
      cases hstep
      exact fun group hgroup => absurd hgroup List.not_mem_nil

/-- What a pass keeps and adds. -/
theorem Inv.pass (h : state.Inv) (hnow : state.clock ≤ now) (hfinished : now ≤ finished)
    (hsends : SendsBetween now finished answer) (settings : WebXSettings) :
    let handled := handleGroups settings (recordUpdate answer now) now state.registry.groups
      state.updates
    PassInv finished handled.2 (handled.1.flatMap timings) ∧
      ∀ group ∈ handled.1, ∀ timing ∈ group.timings, timing.desiredQuality = group.quality := by
  have hflat : PassInv finished state.updates ([] ++ state.registry.groups.flatMap timings) :=
    { h.timely_flatMap.sublist (List.Sublist.refl _) (hnow.trans hfinished) with
      spaced := h.spaced
      sent := fun update hupdate time himage =>
        (h.sent update hupdate time himage).imp_right fun hle => hle.trans (hnow.trans hfinished) }
  refine passInv_handleGroups hsends state.registry.groups hflat fun group hgroup => ⟨?_, ?_⟩
  · intro window hwindow
    exact ((h.groups group hgroup).refreshed _ (List.mem_map_of_mem hwindow)).trans hnow
  · exact (h.groups group hgroup).desired

/-- **Every call keeps the times right.** -/
theorem Inv.step (h : state.Inv) {action : TimedAction} (hallowed : state.Allowed action)
    (hstep : state.step settings action = .ok state') : state'.Inv := by
  cases action with
  | call op now =>
      obtain ⟨called, hcalled, hstep⟩ := exists_of_bind_eq_ok hstep
      cases hstep
      obtain ⟨hclock, hop⟩ := hallowed
      obtain ⟨called', hcalled', hinv⟩ := RegistryState.inv_step settings ⟨state.registry, []⟩ op
        h.registry
      cases hcalled.symm.trans hcalled'
      have hlater : ∀ group ∈ state.registry.groups, group.TimelyFor now state.updates :=
        fun group hgroup => ⟨(h.groups group hgroup).toTimely.sublist (List.Sublist.refl _) hclock,
          (h.groups group hgroup).desired⟩
      have hsent : ∀ update ∈ state.updates, ∀ time, update.imageTime = some time →
          update.now ≤ time ∧ time ≤ now :=
        fun update hupdate time himage =>
          (h.sent update hupdate time himage).imp_right fun hle => hle.trans hclock
      exact ⟨hinv, timelyFor_call hlater (fun update hupdate time himage =>
        (hsent update hupdate time himage).2) hop hcalled, h.spaced, hsent⟩
  | handleWindowGraphicalUpdates answer now finished =>
      obtain ⟨hclock, hfinished, hsends⟩ := hallowed
      cases hstep
      obtain ⟨hpass, hdesired⟩ := h.pass hclock hfinished hsends settings
      refine ⟨h.registry.handleWindowGraphicalUpdates _ _ _, fun group hgroup => ⟨?_, ?_⟩,
        hpass.spaced, hpass.sent⟩
      · have hsub := List.sublist_flatten_of_mem (List.mem_map_of_mem (f := timings) hgroup)
        exact hpass.toTimely.sublist hsub (le_refl finished)
      · exact hdesired group hgroup

/-- **The invariant of the times** holds in every state of a run. -/
theorem inv_of_run {clock : Time} {actions : List TimedAction}
    (hrun : Runs settings (init clock) actions state) : state.Inv :=
  Run.invariant (P := Inv) (fun _ _ _ h hallowed hstep => h.step hallowed hstep) hrun (inv_init clock)

/-! ## The rate of the images -/

/-- The times of the images of a window that a group sent. -/
def imageTimes (updates : List WindowUpdate) (key : UInt32 × ℕ) : List Time :=
  (updates.filter fun update => update.window.key = key).filterMap WindowUpdate.imageTime

/-- **Images are spaced.** Whatever happens to the clients, the groups and the windows, an update of a
window for a group comes later than each image of it that the group sent before, by more than the interval
of the quality at which it is sent, even when the window was away, or the group was deleted, in between. -/
theorem images_spaced {clock : Time} {actions : List TimedAction}
    (hrun : Runs settings (init clock) actions state) :
    state.updates.Pairwise fun update later => update.window.key = later.window.key →
      ∀ time, update.imageTime = some time → time + later.window.imageInterval < later.now :=
  (inv_of_run hrun).spaced

/-- The images of a window are spaced by the least interval at which it was sent. -/
theorem Inv.spaced_imageTimes (h : state.Inv) {key : UInt32 × ℕ} {gap : ℤ}
    (hgap : ∀ update ∈ state.updates, update.window.key = key → gap ≤ update.window.imageInterval) :
    Spaced gap (imageTimes state.updates key) := by
  have hspaced := h.spaced.sublist
    (List.filter_sublist (p := fun update : WindowUpdate => decide (update.window.key = key)))
  rw [Spaced, imageTimes, List.pairwise_filterMap]
  refine hspaced.imp_of_mem fun {update later} hupdate hlater hafter time himage next hnext => ?_
  obtain ⟨-, hkey⟩ := List.mem_filter.mp hupdate
  obtain ⟨hmem, hlaterKey⟩ := List.mem_filter.mp hlater
  have hsame : later.window.key = key := of_decide_eq_true hlaterKey
  have hlate := hafter ((of_decide_eq_true hkey).trans hsame.symm) time himage
  have hinterval := hgap later hmem hsame
  have hsent := (h.sent later hmem next hnext).1
  exact lt_of_le_of_lt (Int.add_le_add_left hinterval time) (lt_of_lt_of_le hlate hsent)

/-- **A group sends only so many images of a window in a period**: one more than the number of intervals,
at the best quality at which it sends the window, that fit into the period. -/
theorem images_in_period {clock : Time} {actions : List TimedAction}
    (hrun : Runs settings (init clock) actions state) {key : UInt32 × ℕ} {gap first last : ℤ}
    (hpos : 0 < gap) (hperiod : first ≤ last)
    (hgap : ∀ update ∈ state.updates, update.window.key = key → gap ≤ update.window.imageInterval) :
    (((imageTimes state.updates key).filter fun time => first ≤ time ∧ time ≤ last).length : ℤ) ≤
      (last - first) / gap + 1 := by
  have hspaced := ((inv_of_run hrun).spaced_imageTimes hgap).sublist
    (List.filter_sublist (p := fun time => decide (first ≤ time ∧ time ≤ last)))
  exact hspaced.length_le hpos (fun time htime => of_decide_eq_true (List.mem_filter.mp htime).2)
    hperiod

/-! ### Three passes -/

/-- A window is damaged at a time. -/
def damageAt (now : Time) : TimedAction :=
  .call (.addWindowDamage (.ofArea 1 (.ofSize 0 0 10 10) true) now) now

/-- The windows that are to be sent are sent at a time. -/
def sendAt (now : Time) : TimedAction :=
  .handleWindowGraphicalUpdates (fun _ window _ => .ok ⟨window.id, now, 10, 0, 0, .fullWindow⟩) now now

/-- A window is damaged, sent, and damaged again. -/
def damagedAgain : List TimedAction :=
  [.call (.addClient ⟨1, 0, 0⟩ [7] 0) 0, damageAt 0, sendAt (Time.ofMs 1000), damageAt (Time.ofMs 1001)]

/-- There are two more passes, of which the first one comes too early. -/
def threePasses : List TimedAction :=
  damagedAgain ++ [sendAt (Time.ofMs 1010), sendAt (Time.ofMs 1100)]

/-- A window that is sent at once is sent within the pass. -/
theorem sendsBetween_sendAt (now : Time) : SendsBetween now now
    fun _ window _ => .ok ⟨window.id, now, 10, 0, 0, .fullWindow⟩ := by
  intro updates window clientIndexMask transferData hanswer
  cases hanswer
  exact ⟨le_refl now, le_refl now⟩

/-- The clock allows a pass. -/
theorem allowed_sendAt {state : TimedRegistry} {now : Time} (hclock : state.clock ≤ now) :
    state.Allowed (sendAt now) := ⟨hclock, le_refl now, sendsBetween_sendAt now⟩

/-- The three passes can be run: the window is sent at 1000 ms and at 1100 ms. -/
theorem exists_threePasses : ∃ state, Runs .default (init 0) threePasses state ∧
    imageTimes state.updates (1, 12) = [Time.ofMs 1000, Time.ofMs 1100] ∧
    ∀ update ∈ state.updates, 33333000 ≤ update.window.imageInterval := by
  refine ⟨_, .cons ⟨le_refl _, rfl⟩ rfl (.cons ⟨le_refl _, rfl⟩ rfl
    (.cons (allowed_sendAt (by decide)) rfl (.cons ⟨by decide, rfl⟩ rfl
      (.cons (allowed_sendAt (by decide)) rfl (.cons (allowed_sendAt (by decide)) rfl
        (.nil _)))))), ?_, ?_⟩
  · decide +kernel
  · decide +kernel

/-- The two images of the window are more than an interval apart. -/
theorem images_spaced_threePasses : ∃ state : TimedRegistry,
    imageTimes state.updates (1, 12) = [Time.ofMs 1000, Time.ofMs 1100] ∧
    state.updates.Pairwise fun update later => update.window.key = later.window.key →
      ∀ time, update.imageTime = some time → time + later.window.imageInterval < later.now := by
  obtain ⟨state, hrun, htimes, -⟩ := exists_threePasses
  exact ⟨state, htimes, images_spaced hrun⟩

/-- There is room for 4 images in the tenth of a second. -/
theorem images_in_period_threePasses : ∃ state : TimedRegistry,
    imageTimes state.updates (1, 12) = [Time.ofMs 1000, Time.ofMs 1100] ∧
    (((imageTimes state.updates (1, 12)).filter fun time =>
      Time.ofMs 1000 ≤ time ∧ time ≤ Time.ofMs 1100).length : ℤ) ≤
        (Time.ofMs 1100 - Time.ofMs 1000) / 33333000 + 1 := by
  obtain ⟨state, hrun, htimes, hgap⟩ := exists_threePasses
  exact ⟨state, htimes, images_in_period hrun (by decide) (by decide)
    fun update hupdate _ => hgap update hupdate⟩

end TimedRegistry

end WebXEngine
