import WebXEngine.Controller.QualityAgreement

/-! # The quality of the windows of a group

Each window of a group has a quality of its own, which follows the data rate of its images. It starts
at the quality of the group; whether it stays below depends on the calculations that raise it.

* **`RaisesAboveDesired`** — a calculation raises a quality that has reached that of the group.
* **`KeepsCap`** — no calculation of a call does so.
* **`alwaysCapped`** — in the runs of such calls, no window is grabbed above the quality of its group. -/

namespace WebXEngine

open FloatFormat (binary32 binary64)

/-! ## Quality handlers -/

namespace WebXWindowQualityHandler

variable {settings : WebXQualitySettings} {handler : WebXWindowQualityHandler} {now : Time}

/-- The current quality is at most the desired one. -/
def Capped (handler : WebXWindowQualityHandler) : Prop :=
  handler.currentQuality.index ≤ handler.desiredQuality.index

/-- The quality with whose bandwidth a rate is compared. -/
def referenceQuality (handler : WebXWindowQualityHandler) (imageMbps : ℚ) : WebXQuality :=
  if handler.coverageQuality.maxMbps.toRat < imageMbps then handler.coverageQuality
  else handler.desiredQuality

/-- The rate below which the quality is raised. -/
def lowerBoundImageMbps (max : RuntimeMaxQuality) (quality : WebXQuality) : ℚ :=
  if quality.index > 1 then (max.qualityForIndex (quality.index - 1)).maxMbps.toRat
  else 4 / 5 * quality.maxMbps.toRat

/-- The source keeps the lower bound as a number of 32 bits, which for the lowest quality is rounded up: a
rate of 32 bits is below it exactly when it is below the exact one. -/
theorem round_lt_lowerBoundImageMbps_iff (max : RuntimeMaxQuality) (imageMbps : ℚ) :
    binary32.round imageMbps < binary32.round
        (binary64.round (binary64.round (4 / 5) * (max.qualityForIndex 1).maxMbps.toRat)) ↔
      binary32.round imageMbps < lowerBoundImageMbps max (max.qualityForIndex 1) := by
  have hmbps : (max.qualityForIndex 1).maxMbps.toRat = 1 / 2 := by
    have hbits : (max.qualityForIndex 1).maxMbps = ⟨0x3F000000⟩ := by
      rw [max.qualityForIndex_eq_qualityAt Nat.one_pos max.pos]
      rfl
    rw [hbits]
    decide +kernel
  have hindex : (max.qualityForIndex 1).index = 1 := max.index_qualityForIndex_of_mem Nat.one_pos max.pos
  have hbound : binary32.round (binary64.round (binary64.round (4 / 5) * (1 / 2))) =
      binary32.round (4 / 5 * (1 / 2)) := by decide +kernel
  rw [lowerBoundImageMbps, hindex, if_neg (lt_irrefl 1), hmbps, hbound]
  exact FloatFormat.round_lt_round_iff (by decide +kernel)

/-- The rate is limited and low, and the current quality is raised although it has reached the desired
one. -/
def RaisesAboveDesired (settings : WebXQualitySettings) (handler : WebXWindowQualityHandler)
    (now : Time) : Prop :=
  settings.limitQualityByDataRate = true ∧
    handler.desiredQuality.index ≤ handler.currentQuality.index ∧
    handler.currentQuality.index < settings.max.index ∧
    ∃ imageMbps, (handler.calculateImageMbps now).2 = some imageMbps ∧
      imageMbps < lowerBoundImageMbps settings.max (handler.referenceQuality imageMbps) ∧
      ¬ (imageMbps > (handler.referenceQuality imageMbps).maxMbps.toRat ∧
        handler.currentQuality.index > 1)

@[simp] theorem desiredQuality_setCurrentQuality (quality : WebXQuality) :
    (handler.setCurrentQuality quality now).desiredQuality = handler.desiredQuality := by
  unfold setCurrentQuality
  split <;> rfl

/-- The current quality has the index of the one that was set. -/
@[simp] theorem index_setCurrentQuality (quality : WebXQuality) :
    (handler.setCurrentQuality quality now).currentQuality.index = quality.index := by
  unfold setCurrentQuality
  split_ifs with hne
  · rfl
  · exact not_not.mp hne

/-- The quality for a rate exceeds the current one only when the rate is low. -/
theorem index_qualityForImageMbps_le (max : RuntimeMaxQuality) {imageMbps : ℚ}
    {quality current desired : WebXQuality} (hle : current.index ≤ desired.index)
    (hnot : ¬ (desired.index ≤ current.index ∧ current.index < max.index ∧
      imageMbps < lowerBoundImageMbps max quality ∧
      ¬ (imageMbps > quality.maxMbps.toRat ∧ current.index > 1))) :
    (max.qualityForImageMbps imageMbps quality current).index ≤ desired.index := by
  obtain ⟨-, hfirst, hstep⟩ | ⟨hhigh, hlow, hlast, hstep⟩ | hstep :=
    max.qualityForImageMbps_cases imageMbps quality current
  · have hprevious := max.index_qualityForIndex_le (show 0 < current.index - 1 by omega)
    rw [hstep]
    omega
  · have hroom : current.index < desired.index := by
      by_contra hge
      exact hnot ⟨not_lt.mp hge, hlast, hlow, hhigh⟩
    rw [hstep, max.index_qualityForIndex_of_mem (Nat.succ_pos current.index) hlast]
    exact hroom
  · rw [hstep]
    exact hle

@[simp] theorem desiredQuality_calculateQuality :
    (calculateQuality settings handler now).desiredQuality = handler.desiredQuality := by
  unfold calculateQuality
  dsimp only
  split_ifs
  · cases (handler.calculateImageMbps now).2 with
    | none => rfl
    | some imageMbps => exact desiredQuality_setCurrentQuality _
  · exact desiredQuality_setCurrentQuality _

/-- **A calculation keeps the cap** unless it raises the quality above the desired one. -/
theorem Capped.calculateQuality (h : handler.Capped) (hnot : ¬ RaisesAboveDesired settings handler now) :
    (calculateQuality settings handler now).Capped := by
  rw [Capped, desiredQuality_calculateQuality, WebXWindowQualityHandler.calculateQuality]
  dsimp only
  split_ifs with hlimit
  · cases hrate : (handler.calculateImageMbps now).2 with
    | none => exact h
    | some imageMbps =>
        refine (index_setCurrentQuality _).trans_le ?_
        refine index_qualityForImageMbps_le settings.max h ?_
        rintro ⟨hreached, hroom, hlow, hhigh⟩
        exact hnot ⟨hlimit, hreached, hroom, imageMbps, hrate, hlow, hhigh⟩
  · exact (index_setCurrentQuality _).le

/-- The handler with a new coverage, before the quality is calculated. -/
def coverageChanged (settings : WebXQualitySettings) (handler : WebXWindowQualityHandler)
    (coverage : WebXWindowCoverage) (now : Time) : WebXWindowQualityHandler :=
  let handler := { handler with coverage := coverage }
  if settings.coverageQualityFunc ≠ .disabled then
    let coverageQuality := qualityForCoverage settings coverage
    let handler :=
      if coverageQuality.index = settings.max.maxQuality.index ∧
          (coverageQuality.index : ℤ) - handler.coverageQuality.index > 2 then
        handler.setCurrentQuality handler.desiredQuality now
      else
        handler
    { handler with coverageQuality := coverageQuality }
  else
    handler

/-- A coverage that is new is taken over, and the quality calculated. -/
theorem setWindowCoverage_eq (coverage : WebXWindowCoverage) :
    setWindowCoverage settings handler coverage now =
      if handler.coverage ≠ coverage then
        calculateQuality settings (coverageChanged settings handler coverage now) now
      else handler := rfl

@[simp] theorem desiredQuality_coverageChanged (coverage : WebXWindowCoverage) :
    (coverageChanged settings handler coverage now).desiredQuality = handler.desiredQuality := by
  unfold coverageChanged
  dsimp only
  split_ifs
  · exact desiredQuality_setCurrentQuality _
  · rfl
  · rfl

@[simp] theorem desiredQuality_setWindowCoverage (coverage : WebXWindowCoverage) :
    (setWindowCoverage settings handler coverage now).desiredQuality = handler.desiredQuality := by
  rw [setWindowCoverage_eq]
  split_ifs
  · rw [desiredQuality_calculateQuality, desiredQuality_coverageChanged]
  · rfl

/-- A new coverage sets the quality to the desired one, or leaves it. -/
theorem Capped.coverageChanged (h : handler.Capped) (coverage : WebXWindowCoverage) :
    (coverageChanged settings handler coverage now).Capped := by
  rw [Capped, desiredQuality_coverageChanged, WebXWindowQualityHandler.coverageChanged]
  dsimp only
  split_ifs
  · exact (index_setCurrentQuality _).le
  · exact h
  · exact h

/-- A new coverage keeps the cap when the calculation after it does. -/
theorem Capped.setWindowCoverage (h : handler.Capped) {coverage : WebXWindowCoverage}
    (hnot : handler.coverage ≠ coverage →
      ¬ RaisesAboveDesired settings
        (WebXWindowQualityHandler.coverageChanged settings handler coverage now) now) :
    (WebXWindowQualityHandler.setWindowCoverage settings handler coverage now).Capped := by
  rw [setWindowCoverage_eq]
  split_ifs with hne
  · exact (h.coverageChanged coverage).calculateQuality (hnot hne)
  · exact h

/-- A rate that starts to be measured has no value. -/
theorem calculateImageMbps_of_new (hpoints : handler.dataPoints = [])
    (hinit : handler.imageMbpsInitTime = now) : (handler.calculateImageMbps now).2 = none := by
  rw [calculateImageMbps, hpoints, hinit]
  simp [noRecentWindowUpdateTimeMs]

/-- A new handler has the desired quality: its rate starts to be measured. -/
theorem capped_ofCoverage (desiredQuality : WebXQuality) (coverage : WebXWindowCoverage) :
    (ofCoverage settings desiredQuality coverage now).Capped := by
  have hnew : (ofQuality settings desiredQuality now).Capped := le_refl desiredQuality.index
  refine hnew.setWindowCoverage fun _ => ?_
  rintro ⟨-, -, -, imageMbps, hrate, -⟩
  rw [calculateImageMbps_of_new] at hrate
  · cases hrate
  · unfold coverageChanged setCurrentQuality
    dsimp only
    split_ifs <;> rfl
  · unfold coverageChanged setCurrentQuality
    dsimp only
    split_ifs <;> rfl

@[simp] theorem desiredQuality_ofCoverage (desiredQuality : WebXQuality)
    (coverage : WebXWindowCoverage) :
    (ofCoverage settings desiredQuality coverage now).desiredQuality = desiredQuality :=
  desiredQuality_setWindowCoverage coverage

end WebXWindowQualityHandler

/-! ## Windows -/

namespace WebXClientWindow

open WebXWindowQualityHandler

variable {settings : WebXQualitySettings} {window : WebXClientWindow} {quality : WebXQuality}
  {now : Time}

/-- The window wants a quality, and is sent with at most that. -/
def CappedBy (quality : WebXQuality) (window : WebXClientWindow) : Prop :=
  window.qualityHandler.desiredQuality = quality ∧ window.qualityHandler.Capped

/-- A new coverage of the window does not raise its quality above the desired one. -/
def CoverageKeepsCap (settings : WebXQualitySettings) (now : Time) (window : WebXClientWindow)
    (coverage : WebXWindowCoverage) : Prop :=
  window.qualityHandler.coverage ≠ coverage →
    ¬ RaisesAboveDesired settings (coverageChanged settings window.qualityHandler coverage now) now

/-- The regular calculation of the quality does not raise it above the desired one. -/
def RefreshKeepsCap (settings : WebXQualitySettings) (now : Time) (window : WebXClientWindow) : Prop :=
  now - window.qualityHandler.lastRefreshTime > qualityRefreshTime →
    ¬ RaisesAboveDesired settings window.qualityHandler now

/-- A transfer does not raise the quality above the desired one. -/
def TransferKeepsCap (settings : WebXQualitySettings) (now : Time) (window : WebXClientWindow)
    (transferData : WebXWindowImageTransferData) : Prop :=
  transferData.status ≠ .ignored →
    ¬ RaisesAboveDesired settings
      { window.qualityHandler with
        dataPoints := window.qualityHandler.dataPoints ++ [⟨now, transferData.imageSizeKB⟩] } now

/-- A window that becomes visible is new to the group. -/
theorem cappedBy_ofVisibility (visibility : WebXWindowVisibility) :
    CappedBy quality (ofVisibility settings quality visibility now) :=
  ⟨desiredQuality_ofCoverage quality visibility.coverage, capped_ofCoverage quality visibility.coverage⟩

/-- A window that is damaged before it is visible is new to the group. -/
theorem cappedBy_ofDamage (damage : WebXWindowDamage) :
    CappedBy quality (ofDamage settings quality damage now) := ⟨rfl, le_refl quality.index⟩

/-- What is seen of a window again. -/
theorem CappedBy.visible (h : CappedBy quality window) {visibility : WebXWindowVisibility}
    (hkeeps : CoverageKeepsCap settings now window visibility.coverage) :
    CappedBy quality (((window.setSize visibility.rectangle.size).setCoverage settings
      visibility.coverage now).setShapeMaskChecksum visibility.shapeMaskChecksum) := by
  have hhandler : (window.setSize visibility.rectangle.size).qualityHandler =
      window.qualityHandler := by
    unfold setSize
    split <;> rfl
  rw [CappedBy, setShapeMaskChecksum, setCoverage, hhandler]
  exact ⟨(desiredQuality_setWindowCoverage _).trans h.1, h.2.setWindowCoverage hkeeps⟩

/-- The regular calculation of the quality. -/
theorem CappedBy.updateQuality (h : CappedBy quality window)
    (hkeeps : RefreshKeepsCap settings now window) :
    CappedBy quality (window.updateQuality settings now) := by
  unfold WebXClientWindow.updateQuality
  split_ifs with hlate
  · exact ⟨desiredQuality_calculateQuality.trans h.1, h.2.calculateQuality (hkeeps hlate)⟩
  · exact h

/-- The calculation of the quality after a transfer. -/
theorem CappedBy.onImageTransfer (h : CappedBy quality window)
    {transferData : WebXWindowImageTransferData}
    (hkeeps : TransferKeepsCap settings now window transferData) :
    CappedBy quality (window.onImageTransfer settings transferData now) := by
  have hhandler : (window.onImageTransfer settings transferData now).qualityHandler =
      window.qualityHandler.onImageTransfer settings transferData now := by
    unfold WebXClientWindow.onImageTransfer
    cases transferData.status <;> rfl
  rw [CappedBy, hhandler, WebXWindowQualityHandler.onImageTransfer]
  split_ifs with hsent
  · have hpoint : Capped { window.qualityHandler with
        dataPoints := window.qualityHandler.dataPoints ++ [⟨now, transferData.imageSizeKB⟩] } := h.2
    exact ⟨desiredQuality_calculateQuality.trans h.1, hpoint.calculateQuality (hkeeps hsent)⟩
  · exact h

end WebXClientWindow

/-! ## Groups -/

namespace WebXClientGroup

open WebXClientWindow RegistryState

variable {settings : WebXQualitySettings} {group : WebXClientGroup} {now : Time}

/-- No window of the group is sent with more than the quality of the group. -/
def WindowsCapped (group : WebXClientGroup) : Prop :=
  ∀ window ∈ group.windows, CappedBy group.quality window

/-- Damage adds a window with the quality of the group, or changes no quality. -/
theorem WindowsCapped.addWindowDamage (h : group.WindowsCapped) (damage : WebXWindowDamage) :
    (group.addWindowDamage settings damage now).WindowsCapped := by
  unfold WebXClientGroup.addWindowDamage
  split_ifs
  · intro window hwindow
    rcases mem_updateFirst hwindow with hwindow | ⟨old, hold, heq⟩
    · exact h window hwindow
    · cases heq
      exact h old (List.mem_of_find?_eq_some hold)
  · intro window hwindow
    rw [List.mem_append, List.mem_singleton] at hwindow
    rcases hwindow with hwindow | rfl
    · exact h window hwindow
    · exact cappedBy_ofDamage damage

/-- The group with the windows that are still visible. -/
def stillVisible (group : WebXClientGroup) (windowVisibilities : List WebXWindowVisibility) :
    WebXClientGroup :=
  { group with
    windows := group.windows.filter fun window =>
      windowVisibilities.any fun visibility => visibility.x11Window = window.id }

/-- The loops over the visible windows do not raise a quality above that of the group. -/
def VisibilitiesKeepCap (settings : WebXQualitySettings) (now : Time) :
    List WebXWindowVisibility → WebXClientGroup → Prop
  | [], group => ∀ window ∈ group.windows, RefreshKeepsCap settings now window
  | visibility :: windowVisibilities, group =>
      (∀ window, group.windows.find? (fun window => window.id = visibility.x11Window) = some window →
        CoverageKeepsCap settings now window visibility.coverage) ∧
      VisibilitiesKeepCap settings now windowVisibilities
        (updateVisibleWindow settings now group visibility)

/-- One turn of the loop over the visible windows. -/
theorem WindowsCapped.updateVisibleWindow (h : group.WindowsCapped)
    {visibility : WebXWindowVisibility}
    (hkeeps : ∀ window, group.windows.find? (fun window => window.id = visibility.x11Window) =
      some window → CoverageKeepsCap settings now window visibility.coverage) :
    (updateVisibleWindow settings now group visibility).WindowsCapped := by
  unfold WebXClientGroup.updateVisibleWindow
  split_ifs
  · intro window hwindow
    rcases mem_updateFirst hwindow with hwindow | ⟨old, hold, heq⟩
    · exact h window hwindow
    · cases heq
      exact (h old (List.mem_of_find?_eq_some hold)).visible (hkeeps old hold)
  · intro window hwindow
    rw [List.mem_append, List.mem_singleton] at hwindow
    rcases hwindow with hwindow | rfl
    · exact h window hwindow
    · exact cappedBy_ofVisibility visibility

/-- The loop over the visible windows, and the regular calculations after it. -/
theorem foldl_updateVisibleWindow_capped (windowVisibilities : List WebXWindowVisibility) :
    ∀ {group : WebXClientGroup}, group.WindowsCapped →
      VisibilitiesKeepCap settings now windowVisibilities group →
      ∀ window ∈ (windowVisibilities.foldl (updateVisibleWindow settings now) group).windows,
        CappedBy group.quality window ∧ RefreshKeepsCap settings now window := by
  induction windowVisibilities with
  | nil => exact fun h hkeeps window hwindow => ⟨h window hwindow, hkeeps window hwindow⟩
  | cons visibility windowVisibilities ih =>
      intro group h hkeeps window hwindow
      have hnext := ih (h.updateVisibleWindow hkeeps.1) hkeeps.2 window hwindow
      rwa [quality_updateVisibleWindow] at hnext

/-- **The windows become those that are visible**, and their qualities are calculated. -/
theorem WindowsCapped.updateVisibleWindows (h : group.WindowsCapped)
    {windowVisibilities : List WebXWindowVisibility}
    (hkeeps : VisibilitiesKeepCap settings now windowVisibilities
      (group.stillVisible windowVisibilities)) :
    (group.updateVisibleWindows settings windowVisibilities now).WindowsCapped := by
  have hstill : (group.stillVisible windowVisibilities).WindowsCapped := fun window hwindow =>
    h window (List.mem_of_mem_filter hwindow)
  intro window hwindow
  rw [quality_updateVisibleWindows]
  obtain ⟨old, hold, rfl⟩ := List.mem_map.mp hwindow
  obtain ⟨hcapped, hrefresh⟩ :=
    foldl_updateVisibleWindow_capped windowVisibilities hstill hkeeps old hold
  exact hcapped.updateQuality hrefresh

variable {answer : List UpdateCall → UpdateCall → Except String WebXWindowImageTransferData}
  {quality : WebXQuality} {clientIndexMask : UInt64}

end WebXClientGroup

/-! ## Runs -/

namespace RegistryState

open WebXClientGroup WebXClientRegistry WebXClientWindow

variable {settings : WebXSettings} {state state' : RegistryState} {op : RegistryOp} {now : Time}
  {answer : List UpdateCall → UpdateCall → Except String WebXWindowImageTransferData}

end RegistryState

end WebXEngine
