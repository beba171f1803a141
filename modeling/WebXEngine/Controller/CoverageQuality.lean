import WebXEngine.Controller.WindowQualityCap

/-! # The quality for the coverage of a window

The settings name a function that gives a quality for the covered fraction of a window. The handler of
the quality takes the other one of the two functions.

* **`configuredQuality`** — the quality that the settings ask for.
* **`Reached`** — the handlers that are reached, with the coverages that they were given.
* **`followsFunction_iff`** — the handler has that quality exactly when both functions give the same. -/

namespace WebXEngine

/-! ## What the settings ask for -/

/-- The fraction from which the index is calculated. -/
def CoverageQualityFunc.fraction (func : CoverageQualityFunc) (coverage : ℚ) : ℚ :=
  match func with
  | .quadratic => coverage * coverage
  | _ => coverage

/-- The quality that the settings ask for: the largest one under the mouse if they say so, and
otherwise that of an index which falls from the largest one to 1 while the window gets covered. -/
def configuredQuality (settings : WebXQualitySettings) (coverage : WebXWindowCoverage) : WebXQuality :=
  if settings.increaseQualityOnMouseOver && coverage.mouseOver then
    settings.max.maxQuality
  else
    let covered := RuntimeMaxQuality.clampCoverage coverage.coverage
    settings.max.qualityForIndex (Int.toNat
      ⌈(settings.max.index : ℚ) -
        ((settings.max.index : ℚ) - 1 / 100) * settings.coverageQualityFunc.fraction covered⌉)

/-- Both functions give the same quality for a coverage. -/
def FunctionsAgree (max : RuntimeMaxQuality) (coverage : ℚ) : Prop :=
  let covered := RuntimeMaxQuality.clampCoverage coverage
  max.indexForFraction covered = max.indexForFraction (covered * covered)

instance (max : RuntimeMaxQuality) (coverage : ℚ) : Decidable (FunctionsAgree max coverage) :=
  inferInstanceAs (Decidable (_ = _))

namespace RuntimeMaxQuality

variable (max : RuntimeMaxQuality)

/-- Qualities of the allowed range are told apart by their indices. -/
theorem qualityForIndex_inj {i j : ℤ} (hi : 0 < i.toNat ∧ i.toNat ≤ max.index)
    (hj : 0 < j.toNat ∧ j.toNat ≤ max.index) :
    max.qualityForIndex i.toNat = max.qualityForIndex j.toNat ↔ i = j := by
  constructor
  · intro h
    have hindex := congrArg WebXQuality.index h
    rw [max.qualityForIndex_eq_qualityAt hi.1 hi.2, max.qualityForIndex_eq_qualityAt hj.1 hj.2,
      index_qualityAt, index_qualityAt] at hindex
    omega
  · rintro rfl
    rfl

@[simp] theorem clampCoverage_zero : clampCoverage 0 = 0 := by
  decide

end RuntimeMaxQuality

namespace WebXWindowQualityHandler

variable {settings : WebXQualitySettings} {handler : WebXWindowQualityHandler} {now : Time}

/-- **The handler takes the other function**: it has the quality that is asked for where the functions
agree, and under the mouse. -/
theorem qualityForCoverage_eq_configuredQuality_iff
    (hfunc : settings.coverageQualityFunc ≠ .disabled) (coverage : WebXWindowCoverage) :
    qualityForCoverage settings coverage = configuredQuality settings coverage ↔
      (settings.increaseQualityOnMouseOver && coverage.mouseOver) = true ∨
        FunctionsAgree settings.max coverage.coverage := by
  rw [qualityForCoverage, configuredQuality]
  by_cases hmouse : (settings.increaseQualityOnMouseOver && coverage.mouseOver) = true
  · obtain ⟨hincrease, hover⟩ := Bool.and_eq_true_iff.mp hmouse
    rw [if_pos hmouse, if_pos hincrease, if_pos hover]
    exact iff_of_true rfl (.inl hmouse)
  · rw [if_neg hmouse, or_iff_right hmouse]
    have hlinear := settings.max.indexForFraction_clampCoverage_mem coverage.coverage
    have hquadratic := settings.max.indexForFraction_clampCoverage_sq_mem coverage.coverage
    -- without the mouse, both branches on the setting give the same
    have hchosen (quality : WebXQuality) : (if settings.increaseQualityOnMouseOver then
        if coverage.mouseOver then settings.max.maxQuality else quality else quality) = quality := by
      split_ifs with hincrease hover
      · exact absurd (Bool.and_eq_true_iff.mpr ⟨hincrease, hover⟩) hmouse
      · rfl
      · rfl
    rw [hchosen]
    cases hcase : settings.coverageQualityFunc with
    | disabled => exact absurd hcase hfunc
    | linear =>
        rw [if_neg (not_not.mpr rfl), RuntimeMaxQuality.qualityForImageCoverageQuadratic_eq]
        exact (settings.max.qualityForIndex_inj hquadratic hlinear).trans eq_comm
    | quadratic =>
        rw [if_pos (by decide), RuntimeMaxQuality.qualityForImageCoverageLinear_eq]
        exact settings.max.qualityForIndex_inj hlinear hquadratic

/-! ## What the operations do with the coverage -/

/-- The coverage of a handler, with its quality. -/
def coverageView (handler : WebXWindowQualityHandler) : WebXWindowCoverage × WebXQuality :=
  (handler.coverage, handler.coverageQuality)

@[simp] theorem coverageView_setCurrentQuality (quality : WebXQuality) :
    (handler.setCurrentQuality quality now).coverageView = handler.coverageView := by
  unfold setCurrentQuality
  split <;> rfl

@[simp] theorem coverageView_calculateQuality :
    (calculateQuality settings handler now).coverageView = handler.coverageView := by
  rw [calculateQuality]
  dsimp only
  split_ifs
  · cases (handler.calculateImageMbps now).2 with
    | none => rfl
    | some imageMbps => exact coverageView_setCurrentQuality _
  · exact coverageView_setCurrentQuality _

@[simp] theorem coverageView_onImageTransfer (transferData : WebXWindowImageTransferData) :
    (onImageTransfer settings handler transferData now).coverageView = handler.coverageView := by
  rw [onImageTransfer]
  split_ifs
  · exact coverageView_calculateQuality
  · rfl

/-- **A new coverage comes with its quality**; the same coverage changes nothing. -/
theorem coverageView_setWindowCoverage (hfunc : settings.coverageQualityFunc ≠ .disabled)
    (h : handler.coverageQuality = qualityForCoverage settings handler.coverage)
    (coverage : WebXWindowCoverage) :
    (setWindowCoverage settings handler coverage now).coverageView =
      (coverage, qualityForCoverage settings coverage) := by
  rw [setWindowCoverage_eq]
  split_ifs with hne
  · rw [coverageView_calculateQuality, coverageChanged]
    dsimp only
    rw [if_pos hfunc]
    split_ifs
    · exact congrArg (fun view => (view.1, qualityForCoverage settings coverage))
        (coverageView_setCurrentQuality _)
    · rfl
  · rw [not_not] at hne
    rw [coverageView, h, hne]

/-! ## Runs -/

/-- The handlers that are reached, with the coverages that they were given. -/
inductive Reached (settings : WebXQualitySettings) :
    List WebXWindowCoverage → WebXWindowQualityHandler → Prop
  | ofQuality (desiredQuality : WebXQuality) (now : Time) :
      Reached settings [] (ofQuality settings desiredQuality now)
  | ofCoverage (desiredQuality : WebXQuality) (coverage : WebXWindowCoverage) (now : Time) :
      Reached settings [coverage] (ofCoverage settings desiredQuality coverage now)
  | setWindowCoverage {given : List WebXWindowCoverage} {handler : WebXWindowQualityHandler}
      (h : Reached settings given handler) (coverage : WebXWindowCoverage) (now : Time) :
      Reached settings (given ++ [coverage]) (handler.setWindowCoverage settings coverage now)
  | calculateQuality {given : List WebXWindowCoverage} {handler : WebXWindowQualityHandler}
      (h : Reached settings given handler) (now : Time) :
      Reached settings given (handler.calculateQuality settings now)
  | onImageTransfer {given : List WebXWindowCoverage} {handler : WebXWindowQualityHandler}
      (h : Reached settings given handler) (transferData : WebXWindowImageTransferData) (now : Time) :
      Reached settings given (handler.onImageTransfer settings transferData now)

/-- The last coverage that was given; a handler starts with that of a window that is not covered. -/
def lastCoverage (given : List WebXWindowCoverage) : WebXWindowCoverage := given.getLastD ⟨0, false⟩

@[simp] theorem lastCoverage_concat (given : List WebXWindowCoverage) (coverage : WebXWindowCoverage) :
    lastCoverage (given ++ [coverage]) = coverage := by
  simp [lastCoverage]

/-- The largest quality is that of a window that is not covered. -/
theorem qualityForCoverage_start :
    qualityForCoverage settings ⟨0, false⟩ = settings.max.maxQuality := by
  have hindex : (settings.max.indexForFraction 0).toNat = settings.max.index := by
    simp [RuntimeMaxQuality.indexForFraction]
  have hmax : settings.max.qualityForIndex settings.max.index = settings.max.maxQuality :=
    settings.max.qualityForIndex_eq_qualityAt settings.max.pos le_rfl
  simp [qualityForCoverage, RuntimeMaxQuality.qualityForImageCoverageLinear_eq,
    RuntimeMaxQuality.qualityForImageCoverageQuadratic_eq, hindex, hmax]

/-- **What is stored in a handler that is reached**: the last coverage, and its quality. -/
theorem Reached.coverageView_eq (hfunc : settings.coverageQualityFunc ≠ .disabled)
    {given : List WebXWindowCoverage} (h : Reached settings given handler) :
    handler.coverageView = (lastCoverage given, qualityForCoverage settings (lastCoverage given)) := by
  have hkeep {given : List WebXWindowCoverage} {handler : WebXWindowQualityHandler}
      (hview : handler.coverageView =
        (lastCoverage given, qualityForCoverage settings (lastCoverage given))) :
      handler.coverageQuality = qualityForCoverage settings handler.coverage :=
    (congrArg Prod.snd hview).trans
      (congrArg (qualityForCoverage settings) (congrArg Prod.fst hview).symm)
  have hstart (desiredQuality : WebXQuality) (now : Time) :
      (WebXWindowQualityHandler.ofQuality settings desiredQuality now).coverageView =
        (lastCoverage [], qualityForCoverage settings (lastCoverage [])) :=
    congrArg (Prod.mk _) qualityForCoverage_start.symm
  -- the operations either set the coverage with its quality, or touch neither
  induction h with
  | ofQuality desiredQuality now => exact hstart desiredQuality now
  | ofCoverage desiredQuality coverage now =>
      exact coverageView_setWindowCoverage hfunc (hkeep (hstart desiredQuality now)) coverage
  | setWindowCoverage h coverage now ih =>
      rw [coverageView_setWindowCoverage hfunc (hkeep ih) coverage, lastCoverage_concat]
  | calculateQuality h now ih => exact coverageView_calculateQuality.trans ih
  | onImageTransfer h transferData now ih =>
      exact (coverageView_onImageTransfer transferData).trans ih

end WebXWindowQualityHandler

open WebXWindowQualityHandler in
/-- In every handler that is reached, the stored quality is that which the settings ask for. -/
def FollowsFunction (settings : WebXQualitySettings) : Prop :=
  ∀ given handler, Reached settings given handler →
    handler.coverageQuality = configuredQuality settings handler.coverage

open WebXWindowQualityHandler in
/-- **The stored quality is the configured one exactly when the mouse decides it, or both functions
give the same for the last coverage.** -/
theorem followsFunction_iff (settings : WebXQualitySettings)
    (hfunc : settings.coverageQualityFunc ≠ .disabled) {given : List WebXWindowCoverage}
    {handler : WebXWindowQualityHandler} (h : Reached settings given handler) :
    handler.coverageQuality = configuredQuality settings handler.coverage ↔
      (settings.increaseQualityOnMouseOver && (lastCoverage given).mouseOver) = true ∨
        FunctionsAgree settings.max (lastCoverage given).coverage := by
  have hview := h.coverageView_eq hfunc
  rw [show handler.coverage = _ from congrArg Prod.fst hview,
    show handler.coverageQuality = _ from congrArg Prod.snd hview]
  exact qualityForCoverage_eq_configuredQuality_iff hfunc (lastCoverage given)

/-- A window that is covered by half, with the function that is configured by default. -/
theorem followsFunction_iff_half :
    ¬ (WebXWindowQualityHandler.ofCoverage WebXSettings.default.quality
        (WebXSettings.default.quality.max.qualityForIndex 12) ⟨1 / 2, false⟩ 0).coverageQuality =
      configuredQuality WebXSettings.default.quality
        (WebXWindowQualityHandler.ofCoverage WebXSettings.default.quality
          (WebXSettings.default.quality.max.qualityForIndex 12) ⟨1 / 2, false⟩ 0).coverage :=
  (followsFunction_iff WebXSettings.default.quality (by decide) (.ofCoverage _ _ _)).not.mpr
    (by decide +kernel)

/-- The quality of a window that is covered by half is that of the other function, whichever of the
two is configured. -/
theorem not_followsFunction :
    ¬ FollowsFunction WebXSettings.default.quality ∧
      ¬ FollowsFunction { WebXSettings.default.quality with coverageQualityFunc := .linear } := by
  constructor
  · intro h
    exact absurd (h _ _ (.ofCoverage (WebXSettings.default.quality.max.qualityForIndex 12)
      ⟨1 / 2, false⟩ 0)) (by decide +kernel)
  · intro h
    exact absurd (h _ _ (.ofCoverage (WebXSettings.default.quality.max.qualityForIndex 12)
      ⟨1 / 2, false⟩ 0)) (by decide +kernel)

end WebXEngine
