import WebXEngine.Display.Display
import WebXEngine.Foundations.Runs

/-! # Looking for visible windows

The visible windows are looked for by their identifiers, which are read through their pointers. The
search fails when it meets a window that was freed before it finds the one that it looks for.

* **`WebXDisplay.IsAlive`** — a visible window was not freed.
* **`WebXDisplay.Findable`** — the search does not fail.
* **`WebXDisplay.SameWindows`** — the windows are the same, apart from their attributes and shapes.
* **`WebXDisplay.SameShapes`** — the shapes are the same as well.
* **`WebXDisplay.visibleAlive_of_updateVisibleWindows`** — no visible window was freed when the list of them
  has been made again. -/

namespace WebXEngine

namespace WebXDisplay

variable {display display' : WebXDisplay} {x11Window : UInt32} {window : WebXWindow}

/-- The use of a window that is in the table. -/
theorem deref_of_getWindow (h : display.getWindow x11Window = some window) :
    display.deref x11Window = .ok window := by
  rw [deref, h]

/-- The window that a pointer of the list of the visible windows points to was not freed. -/
def IsAlive (display : WebXDisplay) (x11Window : UInt32) : Prop :=
  x11Window ∉ display.staleWindows ∧ (display.getWindow x11Window).isSome = true

instance (display : WebXDisplay) (x11Window : UInt32) : Decidable (display.IsAlive x11Window) :=
  inferInstanceAs (Decidable (_ ∧ _))

/-- The use of a visible window that was not freed. -/
theorem IsAlive.derefVisible (h : display.IsAlive x11Window) :
    ∃ window, display.getWindow x11Window = some window ∧
      display.derefVisible x11Window = .ok window := by
  obtain ⟨window, hwindow⟩ := Option.isSome_iff_exists.mp h.2
  exact ⟨window, hwindow, (if_neg h.1).trans (deref_of_getWindow hwindow)⟩

/-- The window that a pointer of the list leads to is the one of the table. -/
theorem getWindow_of_derefVisible (h : display.derefVisible x11Window = .ok window) :
    display.getWindow x11Window = some window := by
  rw [derefVisible, deref] at h
  split_ifs at h
  cases hwindow : display.getWindow x11Window with
  | none =>
      rw [hwindow] at h
      cases h
  | some known =>
      rw [hwindow] at h
      exact congrArg some (Except.ok.inj h)

/-- The use of a visible window that was freed. -/
theorem derefVisible_of_not_isAlive (h : ¬ display.IsAlive x11Window) :
    display.derefVisible x11Window = .error .freedObject := by
  rw [derefVisible]
  split_ifs with hstale
  · rfl
  · rw [IsAlive, not_and, Option.not_isSome_iff_eq_none] at h
    rw [deref, h hstale]

/-! ## The search -/

/-- The windows of a list, up to the one that is looked for, were not freed. -/
def FindableIn (display : WebXDisplay) (x11Window : UInt32) : List UInt32 → Prop
  | [] => True
  | window :: windows => display.IsAlive window ∧
      (window ≠ x11Window → FindableIn display x11Window windows)

/-- The visible windows, up to the one that is looked for, were not freed. -/
def Findable (display : WebXDisplay) (x11Window : UInt32) : Prop :=
  display.FindableIn x11Window display.visibleWindows

/-- The window that is found was not freed. -/
theorem FindableIn.isSome {windows : List UInt32} (h : display.FindableIn x11Window windows)
    (hmem : x11Window ∈ windows) : (display.getWindow x11Window).isSome = true := by
  induction windows with
  | nil => cases hmem
  | cons window windows ih =>
      by_cases hwindow : window = x11Window
      · exact hwindow ▸ h.1.2
      · exact ih (h.2 hwindow) ((List.mem_cons.mp hmem).resolve_left (Ne.symm hwindow))

/-- The search says if the window is in the list, when it meets no window that was freed. -/
theorem findIfVisible_of_findableIn {windows : List UInt32}
    (h : display.FindableIn x11Window windows) :
    display.findIfVisible x11Window windows = .ok (decide (x11Window ∈ windows)) := by
  induction windows with
  | nil => simp [findIfVisible]
  | cons window windows ih =>
      obtain ⟨known, -, hknown⟩ := h.1.derefVisible
      rw [findIfVisible, hknown]
      by_cases hwindow : window = x11Window
      · simp [hwindow, bind, Except.bind, pure, Except.pure]
      · simp [hwindow, Ne.symm hwindow, ih (h.2 hwindow), bind, Except.bind]

/-- The search ends at a window that was freed, if it meets one. -/
theorem findIfVisible_of_not_findableIn {windows : List UInt32}
    (h : ¬ display.FindableIn x11Window windows) :
    display.findIfVisible x11Window windows = .error .freedObject := by
  induction windows with
  | nil => exact absurd trivial h
  | cons window windows ih =>
      rw [findIfVisible]
      by_cases halive : display.IsAlive window
      · obtain ⟨known, -, hknown⟩ := halive.derefVisible
        rw [hknown]
        rw [FindableIn, not_and, Classical.not_imp] at h
        obtain ⟨hne, hothers⟩ := h halive
        simp [hne, ih hothers, bind, Except.bind]
      · rw [derefVisible_of_not_isAlive halive]
        rfl

section Call

variable {α : Type} {otherwise : α} {visibleWindowCallable : Except Fault α}

/-- **A function is called with a window exactly when the window is visible.** -/
theorem callIfWindowVisible_of_findable (h : display.Findable x11Window) :
    display.callIfWindowVisible x11Window otherwise visibleWindowCallable =
      if x11Window ∈ display.visibleWindows then visibleWindowCallable else .ok otherwise := by
  rw [callIfWindowVisible, findIfVisible_of_findableIn h]
  by_cases hvisible : x11Window ∈ display.visibleWindows
  · simp [hvisible, bind, Except.bind]
  · simp [hvisible, bind, Except.bind, pure, Except.pure]

/-- Nothing is called when the search fails. -/
theorem callIfWindowVisible_of_not_findable (h : ¬ display.Findable x11Window) :
    display.callIfWindowVisible x11Window otherwise visibleWindowCallable =
      .error .freedObject := by
  rw [callIfWindowVisible, findIfVisible_of_not_findableIn h]
  rfl

/-- What a call returns is what the function returns, or the value for a window that is not visible. -/
theorem eq_of_callIfWindowVisible {result : α}
    (h : display.callIfWindowVisible x11Window otherwise visibleWindowCallable = .ok result) :
    result = otherwise ∨ visibleWindowCallable = .ok result := by
  obtain ⟨visible, -, h⟩ := exists_of_bind_eq_ok h
  cases visible with
  | true => exact .inr h
  | false =>
      cases h
      exact .inl rfl

end Call

/-! ## Changes of the windows -/

/-- The windows are the same, apart from their attributes and shapes. -/
structure SameWindows (display display' : WebXDisplay) : Prop where
  visibleWindows : display'.visibleWindows = display.visibleWindows
  staleWindows : display'.staleWindows = display.staleWindows
  known : ∀ w, (display'.getWindow w).isSome = (display.getWindow w).isSome

/-- Nothing changes. -/
theorem SameWindows.refl (display : WebXDisplay) : SameWindows display display :=
  ⟨rfl, rfl, fun _ => rfl⟩

/-- Changes follow each other. -/
theorem SameWindows.trans {display'' : WebXDisplay} (h : SameWindows display display')
    (h' : SameWindows display' display'') : SameWindows display display'' :=
  ⟨h'.visibleWindows.trans h.visibleWindows, h'.staleWindows.trans h.staleWindows,
    fun w => (h'.known w).trans (h.known w)⟩

/-- A window that was not freed is still there. -/
theorem SameWindows.isAlive (h : SameWindows display display') :
    display'.IsAlive x11Window ↔ display.IsAlive x11Window := by
  rw [IsAlive, IsAlive, h.staleWindows, h.known]

/-- A window that was found is found again. -/
theorem SameWindows.findable (h : SameWindows display display') :
    display'.Findable x11Window ↔ display.Findable x11Window := by
  have hlist (windows : List UInt32) :
      display'.FindableIn x11Window windows ↔ display.FindableIn x11Window windows := by
    induction windows with
    | nil => exact Iff.rfl
    | cons window windows ih => rw [FindableIn, FindableIn, h.isAlive, ih]
  rw [Findable, Findable, h.visibleWindows, hlist]

/-- A change of a window. -/
theorem modifyWindow_of_some (hwindow : display.getWindow x11Window = some window)
    (change : WebXWindow → WebXWindow) :
    ∃ display', display.modifyWindow x11Window change = .ok display' ∧
      display'.getWindow x11Window = some (change window) ∧ SameWindows display display' := by
  refine ⟨display.setWindow x11Window (some (change window)), ?_, ?_, rfl, rfl, ?_⟩
  · rw [modifyWindow, deref_of_getWindow hwindow]
    rfl
  · exact if_pos rfl
  · intro w
    rw [getWindow, setWindow]
    by_cases hw : w = x11Window
    · subst hw
      simp [hwindow]
    · simp [hw, getWindow]

/-- A change of a window leaves the others as they are. -/
theorem modifyWindow_spec {change : WebXWindow → WebXWindow}
    (h : display.modifyWindow x11Window change = .ok display') :
    display'.rootWindow = display.rootWindow ∧
      (∃ window, display.getWindow x11Window = some window ∧
        display'.getWindow x11Window = some (change window)) ∧
      ∀ w, w ≠ x11Window → display'.getWindow w = display.getWindow w := by
  obtain ⟨window, hwindow, h⟩ := exists_of_bind_eq_ok h
  cases h
  refine ⟨rfl, ⟨window, ?_, if_pos rfl⟩, fun w hw => if_neg hw⟩
  rw [deref] at hwindow
  cases hknown : display.getWindow x11Window with
  | none =>
      rw [hknown] at hwindow
      cases hwindow
  | some known =>
      rw [hknown] at hwindow
      cases hwindow
      rfl

/-- A change of a window leaves the same windows in the table and in the list of the visible ones. -/
theorem sameWindows_modifyWindow {change : WebXWindow → WebXWindow}
    (h : display.modifyWindow x11Window change = .ok display') : SameWindows display display' := by
  obtain ⟨window, -, hdisplay⟩ := exists_of_bind_eq_ok h
  cases hdisplay
  refine ⟨rfl, rfl, fun w => ?_⟩
  obtain ⟨-, ⟨window, hbefore, hafter⟩, hothers⟩ := modifyWindow_spec h
  by_cases hw : w = x11Window
  · rw [hw, hbefore, hafter]
    rfl
  · rw [hothers w hw]

/-- The visible windows are the same, and so are the shapes of the windows. -/
structure SameShapes (display display' : WebXDisplay) : Prop extends
    SameWindows display display' where
  shape : ∀ w, (display'.getWindow w).map WebXWindow.shape = (display.getWindow w).map WebXWindow.shape

/-- Nothing changes. -/
theorem SameShapes.refl (display : WebXDisplay) : SameShapes display display :=
  ⟨.refl display, fun _ => rfl⟩

/-- Changes follow each other. -/
theorem SameShapes.trans {display'' : WebXDisplay} (h : SameShapes display display')
    (h' : SameShapes display' display'') : SameShapes display display'' :=
  ⟨h.toSameWindows.trans h'.toSameWindows, fun w => (h'.shape w).trans (h.shape w)⟩

/-- A change of a window that leaves its shape as it is. -/
theorem sameShapes_modifyWindow
    (hwindow : display.getWindow x11Window = some window) (change : WebXWindow → WebXWindow)
    (hshape : (change window).shape = window.shape) :
    ∃ display', display.modifyWindow x11Window change = .ok display' ∧
      display'.getWindow x11Window = some (change window) ∧ SameShapes display display' := by
  obtain ⟨display', hmodify, hwindow', hsame⟩ := modifyWindow_of_some hwindow change
  refine ⟨display', hmodify, hwindow', hsame, fun w => ?_⟩
  rw [modifyWindow, deref_of_getWindow hwindow] at hmodify
  cases hmodify
  rw [getWindow, setWindow]
  by_cases hw : w = x11Window
  · subst hw
    simp [hwindow, hshape]
  · simp [hw, getWindow]

/-! ## The list that is made again -/

/-- The visible windows were not freed. -/
def VisibleAlive (display : WebXDisplay) : Prop :=
  ∀ w ∈ display.visibleWindows, display.IsAlive w

/-- When no visible window was freed, each of them is found. -/
theorem VisibleAlive.findable (h : display.VisibleAlive) (x11Window : UInt32) :
    display.Findable x11Window := by
  rw [VisibleAlive] at h
  rw [Findable]
  generalize display.visibleWindows = windows at h
  induction windows with
  | nil => trivial
  | cons window windows ih =>
      rw [List.forall_mem_cons] at h
      exact ⟨h.1, fun _ => ih h.2⟩

/-- The visible windows are not freed by a change of attributes or shapes. -/
theorem VisibleAlive.of_sameWindows (h : display.VisibleAlive) (hsame : SameWindows display display') :
    display'.VisibleAlive :=
  fun w hw => hsame.isAlive.mpr (h w (hsame.visibleWindows ▸ hw))

/-- The windows that are found are in the table. -/
theorem known_of_findVisibleWindows {viewport : WebXSize} {shapes : UInt32 → XWindowShape}
    (trees : List XTree) : ∀ {display display' : WebXDisplay},
      (∀ w ∈ display.visibleWindows, (display.getWindow w).isSome = true) →
      findVisibleWindows viewport shapes trees display = .ok display' →
      ∀ w ∈ display'.visibleWindows, (display'.getWindow w).isSome = true := by
  induction trees with
  | nil =>
      intro display display' hknown h
      cases h
      exact hknown
  | cons tree trees ih =>
      intro display display' hknown h
      have same {display' : WebXDisplay} (hsame : SameWindows display display') :
          ∀ w ∈ display'.visibleWindows, (display'.getWindow w).isSome = true := by
        intro w hw
        rw [hsame.known]
        exact hknown w (hsame.visibleWindows ▸ hw)
      rw [findVisibleWindows] at h
      cases hwindow : display.getWindow tree.window with
      | none =>
          rw [hwindow] at h
          exact ih hknown h
      | some window =>
          rw [hwindow] at h
          obtain ⟨updated, hupdated, h⟩ := exists_of_bind_eq_ok h
          have hsame := sameWindows_modifyWindow hupdated
          split_ifs at h
          · obtain ⟨shaped, hshaped, h⟩ := exists_of_bind_eq_ok h
            have hsame' := hsame.trans (sameWindows_modifyWindow hshaped)
            refine ih ?_ h
            -- the window that is added was looked up in the table
            change ∀ w ∈ shaped.visibleWindows ++ [tree.window], (shaped.getWindow w).isSome = true
            rw [List.forall_mem_append, List.forall_mem_singleton, hsame'.known, hwindow]
            exact ⟨same hsame', rfl⟩
          · exact ih (same hsame) h

/-- What is kept when a window becomes hidden is kept for all the old windows. -/
theorem hideOldWindows_keeps {P : WebXDisplay → Prop} {allX11Windows : List UInt32}
    (hhide : ∀ {display display' : WebXDisplay} {x11Window : UInt32}, P display →
      display.modifyWindow x11Window (fun window => { window with isViewable := false }) = .ok display' →
      P display') (olds : List UInt32) :
    ∀ {display display' : WebXDisplay}, P display →
      hideOldWindows allX11Windows olds display = .ok display' → P display' := by
  induction olds with
  | nil =>
      intro display display' hP h
      cases h
      exact hP
  | cons old olds ih =>
      intro display display' hP h
      rw [hideOldWindows] at h
      split_ifs at h
      · -- it was freed
        cases h
      · -- it is still visible
        exact ih hP h
      · -- its damage events are disabled
        obtain ⟨next, hnext, h⟩ := exists_of_bind_eq_ok h
        obtain ⟨window, -, rfl⟩ := exists_of_map_eq_ok hnext
        exact ih hP h
      · -- it is gone
        obtain ⟨next, hnext, h⟩ := exists_of_bind_eq_ok h
        exact ih (hhide hP hnext) h

/-- The windows that are hidden stay in the table. -/
theorem sameWindows_hideOldWindows {allX11Windows olds : List UInt32}
    (h : hideOldWindows allX11Windows olds display = .ok display') : SameWindows display display' :=
  hideOldWindows_keeps (fun hsame hnext => hsame.trans (sameWindows_modifyWindow hnext)) olds
    (.refl display) h

/-- **No visible window was freed** when the visible windows have been looked for. -/
theorem visibleAlive_of_updateVisibleWindows {root : UInt32} {server : XServer root}
    (h : display.updateVisibleWindows server = .ok display') : display'.VisibleAlive := by
  obtain ⟨updated, -, h⟩ := exists_of_bind_eq_ok h
  obtain ⟨found, hfound, h⟩ := exists_of_bind_eq_ok h
  obtain ⟨hidden, hhidden, h⟩ := exists_of_bind_eq_ok h
  cases h
  have hknown := known_of_findVisibleWindows _ (fun w hw => absurd hw List.not_mem_nil) hfound
  have hsame := sameWindows_hideOldWindows hhidden
  refine fun w hw => ⟨List.not_mem_nil, ?_⟩
  change (hidden.getWindow w).isSome = true
  rw [hsame.known]
  exact hknown w (hsame.visibleWindows ▸ hw)

/-- No visible window was freed when the engine starts. -/
theorem visibleAlive_of_init {root : UInt32} {server : XServer root}
    (h : WebXDisplay.init server = .ok display) : display.VisibleAlive := by
  rw [WebXDisplay.init] at h
  split at h
  · cases h
    exact fun w hw => absurd hw List.not_mem_nil
  · obtain ⟨created, -, h⟩ := exists_of_bind_eq_ok h
    exact visibleAlive_of_updateVisibleWindows h

end WebXDisplay

end WebXEngine
