import WebXEngine.Display.VisibleWindows

/-! # The links between the windows

The table of the windows as a forest, and the operations of the display as changes of it.

* **`WebXDisplay.forest`** — the links of the windows.
* **`Relinked display f display'`** — the links have become `f`, and the rest of the display is the
  same.
* **`deleteTree_pruned`** — deleting a tree exhausts the stack, or deletes what is below a window and
  nothing else. -/

namespace WebXEngine

open Forest (Linked IsChild Pruned Pruning)

namespace WebXDisplay

variable {display display' : WebXDisplay} {p c w : UInt32} {window : WebXWindow}

/-- The links of the windows. -/
def forest (display : WebXDisplay) : Forest UInt32 :=
  fun w => (display.getWindow w).map WebXWindow.toLinks

/-- The links of the windows have changed and nothing else has, apart from the attributes of
windows. -/
structure Relinked (display : WebXDisplay) (f : Forest UInt32) (display' : WebXDisplay) : Prop where
  forest : display'.forest = f
  rootWindow : display'.rootWindow = display.rootWindow
  visibleWindows : display'.visibleWindows = display.visibleWindows
  staleWindows : display'.staleWindows = display.staleWindows

/-- Nothing changes. -/
theorem Relinked.refl (display : WebXDisplay) : Relinked display display.forest display :=
  ⟨rfl, rfl, rfl, rfl⟩

/-- Changes follow each other. -/
theorem Relinked.trans {display'' : WebXDisplay} {f f' : Forest UInt32}
    (h : Relinked display f display') (h' : Relinked display' f' display'') :
    Relinked display f' display'' :=
  ⟨h'.forest, h'.rootWindow.trans h.rootWindow, h'.visibleWindows.trans h.visibleWindows,
    h'.staleWindows.trans h.staleWindows⟩

/-- The links of a window that is in the table. -/
theorem forest_of_getWindow (h : display.getWindow w = some window) :
    display.forest w = some window.toLinks := by rw [forest, h, Option.map_some]

/-- Links are those of a window of the table. -/
theorem getWindow_of_forest {l : Links UInt32} (h : display.forest w = some l) :
    ∃ window, display.getWindow w = some window ∧ window.toLinks = l :=
  Option.map_eq_some_iff.mp h

/-- The windows with links are those of the table. -/
theorem isSome_forest : (display.forest w).isSome = (display.getWindow w).isSome :=
  Option.isSome_map

/-- The children of a window, as its links have them. -/
theorem isChild_iff (h : display.getWindow p = some window) :
    IsChild display.forest p c ↔ c ∈ window.children := by
  constructor
  · rintro ⟨l, hl, hc⟩
    rw [forest_of_getWindow h, Option.some.injEq] at hl
    exact hl ▸ hc
  · exact fun hc => ⟨_, forest_of_getWindow h, hc⟩

/-! ## Changes of one window -/

/-- A window of the table may be changed. -/
theorem modifyWindow_relinked (change : WebXWindow → WebXWindow) {g : Links UInt32 → Links UInt32}
    (h : (display.getWindow w).isSome = true)
    (hchange : ∀ window, (change window).toLinks = g window.toLinks) :
    ∃ display', display.modifyWindow w change = .ok display' ∧
      Relinked display (fun x => (display.forest x).map fun l => if x = w then g l else l)
        display' := by
  obtain ⟨window, hwindow⟩ := Option.isSome_iff_exists.mp h
  refine ⟨display.setWindow w (some (change window)), ?_, ?_, rfl, rfl, rfl⟩
  · rw [modifyWindow, deref_of_getWindow hwindow]
    rfl
  · funext x
    by_cases hx : x = w
    · subst hx
      simp [forest, getWindow, setWindow, show display.allWindows x = some window from hwindow,
        hchange]
    · simp [forest, getWindow, setWindow, hx, Function.comp_def]

/-- A change that leaves the links of a window as they are. -/
theorem modifyWindow_kept (change : WebXWindow → WebXWindow)
    (h : (display.getWindow w).isSome = true)
    (hchange : ∀ window, (change window).toLinks = window.toLinks) :
    ∃ display', display.modifyWindow w change = .ok display' ∧
      Relinked display display.forest display' := by
  obtain ⟨display', hmodify, hrelinked⟩ :=
    modifyWindow_relinked change (g := id) h hchange
  refine ⟨display', hmodify, ?_⟩
  have hforest : (fun x => (display.forest x).map fun l => if x = w then id l else l) =
      display.forest := by
    funext x
    simp
  rwa [hforest] at hrelinked

/-- Deleting a window. -/
theorem deleteWindow_relinked (display : WebXDisplay) (w : UInt32) :
    Relinked display (display.forest.delete w) (display.deleteWindow w) := by
  refine ⟨?_, rfl, rfl, rfl⟩
  funext x
  by_cases hx : x = w <;> simp [forest, getWindow, deleteWindow, setWindow, Forest.delete, hx]

/-! ## Children -/

/-- A child that is already there is not added. -/
theorem addChild_of_isChild (h : IsChild display.forest p c) :
    display.addChild p c = .ok display := by
  obtain ⟨l, hl, hc⟩ := h
  obtain ⟨window, hwindow, rfl⟩ := getWindow_of_forest hl
  rw [addChild, deref_of_getWindow hwindow]
  exact if_pos hc

/-- A child is added. -/
theorem addChild_relinked (hp : (display.getWindow p).isSome = true)
    (hc : (display.getWindow c).isSome = true) (hnew : ¬ IsChild display.forest p c) :
    ∃ display', display.addChild p c = .ok display' ∧
      Relinked display (display.forest.link p c) display' := by
  obtain ⟨window, hwindow⟩ := Option.isSome_iff_exists.mp hp
  -- the parent gets a child, then the child gets its parent
  obtain ⟨d₁, hd₁, hrelinked₁⟩ := modifyWindow_relinked
    (fun window => { window with children := window.children ++ [c] })
    (g := fun l => ⟨l.parent, l.children ++ [c]⟩) hp (fun _ => rfl)
  have hc₁ : (d₁.getWindow c).isSome = true := by
    rw [← isSome_forest, hrelinked₁.forest, Option.isSome_map, isSome_forest, hc]
  obtain ⟨d₂, hd₂, hrelinked₂⟩ := modifyWindow_relinked
    (fun window => { window with parent := some p }) (g := fun l => ⟨some p, l.children⟩) hc₁
    (fun _ => rfl)
  refine ⟨d₂, ?_, ?_, hrelinked₂.rootWindow.trans hrelinked₁.rootWindow,
    hrelinked₂.visibleWindows.trans hrelinked₁.visibleWindows,
    hrelinked₂.staleWindows.trans hrelinked₁.staleWindows⟩
  · rw [addChild, deref_of_getWindow hwindow]
    refine (if_neg (fun h => hnew ((isChild_iff hwindow).mpr h))).trans ?_
    rw [hd₁]
    exact hd₂
  · rw [hrelinked₂.forest, hrelinked₁.forest]
    -- both changes together are the link
    funext x
    simp only [Forest.link, Option.map_map]
    refine congrArg (fun g => (display.forest x).map g) (funext fun l => ?_)
    simp only [Function.comp]
    split_ifs <;> rfl

/-- A child is removed. -/
theorem removeChild_relinked (hchild : IsChild display.forest p c)
    (hc : (display.getWindow c).isSome = true) :
    ∃ display', display.removeChild p c = .ok display' ∧
      Relinked display (display.forest.unlink p c) display' := by
  obtain ⟨l, hl, hmem⟩ := hchild
  obtain ⟨window, hwindow, rfl⟩ := getWindow_of_forest hl
  obtain ⟨d₁, hd₁, hrelinked₁⟩ := modifyWindow_relinked
    (fun window => { window with children := window.children.erase c })
    (g := fun l => ⟨l.parent, l.children.erase c⟩) (by rw [hwindow]; rfl) (fun _ => rfl)
  have hc₁ : (d₁.getWindow c).isSome = true := by
    rw [← isSome_forest, hrelinked₁.forest, Option.isSome_map, isSome_forest, hc]
  obtain ⟨d₂, hd₂, hrelinked₂⟩ := modifyWindow_relinked
    (fun window => { window with parent := none }) (g := fun l => ⟨none, l.children⟩) hc₁
    (fun _ => rfl)
  refine ⟨d₂, ?_, ?_, hrelinked₂.rootWindow.trans hrelinked₁.rootWindow,
    hrelinked₂.visibleWindows.trans hrelinked₁.visibleWindows,
    hrelinked₂.staleWindows.trans hrelinked₁.staleWindows⟩
  · rw [removeChild, deref_of_getWindow hwindow]
    refine (if_pos hmem).trans ?_
    rw [hd₁]
    exact hd₂
  · rw [hrelinked₂.forest, hrelinked₁.forest]
    funext x
    simp only [Forest.unlink, Option.map_map]
    refine congrArg (fun g => (display.forest x).map g) (funext fun l => ?_)
    simp only [Function.comp]
    split_ifs <;> rfl

/-- A child that has no children leaves its parent and the table. -/
theorem removeLeaf_relinked (hlinked : Linked display.forest)
    (hleaf : display.forest c = some ⟨some p, []⟩) :
    ∃ display', (display.removeChild p c >>= fun d => .ok (d.deleteWindow c)) = .ok display' ∧
      Relinked display (display.forest.removeLeaf p c) display' := by
  have hknown : (display.getWindow c).isSome = true := by
    rw [← isSome_forest, hleaf]
    rfl
  obtain ⟨d₁, hremove, hrelinked⟩ := removeChild_relinked (hlinked.parent hleaf rfl) hknown
  refine ⟨d₁.deleteWindow c, by rw [hremove]; rfl, ?_⟩
  have hdelete := deleteWindow_relinked d₁ c
  rw [hrelinked.forest] at hdelete
  exact hrelinked.trans hdelete

/-- A child leaves its parent for another one. -/
theorem moveChild_relinked {q : UInt32} (hlinked : Linked display.forest)
    (hchild : IsChild display.forest p c) (hq : (display.getWindow q).isSome = true) :
    ∃ d₁ display', display.removeChild p c = .ok d₁ ∧ (d₁.getWindow q).isSome = true ∧
      d₁.addChild q c = .ok display' ∧ Relinked display (display.forest.move p q c) display' := by
  obtain ⟨l, hl, -⟩ := hlinked.child hchild
  have hknown : (display.getWindow c).isSome = true := by
    rw [← isSome_forest, hl]
    rfl
  obtain ⟨d₁, hremove, hrelinked₁⟩ := removeChild_relinked hchild hknown
  have hsome {x : UInt32} : (d₁.getWindow x).isSome = (display.getWindow x).isSome := by
    rw [← isSome_forest, hrelinked₁.forest, Forest.isSome_unlink, isSome_forest]
  -- no edge leads to `c` once its parent does not list it
  have hnew : ¬ IsChild d₁.forest q c := fun hchild' => by
    rw [hrelinked₁.forest, Forest.isChild_unlink hlinked hchild] at hchild'
    exact hchild'.2 rfl
  obtain ⟨d₂, hadd, hrelinked₂⟩ := addChild_relinked (hsome.trans hq) (hsome.trans hknown) hnew
  rw [hrelinked₁.forest] at hrelinked₂
  exact ⟨d₁, d₂, hremove, hsome.trans hq, hadd, hrelinked₁.trans hrelinked₂⟩

/-! ## Windows that enter and leave -/

/-- A window of the table is not created. -/
theorem createWindow_of_known (h : (display.getWindow w).isSome = true)
    (attributes : XWindowAttributes) : display.createWindow w attributes = some display := by
  obtain ⟨window, hwindow⟩ := Option.isSome_iff_exists.mp h
  rw [createWindow, hwindow]

/-- A window that is neither in the table nor visible is created when it is shown. -/
theorem createWindow_relinked (h : (display.getWindow w).isSome = false)
    (hvisible : w ∉ display.visibleWindows) {attributes : XWindowAttributes}
    (hshown : attributes.isShown = true) :
    ∃ display', display.createWindow w attributes = some display' ∧
      Relinked display (display.forest.create w) display' := by
  rw [Option.isSome_eq_false_iff, Option.isNone_iff_eq_none] at h
  rw [createWindow, h]
  refine ⟨_, (if_pos hshown).trans (if_neg hvisible), ?_, rfl, rfl, rfl⟩
  funext x
  by_cases hx : x = w <;> simp [forest, getWindow, setWindow, Forest.create, hx]

/-- A window that is neither in the table nor shown is not created. -/
theorem createWindow_of_hidden (h : (display.getWindow w).isSome = false)
    {attributes : XWindowAttributes} (hhidden : attributes.isShown = false) :
    display.createWindow w attributes = none := by
  rw [Option.isSome_eq_false_iff, Option.isNone_iff_eq_none] at h
  rw [createWindow, h]
  exact if_neg (by rw [hhidden]; exact Bool.false_ne_true)

/-- The loop that deletes what is below a window. -/
theorem deleteTree_loop {depth : ℕ}
    (ih : ∀ (display : WebXDisplay) (c : UInt32), Linked display.forest →
      (display.getWindow c).isSome = true → deleteTree depth c display = .error .stackOverflow ∨
        ∃ display', deleteTree depth c display = .ok display' ∧
          ∃ f, Relinked display f display' ∧ Pruned display.forest c f)
    {f : Forest UInt32} (w : UInt32) : ∀ (children : List UInt32) (display : WebXDisplay),
    Pruning f w display.forest children →
      children.foldlM (deleteChild (deleteTree depth) w) display = .error .stackOverflow ∨
        ∃ display', children.foldlM (deleteChild (deleteTree depth) w) display = .ok display' ∧
          ∃ f', Relinked display f' display' ∧ Pruning f w f' [] := by
  intro children
  induction children with
  | nil => exact fun display h => .inr ⟨display, rfl, _, .refl display, h⟩
  | cons child children ihs =>
      intro display h
      have hedge : IsChild display.forest w child := by
        obtain ⟨l, -, -, -, hw, -, -⟩ := h.node
        exact ⟨_, hw, List.mem_cons_self⟩
      obtain ⟨lc, hlc, -⟩ := h.linked.child hedge
      have hknown : (display.getWindow child).isSome = true := by
        rw [← isSome_forest, hlc]
        rfl
      rw [List.foldlM_cons]
      rcases ih display child h.linked hknown with hdeep | ⟨d₁, hdelete, f₁, hrelinked₁, hpruned⟩
      · exact .inl (by rw [deleteChild, hdeep]; rfl)
      · -- the child has lost what is below it, but is still a child
        obtain ⟨hw₁, hpruning⟩ := h.step hpruned
        have hedge₁ : IsChild d₁.forest w child := by
          rw [hrelinked₁.forest]
          obtain ⟨lw, hlw⟩ := Option.isSome_iff_exists.mp hw₁
          have hwc : w ≠ child := by
            rintro rfl
            exact hpruned.acyclic (.single hedge)
          obtain ⟨l, -, -, -, hw, -, -⟩ := h.node
          have hentry := hpruned.entry hwc hlw
          rw [hw, Option.some.injEq] at hentry
          exact ⟨lw, hlw, hentry ▸ List.mem_cons_self⟩
        have hknown₁ : (d₁.getWindow child).isSome = true := by
          obtain ⟨l, -, hl⟩ := hpruned.leaf
          rw [← isSome_forest, hrelinked₁.forest, hl]
          rfl
        obtain ⟨d₂, hremove, hrelinked₂⟩ := removeChild_relinked hedge₁ hknown₁
        have hrelinked := (hrelinked₁.trans hrelinked₂).trans (deleteWindow_relinked d₂ child)
        have hforest : (d₂.deleteWindow child).forest = (f₁.unlink w child).delete child := by
          rw [hrelinked.forest, hrelinked₂.forest, hrelinked₁.forest]
        rw [← hforest] at hpruning
        have hstep : deleteChild (deleteTree depth) w display child =
            .ok (d₂.deleteWindow child) := by
          rw [deleteChild, hdelete]
          exact congrArg (· >>= fun display => .ok (display.deleteWindow child)) hremove
        rw [hstep]
        rcases ihs (d₂.deleteWindow child) hpruning with hdeep | ⟨d₃, hrest, f₃, hrelinked₃, hend⟩
        · exact .inl hdeep
        · exact .inr ⟨d₃, hrest, f₃, hrelinked.trans hrelinked₃, hend⟩

/-- **Deleting a tree exhausts the stack, or deletes what is below the window.** -/
theorem deleteTree_pruned : ∀ (depth : ℕ) (display : WebXDisplay) (w : UInt32),
    Linked display.forest → (display.getWindow w).isSome = true →
      deleteTree depth w display = .error .stackOverflow ∨
        ∃ display', deleteTree depth w display = .ok display' ∧
          ∃ f, Relinked display f display' ∧ Pruned display.forest w f := by
  intro depth
  induction depth with
  | zero => exact fun _ _ _ _ => .inl rfl
  | succ depth ih =>
      intro display w hlinked hknown
      obtain ⟨window, hwindow⟩ := Option.isSome_iff_exists.mp hknown
      have hstart := Pruning.start hlinked (forest_of_getWindow hwindow)
      rw [deleteTree, deref_of_getWindow hwindow]
      rcases deleteTree_loop ih w window.children display hstart with
        hdeep | ⟨display', hloop, f', hrelinked, hend⟩
      · exact .inl hdeep
      · exact .inr ⟨display', hloop, f', hrelinked, hend.pruned⟩

end WebXDisplay

end WebXEngine
