import WebXEngine.Controller.LoopAgreement

/-! # The layout of the windows

The visible windows are those among the windows directly below the root window that the engine knows, that
are shown, and that have a part on the screen. The clients are told their places as X has them.

* **`WebXDisplay.shows`** — a window of X becomes visible when the visible windows are looked for.
* **`findVisibleWindows_spec`** — the loop over the windows finds these, with their places.
* **`places_of_updateVisibleWindows`** — these windows are the visible ones.
* **`layout_of_round`** — a round of the loop tells each client these windows. -/

namespace WebXEngine

/-- The identifier of a window and its place, as the clients are told. -/
def WebXWindowProperties.place (properties : WebXWindowProperties) :
    UInt32 × Int32 × Int32 × Int32 × Int32 :=
  (properties.id, properties.x, properties.y, properties.width, properties.height)

/-- The identifier of a window and its place, as X has them. -/
def XTree.place (tree : XTree) : UInt32 × Int32 × Int32 × Int32 × Int32 :=
  (tree.window, tree.attributes.x, tree.attributes.y, tree.attributes.width, tree.attributes.height)

namespace WebXDisplay

variable {display display' : WebXDisplay} {x11Window w : UInt32} {viewport : WebXSize}
  {shapes : UInt32 → XWindowShape}

/-- A window is known, shown, on the screen, and not the ghost window before the root window. -/
def shows (display : WebXDisplay) (viewport : WebXSize) (tree : XTree) : Bool :=
  (display.getWindow tree.window).isSome && (tree.isShown &&
    tree.attributes.rectangle.isVisible viewport && decide (tree.window ≠ display.rootWindow - 1))

/-- The place of a window in the table. -/
def rectangle (display : WebXDisplay) (x11Window : UInt32) : Option WebXRectangle :=
  (display.getWindow x11Window).map WebXWindow.rectangle

/-- What a change leaves of the places of the windows. -/
theorem rectangle_modifyWindow {change : WebXWindow → WebXWindow}
    (h : display.modifyWindow x11Window change = .ok display')
    (hchange : ∀ window, (change window).rectangle = window.rectangle) (w : UInt32) :
    display'.rectangle w = display.rectangle w := by
  obtain ⟨-, ⟨window, hbefore, hafter⟩, hothers⟩ := modifyWindow_spec h
  rw [rectangle, rectangle]
  by_cases hw : w = x11Window
  · rw [hw, hbefore, hafter]
    exact congrArg some (hchange window)
  · rw [hothers w hw]

/-- Which windows are shown depends on the table and the root window. -/
theorem shows_congr (hroot : display'.rootWindow = display.rootWindow)
    (hknown : ∀ w, (display'.getWindow w).isSome = (display.getWindow w).isSome)
    (viewport : WebXSize) : display'.shows viewport = display.shows viewport := by
  funext tree
  rw [shows, shows, hknown, hroot]

/-! ## The loop over the windows of X -/

/-- What the loop finds, and what it leaves. -/
structure Found (viewport : WebXSize) (trees : List XTree) (display display' : WebXDisplay) : Prop where
  visibleWindows : display'.visibleWindows =
    display.visibleWindows ++ (trees.filter (display.shows viewport)).map XTree.window
  rootWindow : display'.rootWindow = display.rootWindow
  known : ∀ w, (display'.getWindow w).isSome = (display.getWindow w).isSome
  others : ∀ w, w ∉ trees.map XTree.window → display'.rectangle w = display.rectangle w
  places : ∀ tree ∈ trees, (display.getWindow tree.window).isSome = true →
    display'.rectangle tree.window = some tree.attributes.rectangle

/-- **The loop finds the windows that are shown**, in their order, and takes their places from X. -/
theorem findVisibleWindows_spec (trees : List XTree) :
    ∀ {display display' : WebXDisplay}, (trees.map XTree.window).Nodup →
      findVisibleWindows viewport shapes trees display = .ok display' →
      Found viewport trees display display' := by
  induction trees with
  | nil =>
      intro display display' _ h
      cases h
      exact ⟨(List.append_nil _).symm, rfl, fun _ => rfl, fun _ _ => rfl,
        fun _ htree => absurd htree List.not_mem_nil⟩
  | cons tree trees ih =>
      intro display display' hnodup h
      rw [List.map_cons, List.nodup_cons] at hnodup
      obtain ⟨hnew, hnodup⟩ := hnodup
      rw [findVisibleWindows] at h
      cases hwindow : display.getWindow tree.window with
      | none =>
          -- the engine does not know the window
          rw [hwindow] at h
          have hfound := ih hnodup h
          have hhidden : display.shows viewport tree = false := by
            rw [shows, hwindow]
            rfl
          refine ⟨?_, hfound.rootWindow, hfound.known, fun w hw => ?_, fun other hother hknown => ?_⟩
          · rw [List.filter_cons_of_neg (Bool.eq_false_iff.mp hhidden)]
            exact hfound.visibleWindows
          · exact hfound.others w fun hmem => hw (List.mem_cons_of_mem _ hmem)
          · rcases List.mem_cons.mp hother with rfl | hmem
            · rw [hwindow] at hknown
              exact absurd hknown Bool.false_ne_true
            · exact hfound.places other hmem hknown
      | some window =>
          rw [hwindow] at h
          obtain ⟨updated, hupdated, h⟩ := exists_of_bind_eq_ok h
          have hknownUpdated := (sameWindows_modifyWindow hupdated).known
          obtain ⟨hroot, ⟨before, hbefore, hafter⟩, hothers⟩ := modifyWindow_spec hupdated
          have hplace : updated.rectangle tree.window = some tree.attributes.rectangle := by
            rw [rectangle, hafter]
            rfl
          -- what is left of the loop starts from a display that differs from this one as follows
          have hrest : ∀ next : WebXDisplay, next.rootWindow = updated.rootWindow →
              (∀ w, (next.getWindow w).isSome = (updated.getWindow w).isSome) →
              (∀ w, next.rectangle w = updated.rectangle w) →
              (∀ shown, next.visibleWindows = display.visibleWindows ++ shown →
                shown = ([tree].filter (display.shows viewport)).map XTree.window →
                Found viewport trees next display' → Found viewport (tree :: trees) display display') := by
            intro next hnextRoot hnextKnown hnextPlaces shown hvisible hshown hfound
            have hsame : next.shows viewport = display.shows viewport :=
              shows_congr (hnextRoot.trans hroot)
                (fun w => (hnextKnown w).trans (hknownUpdated w)) viewport
            refine ⟨?_, hfound.rootWindow.trans (hnextRoot.trans hroot),
              fun w => (hfound.known w).trans ((hnextKnown w).trans (hknownUpdated w)),
              fun w hw => ?_, fun other hother hknown => ?_⟩
            · rw [hfound.visibleWindows, hvisible, hsame, hshown, List.append_assoc, ← List.map_append,
                ← List.filter_append, List.singleton_append]
            · rw [List.map_cons, List.mem_cons, not_or] at hw
              rw [hfound.others w hw.2, hnextPlaces, rectangle, rectangle, hothers w hw.1]
            · rcases List.mem_cons.mp hother with rfl | hmem
              · rw [hfound.others _ hnew, hnextPlaces, hplace]
              · refine hfound.places other hmem ?_
                rw [hnextKnown, hknownUpdated]
                exact hknown
          have hshows : display.shows viewport tree = (tree.isShown &&
              tree.attributes.rectangle.isVisible viewport &&
                decide (tree.window ≠ display.rootWindow - 1)) := by
            rw [shows, hwindow]
            rfl
          rw [hroot, ← hshows] at h
          split_ifs at h with hshown
          · obtain ⟨shaped, hshaped, h⟩ := exists_of_bind_eq_ok h
            refine hrest { shaped with visibleWindows := shaped.visibleWindows ++ [tree.window] }
              (modifyWindow_spec hshaped).1 (sameWindows_modifyWindow hshaped).known
              (fun w => rectangle_modifyWindow hshaped (fun _ => rfl) w) [tree.window] ?_ ?_
              (ih hnodup h)
            · change shaped.visibleWindows ++ [tree.window] = display.visibleWindows ++ [tree.window]
              rw [(sameWindows_modifyWindow hshaped).visibleWindows,
                (sameWindows_modifyWindow hupdated).visibleWindows]
            · rw [List.filter_cons_of_pos hshown]
              rfl
          · refine hrest updated rfl (fun _ => rfl) (fun _ => rfl) [] ?_ ?_ (ih hnodup h)
            · rw [(sameWindows_modifyWindow hupdated).visibleWindows, List.append_nil]
            · rw [List.filter_cons_of_neg hshown]
              rfl

/-- The windows that are not visible any more keep their places. -/
theorem rectangle_hideOldWindows {allX11Windows olds : List UInt32}
    (h : hideOldWindows allX11Windows olds display = .ok display') (w : UInt32) :
    display'.rectangle w = display.rectangle w :=
  hideOldWindows_keeps (P := fun next => next.rectangle w = display.rectangle w)
    (fun hsame hnext => (rectangle_modifyWindow hnext (fun _ => rfl) w).trans hsame) olds rfl h

/-! ## What the clients are told -/

/-- The places that the clients are told are those of the table. -/
theorem map_place_mapM {trees : List XTree}
    (hplaces : ∀ tree ∈ trees, display.rectangle tree.window = some tree.attributes.rectangle) :
    ∀ {properties : List WebXWindowProperties},
      (trees.map XTree.window).mapM (fun x11Window =>
        (display.derefVisible x11Window).map (windowProperties x11Window)) = .ok properties →
      properties.map WebXWindowProperties.place = trees.map XTree.place := by
  induction trees with
  | nil =>
      intro properties h
      cases h
      rfl
  | cons tree trees ih =>
      intro properties h
      rw [List.forall_mem_cons] at hplaces
      rw [List.map_cons, List.mapM_cons] at h
      obtain ⟨first, hfirst, h⟩ := exists_of_bind_eq_ok h
      obtain ⟨others, hothers, h⟩ := exists_of_bind_eq_ok h
      obtain ⟨window, hwindow, rfl⟩ := exists_of_map_eq_ok hfirst
      cases h
      obtain ⟨known, hknown, hrectangle⟩ := Option.map_eq_some_iff.mp hplaces.1
      obtain rfl : window = known :=
        Option.some.inj ((getWindow_of_derefVisible hwindow).symm.trans hknown)
      have hplace : (windowProperties tree.window window).place = tree.place := by
        rw [windowProperties, WebXWindowProperties.place, XTree.place, hrectangle]
        simp [XWindowAttributes.rectangle, WebXRectangle.ofSize]
      rw [List.map_cons, List.map_cons, ih hplaces.2 hothers, hplace]

/-- **The visible windows are those that X shows**, in the order of X and at their places, as far as the
engine knows them. -/
theorem places_of_updateVisibleWindows {root : UInt32} {server : XServer root}
    {properties : List WebXWindowProperties} (h : display.updateVisibleWindows server = .ok display')
    (hproperties : display'.getVisibleWindowsProperties = .ok properties) :
    properties.map WebXWindowProperties.place =
      (server.tree.children.filter (display.shows server.tree.attributes.rectangle.size)).map
        XTree.place := by
  obtain ⟨updated, hupdated, h⟩ := exists_of_bind_eq_ok h
  obtain ⟨found, hfind, h⟩ := exists_of_bind_eq_ok h
  have hfound := findVisibleWindows_spec server.tree.children server.nodup_children hfind
  obtain ⟨hidden, hhidden, h⟩ := exists_of_bind_eq_ok h
  cases h
  have hvisible := (sameWindows_hideOldWindows hhidden).visibleWindows
  have hplaces := rectangle_hideOldWindows hhidden
  have hsame : shows { updated with visibleWindows := [] } server.tree.attributes.rectangle.size =
      display.shows server.tree.attributes.rectangle.size :=
    shows_congr (modifyWindow_spec hupdated).1 (sameWindows_modifyWindow hupdated).known _
  rw [getVisibleWindowsProperties] at hproperties
  dsimp only at hproperties
  rw [hvisible, hfound.visibleWindows, List.nil_append, hsame] at hproperties
  refine map_place_mapM (fun tree htree => ?_) hproperties
  obtain ⟨hmem, hshows⟩ := List.mem_filter.mp htree
  -- a window that is shown is known
  rw [shows, Bool.and_eq_true] at hshows
  have hknown : (updated.getWindow tree.window).isSome = true :=
    ((sameWindows_modifyWindow hupdated).known tree.window).trans hshows.1
  exact (hplaces tree.window).trans <| hfound.places tree hmem hknown

end WebXDisplay

/-! ## A round of the loop -/

/-- What a message tells a client about the places of the visible windows. -/
def WebXMessage.placesFor (index : UInt64) (message : WebXMessage) :
    Option (List (UInt32 × Int32 × Int32 × Int32 × Int32)) :=
  if message.clientIndexMask &&& index = 0 then none
  else match message.content with
    | .windows _ windows => some (windows.map WebXWindowProperties.place)
    | _ => none

namespace MainLoop

variable {root : UInt32} {settings : WebXSettings} {checksum : List UInt8 → UInt32}
  {engineVersion : WebXVersion} {keyMaps : KeyMaps} {depth stackDepth : ℕ} {state state' : MainLoop}
  {display : WebXDisplay} {server : XServer root} {now : Time} {around : List (MainLoopAction root)}

/-- The clients are still to be told about the windows of a display. -/
structure Pending (display : WebXDisplay) (state : MainLoop) : Prop where
  stage : state.stage = .display
  displayDirty : state.displayDirty = true
  sameDisplay : state.display = display

/-- A call of the registry leaves the windows to be told. -/
theorem Pending.callRegistry (h : state.Pending display) {op : RegistryOp}
    (hcall : state.callRegistry settings op = .ok state') : state'.Pending display := by
  obtain ⟨registry, rfl⟩ := exists_callRegistry hcall
  exact ⟨h.stage, h.displayDirty, h.sameDisplay⟩

/-- An update of the windows that is required leaves them to be told. -/
theorem pending_updateDisplay (hset : state.hasHandlers = true)
    (hrequires : state.displayRequiresUpdate = true)
    (hupdate : state.updateDisplay server now = .ok state') :
    ∃ display, state.display.updateVisibleWindows server = .ok display ∧ state'.Pending display := by
  obtain ⟨updated, hupdated, hupdate⟩ := exists_of_bind_eq_ok hupdate
  rw [EngineState.updateDisplay] at hupdated
  simp only [hrequires, if_true] at hupdated hupdate
  obtain ⟨display, hdisplay, hupdated⟩ := exists_of_bind_eq_ok hupdated
  cases hupdated
  rw [onWindowLayoutEvent, if_pos hset] at hupdate
  cases hupdate
  exact ⟨display, hdisplay, rfl, rfl, rfl⟩

/-- What happens around the loop leaves them to be told. -/
theorem Pending.step (h : state.Pending display) {action : MainLoopAction root}
    (hallowed : state.stage.Allows action) (hother : action ≠ .notifyDisplayChanged)
    (hstep : state.step settings checksum engineVersion keyMaps depth stackDepth action = .ok state') :
    state'.Pending display := by
  rw [h.stage] at hallowed
  cases action with
  | notifyDisplayChanged => exact absurd rfl hother
  | stop =>
      obtain ⟨stopped, hstopped, hstep⟩ := exists_of_bind_eq_ok hstep
      cases hstep
      have hpending := h.callRegistry hstopped
      exact ⟨hpending.stage, hpending.displayDirty, hpending.sameDisplay⟩
  | receive instruction =>
      cases hstep
      rw [MainLoop.receive]
      split_ifs
      · exact ⟨h.stage, h.displayDirty, h.sameDisplay⟩
      · exact h
  | addClient clientVersion draws now | removeClient clientId =>
      rw [MainLoop.step] at hstep
      split_ifs at hstep
      · exact h.callRegistry hstep
      · cases hstep
        exact h
  | move position =>
      cases hstep
      exact ⟨h.stage, h.displayDirty, h.sameDisplay⟩
  | reply conversion event property | ownerChanged window =>
      obtain ⟨clipboard, -, hstep⟩ := exists_of_bind_eq_ok hstep
      cases hstep
      exact ⟨h.stage, h.displayDirty, h.sameDisplay⟩
  | testState now =>
      rcases hallowed with hallowed | hallowed
      all_goals cases hallowed
  | handleClientInstruction answers =>
      obtain ⟨instruction, remaining, hallowed⟩ := hallowed
      cases hallowed
  | _ => cases hallowed

/-- **The clients are told.** The message about the windows is the last one that tells the clients about
them. -/
theorem Pending.notify (h : state.Pending display) (hnotify : state.notifyDisplay = .ok state') :
    ∃ properties, display.getVisibleWindowsProperties = .ok properties ∧
      ∀ index : UInt64, index ≠ 0 →
        LastTold (WebXMessage.placesFor index) (properties.map WebXWindowProperties.place)
          state'.sent := by
  rw [notifyDisplay, if_pos h.displayDirty] at hnotify
  obtain ⟨controller, hcontroller, hnotify⟩ := exists_of_bind_eq_ok hnotify
  obtain ⟨properties, hproperties, hcontroller⟩ := exists_of_bind_eq_ok hcontroller
  cases hcontroller
  cases hnotify
  refine ⟨properties, h.sameDisplay ▸ hproperties, fun index hindex => lastTold_concat _ ?_⟩
  rw [WebXMessage.placesFor, globalClientIndexMask_and, if_neg hindex]

/-- **The clients are told** when the loop comes to it, whatever happens before. -/
theorem Pending.run : ∀ {state : MainLoop} (_ : state.Pending display),
    (∀ action ∈ around, action ≠ MainLoopAction.notifyDisplayChanged) →
    Runs settings checksum engineVersion keyMaps depth stackDepth state
      (around ++ [.notifyDisplayChanged]) state' →
    ∃ properties, display.getVisibleWindowsProperties = .ok properties ∧
      ∀ index : UInt64, index ≠ 0 →
        LastTold (WebXMessage.placesFor index) (properties.map WebXWindowProperties.place)
          state'.sent := by
  induction around with
  | nil =>
      intro state h _ hrun
      cases hrun with
      | cons hallowed hstep hrun =>
          cases hrun
          exact h.notify hstep
  | cons action around ih =>
      intro state h hothers hrun
      rw [List.forall_mem_cons] at hothers
      cases hrun with
      | cons hallowed hstep hrun => exact ih (h.step hallowed hothers.1 hstep) hothers.2 hrun

/-- **A round tells the clients what X shows.** When an event has changed the windows, the next round asks
X for them, and whatever the connector, the subscriber and other programs do before the clients are told,
each client is last told the windows that X showed, in their order and at their places, as far as the
engine knows them. -/
theorem layout_of_round (hset : state.hasHandlers = true)
    (hrequires : state.displayRequiresUpdate = true)
    (hothers : ∀ action ∈ around, action ≠ MainLoopAction.notifyDisplayChanged)
    (hrun : Runs settings checksum engineVersion keyMaps depth stackDepth state
      (.updateDisplay server now :: around ++ [.notifyDisplayChanged]) state')
    {index : UInt64} (hindex : index ≠ 0) :
    LastTold (WebXMessage.placesFor index)
      ((server.tree.children.filter
        (state.display.shows server.tree.attributes.rectangle.size)).map XTree.place)
      state'.sent := by
  cases hrun with
  | cons hallowed hstep hrun =>
      obtain ⟨display, hupdate, hpending⟩ := pending_updateDisplay hset hrequires hstep
      obtain ⟨properties, hproperties, htold⟩ := hpending.run hothers hrun
      rw [← WebXDisplay.places_of_updateVisibleWindows hupdate hproperties]
      exact htold index hindex

/-- The engine in its loop after the only window has changed. -/
def changedStart : MainLoop :=
  { shapedStart with stage := .events, isRunning := true, displayRequiresUpdate := true }

/-- The only window is told while another program moves the pointer. -/
theorem layout_of_round_pointerMoves : ∃ state : MainLoop, ∀ index : UInt64, index ≠ 0 →
    LastTold (WebXMessage.placesFor index) [(2, 0, 0, 100, 100)] state.sent := by
  have hrun : ∃ state, Runs .default crc32Bitwise ⟨1, 0, 0⟩ KeyboardState.gbAndFr 0 8 changedStart
      (.updateDisplay ControllerState.shapedScreen 1 ::
        [.move ⟨⟨5, 5⟩, by decide, by decide⟩] ++ [.notifyDisplayChanged]) state :=
    ⟨_, .cons rfl rfl (.cons trivial rfl (.cons (by rfl) rfl (.nil _)))⟩
  have hplaces : (ControllerState.shapedScreen.tree.children.filter (changedStart.display.shows
      ControllerState.shapedScreen.tree.attributes.rectangle.size)).map XTree.place =
        [(2, 0, 0, 100, 100)] := by
    decide +kernel
  obtain ⟨state, hrun⟩ := hrun
  refine ⟨state, fun index hindex => hplaces ▸ layout_of_round rfl rfl ?_ hrun hindex⟩
  intro action haction hnotify
  cases (List.mem_singleton.mp haction).symm.trans hnotify

end MainLoop

end WebXEngine
