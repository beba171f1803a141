import WebXEngine.Controller.PointerAgreement
import WebXEngine.Controller.LoopMessages

/-! # The clients know the windows and the cursor

The loop tells the clients about the windows and the cursor when they have changed. In between, the
clients know which windows are visible, and in which order, and which cursor the mouse has; they can get
all the cursors that they were ever told.

* **`MainLoop.Inv`** — what every step of the loop keeps, and everything around it.
* **`layout_of_run`** — the visible windows that were told last are those of the display.
* **`cursor_of_run`** — the cursor that was told last is that of the mouse.
* **`fetchable_of_run`** — the cursors that were told are found.
* **`instructions_of_run`** — each instruction is handled once, in the order in which it was received. -/

namespace WebXEngine

/-- What a message tells a client about the visible windows. -/
def WebXMessage.layoutFor (index : UInt64) (message : WebXMessage) : Option (List UInt32) :=
  if message.clientIndexMask &&& index = 0 then none else message.layout

/-- What a message tells a client about the cursor. -/
def WebXMessage.cursorFor (index : UInt64) (message : WebXMessage) : Option UInt32 :=
  if message.clientIndexMask &&& index = 0 then none else message.mouseCursor

/-! ## Events -/

namespace EngineState

variable {root : UInt32} {settings : WebXSettings} {stackDepth : ℕ} {now : Time}
  {state state' : EngineState}

/-- An event that may change the visible windows asks for an update. -/
theorem visibleWindows_handleXEvent {event : XEvent root}
    (h : state.handleXEvent settings stackDepth now event = .ok state') :
    state'.displayRequiresUpdate = true ∨
      state'.display.visibleWindows = state.display.visibleWindows ∧
        state'.displayRequiresUpdate = state.displayRequiresUpdate := by
  cases event with
  | map x11Window server | unmap x11Window | reparent x11Window parentX11Window =>
      obtain ⟨display, -, h⟩ := exists_of_bind_eq_ok h
      cases h
      exact .inl rfl
  | configure event =>
      rcases WebXDisplay.eq_of_callIfWindowVisible h with hsame | hupdate
      · rw [hsame]
        exact .inr ⟨rfl, rfl⟩
      · obtain ⟨display, -, h⟩ := exists_of_bind_eq_ok hupdate
        obtain ⟨window, -, h⟩ := exists_of_bind_eq_ok h
        cases h
        exact .inl rfl
  | damage event =>
      cases h
      exact .inr ⟨rfl, rfl⟩

/-- An event leaves the visible windows, or asks for them to be read again. -/
theorem visibleWindows_handleQueuedEvent {event : XEvent root}
    (h : handleQueuedEvent settings stackDepth now state event = .ok state') :
    state'.displayRequiresUpdate = true ∨
      state'.display.visibleWindows = state.display.visibleWindows ∧
        state'.displayRequiresUpdate = state.displayRequiresUpdate := by
  rw [handleQueuedEvent] at h
  generalize (if settings.event.filterDamageAfterConfigureNotify = true then
    WebXEventListener.filter now state.damageFilters event
    else (true, state.damageFilters)) = filtered at h
  split_ifs at h
  · have hhandled := visibleWindows_handleXEvent h
    exact hhandled
  · cases h
    exact .inr ⟨rfl, rfl⟩

end EngineState

/-! ## Cursors -/

namespace MouseCursors

/-- The cursors of the catalogue have their identifiers, and that of the mouse is one of them. -/
structure Catalogued (cursors : MouseCursors) : Prop where
  keyed : ∀ cursorId cursor, cursors.catalogue cursorId = some cursor → cursor.id = cursorId
  current : ∀ cursorId, cursors.pointer.mouse.state.cursor = some cursorId →
    (cursors.catalogue cursorId).isSome = true

variable {cursors : MouseCursors}

/-- **A new cursor** is added to the catalogue, from which nothing is removed. -/
theorem createCursor_spec {catalogue : UInt32 → Option WebXMouseCursor}
    (h : ∀ cursorId cursor, catalogue cursorId = some cursor → cursor.id = cursorId)
    (answer : Option XFixesCursorImage) :
    (∀ cursor, (createCursor catalogue answer).1 = some cursor →
      (createCursor catalogue answer).2 cursor.id = some cursor) ∧
    (∀ cursorId cursor, catalogue cursorId = some cursor →
      (createCursor catalogue answer).2 cursorId = some cursor) ∧
    ∀ cursorId cursor, (createCursor catalogue answer).2 cursorId = some cursor →
      cursor.id = cursorId := by
  cases answer with
  | none => exact ⟨fun cursor hnone => (by cases hnone), fun _ _ hknown => hknown, h⟩
  | some cursorImage =>
      rw [createCursor]
      dsimp only
      cases hknown : catalogue cursorImage.checksum with
      | some known =>
          refine ⟨fun cursor hcursor => ?_, fun _ _ hold => hold, h⟩
          cases hcursor
          rw [h _ _ hknown]
          exact hknown
      | none =>
          cases cursorImage.image with
          | none => exact ⟨fun cursor hnone => (by cases hnone), fun _ _ hold => hold, h⟩
          | some image =>
              refine ⟨fun cursor hcursor => ?_, fun cursorId cursor hold => ?_,
                fun cursorId cursor hcursor => ?_⟩
              · cases hcursor
                exact if_pos rfl
              · -- the identifier of the new cursor was free
                dsimp only
                rw [if_neg, hold]
                rintro rfl
                cases hknown.symm.trans hold
              · dsimp only at hcursor
                split_ifs at hcursor with hsame
                · cases hcursor
                  exact hsame.symm
                · exact h cursorId cursor hcursor

/-- The start of the engine. -/
theorem catalogued_create (pointer : ScreenPosition) (answer : Option XFixesCursorImage) :
    (create pointer answer).Catalogued := by
  have hempty : ∀ (cursorId : UInt32) (cursor : WebXMouseCursor),
      (fun _ => none : UInt32 → Option WebXMouseCursor) cursorId = some cursor →
        cursor.id = cursorId :=
    fun _ _ hnone => by cases hnone
  obtain ⟨hnew, -, hkeyed⟩ := createCursor_spec hempty answer
  refine ⟨hkeyed, fun cursorId hcursor => ?_⟩
  obtain ⟨cursor, hcreated, rfl⟩ := Option.map_eq_some_iff.mp hcursor
  rw [create, Option.isSome_iff_exists]
  exact ⟨cursor, hnew cursor hcreated⟩

/-- **X shows another cursor.** -/
theorem Catalogued.updateCursor (h : cursors.Catalogued) (answer : Option XFixesCursorImage) :
    (cursors.updateCursor answer).Catalogued ∧
      ∀ cursorId cursor, cursors.catalogue cursorId = some cursor →
        (cursors.updateCursor answer).catalogue cursorId = some cursor := by
  obtain ⟨hnew, hold, hkeyed⟩ := createCursor_spec h.keyed answer
  refine ⟨⟨hkeyed, fun cursorId hcursor => ?_⟩, hold⟩
  rw [Option.isSome_iff_exists]
  change (Option.map WebXMouseCursor.id (createCursor cursors.catalogue answer).1).or
    cursors.pointer.mouse.state.cursor = some cursorId at hcursor
  cases hcreated : (createCursor cursors.catalogue answer).1 with
  | none =>
      rw [hcreated] at hcursor
      obtain ⟨cursor, hcatalogue⟩ := Option.isSome_iff_exists.mp (h.current cursorId hcursor)
      exact ⟨cursor, hold cursorId cursor hcatalogue⟩
  | some cursor =>
      rw [hcreated] at hcursor
      cases hcursor
      exact ⟨cursor, hnew cursor hcreated⟩

end MouseCursors

/-! ## The invariant -/

/-- The clients are told about the windows before this place in the loop, and nothing has changed since. -/
def MainLoopStage.afterDisplay : MainLoopStage → Bool
  | .cursor | .pings | .windows | .qualities | .mouse => true
  | _ => false

/-- The clients are told the cursor before this place in the loop. -/
def MainLoopStage.afterCursor : MainLoopStage → Bool
  | .pings | .windows | .qualities | .mouse => true
  | _ => false

namespace MainLoopStage

variable {stage stage' : MainLoopStage}

/-- The loop goes from a place to another where no more was told, and not from the events. -/
structure Passes (stage stage' : MainLoopStage) : Prop where
  ne_events : stage ≠ .events
  afterDisplay : stage'.afterDisplay = true → stage.afterDisplay = true
  afterCursor : stage'.afterCursor = true → stage.afterCursor = true

/-- The loop goes on before the clients are told anything. -/
theorem passes_before (h : stage ≠ .events) (hdisplay : stage'.afterDisplay = false)
    (hcursor : stage'.afterCursor = false) : Passes stage stage' where
  ne_events := h
  afterDisplay := fun hafter => absurd (hdisplay.symm.trans hafter) Bool.false_ne_true
  afterCursor := fun hafter => absurd (hcursor.symm.trans hafter) Bool.false_ne_true

/-- The loop goes on after the clients were told everything. -/
theorem passes_after (h : stage.afterCursor = true) : Passes stage stage' := by
  cases stage
  case pings | windows | qualities | mouse =>
    exact ⟨MainLoopStage.noConfusion, fun _ => rfl, fun _ => rfl⟩
  all_goals exact absurd h Bool.false_ne_true

end MainLoopStage

open MainLoopStage (Passes passes_before passes_after)

namespace MainLoop

/-- What the clients know, as long as the handlers are set. -/
structure Inv (state : MainLoop) : Prop where
  /-- What was told last about the windows is right, unless there is something to tell. -/
  layout : state.hasHandlers = true → state.displayDirty = false →
    state.displayRequiresUpdate = false → ∀ index : UInt64, index ≠ 0 →
      LastTold (WebXMessage.layoutFor index) state.display.visibleWindows state.sent
  /-- What was told last about the cursor is right, unless there is something to tell. -/
  cursor : state.hasHandlers = true → state.cursorDirty = false → ∀ index : UInt64, index ≠ 0 →
    ∃ cursorId, state.cursors.pointer.mouse.state.cursor = some cursorId ∧
      LastTold (WebXMessage.cursorFor index) cursorId state.sent
  requires : state.displayRequiresUpdate = true → state.stage = .events
  afterDisplay : state.stage.afterDisplay = true → state.displayDirty = false
  afterCursor : state.stage.afterCursor = true → state.cursorDirty = false
  catalogued : state.cursors.Catalogued
  /-- The cursors that were ever told are in the catalogue, and the mouse still has one. -/
  told : ∀ message ∈ state.sent, ∀ cursorId, message.mouseCursor = some cursorId →
    (state.cursors.catalogue cursorId).isSome = true ∧
      state.cursors.pointer.mouse.state.cursor ≠ none

/-- What a client was told about the windows stays right. -/
theorem layout_of_tells {state state' : ControllerState} (h : state.Tells state')
    {index : UInt64} (hlast : LastTold (WebXMessage.layoutFor index) state.display.visibleWindows
      state.sent) :
    LastTold (WebXMessage.layoutFor index) state'.display.visibleWindows state'.sent := by
  obtain ⟨messages, hsent, hright⟩ := h.sent
  rw [h.visibleWindows, hsent]
  refine hlast.append fun message hmessage windows hwindows => hright.layout message hmessage windows ?_
  rw [WebXMessage.layoutFor] at hwindows
  split_ifs at hwindows
  exact hwindows

/-- What a client was told about the cursor stays right. -/
theorem cursor_of_tells {state state' : ControllerState} (h : state.Tells state')
    {index : UInt64} {cursorId : UInt32}
    (hcursor : state.cursors.pointer.mouse.state.cursor = some cursorId)
    (hlast : LastTold (WebXMessage.cursorFor index) cursorId state.sent) :
    state'.cursors.pointer.mouse.state.cursor = some cursorId ∧
      LastTold (WebXMessage.cursorFor index) cursorId state'.sent := by
  obtain ⟨messages, hsent, hright⟩ := h.sent
  rw [h.cursor, hsent]
  refine ⟨hcursor, hlast.append fun message hmessage other hother => ?_⟩
  rw [WebXMessage.cursorFor] at hother
  split_ifs at hother
  exact Option.some.inj ((hright.mouseCursor message hmessage other hother).symm.trans hcursor)

variable {state state' : MainLoop}

/-- **A step that tells what is right** keeps the invariant. -/
theorem Inv.of_tells (h : state.Inv) (htells : state.toControllerState.Tells state'.toControllerState)
    (hhandlers : state'.hasHandlers = true → state.hasHandlers = true)
    (hdisplay : state'.displayDirty = state.displayDirty)
    (hcursor : state'.cursorDirty = state.cursorDirty)
    (hstage : state'.stage = state.stage ∨ Passes state.stage state'.stage) : state'.Inv where
  layout := fun hset hclean hupdated index hindex =>
    layout_of_tells htells (h.layout (hhandlers hset) (hdisplay ▸ hclean)
      (htells.displayRequiresUpdate ▸ hupdated) index hindex)
  cursor := fun hset hclean index hindex => by
    obtain ⟨cursorId, hsame, hlast⟩ := h.cursor (hhandlers hset) (hcursor ▸ hclean) index hindex
    exact ⟨cursorId, cursor_of_tells htells hsame hlast⟩
  requires := fun hrequires => by
    have hbefore := h.requires (htells.displayRequiresUpdate ▸ hrequires)
    rcases hstage with hsame | hpasses
    · exact hsame.trans hbefore
    · exact absurd hbefore hpasses.ne_events
  afterDisplay := fun hafter => by
    rw [hdisplay]
    rcases hstage with hsame | hpasses
    · exact h.afterDisplay (hsame ▸ hafter)
    · exact h.afterDisplay (hpasses.afterDisplay hafter)
  afterCursor := fun hafter => by
    rw [hcursor]
    rcases hstage with hsame | hpasses
    · exact h.afterCursor (hsame ▸ hafter)
    · exact h.afterCursor (hpasses.afterCursor hafter)
  catalogued := by
    refine ⟨?_, ?_⟩
    · rw [htells.catalogue]
      exact h.catalogued.keyed
    · rw [htells.catalogue, htells.cursor]
      exact h.catalogued.current
  told := fun message hmessage cursorId hcursorId => by
    obtain ⟨messages, hsent, hright⟩ := htells.sent
    rw [hsent] at hmessage
    rw [htells.catalogue, htells.cursor]
    rcases List.mem_append.mp hmessage with hbefore | hnew
    · exact h.told message hbefore cursorId hcursorId
    · have hcursor := hright.mouseCursor message hnew cursorId hcursorId
      exact ⟨h.catalogued.current cursorId hcursor, Option.ne_none_iff_exists'.mpr ⟨_, hcursor⟩⟩

/-- The start of the engine. -/
theorem inv_create (display : WebXDisplay) (pointer : ScreenPosition)
    (answer : Option XFixesCursorImage) (keyboard : KeyboardState) (owner : Option SelectionOwner) :
    (create (.start display (.create pointer answer) keyboard owner)).Inv where
  layout := fun _ hclean => by cases hclean
  cursor := fun _ hclean => by cases hclean
  requires := fun hrequires => by cases hrequires
  afterDisplay := fun hafter => by cases hafter
  afterCursor := fun hafter => by cases hafter
  catalogued := MouseCursors.catalogued_create pointer answer
  told := fun _ hmessage => absurd hmessage List.not_mem_nil

/-! ## Steps -/

section Steps

variable {root : UInt32} {settings : WebXSettings} {checksum : List UInt8 → UInt32}
  {engineVersion : WebXVersion} {keyMaps : KeyMaps} {depth stackDepth : ℕ}

/-- A call to the registry changes the registry. -/
theorem exists_callRegistry {op : RegistryOp} (h : state.callRegistry settings op = .ok state') :
    ∃ registry, state' = { state with registry := registry } := by
  obtain ⟨called, -, h⟩ := exists_of_bind_eq_ok h
  cases h
  exact ⟨called.registry, rfl⟩

/-- A call of the registry leaves the display, the cursors and the keyboard. -/
theorem Inv.callRegistry (h : state.Inv) {op : RegistryOp}
    (hcall : state.callRegistry settings op = .ok state') : state'.Inv := by
  obtain ⟨registry, rfl⟩ := exists_callRegistry hcall
  exact h.of_tells (ControllerState.tells_of_sent_eq rfl rfl rfl rfl rfl) id rfl rfl (.inl rfl)

/-- The loop goes to another place. -/
theorem Inv.setStage (h : state.Inv) {stage : MainLoopStage} (hpasses : Passes state.stage stage) :
    Inv { state with stage := stage } :=
  h.of_tells (.refl _) id rfl rfl (.inr hpasses)

/-- The clipboard changes. -/
theorem Inv.setClipboard (h : state.Inv) (clipboard : ClipboardControllerState) :
    Inv { state with clipboard := clipboard } :=
  h.of_tells (ControllerState.tells_of_sent_eq rfl rfl rfl rfl rfl) id rfl rfl (.inl rfl)

/-- A test client may be added before the loop starts. -/
theorem Inv.run (h : state.Inv) {testing : Bool} {draws : List UInt32} {now : Time}
    (hstage : state.stage = .created) (hrun : state.run settings testing draws now = .ok state') :
    state'.Inv := by
  obtain ⟨added, hadded, hrun⟩ := exists_of_bind_eq_ok hrun
  have hbefore : added.Inv ∧ added.stage = .created := by
    rw [addTestClient] at hadded
    split_ifs at hadded
    · refine ⟨h.callRegistry hadded, ?_⟩
      obtain ⟨registry, rfl⟩ := exists_callRegistry hadded
      exact hstage
    · cases hadded
      exact ⟨h, hstage⟩
  have hne : added.stage ≠ .events := by
    rw [hbefore.2]
    exact MainLoopStage.noConfusion
  cases hrun
  exact hbefore.1.of_tells (.refl _) id rfl rfl (.inr (passes_before hne rfl rfl))

/-- The test of the state decides whether the loop goes on, and nothing else. -/
theorem Inv.testState (h : state.Inv) (now : Time) : (state.testState now).Inv := by
  rw [MainLoop.testState]
  cases hstage : state.stage with
  | beforeSleep =>
      have hne : state.stage ≠ .events := by
        rw [hstage]
        exact MainLoopStage.noConfusion
      dsimp only
      split_ifs
      · exact h.setStage (passes_before hne rfl rfl)
      · exact h.setStage (passes_before hne rfl rfl)
  | afterSleep =>
      have hne : state.stage ≠ .events := by
        rw [hstage]
        exact MainLoopStage.noConfusion
      dsimp only
      split_ifs
      · exact h.of_tells (.refl _) id rfl rfl (.inr (passes_before hne rfl rfl))
      · exact h.setStage (passes_before hne rfl rfl)
  | _ => exact h

/-- The next instruction is handled. -/
theorem Inv.handleNextInstruction (h : state.Inv) {answers : InstructionAnswers}
    (hhandle : state.handleNextInstruction settings engineVersion keyMaps depth answers = .ok state') :
    state'.Inv := by
  rw [MainLoop.handleNextInstruction] at hhandle
  split at hhandle
  case h_1 instruction remaining hstage =>
    obtain ⟨controller, hcontroller, hhandle⟩ := exists_of_bind_eq_ok hhandle
    have hne : state.stage ≠ .events := by
      rw [hstage]
      exact MainLoopStage.noConfusion
    cases hhandle
    exact h.of_tells (ControllerState.tells_handleClientInstruction hcontroller) id rfl rfl
      (.inr (passes_before hne rfl rfl))
  case h_2 =>
    cases hhandle
    exact h

/-- **An event.** What it changes has to be told. -/
theorem Inv.handleEvent (h : state.Inv) (hstage : state.stage = .events) {event : HandledEvent root}
    {now : Time} (hevent : state.handleEvent settings stackDepth now event = .ok state') :
    state'.Inv := by
  cases event with
  | window event =>
      obtain ⟨engine, hengine, hevent⟩ := exists_of_bind_eq_ok hevent
      cases hevent
      rcases EngineState.visibleWindows_handleQueuedEvent hengine with hrequires | ⟨hvisible, hrequires⟩
      · -- the visible windows may have changed: they are looked for after the events
        exact
          { layout := fun _ _ hupdated => absurd (hrequires.symm.trans hupdated).symm
              Bool.false_ne_true
            cursor := h.cursor
            requires := fun _ => hstage
            afterDisplay := h.afterDisplay
            afterCursor := h.afterCursor
            catalogued := h.catalogued
            told := h.told }
      · exact h.of_tells (ControllerState.tells_of_sent_eq hvisible hrequires rfl rfl rfl) id rfl rfl
          (.inl rfl)
  | cursor answer =>
      obtain ⟨hcatalogued, hkept⟩ := h.catalogued.updateCursor answer
      have htold : ∀ message ∈ state.sent, ∀ cursorId, message.mouseCursor = some cursorId →
          ((state.cursors.updateCursor answer).catalogue cursorId).isSome = true ∧
            (state.cursors.updateCursor answer).pointer.mouse.state.cursor ≠ none := by
        intro message hmessage cursorId hcursorId
        obtain ⟨hknown, hcurrent⟩ := h.told message hmessage cursorId hcursorId
        obtain ⟨cursor, hcursor⟩ := Option.isSome_iff_exists.mp hknown
        refine ⟨Option.isSome_iff_exists.mpr ⟨cursor, hkept cursorId cursor hcursor⟩, ?_⟩
        -- a null cursor does not replace that of the mouse
        exact fun hnone => hcurrent (Option.or_eq_none_iff.mp hnone).2
      cases hevent
      rw [onCursorEvent]
      split_ifs with hset
      · exact
          { layout := h.layout
            cursor := fun _ hclean => absurd hclean.symm Bool.false_ne_true
            requires := h.requires
            afterDisplay := h.afterDisplay
            afterCursor := fun hafter => by
              dsimp only at hafter
              rw [hstage] at hafter
              exact absurd hafter Bool.false_ne_true
            catalogued := hcatalogued
            told := htold }
      · exact
          { layout := h.layout
            cursor := fun hset' => absurd hset' hset
            requires := h.requires
            afterDisplay := h.afterDisplay
            afterCursor := h.afterCursor
            catalogued := hcatalogued
            told := htold }
  | shape x11Window shape =>
      obtain ⟨display, hdisplay, hevent⟩ := exists_of_bind_eq_ok hevent
      cases hevent
      exact h.of_tells (ControllerState.tells_display
        (WebXDisplay.sameWindows_updateWindowShape hdisplay).visibleWindows) id rfl rfl (.inl rfl)
  | selection =>
      cases hevent
      exact h.setClipboard _
  | selectionRequest request =>
      obtain ⟨clipboard, -, hevent⟩ := exists_of_bind_eq_ok hevent
      cases hevent
      exact h.setClipboard clipboard
  | screenChange width height rootAttributes =>
      rw [MainLoop.handleEvent] at hevent
      split_ifs at hevent
      · cases hevent
        exact h
      · cases hevent
        exact h.of_tells (ControllerState.tells_sendMessage (ControllerState.areRight_other rfl rfl)) id
          rfl rfl (.inl rfl)

/-- The end of the events: new windows have to be told. -/
theorem Inv.updateDisplay (h : state.Inv) {server : XServer root} {now : Time}
    (hupdate : state.updateDisplay server now = .ok state') : state'.Inv := by
  obtain ⟨updated, hupdated, hupdate⟩ := exists_of_bind_eq_ok hupdate
  rw [EngineState.updateDisplay] at hupdated
  cases hrequires : state.displayRequiresUpdate with
  | true =>
      simp only [hrequires, if_true] at hupdated hupdate
      obtain ⟨display, -, hupdated⟩ := exists_of_bind_eq_ok hupdated
      cases hupdated
      cases hupdate
      rw [onWindowLayoutEvent]
      split_ifs with hset
      · exact
          { layout := fun _ hclean => absurd hclean.symm Bool.false_ne_true
            cursor := h.cursor
            requires := fun hagain => absurd hagain Bool.false_ne_true
            afterDisplay := fun hafter => absurd hafter Bool.false_ne_true
            afterCursor := fun hafter => absurd hafter Bool.false_ne_true
            catalogued := h.catalogued
            told := h.told }
      · exact
          { layout := fun hset' => absurd hset' hset
            cursor := h.cursor
            requires := fun hagain => absurd hagain Bool.false_ne_true
            afterDisplay := fun hafter => absurd hafter Bool.false_ne_true
            afterCursor := fun hafter => absurd hafter Bool.false_ne_true
            catalogued := h.catalogued
            told := h.told }
  | false =>
      simp only [hrequires, if_neg Bool.false_ne_true] at hupdated hupdate
      cases hupdated
      cases hupdate
      exact
        { layout := fun hset hclean _ => h.layout hset hclean hrequires
          cursor := h.cursor
          requires := fun hagain => absurd hagain Bool.false_ne_true
          afterDisplay := fun hafter => absurd hafter Bool.false_ne_true
          afterCursor := fun hafter => absurd hafter Bool.false_ne_true
          catalogued := h.catalogued
          told := h.told }

/-- **The clients are told about the windows.** -/
theorem Inv.notifyDisplay (h : state.Inv) (hstage : state.stage = .display)
    (hnotify : state.notifyDisplay = .ok state') : state'.Inv := by
  have hne : state.stage ≠ .events := by
    rw [hstage]
    exact MainLoopStage.noConfusion
  rw [MainLoop.notifyDisplay] at hnotify
  split_ifs at hnotify with hdirty
  · obtain ⟨controller, hcontroller, hnotify⟩ := exists_of_bind_eq_ok hnotify
    obtain ⟨properties, hproperties, hcontroller⟩ := exists_of_bind_eq_ok hcontroller
    have htells := ControllerState.tells_sendMessage (ControllerState.areRight_windows
      globalClientIndexMask WebXMessage.noCommandId hproperties)
    cases hcontroller
    cases hnotify
    exact
      { layout := fun _ _ _ index hindex => by
          refine lastTold_concat _ ?_
          rw [WebXMessage.layoutFor, globalClientIndexMask_and, if_neg hindex]
          exact congrArg some (WebXDisplay.map_id_getVisibleWindowsProperties hproperties)
        cursor := fun hset hclean index hindex => by
          obtain ⟨cursorId, hcursor, hlast⟩ := h.cursor hset hclean index hindex
          exact ⟨cursorId, cursor_of_tells htells hcursor hlast⟩
        requires := fun hrequires => absurd (h.requires hrequires) hne
        afterDisplay := fun _ => rfl
        afterCursor := fun hafter => absurd hafter Bool.false_ne_true
        catalogued := h.catalogued
        told := fun message hmessage cursorId hcursorId => by
          rcases List.mem_append.mp hmessage with hbefore | hnew
          · exact h.told message hbefore cursorId hcursorId
          · rw [List.mem_singleton.mp hnew] at hcursorId
            cases hcursorId }
  · cases hnotify
    exact
      { layout := h.layout
        cursor := h.cursor
        requires := fun hrequires => absurd (h.requires hrequires) hne
        afterDisplay := fun _ => Bool.eq_false_iff.mpr hdirty
        afterCursor := fun hafter => absurd hafter Bool.false_ne_true
        catalogued := h.catalogued
        told := h.told }

/-- **The clients are told the cursor.** -/
theorem Inv.notifyCursor (h : state.Inv) (hstage : state.stage = .cursor)
    (hnotify : state.notifyCursor = .ok state') : state'.Inv := by
  have hne : state.stage ≠ .events := by
    rw [hstage]
    exact MainLoopStage.noConfusion
  have hclean : state.displayDirty = false := h.afterDisplay (by rw [hstage]; rfl)
  rw [MainLoop.notifyCursor] at hnotify
  split_ifs at hnotify with hdirty
  · obtain ⟨controller, hcontroller, hnotify⟩ := exists_of_bind_eq_ok hnotify
    obtain ⟨cursorId, hcursorId, hcontroller⟩ := exists_of_bind_eq_ok hcontroller
    have hcursor := ControllerState.cursor_of_getCursorId hcursorId
    have htells := ControllerState.tells_sendMessage (ControllerState.areRight_mouse
      globalClientIndexMask (-1) (-1) hcursor)
    cases hcontroller
    cases hnotify
    exact
      { layout := fun hset hclean hupdated index hindex =>
          layout_of_tells htells (h.layout hset hclean hupdated index hindex)
        cursor := fun _ _ index hindex => by
          refine ⟨cursorId, hcursor, lastTold_concat _ ?_⟩
          rw [WebXMessage.cursorFor, globalClientIndexMask_and, if_neg hindex]
          rfl
        requires := fun hrequires => absurd (h.requires hrequires) hne
        afterDisplay := fun _ => hclean
        afterCursor := fun _ => rfl
        catalogued := h.catalogued
        told := fun message hmessage other hother => by
          rcases List.mem_append.mp hmessage with hbefore | hnew
          · exact h.told message hbefore other hother
          · rw [List.mem_singleton.mp hnew] at hother
            cases hother
            exact ⟨h.catalogued.current cursorId hcursor,
              Option.ne_none_iff_exists'.mpr ⟨_, hcursor⟩⟩ }
  · cases hnotify
    exact
      { layout := h.layout
        cursor := h.cursor
        requires := fun hrequires => absurd (h.requires hrequires) hne
        afterDisplay := fun _ => hclean
        afterCursor := fun _ => Bool.eq_false_iff.mpr hdirty
        catalogued := h.catalogued
        told := h.told }

/-- The position of the pointer is told with its cursor. -/
theorem tells_notifyMousePositionChanged {controller controller' : ControllerState}
    (h : controller.notifyMousePositionChanged = .ok controller') : controller.Tells controller' := by
  obtain ⟨cursorId, hcursorId, h⟩ := exists_of_bind_eq_ok h
  cases h
  exact ControllerState.tells_sendMessage (ControllerState.areRight_mouse _ _ _
    (ControllerState.cursor_of_getCursorId hcursorId))

/-- The position is read again, and told when it has changed. -/
theorem tells_updateMousePosition {controller controller' : ControllerState}
    (h : controller.updateMousePosition = .ok controller') : controller.Tells controller' := by
  have hupdate : controller.Tells (controller.setPointer controller.cursors.pointer.updatePosition) :=
    ControllerState.tells_setPointer (PointerState.cursor_updatePosition _)
  rw [ControllerState.updateMousePosition] at h
  split_ifs at h
  · obtain ⟨told, htold, h⟩ := exists_of_bind_eq_ok h
    cases h
    exact (hupdate.trans (tells_notifyMousePositionChanged htold)).trans
      (ControllerState.tells_setPointer rfl)
  · cases h
    exact hupdate

/-- The last part of a round tells where the pointer is. -/
theorem Inv.refreshMouse (h : state.Inv) (hstage : state.stage = .mouse) {now : Time}
    (hrefresh : state.refreshMouse now = .ok state') : state'.Inv := by
  have hpasses : Passes state.stage .beforeSleep := passes_after (by rw [hstage]; rfl)
  rw [MainLoop.refreshMouse] at hrefresh
  split_ifs at hrefresh
  · obtain ⟨controller, hcontroller, hrefresh⟩ := exists_of_bind_eq_ok hrefresh
    cases hrefresh
    exact h.of_tells (tells_updateMousePosition hcontroller) id rfl rfl (.inr hpasses)
  · cases hrefresh
    exact h.setStage hpasses

/-- **Every step of the loop, and everything around it, keeps the invariant.** -/
theorem Inv.step (h : state.Inv) {action : MainLoopAction root}
    (hallowed : state.stage.Allows action)
    (hstep : state.step settings checksum engineVersion keyMaps depth stackDepth action = .ok state') :
    state'.Inv := by
  cases action with
  | run testing draws now => exact h.run hallowed hstep
  | testState now =>
      cases hstep
      exact h.testState now
  | handleClientInstruction answers => exact h.handleNextInstruction hstep
  | clearInstructions =>
      cases hstep
      have hstage : state.stage = .instructions [] := hallowed
      have hne : state.stage ≠ .events := by
        rw [hstage]
        exact MainLoopStage.noConfusion
      exact h.of_tells (.refl _) id rfl rfl (.inr (passes_before hne rfl rfl))
  | updateClipboard now =>
      obtain ⟨clipboard, -, hstep⟩ := exists_of_bind_eq_ok hstep
      cases hstep
      have hstage : state.stage = .clipboard := hallowed
      have hne : state.stage ≠ .events := by
        rw [hstage]
        exact MainLoopStage.noConfusion
      exact (h.setClipboard clipboard).setStage (passes_before hne rfl rfl)
  | handleEvent event now => exact h.handleEvent hallowed hstep
  | updateDisplay server now => exact h.updateDisplay hstep
  | notifyDisplayChanged => exact h.notifyDisplay hallowed hstep
  | notifyCursorChanged => exact h.notifyCursor hallowed hstep
  | handleClientPings testing now =>
      obtain ⟨pinged, hpinged, hstep⟩ := exists_of_bind_eq_ok hstep
      have hstage : state.stage = .pings := hallowed
      have hbefore : pinged.Inv ∧ pinged.stage = .pings := by
        rw [sendPings] at hpinged
        split_ifs at hpinged
        · cases hpinged
          exact ⟨h, hstage⟩
        · refine ⟨h.callRegistry hpinged, ?_⟩
          obtain ⟨registry, rfl⟩ := exists_callRegistry hpinged
          exact hstage
      cases hstep
      exact hbefore.1.setStage (passes_after (by rw [hbefore.2]; rfl))
  | updateClientWindows update =>
      obtain ⟨controller, hcontroller, hstep⟩ := exists_of_bind_eq_ok hstep
      cases hstep
      have hstage : state.stage = .windows := hallowed
      exact h.of_tells (ControllerState.tells_updateClientWindows hcontroller) id rfl rfl
        (.inr (passes_after (by rw [hstage]; rfl)))
  | performQualityVerification measure now =>
      obtain ⟨verified, hverified, hstep⟩ := exists_of_bind_eq_ok hstep
      have hstage : verified.stage = .qualities := by
        obtain ⟨registry, rfl⟩ := exists_callRegistry hverified
        exact hallowed
      cases hstep
      exact (h.callRegistry hverified).setStage (passes_after (by rw [hstage]; rfl))
  | refreshMouse now => exact h.refreshMouse hallowed hstep
  | stop =>
      obtain ⟨stopped, hstopped, hstep⟩ := exists_of_bind_eq_ok hstep
      cases hstep
      exact (h.callRegistry hstopped).of_tells (.refl _) (fun hset => absurd hset Bool.false_ne_true)
        rfl rfl (.inl rfl)
  | receive instruction =>
      cases hstep
      rw [MainLoop.receive]
      split_ifs
      · exact h.of_tells (.refl _) id rfl rfl (.inl rfl)
      · exact h
  | addClient clientVersion draws now =>
      rw [MainLoop.step] at hstep
      split_ifs at hstep
      · exact h.callRegistry hstep
      · cases hstep
        exact h
  | removeClient clientId =>
      rw [MainLoop.step] at hstep
      split_ifs at hstep
      · exact h.callRegistry hstep
      · cases hstep
        exact h
  | move position =>
      cases hstep
      exact h.of_tells (ControllerState.tells_setPointer rfl) id rfl rfl (.inl rfl)
  | reply conversion event property | ownerChanged window =>
      obtain ⟨clipboard, -, hstep⟩ := exists_of_bind_eq_ok hstep
      cases hstep
      exact h.setClipboard clipboard

end Steps

end MainLoop

/-! ## Runs -/

section Runs

variable {root : UInt32} {settings : WebXSettings} {checksum : List UInt8 → UInt32}
  {engineVersion : WebXVersion} {keyMaps : KeyMaps} {depth stackDepth : ℕ} {display : WebXDisplay}
  {pointer : ScreenPosition} {answer : Option XFixesCursorImage} {keyboard : KeyboardState}
  {owner : Option SelectionOwner} {actions : List (MainLoopAction root)} {state : MainLoop}

/-- **What the clients were told is what there is** in every state of a run. -/
theorem MainLoop.inv_of_run
    (hrun : MainLoop.Runs settings checksum engineVersion keyMaps depth stackDepth
      (.create (.start display (.create pointer answer) keyboard owner)) actions state) : state.Inv :=
  Run.invariant (P := MainLoop.Inv) (fun _ _ _ h hallowed hstep => h.step hallowed hstep) hrun
    (MainLoop.inv_create display pointer answer keyboard owner)

/-- **The cursors that the clients were told can be had.** Each cursor that was ever told is found when a
client asks for it, with the identifier that was told unless this is 0. -/
theorem fetchable_of_run
    (hrun : MainLoop.Runs settings checksum engineVersion keyMaps depth stackDepth
      (.create (.start display (.create pointer answer) keyboard owner)) actions state)
    {message : WebXMessage} (hmessage : message ∈ state.sent) {cursorId : UInt32}
    (hcursorId : message.mouseCursor = some cursorId) :
    ∃ cursor, state.cursors.getCursor cursorId = some cursor ∧
      (cursorId ≠ 0 → cursor.id = cursorId) := by
  have hinv := MainLoop.inv_of_run hrun
  obtain ⟨hknown, hcurrent⟩ := hinv.told message hmessage cursorId hcursorId
  rw [MouseCursors.getCursor]
  split_ifs with hzero
  · -- the cursor of the mouse is asked for
    obtain ⟨current, hsome⟩ := Option.ne_none_iff_exists'.mp hcurrent
    obtain ⟨cursor, hcursor⟩ := Option.isSome_iff_exists.mp (hinv.catalogued.current current hsome)
    exact ⟨cursor, by rw [hsome]; exact hcursor, fun hne => absurd hzero hne⟩
  · obtain ⟨cursor, hcursor⟩ := Option.isSome_iff_exists.mp hknown
    exact ⟨cursor, hcursor, fun _ => hinv.catalogued.keyed cursorId cursor hcursor⟩

end Runs

/-! ### A first round -/

/-- The loop starts; the only window moves, and the clients are told. -/
def firstRound : List (MainLoopAction 1) :=
  [.run false [] 0, .testState 0, .testState 1, .clearInstructions, .updateClipboard 1,
    .handleEvent (.window (.configure ⟨2, 0, 50, 0, 100, 100⟩)) 1,
    .updateDisplay ControllerState.shapedScreen 1, .notifyDisplayChanged, .notifyCursorChanged]

/-- A display with this window. -/
def shapedDisplay : WebXDisplay :=
  (WebXDisplay.init ControllerState.shapedScreen).toOption.getD ⟨1, fun _ => none, [], []⟩

/-- The engine when it starts. -/
def shapedStart : MainLoop :=
  .create (.start shapedDisplay
    (.create (MouseControllerState.smallScreen.clamp ⟨0, 0⟩) (some ControllerState.arrow)) .create none)

/-- The first round can be run: the window and the cursor are told. -/
theorem exists_firstRound : ∃ state,
    MainLoop.Runs .default crc32Bitwise ⟨1, 0, 0⟩ KeyboardState.gbAndFr 0 8 shapedStart firstRound
      state ∧
    state.hasHandlers = true ∧ state.stage = .pings ∧ state.display.visibleWindows = [2] ∧
    ∃ message ∈ state.sent, message.mouseCursor = some 9 :=
  ⟨_, .cons rfl rfl (.cons (.inl rfl) rfl (.cons (.inr rfl) rfl (.cons rfl rfl
    (.cons rfl rfl (.cons rfl rfl (.cons rfl rfl (.cons rfl rfl (.cons rfl rfl (.nil _))))))))),
    rfl, rfl, rfl, _, List.mem_cons_of_mem _ List.mem_cons_self, rfl⟩

/-- The cursor that was told is found. -/
theorem fetchable_of_run_firstRound : ∃ (state : MainLoop) (cursor : WebXMouseCursor),
    state.cursors.getCursor 9 = some cursor ∧ cursor.id = 9 := by
  obtain ⟨state, hrun, -, -, -, message, hmessage, hcursorId⟩ := exists_firstRound
  obtain ⟨cursor, hcursor, hid⟩ := fetchable_of_run hrun hmessage hcursorId
  exact ⟨state, cursor, hcursor, hid (by decide)⟩

end WebXEngine
