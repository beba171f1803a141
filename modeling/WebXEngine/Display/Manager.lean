import WebXEngine.Controller.RegistryDamage
import WebXEngine.Display.VisibleWindows

/-! # The events of the server

The manager takes the events of the X server from their queue, changes the display and reports damage
to the registry of the clients. Damage that the server reports together with a new size or place of a
window may be filtered, since such a window is expected to be sent again as a whole.

* **`EngineState`** — the display, the filters and the registry of the clients.
* **`EngineState.handlePendingEvents`** — the events of the queue, one after the other.
* **`EngineState.Settled`** — between the actions of the engine, no visible window was freed.
* **`handleWindowConfigureEvent`** — a window has a new size or place.
* **`RepaintsResized`** — a window with a new size is sent again as a whole; `repaintsResized_iff` says
  when this is so. -/

namespace WebXEngine

open WebXClientWindow (pendingDamage)

/-- A window has a new size or place. -/
structure WebXConfigureEvent where
  x11Window : UInt32
  serial : ℕ
  x : ℤ
  y : ℤ
  width : ℤ
  height : ℤ
  deriving DecidableEq, Repr

/-- The rectangle of the event. -/
def WebXConfigureEvent.rectangle (event : WebXConfigureEvent) : WebXRectangle :=
  .ofSize event.x event.y event.width event.height

/-- A part of a window has changed; more events may follow for the same change. -/
structure WebXDamageEvent where
  x11Window : UInt32
  serial : ℕ
  more : Bool
  rectangle : WebXRectangle
  deriving DecidableEq, Repr

/-- An event of the server; the queries made to handle it are answered from the tree of the windows
at that time. -/
inductive XEvent (root : UInt32)
  | map (x11Window : UInt32) (server : XServer root)
  | unmap (x11Window : UInt32)
  | reparent (x11Window parentX11Window : UInt32)
  | configure (event : WebXConfigureEvent)
  | damage (event : WebXDamageEvent)

/-- The damage events of a window with this serial are ignored. -/
structure WebXDamageFilter where
  timestamp : Time
  x11Window : UInt32
  serial : ℕ
  deriving DecidableEq, Repr

namespace WebXEventListener

/-- The filter is the one of a damage event. -/
def matchesDamage (event : WebXDamageEvent) (damageFilter : WebXDamageFilter) : Bool :=
  damageFilter.x11Window = event.x11Window && damageFilter.serial = event.serial

/-- Tells whether an event is handled, and changes the filters. -/
def filter {root : UInt32} (now : Time) (damageFilters : List WebXDamageFilter) :
    XEvent root → Bool × List WebXDamageFilter
  | .damage event =>
      if damageFilters.any (matchesDamage event) then
        (false, if event.more then damageFilters else damageFilters.eraseP (matchesDamage event))
      else
        (true, damageFilters)
  | .configure event => (true, damageFilters ++ [⟨now, event.x11Window, event.serial⟩])
  | .map _ _ | .unmap _ | .reparent _ _ => (true, damageFilters)

/-- Filters older than a second are removed. -/
def removeOldFilters (now : Time) (damageFilters : List WebXDamageFilter) : List WebXDamageFilter :=
  damageFilters.filter fun damageFilter => ¬ now - damageFilter.timestamp > Time.ofMs 1000

end WebXEventListener

/-- The display and the registry of the clients, with the events between them. -/
structure EngineState where
  display : WebXDisplay
  displayRequiresUpdate : Bool
  damageFilters : List WebXDamageFilter
  registry : WebXClientRegistry

namespace EngineState

variable {root : UInt32} (settings : WebXSettings) (stackDepth : ℕ) (now : Time)
  (state : EngineState)

/-- Reports damage to the registry of the clients. -/
def sendDamageEvent (damage : WebXWindowDamage) : EngineState :=
  { state with registry := state.registry.addWindowDamage settings damage now }

/-- A visible window has a new rectangle. The size is read through the pointer to the window, which
has the new rectangle by then. -/
def handleWindowConfigureEvent (event : WebXConfigureEvent) : Except Fault EngineState :=
  state.display.callIfWindowVisible event.x11Window state do
    let display ← state.display.modifyWindow event.x11Window fun window =>
      { window with rectangle := event.rectangle }
    let window ← display.deref event.x11Window
    let windowSize := window.rectangle.size
    let sizeHasChanged := windowSize.width ≠ event.width || windowSize.height ≠ event.height
    let state : EngineState := { state with display }
    let state :=
      if sizeHasChanged then
        state.sendDamageEvent settings now (.ofArea event.x11Window window.rectangle true)
      else
        state
    return { state with displayRequiresUpdate := true }

/-- The handling of an event. -/
def handleXEvent : XEvent root → Except Fault EngineState
  | .map x11Window server => do
      let display ← state.display.createWindowInTree server x11Window
      return { state with display, displayRequiresUpdate := true }
  | .unmap x11Window => do
      let display ← state.display.removeWindowFromTree stackDepth x11Window
      return { state with display, displayRequiresUpdate := true }
  | .reparent x11Window parentX11Window => do
      let display ← state.display.reparentWindow x11Window parentX11Window
      return { state with display, displayRequiresUpdate := true }
  | .configure event => state.handleWindowConfigureEvent settings now event
  | .damage event =>
      return state.sendDamageEvent settings now (.ofArea event.x11Window event.rectangle false)

/-- An event of the queue is handled when the filter lets it pass. -/
def handleQueuedEvent (state : EngineState) (event : XEvent root) : Except Fault EngineState :=
  let filtered :=
    if settings.event.filterDamageAfterConfigureNotify then
      WebXEventListener.filter now state.damageFilters event
    else
      (true, state.damageFilters)
  let state : EngineState := { state with damageFilters := filtered.2 }
  if filtered.1 then state.handleXEvent settings stackDepth now event else .ok state

/-- The loop over the events of the queue. -/
def flushQueuedEvents (events : List (XEvent root)) : Except Fault EngineState := do
  let state ← events.foldlM (handleQueuedEvent settings stackDepth now) state
  return { state with
    damageFilters := WebXEventListener.removeOldFilters now state.damageFilters }

/-- Looks for the visible windows again when some event requires it. -/
def updateDisplay (server : XServer root) : Except Fault EngineState :=
  if state.displayRequiresUpdate then do
    let display ← state.display.updateVisibleWindows server
    return { state with display, displayRequiresUpdate := false }
  else
    return state

/-- The events of the queue and their consequences. -/
def handlePendingEvents (events : List (XEvent root)) (server : XServer root) :
    Except Fault EngineState := do
  let state ← state.flushQueuedEvents settings stackDepth now events
  state.updateDisplay server

end EngineState

/-- What the engine does: it handles the events of the server and makes calls to the registry of the
clients. -/
inductive EngineAction (root : UInt32)
  | handlePendingEvents (events : List (XEvent root)) (server : XServer root) (now : Time)
  | registry (op : RegistryOp)

namespace EngineState

variable {root : UInt32} (settings : WebXSettings) (stackDepth : ℕ)

/-- The engine when it starts. -/
def start (display : WebXDisplay) : EngineState where
  display := display
  displayRequiresUpdate := false
  damageFilters := []
  registry := .create

/-- One action of the engine. -/
def step (state : EngineState) : EngineAction root → Except Fault EngineState
  | .handlePendingEvents events server now =>
      state.handlePendingEvents settings stackDepth now events server
  | .registry op => do
      let registryState ← RegistryState.step settings ⟨state.registry, []⟩ op
      return { state with registry := registryState.registry }

/-- The states of the engine after any actions. -/
def Reachable (root : UInt32) (state : EngineState) : Prop :=
  ∃ (server : XServer root) (display : WebXDisplay) (actions : List (EngineAction root)),
    WebXDisplay.init server = .ok display ∧
    actions.foldlM (step settings stackDepth) (start display) = .ok state

/-! ## The visible windows between the actions -/

/-- The visible windows have been looked for since the last event that may have freed one. -/
structure Settled (state : EngineState) : Prop where
  updated : state.displayRequiresUpdate = false
  alive : state.display.VisibleAlive

variable {settings stackDepth} {now : Time} {state state' : EngineState}

/-- An event that may free a window asks for an update. -/
theorem alive_of_handleXEvent {event : XEvent root}
    (h : state.displayRequiresUpdate = true ∨ state.display.VisibleAlive)
    (hhandle : state.handleXEvent settings stackDepth now event = .ok state') :
    state'.displayRequiresUpdate = true ∨ state'.display.VisibleAlive := by
  cases event with
  | map x11Window server | unmap x11Window | reparent x11Window parentX11Window =>
      obtain ⟨display, -, hhandle⟩ := exists_of_bind_eq_ok hhandle
      cases hhandle
      exact .inl rfl
  | configure event =>
      rcases WebXDisplay.eq_of_callIfWindowVisible hhandle with rfl | hhandle
      · exact h
      · obtain ⟨display, -, hhandle⟩ := exists_of_bind_eq_ok hhandle
        obtain ⟨window, -, hhandle⟩ := exists_of_bind_eq_ok hhandle
        cases hhandle
        exact .inl rfl
  | damage event =>
      cases hhandle
      exact h

/-- An event of the queue is handled or not. -/
theorem alive_of_handleQueuedEvent {event : XEvent root}
    (h : state.displayRequiresUpdate = true ∨ state.display.VisibleAlive)
    (hhandle : handleQueuedEvent settings stackDepth now state event = .ok state') :
    state'.displayRequiresUpdate = true ∨ state'.display.VisibleAlive := by
  rw [handleQueuedEvent] at hhandle
  generalize (if settings.event.filterDamageAfterConfigureNotify = true then
    WebXEventListener.filter now state.damageFilters event
    else (true, state.damageFilters)) = filtered at hhandle
  split_ifs at hhandle
  · exact @alive_of_handleXEvent _ _ _ _ { state with damageFilters := filtered.2 } _ _ h hhandle
  · cases hhandle
    exact h

/-- The visible windows are looked for after the events when this is required. -/
theorem settled_of_handlePendingEvents {events : List (XEvent root)} {server : XServer root}
    (h : state.displayRequiresUpdate = true ∨ state.display.VisibleAlive)
    (hhandle : state.handlePendingEvents settings stackDepth now events server = .ok state') :
    state'.Settled := by
  obtain ⟨flushed, hflush, hupdate⟩ := exists_of_bind_eq_ok hhandle
  obtain ⟨handled, hevents, hflush⟩ := exists_of_bind_eq_ok hflush
  cases hflush
  have hhandled : handled.displayRequiresUpdate = true ∨ handled.display.VisibleAlive :=
    (Run.of_foldlM hevents).invariant
      (P := fun state => state.displayRequiresUpdate = true ∨ state.display.VisibleAlive)
      (fun _ _ _ hs _ hstep => alive_of_handleQueuedEvent hs hstep) h
  rw [updateDisplay] at hupdate
  split_ifs at hupdate with hrequires
  · obtain ⟨display, hdisplay, hupdate⟩ := exists_of_bind_eq_ok hupdate
    cases hupdate
    exact ⟨rfl, WebXDisplay.visibleAlive_of_updateVisibleWindows hdisplay⟩
  · cases hupdate
    exact ⟨Bool.eq_false_iff.mpr hrequires, hhandled.resolve_left hrequires⟩

/-- The visible windows are looked for in the action in which one may be freed. -/
theorem Settled.step (h : state.Settled) {action : EngineAction root}
    (hstep : state.step settings stackDepth action = .ok state') : state'.Settled := by
  cases action with
  | handlePendingEvents events server now => exact settled_of_handlePendingEvents (.inr h.alive) hstep
  | registry op =>
      obtain ⟨registryState, -, hstep⟩ := exists_of_bind_eq_ok hstep
      cases hstep
      exact ⟨h.updated, h.alive⟩

/-- No visible window was freed when the engine starts. -/
theorem settled_start {server : XServer root} {display : WebXDisplay}
    (h : WebXDisplay.init server = .ok display) : (start display).Settled :=
  ⟨rfl, WebXDisplay.visibleAlive_of_init h⟩

/-! ## Windows with a new size -/

variable {event : WebXConfigureEvent} {window : WebXWindow}

/-- A window that gets a new size keeps the rectangle of the event, and is sent again as a whole to
all clients; a window that only gets a new place is not sent. -/
def RepaintsResized (settings : WebXSettings) (now : Time) (state : EngineState)
    (event : WebXConfigureEvent) (window : WebXWindow) : Prop :=
  ∃ state', state.handleWindowConfigureEvent settings now event = .ok state' ∧
    (∃ window', state'.display.getWindow event.x11Window = some window' ∧
      window'.rectangle = event.rectangle) ∧
    (window.rectangle.size ≠ event.rectangle.size → ∀ group ∈ state'.registry.groups,
      (pendingDamage group.windows event.x11Window).isFullWindow = true) ∧
    (window.rectangle.size = event.rectangle.size → state'.registry = state.registry)

/-- The new rectangle is kept, and nothing is reported: the size is compared with itself. -/
theorem handleWindowConfigureEvent_of_visible (settings : WebXSettings) (now : Time)
    (hfindable : state.display.Findable event.x11Window)
    (hvisible : event.x11Window ∈ state.display.visibleWindows)
    (hwindow : state.display.getWindow event.x11Window = some window) :
    state.handleWindowConfigureEvent settings now event = .ok { state with
      display := state.display.setWindow event.x11Window
        (some { window with rectangle := event.rectangle })
      displayRequiresUpdate := true } := by
  have hmodify : state.display.modifyWindow event.x11Window
      (fun window => { window with rectangle := event.rectangle }) =
      .ok (state.display.setWindow event.x11Window
        (some { window with rectangle := event.rectangle })) := by
    rw [WebXDisplay.modifyWindow, WebXDisplay.deref_of_getWindow hwindow]
    rfl
  -- the window is looked up again after it was changed
  have hderef : (state.display.setWindow event.x11Window
      (some { window with rectangle := event.rectangle })).deref event.x11Window =
      .ok { window with rectangle := event.rectangle } := by
    simp [WebXDisplay.deref, WebXDisplay.getWindow, WebXDisplay.setWindow]
  rw [handleWindowConfigureEvent, WebXDisplay.callIfWindowVisible_of_findable hfindable,
    if_pos hvisible, hmodify]
  change ((_ : WebXDisplay).deref event.x11Window >>= fun window => _) = _
  rw [hderef]
  simp [WebXConfigureEvent.rectangle, WebXRectangle.ofSize, bind, Except.bind, pure, Except.pure]

/-- **A window that gets a new size is sent again as a whole only when this was pending before.** -/
theorem repaintsResized_iff (settings : WebXSettings) (now : Time)
    (hvisible : event.x11Window ∈ state.display.visibleWindows)
    (hwindow : state.display.getWindow event.x11Window = some window) :
    RepaintsResized settings now state event window ↔
      state.display.Findable event.x11Window ∧
        (window.rectangle.size = event.rectangle.size ∨ ∀ group ∈ state.registry.groups,
          (pendingDamage group.windows event.x11Window).isFullWindow = true) := by
  by_cases hfindable : state.display.Findable event.x11Window
  · have hhandle := handleWindowConfigureEvent_of_visible settings now hfindable hvisible hwindow
    rw [and_iff_right hfindable]
    constructor
    · rintro ⟨state', hstate', -, hresized, -⟩
      cases hhandle.symm.trans hstate'
      by_cases hsize : window.rectangle.size = event.rectangle.size
      · exact .inl hsize
      · exact .inr (hresized hsize)
    · intro hpending
      refine ⟨_, hhandle, ⟨{ window with rectangle := event.rectangle }, ?_, rfl⟩, ?_, fun _ => rfl⟩
      · exact if_pos rfl
      · intro hsize
        exact hpending.resolve_left hsize
  · -- a window that was freed is met before
    refine iff_of_false ?_ fun h => hfindable h.1
    rintro ⟨state', hstate', -⟩
    rw [handleWindowConfigureEvent, WebXDisplay.callIfWindowVisible_of_not_findable hfindable]
      at hstate'
    cases hstate'

/-- A display with one window that can be seen. -/
private def serverOfWindow : XServer 1 where
  tree := .node 1 ⟨0, 0, 800, 600, true, true⟩ [.node 2 ⟨0, 0, 100, 100, true, true⟩ []]
  shapes := fun _ => ⟨true, none⟩
  unwritten := ⟨0, 0, 0, 0, false, false⟩
  root_eq := rfl
  root_shown := rfl
  nodup := by decide
  nonzero := by simp [XTree.windows, XTree.subtrees, XTree.subtreesAmong, XTree.window]
  shown := rfl

/-- A window that moves. -/
theorem repaintsResized_move : ∃ (state : EngineState) (window : WebXWindow),
    Reachable .default 8 1 state ∧ state.display.getWindow 2 = some window ∧
      RepaintsResized .default 0 state ⟨2, 0, 50, 0, 100, 100⟩ window := by
  refine ⟨_, _, ⟨serverOfWindow, _, [.registry (.addClient ⟨1, 0, 0⟩ [7] 0)], rfl, rfl⟩, rfl, ?_⟩
  exact (repaintsResized_iff .default 0 (by decide) rfl).mpr
    ⟨⟨⟨List.not_mem_nil, rfl⟩, fun h => absurd rfl h⟩, .inl rfl⟩

/-- The window has a frame for a while, and is deleted with it. -/
private def serverOfFrame : XServer 1 where
  tree := .node 1 ⟨0, 0, 800, 600, true, true⟩
    [.node 2 ⟨0, 0, 100, 100, true, true⟩ [], .node 3 ⟨0, 0, 100, 100, true, true⟩ []]
  shapes := fun _ => ⟨true, none⟩
  unwritten := ⟨0, 0, 0, 0, false, false⟩
  root_eq := rfl
  root_shown := rfl
  nodup := by decide
  nonzero := by simp [XTree.windows, XTree.subtrees, XTree.subtreesAmong, XTree.window]
  shown := rfl

-- the window that is mapped again is not the one that the list of the visible windows points to
example : ∃ start display, WebXDisplay.init serverOfWindow = .ok start ∧
    [.map 3 serverOfFrame, .reparent 2 3, .unmap 3, .map 2 serverOfWindow].foldlM
      (WebXDisplay.step 8) start = .ok display ∧
    (display.getWindow 2).isSome = true ∧ 2 ∈ display.visibleWindows ∧ ¬ display.Findable 2 :=
  ⟨_, _, rfl, rfl, rfl, by decide, fun h => h.1.1 (by decide)⟩

/-- A window that becomes wider while a client is connected. -/
theorem not_repaintsResized : ∃ (state : EngineState) (window : WebXWindow),
    Reachable .default 8 1 state ∧ 2 ∈ state.display.visibleWindows ∧
      state.display.getWindow 2 = some window ∧
      ¬ RepaintsResized .default 0 state ⟨2, 0, 0, 0, 200, 100⟩ window := by
  refine ⟨_, _, ⟨serverOfWindow, _, [.registry (.addClient ⟨1, 0, 0⟩ [7] 0)], rfl, rfl⟩, by decide,
    rfl, ?_⟩
  rintro ⟨state', hstate', -, hresized, -⟩
  cases hstate'
  exact absurd (hresized (by decide) _ List.mem_cons_self) (by decide)

end EngineState

end WebXEngine
