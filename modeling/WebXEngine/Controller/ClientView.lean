import WebXEngine.Controller.HandlerCalls
import WebXEngine.Foundations.Runs
import WebXEngine.Utils.Crc32
import Mathlib.Data.Set.Function

/-! # What a client shows of a window

A full image that has the colours of the last one is not sent, and the alpha data are removed from an
image when they are those of the last one. A client that applies the messages of a window in their
order is compared with the content of the window.

* **`ClientView`** — the content that a client shows.
* **`Observer`** — a client, with what it was sent.
* **`WindowState.step`** — the content changes, damage is reported, the window is handled.
* **`WindowState.suppression_sound`** — what the client shows after a full window was handled. -/

namespace WebXEngine

/-- The encoded content of a window. -/
structure WindowContent where
  rgb : List UInt8
  alpha : Option (List UInt8)
  deriving DecidableEq, Repr

namespace WindowContent

variable (checksum : List UInt8 → UInt32) (content : WindowContent)

/-- The image of a window: its depth says whether it has an alpha channel. -/
def image (type : WebXImageType) (width height : UInt32) : WebXImage where
  type := type
  width := width
  height := height
  rawData := content.rgb
  alphaData := content.alpha
  rawChecksum := 0
  alphaChecksum := 0
  depth := if content.alpha.isSome then 32 else 24

/-- The checksum of the alpha data, 0 when there is none. -/
def alphaChecksum : UInt32 := content.alpha.elim 0 checksum

/-- The data of a content are among some data. -/
def Within (data : Set (List UInt8)) : Prop :=
  content.rgb ∈ data ∧ ∀ alpha, content.alpha = some alpha → alpha ∈ data

end WindowContent

/-- Different data have different checksums, and none has the checksum 0 of the data that are missing. -/
structure CollisionFree (checksum : List UInt8 → UInt32) (data : Set (List UInt8)) : Prop where
  injOn : Set.InjOn checksum data
  ne_zero : ∀ d ∈ data, checksum d ≠ 0

/-- The alpha data were removed from an image that has an alpha channel. -/
def WebXImage.alphaRemoved (image : WebXImage) : Bool := image.depth = 32 && image.alphaData.isNone

/-- What a client shows of a window. -/
structure ClientView where
  rgb : Option (List UInt8)
  alpha : Option (List UInt8)
  deriving DecidableEq, Repr

/-- A full image replaces the colours, and the alpha unless it was removed. -/
def ClientView.replace (view : ClientView) (image : WebXImage) : ClientView where
  rgb := some image.rawData
  alpha := if image.alphaRemoved then view.alpha else image.alphaData

/-- A client, the content of the window when its last full image was sent, and whether parts of the
window were sent since then, or since the last full image with its alpha data. -/
structure Observer where
  view : ClientView
  lastImage : Option WindowContent
  rgbPatched : Bool
  alphaPatched : Bool
  deriving DecidableEq, Repr

namespace Observer

variable (patch : List WebXSubImage → ClientView → ClientView) (index : UInt64) (x11Window : UInt32)
  (content : WindowContent)

/-- The client applies a message of the window; the parts of an image change its view in some way. -/
def receive (observer : Observer) : WebXMessage.Content → Observer
  | .image _ windowId (some image) =>
      if windowId = x11Window then
        { view := observer.view.replace image
          lastImage := some content
          rgbPatched := false
          alphaPatched := image.alphaRemoved && observer.alphaPatched }
      else
        observer
  | .subimages windowId images =>
      if windowId = x11Window then
        { observer with
          view := patch images observer.view
          rgbPatched := true
          alphaPatched := true }
      else
        observer
  | _ => observer

/-- The messages whose mask contains the index of the client are delivered in their order. -/
def deliver (observer : Observer) (messages : List WebXMessage) : Observer :=
  messages.foldl (fun observer message =>
    if message.clientIndexMask &&& index ≠ 0 then
      observer.receive patch x11Window content message.content
    else
      observer) observer

variable {patch index x11Window content} {observer : Observer}

/-- A shape does not change the content. -/
theorem receive_of_isShape {message : WebXMessage} (h : WebXController.IsShape message) :
    observer.receive patch x11Window content message.content = observer := by
  obtain ⟨commandId, w, mask, hcontent⟩ := h
  rw [hcontent]
  rfl

/-- Messages are delivered one after the other. -/
theorem deliver_append (messages messages' : List WebXMessage) :
    observer.deliver patch index x11Window content (messages ++ messages') =
      (observer.deliver patch index x11Window content messages).deliver patch index x11Window content
        messages' := by
  rw [deliver, List.foldl_append]
  rfl

/-- The shapes of windows do not change the pixels that a client shows. -/
theorem deliver_of_isShape {messages : List WebXMessage}
    (h : ∀ message ∈ messages, WebXController.IsShape message) :
    observer.deliver patch index x11Window content messages = observer := by
  induction messages with
  | nil => rfl
  | cons message messages ih =>
      obtain ⟨hmessage, hmessages⟩ := List.forall_mem_cons.mp h
      rw [deliver, List.foldl_cons, receive_of_isShape hmessage, ite_self]
      exact ih hmessages

/-- A message for the client. -/
theorem deliver_singleton {clientIndexMask : UInt64} (h : clientIndexMask &&& index ≠ 0)
    (messageContent : WebXMessage.Content) :
    observer.deliver patch index x11Window content [⟨clientIndexMask, messageContent⟩] =
      observer.receive patch x11Window content messageContent := by
  rw [deliver, List.foldl_cons, if_pos h]
  rfl

end Observer

/-! ## The verification of an image -/

namespace WebXController

variable {settings : WebXSettings} {checksum : List UInt8 → UInt32} {content : WindowContent}
  {type : WebXImageType} {width height : UInt32} {window : WebXClientWindow}

variable (checksum content type width height window) in
/-- The verification of the image of a window compares its content with the last full image. -/
theorem verifyImageUpdate_image (henabled : settings.controller.imageChecksumEnabled = true) :
    (verifyImageUpdate settings checksum (content.image type width height) window).2 =
      ⟨checksum content.rgb, content.alphaChecksum checksum,
        decide (checksum content.rgb ≠ window.rgbChecksum)⟩ := by
  have halpha : content.alphaChecksum checksum = content.alpha.elim 0 checksum := rfl
  rw [verifyImageUpdate, if_pos henabled]
  cases hcontent : content.alpha with
  | none =>
      by_cases hrgb : checksum content.rgb = window.rgbChecksum <;>
        simp [WindowContent.image, WebXImage.calculateImageChecksum,
          WebXImage.calculateAlphaChecksum, halpha, hcontent, hrgb]
  | some alpha =>
      by_cases hrgb : checksum content.rgb = window.rgbChecksum <;>
        simp [WindowContent.image, WebXImage.calculateImageChecksum,
          WebXImage.calculateAlphaChecksum, halpha, hcontent, hrgb]

variable (type width height) in
/-- An image that has changed loses its alpha data when these are those of the last full image. -/
theorem alphaData_verifyImageUpdate_image (henabled : settings.controller.imageChecksumEnabled = true)
    (hchanged : checksum content.rgb ≠ window.rgbChecksum) :
    let image := (verifyImageUpdate settings checksum (content.image type width height) window).1
    image.rawData = content.rgb ∧
      image.depth = (if content.alpha.isSome then 32 else 24) ∧
      image.alphaData = if content.alphaChecksum checksum = window.alphaChecksum then none
        else content.alpha := by
  have halpha : content.alphaChecksum checksum = content.alpha.elim 0 checksum := rfl
  rw [verifyImageUpdate, if_pos henabled]
  cases hcontent : content.alpha with
  | none =>
      by_cases hsame : 0 = window.alphaChecksum <;>
        simp [WindowContent.image, WebXImage.calculateImageChecksum, WebXImage.removeAlpha,
          WebXImage.calculateAlphaChecksum, halpha, hcontent, hchanged, hsame]
  | some alpha =>
      by_cases hsame : checksum alpha = window.alphaChecksum <;>
        simp [WindowContent.image, WebXImage.calculateImageChecksum, WebXImage.removeAlpha,
          WebXImage.calculateAlphaChecksum, halpha, hcontent, hchanged, hsame]

end WebXController

/-! ## Runs -/

/-- A call of the handler: the clients it is for, and what the server answers. -/
structure HandlerCall where
  clientIndexMask : UInt64
  attributes : XWindowAttributes
  shape : XWindowShape
  outcomes : ℕ → GrabOutcome
  now : Time

/-- A window, what the engine keeps of it, and a client. -/
structure WindowState where
  content : WindowContent
  window : WebXClientWindow
  update : WebXController.UpdateState
  observer : Observer

/-- What happens to a window: it gets another content, it is found to be visible, it is damaged, the
display changes, its damage is handled. -/
inductive WindowAction
  | paint (content : WindowContent)
  | updateVisible (visibility : WebXWindowVisibility) (now : Time)
  | addDamage (damage : WebXWindowDamage)
  | changeDisplay (display : WebXDisplay)
  | handle (call : HandlerCall)

namespace WindowState

open WebXController

variable (settings : WebXSettings) (checksum : List UInt8 → UInt32)
  (patch : List WebXSubImage → ClientView → ClientView) (index : UInt64)

/-- The window is handled, and the client gets what was sent. -/
def handle (state : WindowState) (call : HandlerCall) : Except Fault WindowState :=
  let handled := WebXClientGroup.handleWindowGraphicalUpdate settings.quality
    (updateHandler settings checksum
      (fun _ => answersOf call.attributes call.shape call.outcomes) call.now)
    call.clientIndexMask call.now state.window (.ok state.update)
  handled.2.2.map fun after =>
    { state with
      window := handled.1
      update := after
      observer := state.observer.deliver patch index state.window.id state.content
        (after.sent.drop state.update.sent.length) }

/-- One action. -/
def step (state : WindowState) : WindowAction → Except Fault WindowState
  | .paint content => .ok { state with content := content }
  | .updateVisible visibility now =>
      let window := state.window.setSize visibility.rectangle.size
      let window := window.setCoverage settings.quality visibility.coverage now
      let window := window.setShapeMaskChecksum visibility.shapeMaskChecksum
      .ok { state with window := window.updateQuality settings.quality now }
  | .addDamage damage => .ok { state with window := state.window.addDamage damage }
  | .changeDisplay display => .ok { state with update := { state.update with display := display } }
  | .handle call => state.handle settings checksum patch index call

/-- The actions that are considered: the contents have some data, the client is one of those that a
call is for, and an image of the full window is an image of its content. -/
def Allowed (data : Set (List UInt8)) (index : UInt64) (state : WindowState) : WindowAction → Prop
  | .paint content => content.Within data
  | .handle call => call.clientIndexMask &&& index ≠ 0 ∧
      (updatesFullWindow state.window = true → ∀ image, call.outcomes 0 = .grabbed image →
        ∃ type width height, image = state.content.image type width height)
  | _ => True

/-- The window is new to the engine, and the client was sent nothing of it. -/
def Initial (data : Set (List UInt8)) (state : WindowState) : Prop :=
  state.content.Within data ∧
  ((∃ desiredQuality visibility now,
      state.window = .ofVisibility settings.quality desiredQuality visibility now) ∨
    ∃ desiredQuality damage now,
      state.window = .ofDamage settings.quality desiredQuality damage now) ∧
  ∃ view, state.observer = ⟨view, none, false, false⟩

/-- It is time to handle the window, most of it is damaged, and its grab succeeds. -/
structure HandlesFullWindow (state : WindowState) (call : HandlerCall) : Prop where
  requiresUpdate : WebXClientGroup.requiresUpdate state.window call.now = true
  updatesFullWindow : updatesFullWindow state.window = true
  visible : state.window.id ∈ state.update.display.visibleWindows
  findable : state.update.display.Findable state.window.id
  grabbed : ∃ image, call.outcomes 0 = .grabbed image

/-- The client shows the content of the window. -/
def ShowsContent (state : WindowState) : Prop :=
  state.observer.view = ⟨some state.content.rgb, state.content.alpha⟩

/-- After every call of the handler that succeeds to grab the full window, in any run, the client
shows the content of the window. -/
def AlwaysShowsContent (data : Set (List UInt8)) : Prop :=
  ∀ (start state : WindowState) (actions : List WindowAction) (call : HandlerCall),
    start.Initial settings data →
    Run (step settings checksum patch index) (Allowed data index) start actions state →
    Allowed data index state (.handle call) → HandlesFullWindow state call →
    ∃ state', state.step settings checksum patch index (.handle call) = .ok state' ∧
      state'.ShowsContent

/-- What the client shows after the full window was handled. Unless parts of the window were sent
since the last full image and the colours are those of that image, it shows the colours of the
window. Unless parts of the window were sent since the last full image with its alpha data and the
colours or the alpha data are those of the last full image, it shows the alpha data of the window, or
those of the last full image when the colours have not changed. -/
structure ShowsUpdate (before after : WindowState) : Prop where
  rgb : before.observer.rgbPatched = false ∨
      before.observer.lastImage.map WindowContent.rgb ≠ some before.content.rgb →
    after.observer.view.rgb = some before.content.rgb
  alpha : before.observer.alphaPatched = false ∨
      before.observer.lastImage.map WindowContent.rgb ≠ some before.content.rgb ∧
        (before.content.alpha = none ∨
          before.observer.lastImage.map WindowContent.alpha ≠ some before.content.alpha) →
    after.observer.view.alpha =
      if before.observer.lastImage.map WindowContent.rgb = some before.content.rgb then
        before.observer.lastImage.bind WindowContent.alpha
      else
        before.content.alpha

/-- The checksums of the window are those of the last full image, and what was not patched since is
what the client shows. -/
structure Inv (checksum : List UInt8 → UInt32) (data : Set (List UInt8)) (state : WindowState) :
    Prop where
  content : state.content.Within data
  lastImage : ∀ content, state.observer.lastImage = some content → content.Within data
  rgbChecksum : state.window.rgbChecksum =
    state.observer.lastImage.elim 0 fun content => checksum content.rgb
  alphaChecksum : state.window.alphaChecksum =
    state.observer.lastImage.elim 0 fun content => content.alphaChecksum checksum
  rgb : ∀ content, state.observer.lastImage = some content → state.observer.rgbPatched = false →
    state.observer.view.rgb = some content.rgb
  alpha : ∀ content, state.observer.lastImage = some content →
    state.observer.alphaPatched = false → state.observer.view.alpha = content.alpha

variable {settings checksum patch index} {data : Set (List UInt8)} {state state' : WindowState}
  {call : HandlerCall}

/-! ### Checksums -/

/-- The checksums of two contents tell their colours apart. -/
theorem rgbChecksum_eq_iff (hdata : CollisionFree checksum data) {last : Option WindowContent}
    (hlast : ∀ content, last = some content → content.Within data) {content : WindowContent}
    (hcontent : content.Within data) :
    checksum content.rgb = last.elim 0 (fun content => checksum content.rgb) ↔
      last.map WindowContent.rgb = some content.rgb := by
  cases last with
  | none => simpa using hdata.ne_zero _ hcontent.1
  | some lastContent =>
      have hinj := hdata.injOn.eq_iff hcontent.1 (hlast lastContent rfl).1
      simpa [eq_comm] using hinj

/-- The checksums of two contents tell their alpha data apart. -/
theorem alphaChecksum_eq_iff (hdata : CollisionFree checksum data) {last : Option WindowContent}
    (hlast : ∀ content, last = some content → content.Within data) {content : WindowContent}
    (hcontent : content.Within data) :
    content.alphaChecksum checksum = last.elim 0 (fun content => content.alphaChecksum checksum) ↔
      last.bind WindowContent.alpha = content.alpha := by
  -- missing data have the checksum 0, which no data have
  have halphas (alpha alpha' : Option (List UInt8)) (h : ∀ a, alpha = some a → a ∈ data)
      (h' : ∀ a, alpha' = some a → a ∈ data) :
      alpha'.elim 0 checksum = alpha.elim 0 checksum ↔ alpha = alpha' := by
    cases alpha with
    | none =>
        cases alpha' with
        | none => simp
        | some a' => simpa using hdata.ne_zero a' (h' a' rfl)
    | some a =>
        cases alpha' with
        | none => simpa [eq_comm] using hdata.ne_zero a (h a rfl)
        | some a' =>
            have hinj := hdata.injOn.eq_iff (h' a' rfl) (h a rfl)
            simpa [eq_comm] using hinj
  cases last with
  | none => exact halphas none content.alpha (by simp) hcontent.2
  | some lastContent => exact halphas _ _ (hlast lastContent rfl).2 hcontent.2

/-! ### Calls of the handler -/

/-- The state after something of the window was sent. -/
def transfer (settings : WebXSettings) (patch : List WebXSubImage → ClientView → ClientView)
    (index : UInt64) (state : WindowState) (now : Time) (transferData : WebXWindowImageTransferData)
    (images : List WebXMessage) (update : UpdateState) : WindowState :=
  { state with
    window := (state.window.onImageTransfer settings.quality transferData
      now).resetDamage.resetShapeMaskChecksum
    update := update
    observer := state.observer.deliver patch index state.window.id state.content images }

/-- It is not yet time to handle the window. -/
theorem handle_of_not_requiresUpdate
    (h : WebXClientGroup.requiresUpdate state.window call.now = false) :
    state.handle settings checksum patch index call = .ok state := by
  rw [handle, WebXClientGroup.handleWindowGraphicalUpdate_of_not h]
  dsimp only [Except.map]
  rw [List.drop_length]
  rfl

/-- The handler does not fail. -/
theorem handle_of_ok (h : WebXClientGroup.requiresUpdate state.window call.now = true)
    {transferData : WebXWindowImageTransferData} {after : UpdateState}
    (hupdate : updateClientWindow settings checksum
      (answersOf call.attributes call.shape call.outcomes) call.now state.window
      call.clientIndexMask state.update = .ok (transferData, after)) :
    state.handle settings checksum patch index call =
      .ok (state.transfer settings patch index call.now transferData
        (after.sent.drop state.update.sent.length) after) := by
  rw [handle, WebXClientGroup.handleWindowGraphicalUpdate, if_pos h,
    updateHandler_of_ok (fun _ => answersOf call.attributes call.shape call.outcomes) hupdate]
  rfl

/-- The window is handled. -/
theorem handle_of_requiresUpdate (patch : List WebXSubImage → ClientView → ClientView)
    (index : UInt64) (h : WebXClientGroup.requiresUpdate state.window call.now = true)
    (hfindable : state.update.display.Findable state.window.id) :
    ∃ transferData images update, state.handle settings checksum patch index call =
        .ok (state.transfer settings patch index call.now transferData images update) ∧
      ImageUpdate settings checksum call.attributes call.outcomes call.now state.window
        call.clientIndexMask (state.window.id ∈ state.update.display.visibleWindows) transferData
        images := by
  obtain ⟨transferData, display', shapes, images, hupdate, -, hshapes, himage⟩ :=
    updateClientWindow_eq settings checksum call.attributes call.shape call.outcomes call.now
      call.clientIndexMask hfindable
  refine ⟨transferData, images, ⟨display', state.update.sent ++ (shapes ++ images)⟩, ?_, himage⟩
  rw [handle_of_ok h hupdate, transfer, List.drop_left, Observer.deliver_append,
    Observer.deliver_of_isShape hshapes]
  rfl

/-- The search for the window meets a window that was freed. -/
theorem handle_of_not_findable
    (h : WebXClientGroup.requiresUpdate state.window call.now = true)
    (hfindable : ¬ state.update.display.Findable state.window.id) :
    state.handle settings checksum patch index call = .error .freedObject := by
  have hrequires := h
  rw [WebXClientGroup.requiresUpdate, Bool.and_eq_true] at hrequires
  rw [handle, WebXClientGroup.handleWindowGraphicalUpdate, if_pos h,
    updateHandler_of_error (fun _ => answersOf call.attributes call.shape call.outcomes)
      (updateClientWindow_of_not_findable hfindable hrequires.1)]
  rfl

/-- The alpha data of the window are those of the last full image, and are not sent again. -/
def KeepsAlpha (state : WindowState) : Prop :=
  state.content.alpha ≠ none ∧
    state.observer.lastImage.bind WindowContent.alpha = state.content.alpha

instance (state : WindowState) : Decidable state.KeepsAlpha := inferInstanceAs (Decidable (_ ∧ _))

/-- The client receives a full image of the window. -/
theorem Inv.receive_image (hinv : Inv checksum data state) (hdata : CollisionFree checksum data)
    (henabled : settings.controller.imageChecksumEnabled = true) {type : WebXImageType}
    {width height : UInt32} (hchanged : checksum state.content.rgb ≠ state.window.rgbChecksum)
    (commandId : UInt32) :
    state.observer.receive patch state.window.id state.content (.image commandId state.window.id
        (some (verifyImageUpdate settings checksum (state.content.image type width height)
          state.window).1)) =
      { view :=
          { rgb := some state.content.rgb
            alpha := if state.KeepsAlpha then state.observer.view.alpha else state.content.alpha }
        lastImage := some state.content
        rgbPatched := false
        alphaPatched := decide state.KeepsAlpha && state.observer.alphaPatched } := by
  obtain ⟨hraw, hdepth, halpha⟩ := alphaData_verifyImageUpdate_image type width height henabled hchanged
  simp only [hinv.alphaChecksum, alphaChecksum_eq_iff hdata hinv.lastImage hinv.content] at halpha
  generalize (verifyImageUpdate settings checksum (state.content.image type width height)
    state.window).1 = image at hraw hdepth halpha
  have hremoved : image.alphaRemoved = decide state.KeepsAlpha := by
    rw [WebXImage.alphaRemoved, hdepth, halpha]
    cases hcontent : state.content.alpha with
    | none => simp [KeepsAlpha, hcontent]
    | some alpha =>
        by_cases hlast : state.observer.lastImage.bind WindowContent.alpha = some alpha <;>
          simp [KeepsAlpha, hcontent, hlast]
  have hview : (if state.KeepsAlpha then state.observer.view.alpha else image.alphaData) =
      if state.KeepsAlpha then state.observer.view.alpha else state.content.alpha := by
    split_ifs with hkeeps
    · rfl
    · rw [halpha]
      split_ifs with hlast
      · -- there are no alpha data
        by_contra hnone
        exact hkeeps ⟨fun hcontent => hnone hcontent.symm, hlast⟩
      · rfl
  rw [Observer.receive, if_pos rfl, ClientView.replace, hraw, hremoved, ← hview]
  simp

/-- After a full image was sent, the client shows the alpha data of the window when nothing else has
changed them. -/
theorem Inv.alpha_image (hinv : Inv checksum data state)
    (h : state.observer.alphaPatched = false ∨ state.content.alpha = none ∨
      state.observer.lastImage.map WindowContent.alpha ≠ some state.content.alpha) :
    (if state.KeepsAlpha then state.observer.view.alpha else state.content.alpha) =
      state.content.alpha := by
  split_ifs with hkeeps
  · obtain ⟨hsome, hlast⟩ := hkeeps
    cases hlastImage : state.observer.lastImage with
    | none =>
        rw [hlastImage] at hlast
        exact absurd hlast.symm hsome
    | some content =>
        rw [hlastImage] at hlast h
        rcases h with hpatched | hnone | hne
        · rw [hinv.alpha content hlastImage hpatched]
          exact hlast
        · exact absurd hnone hsome
        · exact absurd (congrArg some hlast) hne
  · rfl

variable (patch) in
/-- **The full image of a window is sent.** -/
theorem Inv.transfer_image (hinv : Inv checksum data state) (hdata : CollisionFree checksum data)
    (henabled : settings.controller.imageChecksumEnabled = true) {clientIndexMask : UInt64}
    (hmask : clientIndexMask &&& index ≠ 0) {type : WebXImageType} {width height : UInt32}
    (hchanged : (verifyImageUpdate settings checksum (state.content.image type width height)
      state.window).2.hasChanged = true) (now : Time) (size : ℚ) (update : UpdateState) :
    let verified := verifyImageUpdate settings checksum (state.content.image type width height)
      state.window
    let after := state.transfer settings patch index now
      ⟨state.window.id, now, size, verified.2.rgbChecksum, verified.2.alphaChecksum, .fullWindow⟩
      [⟨clientIndexMask, .image WebXMessage.noCommandId state.window.id (some verified.1)⟩] update
    after.window.rgbChecksum = checksum state.content.rgb ∧
      after.window.alphaChecksum = state.content.alphaChecksum checksum ∧
      after.observer =
        { view :=
            { rgb := some state.content.rgb
              alpha := if state.KeepsAlpha then state.observer.view.alpha else state.content.alpha }
          lastImage := some state.content
          rgbPatched := false
          alphaPatched := decide state.KeepsAlpha && state.observer.alphaPatched } := by
  have hverified := verifyImageUpdate_image checksum state.content type width height state.window henabled
  rw [hverified, decide_eq_true_iff] at hchanged
  refine ⟨congrArg (·.rgbChecksum) hverified, congrArg (·.alphaChecksum) hverified, ?_⟩
  exact (Observer.deliver_singleton hmask _).trans (hinv.receive_image hdata henabled hchanged _)

/-- **A call of the handler keeps the invariant.** -/
theorem Inv.transfer (hinv : Inv checksum data state) (hdata : CollisionFree checksum data)
    (henabled : settings.controller.imageChecksumEnabled = true)
    (hallowed : Allowed data index state (.handle call)) {visible : Prop}
    {transferData : WebXWindowImageTransferData} {images : List WebXMessage} (update : UpdateState)
    (himage : ImageUpdate settings checksum call.attributes call.outcomes call.now state.window
      call.clientIndexMask visible transferData images) :
    Inv checksum data
      (state.transfer settings patch index call.now transferData images update) := by
  cases himage with
  | notGrabbed _ _ | unchanged _ _ _ _ _ | noArea _ _ =>
      exact ⟨hinv.content, hinv.lastImage, hinv.rgbChecksum, hinv.alphaChecksum, hinv.rgb, hinv.alpha⟩
  | subWindow _ subImages size _ =>
      -- the last full image is the same, and the view of the client is patched
      have hobserver : (state.transfer settings patch index call.now
          ⟨state.window.id, call.now, size, 0, 0, .subWindow⟩ [⟨call.clientIndexMask,
            .subimages state.window.id (subImages.map fun s => subImageOf s.1 s.2)⟩]
          update).observer =
            { state.observer with
              view := patch (subImages.map fun s => subImageOf s.1 s.2) state.observer.view
              rgbPatched := true
              alphaPatched := true } :=
        (Observer.deliver_singleton hallowed.1 _).trans (if_pos rfl)
      constructor
      case content => exact hinv.content
      case lastImage => exact hobserver ▸ hinv.lastImage
      case rgbChecksum => exact hobserver ▸ hinv.rgbChecksum
      case alphaChecksum => exact hobserver ▸ hinv.alphaChecksum
      case rgb =>
        intro content _ hpatched
        rw [hobserver] at hpatched
        cases hpatched
      case alpha =>
        intro content _ hpatched
        rw [hobserver] at hpatched
        cases hpatched
  | fullWindow hfull _ image hgrabbed hchanged =>
      obtain ⟨type, width, height, rfl⟩ := hallowed.2 hfull image hgrabbed
      obtain ⟨hrgb, halpha, hobserver⟩ :=
        hinv.transfer_image patch hdata henabled hallowed.1 hchanged call.now _ update
      constructor
      case content => exact hinv.content
      case lastImage =>
        rw [hobserver]
        rintro _ ⟨⟩
        exact hinv.content
      case rgbChecksum => rw [hrgb, hobserver]; rfl
      case alphaChecksum => rw [halpha, hobserver]; rfl
      case rgb =>
        rw [hobserver]
        rintro _ ⟨⟩ -
        rfl
      case alpha =>
        rw [hobserver]
        rintro _ ⟨⟩ hpatched
        by_cases hkeeps : state.KeepsAlpha
        · rw [decide_eq_true hkeeps, Bool.true_and] at hpatched
          exact hinv.alpha_image (.inl hpatched)
        · exact if_neg hkeeps

/-- The invariant is about the content, the checksums and the client. -/
theorem Inv.of_eq (hinv : Inv checksum data state) (window : WebXClientWindow)
    (hchecksums : window.imageChecksums = state.window.imageChecksums) (update : UpdateState) :
    Inv checksum data { state with window := window, update := update } where
  content := hinv.content
  lastImage := hinv.lastImage
  rgbChecksum := (congrArg Prod.fst hchecksums).trans hinv.rgbChecksum
  alphaChecksum := (congrArg Prod.snd hchecksums).trans hinv.alphaChecksum
  rgb := hinv.rgb
  alpha := hinv.alpha

/-- **What an action keeps.** -/
theorem Inv.step (hinv : Inv checksum data state) (hdata : CollisionFree checksum data)
    (henabled : settings.controller.imageChecksumEnabled = true) {action : WindowAction}
    (hallowed : Allowed data index state action)
    (hstep : state.step settings checksum patch index action = .ok state') :
    Inv checksum data state' := by
  cases action with
  | paint content =>
      cases hstep
      exact ⟨hallowed, hinv.lastImage, hinv.rgbChecksum, hinv.alphaChecksum, hinv.rgb, hinv.alpha⟩
  | updateVisible visibility now =>
      cases hstep
      refine hinv.of_eq _ ?_ state.update
      rw [WebXClientWindow.imageChecksums_updateQuality]
      exact state.window.imageChecksums_setSize visibility.rectangle.size
  | addDamage damage =>
      cases hstep
      exact hinv.of_eq (state.window.addDamage damage) rfl state.update
  | changeDisplay display =>
      cases hstep
      exact hinv.of_eq state.window rfl _
  | handle call =>
      cases hrequires : WebXClientGroup.requiresUpdate state.window call.now with
      | false =>
          -- the window is skipped
          rw [WindowState.step, handle_of_not_requiresUpdate hrequires] at hstep
          cases hstep
          exact hinv
      | true =>
          by_cases hfindable : state.update.display.Findable state.window.id
          · obtain ⟨transferData, images, update, hhandle, himage⟩ :=
              handle_of_requiresUpdate patch index hrequires hfindable
            rw [WindowState.step, hhandle] at hstep
            cases hstep
            exact hinv.transfer hdata henabled hallowed update himage
          -- the search for the window fails, so there is no state afterwards
          · rw [WindowState.step, handle_of_not_findable hrequires hfindable] at hstep
            cases hstep

/-- The invariant holds for a window that is new to the engine. -/
theorem Initial.inv (h : Initial settings data state) : Inv checksum data state := by
  obtain ⟨hcontent, hwindow, view, hobserver⟩ := h
  -- a window is made with no checksums, by a visibility or by damage
  have hchecksums : state.window.imageChecksums = (0, 0) := by
    rcases hwindow with ⟨desiredQuality, visibility, now, hwindow⟩ | ⟨desiredQuality, damage, now, hwindow⟩
    · rw [hwindow]
      rfl
    · rw [hwindow]
      rfl
  constructor
  case content => exact hcontent
  case lastImage =>
    rw [hobserver]
    rintro _ ⟨⟩
  case rgbChecksum =>
    rw [hobserver]
    exact congrArg Prod.fst hchecksums
  case alphaChecksum =>
    rw [hobserver]
    exact congrArg Prod.snd hchecksums
  case rgb =>
    rw [hobserver]
    rintro _ ⟨⟩
  case alpha =>
    rw [hobserver]
    rintro _ ⟨⟩

/-- **What a run keeps.** -/
theorem inv_of_run (hdata : CollisionFree checksum data)
    (henabled : settings.controller.imageChecksumEnabled = true) {start : WindowState}
    {actions : List WindowAction} (hstart : start.Initial settings data)
    (hrun : Run (step settings checksum patch index) (Allowed data index) start actions state) :
    Inv checksum data state :=
  hrun.invariant (fun _ _ _ hinv hallowed hstep => hinv.step hdata henabled hallowed hstep) hstart.inv

/-- What the client shows after the window was handled as a whole. -/
theorem Inv.showsUpdate (hinv : Inv checksum data state) (hdata : CollisionFree checksum data)
    (henabled : settings.controller.imageChecksumEnabled = true)
    (hallowed : Allowed data index state (.handle call)) (hhandles : HandlesFullWindow state call)
    {transferData : WebXWindowImageTransferData} {images : List WebXMessage} (update : UpdateState)
    (himage : ImageUpdate settings checksum call.attributes call.outcomes call.now state.window
      call.clientIndexMask (state.window.id ∈ state.update.display.visibleWindows) transferData
      images) :
    ShowsUpdate state (state.transfer settings patch index call.now transferData images update) := by
  cases himage with
  | notGrabbed _ hnot => exact absurd ⟨hhandles.visible, hhandles.grabbed⟩ hnot
  | noArea hfull _ =>
      rw [hhandles.updatesFullWindow] at hfull
      cases hfull
  | subWindow hfull _ _ _ =>
      rw [hhandles.updatesFullWindow] at hfull
      cases hfull
  | unchanged hfull _ image hgrabbed hunchanged =>
      -- nothing is sent: the colours are those of the last full image
      obtain ⟨type, width, height, rfl⟩ := hallowed.2 hfull image hgrabbed
      rw [verifyImageUpdate_image checksum state.content type width height state.window henabled,
        decide_eq_false_iff_not, not_not, hinv.rgbChecksum,
        rgbChecksum_eq_iff hdata hinv.lastImage hinv.content] at hunchanged
      obtain ⟨content, hlast, hrgb⟩ := Option.map_eq_some_iff.mp hunchanged
      constructor
      case rgb =>
        intro hcondition
        have hpatched := hcondition.resolve_right fun hne => hne hunchanged
        exact (hinv.rgb content hlast hpatched).trans (congrArg some hrgb)
      case alpha =>
        intro hcondition
        have hpatched := hcondition.resolve_right fun hne => hne.1 hunchanged
        rw [if_pos hunchanged, hlast]
        exact hinv.alpha content hlast hpatched
  | fullWindow hfull _ image hgrabbed hchanged =>
      obtain ⟨type, width, height, rfl⟩ := hallowed.2 hfull image hgrabbed
      obtain ⟨-, -, hobserver⟩ :=
        hinv.transfer_image patch hdata henabled hallowed.1 hchanged call.now _ update
      rw [verifyImageUpdate_image checksum state.content type width height state.window henabled,
        decide_eq_true_iff, hinv.rgbChecksum, Ne, rgbChecksum_eq_iff hdata hinv.lastImage
        hinv.content] at hchanged
      constructor
      case rgb =>
        intro _
        rw [hobserver]
      case alpha =>
        intro hcondition
        rw [if_neg hchanged, hobserver]
        exact hinv.alpha_image (hcondition.imp_right And.right)

/-- **The client shows what it should**: in every run of a window, a call of the handler that succeeds
to grab the full window leaves the client with the content of the window, apart from alpha data that
have changed without the colours, and unless parts of the window were sent that the call does not
replace. -/
theorem suppression_sound (settings : WebXSettings) (checksum : List UInt8 → UInt32)
    (patch : List WebXSubImage → ClientView → ClientView) (index : UInt64) (data : Set (List UInt8))
    (hdata : CollisionFree checksum data)
    (henabled : settings.controller.imageChecksumEnabled = true) {start state : WindowState}
    {actions : List WindowAction} (hstart : start.Initial settings data)
    (hrun : Run (step settings checksum patch index) (Allowed data index) start actions state)
    {call : HandlerCall} (hallowed : Allowed data index state (.handle call))
    (hhandles : HandlesFullWindow state call) :
    ∃ state', state.step settings checksum patch index (.handle call) = .ok state' ∧
      ShowsUpdate state state' := by
  have hinv := inv_of_run hdata henabled hstart hrun
  obtain ⟨transferData, images, update, hhandle, himage⟩ :=
    handle_of_requiresUpdate patch index hhandles.requiresUpdate hhandles.findable
  exact ⟨_, hhandle, hinv.showsUpdate hdata henabled hallowed hhandles update himage⟩

/-- A display with one visible window. -/
private def displayOfShownWindow : WebXDisplay where
  rootWindow := 1
  allWindows := fun w =>
    if w = 2 then
      some
        { parent := some 1
          children := []
          rectangle := .ofSize 0 0 100 100
          isViewable := true
          shape := ⟨100, 100, true, none⟩ }
    else
      none
  visibleWindows := [2]
  staleWindows := []

/-- The window that is shown is found. -/
private theorem findable_displayOfShownWindow : displayOfShownWindow.Findable 2 :=
  ⟨⟨List.not_mem_nil, rfl⟩, fun h => absurd rfl h⟩

/-- The checksums are enabled. -/
private def checksumSettings : WebXSettings :=
  { WebXSettings.default with
    controller := { imageChecksumEnabled := true, clientPingResponseTimeoutMs := 15000 } }

/-- The window is new to the engine. -/
private def newWindow (content : WindowContent) : WindowState where
  content := content
  window := .ofVisibility WebXSettings.default.quality
    (WebXSettings.default.quality.max.qualityForIndex 12)
    ⟨2, .ofSize 0 0 100 100, ⟨0, false⟩, true, 0⟩ 0
  update := ⟨displayOfShownWindow, []⟩
  observer := ⟨⟨none, none⟩, none, false, false⟩

/-- The full window is grabbed. -/
private def fullGrab (content : WindowContent) (now : Time) : HandlerCall where
  clientIndexMask := 1
  attributes := ⟨0, 0, 100, 100, true, true⟩
  shape := ⟨true, none⟩
  outcomes := fun _ => .grabbed (content.image .jpg 100 100)
  now := now

/-- Two colours and two alpha channels. -/
private def fewData : Set (List UInt8) := {[1], [2], [255], [0]}

/-- The checksums of the few data are different. -/
private theorem collisionFree_fewData : CollisionFree crc32Bitwise fewData where
  injOn := by
    rintro d (rfl | rfl | rfl | rfl) d' (rfl | rfl | rfl | rfl) h <;>
      first | rfl | exact absurd h (by decide +kernel)
  ne_zero := by
    rintro d (rfl | rfl | rfl | rfl) <;> decide +kernel

/-- A new window is one to start with, whatever its content is among the few data. -/
private theorem initial_newWindow {content : WindowContent} (hcontent : content.Within fewData) :
    (newWindow content).Initial checksumSettings fewData := ⟨hcontent, .inl ⟨_, _, _, rfl⟩, _, rfl⟩

/-- A content whose two parts are among the few data is within them. -/
private theorem within_fewData {rgb alpha : List UInt8} (hrgb : rgb ∈ fewData)
    (halpha : alpha ∈ fewData) : (WindowContent.mk rgb (some alpha)).Within fewData := by
  refine ⟨hrgb, ?_⟩
  rintro _ ⟨⟩
  exact halpha

/-- A full grab of the content that is there is allowed. -/
private theorem allowed_fullGrab {state : WindowState} {content : WindowContent} (now : Time)
    (hcontent : state.content = content) :
    Allowed fewData 1 state (.handle (fullGrab content now)) := by
  have hmask : (1 : UInt64) &&& 1 ≠ 0 := by decide
  refine ⟨hmask, fun _ image himage => ?_⟩
  cases himage
  exact ⟨.jpg, 100, 100, by rw [hcontent]⟩

/-- The colours change and the alpha data do not: the client keeps them. -/
theorem suppression_sound_alpha : ∃ start state state',
    Run (step checksumSettings crc32Bitwise (fun _ view => view) 1) (Allowed fewData 1) start
      [.addDamage ⟨2, [], true⟩, .handle (fullGrab ⟨[1], some [255]⟩ (Time.ofMs 1000)),
        .paint ⟨[2], some [255]⟩, .addDamage ⟨2, [], true⟩] state ∧
    state.step checksumSettings crc32Bitwise (fun _ view => view) 1
      (.handle (fullGrab ⟨[2], some [255]⟩ (Time.ofMs 2000))) = .ok state' ∧
    state'.observer.view = ⟨some [2], some [255]⟩ := by
  have h₁ : [1] ∈ fewData := .inl rfl
  have h₂ : [2] ∈ fewData := .inr (.inl rfl)
  have h₂₅₅ : [255] ∈ fewData := .inr (.inr (.inl rfl))
  -- the image is sent once, then its colours change and its alpha stays
  have hrun : Run (step checksumSettings crc32Bitwise (fun _ view => view) 1) (Allowed fewData 1)
      (newWindow ⟨[1], some [255]⟩)
      [.addDamage ⟨2, [], true⟩, .handle (fullGrab ⟨[1], some [255]⟩ (Time.ofMs 1000)),
        .paint ⟨[2], some [255]⟩, .addDamage ⟨2, [], true⟩] _ :=
    .cons trivial rfl (.cons (allowed_fullGrab _ rfl)
      (handle_of_ok (by decide +kernel) rfl) (.cons (within_fewData h₂ h₂₅₅) rfl
        (.single trivial rfl)))
  obtain ⟨state', hstep, hshows⟩ := suppression_sound checksumSettings crc32Bitwise (fun _ view => view) 1
    fewData collisionFree_fewData rfl (initial_newWindow (within_fewData h₁ h₂₅₅)) hrun
    (allowed_fullGrab (Time.ofMs 2000) rfl)
    ⟨by decide +kernel, rfl, List.mem_singleton_self _, findable_displayOfShownWindow, _, rfl⟩
  have hrgb := hshows.rgb (.inl rfl)
  have halpha := hshows.alpha (.inl rfl)
  exact ⟨_, _, state', hrun, hstep, congrArg₂ ClientView.mk hrgb halpha⟩

/-- When the alpha data change and the colours do not, the client keeps the alpha data that it has. -/
theorem not_alwaysShowsContent : CollisionFree crc32Bitwise fewData ∧
    ¬ AlwaysShowsContent checksumSettings crc32Bitwise (fun _ view => view) 1 fewData := by
  refine ⟨collisionFree_fewData, fun hshows => ?_⟩
  have h₁ : [1] ∈ fewData := .inl rfl
  have h₂₅₅ : [255] ∈ fewData := .inr (.inr (.inl rfl))
  have h₀ : [0] ∈ fewData := .inr (.inr (.inr rfl))
  have hrun : Run (step checksumSettings crc32Bitwise (fun _ view => view) 1) (Allowed fewData 1)
      (newWindow ⟨[1], some [255]⟩)
      [.addDamage ⟨2, [], true⟩, .handle (fullGrab ⟨[1], some [255]⟩ (Time.ofMs 1000)),
        .paint ⟨[1], some [0]⟩, .addDamage ⟨2, [], true⟩] _ :=
    .cons trivial rfl (.cons (allowed_fullGrab _ rfl)
      (handle_of_ok (by decide +kernel) rfl) (.cons (within_fewData h₁ h₀) rfl
        (.single trivial rfl)))
  obtain ⟨state', hstep, hcontent⟩ := hshows _ _ _ (fullGrab ⟨[1], some [0]⟩ (Time.ofMs 2000))
    (initial_newWindow (within_fewData h₁ h₂₅₅)) hrun (allowed_fullGrab _ rfl)
    ⟨by decide +kernel, rfl, List.mem_singleton_self _, findable_displayOfShownWindow, _, rfl⟩
  -- the second image is not sent
  cases hstep.symm.trans (handle_of_ok (by decide +kernel) rfl)
  exact absurd (congrArg ClientView.alpha hcontent) (by decide +kernel)

end WindowState

end WebXEngine
