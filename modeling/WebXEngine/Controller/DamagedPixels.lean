import WebXEngine.Controller.HandlerCalls

/-! # Whether damaged pixels are sent

The damage of a window is forgotten once the handler has been called, whatever it could send.

* **`CanSend`** — a pixel of the window can be sent.
* **`KeepsDamage`** — after the call, the damaged pixels were sent, are still pending, or belong to a
  full image that has not changed.
* **`keepsDamage_iff`** — the exact condition. -/

namespace WebXEngine

open WebXController

/-- The damage contains a pixel of the window. -/
def WebXWindowDamage.Damages (damage : WebXWindowDamage) (p : ℤ × ℤ) : Prop :=
  damage.isFullWindow = true ∨ ∃ area ∈ damage.damageAreas, p ∈ area.pixels

/-- The rectangle of a part of an image. -/
def WebXSubImage.rectangle (subImage : WebXSubImage) : WebXRectangle :=
  .ofSize subImage.x.toInt subImage.y.toInt subImage.width.toInt subImage.height.toInt

/-- A message contains a pixel of a window. -/
def WebXMessage.Content.Shows (x11Window : UInt32) (p : ℤ × ℤ) : WebXMessage.Content → Prop
  | .image _ windowId fullImage => windowId = x11Window ∧ fullImage.isSome = true
  | .subimages windowId images => windowId = x11Window ∧
      ∃ subImage ∈ images, subImage.image.isSome = true ∧ p ∈ subImage.rectangle.pixels
  | _ => False

/-! ## The calls of the handler -/

namespace WebXController

/-- The rectangle of a damaged area as it is sent, on 32 bits. -/
def sentRectangle (area : WebXRectangle) : WebXRectangle :=
  .ofSize (Int32.ofInt area.x).toInt (Int32.ofInt area.y).toInt (Int32.ofInt area.size.width).toInt
    (Int32.ofInt area.size.height).toInt

variable {settings : WebXSettings} {checksum : List UInt8 → UInt32} {attributes : XWindowAttributes}
  {shape : XWindowShape} {outcomes : ℕ → GrabOutcome} {now : Time} {window : WebXClientWindow}
  {clientIndexMask : UInt64} {state : UpdateState}

/-- A full image was grabbed and is the same as the last one that was sent. -/
def VerifiedUnchanged (settings : WebXSettings) (checksum : List UInt8 → UInt32)
    (outcomes : ℕ → GrabOutcome) (window : WebXClientWindow) (state : UpdateState) : Prop :=
  settings.controller.imageChecksumEnabled = true ∧ updatesFullWindow window = true ∧
    window.id ∈ state.display.visibleWindows ∧ ∃ image, outcomes 0 = .grabbed image ∧
      (verifyImageUpdate settings checksum image window).2.hasChanged = false

/-- A pixel can be sent: the window is visible and can be grabbed as a whole, or the pixel is in an
area that is within its bounds and can be grabbed. -/
def CanSend (attributes : XWindowAttributes) (outcomes : ℕ → GrabOutcome)
    (window : WebXClientWindow) (state : UpdateState) (p : ℤ × ℤ) : Prop :=
  window.id ∈ state.display.visibleWindows ∧
    if updatesFullWindow window then ∃ image, outcomes 0 = .grabbed image
    else ∃ area image, GrabsArea attributes outcomes window.damage.damageAreas area image ∧
      p ∈ (sentRectangle area).pixels

/-- A message of the group shows a pixel of the window. -/
def Shown (clientIndexMask : UInt64) (x11Window : UInt32) (messages : List WebXMessage)
    (p : ℤ × ℤ) : Prop :=
  ∃ message ∈ messages, message.clientIndexMask = clientIndexMask ∧
    message.content.Shows x11Window p

/-- The checksums do not verify anything when they are disabled. -/
theorem hasChanged_of_disabled (h : settings.controller.imageChecksumEnabled = false)
    (image : WebXImage) :
    (verifyImageUpdate settings checksum image window).2.hasChanged = true := by
  rw [verifyImageUpdate, h, if_neg Bool.false_ne_true]

/-- The shape shows no pixel. -/
theorem shown_append {shapes images : List WebXMessage} {x11Window : UInt32} {p : ℤ × ℤ}
    (hshapes : ∀ message ∈ shapes, IsShape message) :
    Shown clientIndexMask x11Window (shapes ++ images) p ↔
      Shown clientIndexMask x11Window images p := by
  constructor
  · rintro ⟨message, hmessage, hmask, hshows⟩
    rcases List.mem_append.mp hmessage with hshape | himage
    · obtain ⟨commandId, w, mask, hcontent⟩ := hshapes message hshape
      rw [hcontent] at hshows
      exact absurd hshows id
    · exact ⟨message, himage, hmask, hshows⟩
  · rintro ⟨message, hmessage, hmask, hshows⟩
    exact ⟨message, List.mem_append_right _ hmessage, hmask, hshows⟩

/-- Nothing is shown without a message. -/
theorem not_shown_nil {x11Window : UInt32} {p : ℤ × ℤ} : ¬ Shown clientIndexMask x11Window [] p := by
  rintro ⟨message, hmessage, -⟩
  exact nomatch hmessage

/-- **What is sent for a window shows exactly the pixels that can be sent**, or the full image has not
changed. -/
theorem shown_iff {transferData : WebXWindowImageTransferData} {images : List WebXMessage}
    (h : ImageUpdate settings checksum attributes outcomes now window clientIndexMask
      (window.id ∈ state.display.visibleWindows) transferData images) (p : ℤ × ℤ) :
    Shown clientIndexMask window.id images p ∨
        VerifiedUnchanged settings checksum outcomes window state ↔
      CanSend attributes outcomes window state p := by
  -- a pixel is sent with its area when the window is not sent as a whole
  have hareas (hfull : updatesFullWindow window = false) :
      CanSend attributes outcomes window state p ↔ ∃ area image,
        (window.id ∈ state.display.visibleWindows ∧
          GrabsArea attributes outcomes window.damage.damageAreas area image) ∧
        p ∈ (sentRectangle area).pixels := by
    rw [CanSend, hfull, if_neg Bool.false_ne_true]
    simp only [and_assoc, exists_and_left]
  have hverified (hfull : updatesFullWindow window = false) :
      ¬ VerifiedUnchanged settings checksum outcomes window state := by
    rintro ⟨-, hfull', -⟩
    exact Bool.eq_false_iff.mp hfull hfull'
  cases h with
  | notGrabbed hfull hnot =>
      refine iff_of_false ?_ ?_
      · rintro (hshown | ⟨-, -, hvisible, image, houtcome, -⟩)
        · exact not_shown_nil hshown
        · exact hnot ⟨hvisible, image, houtcome⟩
      · rintro ⟨hvisible, hsend⟩
        rw [if_pos hfull] at hsend
        exact hnot ⟨hvisible, hsend⟩
  | unchanged hfull hvisible image hgrabbed hunchanged =>
      refine iff_of_true (.inr ⟨?_, hfull, hvisible, image, hgrabbed, hunchanged⟩)
        ⟨hvisible, by rw [if_pos hfull]; exact ⟨image, hgrabbed⟩⟩
      by_contra hdisabled
      rw [hasChanged_of_disabled (Bool.not_eq_true _ ▸ hdisabled)] at hunchanged
      exact nomatch hunchanged
  | fullWindow hfull hvisible image hgrabbed hchanged =>
      exact iff_of_true (.inl ⟨_, List.mem_singleton_self _, rfl, rfl, rfl⟩)
        ⟨hvisible, by rw [if_pos hfull]; exact ⟨image, hgrabbed⟩⟩
  | noArea hfull hnot =>
      rw [hareas hfull, or_iff_left (hverified hfull)]
      refine iff_of_false not_shown_nil ?_
      rintro ⟨area, image, hgrabs, -⟩
      exact hnot area image hgrabs
  | subWindow hfull subImages size hmem =>
      rw [hareas hfull, or_iff_left (hverified hfull)]
      constructor
      · rintro ⟨message, hmessage, -, hshows⟩
        rw [List.mem_singleton.mp hmessage] at hshows
        obtain ⟨-, subImage, hsubImage, -, hp⟩ := hshows
        obtain ⟨⟨area, image⟩, hpair, rfl⟩ := List.mem_map.mp hsubImage
        exact ⟨area, image, (hmem area image).mp hpair, hp⟩
      · rintro ⟨area, image, hgrabs, hp⟩
        exact ⟨_, List.mem_singleton_self _, rfl, rfl, _,
          List.mem_map_of_mem ((hmem area image).mpr hgrabs), rfl, hp⟩

/-- After the handler was called for a window, the damaged pixels within the bounds of the window are
in a message sent to the clients during the call, or still pending, or in a full image that has not
changed. -/
def KeepsDamage (settings : WebXSettings) (checksum : List UInt8 → UInt32)
    (attributes : XWindowAttributes) (shape : XWindowShape) (outcomes : ℕ → GrabOutcome) (now : Time)
    (window : WebXClientWindow) (clientIndexMask : UInt64) (state : UpdateState) : Prop :=
  let handled := WebXClientGroup.handleWindowGraphicalUpdate settings.quality
    (updateHandler settings checksum (fun _ => answersOf attributes shape outcomes) now)
    clientIndexMask now window (.ok state)
  ∃ after, handled.2.2 = .ok after ∧
    ∀ p ∈ attributes.bounds.pixels, window.damage.Damages p →
      Shown clientIndexMask window.id (after.sent.drop state.sent.length) p ∨
        handled.1.damage.Damages p ∨ VerifiedUnchanged settings checksum outcomes window state

/-- When it is time to send a window that can be found, its damage is forgotten: the damaged pixels
have to be sent. -/
theorem keepsDamage_of_requiresUpdate
    (hrequires : WebXClientGroup.requiresUpdate window now = true)
    (hfindable : state.display.Findable window.id) :
    KeepsDamage settings checksum attributes shape outcomes now window clientIndexMask state ↔
      ∀ p ∈ attributes.bounds.pixels, window.damage.Damages p →
        CanSend attributes outcomes window state p := by
  obtain ⟨transferData, display', shapes, images, hupdate, -, hshapes, himage⟩ :=
    updateClientWindow_eq settings checksum attributes shape outcomes now clientIndexMask hfindable
  have hiff (p : ℤ × ℤ) := (or_congr_left (shown_append hshapes)).trans (shown_iff himage p)
  obtain ⟨hdamage, hstate⟩ := WebXClientGroup.handleWindowGraphicalUpdate_of_requiresUpdate
    settings.quality (updateHandler settings checksum (fun _ => answersOf attributes shape outcomes)
      now) clientIndexMask (.ok state) hrequires
  -- nothing is damaged after the update, so all pixels have to be sent
  have hreset (p : ℤ × ℤ) : ¬ window.damage.reset.Damages p := by
    rintro (hfull | ⟨area, harea, -⟩)
    · exact nomatch hfull
    · exact nomatch harea
  have hdrop : (state.sent ++ (shapes ++ images)).drop state.sent.length = shapes ++ images :=
    List.drop_left
  rw [KeepsDamage, hdamage, hstate,
    updateHandler_of_ok (fun _ => answersOf attributes shape outcomes) hupdate]
  constructor
  · rintro ⟨_, hafter, hkeeps⟩ p hp hdamaged
    cases hafter
    have hp := hkeeps p hp hdamaged
    rw [hdrop, or_iff_right (hreset p)] at hp
    exact (hiff p).mp hp
  · intro hsend
    refine ⟨_, rfl, fun p hp hdamaged => ?_⟩
    rw [hdrop, or_iff_right (hreset p)]
    exact (hiff p).mpr (hsend p hp hdamaged)

/-- **The damage of a window is kept or sent exactly when it is not yet time to send it, or the window
can be found and every damaged pixel can be sent.** -/
theorem keepsDamage_iff (settings : WebXSettings) (checksum : List UInt8 → UInt32)
    (attributes : XWindowAttributes) (shape : XWindowShape) (outcomes : ℕ → GrabOutcome) (now : Time)
    (window : WebXClientWindow) (clientIndexMask : UInt64) (state : UpdateState) :
    KeepsDamage settings checksum attributes shape outcomes now window clientIndexMask state ↔
      (WebXClientGroup.requiresUpdate window now = true → state.display.Findable window.id ∧
        ∀ p ∈ attributes.bounds.pixels, window.damage.Damages p →
          CanSend attributes outcomes window state p) := by
  cases hrequires : WebXClientGroup.requiresUpdate window now with
  | false =>
      refine iff_of_true ?_ (fun h => nomatch h)
      rw [KeepsDamage, WebXClientGroup.handleWindowGraphicalUpdate_of_not hrequires]
      exact ⟨state, rfl, fun p _ hdamaged => .inr (.inl hdamaged)⟩
  | true =>
      by_cases hfindable : state.display.Findable window.id
      · rw [keepsDamage_of_requiresUpdate hrequires hfindable]
        exact ⟨fun hsend _ => ⟨hfindable, hsend⟩, fun h => (h rfl).2⟩
      · -- the use of a window that was freed is a fault
        obtain ⟨-, hstate⟩ := WebXClientGroup.handleWindowGraphicalUpdate_of_requiresUpdate
          settings.quality (updateHandler settings checksum
            (fun _ => answersOf attributes shape outcomes) now) clientIndexMask (.ok state) hrequires
        rw [WebXClientGroup.requiresUpdate, Bool.and_eq_true] at hrequires
        refine iff_of_false ?_ fun h => hfindable (h rfl).1
        rw [KeepsDamage, hstate,
          updateHandler_of_error (fun _ => answersOf attributes shape outcomes)
            (updateClientWindow_of_not_findable hfindable hrequires.1)]
        rintro ⟨_, hafter, -⟩
        exact nomatch hafter

/-- A display with one visible window. -/
private def displayOfWindow : WebXDisplay where
  rootWindow := 1
  allWindows := fun w =>
    if w = 2 then
      some
        { parent := some 1
          children := []
          rectangle := .ofSize 0 0 100 100
          isViewable := true
          shape := ⟨100, 100, true, none⟩ }
    else
      none
  visibleWindows := [2]
  staleWindows := []

/-- The window for the clients, with a damaged area. -/
private def damagedWindow : WebXClientWindow :=
  (WebXClientWindow.ofVisibility WebXSettings.default.quality
    (WebXSettings.default.quality.max.qualityForIndex 12)
    ⟨2, .ofSize 0 0 100 100, ⟨0, false⟩, true, 0⟩ 0).addDamage (.ofArea 2 (.ofSize 0 0 60 10) false)

/-- The damage is discarded when the window has shrunk and the area reaches outside of it, although
the grab would not fail. -/
theorem not_keepsDamage : ¬ KeepsDamage .default (fun _ => 0) ⟨0, 0, 50, 100, true, true⟩ ⟨true, none⟩
    (fun _ => .grabbed ⟨.jpg, 60, 10, [1], none, 0, 0, 24⟩) (Time.ofMs 1000) damagedWindow 1
    ⟨displayOfWindow, []⟩ := by
  have hfindable : displayOfWindow.Findable damagedWindow.id :=
    ⟨⟨List.not_mem_nil, rfl⟩, fun h => absurd rfl h⟩
  rw [keepsDamage_of_requiresUpdate (by decide +kernel) hfindable]
  intro hsend
  obtain ⟨-, hsub⟩ := hsend (0, 0) (by decide) (.inr ⟨.ofSize 0 0 60 10, by decide, by decide⟩)
  rw [if_neg (by decide +kernel)] at hsub
  obtain ⟨area, image, ⟨k, hk, hcontains, -⟩, -⟩ := hsub
  cases k with
  | zero =>
      cases hk
      exact absurd hcontains (by decide)
  | succ k => exact nomatch hk

end WebXController

end WebXEngine
