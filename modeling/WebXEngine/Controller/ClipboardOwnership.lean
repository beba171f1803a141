import WebXEngine.Display.Clipboard
import WebXEngine.Foundations.Runs
import WebXEngine.Models.Message
import WebXEngine.Utils.Fault

/-! # The ownership of the clipboard

While the engine owns the selection it offers the content that a client sent last. Replies to the
conversions that it asked for before may still come.

* **`ClipboardControllerState.step`** — the instructions of clients, the loop, and the applications.
* **`ClipboardOwnership`** — what the engine owns is what it gives, and the clients are told nothing.
* **`clipboardOwnership_iff`** — this is so in the runs where no reply brings another content. -/

namespace WebXEngine

/-- The clipboard, the replies that the engine did not handle, the messages that were sent to the
clients, and the answers that were given to the applications. -/
structure ClipboardControllerState where
  clipboard : ClipboardState
  selectionEvents : List XSelectionEvent
  sent : List WebXMessage
  answered : List (XSelectionRequestEvent × SelectionAnswer)
  deriving DecidableEq, Repr

/-- What happens to the clipboard. -/
inductive ClipboardAction
  /-- The instruction of a client. -/
  | setClipboardContent (content : List UInt8)
  /-- The clipboard is polled by the loop of the controller. -/
  | updateClipboard (now : Time)
  /-- An application answers a conversion: it changes the property, unless it refuses. -/
  | reply (conversion : Conversion) (event : XSelectionEvent) (property : WindowProperty)
  /-- The engine handles the next reply. -/
  | selectionNotify
  /-- The engine handles a request. -/
  | selectionRequest (request : XSelectionRequestEvent)
  /-- An application takes the selection, or nobody has it. -/
  | ownerChanged (window : Option UInt32)

/-- The selection is not taken, and no client sends a content. -/
def ClipboardAction.KeepsOffer : ClipboardAction → Prop
  | .setClipboardContent _ => False
  | .ownerChanged _ => False
  | _ => True

namespace ClipboardControllerState

/-- The start of the engine. -/
def create (owner : Option SelectionOwner) : ClipboardControllerState := ⟨.create owner, [], [], []⟩

variable (state : ClipboardControllerState)

/-- A client sends a content. -/
def setClipboardContent (content : List UInt8) : ClipboardControllerState :=
  { state with clipboard := state.clipboard.setClipboardContent content }

/-- The clients are told the content of the clipboard. -/
def onClipboardEvent (clipboardContent : List UInt8) : ClipboardControllerState :=
  { state with sent := state.sent ++ [⟨globalClientIndexMask, .clipboard clipboardContent⟩] }

/-- The engine handles a reply; the clients are told when the content changed. -/
def onSelectionEvent (event : XSelectionEvent) : ClipboardControllerState :=
  let notified := state.clipboard.onClipboardDataNotify event
  let state := { state with clipboard := notified.1 }
  match notified.2 with
  | some clipboardContent => state.onClipboardEvent clipboardContent
  | none => state

/-- An application answers a conversion, once. -/
def reply (conversion : Conversion) (event : XSelectionEvent) (property : WindowProperty) :
    ClipboardControllerState :=
  if conversion ∈ state.clipboard.conversions then
    { state with
      clipboard :=
        { state.clipboard with
          conversions := state.clipboard.conversions.erase conversion
          property := if event.property = none then state.clipboard.property else some property }
      selectionEvents := state.selectionEvents ++ [event] }
  else state

/-- The engine handles the reply that came first. -/
def handleSelectionEvents : ClipboardControllerState :=
  match state.selectionEvents with
  | [] => state
  | event :: selectionEvents =>
      { state with selectionEvents := selectionEvents }.onSelectionEvent event

/-- One action. -/
def step : ClipboardAction → Except Fault ClipboardControllerState
  | .setClipboardContent content => .ok (state.setClipboardContent content)
  | .updateClipboard now => .ok { state with clipboard := state.clipboard.updateClipboard now }
  | .reply conversion event property => .ok (state.reply conversion event property)
  | .selectionNotify => .ok state.handleSelectionEvents
  | .selectionRequest request =>
      .ok { state with
        answered := state.answered ++ [(request, state.clipboard.onClipboardContentRequest request)] }
  | .ownerChanged window =>
      .ok { state with
        clipboard := { state.clipboard with owner := window.map SelectionOwner.application } }

/-- The reply that comes next brings nothing, or the content that the engine has; those who request a
text name a property. -/
def Undisturbed : ClipboardAction → Prop
  | .selectionNotify => ∀ event ∈ state.selectionEvents.head?, ∀ content,
      state.clipboard.Brings event content → content = state.clipboard.clipboardContent
  | .selectionRequest request => TextTarget request.target → request.property ≠ none
  | _ => True

/-- Between two states a content was offered: the clients were told nothing, and those who requested a
text got the content. -/
def Offered (content : List UInt8) (state' : ClipboardControllerState) : Prop :=
  state'.sent = state.sent ∧ ∃ answered, state'.answered = state.answered ++ answered ∧
    ∀ request answer, (request, answer) ∈ answered → TextTarget request.target →
      answer.Gives request content

end ClipboardControllerState

open ClipboardControllerState

/-- In all runs, the engine offers the content that a client sent last, until the selection is taken. -/
def ClipboardOwnership : Prop :=
  ∀ owner before state content after state',
    Run ClipboardControllerState.step (fun _ _ => True) (.create owner) before state →
    Run ClipboardControllerState.step (fun _ action => action.KeepsOffer)
      (state.setClipboardContent content) after state' →
    (state.setClipboardContent content).Offered content state'

namespace ClipboardControllerState

variable {state state' state'' : ClipboardControllerState} {content : List UInt8}

/-! ## What is offered -/

/-- Nothing else is offered when nothing happens. -/
theorem Offered.refl (state : ClipboardControllerState) (content : List UInt8) :
    state.Offered content state :=
  ⟨rfl, [], (List.append_nil _).symm, fun _ _ h => by cases h⟩

/-- What was told and answered stays. -/
structure Grows (state state' : ClipboardControllerState) : Prop where
  sent : state.sent <+: state'.sent
  answered : state.answered <+: state'.answered

/-- What was notified and replied is kept over two stretches of a run. -/
theorem Grows.trans (h : Grows state state') (h' : Grows state' state'') : Grows state state'' :=
  ⟨h.sent.trans h'.sent, h.answered.trans h'.answered⟩

/-- A content that is offered over two stretches of a run is offered over the whole. -/
theorem Offered.trans (h : state.Offered content state') (h' : state'.Offered content state'') :
    state.Offered content state'' := by
  obtain ⟨hsent, answers, hanswered, hgives⟩ := h
  obtain ⟨hsent', answers', hanswered', hgives'⟩ := h'
  refine ⟨hsent'.trans hsent, answers ++ answers', ?_, ?_⟩
  · rw [hanswered', hanswered, List.append_assoc]
  · intro request answer hmem htext
    rcases List.mem_append.mp hmem with hmem | hmem
    · exact hgives request answer hmem htext
    · exact hgives' request answer hmem htext

/-- A content that was offered during a run was offered during its two parts. -/
theorem Offered.split (h : state.Offered content state'') (hfirst : Grows state state')
    (hsecond : Grows state' state'') :
    state.Offered content state' ∧ state'.Offered content state'' := by
  obtain ⟨hsent, answers, hanswered, hgives⟩ := h
  obtain ⟨answers₁, hanswers₁⟩ := hfirst.answered
  obtain ⟨answers₂, hanswers₂⟩ := hsecond.answered
  have hanswers : answers = answers₁ ++ answers₂ := by
    rw [← hanswers₂, ← hanswers₁, List.append_assoc] at hanswered
    exact (List.append_cancel_left hanswered).symm
  have hsame : state'.sent = state.sent := by
    have hprefix := hsecond.sent
    rw [hsent] at hprefix
    exact hprefix.eq_of_length_le hfirst.sent.length_le
  refine ⟨⟨hsame, answers₁, hanswers₁.symm, ?_⟩, hsent.trans hsame.symm, answers₂, hanswers₂.symm, ?_⟩
  · intro request answer hmem
    exact hgives request answer (by rw [hanswers]; exact List.mem_append_left _ hmem)
  · intro request answer hmem
    exact hgives request answer (by rw [hanswers]; exact List.mem_append_right _ hmem)

/-! ## The steps -/

/-- The engine owns the selection, and has a content to offer. -/
structure Owns (state : ClipboardControllerState) (content : List UInt8) : Prop where
  owner : state.clipboard.owner = some .clipboardWindow
  content : state.clipboard.clipboardContent = content

/-- The engine owns the selection after it has set the content. -/
theorem owns_setClipboardContent (state : ClipboardControllerState) (content : List UInt8) :
    (state.setClipboardContent content).Owns content := ⟨rfl, rfl⟩

/-- **A reply** brings nothing new, or a content that replaces the one of the engine and is told. -/
theorem onSelectionEvent_spec (state : ClipboardControllerState) (event : XSelectionEvent) :
    (state.onSelectionEvent event).clipboard.owner = state.clipboard.owner ∧
      (state.onSelectionEvent event).answered = state.answered ∧
      (((state.onSelectionEvent event).clipboard.clipboardContent = state.clipboard.clipboardContent ∧
          (state.onSelectionEvent event).sent = state.sent ∧
          ∀ content, state.clipboard.Brings event content → content = state.clipboard.clipboardContent) ∨
        ∃ content, state.clipboard.Brings event content ∧ content ≠ state.clipboard.clipboardContent ∧
          (state.onSelectionEvent event).sent =
            state.sent ++ [⟨globalClientIndexMask, .clipboard content⟩]) := by
  obtain ⟨howner, ⟨hcontent, hnotified, hbrings⟩ | ⟨content, hbrings, hne, -, hnotified⟩⟩ :=
    state.clipboard.onClipboardDataNotify_spec event
  · rw [onSelectionEvent, hnotified]
    exact ⟨howner, rfl, .inl ⟨hcontent, rfl, hbrings⟩⟩
  · rw [onSelectionEvent, hnotified]
    exact ⟨howner, rfl, .inr ⟨content, hbrings, hne, rfl⟩⟩

/-- No step takes back what was told or answered. -/
theorem grows_step {action : ClipboardAction} (hstep : state.step action = .ok state') :
    Grows state state' := by
  cases action with
  | setClipboardContent content =>
      cases hstep
      exact ⟨List.prefix_refl _, List.prefix_refl _⟩
  | updateClipboard now =>
      cases hstep
      exact ⟨List.prefix_refl _, List.prefix_refl _⟩
  | reply conversion event property =>
      cases hstep
      rw [reply]
      split_ifs <;> exact ⟨List.prefix_refl _, List.prefix_refl _⟩
  | selectionNotify =>
      cases hstep
      rw [handleSelectionEvents]
      cases state.selectionEvents with
      | nil => exact ⟨List.prefix_refl _, List.prefix_refl _⟩
      | cons event events =>
          -- an event that is taken from the queue sends at most one content
          obtain ⟨-, hanswered, ⟨-, hsent, -⟩ | ⟨content, -, -, hsent⟩⟩ :=
            onSelectionEvent_spec { state with selectionEvents := events } event
          · exact ⟨by rw [hsent], by rw [hanswered]⟩
          · exact ⟨by rw [hsent]; exact List.prefix_append _ _, by rw [hanswered]⟩
  | selectionRequest request =>
      cases hstep
      exact ⟨List.prefix_refl _, List.prefix_append _ _⟩
  | ownerChanged window =>
      cases hstep
      exact ⟨List.prefix_refl _, List.prefix_refl _⟩

/-- Nothing that was notified or replied is lost in a run. -/
theorem grows_run {allowed : ClipboardControllerState → ClipboardAction → Prop}
    {actions : List ClipboardAction}
    (hrun : Run ClipboardControllerState.step allowed state actions state') : Grows state state' := by
  induction hrun with
  | nil state => exact ⟨List.prefix_refl _, List.prefix_refl _⟩
  | cons _ hstep _ ih => exact (grows_step hstep).trans ih

/-- A step that is undisturbed keeps the content of the engine. -/
theorem Owns.step (h : state.Owns content) {action : ClipboardAction} (hkeeps : action.KeepsOffer)
    (hundisturbed : state.Undisturbed action) (hstep : state.step action = .ok state') :
    state'.Owns content := by
  cases action with
  | setClipboardContent content => exact hkeeps.elim
  | updateClipboard now =>
      cases hstep
      obtain ⟨hcontent, howner⟩ := state.clipboard.updateClipboard_spec now
      exact ⟨howner.trans h.owner, hcontent.trans h.content⟩
  | reply conversion event property =>
      cases hstep
      rw [reply]
      by_cases hmem : conversion ∈ state.clipboard.conversions
      · rw [if_pos hmem]
        exact ⟨h.owner, h.content⟩
      · rw [if_neg hmem]
        exact h
  | selectionNotify =>
      cases hstep
      rw [handleSelectionEvents]
      cases hevents : state.selectionEvents with
      | nil => exact h
      | cons event events =>
          obtain ⟨howner, -, ⟨hcontent, -⟩ | ⟨other, hbrings, hne, -⟩⟩ :=
            onSelectionEvent_spec { state with selectionEvents := events } event
          · exact ⟨howner.trans h.owner, hcontent.trans h.content⟩
          -- an event that brings another content disturbs the engine
          · exact absurd (hundisturbed event (by rw [hevents]; rfl) other hbrings) hne
  | selectionRequest request =>
      cases hstep
      exact ⟨h.owner, h.content⟩
  | ownerChanged window => exact hkeeps.elim

/-- **The content is offered by the undisturbed steps** of the engine that owns the selection, and by no
others. -/
theorem Owns.offered_step_iff (h : state.Owns content) {action : ClipboardAction}
    (hkeeps : action.KeepsOffer) (hstep : state.step action = .ok state') :
    state.Offered content state' ↔ state.Undisturbed action := by
  cases action with
  | setClipboardContent content => exact hkeeps.elim
  | updateClipboard now =>
      cases hstep
      exact iff_of_true (Offered.refl state content) trivial
  | reply conversion event property =>
      cases hstep
      refine iff_of_true ?_ trivial
      rw [reply]
      split_ifs <;> exact Offered.refl state content
  | selectionNotify =>
      cases hstep
      rw [handleSelectionEvents, Undisturbed]
      cases state.selectionEvents with
      | nil => exact iff_of_true (Offered.refl state content) fun _ h => by cases h
      | cons event events =>
          obtain ⟨-, hanswered, ⟨-, hsent, hbrings⟩ | ⟨other, hbrings, hne, hsent⟩⟩ :=
            onSelectionEvent_spec { state with selectionEvents := events } event
          · refine iff_of_true ⟨hsent, [], ?_, fun _ _ h => by cases h⟩ ?_
            · rw [hanswered, List.append_nil]
            · rintro event' hevent
              cases hevent
              exact hbrings
          · refine iff_of_false (fun hoffered => ?_) fun hnone => hne (hnone event rfl other hbrings)
            -- the clients were told the other content
            have hlonger := congrArg List.length (hsent.symm.trans hoffered.1)
            rw [List.length_append, List.length_singleton] at hlonger
            exact absurd hlonger (Nat.succ_ne_self _)
  | selectionRequest request =>
      cases hstep
      constructor
      · rintro ⟨-, answers, hanswers, hgives⟩ htext
        have hanswer := List.append_cancel_left hanswers
        have hgiven := hgives request _ (by rw [← hanswer]; exact List.mem_singleton_self _) htext
        exact ((ClipboardState.gives_onClipboardContentRequest_iff htext content).mp hgiven).1
      · refine fun hnamed => ⟨rfl, _, rfl, fun request' answer hmem htext => ?_⟩
        cases List.mem_singleton.mp hmem
        exact (ClipboardState.gives_onClipboardContentRequest_iff htext content).mpr
          ⟨hnamed htext, h.content.symm⟩
  | ownerChanged window => exact hkeeps.elim

/-- **The content is offered by the undisturbed runs**, and by no others. -/
theorem Owns.offered_run_iff {actions : List ClipboardAction}
    (hrun : Run ClipboardControllerState.step (fun _ action => action.KeepsOffer) state actions state') :
    state.Owns content → (state.Offered content state' ↔
      Run ClipboardControllerState.step
        (fun state action => action.KeepsOffer ∧ state.Undisturbed action) state actions state') := by
  induction hrun with
  | nil state => exact fun _ => iff_of_true (Offered.refl state content) (.nil state)
  | cons hkeeps hstep hrun ih =>
      intro h
      constructor
      · intro hoffered
        obtain ⟨hfirst, hrest⟩ := hoffered.split (grows_step hstep) (grows_run hrun)
        have hundisturbed := (h.offered_step_iff hkeeps hstep).mp hfirst
        exact .cons ⟨hkeeps, hundisturbed⟩ hstep
          ((ih (h.step hkeeps hundisturbed hstep)).mp hrest)
      · intro hrun'
        cases hrun' with
        | cons hallowed hstep' hrest =>
            cases hstep.symm.trans hstep'
            exact ((h.offered_step_iff hkeeps hstep).mpr hallowed.2).trans
              ((ih (h.step hkeeps hallowed.2 hstep)).mpr hrest)

/-! ## Without conversions -/

/-- No reply is awaited. -/
structure Quiet (state : ClipboardControllerState) : Prop where
  owner : state.clipboard.owner = some .clipboardWindow
  conversions : state.clipboard.conversions = []
  selectionEvents : state.selectionEvents = []

/-- The engine that owns the selection asks nothing, and nobody replies. -/
theorem Quiet.step (h : state.Quiet) {action : ClipboardAction} (hkeeps : action.KeepsOffer)
    (hstep : state.step action = .ok state') : state'.Quiet := by
  cases action with
  | setClipboardContent content => exact hkeeps.elim
  | updateClipboard now =>
      cases hstep
      exact ⟨(state.clipboard.updateClipboard_spec now).2.trans h.owner,
        (ClipboardState.conversions_updateClipboard h.owner now).trans h.conversions,
        h.selectionEvents⟩
  | reply conversion event property =>
      cases hstep
      -- no conversion is waited for, so that the reply is ignored
      rw [reply, h.conversions, if_neg List.not_mem_nil]
      exact h
  | selectionNotify =>
      cases hstep
      rw [handleSelectionEvents, h.selectionEvents]
      exact h
  | selectionRequest request =>
      cases hstep
      exact ⟨h.owner, h.conversions, h.selectionEvents⟩
  | ownerChanged window => exact hkeeps.elim

/-- **When no reply is awaited**, nothing disturbs the engine but requests that name no property. -/
theorem Quiet.undisturbed_run {actions : List ClipboardAction}
    (hnamed : ∀ request, .selectionRequest request ∈ actions → request.property ≠ none)
    (hrun : Run ClipboardControllerState.step (fun _ action => action.KeepsOffer) state actions state')
    (h : state.Quiet) :
    Run ClipboardControllerState.step
      (fun state action => action.KeepsOffer ∧ state.Undisturbed action) state actions state' := by
  induction hrun with
  | nil state => exact .nil state
  | cons hkeeps hstep hrun ih =>
      refine .cons ⟨hkeeps, ?_⟩ hstep
        (ih (fun request hmem => hnamed request (List.mem_cons_of_mem _ hmem)) (h.step hkeeps hstep))
      rename_i state _ _ action _
      cases action with
      | selectionNotify =>
          -- no event waits in the queue
          intro event hevent
          rw [h.selectionEvents] at hevent
          cases hevent
      | selectionRequest request => exact fun _ => hnamed request List.mem_cons_self
      | setClipboardContent content => trivial
      | updateClipboard now => trivial
      | reply conversion event property => trivial
      | ownerChanged window => trivial

end ClipboardControllerState

/-- **The engine offers what it owns**, from the instruction of a client until the selection is taken,
exactly when no reply to an earlier conversion brings another content and those who request a text name a
property. -/
theorem clipboardOwnership_iff {state state' : ClipboardControllerState} {content : List UInt8}
    {actions : List ClipboardAction}
    (hrun : Run ClipboardControllerState.step (fun _ action => action.KeepsOffer)
      (state.setClipboardContent content) actions state') :
    (state.setClipboardContent content).Offered content state' ↔
      Run ClipboardControllerState.step
        (fun state action => action.KeepsOffer ∧ state.Undisturbed action)
        (state.setClipboardContent content) actions state' :=
  Owns.offered_run_iff hrun (owns_setClipboardContent state content)

namespace ClipboardControllerState

/-- An application requests a text. -/
def requestText : ClipboardAction :=
  .selectionRequest ⟨9, .clipboard, .utf8, some ⟨"XSEL_DATA"⟩, 0⟩

/-- The text of a client is given. -/
theorem clipboardOwnership_request :
    ((create none).setClipboardContent [0x6e]).Offered [0x6e]
      { (create none).setClipboardContent [0x6e] with
        answered :=
          [(⟨9, .clipboard, .utf8, some ⟨"XSEL_DATA"⟩, 0⟩,
            ⟨some (⟨"XSEL_DATA"⟩, ⟨.utf8, .bytes [0x6e]⟩),
              ⟨9, .clipboard, .utf8, some ⟨"XSEL_DATA"⟩, 0⟩⟩)] } :=
  (clipboardOwnership_iff (.cons (a := requestText) trivial rfl (.nil _))).mpr
    (.cons (a := requestText) ⟨trivial, fun _ => Option.some_ne_none _⟩ rfl (.nil _))

/-- The content of an application is asked for. -/
def askApplication : List ClipboardAction := [.updateClipboard (Time.ofMs 600)]

/-- The application answers later. -/
def answerLater : List ClipboardAction :=
  [.reply ⟨.clipboard, .utf8, .webXClipboardProperty⟩
      ⟨1, .clipboard, .utf8, some .webXClipboardProperty, 0⟩ ⟨.utf8, .bytes [0x6f]⟩,
    .selectionNotify]

/-- A late reply replaces the content of a client, and is told. -/
theorem not_clipboardOwnership : ¬ ClipboardOwnership := by
  intro h
  obtain ⟨state, state', hbefore, hafter, hsent⟩ : ∃ state state',
      Run step (fun _ _ => True) (create (some (.application 7))) askApplication state ∧
        Run step (fun _ action => action.KeepsOffer) (state.setClipboardContent [0x6e]) answerLater
          state' ∧
        state'.sent ≠ state.sent :=
    ⟨_, _, .cons trivial rfl (.nil _), .cons trivial rfl (.cons trivial rfl (.nil _)),
      by decide +kernel⟩
  exact hsent (h _ _ _ _ _ _ hbefore hafter).1

end ClipboardControllerState

end WebXEngine
