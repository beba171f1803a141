import WebXEngine.Display.Keyboard
import WebXEngine.Foundations.Runs
import WebXEngine.Models.Message

/-! # The layouts of the keyboard

The layout is known in three places: the engine translates the keys by its active mapping, X has the
layout that was set last, and the clients were told a name.

* **`LayoutState.step`** — the calls that load layouts, and the messages that tell their names.
* **`LayoutState.Agrees`** — the three places agree.
* **`layoutsAgree`** — they do as long as every layout that is found is set, and asked for by its long
  name.
* **`startsUp_iff`** — the engine starts exactly when there is a mapping for the layout of X. -/

namespace WebXEngine

open WebXKeyboard

/-- The keyboard, and the messages that were sent. -/
structure LayoutState where
  keyboard : KeyboardState
  sent : List WebXMessage

/-- What the controller knows besides the keyboard when it answers an instruction for the screen. -/
structure ScreenProperties where
  screenWidth : Int32
  screenHeight : Int32
  maxQualityIndex : Int32
  engineVersion : WebXVersion
  canResizeScreen : Bool
  deriving DecidableEq, Repr

/-- The calls that concern the layout: two when the engine starts, and the instructions of clients. -/
inductive LayoutAction
  | init (getAnswers setAnswers : XkbAnswers)
  | loadKeyboardLayout (layoutOrName : List UInt8) (answers : XkbAnswers)
  | keyboardLayoutInstruction (layoutOrName : List UInt8) (answers : XkbAnswers)
  | screenInstruction (clientIndex : UInt64) (commandId : UInt32) (screen : ScreenProperties)

namespace LayoutState

/-- The start of the engine. -/
def create : LayoutState := ⟨.create, []⟩

/-- One call. -/
def step (keyMaps : List WebXKeyboardMapping) (state : LayoutState) :
    LayoutAction → Except Fault LayoutState
  | .init getAnswers setAnswers =>
      (WebXKeyboard.init keyMaps getAnswers setAnswers state.keyboard).map fun keyboard =>
        { state with keyboard := keyboard }
  | .loadKeyboardLayout layoutOrName answers =>
      .ok { state with
        keyboard := (state.keyboard.loadKeyboardLayout keyMaps answers layoutOrName).2 }
  | .keyboardLayoutInstruction layoutOrName answers =>
      let loaded := state.keyboard.loadKeyboardLayout keyMaps answers layoutOrName
      .ok {
        keyboard := loaded.2
        sent := if loaded.1 then
            state.sent ++ [⟨globalClientIndexMask, .keyboardLayout layoutOrName⟩]
          else state.sent }
  | .screenInstruction clientIndex commandId screen =>
      .ok { state with
        sent := state.sent ++ [⟨clientIndex, .screen commandId screen.screenWidth screen.screenHeight
          screen.maxQualityIndex screen.engineVersion screen.canResizeScreen
          (getKeyboardLayoutName state.keyboard.keyboard)⟩] }

/-- The engine starts before anything is sent. -/
def Occurs (state : LayoutState) : LayoutAction → Prop
  | .init _ _ => state.sent = []
  | .loadKeyboardLayout _ _ => state.sent = []
  | _ => True

/-- The name that a message tells the client of an index. -/
def toldName (clientIndex : UInt64) (message : WebXMessage) : Option (List UInt8) :=
  if message.clientIndexMask &&& clientIndex = 0 then none
  else match message.content with
    | .keyboardLayout keyboardLayoutName => some keyboardLayoutName
    | .screen _ _ _ _ _ _ keyboardLayoutName => some keyboardLayoutName
    | _ => none

/-- The name that was told last. -/
def lastTold (clientIndex : UInt64) (messages : List WebXMessage) : Option (List UInt8) :=
  messages.reverse.findSome? (toldName clientIndex)

/-- The last message counts when it names a layout, and otherwise those before it. -/
theorem lastTold_concat (clientIndex : UInt64) (messages : List WebXMessage) (message : WebXMessage) :
    lastTold clientIndex (messages ++ [message]) =
      (toldName clientIndex message).or (lastTold clientIndex messages) := by
  rw [lastTold, List.reverse_append, List.findSome?_append]
  simp [lastTold]

/-- Nobody has the index 0. -/
theorem lastTold_zero (messages : List WebXMessage) : lastTold 0 messages = none := by
  rw [lastTold, List.findSome?_eq_none_iff]
  intro message _
  simp [toldName]

/-- What was told last to a client that connected later was told last. -/
theorem lastTold_append {clientIndex : UInt64} (before : List WebXMessage) {after : List WebXMessage}
    {name : List UInt8} (h : lastTold clientIndex after = some name) :
    lastTold clientIndex (before ++ after) = some name := by
  rw [lastTold, List.reverse_append, List.findSome?_append]
  rw [lastTold] at h
  rw [h]
  rfl

/-- The layout that was set last in X is that of the active mapping. -/
def ActiveInX (keyboard : KeyboardState) : Prop :=
  keyboard.xkb.names.bind XkbNames.layout =
    keyboard.keyboard.keyboardMapping.bind fun mapping => WebXKB.nullIfEmpty mapping.layout

/-- The engine, X and the clients agree on the layout. A client may have connected after some messages
were sent. -/
structure Agrees (state : LayoutState) : Prop where
  active : ActiveInX state.keyboard
  /-- The name that a client was told last is that of the active mapping. -/
  told : ∀ clientIndex before after name, state.sent = before ++ after →
    lastTold clientIndex after = some name → name = getKeyboardLayoutName state.keyboard.keyboard

/-- A layout that is found is set in X, unless it is the active one. -/
def SetsWhatIsFound (keyMaps : List WebXKeyboardMapping) (state : LayoutState)
    (layoutOrName : List UInt8) (answers : XkbAnswers) : Prop :=
  ∀ mapping, getKeyboardMapping keyMaps layoutOrName = some mapping →
    answers.succeed = true ∨ state.keyboard.keyboard.keyboardMapping = some mapping

/-- A layout that is set has been asked for by its long name. -/
def AskedByName (keyMaps : List WebXKeyboardMapping) (layoutOrName : List UInt8)
    (answers : XkbAnswers) : Prop :=
  ∀ mapping, getKeyboardMapping keyMaps layoutOrName = some mapping → answers.succeed = true →
    layoutOrName = mapping.name

/-- The layouts that are found are set, and the clients ask for them by their long names. -/
def KeepsAgreement (keyMaps : List WebXKeyboardMapping) (state : LayoutState) : LayoutAction → Prop
  | .init getAnswers setAnswers =>
      SetsWhatIsFound keyMaps state (WebXKB.getKeyboardLayout getAnswers) setAnswers
  | .loadKeyboardLayout layoutOrName answers => SetsWhatIsFound keyMaps state layoutOrName answers
  | .keyboardLayoutInstruction layoutOrName answers =>
      SetsWhatIsFound keyMaps state layoutOrName answers ∧ AskedByName keyMaps layoutOrName answers
  | .screenInstruction _ _ _ => True

/-- In all runs, the three places agree, and a call that returns false leaves the active mapping as it
was. -/
def LayoutsAgree (keyMaps : List WebXKeyboardMapping)
    (condition : LayoutState → LayoutAction → Prop) : Prop :=
  ∀ actions state,
    Run (step keyMaps) (fun state action => state.Occurs action ∧ condition state action) create
      actions state →
    state.Agrees ∧ ∀ layoutOrName answers,
      condition state (.keyboardLayoutInstruction layoutOrName answers) →
      (state.keyboard.loadKeyboardLayout keyMaps answers layoutOrName).1 = false →
      (state.keyboard.loadKeyboardLayout keyMaps answers layoutOrName).2.keyboard.keyboardMapping =
        state.keyboard.keyboard.keyboardMapping

/-! ## Loading a layout -/

variable {keyMaps : List WebXKeyboardMapping} {state state' : LayoutState}

/-- Loading a layout that is set when it is found: it stays active in X, nothing changes without
success, and success makes it the active one. -/
theorem loadKeyboardLayout_spec {layoutOrName : List UInt8} {answers : XkbAnswers}
    (hactive : ActiveInX state.keyboard)
    (hsets : SetsWhatIsFound keyMaps state layoutOrName answers) :
    let loaded := WebXKeyboard.loadKeyboardLayout keyMaps answers state.keyboard layoutOrName
    ActiveInX loaded.2 ∧
      (loaded.1 = false →
        loaded.2.keyboard.keyboardMapping = state.keyboard.keyboard.keyboardMapping) ∧
      (loaded.1 = true → answers.succeed = true ∧ ∃ mapping,
        getKeyboardMapping keyMaps layoutOrName = some mapping ∧
          loaded.2.keyboard.keyboardMapping = some mapping) := by
  rw [WebXKeyboard.loadKeyboardLayout]
  cases hfound : getKeyboardMapping keyMaps layoutOrName with
  | none => exact ⟨hactive, fun _ => rfl, fun h => by cases h⟩
  | some mapping =>
      obtain ⟨hresult, hnames⟩ :=
        WebXKB.setKeyboardLayout_spec answers state.keyboard.xkb mapping.layout
      dsimp only
      rw [hresult]
      cases hsucceed : answers.succeed with
      | true =>
          refine ⟨?_, fun h => (by cases h), fun _ => ⟨rfl, mapping, rfl, rfl⟩⟩
          rw [ActiveInX, hnames, if_pos hsucceed]
          rfl
      | false =>
          -- the layout was the active one already
          have hsame := (hsets mapping hfound).resolve_left (by rw [hsucceed]; decide)
          refine ⟨?_, fun _ => hsame.symm, fun h => by cases h⟩
          rw [ActiveInX, hnames, if_neg (by rw [hsucceed]; decide), hactive, hsame]

/-- The same for the function of the display. -/
theorem display_loadKeyboardLayout_spec {layoutOrName : List UInt8} {answers : XkbAnswers}
    (hactive : ActiveInX state.keyboard)
    (hsets : SetsWhatIsFound keyMaps state layoutOrName answers) :
    let loaded := state.keyboard.loadKeyboardLayout keyMaps answers layoutOrName
    ActiveInX loaded.2 ∧
      (loaded.1 = false →
        loaded.2.keyboard.keyboardMapping = state.keyboard.keyboard.keyboardMapping) ∧
      (loaded.1 = true → answers.succeed = true ∧ ∃ mapping,
        getKeyboardMapping keyMaps layoutOrName = some mapping ∧
          loaded.2.keyboard.keyboardMapping = some mapping) := by
  rw [KeyboardState.loadKeyboardLayout]
  split_ifs
  · exact loadKeyboardLayout_spec hactive hsets
  · exact ⟨hactive, fun _ => rfl, fun h => by cases h⟩

/-! ## The agreement -/

/-- Nothing was told yet. -/
theorem Agrees.of_sent_eq_nil (hactive : ActiveInX state.keyboard) (hsent : state.sent = []) :
    Agrees state := by
  refine ⟨hactive, fun clientIndex before after name hsplit htold => ?_⟩
  rw [hsent] at hsplit
  rw [(List.append_eq_nil_iff.mp hsplit.symm).2] at htold
  cases htold

/-- One more message, which tells the name of the active mapping if it tells one. -/
theorem Agrees.of_concat (hactive : ActiveInX state'.keyboard) {message : WebXMessage}
    (hsent : state'.sent = state.sent ++ [message])
    (hname : ∀ clientIndex name, toldName clientIndex message = some name →
      name = getKeyboardLayoutName state'.keyboard.keyboard)
    (hothers : ∀ clientIndex name, toldName clientIndex message = none →
      lastTold clientIndex state.sent = some name →
        name = getKeyboardLayoutName state'.keyboard.keyboard) : Agrees state' := by
  refine ⟨hactive, fun clientIndex before after name hsplit htold => ?_⟩
  have hlast := lastTold_append before htold
  rw [← hsplit, hsent, lastTold_concat] at hlast
  cases hmessage : toldName clientIndex message with
  | none =>
      rw [hmessage] at hlast
      exact hothers clientIndex name hmessage hlast
  | some toldNow =>
      rw [hmessage] at hlast
      cases hlast
      exact hname clientIndex name hmessage

/-- **Every call keeps the agreement.** -/
theorem Agrees.step (h : Agrees state) {action : LayoutAction} (hoccurs : state.Occurs action)
    (hkeeps : KeepsAgreement keyMaps state action) (hstep : state.step keyMaps action = .ok state') :
    Agrees state' := by
  cases action with
  | init getAnswers setAnswers =>
      rw [LayoutState.step, WebXKeyboard.init] at hstep
      cases hfound : getKeyboardMapping keyMaps (WebXKB.getKeyboardLayout getAnswers) with
      | none =>
          rw [hfound] at hstep
          cases hstep
      | some mapping =>
          rw [hfound] at hstep
          cases hstep
          exact .of_sent_eq_nil (loadKeyboardLayout_spec h.active hkeeps).1 hoccurs
  | loadKeyboardLayout layoutOrName answers =>
      cases hstep
      exact .of_sent_eq_nil (display_loadKeyboardLayout_spec h.active hkeeps).1 hoccurs
  | keyboardLayoutInstruction layoutOrName answers =>
      obtain ⟨hactive, hfalse, htrue⟩ := display_loadKeyboardLayout_spec h.active hkeeps.1
      cases hstep
      cases hloaded : (state.keyboard.loadKeyboardLayout keyMaps answers layoutOrName).1 with
      | true =>
          -- all clients are told the name they asked for
          obtain ⟨hsucceed, mapping, hfound, hmapping⟩ := htrue hloaded
          have hasked := hkeeps.2 mapping hfound hsucceed
          refine .of_concat hactive rfl (fun clientIndex name htold => ?_) ?_
          · rw [toldName] at htold
            split_ifs at htold
            cases htold
            rw [getKeyboardLayoutName, hmapping]
            exact hasked
          · intro clientIndex name htold hlast
            rw [toldName] at htold
            split_ifs at htold with hnobody
            rw [globalClientIndexMask_and] at hnobody
            rw [hnobody, lastTold_zero] at hlast
            cases hlast
      | false =>
          refine ⟨hactive, fun clientIndex before after name hsplit htold => ?_⟩
          rw [getKeyboardLayoutName, hfalse hloaded]
          exact h.told clientIndex before after name hsplit htold
  | screenInstruction clientIndex commandId screen =>
      cases hstep
      refine .of_concat h.active rfl (fun client name htold => ?_) fun client name _ hlast =>
        h.told client [] state.sent name rfl hlast
      rw [toldName] at htold
      split_ifs at htold
      cases htold
      rfl

end LayoutState

/-- **The engine, X and the clients agree on the layout**, when the layouts that are found are set in X
and the clients ask for them by their long names. -/
theorem layoutsAgree (keyMaps : List WebXKeyboardMapping) :
    LayoutState.LayoutsAgree keyMaps (LayoutState.KeepsAgreement keyMaps) := by
  intro actions state hrun
  have hagrees : state.Agrees := by
    refine hrun.invariant (P := LayoutState.Agrees)
      (fun _ _ _ h hallowed hstep => h.step hallowed.1 hallowed.2 hstep) ?_
    exact .of_sent_eq_nil rfl rfl
  exact ⟨hagrees, fun layoutOrName answers hcondition hfalse =>
    (LayoutState.display_loadKeyboardLayout_spec hagrees.active hcondition.1).2.1 hfalse⟩

namespace LayoutState

/-- Two layouts, without their keysyms. -/
def gbAndUs : List WebXKeyboardMapping :=
  [⟨ascii "en-gb-qwerty", ascii "gb", []⟩, ⟨ascii "en-us-qwerty", ascii "us", []⟩]

/-- The answers for a server with the layout of Great Britain, in which the rules are found or not. -/
def gbAnswers (found : Bool) : XkbAnswers where
  namesProp := some ⟨some (ascii "evdev"), some (ascii "pc105"), some (ascii "gb"), none⟩
  components := if found then some ⟨none, none, none, none, none, none⟩ else none
  keyboardByName := true
  setNamesProp := true

/-- The engine starts, and a client asks for another layout by its name. -/
def askByName : List LayoutAction :=
  [.init (gbAnswers true) (gbAnswers true),
    .keyboardLayoutInstruction (ascii "en-us-qwerty") (gbAnswers true)]

/-- The other layout is active, set in X, and told. -/
theorem layoutsAgree_askByName : ∃ state,
    Run (step gbAndUs) (fun state action => state.Occurs action ∧ KeepsAgreement gbAndUs state action)
        create askByName state ∧
      state.sent ≠ [] ∧ getKeyboardLayoutName state.keyboard.keyboard = ascii "en-us-qwerty" ∧
      state.Agrees := by
  obtain ⟨state, hrun, hsent, hname⟩ : ∃ state,
      Run (step gbAndUs) (fun state action => state.Occurs action ∧ KeepsAgreement gbAndUs state action)
          create askByName state ∧
        state.sent ≠ [] ∧ getKeyboardLayoutName state.keyboard.keyboard = ascii "en-us-qwerty" := by
    refine ⟨_, .cons ⟨rfl, fun _ _ => .inl (by decide +kernel)⟩ rfl
      (.cons ⟨trivial, fun _ _ => .inl (by decide +kernel), fun mapping hmapping _ => ?_⟩ rfl (.nil _)),
      by decide +kernel, by decide +kernel⟩
    -- the layout is found by its name
    have hfound : getKeyboardMapping gbAndUs (ascii "en-us-qwerty") =
        some ⟨ascii "en-us-qwerty", ascii "us", []⟩ := by decide +kernel
    cases hfound.symm.trans hmapping
    rfl
  exact ⟨state, hrun, hsent, hname, (layoutsAgree gbAndUs askByName state hrun).1⟩

/-- The engine starts, and a client asks for a layout whose rules cannot be loaded. -/
def askWithoutRules : List LayoutAction :=
  [.init (gbAnswers true) (gbAnswers true),
    .keyboardLayoutInstruction (ascii "en-us-qwerty") (gbAnswers false)]

/-- The active mapping changes although X keeps its layout. -/
theorem not_layoutsAgree : ¬ LayoutsAgree gbAndUs fun _ _ => True := by
  intro h
  obtain ⟨state, hrun, hnot⟩ : ∃ state, Run (step gbAndUs)
      (fun state action => state.Occurs action ∧ True) create askWithoutRules state ∧
        ¬ ActiveInX state.keyboard := by
    refine ⟨_, .cons ⟨rfl, trivial⟩ rfl (.cons ⟨trivial, trivial⟩ rfl (.nil _)), ?_⟩
    unfold ActiveInX
    decide +kernel
  exact hnot (h askWithoutRules state hrun).1.active

end LayoutState

/-! ## The start -/

/-- The start ends, and a mapping is active: the one for the layout of X, or else the default one. -/
def StartsUp (keyMaps : List WebXKeyboardMapping) (getAnswers setAnswers : XkbAnswers)
    (state : KeyboardState) : Prop :=
  ∃ state' mapping, WebXKeyboard.init keyMaps getAnswers setAnswers state = .ok state' ∧
    state'.keyboard.keyboardMapping = some mapping ∧
    (getKeyboardMapping keyMaps (WebXKB.getKeyboardLayout getAnswers)).or
      (getKeyboardMapping keyMaps defaultKeyboardLayout) = some mapping

namespace WebXKeyboard

variable {keyMaps : List WebXKeyboardMapping} {layoutOrName : List UInt8}

/-- A mapping is found by its layout or by its name. -/
theorem getKeyboardMapping_eq_none_iff :
    getKeyboardMapping keyMaps layoutOrName = none ↔
      ¬ ∃ mapping ∈ keyMaps, mapping.layout = layoutOrName ∨ mapping.name = layoutOrName := by
  simp [getKeyboardMapping]

/-- A mapping that is found becomes the active one, whether X takes it or not. -/
theorem keyboardMapping_loadKeyboardLayout (answers : XkbAnswers) (state : KeyboardState)
    {mapping : WebXKeyboardMapping} (h : getKeyboardMapping keyMaps layoutOrName = some mapping) :
    (loadKeyboardLayout keyMaps answers state layoutOrName).2.keyboard.keyboardMapping =
      some mapping := by
  rw [loadKeyboardLayout, h]

end WebXKeyboard

/-- **The engine starts exactly when one of its mappings has the layout of X**, as its layout or its
name: the texts for the log of the other cases use the mapping that was not found. -/
theorem startsUp_iff (keyMaps : List WebXKeyboardMapping) (getAnswers setAnswers : XkbAnswers)
    (state : KeyboardState) :
    StartsUp keyMaps getAnswers setAnswers state ↔
      ∃ mapping ∈ keyMaps, mapping.layout = WebXKB.getKeyboardLayout getAnswers ∨
        mapping.name = WebXKB.getKeyboardLayout getAnswers := by
  rw [StartsUp, WebXKeyboard.init]
  cases hfound : getKeyboardMapping keyMaps (WebXKB.getKeyboardLayout getAnswers) with
  | none =>
      refine iff_of_false ?_ (getKeyboardMapping_eq_none_iff.mp hfound)
      rintro ⟨state', mapping, hinit, -⟩
      cases hinit
  | some mapping =>
      refine iff_of_true ?_ ?_
      · exact ⟨_, mapping, rfl, keyboardMapping_loadKeyboardLayout setAnswers state hfound, rfl⟩
      · by_contra hnone
        rw [getKeyboardMapping_eq_none_iff.mpr hnone] at hfound
        cases hfound

/-- The server has a list of two layouts. -/
def gbAndUsAnswers : XkbAnswers where
  namesProp := some ⟨some (ascii "evdev"), some (ascii "pc105"), some (ascii "gb,us"), none⟩
  components := some ⟨none, none, none, none, none, none⟩
  keyboardByName := true
  setNamesProp := true

/-- The engine does not start on a server with a list of layouts. -/
theorem not_startsUp :
    ¬ StartsUp LayoutState.gbAndUs gbAndUsAnswers gbAndUsAnswers .create := by
  rintro ⟨state', mapping, hinit, -⟩
  have hfault : WebXKeyboard.init LayoutState.gbAndUs gbAndUsAnswers gbAndUsAnswers .create =
      .error .nullDereference := rfl
  rw [hfault] at hinit
  cases hinit

end WebXEngine
