import WebXEngine.Display.ScreenResize

/-! # The answers to a resize

The engine as a whole is modelled with the answers that it gets when the size of the screen is changed,
and not with the state of the server. What the server answers leads to the same size.

* **`RandRServer.answers`** — what the server answers while the size is changed.
* **`resizeScreen_agrees`** — the two models change the size alike, as long as the mode is intact. -/

namespace WebXEngine

/-! ## The answers of the server -/

namespace RandRServer

variable (calls : RandRCalls) (server : RandRServer)

/-- The configuration of the CRTC when modes are deleted: an output shows a mode, or the server went
back. -/
def configAfter (output : UInt32) : XRRCrtcInfo :=
  if calls.outputInfo 1 output && decide (output ∈ server.config.outputs) then
    if calls.setCrtcConfig 0 && calls.setCrtcConfig 1 then ⟨0, 0, 0, 1, [output]⟩
    else server.revertedConfig calls
  else server.config

/-- The answers to the queries about an output in which a mode is set. -/
structure Describes (answers : RandRAnswers) (output : UInt32) : Prop where
  resources : ∃ resources, (answers.query 3).resources = some resources
  outputInfo : (answers.query 3).outputInfo = (server.query calls 1).outputInfo
  crtcInfo : answers.crtcInfo = decide (output ∈ server.config.outputs)
  isDisabled : answers.isDisabled =
    (calls.setCrtcConfig 0 && decide (output ∈ server.config.outputs))
  isSet : answers.isSet = (calls.setCrtcConfig 1 && decide (output ∈ server.config.outputs))
  modes : (answers.query 4).resources = some ⟨server.outputs, server.modes.modes⟩
  readMode : ∀ n mode, answers.readMode n mode = mode
  deletions : ∀ i, WebXRandR.getConnectedOutput (answers.query (5 + i)) true =
    WebXRandR.getConnectedOutput
      ({ server with config := server.configAfter calls output }.query calls (2 + i)) true

/-- What the server answers while the size is changed. The modes are not read any more when the first one
is deleted. -/
def answers (width height : Int32) : RandRAnswers :=
  let output := server.selectedOutput.getD 0
  let created := server.createMode calls width.toUInt32 height.toUInt32
    (ScreenResize.modeName width height)
  let modes := if (server.matchingMode width height).isSome then server.modes else created.2.modes
  { minWidth := server.minWidth
    minHeight := server.minHeight
    maxWidth := server.maxWidth
    maxHeight := server.maxHeight
    query
      | 0 | 1 => server.query calls 0
      | 2 => created.2.query calls 0
      | 3 => server.query calls 1
      | 4 => { server with modes := modes }.query calls 0
      | n + 5 => { server with config := server.configAfter calls output }.query calls (n + 2)
    createdMode := created.1
    crtcInfo := decide (output ∈ server.config.outputs)
    isDisabled := calls.setCrtcConfig 0 && decide (output ∈ server.config.outputs)
    isSet := calls.setCrtcConfig 1 && decide (output ∈ server.config.outputs)
    readMode _ mode := mode }

end RandRServer

namespace ScreenResize

variable {calls : RandRCalls} {server server' : RandRServer}

/-- Only the modes of a server are others. -/
def SameButModes (server server' : RandRServer) : Prop :=
  ∃ modes, server' = { server with modes := modes }

/-- Only the modes are others when one is deleted from an output. -/
theorem SameButModes.deleteOutputMode (h : SameButModes server server') (output id : UInt32) :
    SameButModes server (server'.deleteOutputMode output id) := by
  obtain ⟨modes, rfl⟩ := h
  rw [RandRServer.deleteOutputMode]
  split_ifs <;> exact ⟨_, rfl⟩

/-- Only the modes are others when one is destroyed. -/
theorem SameButModes.destroyMode (h : SameButModes server server') (id : UInt32) :
    SameButModes server (server'.destroyMode id) := by
  obtain ⟨modes, rfl⟩ := h
  rw [RandRServer.destroyMode]
  split_ifs <;> exact ⟨_, rfl⟩

/-- A mode is deleted with a search of the outputs that gives what one of the server gives. -/
theorem deleteMode_agrees {query : RandRQuery} {n : ℕ} (h : SameButModes server server')
    (hquery : WebXRandR.getConnectedOutput query true =
      WebXRandR.getConnectedOutput (server.query calls n) true) (mode : XRRModeInfo) :
    ResultsAgree (fun _ => SameButModes server) (WebXRandR.deleteMode query)
      (deleteMode calls server' n mode) := by
  have hserver : WebXRandR.getConnectedOutput (server.query calls n) true =
      WebXRandR.getConnectedOutput (server'.query calls n) true := by
    -- the outputs do not depend on the modes
    obtain ⟨modes, rfl⟩ := h
    rfl
  rw [WebXRandR.deleteMode, deleteMode, hquery, hserver]
  cases WebXRandR.getConnectedOutput (server'.query calls n) true with
  | error fault => exact .error fault
  | ok found =>
      cases found with
      | none => exact .ok (h.destroyMode mode.id)
      | some output => exact .ok ((h.deleteOutputMode output mode.id).destroyMode mode.id)

/-- The modes are deleted alike, each with its search. -/
theorem deleteModes_agrees {answers : RandRAnswers} (modes : List XRRModeInfo) :
    ∀ {server' : RandRServer} {m n : ℕ}, SameButModes server server' →
      (∀ i, WebXRandR.getConnectedOutput (answers.query (m + i)) true =
        WebXRandR.getConnectedOutput (server.query calls (n + i)) true) →
      ResultsAgree (fun _ => SameButModes server) (WebXRandR.deleteModes answers modes m)
        (deleteModes calls server' n modes) := by
  induction modes with
  | nil => exact fun h _ => .ok h
  | cons mode modes ih =>
      intro server' m n h hquery
      rw [WebXRandR.deleteModes, deleteModes]
      refine ResultsAgree.bind (deleteMode_agrees h (hquery 0) mode) fun _ deleted h => ih h fun i => ?_
      rw [Nat.add_right_comm, Nat.add_right_comm n]
      exact hquery (i + 1)

/-- The server shows the mode that was set, if any. -/
def ShowsMode (set : Option XRRModeInfo) (server : RandRServer) : Prop :=
  ∀ mode, set = some mode → server.config.mode = mode.id

/-- A mode that is intact is used as it was. -/
theorem readFreed_eq {n : ℕ} (h : calls.isIntact n = true) (mode : XRRModeInfo) :
    readFreed calls n mode = .ok mode := if_pos h

/-- A mode that could not be set is deleted in both models, or in none. -/
theorem deleteCreated_agrees {query : RandRQuery} (hintact : calls.isIntact 3 = true)
    (h : WebXRandR.getConnectedOutput query true =
      WebXRandR.getConnectedOutput (server.query calls 2) true) (mode : XRRModeInfo) (isCreated : Bool) :
    ResultsAgree ShowsMode
      (if isCreated then WebXRandR.deleteMode query >>= fun _ => .ok none else .ok none)
      (deleteCreated calls server mode isCreated) := by
  rw [deleteCreated]
  cases isCreated with
  | true =>
      rw [if_pos rfl, if_pos rfl, readFreed_eq hintact]
      change ResultsAgree _ _ (deleteMode calls server 2 mode)
      rw [← bind_pure (deleteMode calls server 2 mode)]
      refine ResultsAgree.bind (deleteMode_agrees ⟨server.modes, rfl⟩ h mode) fun _ deleted _ => ?_
      exact .ok fun mode h => by cases h
  | false => exact .ok fun mode h => by cases h

/-- The old modes are deleted alike, while the output shows the mode. -/
theorem cleanupModes_agrees {answers : RandRAnswers} {output : UInt32} {mode : XRRModeInfo}
    (hintact : calls.isIntact 2 = true)
    (hmodes : (answers.query 4).resources = some ⟨server.outputs, server.modes.modes⟩)
    (hquery : ∀ i, WebXRandR.getConnectedOutput (answers.query (5 + i)) true =
      WebXRandR.getConnectedOutput ((server.withMode output mode).query calls (2 + i)) true) :
    ResultsAgree ShowsMode (WebXRandR.cleanupModes answers mode >>= fun _ => .ok (some mode))
      (cleanupModes calls (server.withMode output mode) mode) := by
  have hcurrent : readCurrent calls (server.withMode output mode) mode = .ok mode :=
    readCurrent_eq_ok_iff.mpr ⟨fun _ => hintact, rfl⟩
  rw [WebXRandR.cleanupModes, hmodes, cleanupModes, hcurrent]
  change ResultsAgree _ _ (deleteModes calls (server.withMode output mode) 2
    (server.modes.modes.filter (isOldMode mode.id)))
  rw [← bind_pure (deleteModes calls _ 2 _)]
  refine ResultsAgree.bind (deleteModes_agrees _ ⟨server.modes, rfl⟩ hquery)
    fun _ deleted hdeleted => .ok ?_
  rintro shown hshown
  cases hshown
  obtain ⟨modes, rfl⟩ := hdeleted
  rfl

/-- The two models set the same mode, from answers that describe the server. -/
theorem setMode_agrees {answers : RandRAnswers} {output : UInt32}
    (hintact : ∀ n, calls.isIntact n = true) (h : server.Describes calls answers output)
    (mode : XRRModeInfo) (isCreated : Bool) :
    ResultsAgree ShowsMode (WebXRandR.setMode answers output mode isCreated)
      (setMode calls server output mode isCreated server.screenWidth server.screenHeight) := by
  obtain ⟨resources, hresources⟩ := h.resources
  have hdeletions := h.deletions
  rw [RandRServer.configAfter] at hdeletions
  rw [WebXRandR.setMode, setMode_eq, WebXRandR.setOutputToMode, hresources,
    h.outputInfo, h.crtcInfo, h.isDisabled, h.isSet, RandRServer.query]
  dsimp only
  by_cases hdescribed : calls.outputInfo 1 output = true
  · rw [hdescribed] at hdeletions ⊢
    rw [if_pos rfl, if_pos rfl, readFreed_eq (hintact 1)]
    change ResultsAgree _ _ (if output ∈ server.config.outputs then _ else _)
    dsimp only
    by_cases hshown : output ∈ server.config.outputs
    · rw [decide_eq_true hshown, Bool.and_true, if_pos rfl] at hdeletions
      rw [decide_eq_true hshown, Bool.and_true, Bool.and_true, if_pos hshown, if_pos rfl]
      by_cases hset : (calls.setCrtcConfig 0 && calls.setCrtcConfig 1) = true
      · rw [if_pos hset] at hdeletions
        rw [if_pos hset, if_pos hset]
        -- the outputs are searched while the output shows the mode
        simp only [h.readMode]
        exact cleanupModes_agrees (hintact 2) h.modes hdeletions
      · rw [if_neg hset] at hdeletions
        rw [if_neg hset, if_neg hset]
        exact deleteCreated_agrees (hintact 3) (hdeletions 0) mode isCreated
    · -- without the CRTC, it cannot be disabled, and there is nothing to go back to
      rw [decide_eq_false hshown, if_neg hshown]
      simp only [Bool.and_false, Bool.false_eq_true, if_false]
      exact .error _
  · rw [Bool.not_eq_true] at hdescribed
    rw [hdescribed] at hdeletions ⊢
    exact deleteCreated_agrees (hintact 3) (hdeletions 0) mode isCreated

/-- The answers describe the server in which a mode is set: the one before, or the one with the mode that
was created. -/
theorem describes_answers {output : UInt32} (houtput : server.selectedOutput = some output)
    (width height : Int32) {modes : RandRModes}
    (hmodes : modes.modes = (if (server.matchingMode width height).isSome then server.modes
      else (server.createMode calls width.toUInt32 height.toUInt32
        (modeName width height)).2.modes).modes) :
    { server with modes := modes }.Describes calls (server.answers calls width height) output := by
  have hgetD : server.selectedOutput.getD 0 = output := by
    rw [houtput]
    rfl
  refine ⟨⟨_, rfl⟩, rfl, ?_, ?_, ?_, ?_, fun _ _ => rfl, fun i => ?_⟩
  · rw [RandRServer.answers, hgetD]
  · rw [RandRServer.answers, hgetD]
  · rw [RandRServer.answers, hgetD]
  · rw [hmodes]
    rfl
  · rw [Nat.add_comm 5 i, Nat.add_comm 2 i, RandRServer.answers, hgetD]
    rfl

section Selection

variable (calls server) (output : UInt32) (width height : Int32)

/-- The mode of the size is set when there is one. -/
theorem selectMode_of_matchingMode {mode : XRRModeInfo}
    (hmatching : server.matchingMode width height = some mode) :
    WebXRandR.selectMode (server.answers calls width height) output width height =
      WebXRandR.setMode (server.answers calls width height) output mode false := by
  have hfound : WebXRandR.getMatchingModeInfo ((server.answers calls width height).query 1)
      (fun mode => mode.width = width.toUInt32 && mode.height = height.toUInt32) = .ok (some mode) :=
    congrArg Except.ok hmatching
  unfold WebXRandR.selectMode
  simp only [hfound]
  rfl

/-- The mode that was created is looked for when there is none of the size. -/
theorem selectMode_of_created {created : Option XRRModeInfo}
    (hmatching : server.matchingMode width height = none)
    (hcreated : WebXRandR.getMatchingModeInfo ((server.answers calls width height).query 2)
      (fun mode => mode.id = (server.answers calls width height).createdMode) = .ok created) :
    WebXRandR.selectMode (server.answers calls width height) output width height =
      created.elim (.error .nullDereference) fun mode =>
        WebXRandR.setMode (server.answers calls width height) output mode true := by
  have hfound : WebXRandR.getMatchingModeInfo ((server.answers calls width height).query 1)
      (fun mode => mode.width = width.toUInt32 && mode.height = height.toUInt32) = .ok none :=
    congrArg Except.ok hmatching
  unfold WebXRandR.selectMode
  simp only [hfound, hcreated]
  cases created <;> rfl

end Selection

/-- The same mode is found or created in both models, and set. -/
theorem selectMode_agrees {output : UInt32} (hintact : ∀ n, calls.isIntact n = true)
    (houtput : server.selectedOutput = some output)
    (width height : Int32) :
    ResultsAgree ShowsMode
      (WebXRandR.selectMode (server.answers calls width height) output width height)
      (selectMode calls server output width height) := by
  have hdescribes := @describes_answers calls server output houtput width height
  let created := server.createMode calls width.toUInt32 height.toUInt32 (modeName width height)
  have hcreate : createMode calls server width height =
      .ok (created.2.modes.modes.find? fun mode => mode.id = created.1, created.2) := rfl
  rw [selectMode_eq]
  cases hmatching : server.matchingMode width height with
  | some mode =>
      rw [hmatching] at hdescribes
      rw [selectMode_of_matchingMode calls server output width height hmatching]
      exact setMode_agrees hintact (hdescribes rfl) mode false
  | none =>
      rw [hmatching] at hdescribes
      have hselect : WebXRandR.selectMode (server.answers calls width height) output width height =
          (created.2.modes.modes.find? fun mode => mode.id = created.1).elim (.error .nullDereference)
            fun mode => WebXRandR.setMode (server.answers calls width height) output mode true :=
        selectMode_of_created calls server output width height hmatching rfl
      rw [hselect]
      by_cases hnew : ∃ id, calls.createMode = some id ∧ server.IsNewMode id
      · -- a mode is created: the answers describe the server that has it
        obtain ⟨id, hid, hnew⟩ := hnew
        obtain ⟨mode, created', hmode, rfl, -, -, -, -, modes, hadded, hmodes, -⟩ :=
          createMode_spec hid hnew output width height
        obtain ⟨hfind, hcreated⟩ := Prod.mk.inj (Except.ok.inj (hcreate.symm.trans hmode))
        rw [hmode, hfind]
        change ResultsAgree _ _ (readFreed calls 0 mode >>= fun mode => setMode calls
          (created'.addOutputMode calls output mode.id) output mode true server.screenWidth
            server.screenHeight)
        rw [readFreed_eq (hintact 0)]
        change ResultsAgree _ _ (setMode calls (created'.addOutputMode calls output mode.id) output mode
          true server.screenWidth server.screenHeight)
        rw [hadded]
        exact setMode_agrees hintact (hdescribes (hmodes.trans (by rw [← hcreated]; rfl))) mode true
      · -- no mode is created: both fail on the null pointer
        have hnone := createMode_eq_none (fun id hid h => hnew ⟨id, hid, h⟩) width height
        rw [hnone, (Prod.mk.inj (Except.ok.inj (hcreate.symm.trans hnone))).1]
        exact .error _

/-- **The answers of the server lead to what it does**: the size is changed in both models alike, and the
mode that is set is the one that the server shows, as long as its memory is intact. -/
theorem resizeScreen_agrees (hintact : ∀ n, calls.isIntact n = true)
    (current : XWindowAttributes) (hwidth : current.width = server.screenWidth)
    (hheight : current.height = server.screenHeight) (requestedWidth requestedHeight : UInt32) :
    let width := WebXRandR.clampSize requestedWidth server.minWidth server.maxWidth
    let height := WebXRandR.clampSize requestedHeight server.minHeight server.maxHeight
    ResultsAgree ShowsMode
      (WebXRandR.resizeScreen (server.answers calls width height) current requestedWidth
        requestedHeight)
      (resizeScreen calls server requestedWidth requestedHeight) := by
  intro width height
  rw [WebXRandR.resizeScreen, resizeScreen, hwidth, hheight]
  refine ResultsAgree.ite (.ok fun mode h => by cases h) ?_
  change ResultsAgree _ (WebXRandR.getConnectedOutput (server.query calls 0) true >>= _) _
  cases hfound : WebXRandR.getConnectedOutput (server.query calls 0) true with
  | error fault => exact .error fault
  | ok found =>
      obtain ⟨-, rfl⟩ := RandRServer.getConnectedOutput_eq_ok_iff.mp hfound
      cases houtput : server.selectedOutput with
      | none => exact .ok fun mode h => by cases h
      | some output => exact selectMode_agrees hintact houtput width height

end ScreenResize

end WebXEngine
