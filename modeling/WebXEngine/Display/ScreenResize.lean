import WebXEngine.Display.RandRServer
import WebXEngine.Foundations.Runs

/-! # The screen when its size is changed

To change the size, the engine creates a mode when there is none, disables the CRTC, and sets the mode.
Each of these calls may fail, and then it goes back to what was there before. The mode is a part of
resources that were freed when it was found, and it is used as long as its memory is intact. Here the
server is a state, where the other model of this function has only its answers.

* **`ScreenResize.resizeScreen`** — the size is changed.
* **`completes_setMode_iff`** — when a mode is set and the others are deleted, or nothing is changed.
* **`allOrNothing_iff`** — all is done or nothing, exactly when every description that is used is given,
  the mode is intact, and no other output has a mode that is deleted. -/

namespace WebXEngine

/-! ## The engine -/

namespace ScreenResize

variable (calls : RandRCalls)

/-- The name of a mode of the engine. -/
def modeName (width height : Int32) : List UInt8 :=
  ascii (toString width.toInt ++ "x" ++ toString height.toInt ++ "_webx")

/-- Creates a mode of a size, and looks for it. -/
def createMode (server : RandRServer) (width height : Int32) :
    Except Fault (Option XRRModeInfo × RandRServer) := do
  let name := modeName width height
  let (id, server) := server.createMode calls width.toUInt32 height.toUInt32 name
  let mode ← WebXRandR.getMatchingModeInfo (server.query calls 0) fun mode => mode.id = id
  return (mode, server)

/-- Goes back to a configuration of a CRTC, which is used after the CRTC was disabled. -/
def revert (server : RandRServer) (crtc : UInt32) (crtcInfo : Option XRRCrtcInfo)
    (width height : Int32) : Except Fault RandRServer :=
  let server := (server.setCrtcConfig calls 2 crtc .disabled).2.setScreenSize width height
  match crtcInfo with
  | none => .error .nullDereference
  | some crtcInfo => .ok (server.setCrtcConfig calls 3 crtc crtcInfo).2

/-- Uses a mode of resources that were freed. -/
def readFreed (n : ℕ) (mode : XRRModeInfo) : Except Fault XRRModeInfo :=
  if calls.isIntact n then .ok mode else .error .freedObject

/-- Sets a mode in an output, unless the output has no description. The result says whether it did. -/
def setOutputToMode (server : RandRServer) (output : UInt32) (mode : XRRModeInfo)
    (currentWidth currentHeight : Int32) : Except Fault (Bool × RandRServer) :=
  match (server.query calls 1).outputInfo output with
  | none => .ok (false, server)
  | some outputInfo => do
      let mode ← readFreed calls 1 mode
      let crtcInfo := server.getCrtcInfo outputInfo.crtc
      let (isDisabled, server) := server.setCrtcConfig calls 0 outputInfo.crtc .disabled
      if isDisabled then
        let server := server.setScreenSize mode.width.toInt32 mode.height.toInt32
        let (isSet, server) :=
          server.setCrtcConfig calls 1 outputInfo.crtc ⟨0, 0, mode.id, 1, [output]⟩
        if isSet then return (true, server)
        else (revert calls server outputInfo.crtc crtcInfo currentWidth currentHeight).map (false, ·)
      else (revert calls server outputInfo.crtc crtcInfo currentWidth currentHeight).map (false, ·)

/-- Deletes a mode, from the output as well. -/
def deleteMode (server : RandRServer) (n : ℕ) (mode : XRRModeInfo) : Except Fault RandRServer := do
  let server :=
    match ← WebXRandR.getConnectedOutput (server.query calls n) true with
    | some output => server.deleteOutputMode output mode.id
    | none => server
  return server.destroyMode mode.id

/-- The loop over the modes that are deleted, each with a search of its own. -/
def deleteModes : RandRServer → ℕ → List XRRModeInfo → Except Fault RandRServer
  | server, _, [] => .ok server
  | server, n, mode :: modes => do
      let server ← deleteMode calls server n mode
      deleteModes server (n + 1) modes

/-- A mode has the name of one that the engine created. -/
def isNamed (mode : XRRModeInfo) : Bool := (ascii "_webx").isSuffixOf mode.name

/-- A mode that the engine created, and that is not the one of an identifier. -/
def isOldMode (currentMode : UInt32) (mode : XRRModeInfo) : Bool :=
  isNamed mode && mode.id ≠ currentMode

/-- Uses the current mode when there is a mode with such a name. -/
def readCurrent (server : RandRServer) (currentMode : XRRModeInfo) : Except Fault XRRModeInfo :=
  if server.modes.modes.any isNamed then readFreed calls 2 currentMode else .ok currentMode

/-- Deletes the other modes that the engine created. -/
def cleanupModes (server : RandRServer) (currentMode : XRRModeInfo) : Except Fault RandRServer := do
  let currentMode ← readCurrent calls server currentMode
  deleteModes calls server 2 (server.modes.modes.filter (isOldMode currentMode.id))

/-- What is done with a mode that could not be set: it is deleted if it was created. -/
def deleteCreated (server : RandRServer) (mode : XRRModeInfo) (isCreated : Bool) :
    Except Fault RandRServer :=
  if isCreated then do deleteMode calls server 2 (← readFreed calls 3 mode)
  else return server

/-- Sets a mode, and deletes those that are not needed any more: the others, or the one that was created
and could not be set. -/
def setMode (server : RandRServer) (output : UInt32) (mode : XRRModeInfo) (isCreated : Bool)
    (currentWidth currentHeight : Int32) : Except Fault RandRServer := do
  let (isSet, server) ← setOutputToMode calls server output mode currentWidth currentHeight
  if isSet then cleanupModes calls server mode
  else deleteCreated calls server mode isCreated

/-- Sets the mode of a size, which is created when there is none. A mode that could not be created is
used nevertheless. -/
def selectMode (server : RandRServer) (output : UInt32) (width height : Int32) :
    Except Fault RandRServer := do
  let isMatching (mode : XRRModeInfo) : Bool :=
    mode.width = width.toUInt32 && mode.height = height.toUInt32
  match ← WebXRandR.getMatchingModeInfo (server.query calls 0) isMatching with
  | some mode => setMode calls server output mode false server.screenWidth server.screenHeight
  | none =>
      let (created, server') ← createMode calls server width height
      match created with
      | none => .error .nullDereference
      | some mode =>
          let mode ← readFreed calls 0 mode
          setMode calls (server'.addOutputMode calls output mode.id) output mode true
            server.screenWidth server.screenHeight

/-- Changes the size of the screen, unless it has that size or no output. -/
def resizeScreen (server : RandRServer) (requestedWidth requestedHeight : UInt32) :
    Except Fault RandRServer := do
  let width := WebXRandR.clampSize requestedWidth server.minWidth server.maxWidth
  let height := WebXRandR.clampSize requestedHeight server.minHeight server.maxHeight
  if width = server.screenWidth ∧ height = server.screenHeight then
    return server
  else
    match ← WebXRandR.getConnectedOutput (server.query calls 0) true with
    | none => return server
    | some output => selectMode calls server output width height

end ScreenResize

/-! ## Modes that are deleted -/

namespace RandRServer

variable {calls : RandRCalls} {server : RandRServer}

/-- A mode that is not shown is removed from the output that was found. -/
theorem destroyMode_eq {id : UInt32} (hid : server.config.mode ≠ id) (found : Option UInt32) :
    (match found with
      | some output => server.deleteOutputMode output id
      | none => server).destroyMode id = { server with modes := server.modes.remove found id } := by
  have hdeleted (output : UInt32) : server.deleteOutputMode output id =
      { server with modes := server.modes.removeFrom (some output) id } := if_neg fun h => hid h.1
  have hdestroy (modes : RandRModes) : ({ server with modes := modes } : RandRServer).destroyMode id =
      { server with modes := if h : modes.IsAdded id then modes else modes.destroy id h } := by
    rw [destroyMode, if_neg hid]
    split_ifs <;> rfl
  cases found with
  | none => exact hdestroy server.modes
  | some output =>
      dsimp only
      rw [hdeleted]
      exact hdestroy _

end RandRServer

namespace ScreenResize

variable {calls : RandRCalls} {server server' : RandRServer}

/-- A mode is used exactly when its memory is intact. -/
theorem readFreed_eq_ok_iff {n : ℕ} {mode mode' : XRRModeInfo} :
    readFreed calls n mode = .ok mode' ↔ calls.isIntact n = true ∧ mode' = mode := by
  rw [readFreed]
  split_ifs with h <;> simp [h, eq_comm]

/-- **What the deletion of a mode does**, if its search does not fail and the mode is not shown. -/
theorem deleteMode_eq_ok_iff {n : ℕ} {mode : XRRModeInfo} (hmode : server.config.mode ≠ mode.id) :
    deleteMode calls server n mode = .ok server' ↔ server.IsSearched calls n server.config.outputs ∧
      server' = { server with modes := server.modes.remove server.selectedOutput mode.id } := by
  rw [deleteMode, bind_eq_ok_iff]
  constructor
  · rintro ⟨found, hfound, hresult⟩
    obtain ⟨hsearched, rfl⟩ := RandRServer.getConnectedOutput_eq_ok_iff.mp hfound
    exact ⟨hsearched, (Except.ok.inj hresult).symm.trans (RandRServer.destroyMode_eq hmode _)⟩
  · rintro ⟨hsearched, rfl⟩
    refine ⟨_, RandRServer.getConnectedOutput_eq_ok_iff.mpr ⟨hsearched, rfl⟩, ?_⟩
    exact congrArg Except.ok (RandRServer.destroyMode_eq hmode _)

/-- What the deletion of some modes does, which are not shown. The search finds the same output for
each. -/
theorem deleteModes_eq_ok_iff {modes : List XRRModeInfo} :
    ∀ {server : RandRServer} {n : ℕ}, (∀ mode ∈ modes, server.config.mode ≠ mode.id) →
      (deleteModes calls server n modes = .ok server' ↔
        (∀ i < modes.length, server.IsSearched calls (n + i) server.config.outputs) ∧
          server' = { server with modes := server.modes.removeAll server.selectedOutput modes }) := by
  induction modes with
  | nil =>
      intro server n _
      simp [deleteModes, RandRModes.removeAll, eq_comm]
  | cons mode modes ih =>
      intro server n hmodes
      rw [List.forall_mem_cons] at hmodes
      rw [deleteModes, bind_eq_ok_iff, List.length_cons, Nat.forall_lt_succ_left, Nat.add_zero,
        and_assoc]
      simp only [deleteMode_eq_ok_iff hmodes.1, and_assoc, exists_and_left, exists_eq_left]
      refine and_congr_right fun _ => ?_
      have hrest := @ih { server with modes := server.modes.remove server.selectedOutput mode.id } (n + 1)
        hmodes.2
      simp only [Nat.add_assoc, Nat.add_comm 1] at hrest
      exact hrest

end ScreenResize

/-! ## A mode that is set -/

namespace RandRServer

/-- The server when an output shows a mode. -/
def withMode (server : RandRServer) (output : UInt32) (mode : XRRModeInfo) : RandRServer :=
  { server with
    screenWidth := mode.width.toInt32
    screenHeight := mode.height.toInt32
    config := ⟨0, 0, mode.id, 1, [output]⟩ }

/-- The configuration after the calls that go back to the one before, as far as they succeed. -/
def revertedConfig (calls : RandRCalls) (server : RandRServer) : XRRCrtcInfo :=
  if calls.setCrtcConfig 3 then server.config
  else if calls.setCrtcConfig 0 || calls.setCrtcConfig 2 then .disabled
  else server.config

variable {calls : RandRCalls} {server : RandRServer} {output : UInt32}

/-- When the calls succeed, nothing has changed. -/
theorem revertedConfig_eq (h : calls.setCrtcConfig 3 = true) :
    revertedConfig calls server = server.config := if_pos h

/-- A mode that is not shown is not shown when the server goes back. -/
theorem revertedConfig_mode_ne {id : UInt32} (hid : id ≠ 0) (hshown : server.config.mode ≠ id) :
    (revertedConfig calls server).mode ≠ id := by
  rw [revertedConfig]
  split_ifs
  exacts [hshown, hid.symm, hshown]

/-- The output that is chosen is one of the server. -/
theorem mem_of_selectedOutput (h : server.selectedOutput = some output) :
    output ∈ server.outputs := by
  rw [selectedOutput, Option.or_eq_some_iff] at h
  exact h.elim List.mem_of_find?_eq_some fun h => List.mem_of_head? h.2

/-- **The output that was chosen is chosen again** when it shows a mode. -/
theorem selectedOutput_withMode (h : server.selectedOutput = some output) (mode : XRRModeInfo) :
    (server.withMode output mode).selectedOutput = some output := by
  have husable (other : UInt32) : (server.withMode output mode).isUsable [output] other =
      (server.isConnected other && decide (other = output)) := by
    simp [isUsable, withMode]
  rw [selectedOutput]
  change (server.outputs.find? _).or server.outputs.head? = _
  cases hconnected : server.isConnected output with
  | true =>
      -- it is the only one that is connected and shows something
      have hsome : (server.outputs.find?
          ((server.withMode output mode).isUsable [output])).isSome := by
        rw [List.find?_isSome]
        exact ⟨output, mem_of_selectedOutput h, by simp [husable, hconnected]⟩
      obtain ⟨found, hfound⟩ := Option.isSome_iff_exists.mp hsome
      have hsame := List.find?_some hfound
      rw [husable, Bool.and_eq_true, decide_eq_true_eq] at hsame
      exact Option.or_eq_some_iff.mpr (.inl (hsame.2 ▸ hfound))
  | false =>
      -- it was the first one of all, and still is
      have hnone : server.outputs.find? ((server.withMode output mode).isUsable [output]) = none := by
        refine List.find?_eq_none.mpr fun other _ hother => ?_
        rw [husable, Bool.and_eq_true, decide_eq_true_eq] at hother
        rw [← hother.2, hother.1] at hconnected
        cases hconnected
      rw [selectedOutput, Option.or_eq_some_iff] at h
      refine Option.or_eq_some_iff.mpr (.inr ⟨hnone, (h.resolve_left fun hfound => ?_).2⟩)
      have husable := List.find?_some hfound
      rw [isUsable, hconnected, Bool.false_and] at husable
      cases husable

end RandRServer

namespace ScreenResize

variable {calls : RandRCalls} {server server' : RandRServer}

/-- **What happens when a mode is set**: the output needs a description and the CRTC, the mode has to be
intact, and if the CRTC cannot be configured, the server goes back. -/
theorem setOutputToMode_eq (output : UInt32) (mode : XRRModeInfo) :
    setOutputToMode calls server output mode server.screenWidth server.screenHeight =
      if calls.outputInfo 1 output then
        readFreed calls 1 mode >>= fun mode =>
          if output ∈ server.config.outputs then
            if calls.setCrtcConfig 0 && calls.setCrtcConfig 1 then
              .ok (true, server.withMode output mode)
            else .ok (false, { server with config := server.revertedConfig calls })
          else .error .nullDereference
      else .ok (false, server) := by
  rw [setOutputToMode, RandRServer.query]
  dsimp only
  by_cases hdescribed : calls.outputInfo 1 output = true
  · rw [if_pos hdescribed, if_pos hdescribed]
    dsimp only
    refine congrArg (readFreed calls 1 mode >>= ·) (funext fun mode => ?_)
    by_cases hshown : output ∈ server.config.outputs
    · rw [if_pos hshown, if_pos hshown, RandRServer.revertedConfig]
      -- which of the four requests X accepts, those to go back included
      cases h0 : calls.setCrtcConfig 0 <;> cases h1 : calls.setCrtcConfig 1 <;>
        cases h2 : calls.setCrtcConfig 2 <;> cases h3 : calls.setCrtcConfig 3 <;>
        simp [RandRServer.setCrtcConfig, RandRServer.getCrtcInfo, revert, RandRServer.setScreenSize,
          RandRServer.withMode, Except.map, pure, Except.pure, h0, h1, h2, h3]
    · rw [if_neg hshown, if_neg hshown]
      simp [RandRServer.setCrtcConfig, RandRServer.getCrtcInfo, revert, Except.map,
        server.crtc_ne_zero.symm]
  · rw [if_neg hdescribed, if_neg hdescribed]

end ScreenResize

namespace RandRServer

variable (calls : RandRCalls) (server : RandRServer)

/-- The server gives the descriptions that are used when a mode is set in an output: the output has the
CRTC, and the outputs are described for each mode that is deleted. The mode is intact when it is used,
and the modes that are deleted are those of no other output. -/
def AnswersSetMode (output : UInt32) (isRead : Bool) (old : List XRRModeInfo) (isCreated : Bool) :
    Prop :=
  if calls.outputInfo 1 output then
    calls.isIntact 1 = true ∧ output ∈ server.config.outputs ∧
      if calls.setCrtcConfig 0 && calls.setCrtcConfig 1 then
        (isRead = true → calls.isIntact 2 = true) ∧
          (∀ i < old.length, server.IsSearched calls (2 + i) [output]) ∧
          ∀ mode ∈ old, ¬ server.modes.UsedElsewhere (some output) mode.id
      else isCreated = true →
        calls.isIntact 3 = true ∧ server.IsSearched calls 2 (server.revertedConfig calls).outputs
  else isCreated = true →
    calls.isIntact 3 = true ∧ server.IsSearched calls 2 server.config.outputs

/-- The screen has a size, on a mode that the CRTC shows, and no other mode of the engine is left. -/
structure Resized (width height : Int32) : Prop where
  screenWidth : server.screenWidth = width
  screenHeight : server.screenHeight = height
  active : ∃ mode ∈ server.modes.modes, mode.id = server.config.mode ∧
    mode.width = width.toUInt32 ∧ mode.height = height.toUInt32
  noOther : ∀ mode ∈ server.modes.modes, ScreenResize.isNamed mode = true →
    mode.id = server.config.mode

end RandRServer

/-- The mode could not be set, and the calls that go back to the one before did not both succeed. -/
def RandRCalls.RestoringFails (calls : RandRCalls) : Prop :=
  (calls.setCrtcConfig 0 && calls.setCrtcConfig 1) = false ∧
    (calls.setCrtcConfig 2 && calls.setCrtcConfig 3) = false

namespace ScreenResize

variable {calls : RandRCalls} {server server' : RandRServer}

/-- The size is changed completely, or the server is one from before unless it could not be restored; and
in any case, nothing stops the engine. -/
def Completes (calls : RandRCalls) (before : RandRServer) (width height : Int32)
    (result : Except Fault RandRServer) : Prop :=
  ∃ server', result = .ok server' ∧
    (server'.Resized width height ∨ server' = before ∨ calls.RestoringFails)

/-- Nothing is completed when the engine is stopped. -/
theorem not_completes_error {before : RandRServer} {width height : Int32} (fault : Fault) :
    ¬ Completes calls before width height (.error fault) := by
  rintro ⟨server', h, -⟩
  cases h

/-- What uses a mode is completed when the mode is intact. -/
theorem completes_readFreed_iff {n : ℕ} {mode : XRRModeInfo} {before : RandRServer}
    {width height : Int32} {use : XRRModeInfo → Except Fault RandRServer} :
    Completes calls before width height (readFreed calls n mode >>= use) ↔
      calls.isIntact n = true ∧ Completes calls before width height (use mode) := by
  rw [readFreed]
  split_ifs with hintact
  · rw [and_iff_right hintact]
    rfl
  · exact iff_of_false (not_completes_error _) fun h => hintact h.1

/-- A mode that was created is deleted again when it can be read and its output is found. -/
theorem deleteCreated_eq_ok_iff {mode : XRRModeInfo} {isCreated : Bool}
    (hmode : isCreated = true → server.config.mode ≠ mode.id) :
    deleteCreated calls server mode isCreated = .ok server' ↔
      (isCreated = true → calls.isIntact 3 = true ∧ server.IsSearched calls 2 server.config.outputs) ∧
        server' = if isCreated then
            { server with modes := server.modes.remove server.selectedOutput mode.id }
          else server := by
  cases isCreated with
  | true =>
      rw [deleteCreated, if_pos rfl, imp_iff_right rfl, if_pos rfl, bind_eq_ok_iff, and_assoc,
        ← deleteMode_eq_ok_iff (hmode rfl)]
      constructor
      · rintro ⟨mode', hmode', h⟩
        obtain ⟨hintact, rfl⟩ := readFreed_eq_ok_iff.mp hmode'
        exact ⟨hintact, h⟩
      · rintro ⟨hintact, h⟩
        exact ⟨mode, readFreed_eq_ok_iff.mpr ⟨hintact, rfl⟩, h⟩
  | false =>
      rw [and_iff_right fun h => absurd h Bool.false_ne_true]
      exact ⟨fun h => (Except.ok.inj h).symm, fun h => congrArg Except.ok h.symm⟩

/-- What happens to a mode: it is set and the old ones are deleted, or it is not needed any more. -/
theorem setMode_eq (output : UInt32) (mode : XRRModeInfo) (isCreated : Bool) :
    setMode calls server output mode isCreated server.screenWidth server.screenHeight =
      if calls.outputInfo 1 output then
        readFreed calls 1 mode >>= fun _ =>
          if output ∈ server.config.outputs then
            if calls.setCrtcConfig 0 && calls.setCrtcConfig 1 then
              cleanupModes calls (server.withMode output mode) mode
            else deleteCreated calls { server with config := server.revertedConfig calls } mode isCreated
          else .error .nullDereference
      else deleteCreated calls server mode isCreated := by
  rw [setMode, setOutputToMode_eq]
  by_cases hdescribed : calls.outputInfo 1 output = true
  · rw [if_pos hdescribed, if_pos hdescribed, readFreed]
    by_cases hintact : calls.isIntact 1 = true
    · rw [if_pos hintact]
      change (if output ∈ server.config.outputs then _ else _) >>= _ =
        if output ∈ server.config.outputs then _ else _
      by_cases hshown : output ∈ server.config.outputs
      · rw [if_pos hshown, if_pos hshown]
        by_cases hset : (calls.setCrtcConfig 0 && calls.setCrtcConfig 1) = true
        · rw [if_pos hset, if_pos hset]
          rfl
        · rw [if_neg hset, if_neg hset]
          rfl
      · rw [if_neg hshown, if_neg hshown]
        rfl
    · rw [if_neg hintact]
      rfl
  · rw [if_neg hdescribed, if_neg hdescribed]
    rfl

/-- The current mode has to be intact when there is a mode with such a name. -/
theorem readCurrent_eq_ok_iff {mode mode' : XRRModeInfo} :
    readCurrent calls server mode = .ok mode' ↔
      (server.modes.modes.any isNamed = true → calls.isIntact 2 = true) ∧ mode' = mode := by
  rw [readCurrent]
  split_ifs with hnamed
  · rw [readFreed_eq_ok_iff, imp_iff_right hnamed]
  · rw [and_iff_right fun h => absurd h hnamed]
    exact ⟨fun h => (Except.ok.inj h).symm, fun h => h ▸ rfl⟩

/-- What is left when an output shows a mode and the old ones are deleted. -/
theorem cleanupModes_eq_ok_iff {output : UInt32} {mode : XRRModeInfo}
    (hselected : server.selectedOutput = some output) :
    cleanupModes calls (server.withMode output mode) mode = .ok server' ↔
      (server.modes.modes.any isNamed = true → calls.isIntact 2 = true) ∧
        (∀ i < (server.modes.modes.filter (isOldMode mode.id)).length,
          server.IsSearched calls (2 + i) [output]) ∧
        server' = { server.withMode output mode with
          modes := server.modes.removeAll (some output)
            (server.modes.modes.filter (isOldMode mode.id)) } := by
  -- the modes that are deleted are not the one that is shown
  have hold : ∀ old ∈ server.modes.modes.filter (isOldMode mode.id),
      (server.withMode output mode).config.mode ≠ old.id := by
    intro old hold
    have hne := (Bool.and_eq_true _ _ ▸ (List.mem_filter.mp hold).2).2
    exact fun h => of_decide_eq_true hne h.symm
  have hdelete := @deleteModes_eq_ok_iff calls server' _ (server.withMode output mode) 2 hold
  rw [RandRServer.selectedOutput_withMode hselected] at hdelete
  rw [cleanupModes, bind_eq_ok_iff]
  constructor
  · rintro ⟨mode', hmode', h⟩
    obtain ⟨hread, rfl⟩ := readCurrent_eq_ok_iff.mp hmode'
    exact ⟨hread, hdelete.mp h⟩
  · rintro ⟨hread, h⟩
    exact ⟨mode, readCurrent_eq_ok_iff.mpr ⟨hread, rfl⟩, hdelete.mpr h⟩

/-- After the old modes are deleted, the mode that is shown is the only one of the engine, unless another
output has one of them. -/
theorem resized_removeAll_iff {output : UInt32} {mode : XRRModeInfo} {width height : Int32}
    (hmode : mode ∈ server.modes.modes) (hwidth : mode.width = width.toUInt32)
    (hheight : mode.height = height.toUInt32) :
    ({ server.withMode output mode with
        modes := server.modes.removeAll (some output)
          (server.modes.modes.filter (isOldMode mode.id)) } : RandRServer).Resized width height ↔
      ∀ old ∈ server.modes.modes.filter (isOldMode mode.id),
        ¬ server.modes.UsedElsewhere (some output) old.id := by
  have hold {other : XRRModeInfo} (hother : other ∈ server.modes.modes) :
      other ∈ server.modes.modes.filter (isOldMode mode.id) ↔
        isNamed other = true ∧ other.id ≠ mode.id := by
    rw [List.mem_filter, and_iff_right hother, isOldMode, Bool.and_eq_true, decide_eq_true_eq]
  constructor
  · -- a mode that another output has is left
    intro h old hmem hused
    have hknown := List.mem_of_mem_filter hmem
    obtain ⟨hnamed, hne⟩ := (hold hknown).mp hmem
    refine hne (h.noOther old (RandRModes.mem_removeAll.mpr ⟨hknown, fun other _ hsame => ?_⟩) hnamed)
    exact hsame ▸ hused
  · intro hunused
    refine ⟨?_, ?_, ⟨mode, ?_, rfl, hwidth, hheight⟩, fun other hother hname => ?_⟩
    · exact (congrArg UInt32.toInt32 hwidth).trans (Int32.toInt32_toUInt32 width)
    · exact (congrArg UInt32.toInt32 hheight).trans (Int32.toInt32_toUInt32 height)
    · refine RandRModes.mem_removeAll.mpr ⟨hmode, fun other hother hsame => ?_⟩
      exact absurd hsame.symm ((hold (List.mem_of_mem_filter hother)).mp hother).2
    · obtain ⟨hother, hleft⟩ := RandRModes.mem_removeAll.mp hother
      by_contra hne
      have hmem := (hold hother).mpr ⟨hname, hne⟩
      exact hunused other hmem (hleft other hmem rfl)

/-- A mode that could not be set is removed if it was created, so that the server is the one from before
when it could be restored. -/
theorem completes_deleteCreated_iff {config : XRRCrtcInfo} {output : UInt32} {mode : XRRModeInfo}
    {isCreated : Bool} {width height : Int32} {before : RandRServer}
    (hselected : server.selectedOutput = some output)
    (hmode : isCreated = true → config.mode ≠ mode.id)
    (hbefore : (if isCreated then { server with modes := server.modes.remove (some output) mode.id }
      else server) = before)
    (hconfig : config = server.config ∨ calls.RestoringFails) :
    Completes calls before width height
        (deleteCreated calls { server with config := config } mode isCreated) ↔
      (isCreated = true → calls.isIntact 3 = true ∧ server.IsSearched calls 2 config.outputs) := by
  have hdelete {server'} :=
    @deleteCreated_eq_ok_iff calls { server with config := config } server' mode isCreated hmode
  constructor
  · rintro ⟨server', hserver, -⟩
    exact (hdelete.mp hserver).1
  · intro h
    refine ⟨_, hdelete.mpr ⟨h, rfl⟩, .inr (hconfig.imp_left ?_)⟩
    rintro rfl
    rw [← hbefore, ← hselected]

/-- Once a mode is shown, the old ones are deleted exactly when what is used is given and no other output
has them: the screen has another size, so that the server is not the one from before. -/
theorem completes_cleanupModes_iff {output : UInt32} {mode : XRRModeInfo} {width height : Int32}
    {before : RandRServer} (hselected : server.selectedOutput = some output)
    (hmem : mode ∈ server.modes.modes) (hwidth : mode.width = width.toUInt32)
    (hheight : mode.height = height.toUInt32)
    (hsize : ¬ (width = before.screenWidth ∧ height = before.screenHeight))
    (hset : (calls.setCrtcConfig 0 && calls.setCrtcConfig 1) = true) :
    Completes calls before width height (cleanupModes calls (server.withMode output mode) mode) ↔
      (server.modes.modes.any isNamed = true → calls.isIntact 2 = true) ∧
        (∀ i < (server.modes.modes.filter (isOldMode mode.id)).length,
          server.IsSearched calls (2 + i) [output]) ∧
        ∀ old ∈ server.modes.modes.filter (isOldMode mode.id),
          ¬ server.modes.UsedElsewhere (some output) old.id := by
  rw [← resized_removeAll_iff hmem hwidth hheight]
  constructor
  · rintro ⟨server', h, hdone⟩
    obtain ⟨hread, hsearched, rfl⟩ := (cleanupModes_eq_ok_iff hselected).mp h
    refine ⟨hread, hsearched, hdone.resolve_right ?_⟩
    rintro (hsame | hfails)
    · refine hsize ⟨?_, ?_⟩
      · rw [← Int32.toInt32_toUInt32 width, ← hwidth]
        exact congrArg RandRServer.screenWidth hsame
      · rw [← Int32.toInt32_toUInt32 height, ← hheight]
        exact congrArg RandRServer.screenHeight hsame
    · exact absurd hset (Bool.eq_false_iff.mp hfails.1)
  · rintro ⟨hread, hsearched, hresized⟩
    exact ⟨_, (cleanupModes_eq_ok_iff hselected).mpr ⟨hread, hsearched, rfl⟩, .inl hresized⟩

/-- **All or nothing**: a mode is set and the others are deleted, or the server is what it was, without
the mode if it was created; exactly when what is used is given. -/
theorem completes_setMode_iff {output : UInt32} {mode : XRRModeInfo} {isCreated : Bool}
    {width height : Int32} {before : RandRServer} (hselected : server.selectedOutput = some output)
    (hmem : mode ∈ server.modes.modes) (hwidth : mode.width = width.toUInt32)
    (hheight : mode.height = height.toUInt32) (hmode : isCreated = true → server.config.mode ≠ mode.id)
    (hbefore : (if isCreated then { server with modes := server.modes.remove (some output) mode.id }
      else server) = before)
    (hsize : ¬ (width = server.screenWidth ∧ height = server.screenHeight)) :
    Completes calls before width height
        (setMode calls server output mode isCreated server.screenWidth server.screenHeight) ↔
      server.AnswersSetMode calls output (server.modes.modes.any isNamed)
        (server.modes.modes.filter (isOldMode mode.id)) isCreated := by
  rw [setMode_eq, RandRServer.AnswersSetMode]
  by_cases hdescribed : calls.outputInfo 1 output = true
  swap
  · rw [if_neg hdescribed, if_neg hdescribed]
    exact completes_deleteCreated_iff hselected hmode hbefore (.inl rfl)
  rw [if_pos hdescribed, if_pos hdescribed, completes_readFreed_iff]
  refine and_congr_right fun _ => ?_
  by_cases hshown : output ∈ server.config.outputs
  swap
  · rw [if_neg hshown]
    exact iff_of_false (not_completes_error _) fun h => hshown h.1
  rw [if_pos hshown, and_iff_right hshown]
  by_cases hset : (calls.setCrtcConfig 0 && calls.setCrtcConfig 1) = true
  · rw [if_pos hset, if_pos hset]
    have hbefore' : before.screenWidth = server.screenWidth ∧
        before.screenHeight = server.screenHeight := by
      rw [← hbefore]
      split_ifs <;> exact ⟨rfl, rfl⟩
    rw [← hbefore'.1, ← hbefore'.2] at hsize
    exact completes_cleanupModes_iff hselected hmem hwidth hheight hsize hset
  · rw [if_neg hset, if_neg hset]
    refine completes_deleteCreated_iff hselected (fun hcreated => ?_) hbefore ?_
    · exact RandRServer.revertedConfig_mode_ne (server.modes.id_ne_zero mode hmem) (hmode hcreated)
    · -- the last call of those that go back brings the configuration back
      cases hlast : calls.setCrtcConfig 3 with
      | true => exact .inl (RandRServer.revertedConfig_eq hlast)
      | false => exact .inr ⟨Bool.eq_false_iff.mpr hset, by rw [hlast, Bool.and_false]⟩

/-! ## A mode that is created -/

/-- The name of a mode that is created ends as those of the engine do. -/
theorem isSuffixOf_modeName (width height : Int32) :
    (ascii "_webx").isSuffixOf (modeName width height) = true := by
  rw [List.isSuffixOf_iff_suffix]
  exact ⟨ascii (toString width.toInt ++ "x" ++ toString height.toInt), by simp [modeName, ascii]⟩

/-- **A mode that is created** is a mode of the size, and removing it undoes what was done for it. -/
theorem createMode_spec {id : UInt32} (hid : calls.createMode = some id)
    (hnew : server.IsNewMode id) (output : UInt32) (width height : Int32) :
    ∃ mode created, createMode calls server width height = .ok (some mode, created) ∧
      mode.id = id ∧ mode.width = width.toUInt32 ∧ mode.height = height.toUInt32 ∧
      isNamed mode = true ∧ created.modes.modes = server.modes.modes ++ [mode] ∧
      ∃ modes, created.addOutputMode calls output id = { server with modes := modes } ∧
        modes.modes = created.modes.modes ∧ modes.remove (some output) id = server.modes ∧
        ∀ other, modes.UsedElsewhere (some output) other ↔
          server.modes.UsedElsewhere (some output) other := by
  let name := modeName width height
  let mode : XRRModeInfo := ⟨id, width.toUInt32, height.toUInt32, name⟩
  let created : RandRServer := { server with modes := server.modes.create mode hnew.1 }
  have hcreated : server.createMode calls width.toUInt32 height.toUInt32 name = (id, created) := by
    rw [RandRServer.createMode, hid]
    exact dif_pos hnew
  -- the new mode is found by its identifier, which no other mode has
  have hfind : created.modes.modes.find? (fun mode => mode.id = id) = some mode := by
    change (server.modes.modes ++ [mode]).find? _ = _
    rw [List.find?_append, List.find?_eq_none.mpr fun other hother => by simpa using hnew.1.2 other hother]
    simp [mode]
  refine ⟨mode, created, ?_, rfl, rfl, rfl, isSuffixOf_modeName width height, rfl, ?_⟩
  · rw [createMode, hcreated]
    change Except.ok (created.modes.modes.find? _, created) = _
    rw [hfind]
  · have hremove := @RandRModes.remove_create _ mode hnew.1 (some output)
    rw [RandRServer.addOutputMode]
    split_ifs with hadd
    · refine ⟨_, rfl, ?_, (RandRModes.remove_addOutputMode output id).trans hremove, fun other => ?_⟩
      · rw [RandRModes.addOutputMode]
        split_ifs <;> rfl
      · exact RandRModes.usedElsewhere_addOutputMode_iff
    · exact ⟨_, rfl, rfl, hremove, fun other => Iff.rfl⟩

/-- A mode that cannot be created is not found. -/
theorem createMode_eq_none (h : ∀ id, calls.createMode = some id → ¬ server.IsNewMode id)
    (width height : Int32) : createMode calls server width height = .ok (none, server) := by
  have hcreated (name : List UInt8) :
      server.createMode calls width.toUInt32 height.toUInt32 name = (0, server) := by
    rw [RandRServer.createMode]
    cases hid : calls.createMode with
    | none => rfl
    | some id => exact dif_neg (h id hid)
  have hfind : server.modes.modes.find? (fun mode => mode.id = 0) = none :=
    List.find?_eq_none.mpr fun mode hmode => by simpa using server.modes.id_ne_zero mode hmode
  rw [createMode, hcreated]
  change Except.ok (server.modes.modes.find? _, server) = _
  rw [hfind]

end ScreenResize

/-! ## The size of the screen -/

namespace RandRServer

variable (calls : RandRCalls) (server : RandRServer)

/-- The first mode of a size. -/
def matchingMode (width height : Int32) : Option XRRModeInfo :=
  server.modes.modes.find? fun mode => mode.width = width.toUInt32 && mode.height = height.toUInt32

/-- The server gives what is used to change the size in an output: the mode can be created if there is
none, and set. -/
def AnswersSelectMode (output : UInt32) (width height : Int32) : Prop :=
  match server.matchingMode width height with
  | some mode =>
      server.AnswersSetMode calls output (server.modes.modes.any ScreenResize.isNamed)
        (server.modes.modes.filter (ScreenResize.isOldMode mode.id)) false
  | none =>
      (∃ id, calls.createMode = some id ∧ server.IsNewMode id) ∧ calls.isIntact 0 = true ∧
        server.AnswersSetMode calls output true
          (server.modes.modes.filter (ScreenResize.isOldMode 0)) true

/-- The server gives what is used to change the size: the outputs are described, and the mode can be
created and set in the output that is chosen. -/
def AnswersResize (width height : Int32) : Prop :=
  server.IsSearched calls 0 server.config.outputs ∧
    ∀ output, server.selectedOutput = some output →
      server.AnswersSelectMode calls output width height

end RandRServer

namespace ScreenResize

variable {calls : RandRCalls} {server server' : RandRServer}

/-- The mode is the one of the size, or the one that is created. -/
theorem selectMode_eq (output : UInt32) (width height : Int32) :
    selectMode calls server output width height =
      match server.matchingMode width height with
      | some mode => setMode calls server output mode false server.screenWidth server.screenHeight
      | none =>
          createMode calls server width height >>= fun created =>
            match created.1 with
            | none => .error .nullDereference
            | some mode =>
                readFreed calls 0 mode >>= fun mode =>
                  setMode calls (created.2.addOutputMode calls output mode.id) output mode true
                    server.screenWidth server.screenHeight := rfl

/-- **When a size can be set**: the mode can be created and set. -/
theorem completes_selectMode_iff {output : UInt32} {width height : Int32}
    (hselected : server.selectedOutput = some output)
    (hsize : ¬ (width = server.screenWidth ∧ height = server.screenHeight)) :
    Completes calls server width height (selectMode calls server output width height) ↔
      server.AnswersSelectMode calls output width height := by
  rw [selectMode_eq, RandRServer.AnswersSelectMode]
  cases hmatching : server.matchingMode width height with
  | some mode =>
      have hmode := List.find?_some hmatching
      rw [Bool.and_eq_true, decide_eq_true_eq, decide_eq_true_eq] at hmode
      exact completes_setMode_iff hselected (List.mem_of_find?_eq_some hmatching) hmode.1 hmode.2
        (fun h => by cases h) rfl hsize
  | none =>
      dsimp only
      by_cases hcreated : ∃ id, calls.createMode = some id ∧ server.IsNewMode id
      swap
      · rw [createMode_eq_none fun id hid hnew => hcreated ⟨id, hid, hnew⟩]
        exact iff_of_false (not_completes_error _) fun h => hcreated h.1
      obtain ⟨id, hid, hnew⟩ := hcreated
      obtain ⟨mode, created, hmode, rfl, hwidth, hheight, hnamed, hcreated, modes, hadded, hmodes, hremove,
        hused⟩ := createMode_spec hid hnew output width height
      rw [hmode, and_iff_right ⟨_, hid, hnew⟩]
      change Completes _ _ _ _ (readFreed calls 0 mode >>= fun mode => setMode calls
        (created.addOutputMode calls output mode.id) output mode true server.screenWidth
          server.screenHeight) ↔ _
      rw [completes_readFreed_iff, hadded]
      refine and_congr_right fun _ => ?_
      have hmem : mode ∈ modes.modes := hmodes ▸ hcreated ▸ List.mem_concat_self
      refine (@completes_setMode_iff calls { server with modes := modes } output mode true width height
        server hselected hmem hwidth hheight (fun _ => hnew.2) ?_ hsize).trans ?_
      · rw [if_pos rfl]
        exact congrArg (fun modes => { server with modes := modes }) hremove
      -- the modes to delete are those of the engine that were there before
      have hold : modes.modes.filter (isOldMode mode.id) =
          server.modes.modes.filter (isOldMode 0) := by
        have hself : isOldMode mode.id mode = false := by simp [isOldMode]
        rw [hmodes, hcreated, List.filter_append, List.filter_singleton, hself, cond_false,
          List.append_nil]
        refine List.filter_congr fun other hother => ?_
        rw [isOldMode, isOldMode, decide_eq_true (hnew.1.2 other hother),
          decide_eq_true (server.modes.id_ne_zero other hother)]
      have hany : modes.modes.any isNamed = true := List.any_eq_true.mpr ⟨mode, hmem, hnamed⟩
      rw [hold, hany, RandRServer.AnswersSetMode, RandRServer.AnswersSetMode]
      simp only [hused]
      rfl

/-- The size is changed completely, or nothing is changed when the calls that go back succeed; and in any
case, no null object is used, and no mode that is not there any more. -/
def AllOrNothing (calls : RandRCalls) (server : RandRServer)
    (requestedWidth requestedHeight : UInt32) : Prop :=
  Completes calls server (WebXRandR.clampSize requestedWidth server.minWidth server.maxWidth)
    (WebXRandR.clampSize requestedHeight server.minHeight server.maxHeight)
    (resizeScreen calls server requestedWidth requestedHeight)

/-- **The size is changed completely or not at all** exactly when the screen has it already or the server
gives what is used: a mode that cannot be created, an output without description and one without CRTC are
not expected, nor are memory that is used again and an old mode of another output. -/
theorem allOrNothing_iff (calls : RandRCalls) (server : RandRServer)
    (requestedWidth requestedHeight : UInt32) :
    let width := WebXRandR.clampSize requestedWidth server.minWidth server.maxWidth
    let height := WebXRandR.clampSize requestedHeight server.minHeight server.maxHeight
    AllOrNothing calls server requestedWidth requestedHeight ↔
      (width = server.screenWidth ∧ height = server.screenHeight) ∨
        server.AnswersResize calls width height := by
  intro width height
  rw [AllOrNothing, resizeScreen]
  by_cases hsame : width = server.screenWidth ∧ height = server.screenHeight
  · rw [if_pos hsame]
    -- the screen has the size already: nothing is called
    exact iff_of_true ⟨server, rfl, .inr (.inl rfl)⟩ (.inl hsame)
  rw [if_neg hsame, or_iff_right hsame, RandRServer.AnswersResize]
  constructor
  · rintro ⟨server', h, hdone⟩
    obtain ⟨found, hfound, hselect⟩ := bind_eq_ok_iff.mp h
    obtain ⟨hsearched, rfl⟩ := RandRServer.getConnectedOutput_eq_ok_iff.mp hfound
    refine ⟨hsearched, fun output houtput => ?_⟩
    rw [houtput] at hselect
    exact (completes_selectMode_iff houtput hsame).mp ⟨server', hselect, hdone⟩
  · rintro ⟨hsearched, hselect⟩
    have hfound := RandRServer.getConnectedOutput_eq_ok_iff.mpr ⟨hsearched, rfl⟩
    cases houtput : server.selectedOutput with
    | none =>
        -- no output is connected: the server stays as it is
        refine ⟨server, bind_eq_ok_iff.mpr ⟨_, hfound, ?_⟩, .inr (.inl rfl)⟩
        rw [houtput]
        rfl
    | some output =>
        -- a call that fails leads back to the old mode, as `completes_setMode_iff` says
        obtain ⟨server', h, hdone⟩ :=
          (completes_selectMode_iff houtput hsame).mpr (hselect output houtput)
        refine ⟨server', bind_eq_ok_iff.mpr ⟨_, hfound, ?_⟩, hdone⟩
        rw [houtput]
        exact h

/-- A server with one output, which shows its only mode. -/
def oneOutput : RandRServer where
  minWidth := 320
  minHeight := 200
  maxWidth := 8192
  maxHeight := 8192
  screenWidth := 1024
  screenHeight := 768
  outputs := [0x42]
  isConnected := fun _ => true
  modes :=
    { modes := [⟨0x47, 1024, 768, ascii "1024x768"⟩]
      outputModes := [(0x42, 0x47)]
      id_ne_zero := by simp
      known := by simp }
  crtc := 0x3F
  crtc_ne_zero := by decide
  config := ⟨0, 0, 0x47, 1, [0x42]⟩

/-- All calls succeed but the creation of a mode. -/
def noCreation : RandRCalls where
  outputInfo := fun _ _ => true
  createMode := none
  addOutputMode := true
  setCrtcConfig := fun _ => true
  isIntact := fun _ => true

/-- A mode that could not be created is used. -/
theorem not_allOrNothing :
    ¬ ∀ calls server requestedWidth requestedHeight,
      AllOrNothing calls server requestedWidth requestedHeight := by
  intro h
  obtain ⟨server', hresize, -⟩ := h noCreation oneOutput 800 600
  have hfault : resizeScreen noCreation oneOutput 800 600 = .error .nullDereference := rfl
  cases hfault.symm.trans hresize

end ScreenResize

end WebXEngine
