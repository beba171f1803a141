import WebXEngine.Display.XServer
import WebXEngine.Foundations.Numerals
import WebXEngine.Utils.Fault

/-! # The size of the screen

The engine changes the size of the screen with the RandR extension. Its queries may have no answer, which
is a null object. A mode is still used after the resources that it belongs to were freed; what is read
then may be anything.

* **`WebXRandR.resizeScreen`** — a mode of the size is looked for or created, and set.
* **`WebXRandR.canResizeScreen`** — there is a connected output.
* **`RandRAnswers.Answered`** — no query is left without an answer. -/

namespace WebXEngine

/-- A mode of the screen. -/
structure XRRModeInfo where
  id : UInt32
  width : UInt32
  height : UInt32
  name : List UInt8
  deriving DecidableEq, Repr

/-- An output, with its CRTC or 0. -/
structure XRROutputInfo where
  isConnected : Bool
  crtc : UInt32
  deriving DecidableEq, Repr

/-- The outputs and the modes. -/
structure XRRScreenResources where
  outputs : List UInt32
  modes : List XRRModeInfo
  deriving DecidableEq, Repr

/-- The answer to a query of the resources, and those to the queries of its outputs. -/
structure RandRQuery where
  resources : Option XRRScreenResources
  outputInfo : UInt32 → Option XRROutputInfo

/-- What the server answers while the size is changed: the limits of the size, the resources each time
that they are asked for, the mode that it created, whether there is a CRTC, and whether this could be
disabled and set. A mode of resources that were freed is read when it is set, and when the others are
deleted. -/
structure RandRAnswers where
  minWidth : Int32
  minHeight : Int32
  maxWidth : Int32
  maxHeight : Int32
  query : ℕ → RandRQuery
  createdMode : UInt32
  crtcInfo : Bool
  isDisabled : Bool
  isSet : Bool
  readMode : ℕ → XRRModeInfo → XRRModeInfo

namespace WebXRandR

/-- The loop over the outputs. -/
def findConnectedOutput (outputInfo : UInt32 → Option XRROutputInfo) :
    List UInt32 → Except Fault (Option UInt32)
  | [] => .ok none
  | output :: outputs =>
      match outputInfo output with
      | none => .error .nullDereference
      | some info =>
          if info.isConnected && info.crtc ≠ 0 then .ok (some output)
          else findConnectedOutput outputInfo outputs

/-- The first connected output, or the first one of all when it may be taken instead. -/
def getConnectedOutput (query : RandRQuery) (useFallback : Bool) : Except Fault (Option UInt32) :=
  match query.resources with
  | none => .error .nullDereference
  | some resources =>
      (findConnectedOutput query.outputInfo resources.outputs).map fun found =>
        if found.isNone && useFallback then resources.outputs.head? else found

/-- The screen can be resized when an output is connected. -/
def canResizeScreen (query : RandRQuery) : Except Fault Bool :=
  (getConnectedOutput query false).map Option.isSome

/-- The first mode that matches. -/
def getMatchingModeInfo (query : RandRQuery) (isMatching : XRRModeInfo → Bool) :
    Except Fault (Option XRRModeInfo) :=
  match query.resources with
  | none => .error .nullDereference
  | some resources => .ok (resources.modes.find? isMatching)

variable (answers : RandRAnswers)

/-- Sets a mode in an output, unless the output is not known any more. The CRTC is needed to go back to
the mode before. -/
def setOutputToMode (output : UInt32) : Except Fault Bool :=
  match (answers.query 3).resources with
  | none => .error .nullDereference
  | some _ =>
      match (answers.query 3).outputInfo output with
      | none => .ok false
      | some _ =>
          if answers.isDisabled && answers.isSet then .ok true
          else if answers.crtcInfo then .ok false
          else .error .nullDereference

/-- Deletes a mode, from the output as well. -/
def deleteMode (query : RandRQuery) : Except Fault Unit :=
  (getConnectedOutput query true).map fun _ => ()

/-- The loop over the modes that are deleted, each with a query of its own. -/
def deleteModes : List XRRModeInfo → ℕ → Except Fault Unit
  | [], _ => .ok ()
  | _ :: modes, n => do
      deleteMode (answers.query n)
      deleteModes modes (n + 1)

/-- Deletes the other modes that the engine created. -/
def cleanupModes (currentMode : XRRModeInfo) : Except Fault Unit :=
  match (answers.query 4).resources with
  | none => .error .nullDereference
  | some resources =>
      let isOld (mode : XRRModeInfo) : Bool :=
        (ascii "_webx").isSuffixOf mode.name && mode.id ≠ currentMode.id
      deleteModes answers (resources.modes.filter isOld) 5

/-- Sets a mode, and deletes those that are not needed any more: the others, or the one that was created
and could not be set. The result is the mode that was set. -/
def setMode (output : UInt32) (mode : XRRModeInfo) (isCreated : Bool) :
    Except Fault (Option XRRModeInfo) := do
  if ← setOutputToMode answers output then
    cleanupModes answers (answers.readMode 1 mode)
    return some (answers.readMode 0 mode)
  else if isCreated then
    deleteMode (answers.query 5)
    return none
  else
    return none

/-- Sets the mode of a size, which is created when there is none. -/
def selectMode (output : UInt32) (width height : Int32) : Except Fault (Option XRRModeInfo) := do
  let isMatching (mode : XRRModeInfo) : Bool :=
    mode.width = width.toUInt32 && mode.height = height.toUInt32
  match ← getMatchingModeInfo (answers.query 1) isMatching with
  | some mode => setMode answers output mode false
  | none =>
      match ← getMatchingModeInfo (answers.query 2) fun mode => mode.id = answers.createdMode with
      | some mode => setMode answers output mode true
      | none => .error .nullDereference

/-- A size within its limits. -/
def clampSize (requested : UInt32) (minimum maximum : Int32) : Int32 :=
  UInt32.toInt32 <|
    if requested > maximum.toUInt32 then maximum.toUInt32
    else if requested < minimum.toUInt32 then minimum.toUInt32
    else requested

/-- Changes the size of the screen, unless it has that size or no output. -/
def resizeScreen (current : XWindowAttributes) (requestedWidth requestedHeight : UInt32) :
    Except Fault (Option XRRModeInfo) := do
  let width := clampSize requestedWidth answers.minWidth answers.maxWidth
  let height := clampSize requestedHeight answers.minHeight answers.maxHeight
  if width = current.width ∧ height = current.height then
    return none
  else
    match ← getConnectedOutput (answers.query 0) true with
    | none => return none
    | some output => selectMode answers output width height

end WebXRandR

/-- The resources are there, and so are their outputs. -/
def RandRQuery.Answered (query : RandRQuery) : Prop :=
  ∃ resources, query.resources = some resources ∧
    ∀ output ∈ resources.outputs, (query.outputInfo output).isSome

/-- No query is left without an answer, and the mode that was created is found. -/
structure RandRAnswers.Answered (answers : RandRAnswers) : Prop where
  queries : ∀ n, (answers.query n).Answered
  created : ∀ resources, (answers.query 2).resources = some resources →
    ∃ mode ∈ resources.modes, mode.id = answers.createdMode
  crtcInfo : answers.crtcInfo = true

namespace WebXRandR

variable {answers : RandRAnswers} {query : RandRQuery}

/-- The search of an output ends when it knows the outputs. -/
theorem exists_findConnectedOutput {outputInfo : UInt32 → Option XRROutputInfo}
    {outputs : List UInt32} (h : ∀ output ∈ outputs, (outputInfo output).isSome) :
    ∃ found, findConnectedOutput outputInfo outputs = .ok found := by
  induction outputs with
  | nil => exact ⟨none, rfl⟩
  | cons output outputs ih =>
      rw [List.forall_mem_cons] at h
      obtain ⟨info, hinfo⟩ := Option.isSome_iff_exists.mp h.1
      rw [findConnectedOutput, hinfo]
      dsimp only
      split_ifs
      · exact ⟨some output, rfl⟩
      · exact ih h.2

/-- An output is looked for in resources that are there. -/
theorem exists_getConnectedOutput (h : query.Answered) (useFallback : Bool) :
    ∃ output, getConnectedOutput query useFallback = .ok output := by
  obtain ⟨resources, hresources, houtputs⟩ := h
  obtain ⟨found, hfound⟩ := exists_findConnectedOutput houtputs
  rw [getConnectedOutput, hresources]
  dsimp only
  rw [hfound]
  exact ⟨_, rfl⟩

/-- It is known whether the screen can be resized. -/
theorem exists_canResizeScreen (h : query.Answered) : ∃ b, canResizeScreen query = .ok b := by
  obtain ⟨output, houtput⟩ := exists_getConnectedOutput h false
  rw [canResizeScreen, houtput]
  exact ⟨_, rfl⟩

/-- A mode is deleted, of an output or of none. -/
theorem deleteMode_eq (h : query.Answered) : deleteMode query = .ok () := by
  obtain ⟨output, houtput⟩ := exists_getConnectedOutput h true
  rw [deleteMode, houtput]
  rfl

/-- All the modes are deleted, one after the other. -/
theorem deleteModes_eq (h : answers.Answered) (modes : List XRRModeInfo) :
    ∀ n, deleteModes answers modes n = .ok () := by
  induction modes with
  | nil => exact fun _ => rfl
  | cons mode modes ih =>
      intro n
      rw [deleteModes, deleteMode_eq (h.queries n)]
      exact ih (n + 1)

/-- The modes that are not used any more are looked for and deleted. -/
theorem cleanupModes_eq (h : answers.Answered) (currentMode : XRRModeInfo) :
    cleanupModes answers currentMode = .ok () := by
  obtain ⟨resources, hresources, -⟩ := h.queries 4
  rw [cleanupModes, hresources]
  exact deleteModes_eq h _ 5

/-- The mode before can be set again when there is a CRTC. -/
theorem exists_setOutputToMode (h : answers.Answered) (output : UInt32) :
    ∃ b, setOutputToMode answers output = .ok b := by
  obtain ⟨resources, hresources, -⟩ := h.queries 3
  rw [setOutputToMode, hresources]
  dsimp only
  cases (answers.query 3).outputInfo output with
  | none => exact ⟨false, rfl⟩
  | some info =>
      dsimp only
      rw [if_pos h.crtcInfo]
      split_ifs
      · exact ⟨true, rfl⟩
      · exact ⟨false, rfl⟩

/-- A mode is set, or the one before it is kept. -/
theorem exists_setMode (h : answers.Answered) (output : UInt32) (mode : XRRModeInfo)
    (isCreated : Bool) : ∃ result, setMode answers output mode isCreated = .ok result := by
  obtain ⟨isSet, hset⟩ := exists_setOutputToMode h output
  rw [setMode, hset]
  cases isSet with
  | true =>
      refine ⟨some (answers.readMode 0 mode), ?_⟩
      change (cleanupModes answers (answers.readMode 1 mode) >>= fun _ => pure _) = _
      rw [cleanupModes_eq h]
      rfl
  | false =>
      cases isCreated with
      | true =>
          refine ⟨none, ?_⟩
          change (deleteMode (answers.query 5) >>= fun _ => pure none) = _
          rw [deleteMode_eq (h.queries 5)]
          rfl
      | false => exact ⟨none, rfl⟩

/-- A mode that is created is found. -/
theorem exists_selectMode (h : answers.Answered) (output : UInt32) (width height : Int32) :
    ∃ result, selectMode answers output width height = .ok result := by
  obtain ⟨resources, hresources, -⟩ := h.queries 1
  obtain ⟨resources', hresources', -⟩ := h.queries 2
  obtain ⟨created, hcreated, hid⟩ := h.created resources' hresources'
  have hsome : (resources'.modes.find? fun mode => mode.id = answers.createdMode).isSome := by
    rw [List.find?_isSome]
    exact ⟨created, hcreated, decide_eq_true hid⟩
  obtain ⟨found, hfound⟩ := Option.isSome_iff_exists.mp hsome
  rw [selectMode, getMatchingModeInfo, hresources]
  dsimp only [bind, Except.bind]
  cases resources.modes.find? fun mode =>
      decide (mode.width = width.toUInt32) && decide (mode.height = height.toUInt32) with
  | some mode => exact exists_setMode h output mode false
  | none =>
      rw [getMatchingModeInfo, hresources']
      dsimp only
      rw [hfound]
      exact exists_setMode h output found true

/-- **The size of the screen can be changed** when all queries have an answer. -/
theorem exists_resizeScreen (h : answers.Answered) (current : XWindowAttributes)
    (requestedWidth requestedHeight : UInt32) :
    ∃ result, resizeScreen answers current requestedWidth requestedHeight = .ok result := by
  obtain ⟨output, houtput⟩ := exists_getConnectedOutput (h.queries 0) true
  rw [resizeScreen]
  split_ifs
  · exact ⟨none, rfl⟩
  · rw [houtput]
    cases output with
    | none => exact ⟨none, rfl⟩
    | some output => exact exists_selectMode h output _ _

end WebXRandR

end WebXEngine
