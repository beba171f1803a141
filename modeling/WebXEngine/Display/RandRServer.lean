import WebXEngine.Display.RandR

/-! # The RandR server

The server keeps the modes, those that were added to outputs, the size of the screen, and one CRTC with
its configuration. Some of its calls may fail, and it destroys no mode that is shown or that an output
still has.

* **`RandRServer`** — the state of the server, and **`RandRCalls`**, the calls that succeed.
* **`RandRModes.remove_create`** — a mode that is created and removed leaves nothing behind.
* **`RandRModes.mem_removeAll`** — a mode is left when another output has it.
* **`getConnectedOutput_eq_ok_iff`** — a search of the outputs gets all the descriptions that it asks for,
  or fails. -/

namespace WebXEngine

/-! ## Modes -/

/-- The configuration of a CRTC. -/
structure XRRCrtcInfo where
  x : Int32
  y : Int32
  mode : UInt32
  rotation : UInt16
  outputs : List UInt32
  deriving DecidableEq, Repr

/-- The configuration of a CRTC that is disabled. -/
def XRRCrtcInfo.disabled : XRRCrtcInfo := ⟨0, 0, 0, 1, []⟩

/-- The modes, and those that were added to outputs. Their identifiers are not 0. -/
@[ext] structure RandRModes where
  modes : List XRRModeInfo
  /-- The outputs, each with a mode that was added to it. -/
  outputModes : List (UInt32 × UInt32)
  id_ne_zero : ∀ mode ∈ modes, mode.id ≠ 0
  known : ∀ outputMode ∈ outputModes, ∃ mode ∈ modes, mode.id = outputMode.2

namespace RandRModes

/-- An identifier is new. -/
def IsNew (modes : RandRModes) (id : UInt32) : Prop := id ≠ 0 ∧ ∀ mode ∈ modes.modes, mode.id ≠ id

instance (modes : RandRModes) (id : UInt32) : Decidable (modes.IsNew id) :=
  inferInstanceAs (Decidable (_ ∧ _))

/-- Creates a mode. -/
def create (modes : RandRModes) (mode : XRRModeInfo) (h : modes.IsNew mode.id) : RandRModes where
  modes := modes.modes ++ [mode]
  outputModes := modes.outputModes
  id_ne_zero := by
    rw [List.forall_mem_append, List.forall_mem_singleton]
    exact ⟨modes.id_ne_zero, h.1⟩
  known := fun outputMode hmem => by
    obtain ⟨mode, hmode, hid⟩ := modes.known outputMode hmem
    exact ⟨mode, List.mem_append_left _ hmode, hid⟩

/-- Adds a mode that is known to an output. -/
def addOutputMode (modes : RandRModes) (output id : UInt32) : RandRModes :=
  if h : ∃ mode ∈ modes.modes, mode.id = id then
    { modes with
      outputModes := modes.outputModes ++ [(output, id)]
      known := by
        rw [List.forall_mem_append, List.forall_mem_singleton]
        exact ⟨modes.known, h⟩ }
  else modes

/-- Deletes a mode from an output. -/
def deleteOutputMode (modes : RandRModes) (output id : UInt32) : RandRModes :=
  { modes with
    outputModes := modes.outputModes.filter (· ≠ (output, id))
    known := fun outputMode hmem => modes.known outputMode (List.mem_of_mem_filter hmem) }

/-- An output has a mode. -/
def IsAdded (modes : RandRModes) (id : UInt32) : Prop :=
  ∃ outputMode ∈ modes.outputModes, outputMode.2 = id

instance (modes : RandRModes) (id : UInt32) : Decidable (modes.IsAdded id) :=
  inferInstanceAs (Decidable (∃ outputMode ∈ modes.outputModes, outputMode.2 = id))

/-- Destroys a mode that no output has. -/
def destroy (modes : RandRModes) (id : UInt32) (h : ¬ modes.IsAdded id) : RandRModes where
  modes := modes.modes.filter (·.id ≠ id)
  outputModes := modes.outputModes
  id_ne_zero := fun mode hmem => modes.id_ne_zero mode (List.mem_of_mem_filter hmem)
  known := fun outputMode hmem => by
    obtain ⟨mode, hmode, hid⟩ := modes.known outputMode hmem
    refine ⟨mode, List.mem_filter.mpr ⟨hmode, decide_eq_true fun hdestroyed => h ?_⟩, hid⟩
    exact ⟨outputMode, hmem, hid.symm.trans hdestroyed⟩

/-- Deletes a mode from the output that was found, if any. -/
def removeFrom (modes : RandRModes) (found : Option UInt32) (id : UInt32) : RandRModes :=
  match found with
  | some output => modes.deleteOutputMode output id
  | none => modes

/-- Removes a mode: it is deleted from an output, and destroyed unless another one still has it. -/
def remove (modes : RandRModes) (found : Option UInt32) (id : UInt32) : RandRModes :=
  if h : (modes.removeFrom found id).IsAdded id then modes.removeFrom found id
  else (modes.removeFrom found id).destroy id h

/-- An output has a mode, other than the one that was found. -/
def UsedElsewhere (modes : RandRModes) (found : Option UInt32) (id : UInt32) : Prop :=
  ∃ outputMode ∈ modes.outputModes, outputMode.2 = id ∧ some outputMode.1 ≠ found

variable {modes : RandRModes} {found : Option UInt32}

/-- What is left of the modes of outputs when a mode is deleted from an output. -/
theorem mem_removeFrom {id : UInt32} {outputMode : UInt32 × UInt32} :
    outputMode ∈ (modes.removeFrom found id).outputModes ↔
      outputMode ∈ modes.outputModes ∧ (outputMode.2 = id → some outputMode.1 ≠ found) := by
  cases found with
  | none => simp [removeFrom]
  | some output => simp [removeFrom, deleteOutputMode, Prod.ext_iff, imp_iff_not_or, or_comm]

/-- A mode is still added when another output has it. -/
theorem isAdded_removeFrom_iff {id : UInt32} :
    (modes.removeFrom found id).IsAdded id ↔ modes.UsedElsewhere found id := by
  refine exists_congr fun outputMode => ?_
  rw [mem_removeFrom, and_assoc]
  exact and_congr_right fun _ => ⟨fun h => ⟨h.2, h.1 h.2⟩, fun h => ⟨fun _ => h.2, h.1⟩⟩

/-- The modes of outputs do not depend on whether a mode is destroyed. -/
theorem outputModes_remove (id : UInt32) :
    (modes.remove found id).outputModes = (modes.removeFrom found id).outputModes := by
  rw [remove]
  split_ifs <;> rfl

/-- Another output has a mode, whatever is removed. -/
theorem usedElsewhere_remove_iff {id other : UInt32} :
    (modes.remove found id).UsedElsewhere found other ↔ modes.UsedElsewhere found other := by
  refine exists_congr fun outputMode => ?_
  rw [outputModes_remove, mem_removeFrom, and_assoc]
  exact and_congr_right fun _ => and_iff_right_of_imp fun h _ => h.2

/-- A mode that is removed is left when another output has it. -/
theorem mem_remove {id : UInt32} {mode : XRRModeInfo} :
    mode ∈ (modes.remove found id).modes ↔
      mode ∈ modes.modes ∧ (mode.id = id → modes.UsedElsewhere found id) := by
  have hmodes : (modes.removeFrom found id).modes = modes.modes := by
    cases found <;> rfl
  rw [remove]
  split_ifs with hadded
  · rw [hmodes]
    exact (and_iff_left fun _ => isAdded_removeFrom_iff.mp hadded).symm
  · rw [destroy, List.mem_filter, hmodes, decide_eq_true_eq]
    exact and_congr_right fun _ => imp_congr_right fun _ =>
      (iff_false_left fun h => h).mpr (isAdded_removeFrom_iff.not.mp hadded)

/-- **A mode that is created and removed leaves nothing behind.** -/
theorem remove_create {mode : XRRModeInfo} (h : modes.IsNew mode.id) (found : Option UInt32) :
    (modes.create mode h).remove found mode.id = modes := by
  -- no output has a mode that is new
  have hother (outputMode : UInt32 × UInt32) (hmem : outputMode ∈ modes.outputModes) :
      outputMode.2 ≠ mode.id := by
    obtain ⟨other, hother, hsame⟩ := modes.known outputMode hmem
    exact hsame ▸ h.2 other hother
  have hfrom : (modes.create mode h).removeFrom found mode.id = modes.create mode h := by
    cases found with
    | none => rfl
    | some output =>
        ext1
        · rfl
        · refine List.filter_eq_self.mpr fun outputMode hmem => decide_eq_true ?_
          rintro rfl
          exact hother _ hmem rfl
  have hadded : ¬ (modes.create mode h).IsAdded mode.id := by
    rintro ⟨outputMode, hmem, hid⟩
    exact hother outputMode hmem hid
  rw [remove]
  simp only [hfrom, dif_neg hadded]
  ext1
  · change (modes.modes ++ [mode]).filter _ = _
    rw [List.filter_append, List.filter_singleton, List.filter_eq_self.mpr]
    · simp
    · exact fun other hother => decide_eq_true (h.2 other hother)
  · rfl

/-- A mode that was added to the output that is found is removed from it. -/
theorem remove_addOutputMode (output id : UInt32) :
    (modes.addOutputMode output id).remove (some output) id = modes.remove (some output) id := by
  have hfrom : (modes.addOutputMode output id).removeFrom (some output) id =
      modes.removeFrom (some output) id := by
    rw [addOutputMode]
    split_ifs
    · ext1
      · rfl
      · change (modes.outputModes ++ _).filter _ = _
        rw [List.filter_append, List.filter_singleton]
        simp [removeFrom, deleteOutputMode]
    · rfl
  rw [remove, remove]
  simp only [hfrom]

/-- Another output has the same modes when a mode is added to an output. -/
theorem usedElsewhere_addOutputMode_iff {output id other : UInt32} :
    (modes.addOutputMode output id).UsedElsewhere (some output) other ↔
      modes.UsedElsewhere (some output) other := by
  rw [addOutputMode]
  split_ifs
  · refine exists_congr fun outputMode => ?_
    rw [List.mem_append, List.mem_singleton]
    refine and_congr_left fun h => or_iff_left ?_
    rintro rfl
    exact h.2 rfl
  · rfl

/-- Removes some modes. -/
def removeAll (modes : RandRModes) (found : Option UInt32) (old : List XRRModeInfo) : RandRModes :=
  old.foldl (fun modes mode => modes.remove found mode.id) modes

/-- **The modes that are left** have none of the identifiers, unless another output has them. -/
theorem mem_removeAll {old : List XRRModeInfo} {mode : XRRModeInfo} :
    ∀ {modes : RandRModes}, mode ∈ (modes.removeAll found old).modes ↔
      mode ∈ modes.modes ∧ ∀ other ∈ old, mode.id = other.id → modes.UsedElsewhere found other.id := by
  induction old with
  | nil => simp [removeAll]
  | cons other old ih =>
      intro modes
      rw [removeAll, List.foldl_cons, ← removeAll, ih, List.forall_mem_cons, mem_remove, and_assoc]
      simp only [usedElsewhere_remove_iff]

end RandRModes

/-! ## The server -/

/-- The server: the limits of the size and the size of the screen, the outputs and whether they are
connected, the modes, and the CRTC. -/
structure RandRServer where
  minWidth : Int32
  minHeight : Int32
  maxWidth : Int32
  maxHeight : Int32
  screenWidth : Int32
  screenHeight : Int32
  outputs : List UInt32
  isConnected : UInt32 → Bool
  modes : RandRModes
  crtc : UInt32
  crtc_ne_zero : crtc ≠ 0
  config : XRRCrtcInfo

/-- The calls that succeed: the descriptions of outputs, each time that outputs are searched; the creation
of a mode, with its identifier; its addition to an output; and the configurations of the CRTC, one after
the other. The mode that is set belongs to resources that were freed: for each use of it, whether its
memory is still intact. -/
structure RandRCalls where
  outputInfo : ℕ → UInt32 → Bool
  createMode : Option UInt32
  addOutputMode : Bool
  setCrtcConfig : ℕ → Bool
  isIntact : ℕ → Bool

namespace RandRServer

variable (calls : RandRCalls) (server : RandRServer)

/-- What the server answers to a query. An output has the CRTC that shows something on it. -/
def query (n : ℕ) : RandRQuery where
  resources := some ⟨server.outputs, server.modes.modes⟩
  outputInfo output :=
    if calls.outputInfo n output then
      some ⟨server.isConnected output, if output ∈ server.config.outputs then server.crtc else 0⟩
    else none

/-- An identifier is the one of no mode that is known or shown. -/
def IsNewMode (id : UInt32) : Prop := server.modes.IsNew id ∧ server.config.mode ≠ id

instance (id : UInt32) : Decidable (server.IsNewMode id) := inferInstanceAs (Decidable (_ ∧ _))

/-- Creates a mode. The result is its identifier, or 0 when it fails. -/
def createMode (width height : UInt32) (name : List UInt8) : UInt32 × RandRServer :=
  match calls.createMode with
  | none => (0, server)
  | some id =>
      if h : server.IsNewMode id then
        (id, { server with modes := server.modes.create ⟨id, width, height, name⟩ h.1 })
      else (0, server)

/-- Adds a mode to an output. -/
def addOutputMode (output id : UInt32) : RandRServer :=
  if calls.addOutputMode then { server with modes := server.modes.addOutputMode output id }
  else server

/-- Deletes a mode from an output, which must not show it. -/
def deleteOutputMode (output id : UInt32) : RandRServer :=
  if server.config.mode = id ∧ output ∈ server.config.outputs then server
  else { server with modes := server.modes.deleteOutputMode output id }

/-- Destroys a mode that is not shown and that no output has. -/
def destroyMode (id : UInt32) : RandRServer :=
  if server.config.mode = id then server
  else if h : server.modes.IsAdded id then server
  else { server with modes := server.modes.destroy id h }

/-- The configuration of a CRTC. -/
def getCrtcInfo (crtc : UInt32) : Option XRRCrtcInfo :=
  if crtc = server.crtc then some server.config else none

/-- Configures a CRTC. The result says whether it did. -/
def setCrtcConfig (n : ℕ) (crtc : UInt32) (config : XRRCrtcInfo) : Bool × RandRServer :=
  if crtc = server.crtc ∧ calls.setCrtcConfig n then (true, { server with config := config })
  else (false, server)

/-- Sets the size of the screen. -/
def setScreenSize (width height : Int32) : RandRServer :=
  { server with screenWidth := width, screenHeight := height }

end RandRServer

/-! ## Searches of outputs -/

namespace RandRServer

variable (calls : RandRCalls) (server : RandRServer)

/-- An output is connected and has the CRTC, which shows something on some outputs. -/
def isUsable (shown : List UInt32) (output : UInt32) : Bool :=
  server.isConnected output && decide (output ∈ shown)

/-- The outputs are described, up to the first one that is looked for. -/
def DescribesUpTo (isDescribed isUsable : UInt32 → Bool) : List UInt32 → Prop
  | [] => True
  | output :: outputs =>
      isDescribed output = true ∧ (isUsable output = true ∨ DescribesUpTo isDescribed isUsable outputs)

/-- A search gets all the descriptions that it asks for. -/
def IsSearched (n : ℕ) (shown : List UInt32) : Prop :=
  DescribesUpTo (calls.outputInfo n) (server.isUsable shown) server.outputs

/-- The output that is chosen: the first one that is connected and has the CRTC, or the first one. -/
def selectedOutput : Option UInt32 :=
  (server.outputs.find? (server.isUsable server.config.outputs)).or server.outputs.head?

variable {calls server}

/-- **The search for an output succeeds** when all the descriptions that it asks for are there, and
finds the first one that is usable. -/
theorem findConnectedOutput_eq_ok_iff {n : ℕ} {outputs : List UInt32} {found : Option UInt32} :
    WebXRandR.findConnectedOutput (server.query calls n).outputInfo outputs = .ok found ↔
      DescribesUpTo (calls.outputInfo n) (server.isUsable server.config.outputs) outputs ∧
        found = outputs.find? (server.isUsable server.config.outputs) := by
  induction outputs with
  | nil =>
      rw [WebXRandR.findConnectedOutput, List.find?_nil]
      exact ⟨fun h => ⟨trivial, (Except.ok.inj h).symm⟩, fun h => h.2 ▸ rfl⟩
  | cons output outputs ih =>
      -- the information of an output says if it is usable
      have husable : (server.isConnected output &&
          decide ((if output ∈ server.config.outputs then server.crtc else 0) ≠ 0)) =
            server.isUsable server.config.outputs output := by
        rw [isUsable]
        split_ifs with hshown
        · rw [decide_eq_true server.crtc_ne_zero, decide_eq_true hshown]
        · rw [decide_eq_false hshown]
          rfl
      have hinfo : (server.query calls n).outputInfo output = if calls.outputInfo n output then
          some ⟨server.isConnected output, if output ∈ server.config.outputs then server.crtc else 0⟩
        else none := rfl
      rw [WebXRandR.findConnectedOutput, DescribesUpTo, List.find?_cons, hinfo]
      cases calls.outputInfo n output with
      | false => simp
      | true =>
          rw [if_pos rfl]
          dsimp only
          rw [husable]
          cases server.isUsable server.config.outputs output with
          | true => simp [eq_comm]
          | false => simpa using ih

/-- The output that is chosen is the one that is found, or the first one. -/
theorem getConnectedOutput_eq_ok_iff {n : ℕ} {found : Option UInt32} :
    WebXRandR.getConnectedOutput (server.query calls n) true = .ok found ↔
      server.IsSearched calls n server.config.outputs ∧ found = server.selectedOutput := by
  have hfound := @findConnectedOutput_eq_ok_iff calls server n server.outputs
  rw [WebXRandR.getConnectedOutput, IsSearched, selectedOutput]
  change (WebXRandR.findConnectedOutput (server.query calls n).outputInfo server.outputs).map _ = _ ↔ _
  cases hresult : WebXRandR.findConnectedOutput (server.query calls n).outputInfo server.outputs with
  | error fault =>
      refine iff_of_false (fun h => by cases h) fun h => ?_
      have hok := hfound.mpr ⟨h.1, rfl⟩
      rw [hresult] at hok
      cases hok
  | ok output =>
      obtain ⟨hsearched, houtput⟩ := hfound.mp hresult
      rw [← houtput]
      cases output <;> simp [Except.map, hsearched, eq_comm]

end RandRServer

end WebXEngine
