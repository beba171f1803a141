import WebXEngine.Foundations.SampleStatistics
import WebXEngine.Models.WindowUpdate

/-! # Bitrates

The round-trip times of the last pings of a client are samples of its latency. The time that data took
to be transferred is what lies between sending it and its acknowledgement, less the mean latency minus
its standard deviation. Statistics are real numbers, timestamps and times are fixed-width integers.

* **`WebXClientBitrateCalculator`** — the samples and the statistics of a client.
* **`BitrateWellDefined`** — the arithmetic of an acknowledgement is well defined.
* **`bitrateWellDefined_iff`** — this is so when the samples are not spread too widely, and the transfer
  does not take too long. -/

namespace WebXEngine

/-! ## The calculator -/

/-- A bitrate that was measured. -/
structure WebXClientBitrateData where
  bitrateMbps : ℝ
  timestamp : Time

/-- A latency that was measured. -/
structure WebXClientLatencyData where
  rttLatencyMs : ℝ
  timestamp : Time

/-- The measured bitrates and latencies of a client, and their statistics. -/
structure WebXClientBitrateCalculator where
  bitrateDataPoints : List WebXClientBitrateData
  latencyDataPoints : List WebXClientLatencyData
  meanBitrateMbps : Option ℝ
  meanBitrateRatio : Option ℝ
  currentGroupImageMbps : Option ℝ
  meanRTTLatencyMs : Option ℝ
  sdRTTLatencyMs : Option ℝ

/-- The conversion of a number to an unsigned integer, towards 0; no value out of its range. -/
noncomputable def convertToUInt64 (x : ℝ) : Option UInt64 :=
  open Classical in if -1 < x ∧ x < 2 ^ 64 then some (UInt64.ofNat ⌊x⌋₊) else none

namespace WebXClientBitrateCalculator

/-- How long bitrates are kept. -/
def bitrateDataRetentionTime : Time := Time.ofMs 4000

/-- How long bitrates have to be measured. -/
def timeForValidBitrateCalculation : Time := Time.ofMs 2000

/-- How long latencies are kept. -/
def latencyDataRetentionTime : Time := Time.ofMs 10000

/-- A calculator without data. -/
def new : WebXClientBitrateCalculator where
  bitrateDataPoints := []
  latencyDataPoints := []
  meanBitrateMbps := none
  meanBitrateRatio := none
  currentGroupImageMbps := none
  meanRTTLatencyMs := none
  sdRTTLatencyMs := none

variable (calculator : WebXClientBitrateCalculator)

/-- The samples of the latency. -/
def latencies : List ℝ := calculator.latencyDataPoints.map WebXClientLatencyData.rttLatencyMs

/-- Forgets old latencies. -/
def removeOldLatencies (now : Time) : WebXClientBitrateCalculator :=
  { calculator with
    latencyDataPoints := calculator.latencyDataPoints.filter fun dataPoint =>
      ¬ now - dataPoint.timestamp > latencyDataRetentionTime }

/-- Forgets old latencies, and calculates the statistics of the other ones. -/
noncomputable def calculateRTTLatencyStats (now : Time) : WebXClientBitrateCalculator :=
  let calculator := calculator.removeOldLatencies now
  let size := calculator.latencyDataPoints.length
  if size > 0 then
    let mean : ℝ := calculator.latencies.sum / size
    let sumSquaredDiffs : ℝ := (calculator.latencies.map fun x => (x - mean) * (x - mean)).sum
    { calculator with
      meanRTTLatencyMs := some mean
      sdRTTLatencyMs := some √(sumSquaredDiffs / size) }
  else
    { calculator with meanRTTLatencyMs := none, sdRTTLatencyMs := none }

/-- A ping was answered: a new sample of the latency. -/
noncomputable def updateLatency (timestamp now : Time) (sendTimestampMs recvTimestampMs : UInt64) :
    WebXClientBitrateCalculator :=
  let rttLatencyMs : ℝ := (recvTimestampMs - sendTimestampMs).toNat
  calculateRTTLatencyStats { calculator with
    latencyDataPoints := calculator.latencyDataPoints ++ [⟨rttLatencyMs, timestamp⟩] } now

/-- Forgets old bitrates, and calculates their mean. -/
noncomputable def calculateAverageBitrateData (now : Time) : WebXClientBitrateCalculator :=
  let calculator := { calculator with
    bitrateDataPoints := calculator.bitrateDataPoints.filter fun dataPoint =>
      ¬ now - dataPoint.timestamp > bitrateDataRetentionTime }
  match calculator.bitrateDataPoints with
  | first :: _ :: _ =>
      if now - first.timestamp > timeForValidBitrateCalculation then
        let meanBitrateMbps : ℝ :=
          (calculator.bitrateDataPoints.map WebXClientBitrateData.bitrateMbps).sum /
            calculator.bitrateDataPoints.length
        { calculator with
          meanBitrateMbps := some meanBitrateMbps
          meanBitrateRatio := calculator.currentGroupImageMbps.map (· / meanBitrateMbps) }
      else
        { calculator with meanBitrateMbps := none, meanBitrateRatio := none }
  | [] | [_] => { calculator with meanBitrateMbps := none }

/-- The latency by which the time of an acknowledgement is corrected: pessimistic on bandwidth, it is
a low one. -/
noncomputable def latencyCorrection : Option ℝ := do
  return (← calculator.meanRTTLatencyMs) - (← calculator.sdRTTLatencyMs)

/-- The time of an acknowledgement with the correction; no value when this cannot be converted. -/
noncomputable def adjustedRecvTimestampMs (correction : ℝ) (recvTimestampMs : UInt64) :
    Option UInt64 :=
  (convertToUInt64 correction).map (recvTimestampMs - ·)

/-- The time of the transfer, which divides the length of the data. -/
def transferTimeMs (adjusted sendTimestampMs : UInt64) : UInt32 := (adjusted - sendTimestampMs).toUInt32

/-- Data was acknowledged: a new bitrate if the latency is known. -/
noncomputable def updateBitrateData (timestamp now : Time) (sendTimestampMs recvTimestampMs : UInt64)
    (dataLength : UInt32) : Option WebXClientBitrateCalculator :=
  match calculator.latencyCorrection with
  | some correction => do
      let adjusted ← adjustedRecvTimestampMs correction recvTimestampMs
      let calculator : WebXClientBitrateCalculator :=
        if adjusted > sendTimestampMs then
          let bitrateMbps : ℝ :=
            762939 / 10 ^ 8 * dataLength.toNat / (transferTimeMs adjusted sendTimestampMs).toNat
          { calculator with
            bitrateDataPoints := calculator.bitrateDataPoints ++ [⟨bitrateMbps, timestamp⟩] }
        else
          calculator
      return calculator.calculateAverageBitrateData now
  | none => some (calculator.calculateAverageBitrateData now)

/-- Forgets the bitrates, when the client has another group. -/
def resetBitrateData (currentGroupImageMbps : Option ℝ) : WebXClientBitrateCalculator :=
  { calculator with
    bitrateDataPoints := []
    meanBitrateMbps := none
    meanBitrateRatio := none
    currentGroupImageMbps := currentGroupImageMbps }

/-- The rate of the images of the group. -/
def setCurrentGroupImageMbps (currentGroupImageMbps : Option ℝ) : WebXClientBitrateCalculator :=
  { calculator with currentGroupImageMbps := currentGroupImageMbps }

/-- The calculators after any history of pings, acknowledgements and changes of the group. A ping is
not answered before it is sent. -/
inductive Reached : WebXClientBitrateCalculator → Prop
  | new : Reached new
  | updateLatency {calculator : WebXClientBitrateCalculator} (h : Reached calculator)
      (timestamp now : Time) {sendTimestampMs recvTimestampMs : UInt64}
      (hlater : sendTimestampMs ≤ recvTimestampMs) :
      Reached (calculator.updateLatency timestamp now sendTimestampMs recvTimestampMs)
  | updateBitrateData {calculator next : WebXClientBitrateCalculator} (h : Reached calculator)
      {timestamp now : Time} {sendTimestampMs recvTimestampMs : UInt64} {dataLength : UInt32}
      (hnext : calculator.updateBitrateData timestamp now sendTimestampMs recvTimestampMs dataLength =
        some next) : Reached next
  | calculateAverageBitrateData {calculator : WebXClientBitrateCalculator} (h : Reached calculator)
      (now : Time) : Reached (calculator.calculateAverageBitrateData now)
  | resetBitrateData {calculator : WebXClientBitrateCalculator} (h : Reached calculator)
      (currentGroupImageMbps : Option ℝ) :
      Reached (calculator.resetBitrateData currentGroupImageMbps)
  | setCurrentGroupImageMbps {calculator : WebXClientBitrateCalculator} (h : Reached calculator)
      (currentGroupImageMbps : Option ℝ) :
      Reached (calculator.setCurrentGroupImageMbps currentGroupImageMbps)

end WebXClientBitrateCalculator

open WebXClientBitrateCalculator

/-- **The arithmetic of an acknowledgement is well defined**: the correction is not negative, the
corrected time is not later than the real one, and the time of the transfer is positive and what lies
between sending and the corrected time. -/
def BitrateWellDefined (calculator : WebXClientBitrateCalculator)
    (sendTimestampMs recvTimestampMs : UInt64) : Prop :=
  ∀ correction, calculator.latencyCorrection = some correction →
    0 ≤ correction ∧ ∃ adjusted, adjustedRecvTimestampMs correction recvTimestampMs = some adjusted ∧
      adjusted ≤ recvTimestampMs ∧
      (adjusted > sendTimestampMs → 0 < transferTimeMs adjusted sendTimestampMs ∧
        (transferTimeMs adjusted sendTimestampMs).toNat = adjusted.toNat - sendTimestampMs.toNat)

/-- The whole milliseconds by which the mean of some samples exceeds their standard deviation. -/
noncomputable def correctionMs (latencies : List ℝ) : ℕ := ⌊mean latencies - deviation latencies⌋₊

/-- The samples of a latency are not spread too widely: the mean of their squares is at most twice the
square of their mean. The time of an acknowledgement is not less than the correction, and the
transfer takes less than 2^32 milliseconds. -/
structure BitrateInRange (latencies : List ℝ) (sendTimestampMs recvTimestampMs : UInt64) : Prop where
  spread : latencies.length * (latencies.map fun x => x ^ 2).sum ≤ 2 * latencies.sum ^ 2
  recv : correctionMs latencies ≤ recvTimestampMs.toNat
  transfer : recvTimestampMs.toNat < sendTimestampMs.toNat + correctionMs latencies + 2 ^ 32

/-! ## Histories -/

namespace WebXClientBitrateCalculator

/-- The statistics are those of the samples, which are times of 64 bits. -/
structure Consistent (calculator : WebXClientBitrateCalculator) : Prop where
  correction : calculator.latencyCorrection =
    if calculator.latencies = [] then none
    else some (mean calculator.latencies - deviation calculator.latencies)
  range : ∀ x ∈ calculator.latencies, 0 ≤ x ∧ x ≤ 2 ^ 64 - 1

/-- A calculator with the same latencies is consistent. -/
theorem Consistent.congr {calculator calculator' : WebXClientBitrateCalculator}
    (h : calculator.Consistent) (hpoints : calculator'.latencyDataPoints = calculator.latencyDataPoints)
    (hmean : calculator'.meanRTTLatencyMs = calculator.meanRTTLatencyMs)
    (hsd : calculator'.sdRTTLatencyMs = calculator.sdRTTLatencyMs) : calculator'.Consistent := by
  have hlatencies : calculator'.latencies = calculator.latencies :=
    congrArg (List.map WebXClientLatencyData.rttLatencyMs) hpoints
  refine ⟨?_, hlatencies ▸ h.range⟩
  rw [hlatencies, latencyCorrection, hmean, hsd]
  exact h.correction

/-- The means of the bitrates have nothing to do with the latencies. -/
theorem Consistent.calculateAverageBitrateData {calculator : WebXClientBitrateCalculator}
    (h : calculator.Consistent) (now : Time) :
    (calculator.calculateAverageBitrateData now).Consistent := by
  rw [WebXClientBitrateCalculator.calculateAverageBitrateData]
  split
  · split_ifs
    all_goals exact h.congr rfl rfl rfl
  · exact h.congr rfl rfl rfl
  · exact h.congr rfl rfl rfl

/-- Old samples go, and no new one comes. -/
theorem latencies_removeOldLatencies_subset (calculator : WebXClientBitrateCalculator) (now : Time) :
    (calculator.removeOldLatencies now).latencies ⊆ calculator.latencies :=
  (List.filter_sublist.map WebXClientLatencyData.rttLatencyMs).subset

/-- There is one latency for each sample that is kept. -/
theorem length_latencies (calculator : WebXClientBitrateCalculator) :
    calculator.latencies.length = calculator.latencyDataPoints.length := List.length_map _

/-- The samples are those that are kept. -/
theorem latencies_calculateRTTLatencyStats (calculator : WebXClientBitrateCalculator) (now : Time) :
    (calculator.calculateRTTLatencyStats now).latencies =
      (calculator.removeOldLatencies now).latencies := by
  rw [calculateRTTLatencyStats]
  split_ifs <;> rfl

/-- A new sample is kept, and the other ones that are not old. -/
theorem latencyDataPoints_updateLatency (calculator : WebXClientBitrateCalculator) (timestamp now : Time)
    (sendTimestampMs recvTimestampMs : UInt64) :
    (calculator.updateLatency timestamp now sendTimestampMs recvTimestampMs).latencyDataPoints =
      List.filter (fun dataPoint => ¬ now - dataPoint.timestamp > latencyDataRetentionTime)
        (calculator.latencyDataPoints ++
          [⟨(recvTimestampMs - sendTimestampMs).toNat, timestamp⟩]) := by
  rw [updateLatency, calculateRTTLatencyStats]
  split_ifs <;> rfl

/-- The statistics that are calculated are those of the samples. -/
theorem consistent_calculateRTTLatencyStats {calculator : WebXClientBitrateCalculator}
    (h : ∀ x ∈ calculator.latencies, 0 ≤ x ∧ x ≤ 2 ^ 64 - 1) (now : Time) :
    (calculator.calculateRTTLatencyStats now).Consistent := by
  have hlength := length_latencies (calculator.removeOldLatencies now)
  have hlatencies := latencies_calculateRTTLatencyStats calculator now
  refine ⟨?_, fun x hx => h x (latencies_removeOldLatencies_subset calculator now (hlatencies ▸ hx))⟩
  rw [hlatencies]
  by_cases hnil : (calculator.removeOldLatencies now).latencies = []
  · have hzero : (calculator.removeOldLatencies now).latencyDataPoints.length = 0 := by
      rw [← hlength, hnil, List.length_nil]
    rw [if_pos hnil, calculateRTTLatencyStats, if_neg (Nat.not_lt.mpr hzero.le)]
    rfl
  · have hpos : (calculator.removeOldLatencies now).latencyDataPoints.length > 0 := by
      rw [← hlength]
      exact List.length_pos_iff.mpr hnil
    rw [if_neg hnil, calculateRTTLatencyStats, if_pos hpos, mean, deviation, sumSquaredDiffs, mean,
      hlength]
    rfl

/-- An answer to a ping adds a sample, and the statistics are calculated again. -/
theorem Consistent.updateLatency {calculator : WebXClientBitrateCalculator}
    (h : calculator.Consistent) (timestamp now : Time) (sendTimestampMs recvTimestampMs : UInt64) :
    (calculator.updateLatency timestamp now sendTimestampMs recvTimestampMs).Consistent := by
  refine consistent_calculateRTTLatencyStats ?_ now
  rw [latencies, List.map_append]
  intro x hx
  rcases List.mem_append.mp hx with hx | hx
  · exact h.range x hx
  · obtain rfl := List.mem_singleton.mp hx
    have hlt := (recvTimestampMs - sendTimestampMs).toNat_lt
    refine ⟨Nat.cast_nonneg _, ?_⟩
    change ((recvTimestampMs - sendTimestampMs).toNat : ℝ) ≤ 2 ^ 64 - 1
    have hle : (recvTimestampMs - sendTimestampMs).toNat + 1 ≤ 2 ^ 64 := hlt
    exact le_sub_iff_add_le.mpr (by exact_mod_cast hle)

/-- **The statistics are those of the samples** in every state that a calculator reaches. -/
theorem Reached.consistent {calculator : WebXClientBitrateCalculator} (h : Reached calculator) :
    calculator.Consistent := by
  induction h with
  | new => exact ⟨rfl, fun x hx => nomatch hx⟩
  | updateLatency _ timestamp now _ ih => exact ih.updateLatency timestamp now _ _
  | updateBitrateData _ hnext ih =>
    rw [WebXClientBitrateCalculator.updateBitrateData] at hnext
    split at hnext
    · obtain ⟨adjusted, -, hnext⟩ := Option.bind_eq_some_iff.mp hnext
      cases hnext
      refine Consistent.calculateAverageBitrateData ?_ _
      split_ifs
      · exact ih.congr rfl rfl rfl
      · exact ih
    · cases hnext
      exact ih.calculateAverageBitrateData _
  | calculateAverageBitrateData _ now ih => exact ih.calculateAverageBitrateData now
  | resetBitrateData _ currentGroupImageMbps ih => exact ih.congr rfl rfl rfl
  | setCurrentGroupImageMbps _ currentGroupImageMbps ih => exact ih.congr rfl rfl rfl

end WebXClientBitrateCalculator

/-! ## Acknowledgements -/

/-- A number of whole milliseconds that is in range is converted. -/
theorem convertToUInt64_eq {x : ℝ} (hnonneg : 0 ≤ x) (hle : x ≤ 2 ^ 64 - 1) :
    ∃ n : UInt64, convertToUInt64 x = some n ∧ n.toNat = ⌊x⌋₊ := by
  have hfloor : ⌊x⌋₊ < 2 ^ 64 := by
    rw [Nat.floor_lt hnonneg]
    push_cast
    linarith
  refine ⟨UInt64.ofNat ⌊x⌋₊, if_pos ⟨by linarith, by linarith⟩, ?_⟩
  rw [UInt64.toNat_ofNat', Nat.mod_eq_of_lt hfloor]

/-- The corrected time is not later exactly when the correction is not more than the time. -/
theorem sub_le_iff {recvTimestampMs correction : UInt64} :
    recvTimestampMs - correction ≤ recvTimestampMs ↔ correction.toNat ≤ recvTimestampMs.toNat := by
  have hlt := correction.toNat_lt
  have hrecv := recvTimestampMs.toNat_lt
  rw [UInt64.le_iff_toNat_le, UInt64.toNat_sub]
  constructor
  · intro hle
    by_contra hcontra
    rw [Nat.mod_eq_of_lt (by omega)] at hle
    omega
  · intro hle
    rw [show 2 ^ 64 - correction.toNat + recvTimestampMs.toNat =
      recvTimestampMs.toNat - correction.toNat + 2 ^ 64 by omega, Nat.add_mod_right,
      Nat.mod_eq_of_lt (by omega)]
    omega

/-- The time of a transfer is right exactly when it is less than 2^32 milliseconds. -/
theorem transferTimeMs_iff {adjusted sendTimestampMs : UInt64} (h : sendTimestampMs < adjusted) :
    (0 < transferTimeMs adjusted sendTimestampMs ∧
      (transferTimeMs adjusted sendTimestampMs).toNat = adjusted.toNat - sendTimestampMs.toNat) ↔
      adjusted.toNat < sendTimestampMs.toNat + 2 ^ 32 := by
  have hlt := UInt64.lt_iff_toNat_lt.mp h
  have hsub : (transferTimeMs adjusted sendTimestampMs).toNat =
      (adjusted.toNat - sendTimestampMs.toNat) % 2 ^ 32 := by
    rw [transferTimeMs, UInt64.toNat_toUInt32,
      UInt64.toNat_sub_of_le _ _ (UInt64.le_iff_toNat_le.mpr hlt.le)]
  rw [UInt32.lt_iff_toNat_lt, hsub]
  constructor
  · rintro ⟨-, heq⟩
    have hmod := Nat.mod_lt (adjusted.toNat - sendTimestampMs.toNat) (Nat.two_pow_pos 32)
    omega
  · intro hshort
    rw [Nat.mod_eq_of_lt (by omega)]
    exact ⟨Nat.sub_pos_of_lt hlt, rfl⟩

/-- A transfer that is recorded with a correction has the right time exactly when the acknowledgement
comes less than 2^32 milliseconds after the data, and the correction. -/
theorem recorded_iff {sendTimestampMs recvTimestampMs correction : UInt64}
    (hrecv : correction.toNat ≤ recvTimestampMs.toNat) :
    (recvTimestampMs - correction > sendTimestampMs →
      0 < transferTimeMs (recvTimestampMs - correction) sendTimestampMs ∧
        (transferTimeMs (recvTimestampMs - correction) sendTimestampMs).toNat =
          (recvTimestampMs - correction).toNat - sendTimestampMs.toNat) ↔
      recvTimestampMs.toNat < sendTimestampMs.toNat + correction.toNat + 2 ^ 32 := by
  have hsub := UInt64.toNat_sub_of_le _ _ (UInt64.le_iff_toNat_le.mpr hrecv)
  by_cases hrecorded : recvTimestampMs - correction > sendTimestampMs
  · rw [imp_iff_right hrecorded, transferTimeMs_iff hrecorded]
    omega
  · have hearly := UInt64.le_iff_toNat_le.mp (UInt64.not_lt.mp hrecorded)
    exact iff_of_true (fun hlater => absurd hlater hrecorded) (by omega)

/-- **The arithmetic of an acknowledgement is well defined exactly when its samples and its times are
in range**, after every history. -/
theorem bitrateWellDefined_iff {calculator : WebXClientBitrateCalculator} (h : Reached calculator)
    (sendTimestampMs recvTimestampMs : UInt64) :
    BitrateWellDefined calculator sendTimestampMs recvTimestampMs ↔
      (calculator.latencies ≠ [] →
        BitrateInRange calculator.latencies sendTimestampMs recvTimestampMs) := by
  obtain ⟨hcorrection, hrange⟩ := h.consistent
  by_cases hnil : calculator.latencies = []
  · rw [if_pos hnil] at hcorrection
    refine iff_of_true (fun correction hsome => ?_) fun hne => absurd hnil hne
    exact nomatch hcorrection.symm.trans hsome
  · rw [if_neg hnil] at hcorrection
    have hspread := deviation_le_mean_iff hnil fun x hx => (hrange x hx).1
    have hmean := mean_le hnil fun x hx => (hrange x hx).2
    have hdeviation : 0 ≤ deviation calculator.latencies := Real.sqrt_nonneg _
    -- the mean is in range, so a correction that is not negative is converted
    have hconvert : 0 ≤ mean calculator.latencies - deviation calculator.latencies →
        ∃ correction, adjustedRecvTimestampMs _ recvTimestampMs = some (recvTimestampMs - correction) ∧
          correction.toNat = correctionMs calculator.latencies := fun hnonneg => by
      obtain ⟨correction, hconvert, hms⟩ := convertToUInt64_eq hnonneg (by linarith)
      exact ⟨correction, by rw [adjustedRecvTimestampMs, hconvert]; rfl, hms⟩
    constructor
    · intro hwell _
      obtain ⟨hnonneg, adjusted, hadjusted, hle, htransfer⟩ := hwell _ hcorrection
      obtain ⟨correction, hsome, hms⟩ := hconvert hnonneg
      cases hsome.symm.trans hadjusted
      have hrecv := sub_le_iff.mp hle
      exact ⟨hspread.mp (sub_nonneg.mp hnonneg), hms ▸ hrecv, hms ▸ (recorded_iff hrecv).mp htransfer⟩
    · intro hinRange _ hsome
      obtain ⟨hsquares, hrecv, hshort⟩ := hinRange hnil
      cases hcorrection.symm.trans hsome
      have hnonneg := sub_nonneg.mpr (hspread.mpr hsquares)
      obtain ⟨correction, hadjusted, hms⟩ := hconvert hnonneg
      rw [← hms] at hrecv hshort
      exact ⟨hnonneg, _, hadjusted, sub_le_iff.mpr hrecv, (recorded_iff hrecv).mpr hshort⟩

/-- The correction is not more than the time of an acknowledgement that comes after all answers to
pings: no latency is more than that. -/
theorem correctionMs_le {latencies : List ℝ} (hne : latencies ≠ []) {recvTimestampMs : UInt64}
    (h : ∀ x ∈ latencies, x ≤ recvTimestampMs.toNat) :
    correctionMs latencies ≤ recvTimestampMs.toNat := by
  have hmean := mean_le hne h
  have hdeviation : 0 ≤ deviation latencies := Real.sqrt_nonneg _
  exact Nat.floor_le_of_le (by linarith)

/-- Pings that are answered at the start of the clock. -/
private noncomputable def answered (answers : List (UInt64 × UInt64)) :
    WebXClientBitrateCalculator :=
  answers.foldl (fun calculator answer => calculator.updateLatency 0 0 answer.1 answer.2) .new

/-- A calculator that got only answers is one that is reached. -/
private theorem reached_answered (answers : List (UInt64 × UInt64))
    (h : ∀ answer ∈ answers, answer.1 ≤ answer.2) : Reached (answered answers) := by
  induction answers using List.reverseRecOn with
  | nil => exact .new
  | append_singleton answers answer ih =>
    rw [answered, List.foldl_concat]
    exact .updateLatency (ih fun answer' h' => h answer' (List.mem_append_left _ h')) 0 0
      (h answer (List.mem_append_right _ (List.mem_singleton_self answer)))

/-- An acknowledgement 100 ms after the data was sent, when two pings were answered after 20 and 40 ms. -/
theorem bitrateWellDefined_iff_answered :
    BitrateWellDefined (answered [(1000, 1020), (2000, 2040)]) 5000 5100 := by
  have hlatencies : (answered [(1000, 1020), (2000, 2040)]).latencies = [20, 40] := by
    simp [answered, latencies, latencyDataPoints_updateLatency, WebXClientBitrateCalculator.new,
      latencyDataRetentionTime, Time.ofMs]
  refine (bitrateWellDefined_iff (reached_answered _ (by simp)) 5000 5100).mpr fun _ => ?_
  rw [hlatencies]
  have hsend : UInt64.toNat 5000 = 5000 := rfl
  have hrecv : UInt64.toNat 5100 = 5100 := rfl
  have hcorrection : correctionMs [20, 40] ≤ UInt64.toNat 5100 :=
    correctionMs_le (List.cons_ne_nil _ _) (by rw [hrecv]; norm_num)
  exact ⟨by norm_num, hcorrection, by omega⟩

/-- Four pings that are answered at once, and one that is answered after 10 ms. -/
theorem not_bitrateWellDefined :
    ¬ ∀ calculator, Reached calculator → ∀ sendTimestampMs recvTimestampMs,
      sendTimestampMs < recvTimestampMs →
      BitrateWellDefined calculator sendTimestampMs recvTimestampMs := by
  intro h
  have hreached := reached_answered
    [(1000, 1000), (1100, 1100), (1200, 1200), (1300, 1300), (1400, 1410)] (by simp)
  have hlatencies : (answered [(1000, 1000), (1100, 1100), (1200, 1200), (1300, 1300),
      (1400, 1410)]).latencies = [0, 0, 0, 0, 10] := by
    simp [answered, latencies, latencyDataPoints_updateLatency, WebXClientBitrateCalculator.new,
      latencyDataRetentionTime, Time.ofMs]
  have hcorrection := hreached.consistent.correction
  rw [hlatencies, if_neg (List.cons_ne_nil _ _)] at hcorrection
  have hnonneg := (h _ hreached 2000 3000 (by decide) _ hcorrection).1
  have hspread := (deviation_le_mean_iff (List.cons_ne_nil _ _) (by norm_num)).mp
    (sub_nonneg.mp hnonneg)
  norm_num at hspread

end WebXEngine
