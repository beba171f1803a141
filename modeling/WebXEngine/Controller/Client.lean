import WebXEngine.Models.Message
import WebXEngine.Models.WindowUpdate

/-! # Clients

A client of the engine: its identifier, the bit by which messages are addressed to it, the state of
the pings sent to it and the rates measured for it. The measure itself is made with floating point
numbers; what it gives is an input of the operations. -/

namespace WebXEngine

/-- The state of the pings of a client. -/
inductive PingStatus
  | waitingToPing
  | requiresPing
  | waitingForPong
  | pongTimeout
  deriving DecidableEq, Repr

/-- The means of the rates of a client. -/
structure WebXClientBitrateMeans where
  meanImageMbps : ℚ
  meanBitrateMbps : ℚ
  meanRTTLatencyMs : ℚ
  meanBitrateRatio : ℚ
  deriving DecidableEq, Repr

/-- What the bitrate calculator of a client measured, as far as it has a value. -/
structure WebXClientMeasure where
  meanBitrateMbps : Option ℚ
  meanRTTLatencyMs : Option ℚ
  meanBitrateRatio : Option ℚ
  deriving DecidableEq, Repr

/-- A client. -/
structure WebXClient where
  id : UInt32
  index : UInt64
  clientVersion : WebXVersion
  maxQuality : WebXQuality
  pingResponseTimeoutMs : ℤ
  pingStatus : PingStatus
  pingSentTime : Time
  pongReceivedTime : Time
  bitrateMeans : Option WebXClientBitrateMeans
  lastQualityVerificationTime : Time
  deriving DecidableEq, Repr

/-- What a pointer to a client keeps during its life: its identifier and its index. -/
structure WebXClientRef where
  id : UInt32
  index : UInt64
  deriving DecidableEq, Repr

namespace WebXClient

/-- How long after a pong the next ping is sent. -/
def pingWaitInterval : Time := Time.ofMs 1000

/-- The milliseconds between two verifications of the quality. -/
def qualityVerificationPeriodMs : ℚ := 10000

/-- A new client. -/
def create (id : UInt32) (index : UInt64) (clientVersion : WebXVersion) (maxQuality : WebXQuality)
    (pingResponseTimeoutMs : ℤ) (now : Time) : WebXClient where
  id := id
  index := index
  clientVersion := clientVersion
  maxQuality := maxQuality
  pingResponseTimeoutMs := pingResponseTimeoutMs
  pingStatus := .waitingToPing
  pingSentTime := now
  pongReceivedTime := now
  bitrateMeans := none
  lastQualityVerificationTime := now

variable (client : WebXClient)

/-- The pointer to a client. -/
def ref : WebXClientRef := ⟨client.id, client.index⟩

/-- A new largest quality. -/
def setMaxQuality (quality : WebXQuality) : WebXClient := { client with maxQuality := quality }

/-- The status after the time that has passed. -/
def updatePingStatus (now : Time) : WebXClient :=
  match client.pingStatus with
  | .waitingToPing =>
      if now - client.pongReceivedTime > pingWaitInterval then
        { client with pingStatus := .requiresPing }
      else
        client
  | .waitingForPong =>
      if now - client.pingSentTime > Time.ofMs client.pingResponseTimeoutMs then
        { client with pingStatus := .pongTimeout }
      else
        client
  | .requiresPing => client
  | .pongTimeout => client

/-- A ping was sent. -/
def onPingSent (now : Time) : WebXClient :=
  { client with pingSentTime := now, pingStatus := .waitingForPong }

/-- A pong was received. -/
def onPongReceived (now : Time) : WebXClient :=
  { client with pongReceivedTime := now, pingStatus := .waitingToPing }

/-- Forgets the rates. -/
def resetBitrateData : WebXClient := { client with bitrateMeans := none }

/-- The rates at the end of a verification period; they are only kept until the next call. -/
def performQualityVerification (averageImageMbps : Option ℚ) (measure : WebXClientMeasure)
    (now : Time) : WebXClient :=
  if Time.toFloatMs (now - client.lastQualityVerificationTime) ≥ qualityVerificationPeriodMs then
    let bitrateMeans :=
      match averageImageMbps, measure.meanBitrateMbps, measure.meanRTTLatencyMs,
        measure.meanBitrateRatio with
      | some imageMbps, some bitrateMbps, some rttLatencyMs, some bitrateRatio =>
          some ⟨imageMbps, bitrateMbps, rttLatencyMs, bitrateRatio⟩
      | _, _, _, _ => client.bitrateMeans
    { client with bitrateMeans := bitrateMeans, lastQualityVerificationTime := now }
  else
    { client with bitrateMeans := none }

/-- The shortest time after which a verification takes place. -/
def leastVerificationPeriod : Time := 9999999489

/-- **A verification takes place** from some nanoseconds before the end of the period on: the time is
measured in numbers of 32 bits, which are rounded up there. -/
theorem verification_due_iff (duration : Time) :
    duration.toFloatMs ≥ qualityVerificationPeriodMs ↔ leastVerificationPeriod ≤ duration :=
  Time.le_toFloatMs_iff (by decide +kernel) (by decide +kernel) duration

/-! ## The pointers do not change -/

@[simp] theorem ref_create (id : UInt32) (index : UInt64) (clientVersion : WebXVersion)
    (maxQuality : WebXQuality) (pingResponseTimeoutMs : ℤ) (now : Time) :
    (create id index clientVersion maxQuality pingResponseTimeoutMs now).ref = ⟨id, index⟩ := rfl

@[simp] theorem ref_setMaxQuality (quality : WebXQuality) :
    (client.setMaxQuality quality).ref = client.ref := rfl

@[simp] theorem ref_updatePingStatus (now : Time) : (client.updatePingStatus now).ref = client.ref := by
  unfold updatePingStatus
  cases client.pingStatus
  · dsimp only
    split <;> rfl
  · rfl
  · dsimp only
    split <;> rfl
  · rfl

@[simp] theorem index_updatePingStatus (now : Time) :
    (client.updatePingStatus now).index = client.index :=
  congrArg WebXClientRef.index (client.ref_updatePingStatus now)

@[simp] theorem ref_onPingSent (now : Time) : (client.onPingSent now).ref = client.ref := rfl

@[simp] theorem ref_onPongReceived (now : Time) : (client.onPongReceived now).ref = client.ref := rfl

@[simp] theorem ref_resetBitrateData : client.resetBitrateData.ref = client.ref := rfl

@[simp] theorem ref_performQualityVerification (averageImageMbps : Option ℚ)
    (measure : WebXClientMeasure) (now : Time) :
    (client.performQualityVerification averageImageMbps measure now).ref = client.ref := by
  unfold performQualityVerification
  split <;> rfl

end WebXClient

end WebXEngine
