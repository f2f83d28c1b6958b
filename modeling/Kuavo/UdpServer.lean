import Kuavo.CanFrame

/-!
The receiving side of `lib/motor/UdpServer.cpp`: where a frame that arrives is delivered.
-/

namespace Kuavo

open Kuavo.Lib.Bits Kuavo.Utility

/-- The conversion of a 32-bit word to `int32_t`. -/
def int32 (n : ℕ) : ℤ := if n < 2 ^ 31 then n else n - 2 ^ 32

/-- A call of a `packetHandler`: the slot it is registered in, and the bytes it is given. -/
structure HandlerCall where
  deviceId : ℤ
  data : List UInt8
  deriving DecidableEq

/-- A slot of `m_subscribers` holds the motor whose callback is registered there; the empty
slots are those with `m_subscriberActive` false. -/
structure UdpServer where
  m_subscribers : ℤ → Option Motor
  m_frameIds : ℤ → Option HAL_CANHandle := fun _ => none
  m_canHandles : HAL_CANHandle → Option CANStorage := fun _ => none
  /-- Whether `m_paramCache` is set. -/
  hasParamCache : Bool := true
  /-- The calls of packet handlers so far. -/
  called : List HandlerCall := []

namespace UdpServer

def MAX_DEVICE_ID : ℤ := 12
def NUM_MOTORS : ℕ := 12

/-- The active subscriber of a device id that is in range. -/
def subscriber? (s : UdpServer) (deviceId : ℤ) : Option Motor :=
  if 0 ≤ deviceId ∧ deviceId ≤ MAX_DEVICE_ID then s.m_subscribers deviceId else none

/-- `m_canHandles[handle]->replyEvent.set()`, if the handle is known. -/
def setReplyEvent (s : UdpServer) (handle : HAL_CANHandle) : UdpServer :=
  { s with
    m_canHandles := Function.update s.m_canHandles handle
      ((s.m_canHandles handle).map fun storage => { storage with replyEvent := true }) }

def eraseFrameId (s : UdpServer) (FrameId : ℤ) : UdpServer :=
  { s with m_frameIds := Function.update s.m_frameIds FrameId none }

@[simp] lemma eraseFrameId_m_canHandles (s : UdpServer) (FrameId : ℤ) :
    (s.eraseFrameId FrameId).m_canHandles = s.m_canHandles := rfl

@[simp] lemma eraseFrameId_subscriber? (s : UdpServer) (FrameId deviceId : ℤ) :
    (s.eraseFrameId FrameId).subscriber? deviceId = s.subscriber? deviceId := rfl

/-- Runs the callback of the motor in one slot. -/
def deliver (undef : Lib.Binary32.Value → ℤ) (s : UdpServer) (cache : MotorParamCache)
    (deviceId : ℤ) (m : Motor) (frame : CANFrame) (now : UInt64) : UdpServer × MotorParamCache :=
  let r := m.callback undef cache frame.data.toList now
  ({ s with
      m_subscribers := Function.update s.m_subscribers deviceId (some r.1)
      called := s.called ++ [⟨deviceId, frame.data.toList⟩] }, r.2)

/-- The path of a parameter response: the value goes to the cache, and the pending reply is
consumed. -/
def dispatchParam (s : UdpServer) (cache : MotorParamCache) (frame : CANFrame) :
    UdpServer × MotorParamCache :=
  let data := frame.data
  let motorId := data.b0.toNat
  let rid := data.b3.toNat
  let value := decodeParam rid data.b4 data.b5 data.b6 data.b7
  let cache :=
    if 1 ≤ motorId ∧ motorId - 1 < NUM_MOTORS then cache.store (motorId - 1) rid value else cache
  match s.m_frameIds motorId with
  | none => (s, cache)
  | some handle => ((s.eraseFrameId motorId).setReplyEvent handle, cache)

/-- The delivery to the motor that the reply id names, for a frame no one is waiting for. -/
def dispatchUnsolicited (undef : Lib.Binary32.Value → ℤ) (s : UdpServer) (cache : MotorParamCache)
    (FrameId : ℕ) (frame : CANFrame) (now : UInt64) : UdpServer × MotorParamCache :=
  let derivedDeviceId := int32 FrameId - 0x10
  match s.subscriber? derivedDeviceId with
  | some m => s.deliver undef cache derivedDeviceId m frame now
  | none => (s, cache)

def dispatchMessage (undef : Lib.Binary32.Value → ℤ) (s : UdpServer) (cache : MotorParamCache)
    (frame : CANFrame) (now : UInt64) : UdpServer × MotorParamCache :=
  let FrameId := bswap32 frame.FrameId
  if FrameId = 0x7ff ∧ (frame.data.b2 = 0x33 ∨ frame.data.b2 = 0x55) ∧ s.hasParamCache then
    s.dispatchParam cache frame
  else
    -- byte 0 is the low byte of the real id
    let FrameId := if FrameId = 0x7ff then frame.data.b0.toNat else FrameId
    match s.m_frameIds (int32 FrameId) with
    | none => s.dispatchUnsolicited undef cache FrameId frame now
    | some handle =>
      let s := s.eraseFrameId (int32 FrameId)
      match s.m_canHandles handle with
      | none => (s, cache)
      | some storage =>
        match s.subscriber? storage.deviceId with
        | some m =>
          let r := s.deliver undef cache storage.deviceId m frame now
          (r.1.setReplyEvent handle, r.2)
        | none => s.dispatchUnsolicited undef cache FrameId frame now

/-- A frame under the reply id of a device, with no reply pending, goes to its motor. -/
lemma dispatchMessage_feedback (undef : Lib.Binary32.Value → ℤ) {s : UdpServer} {id : ℕ}
    (hid : id ≤ 12) {m : Motor} (hsub : s.m_subscribers id = some m)
    (hpend : s.m_frameIds (id + 0x10 : ℕ) = none) (cache : MotorParamCache) {frame : CANFrame}
    (hframe : bswap32 frame.FrameId = id + 0x10) (now : UInt64) :
    s.dispatchMessage undef cache frame now = s.deliver undef cache id m frame now := by
  have h7 : id + 0x10 ≠ 0x7ff := by omega
  have hint : int32 (id + 0x10) = ((id + 0x10 : ℕ) : ℤ) := by
    unfold int32
    rw [if_pos (by omega)]
  have hderived : int32 (id + 0x10) - 0x10 = (id : ℤ) := by
    rw [hint]
    push_cast
    omega
  have hsub' : s.subscriber? id = some m := by
    unfold subscriber?
    rw [if_pos ⟨by omega, by unfold MAX_DEVICE_ID; omega⟩, hsub]
  unfold dispatchMessage
  simp only [hframe, h7, false_and, if_false, hint, hpend]
  unfold dispatchUnsolicited
  simp only [hderived, hsub']

end UdpServer

end Kuavo
