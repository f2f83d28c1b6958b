import Kuavo.Delivery

/-!
The receiving thread of `lib/motor/UdpServer.cpp`: what a datagram that is too short does, and a
receive that fails.

`run` receives into a frame that holds its initial values, and dispatches it unless nothing came.
How much came is not looked at again: what is missing of a frame is taken from the initial values.
-/

namespace Kuavo

open Kuavo.Lib Kuavo.Lib.Bits Kuavo.Lib.Runs Kuavo.Utility

/-- A frame into which the bytes were received. `FrameId` is `1` before, in the host's order. -/
def CANFrame.ofBytes (bytes : List UInt8) : CANFrame where
  FrameHeader := bytes.getD 0 0x08
  id0 := bytes.getD 1 0x01
  id1 := bytes.getD 2 0
  id2 := bytes.getD 3 0
  id3 := bytes.getD 4 0
  data :=
    ⟨bytes.getD 5 0, bytes.getD 6 0, bytes.getD 7 0, bytes.getD 8 0, bytes.getD 9 0,
      bytes.getD 10 0, bytes.getD 11 0, bytes.getD 12 0⟩

/-- What a call of `recvfrom` comes to. -/
inductive Received
  | failed
  | datagram (bytes : List UInt8)
  deriving DecidableEq

namespace Received

/-- `sizeof(frame) - 1`: the thirteen bytes of a frame are aligned to sixteen. -/
def capacity : ℕ := 15

/-- What was written to the frame. -/
def bytes : Received → List UInt8
  | .failed => []
  | .datagram bytes => bytes.take capacity

/-- The result of `recvfrom` as a `size_t`, where the error `-1` is the largest value. -/
def length : Received → ℕ
  | .failed => 0xFFFFFFFFFFFFFFFF
  | .datagram bytes => (bytes.take capacity).length

def frame (r : Received) : CANFrame := .ofBytes r.bytes

/-- Less than the thirteen bytes of a frame came. -/
def Short : Received → Prop
  | .failed => True
  | .datagram bytes => bytes.length < 13

end Received

variable (undef : Binary32.Value → ℤ)

namespace UdpServer

/-- What `run` does for a socket that is ready. -/
def receive (s : UdpServer) (cache : MotorParamCache) (r : Received) (now : UInt64) :
    UdpServer × MotorParamCache :=
  if r.length < 1 then (s, cache) else s.dispatchMessage undef cache r.frame now

/-- Whenever the receive happens, it changes no motor and no entry of the cache. -/
def Untouched (s : UdpServer) (cache : MotorParamCache) (r : Received) : Prop :=
  ∀ now, (s.receive undef cache r now).1.m_subscribers = s.m_subscribers ∧
    (s.receive undef cache r now).2 = cache

/-- A parameter response of which the motor, and the cache behind it, already hold the value. -/
structure Known (cache : MotorParamCache) (m : Motor) (data : DataFrame) : Prop where
  cmd : data.b2 = 0x33 ∨ data.b2 = 0x55
  register : m.paramDict data.b3.toNat = some (data.paramValue.toInt undef)
  cached : m.hasParamCache = true →
    cache.store (m.deviceId - 1) data.b3.toNat data.paramValue = cache

/-- A frame that is for no motor, or tells one what it knows; and where it is for the cache, it is
for an entry or a register that there is not, or brings a value that is there. -/
structure Harmless (s : UdpServer) (cache : MotorParamCache) (frame : CANFrame) : Prop where
  motor : ∀ c ∈ s.calls frame, ∀ m, s.m_subscribers c.deviceId = some m →
    Known undef cache m frame.data
  cache : s.ForCache frame → 1 ≤ frame.data.b0.toNat → frame.data.b0.toNat - 1 < NUM_MOTORS →
    cache.store (frame.data.b0.toNat - 1) frame.data.b3.toNat frame.data.paramValue = cache

end UdpServer

/-! ### What a callback leaves alone -/

namespace Motor

lemma setTempParam_eq_self_iff (m : Motor) (RID : ℕ) (val : ℤ) :
    m.setTempParam RID val = m ↔ m.paramDict RID = some val := by
  constructor
  · intro h
    have hdict := congrFun (congrArg Motor.paramDict h) RID
    rw [← hdict]
    exact Function.update_self ..
  · intro h
    unfold setTempParam
    rw [← h, Function.update_eq_self]

/-- Feedback is stamped with the time it comes at. -/
lemma callback_state (m : Motor) (cache : MotorParamCache) {data : DataFrame}
    (hcmd : ¬ (data.b2 = 0x33 ∨ data.b2 = 0x55)) (now : UInt64) :
    (m.callback undef cache data.toList now).1.lastUpdateTime = now := by
  simp [callback, parseMotorParamData, parseMotorStateData, DataFrame.toList, hcmd, updateState]

/-- A callback changes nothing exactly for a register whose value is known. -/
lemma callback_eq_self_iff (m : Motor) (cache : MotorParamCache) (data : DataFrame) :
    (∀ now, m.callback undef cache data.toList now = (m, cache)) ↔
      UdpServer.Known undef cache m data := by
  by_cases hcmd : data.b2 = 0x33 ∨ data.b2 = 0x55
  · have hsame : ∀ now, m.callback undef cache data.toList now = (m, cache) ↔
        m.paramDict data.b3.toNat = some (data.paramValue.toInt undef) ∧
          (m.hasParamCache = true →
            cache.store (m.deviceId - 1) data.b3.toNat data.paramValue = cache) := fun now => by
      rw [m.callback_param undef cache hcmd now, Prod.mk.injEq, setTempParam_eq_self_iff]
      cases m.hasParamCache <;> simp
    constructor
    · intro h
      obtain ⟨hregister, hcached⟩ := (hsame 0).mp (h 0)
      exact ⟨hcmd, hregister, hcached⟩
    · intro h now
      exact (hsame now).mpr ⟨h.register, h.cached⟩
  · refine iff_of_false (fun h => ?_) (fun h => hcmd h.cmd)
    -- two times of arrival leave two stamps
    have hstamp : ∀ now, m.lastUpdateTime = now := fun now => by
      rw [← m.callback_state undef cache hcmd now, h now]
    exact absurd ((hstamp 0).symm.trans (hstamp 1)) (by decide)

end Motor

namespace UdpServer

/-! ### What a message leaves alone -/

lemma dispatchMessage_forCache {s : UdpServer} {frame : CANFrame} (h : s.ForCache frame)
    (cache : MotorParamCache) (now : UInt64) :
    (s.dispatchMessage undef cache frame now).1.m_subscribers = s.m_subscribers ∧
      (s.dispatchMessage undef cache frame now).2 =
        if 1 ≤ frame.data.b0.toNat ∧ frame.data.b0.toNat - 1 < NUM_MOTORS then
          cache.store (frame.data.b0.toNat - 1) frame.data.b3.toNat frame.data.paramValue
        else cache := by
  have hparam : s.dispatchMessage undef cache frame now = s.dispatchParam cache frame := if_pos h
  rw [hparam]
  unfold dispatchParam DataFrame.paramValue
  dsimp only
  cases s.m_frameIds frame.data.b0.toNat with
  | none => exact ⟨rfl, rfl⟩
  | some handle => exact ⟨rfl, rfl⟩

/-- A message that is not for the cache changes nothing exactly where its call does not. -/
lemma untouched_call_iff {s : UdpServer} {frame : CANFrame} (h : ¬ s.ForCache frame)
    (cache : MotorParamCache) :
    (∀ now, (s.dispatchMessage undef cache frame now).1.m_subscribers = s.m_subscribers ∧
        (s.dispatchMessage undef cache frame now).2 = cache) ↔
      ∀ c ∈ s.calls frame, ∀ m, s.m_subscribers c.deviceId = some m →
        Known undef cache m frame.data := by
  have hpair : ∀ now, ((s.dispatchMessage undef cache frame now).1.m_subscribers = s.m_subscribers ∧
      (s.dispatchMessage undef cache frame now).2 = cache) ↔
      runCalls undef now s cache (s.calls frame) = (s.m_subscribers, cache) := fun now => by
    rw [← (made_dispatchMessage undef h cache now).left, Prod.mk.injEq]
  simp only [hpair, calls_eq]
  cases s.handler? frame with
  | none => simp [runCalls]
  | some k =>
    simp only [Option.map_some, Option.toList_some, List.mem_singleton, forall_eq, runCalls,
      List.foldl_cons, List.foldl_nil, runCall]
    cases hm : s.m_subscribers k with
    | none => simp
    | some m =>
      have hself : ∀ m' : Motor,
          Function.update s.m_subscribers k (some m') = s.m_subscribers ↔ m' = m := fun m' => by
        rw [Function.update_eq_self_iff, hm, Option.some.injEq]
      simp only [hself, Option.some.injEq, forall_eq',
        ← m.callback_eq_self_iff undef cache frame.data, Prod.ext_iff]

/-- A message changes nothing, whenever it comes, exactly if it is harmless. -/
lemma untouched_iff_harmless (s : UdpServer) (cache : MotorParamCache) (frame : CANFrame) :
    (∀ now, (s.dispatchMessage undef cache frame now).1.m_subscribers = s.m_subscribers ∧
        (s.dispatchMessage undef cache frame now).2 = cache) ↔ s.Harmless undef cache frame := by
  by_cases h : s.ForCache frame
  · have hcalls : s.calls frame = [] := if_pos h
    constructor
    · intro hu
      refine ⟨by simp [hcalls], fun _ hlow hhigh => ?_⟩
      have hcache := (hu 0).2
      rwa [(dispatchMessage_forCache undef h cache 0).2, if_pos ⟨hlow, hhigh⟩] at hcache
    · intro hh now
      obtain ⟨hmotors, hcache⟩ := dispatchMessage_forCache undef h cache now
      refine ⟨hmotors, hcache.trans ?_⟩
      split_ifs with hidx
      · exact hh.cache h hidx.1 hidx.2
      · rfl
  · rw [untouched_call_iff undef h cache]
    exact ⟨fun hm => ⟨hm, fun hc => absurd hc h⟩, fun hh => hh.motor⟩

end UdpServer

namespace CanApi

/-! ### Receives in a run -/

lemma ofBytes_frameId (bytes : List UInt8) :
    bswap32 (CANFrame.ofBytes bytes).FrameId =
      be32 (bytes.getD 1 0x01) (bytes.getD 2 0) (bytes.getD 3 0) (bytes.getD 4 0) :=
  CANFrame.bswap32_frameId _

lemma bswap32_lt (n : ℕ) : bswap32 n < 2 ^ 32 := by
  simp only [bswap32, be32, byte_toNat]
  omega

lemma int32_of_low_byte {n : ℕ} (hn : n < 2 ^ 32) (hlow : n % 256 = 0) :
    int32 n = 0 ∧ n = 0 ∨ int32 n < 0 ∨ 256 ≤ int32 n := by
  unfold int32
  split_ifs
  · omega
  · omega

/-- Without its last byte an identifier is no reply id of a device, and no broadcast. -/
lemma calls_of_low_byte {s : CanApi} (hs : Inv s) {frame : CANFrame}
    (hid : bswap32 frame.FrameId % 256 = 0)
    (hzero : bswap32 frame.FrameId = 0 → s.server.m_frameIds 0 = none) :
    ¬ s.server.ForCache frame ∧ s.server.calls frame = [] := by
  have hbroadcast : bswap32 frame.FrameId ≠ 0x7ff := fun h => by
    rw [h] at hid
    exact absurd hid (by decide)
  have hcache : ¬ s.server.ForCache frame := fun h => hbroadcast h.1
  have hword := int32_of_low_byte (bswap32_lt _) hid
  have hpending : s.server.m_frameIds (int32 (bswap32 frame.FrameId)) = none := by
    cases hk : s.server.m_frameIds (int32 (bswap32 frame.FrameId)) with
    | none => rfl
    | some h =>
      rcases hs.pending hk with ⟨hz, -⟩ | ⟨can, hcan, hmas⟩
      · have hnil : bswap32 frame.FrameId = 0 := by omega
        rw [hz, hzero hnil] at hk
        exact absurd hk (by simp)
      · obtain ⟨-, hmas'⟩ := hs.storage hcan
        have hnil : bswap32 frame.FrameId = 0 := by omega
        rw [show int32 (bswap32 frame.FrameId) = 0 by omega, hzero hnil] at hk
        exact absurd hk (by simp)
  have hslot : s.server.subscriber? (int32 (bswap32 frame.FrameId) - 0x10) = none := by
    unfold UdpServer.subscriber? UdpServer.MAX_DEVICE_ID
    rw [if_neg (by omega)]
  refine ⟨hcache, ?_⟩
  rw [UdpServer.calls, if_neg hcache, if_neg hbroadcast]
  unfold UdpServer.callsReply UdpServer.callsUnsolicited
  simp only [hpending, hslot]

/-- A datagram that ends before the last byte of the identifier is harmless, unless a handle of
another maker waits under the identifier zero. -/
lemma harmless_of_length_lt {s : CanApi} (hs : Inv s) {bytes : List UInt8}
    (hlen : bytes.length < 5) (hzero : s.server.m_frameIds 0 = none) :
    s.server.Harmless undef s.cache (.ofBytes bytes) := by
  have hlast : bytes.getD 4 0 = 0 := by
    rw [List.getD_eq_getElem?_getD, List.getElem?_eq_none (by omega), Option.getD_none]
  have hlow : bswap32 (CANFrame.ofBytes bytes).FrameId % 256 = 0 := by
    rw [ofBytes_frameId, hlast, be32]
    simp only [UInt8.toNat_zero]
    omega
  obtain ⟨hcache, hcalls⟩ := calls_of_low_byte hs hlow fun _ => hzero
  exact ⟨by simp [hcalls], fun h => absurd h hcache⟩

/-- A frame into which nothing was received is harmless. -/
lemma harmless_initial {s : CanApi} (hs : Inv s) :
    s.server.Harmless undef s.cache (.ofBytes []) := by
  have hid : bswap32 (CANFrame.ofBytes []).FrameId = 16777216 := ofBytes_frameId []
  obtain ⟨hcache, hcalls⟩ := calls_of_low_byte hs (by rw [hid]) fun h => by
    rw [hid] at h
    omega
  exact ⟨by simp [hcalls], fun h => absurd h hcache⟩

/-- **What a receive leaves alone**, in every state that the calls of the API lead to. A receive
that fails and an empty datagram change nothing; any other datagram changes nothing, whenever it
comes, exactly if the frame that its bytes make of the initial one is harmless. -/
theorem untouched_iff (serverId maxCanDevice : ℕ) (cache : MotorParamCache) (l : List Input)
    (r : Received) :
    let s := run (step undef) (start serverId maxCanDevice cache) l
    s.server.Untouched undef s.cache r ↔
      r = .failed ∨ r = .datagram [] ∨ s.server.Harmless undef s.cache r.frame := by
  intro s
  have hs : Inv s := inv_run undef serverId maxCanDevice cache l
  unfold UdpServer.Untouched UdpServer.receive
  rcases r with _ | ⟨_ | ⟨b, bytes⟩⟩
  · have hlen : ¬ Received.failed.length < 1 := by decide
    simp only [hlen, if_false, UdpServer.untouched_iff_harmless]
    exact iff_of_true (harmless_initial undef hs) (.inl trivial)
  · have hlen : (Received.datagram []).length < 1 := by decide
    simp only [hlen, if_true, and_self, implies_true, true_iff]
    exact .inr (.inl trivial)
  · have hlen : ¬ (Received.datagram (b :: bytes)).length < 1 := by
      simp [Received.length, Received.capacity]
    simp [hlen, UdpServer.untouched_iff_harmless]

/-- Five bytes, of which the last four are the reply id of motor `1`. -/
def prefixOfFeedback : Received := .datagram [0x08, 0, 0, 0, 0x11]

/-- They count as feedback of zero bytes: the motor is at the low end of its ranges. -/
theorem short_datagram_moves_motor :
    let s := run (step fun _ => 0) (start 0 6 emptyCache)
      [.initializeCAN .Dm 1, .subscribe { deviceId := 1 }]
    let t := s.server.receive (fun _ => 0) s.cache prefixOfFeedback 5
    prefixOfFeedback.Short ∧
      (t.1.m_subscribers 1).map (fun m => (m.stateQ, m.stateDq, m.stateTau, m.lastUpdateTime)) =
        some (-25 / 2, -45, -54, 5) ∧
      ¬ s.server.Untouched (fun _ => 0) s.cache prefixOfFeedback := by
  intro s t
  have hmoved : (t.1.m_subscribers 1).map
      (fun m => (m.stateQ, m.stateDq, m.stateTau, m.lastUpdateTime)) =
        some (-25 / 2, -45, -54, 5) := by decide +kernel
  refine ⟨by unfold prefixOfFeedback Received.Short; decide, hmoved, fun h => ?_⟩
  have hbefore : s.server.m_subscribers 1 = some { deviceId := 1 } := rfl
  have hsame : t.1.m_subscribers 1 = some { deviceId := 1 } := by rw [← hbefore, ← (h 5).1]
  rw [hsame] at hmoved
  exact absurd hmoved (by decide +kernel)

end CanApi

end Kuavo
