import Kuavo.CanApi

/-!
The two ways of a parameter response through `dispatchMessage`: under the broadcast id its
value goes to the cache, and under the reply id of its device to the motor.
-/

namespace Kuavo

open Kuavo.Lib.Bits Kuavo.Lib.Runs Kuavo.Utility

/-- The registers that the cache keeps. -/
def isCachedRid (rid : ℕ) : Bool :=
  rid = RID_BUS_VOLTAGE || rid = RID_BUS_CURRENT || rid = RID_REFLECTED_ROTOR_INERTIA

/-- The value that a response carries. -/
def DataFrame.paramValue (data : DataFrame) : Lib.Binary32.Value :=
  decodeParam data.b3.toNat data.b4 data.b5 data.b6 data.b7

variable (undef : Lib.Binary32.Value → ℤ)

namespace Motor

/-- `getParam`, with `-1` for a register that was never read. -/
def getParam (m : Motor) (RID : ℕ) : ℤ := (m.paramDict RID).getD (-1)

lemma callback_param (m : Motor) (cache : MotorParamCache) {data : DataFrame}
    (hcmd : data.b2 = 0x33 ∨ data.b2 = 0x55) (now : UInt64) :
    m.callback undef cache data.toList now =
      (m.setTempParam data.b3.toNat (data.paramValue.toInt undef),
        if m.hasParamCache then cache.store (m.deviceId - 1) data.b3.toNat data.paramValue
        else cache) := by
  simp [callback, parseMotorParamData, DataFrame.toList, hcmd, DataFrame.paramValue]

@[simp] lemma getParam_setTempParam (m : Motor) (RID : ℕ) (val : ℤ) :
    (m.setTempParam RID val).getParam RID = val := by
  simp [getParam, setTempParam]

end Motor

/-! ### Who handles a message -/

namespace UdpServer

/-- The slot whose `packetHandler` runs when no one waits for the frame. -/
def handlerUnsolicited (s : UdpServer) (FrameId : ℕ) : Option ℤ :=
  (s.subscriber? (int32 FrameId - 0x10)).map fun _ => int32 FrameId - 0x10

/-- The slot whose `packetHandler` runs for a frame that may be waited for. -/
def handlerReply (s : UdpServer) (FrameId : ℕ) : Option ℤ :=
  match s.m_frameIds (int32 FrameId) with
  | none => s.handlerUnsolicited FrameId
  | some handle =>
    match s.m_canHandles handle with
    | none => none
    | some storage =>
      match s.subscriber? storage.deviceId with
      | some _ => some storage.deviceId
      | none => s.handlerUnsolicited FrameId

/-- The slot whose `packetHandler` runs for a frame, if any does. -/
def handler? (s : UdpServer) (frame : CANFrame) : Option ℤ :=
  let FrameId := bswap32 frame.FrameId
  if FrameId = 0x7ff ∧ (frame.data.b2 = 0x33 ∨ frame.data.b2 = 0x55) ∧ s.hasParamCache then none
  else s.handlerReply (if FrameId = 0x7ff then frame.data.b0.toNat else FrameId)

/-- The slots after the handler of `slot` was given the frame. -/
def handled (s : UdpServer) (cache : MotorParamCache) (frame : CANFrame) (now : UInt64) :
    Option ℤ → ℤ → Option Motor
  | none => s.m_subscribers
  | some deviceId =>
    Function.update s.m_subscribers deviceId
      ((s.m_subscribers deviceId).map fun m => (m.callback undef cache frame.data.toList now).1)

lemma subscribers_dispatchUnsolicited (s : UdpServer) (cache : MotorParamCache) (FrameId : ℕ)
    (frame : CANFrame) (now : UInt64) :
    (s.dispatchUnsolicited undef cache FrameId frame now).1.m_subscribers =
      s.handled undef cache frame now (s.handlerUnsolicited FrameId) := by
  unfold dispatchUnsolicited handlerUnsolicited
  dsimp only
  cases hm : s.subscriber? (int32 FrameId - 0x10) with
  | none => rfl
  | some m =>
    simp only [Option.map_some, handled, deliver]
    rw [subscriber?_eq_some hm, Option.map_some]

lemma subscribers_dispatchReply (s : UdpServer) (cache : MotorParamCache) (FrameId : ℕ)
    (frame : CANFrame) (now : UInt64) :
    (s.dispatchReply undef cache FrameId frame now).1.m_subscribers =
      s.handled undef cache frame now (s.handlerReply FrameId) := by
  unfold dispatchReply handlerReply
  cases s.m_frameIds (int32 FrameId) with
  | none => exact subscribers_dispatchUnsolicited undef s cache FrameId frame now
  | some handle =>
    -- the table of replies has no say in who handles the frame
    simp only [eraseFrameId_m_canHandles, eraseFrameId_subscriber?]
    cases s.m_canHandles handle with
    | none => rfl
    | some storage =>
      dsimp only
      cases hm : s.subscriber? storage.deviceId with
      | none =>
        exact subscribers_dispatchUnsolicited undef (s.eraseFrameId (int32 FrameId)) cache
          FrameId frame now
      | some m =>
        simp only [handled, setReplyEvent, deliver]
        rw [subscriber?_eq_some hm, Option.map_some]
        rfl

/-- `handler?` names the one motor that a message reaches. -/
theorem subscribers_dispatchMessage (s : UdpServer) (cache : MotorParamCache) (frame : CANFrame)
    (now : UInt64) :
    (s.dispatchMessage undef cache frame now).1.m_subscribers =
      s.handled undef cache frame now (s.handler? frame) := by
  rw [dispatchMessage_eq, handler?]
  by_cases hparam : bswap32 frame.FrameId = 0x7ff ∧
      (frame.data.b2 = 0x33 ∨ frame.data.b2 = 0x55) ∧ s.hasParamCache
  · rw [if_pos hparam, if_pos hparam]
    unfold dispatchParam
    dsimp only
    cases s.m_frameIds frame.data.b0.toNat <;> rfl
  · rw [if_neg hparam, if_neg hparam]
    exact subscribers_dispatchReply undef s cache _ frame now

end UdpServer

/-! ### What the two ways leave -/

namespace CanApi

/-- A parameter response of device `d` under its reply id. -/
structure IsDirectResponse (d : ℕ) (frame : CANFrame) : Prop where
  id : bswap32 frame.FrameId = d + 0x10
  device : frame.data.b0.toNat = d
  cmd : frame.data.b2 = 0x33 ∨ frame.data.b2 = 0x55

/-- What can be read after a message: the cache, and what `getParam` of a motor gives. -/
def observe (d rid : ℕ) (r : UdpServer × MotorParamCache) : MotorParamCache × Option ℤ :=
  (r.2, (r.1.m_subscribers d).map fun m => m.getParam rid)

/-- Under the broadcast id the cache takes the value, and no motor hears of it. -/
lemma observe_broadcast {s : CanApi} {d : ℕ} (hd : 1 ≤ d ∧ d ≤ 12) {m : Motor}
    (hm : s.server.m_subscribers d = some m) (hcache : s.server.hasParamCache = true)
    {frame : CANFrame} (hf : IsParamResponse d frame) (now : UInt64) (rid : ℕ) :
    observe d rid (s.server.dispatchMessage undef s.cache frame now) =
      (s.cache.store (d - 1) frame.data.b3.toNat frame.data.paramValue,
        some (m.getParam rid)) := by
  have hidx : 1 ≤ frame.data.b0.toNat ∧ frame.data.b0.toNat - 1 < UdpServer.NUM_MOTORS := by
    rw [hf.device]
    unfold UdpServer.NUM_MOTORS
    omega
  rw [dispatchMessage_param undef hf hcache]
  unfold UdpServer.dispatchParam observe
  dsimp only
  rw [if_pos hidx, hf.device]
  cases s.server.m_frameIds d with
  | none => simp [hm, DataFrame.paramValue]
  | some handle =>
    simp [UdpServer.setReplyEvent, UdpServer.eraseFrameId, hm, DataFrame.paramValue]

lemma subscriber?_device {s : UdpServer} {d : ℕ} (hd : d ≤ 12) {m : Motor}
    (hm : s.m_subscribers d = some m) : s.subscriber? d = some m := by
  unfold UdpServer.subscriber?
  rw [if_pos ⟨by omega, by unfold UdpServer.MAX_DEVICE_ID; omega⟩, hm]

lemma int32_replyId {d : ℕ} (hd : d ≤ 12) : int32 (d + 0x10) = ((d + 0x10 : ℕ) : ℤ) := by
  unfold int32
  rw [if_pos (by omega)]

/-- An entry under the reply id of a device leads back to it. -/
lemma Inv.storage_of_pending {s : CanApi} (hs : Inv s) {d : ℕ} (hd : d ≤ 12) {h : HAL_CANHandle}
    (hk : s.server.m_frameIds (d + 0x10 : ℕ) = some h) :
    ∃ can, s.storage? h = some can ∧ can.deviceId = d ∧ can.masterId = d + 0x10 := by
  rcases hs.pending hk with ⟨hz, -⟩ | ⟨can, hcan, hmas⟩
  · omega
  · obtain ⟨hlt, hid⟩ := hs.storage hcan
    exact ⟨can, hcan, by omega, by omega⟩

/-- Under the reply id, with a reply pending: the entry goes, the callback runs, and the event of
the handle is set. -/
lemma dispatchMessage_pending {s : CanApi} (hs : Inv s) {d : ℕ} (hd : d ≤ 12) {m : Motor}
    (hm : s.server.m_subscribers d = some m) {frame : CANFrame}
    (hid : bswap32 frame.FrameId = d + 0x10) {h : HAL_CANHandle}
    (hk : s.server.m_frameIds (d + 0x10 : ℕ) = some h) (now : UInt64) :
    let r := (s.server.eraseFrameId (d + 0x10 : ℕ)).deliver undef s.cache d m frame now
    s.server.dispatchMessage undef s.cache frame now = (r.1.setReplyEvent h, r.2) := by
  obtain ⟨can, hcan, hdev, -⟩ := hs.storage_of_pending hd hk
  intro r
  set s' := s.server.eraseFrameId ((d + 0x10 : ℕ) : ℤ) with hs'
  have hcan' : s'.m_canHandles h = some can := hcan
  have hsub : s'.subscriber? d = some m := subscriber?_device hd hm
  have h7 : d + 0x10 ≠ 0x7ff := by omega
  simp only [UdpServer.dispatchMessage_eq, hid, h7, false_and, if_false]
  unfold UdpServer.dispatchReply
  simp only [int32_replyId hd, hk, ← hs', hcan', hdev, hsub]
  rfl

/-- Under the reply id the motor's callback runs, whether a reply is waited for or not. -/
lemma dispatchMessage_direct {s : CanApi} (hs : Inv s) {d : ℕ} (hd : d ≤ 12) {m : Motor}
    (hm : s.server.m_subscribers d = some m) {frame : CANFrame}
    (hid : bswap32 frame.FrameId = d + 0x10) (now : UInt64) :
    let r := s.server.dispatchMessage undef s.cache frame now
    r.1.m_subscribers =
        Function.update s.server.m_subscribers d
          (some (m.callback undef s.cache frame.data.toList now).1) ∧
      r.2 = (m.callback undef s.cache frame.data.toList now).2 := by
  intro r
  cases hk : s.server.m_frameIds ((d + 0x10 : ℕ) : ℤ) with
  | none =>
    have hr : r = s.server.deliver undef s.cache d m frame now :=
      UdpServer.dispatchMessage_feedback undef hd hm hk s.cache hid now
    rw [hr]
    exact ⟨rfl, rfl⟩
  | some h =>
    have hr := dispatchMessage_pending undef hs hd hm hid hk now
    change r = _ at hr
    rw [hr]
    exact ⟨rfl, rfl⟩

lemma observe_direct {s : CanApi} (hs : Inv s) {d : ℕ} (hd : d ≤ 12) {m : Motor}
    (hm : s.server.m_subscribers d = some m) {frame : CANFrame} (hf : IsDirectResponse d frame)
    (now : UInt64) :
    observe d frame.data.b3.toNat (s.server.dispatchMessage undef s.cache frame now) =
      (if m.hasParamCache then
          s.cache.store (d - 1) frame.data.b3.toNat frame.data.paramValue
        else s.cache, some (frame.data.paramValue.toInt undef)) := by
  obtain ⟨hmotor, hcache⟩ := dispatchMessage_direct undef hs hd hm hf.id now
  have hslot : m.deviceId = d := by exact_mod_cast hs.slot hm
  rw [m.callback_param undef s.cache hf.cmd now] at hmotor hcache
  simp [observe, hmotor, hcache, hslot]

/-- The two ways leave the same, and a register that is not cached reaches the motor's callback
under the broadcast id too. -/
def SameResponse (s : CanApi) (d : ℕ) (broadcast direct : CANFrame) (now now' : UInt64) : Prop :=
  let rid := broadcast.data.b3.toNat
  observe d rid (s.server.dispatchMessage undef s.cache broadcast now) =
      observe d rid (s.server.dispatchMessage undef s.cache direct now') ∧
    (isCachedRid rid = false → s.server.handler? broadcast = some (d : ℤ))

lemma handler?_broadcast {s : UdpServer} {d : ℕ} (hcache : s.hasParamCache = true)
    {frame : CANFrame} (hf : IsParamResponse d frame) : s.handler? frame = none := by
  unfold UdpServer.handler?
  rw [if_pos ⟨hf.id, hf.cmd, hcache⟩]

/-- **When the two ways agree.** Only on a register that the cache keeps, where `getParam`
already gives what the response says, and the motor has the cache too or the cache already
holds the value. -/
theorem sameResponse_iff (serverId maxCanDevice : ℕ) (cache : MotorParamCache) (l : List Input)
    {d : ℕ} (hd : 1 ≤ d ∧ d ≤ 12) {m : Motor} {broadcast direct : CANFrame}
    (hb : IsParamResponse d broadcast) (hdir : IsDirectResponse d direct)
    (hdata : direct.data = broadcast.data) (now now' : UInt64) :
    let s := run (step undef) (start serverId maxCanDevice cache) l
    let rid := broadcast.data.b3.toNat
    let value := broadcast.data.paramValue
    s.server.m_subscribers d = some m → s.server.hasParamCache = true →
    (SameResponse undef s d broadcast direct now now' ↔
      isCachedRid rid = true ∧ m.getParam rid = value.toInt undef ∧
        (m.hasParamCache = true ∨ s.cache.store (d - 1) rid value = s.cache)) := by
  intro s rid value hm hcache
  have hs : Inv s := inv_run undef serverId maxCanDevice cache l
  have hobs := observe_direct undef hs hd.2 hm hdir now'
  rw [hdata] at hobs
  unfold SameResponse
  dsimp only
  rw [hobs, observe_broadcast undef hd hm hcache hb, handler?_broadcast hcache hb, Prod.mk.injEq,
    Option.some.injEq]
  change (s.cache.store (d - 1) rid value = (if m.hasParamCache then
      s.cache.store (d - 1) rid value else s.cache) ∧ m.getParam rid = value.toInt undef) ∧
    (isCachedRid rid = false → none = some (d : ℤ)) ↔ _
  have hreach : (isCachedRid rid = false → none = some (d : ℤ)) ↔ isCachedRid rid = true := by
    cases isCachedRid rid <;> simp
  have hstore : (s.cache.store (d - 1) rid value = if m.hasParamCache then
      s.cache.store (d - 1) rid value else s.cache) ↔
      (m.hasParamCache = true ∨ s.cache.store (d - 1) rid value = s.cache) := by
    cases m.hasParamCache <;> simp
  rw [hreach, hstore]
  tauto

/-- Register `0x0a` of motor `1`, with the value `2`. -/
def modeData : DataFrame := ⟨1, 0, 0x33, 0x0a, 2, 0, 0, 0⟩

lemma modeData_broadcast : IsParamResponse 1 (.modify 0x7ff modeData) :=
  ⟨by decide, by decide, by decide⟩

lemma modeData_direct : IsDirectResponse 1 (.modify 0x11 modeData) :=
  ⟨by decide, by decide, by decide⟩

theorem sameResponse_iff_one :
    let s := run (step fun _ => 0) (start 0 6 emptyCache)
      [.setParamCache true, .subscribe { deviceId := 1 }]
    SameResponse (fun _ => 0) s 1 (.modify 0x7ff modeData) (.modify 0x11 modeData) 0 0 ↔
      isCachedRid modeData.b3.toNat = true ∧
        ({ deviceId := 1 } : Motor).getParam modeData.b3.toNat =
          modeData.paramValue.toInt (fun _ => 0) ∧
        (true = true ∨ s.cache.store (1 - 1) modeData.b3.toNat modeData.paramValue = s.cache) := by
  intro s
  have hm : s.server.m_subscribers 1 = some { deviceId := 1 } := rfl
  exact sameResponse_iff (fun _ => 0) 0 6 emptyCache _ ⟨by decide, by decide⟩
    modeData_broadcast modeData_direct rfl 0 0 hm rfl

/-- Under the broadcast id the register stays unread, and no callback runs. -/
theorem mode_response_differs :
    let s := run (step fun _ => 0) (start 0 6 emptyCache)
      [.setParamCache true, .subscribe { deviceId := 1 }]
    let seen (id : ℕ) := observe 1 0x0a
      (s.server.dispatchMessage (fun _ => 0) s.cache (.modify id modeData) 0)
    (seen 0x7ff).2 = some (-1) ∧ (seen 0x11).2 = some 2 ∧
      s.server.handler? (.modify 0x7ff modeData) = none ∧
      ¬ SameResponse (fun _ => 0) s 1 (.modify 0x7ff modeData) (.modify 0x11 modeData) 0 0 := by
  intro s seen
  have hbroadcast : (seen 0x7ff).2 = some (-1) := by decide
  have hdirect : (seen 0x11).2 = some 2 := by decide +kernel
  refine ⟨hbroadcast, hdirect, by decide, fun h => ?_⟩
  have heq : (seen 0x7ff).2 = (seen 0x11).2 := congrArg Prod.snd h.1
  rw [hbroadcast, hdirect] at heq
  exact absurd heq (by decide)

end CanApi

end Kuavo
