import Kuavo.ParamResponse

/-!
Who is called for a message, how often and with what.

The way of a frame to a handler leads through the table of pending replies, the handles and the
slots of the subscribers, with returns in between. Under the reply id of a subscribed motor it
ends at the handler of that motor, once, whatever the tables hold.
-/

namespace Kuavo

open Kuavo.Lib.Bits Kuavo.Lib.Runs Kuavo.Utility

namespace UdpServer

/-! ### The calls of a message -/

/-- The handler of the motor that the reply id names. -/
def callsUnsolicited (s : UdpServer) (FrameId : ℕ) (frame : CANFrame) : List HandlerCall :=
  let derivedDeviceId := int32 FrameId - 0x10
  match s.subscriber? derivedDeviceId with
  | some _ => [⟨derivedDeviceId, frame.data.toList⟩]
  | none => []

/-- The handler of the device whose reply is waited for; where it has none, the one that the
reply id names. A handle that is not known ends the dispatch. -/
def callsReply (s : UdpServer) (FrameId : ℕ) (frame : CANFrame) : List HandlerCall :=
  match s.m_frameIds (int32 FrameId) with
  | none => s.callsUnsolicited FrameId frame
  | some handle =>
    match s.m_canHandles handle with
    | none => []
    | some storage =>
      match s.subscriber? storage.deviceId with
      | some _ => [⟨storage.deviceId, frame.data.toList⟩]
      | none => s.callsUnsolicited FrameId frame

/-- A parameter response that goes to the cache and to no motor. -/
def ForCache (s : UdpServer) (frame : CANFrame) : Prop :=
  bswap32 frame.FrameId = 0x7ff ∧ (frame.data.b2 = 0x33 ∨ frame.data.b2 = 0x55) ∧ s.hasParamCache

instance (s : UdpServer) (frame : CANFrame) : Decidable (s.ForCache frame) :=
  inferInstanceAs (Decidable (_ ∧ _))

/-- The handlers that `dispatchMessage` calls, in order. -/
def calls (s : UdpServer) (frame : CANFrame) : List HandlerCall :=
  let FrameId := bswap32 frame.FrameId
  if s.ForCache frame then []
  else s.callsReply (if FrameId = 0x7ff then frame.data.b0.toNat else FrameId) frame

variable (undef : Lib.Binary32.Value → ℤ)

/-- Runs one call: the callback of the motor in the slot. -/
def runCall (now : UInt64) (p : (ℤ → Option Motor) × MotorParamCache) (c : HandlerCall) :
    (ℤ → Option Motor) × MotorParamCache :=
  match p.1 c.deviceId with
  | some m =>
    let r := m.callback undef p.2 c.data now
    (Function.update p.1 c.deviceId (some r.1), r.2)
  | none => p

/-- Slots and cache after the calls. -/
def runCalls (now : UInt64) (s : UdpServer) (cache : MotorParamCache) (l : List HandlerCall) :
    (ℤ → Option Motor) × MotorParamCache :=
  l.foldl (runCall undef now) (s.m_subscribers, cache)

/-- From `s` on exactly the calls `l` have been made, and motors and cache are what they make. -/
structure Made (now : UInt64) (s : UdpServer) (cache : MotorParamCache) (l : List HandlerCall)
    (r : UdpServer × MotorParamCache) : Prop where
  called : r.1.called = s.called ++ l
  left : (r.1.m_subscribers, r.2) = runCalls undef now s cache l

lemma made_none (s : UdpServer) (cache : MotorParamCache) (now : UInt64) :
    Made undef now s cache [] (s, cache) :=
  ⟨(List.append_nil _).symm, rfl⟩

lemma made_deliver {s : UdpServer} {deviceId : ℤ} {m : Motor}
    (hm : s.subscriber? deviceId = some m) (cache : MotorParamCache) (frame : CANFrame)
    (now : UInt64) :
    Made undef now s cache [⟨deviceId, frame.data.toList⟩]
      (s.deliver undef cache deviceId m frame now) := by
  refine ⟨rfl, ?_⟩
  simp only [runCalls, List.foldl_cons, List.foldl_nil, runCall, subscriber?_eq_some hm, deliver]

lemma made_dispatchUnsolicited (s : UdpServer) (cache : MotorParamCache) (FrameId : ℕ)
    (frame : CANFrame) (now : UInt64) :
    Made undef now s cache (s.callsUnsolicited FrameId frame)
      (s.dispatchUnsolicited undef cache FrameId frame now) := by
  unfold dispatchUnsolicited callsUnsolicited
  dsimp only
  cases hm : s.subscriber? (int32 FrameId - 0x10) with
  | none => exact made_none undef s cache now
  | some m => exact made_deliver undef hm cache frame now

lemma made_dispatchReply (s : UdpServer) (cache : MotorParamCache) (FrameId : ℕ)
    (frame : CANFrame) (now : UInt64) :
    Made undef now s cache (s.callsReply FrameId frame)
      (s.dispatchReply undef cache FrameId frame now) := by
  unfold dispatchReply callsReply
  cases s.m_frameIds (int32 FrameId) with
  | none => exact made_dispatchUnsolicited undef s cache FrameId frame now
  | some handle =>
    -- neither slots nor handles nor calls are in the table of replies
    have herased {l : List HandlerCall} {r : UdpServer × MotorParamCache}
        (h : Made undef now (s.eraseFrameId (int32 FrameId)) cache l r) :
        Made undef now s cache l r := ⟨h.called, h.left⟩
    simp only [eraseFrameId_m_canHandles, eraseFrameId_subscriber?]
    cases s.m_canHandles handle with
    | none => exact herased (made_none undef _ cache now)
    | some storage =>
      dsimp only
      cases hm : s.subscriber? storage.deviceId with
      | none =>
        exact herased (made_dispatchUnsolicited undef (s.eraseFrameId (int32 FrameId)) cache FrameId
          frame now)
      | some m =>
        have hmade := made_deliver undef (s := s.eraseFrameId (int32 FrameId)) hm cache frame now
        exact herased ⟨hmade.called, hmade.left⟩

/-- A message that is not for the cache makes its calls, and what it leaves of motors and cache
is what they make of them. -/
theorem made_dispatchMessage {s : UdpServer} {frame : CANFrame} (h : ¬ s.ForCache frame)
    (cache : MotorParamCache) (now : UInt64) :
    Made undef now s cache (s.calls frame) (s.dispatchMessage undef cache frame now) := by
  have hreply : s.dispatchMessage undef cache frame now =
      s.dispatchReply undef cache
        (if bswap32 frame.FrameId = 0x7ff then frame.data.b0.toNat else bswap32 frame.FrameId)
        frame now := if_neg h
  rw [hreply, calls, if_neg h]
  exact made_dispatchReply undef s cache _ frame now

/-- Every message makes its calls, and no others. -/
theorem called_dispatchMessage (s : UdpServer) (frame : CANFrame) (cache : MotorParamCache)
    (now : UInt64) :
    (s.dispatchMessage undef cache frame now).1.called = s.called ++ s.calls frame := by
  by_cases h : s.ForCache frame
  · have hparam : s.dispatchMessage undef cache frame now = s.dispatchParam cache frame := if_pos h
    rw [hparam, calls, if_pos h, List.append_nil]
    unfold dispatchParam
    dsimp only
    cases s.m_frameIds frame.data.b0.toNat <;> rfl
  · exact (made_dispatchMessage undef h cache now).called

lemma calls_unsolicited (s : UdpServer) (FrameId : ℕ) (frame : CANFrame) :
    s.callsUnsolicited FrameId frame =
      ((s.handlerUnsolicited FrameId).map (HandlerCall.mk · frame.data.toList)).toList := by
  unfold callsUnsolicited handlerUnsolicited
  dsimp only
  cases s.subscriber? (int32 FrameId - 0x10) with
  | none => rfl
  | some m => rfl

lemma calls_reply (s : UdpServer) (FrameId : ℕ) (frame : CANFrame) :
    s.callsReply FrameId frame =
      ((s.handlerReply FrameId).map (HandlerCall.mk · frame.data.toList)).toList := by
  unfold callsReply handlerReply
  cases s.m_frameIds (int32 FrameId) with
  | none => exact s.calls_unsolicited FrameId frame
  | some handle =>
    dsimp only
    cases s.m_canHandles handle with
    | none => rfl
    | some storage =>
      dsimp only
      cases s.subscriber? storage.deviceId with
      | none => exact s.calls_unsolicited FrameId frame
      | some m => rfl

/-- At most one handler is called, the one that `handler?` names. -/
lemma calls_eq (s : UdpServer) (frame : CANFrame) :
    s.calls frame = ((s.handler? frame).map (HandlerCall.mk · frame.data.toList)).toList := by
  by_cases h : s.ForCache frame
  · have hnone : s.handler? frame = none := if_pos h
    rw [calls, if_pos h, hnone]
    rfl
  · have hreply : s.handler? frame = s.handlerReply
        (if bswap32 frame.FrameId = 0x7ff then frame.data.b0.toNat else bswap32 frame.FrameId) :=
      if_neg h
    rw [calls, if_neg h, hreply]
    exact s.calls_reply _ frame

end UdpServer

namespace CanApi

variable (undef : Lib.Binary32.Value → ℤ)

/-! ### A frame under a reply id -/

/-- From `s` to `t` the frame has gone to the handler of device `d`, once, and to no other, and
its motor is the only one that has changed. A reply that device `d` was waited for is consumed
and its event set; what is pending for others stays. -/
structure DeliveredOnce (s t : CanApi) (d : ℕ) (m : Motor) (frame : CANFrame) (now : UInt64) :
    Prop where
  called : t.server.called = s.server.called ++ [⟨d, frame.data.toList⟩]
  motors : t.server.m_subscribers = Function.update s.server.m_subscribers d
    (some (m.callback undef s.cache frame.data.toList now).1)
  consumed : ∀ h, s.server.m_frameIds (d + 0x10 : ℕ) = some h →
    ∃ can, s.storage? h = some can ∧ can.deviceId = d ∧ Consumes h can s t
  others : ∀ k : ℤ, k ≠ (d + 0x10 : ℕ) → t.server.m_frameIds k = s.server.m_frameIds k

lemma handler?_replyId {s : CanApi} (hs : Inv s) {d : ℕ} (hd : d ≤ 12) {m : Motor}
    (hm : s.server.m_subscribers d = some m) {frame : CANFrame}
    (hid : bswap32 frame.FrameId = d + 0x10) : s.server.handler? frame = some (d : ℤ) := by
  have h7 : d + 0x10 ≠ 0x7ff := by omega
  have hsub := subscriber?_device hd hm
  have hderived : int32 (d + 0x10) - 0x10 = (d : ℤ) := by
    rw [int32_replyId hd]
    push_cast
    omega
  unfold UdpServer.handler? UdpServer.handlerReply
  simp only [hid, h7, false_and, if_false]
  cases hk : s.server.m_frameIds (int32 (d + 0x10)) with
  | none => simp only [UdpServer.handlerUnsolicited, hderived, hsub, Option.map_some]
  | some h =>
    rw [int32_replyId hd] at hk
    obtain ⟨can, hcan, hdev, -⟩ := hs.storage_of_pending hd hk
    have hcan' : s.server.m_canHandles h = some can := hcan
    simp only [hcan', hdev, hsub]

/-- The table of pending replies loses the entry of the device, and the event of the handle that
the entry names is set. -/
lemma frameIds_replyId {s : CanApi} (hs : Inv s) {d : ℕ} (hd : d ≤ 12) {m : Motor}
    (hm : s.server.m_subscribers d = some m) {frame : CANFrame}
    (hid : bswap32 frame.FrameId = d + 0x10) (now : UInt64) :
    let r := s.server.dispatchMessage undef s.cache frame now
    r.1.m_frameIds = Function.update s.server.m_frameIds (d + 0x10 : ℕ) none ∧
      ∀ h, s.server.m_frameIds (d + 0x10 : ℕ) = some h →
        (r.1.m_canHandles h).map CANStorage.replyEvent = some true := by
  intro r
  cases hk : s.server.m_frameIds ((d + 0x10 : ℕ) : ℤ) with
  | none =>
    have hr : r = s.server.deliver undef s.cache d m frame now :=
      UdpServer.dispatchMessage_feedback undef hd hm hk s.cache hid now
    refine ⟨?_, nofun⟩
    rw [hr, ← hk, Function.update_eq_self]
    rfl
  | some h =>
    obtain ⟨can, hcan, -⟩ := hs.storage_of_pending hd hk
    have hcan' : s.server.m_canHandles h = some can := hcan
    have hr := dispatchMessage_pending undef hs hd hm hid hk now
    change r = _ at hr
    rw [hr]
    refine ⟨rfl, fun h' hh' => ?_⟩
    obtain rfl : h = h' := Option.some.inj hh'
    simp [UdpServer.setReplyEvent, UdpServer.deliver, UdpServer.eraseFrameId, hcan']

/-- **Feedback reaches its motor**, once and no other, in every state that the calls of the API
lead to, whether a reply is waited for or not. -/
theorem delivered_once (serverId maxCanDevice : ℕ) (cache : MotorParamCache) (l : List Input)
    {d : ℕ} (hd : 1 ≤ d ∧ d ≤ 12) {m : Motor} {frame : CANFrame}
    (hid : bswap32 frame.FrameId = d + 0x10) (now : UInt64) :
    let s := run (step undef) (start serverId maxCanDevice cache) l
    s.server.m_subscribers d = some m →
      DeliveredOnce undef s (step undef s (.message frame now)) d m frame now := by
  intro s hm
  have hs : Inv s := inv_run undef serverId maxCanDevice cache l
  have hhandler := handler?_replyId hs hd.2 hm hid
  obtain ⟨htable, hevent⟩ := frameIds_replyId undef hs hd.2 hm hid now
  refine ⟨?_, ?_, fun h hk => ?_, fun k hk => ?_⟩
  · have hcalls : s.server.calls frame = [⟨d, frame.data.toList⟩] := by
      rw [UdpServer.calls_eq, hhandler]
      rfl
    exact hcalls ▸ s.server.called_dispatchMessage undef frame s.cache now
  · exact (dispatchMessage_direct undef hs hd.2 hm hid now).1
  · obtain ⟨can, hcan, hdev, hmas⟩ := hs.storage_of_pending hd.2 hk
    rw [← hmas] at hk htable
    exact ⟨can, hcan, hdev, ⟨hk, htable, hevent h (by rwa [hmas] at hk)⟩⟩
  · change (s.server.dispatchMessage undef s.cache frame now).1.m_frameIds k = _
    rw [htable, Function.update_of_ne hk]

/-- Device `1` answers on its reply id while replies of devices `1` and `2` are waited for. -/
theorem delivered_once_one :
    let s := run (step fun _ => 0) (start 0 6 emptyCache)
      [.initializeCAN .Dm 1, .initializeCAN .Dm 2, .subscribe { deviceId := 1 },
        .writePacket 0 0x02 8 true 13, .writePacket 1 0x02 8 true 13]
    s.server.m_frameIds 0x11 = some 0 ∧ s.server.m_frameIds 0x12 = some 1 ∧
      DeliveredOnce (fun _ => 0) s (step (fun _ => 0) s (.message (.modify 0x11 modeData) 0)) 1
        { deviceId := 1 } (.modify 0x11 modeData) 0 :=
  ⟨by decide, by decide,
    delivered_once (fun _ => 0) 0 6 emptyCache _ ⟨by decide, by decide⟩ (by decide) 0 rfl⟩

end CanApi

end Kuavo
