import Kuavo.UdpServer
import Kuavo.Lib.Runs

/-!
`lib/motor/CANAPI.cpp` over one `UdpServer`: handles, what is written under them, and the
table of the replies that are waited for.
-/

namespace Kuavo

open Kuavo.Lib.Bits Kuavo.Lib.Runs Kuavo.Utility

namespace UdpServer

/-- `sendMsg`: the reply is registered before the frame goes out, and taken back when too few
bytes were sent. A failed `sendto` counts as a `size_t`, which is not too few. -/
def sendMsg (s : UdpServer) (frameId : CANFrameId) (dataSize : ℕ) (reply : Bool)
    (numBytesSent : ℕ) : UdpServer :=
  let key : ℤ := int32 frameId.replyCANId
  let s :=
    if reply then { s with m_frameIds := Function.update s.m_frameIds key (some frameId.hanlde) }
    else s
  if numBytesSent < dataSize ∧ reply then s.eraseFrameId key else s

lemma frameIds_sendMsg (s : UdpServer) (frameId : CANFrameId) (dataSize : ℕ) (reply : Bool)
    (numBytesSent : ℕ) :
    (s.sendMsg frameId dataSize reply numBytesSent).m_frameIds =
      if reply then
        Function.update s.m_frameIds (int32 frameId.replyCANId)
          (if numBytesSent < dataSize then none else some frameId.hanlde)
      else s.m_frameIds := by
  by_cases hsent : numBytesSent < dataSize <;> cases reply <;>
    simp [sendMsg, hsent, eraseFrameId]

/-- Sending touches the table of replies alone. -/
lemma sendMsg_frame (s : UdpServer) (frameId : CANFrameId) (dataSize : ℕ) (reply : Bool)
    (numBytesSent : ℕ) :
    (s.sendMsg frameId dataSize reply numBytesSent).m_canHandles = s.m_canHandles ∧
      (s.sendMsg frameId dataSize reply numBytesSent).m_subscribers = s.m_subscribers := by
  by_cases hsent : numBytesSent < dataSize <;> cases reply <;>
    simp [sendMsg, hsent, eraseFrameId]

/-- `subscribe` fills the slot of a device id that is in range. -/
def subscribe (s : UdpServer) (m : Motor) : UdpServer :=
  if (m.deviceId : ℤ) ≤ MAX_DEVICE_ID then
    { s with m_subscribers := Function.update s.m_subscribers m.deviceId (some m) }
  else s

/-! ### What a message keeps -/

/-- What `HAL_InitializeCAN` wrote. -/
def ids (can : CANStorage) : HAL_CANManufacturer × ℕ × ℕ :=
  (can.manufacturer, can.deviceId, can.masterId)

/-- Handles keep their devices and slots their motors, and pending replies are only taken
out. -/
structure Kept (s t : UdpServer) : Prop where
  frameIds : ∀ {k h}, t.m_frameIds k = some h → s.m_frameIds k = some h
  handles : ∀ h, (t.m_canHandles h).map ids = (s.m_canHandles h).map ids
  motors : ∀ k, (t.m_subscribers k).map Motor.deviceId = (s.m_subscribers k).map Motor.deviceId

lemma Kept.refl (s : UdpServer) : Kept s s := ⟨id, fun _ => rfl, fun _ => rfl⟩

lemma Kept.trans {s t u : UdpServer} (h : Kept s t) (h' : Kept t u) : Kept s u where
  frameIds hk := h.frameIds (h'.frameIds hk)
  handles k := (h'.handles k).trans (h.handles k)
  motors k := (h'.motors k).trans (h.motors k)

lemma kept_eraseFrameId (s : UdpServer) (k : ℤ) : Kept s (s.eraseFrameId k) where
  frameIds {j h} hj := by
    by_cases hjk : j = k
    · simp [eraseFrameId, hjk] at hj
    · simpa [eraseFrameId, hjk] using hj
  handles _ := rfl
  motors _ := rfl

lemma kept_setReplyEvent (s : UdpServer) (handle : HAL_CANHandle) :
    Kept s (s.setReplyEvent handle) where
  frameIds h := h
  handles h := by
    by_cases hh : h = handle
    · subst hh
      cases hs : s.m_canHandles h <;> simp [setReplyEvent, hs, ids]
    · simp [setReplyEvent, hh]
  motors _ := rfl

variable (undef : Lib.Binary32.Value → ℤ)

lemma kept_deliver {s : UdpServer} {deviceId : ℤ} {m : Motor}
    (hm : s.m_subscribers deviceId = some m) (cache : MotorParamCache) (frame : CANFrame)
    (now : UInt64) : Kept s (s.deliver undef cache deviceId m frame now).1 where
  frameIds h := h
  handles _ := rfl
  motors k := by
    by_cases hk : k = deviceId
    · simp [deliver, hk, hm]
    · simp [deliver, hk]

lemma subscriber?_eq_some {s : UdpServer} {deviceId : ℤ} {m : Motor}
    (h : s.subscriber? deviceId = some m) : s.m_subscribers deviceId = some m := by
  unfold subscriber? at h
  split_ifs at h
  exact h

lemma kept_dispatchParam (s : UdpServer) (cache : MotorParamCache) (frame : CANFrame) :
    Kept s (s.dispatchParam cache frame).1 := by
  unfold dispatchParam
  dsimp only
  cases s.m_frameIds frame.data.b0.toNat with
  | none => exact Kept.refl s
  | some handle => exact (kept_eraseFrameId s _).trans (kept_setReplyEvent _ handle)

lemma kept_dispatchUnsolicited (s : UdpServer) (cache : MotorParamCache) (FrameId : ℕ)
    (frame : CANFrame) (now : UInt64) :
    Kept s (s.dispatchUnsolicited undef cache FrameId frame now).1 := by
  unfold dispatchUnsolicited
  dsimp only
  cases hm : s.subscriber? (int32 FrameId - 0x10) with
  | none => exact Kept.refl s
  | some m => exact kept_deliver undef (subscriber?_eq_some hm) cache frame now

/-- What `dispatchMessage` does with a frame that is no parameter response for the cache. -/
def dispatchReply (s : UdpServer) (cache : MotorParamCache) (FrameId : ℕ) (frame : CANFrame)
    (now : UInt64) : UdpServer × MotorParamCache :=
  match s.m_frameIds (int32 FrameId) with
  | none => s.dispatchUnsolicited undef cache FrameId frame now
  | some handle =>
    let s := s.eraseFrameId (int32 FrameId)
    match s.m_canHandles handle with
    | none => (s, cache)
    | some storage =>
      match s.subscriber? storage.deviceId with
      | some m =>
        let r := s.deliver undef cache storage.deviceId m frame now
        (r.1.setReplyEvent handle, r.2)
      | none => s.dispatchUnsolicited undef cache FrameId frame now

lemma dispatchMessage_eq (s : UdpServer) (cache : MotorParamCache) (frame : CANFrame)
    (now : UInt64) :
    s.dispatchMessage undef cache frame now =
      if bswap32 frame.FrameId = 0x7ff ∧ (frame.data.b2 = 0x33 ∨ frame.data.b2 = 0x55) ∧
          s.hasParamCache then
        s.dispatchParam cache frame
      else
        s.dispatchReply undef cache
          (if bswap32 frame.FrameId = 0x7ff then frame.data.b0.toNat else bswap32 frame.FrameId)
          frame now := rfl

lemma kept_dispatchReply (s : UdpServer) (cache : MotorParamCache) (FrameId : ℕ)
    (frame : CANFrame) (now : UInt64) :
    Kept s (s.dispatchReply undef cache FrameId frame now).1 := by
  unfold dispatchReply
  cases s.m_frameIds (int32 FrameId) with
  | none => exact kept_dispatchUnsolicited undef s cache FrameId frame now
  | some handle =>
    have herase := kept_eraseFrameId s (int32 FrameId)
    dsimp only
    generalize s.eraseFrameId (int32 FrameId) = s' at herase ⊢
    cases s'.m_canHandles handle with
    | none => exact herase
    | some storage =>
      dsimp only
      cases hm : s'.subscriber? storage.deviceId with
      | none => exact herase.trans (kept_dispatchUnsolicited undef s' cache FrameId frame now)
      | some m =>
        have hdeliver := kept_deliver undef (subscriber?_eq_some hm) cache frame now
        exact (herase.trans hdeliver).trans (kept_setReplyEvent _ handle)

theorem kept_dispatchMessage (s : UdpServer) (cache : MotorParamCache) (frame : CANFrame)
    (now : UInt64) : Kept s (s.dispatchMessage undef cache frame now).1 := by
  rw [dispatchMessage_eq]
  split_ifs
  · exact kept_dispatchParam s cache frame
  · exact kept_dispatchReply undef s cache _ frame now
  · exact kept_dispatchReply undef s cache _ frame now

end UdpServer

/-- The server that a device is bound to. -/
def serverOf (maxCanDevice deviceId : ℕ) : ℕ := if deviceId < maxCanDevice then 0 else 1

/-- One server, the handles, of which it shares the table with the other server, and the
cache. -/
structure CanApi where
  serverId : ℕ
  maxCanDevice : ℕ
  server : UdpServer
  cache : MotorParamCache
  /-- `canHandles->size()`. -/
  size : ℕ

namespace CanApi

inductive Input
  | initializeCAN (manufacturer : HAL_CANManufacturer) (deviceId : ℕ)
  | subscribe (m : Motor)
  | setParamCache (present : Bool)
  /-- `HAL_WriteCANPacket`, and the other functions that send under a handle. -/
  | writePacket (handle : HAL_CANHandle) (apiId dataSize : ℕ) (reply : Bool) (numBytesSent : ℕ)
  | message (frame : CANFrame) (now : UInt64)
  /-- The other server sets the event of a handle, or someone waits for it or resets it. -/
  | replyEvent (handle : HAL_CANHandle) (value : Bool)

def storage? (s : CanApi) (handle : HAL_CANHandle) : Option CANStorage :=
  s.server.m_canHandles handle

def initializeCAN (s : CanApi) (manufacturer : HAL_CANManufacturer) (deviceId : ℕ) : CanApi :=
  { s with
    server.m_canHandles := Function.update s.server.m_canHandles s.size
      (some (HAL_InitializeCAN manufacturer deviceId))
    size := s.size + 1 }

def writePacket (s : CanApi) (handle : HAL_CANHandle) (apiId dataSize : ℕ) (reply : Bool)
    (numBytesSent : ℕ) : CanApi :=
  match s.storage? handle with
  | none => s
  | some can =>
    if serverOf s.maxCanDevice can.deviceId = s.serverId then
      { s with
        server := s.server.sendMsg (CreateCANId can apiId handle) dataSize reply numBytesSent }
    else s

variable (undef : Lib.Binary32.Value → ℤ)

def step (s : CanApi) : Input → CanApi
  | .initializeCAN manufacturer deviceId => s.initializeCAN manufacturer deviceId
  | .subscribe m =>
    if serverOf s.maxCanDevice m.deviceId = s.serverId then
      { s with server := s.server.subscribe m }
    else s
  | .setParamCache present => { s with server.hasParamCache := present }
  | .writePacket handle apiId dataSize reply numBytesSent =>
    s.writePacket handle apiId dataSize reply numBytesSent
  | .message frame now =>
    let r := s.server.dispatchMessage undef s.cache frame now
    { s with server := r.1, cache := r.2 }
  | .replyEvent handle value =>
    { s with
      server.m_canHandles := Function.update s.server.m_canHandles handle
        ((s.storage? handle).map fun can => { can with replyEvent := value }) }

/-- Before the first handle and the first subscription. -/
def start (serverId maxCanDevice : ℕ) (cache : MotorParamCache) : CanApi where
  serverId := serverId
  maxCanDevice := maxCanDevice
  server := { m_subscribers := fun _ => none, hasParamCache := false }
  cache := cache
  size := 0

/-! ### The table of pending replies -/

/-- Handles are given out in order, and an entry of the table is filed under the reply id of
its handle. A handle of another maker is filed under `0`, as handle `0`. -/
structure Inv (s : CanApi) : Prop where
  fresh : ∀ {h}, s.size ≤ h → s.storage? h = none
  storage : ∀ {h can}, s.storage? h = some can →
    can.deviceId < 256 ∧ can.masterId = (can.deviceId + 0x10) % 256
  pending : ∀ {k h}, s.server.m_frameIds k = some h →
    (k = 0 ∧ h = 0) ∨ ∃ can, s.storage? h = some can ∧ k = can.masterId
  slot : ∀ {k m}, s.server.m_subscribers k = some m → (m.deviceId : ℤ) = k

lemma inv_start (serverId maxCanDevice : ℕ) (cache : MotorParamCache) :
    Inv (start serverId maxCanDevice cache) :=
  ⟨fun _ => rfl, fun h => absurd h (by simp [storage?, start]),
    fun h => absurd h (by simp [start]), fun h => absurd h (by simp [start])⟩

/-- A handle that `ids` does not tell apart from before still has its device. -/
lemma storage_of_ids {s t : UdpServer} {h : HAL_CANHandle} {can : CANStorage}
    (hids : (t.m_canHandles h).map UdpServer.ids = (s.m_canHandles h).map UdpServer.ids)
    (ht : t.m_canHandles h = some can) :
    ∃ can', s.m_canHandles h = some can' ∧ UdpServer.ids can' = UdpServer.ids can := by
  rw [ht, Option.map_some] at hids
  obtain ⟨can', hs, he⟩ := Option.map_eq_some_iff.mp hids.symm
  exact ⟨can', hs, he⟩

lemma inv_of_kept {s : CanApi} (hs : Inv s) {t : UdpServer} (ht : UdpServer.Kept s.server t)
    (cache : MotorParamCache) : Inv { s with server := t, cache := cache } where
  fresh {h} hh := by
    have hids := ht.handles h
    rw [show s.server.m_canHandles h = none from hs.fresh hh] at hids
    exact Option.map_eq_none_iff.mp hids
  storage {h can} hcan := by
    obtain ⟨can', hs', hids⟩ := storage_of_ids (ht.handles h) hcan
    obtain ⟨-, hdev, hmas⟩ : _ ∧ can'.deviceId = can.deviceId ∧ can'.masterId = can.masterId := by
      simpa [UdpServer.ids] using hids
    rw [← hdev, ← hmas]
    exact hs.storage hs'
  pending {k h} hk := by
    rcases hs.pending (ht.frameIds hk) with hz | ⟨can, hcan, rfl⟩
    · exact Or.inl hz
    · obtain ⟨can', hs', hids⟩ := storage_of_ids (ht.handles h).symm hcan
      refine Or.inr ⟨can', hs', ?_⟩
      have hmas : can'.masterId = can.masterId := congrArg (fun i => i.2.2) hids
      rw [hmas]
  slot {k m} hm := by
    have hdev := ht.motors k
    rw [hm] at hdev
    obtain ⟨m', hm', he⟩ := Option.map_eq_some_iff.mp hdev.symm
    rw [← he]
    exact hs.slot hm'

lemma inv_initializeCAN {s : CanApi} (hs : Inv s) (manufacturer : HAL_CANManufacturer)
    (deviceId : ℕ) : Inv (s.initializeCAN manufacturer deviceId) where
  fresh {h} hh := by
    have hne : h ≠ s.size := by simp only [initializeCAN] at hh; omega
    have hle : s.size ≤ h := by simp only [initializeCAN] at hh; omega
    simpa [storage?, initializeCAN, hne] using hs.fresh hle
  storage {h can} hcan := by
    by_cases hh : h = s.size
    · obtain rfl : HAL_InitializeCAN manufacturer deviceId = can := by
        simpa [storage?, initializeCAN, hh] using hcan
      simp only [HAL_InitializeCAN]
      omega
    · exact hs.storage (by simpa [storage?, initializeCAN, hh] using hcan)
  pending {k h} hk := by
    rcases hs.pending hk with hz | ⟨can, hcan, rfl⟩
    · exact Or.inl hz
    · -- a handle that is in use is not the new one
      have hh : h ≠ s.size := by
        rintro rfl
        rw [hs.fresh le_rfl] at hcan
        exact absurd hcan (by simp)
      exact Or.inr ⟨can, by simpa [storage?, initializeCAN, hh] using hcan, rfl⟩
  slot hm := hs.slot hm

/-- A reply is registered under the id that its handle's device answers with. -/
lemma replyCANId_cases {s : CanApi} (hs : Inv s) {h : HAL_CANHandle} {can : CANStorage}
    (hcan : s.storage? h = some can) (apiId : ℕ) :
    (int32 (CreateCANId can apiId h).replyCANId = 0 ∧ (CreateCANId can apiId h).hanlde = 0) ∨
      (int32 (CreateCANId can apiId h).replyCANId = can.masterId ∧
        (CreateCANId can apiId h).hanlde = h) := by
  obtain ⟨-, hmas⟩ := hs.storage hcan
  cases hman : can.manufacturer <;> simp [CreateCANId, hman, int32]
  omega

lemma inv_sendMsg {s : CanApi} (hs : Inv s) {h : HAL_CANHandle} {can : CANStorage}
    (hcan : s.storage? h = some can) (apiId dataSize : ℕ) (reply : Bool) (numBytesSent : ℕ) :
    Inv { s with
      server := s.server.sendMsg (CreateCANId can apiId h) dataSize reply numBytesSent } := by
  obtain ⟨hhandles, hsubs⟩ :=
    s.server.sendMsg_frame (CreateCANId can apiId h) dataSize reply numBytesSent
  refine ⟨fun hh => ?_, fun hh => ?_, fun {k h'} hk => ?_, fun hm => ?_⟩
  · simpa [storage?, hhandles] using hs.fresh hh
  · exact hs.storage (by simpa [storage?, hhandles] using hh)
  · simp only [storage?, hhandles]
    simp only [UdpServer.frameIds_sendMsg] at hk
    split_ifs at hk with hreply hsent
    · refine hs.pending ?_
      by_cases hkey : k = int32 (CreateCANId can apiId h).replyCANId
      · simp [hkey] at hk
      · simpa [hkey] using hk
    · by_cases hkey : k = int32 (CreateCANId can apiId h).replyCANId
      · obtain rfl : (CreateCANId can apiId h).hanlde = h' := by simpa [hkey] using hk
        rw [hkey]
        rcases replyCANId_cases hs hcan apiId with hz | ⟨hmas, hh⟩
        · exact Or.inl hz
        · exact Or.inr ⟨can, by rw [hh]; exact hcan, hmas⟩
      · exact hs.pending (by simpa [hkey] using hk)
    · exact hs.pending hk
  · exact hs.slot (by simpa [hsubs] using hm)

lemma inv_subscribe {s : CanApi} (hs : Inv s) (m : Motor) :
    Inv { s with server := s.server.subscribe m } := by
  unfold UdpServer.subscribe
  split_ifs
  · refine ⟨hs.fresh, hs.storage, hs.pending, fun {k m'} hm' => ?_⟩
    by_cases hk : k = m.deviceId
    · obtain rfl : m = m' := by simpa [hk] using hm'
      exact hk.symm
    · exact hs.slot (by simpa [hk] using hm')
  · exact hs

variable (undef : Lib.Binary32.Value → ℤ)

theorem inv_step (s : CanApi) (i : Input) (hs : Inv s) : Inv (step undef s i) := by
  cases i with
  | initializeCAN manufacturer deviceId => exact inv_initializeCAN hs manufacturer deviceId
  | subscribe m =>
    simp only [step]
    split_ifs
    · exact inv_subscribe hs m
    · exact hs
  | setParamCache present => exact ⟨hs.fresh, hs.storage, hs.pending, hs.slot⟩
  | writePacket handle apiId dataSize reply numBytesSent =>
    simp only [step, writePacket]
    cases hcan : s.storage? handle with
    | none => exact hs
    | some can =>
      dsimp only
      split_ifs
      · exact inv_sendMsg hs hcan apiId dataSize reply numBytesSent
      · exact hs
  | message frame now =>
    exact inv_of_kept hs (s.server.kept_dispatchMessage undef s.cache frame now) _
  | replyEvent handle value =>
    have hkept : s.server.Kept (step undef s (.replyEvent handle value)).server := by
      refine ⟨id, fun h => ?_, fun _ => rfl⟩
      by_cases hh : h = handle
      · subst hh
        cases hcan : s.server.m_canHandles h <;> simp [step, storage?, hcan, UdpServer.ids]
      · simp [step, hh]
    exact inv_of_kept hs hkept s.cache

theorem inv_run (serverId maxCanDevice : ℕ) (cache : MotorParamCache) (l : List Input) :
    Inv (run (step undef) (start serverId maxCanDevice cache) l) :=
  run_invariant (inv_step undef) (inv_start serverId maxCanDevice cache) l

/-! ### Replies on the broadcast id -/

/-- A parameter response of device `d` under the broadcast id. -/
structure IsParamResponse (d : ℕ) (frame : CANFrame) : Prop where
  id : bswap32 frame.FrameId = 0x7ff
  device : frame.data.b0.toNat = d
  cmd : frame.data.b2 = 0x33 ∨ frame.data.b2 = 0x55

/-- The reply a handle waits for is consumed: its entry goes, no other does, and the event of
the handle is set. -/
structure Consumes (h : HAL_CANHandle) (can : CANStorage) (s t : CanApi) : Prop where
  pending : s.server.m_frameIds can.masterId = some h
  removed : t.server.m_frameIds = Function.update s.server.m_frameIds can.masterId none
  event : (t.storage? h).map CANStorage.replyEvent = some true

lemma dispatchMessage_param {s : UdpServer} {d : ℕ} {frame : CANFrame}
    (hf : IsParamResponse d frame) (hcache : s.hasParamCache = true) (cache : MotorParamCache)
    (now : UInt64) : s.dispatchMessage undef cache frame now = s.dispatchParam cache frame := by
  rw [UdpServer.dispatchMessage_eq, if_pos ⟨hf.id, hf.cmd, hcache⟩]

/-- A parameter response takes the entry filed under the device's own id. -/
lemma frameIds_dispatchParam (s : UdpServer) (cache : MotorParamCache) (frame : CANFrame) :
    (s.dispatchParam cache frame).1.m_frameIds =
      Function.update s.m_frameIds frame.data.b0.toNat none := by
  unfold UdpServer.dispatchParam
  dsimp only
  cases hk : s.m_frameIds frame.data.b0.toNat with
  | none =>
    refine funext fun k => ?_
    by_cases hk' : k = frame.data.b0.toNat
    · simp [hk', hk]
    · simp [hk']
  | some handle => rfl

/-- **A reply that is waited for is not consumed** by the parameter response of its device: it
is filed under the device's reply id, and looked for under the id of the device. -/
theorem response_not_consumed (serverId maxCanDevice : ℕ) (cache : MotorParamCache)
    (l l' : List Input) {h : HAL_CANHandle} {can : CANStorage}
    (hcan : (run (step undef) (start serverId maxCanDevice cache) l).storage? h = some can)
    (apiId dataSize numBytesSent : ℕ) {frame : CANFrame}
    (hf : IsParamResponse can.deviceId frame) (now : UInt64)
    (hcache : (run (step undef) (start serverId maxCanDevice cache)
      (l ++ .writePacket h apiId dataSize true numBytesSent :: l')).server.hasParamCache = true) :
    let s := run (step undef) (start serverId maxCanDevice cache)
      (l ++ .writePacket h apiId dataSize true numBytesSent :: l')
    let t := step undef s (.message frame now)
    t.server.m_frameIds can.masterId = s.server.m_frameIds can.masterId ∧
      ¬ Consumes h can s t := by
  intro s t
  obtain ⟨hdev, hmas⟩ := (inv_run undef serverId maxCanDevice cache l).storage hcan
  have hkept : t.server.m_frameIds can.masterId = s.server.m_frameIds can.masterId := by
    have hne : (can.masterId : ℤ) ≠ (can.deviceId : ℤ) := by omega
    have ht : t.server = (s.server.dispatchParam s.cache frame).1 := by
      rw [← dispatchMessage_param undef hf hcache s.cache now]
      rfl
    rw [ht, frameIds_dispatchParam, hf.device, Function.update_of_ne hne]
  refine ⟨hkept, fun hc => ?_⟩
  have hgone : t.server.m_frameIds can.masterId = none := by
    rw [hc.removed, Function.update_self]
  rw [hkept, hc.pending] at hgone
  exact absurd hgone (by simp)

/-- The answer of device `1` to a query of register `0x50`, on the broadcast id. -/
def busVoltageResponse : CANFrame := .modify 0x7ff ⟨1, 0, 0x33, 0x50, 0, 0, 0, 0⟩

/-- A cache in which nothing is known. -/
def emptyCache : MotorParamCache := ⟨fun _ => .nan, fun _ => .nan, fun _ => .nan⟩

theorem response_not_consumed_one :
    let s := run (step fun _ => 0) (start 0 6 emptyCache)
      ([.setParamCache true, .initializeCAN .Dm 1] ++ .writePacket 0 0x02 8 true 13 :: [])
    let t := step (fun _ => 0) s (.message busVoltageResponse 0)
    t.server.m_frameIds (HAL_InitializeCAN .Dm 1).masterId =
      s.server.m_frameIds (HAL_InitializeCAN .Dm 1).masterId ∧
      ¬ Consumes 0 (HAL_InitializeCAN .Dm 1) s t :=
  response_not_consumed (fun _ => 0) 0 6 emptyCache _ [] rfl 0x02 8 13
    ⟨by decide, by decide, by decide⟩ 0 rfl

/-- Device `1` answers, and its reply stays pending. -/
theorem reply_stays_pending :
    let s := run (step fun _ => 0) (start 0 6 emptyCache)
      [.setParamCache true, .initializeCAN .Dm 1, .writePacket 0 0x02 8 true 13]
    let t := step (fun _ => 0) s (.message busVoltageResponse 0)
    s.server.m_frameIds 0x11 = some 0 ∧ t.server.m_frameIds 0x11 = some 0 ∧
      ¬ Consumes 0 (HAL_InitializeCAN .Dm 1) s t := by
  intro s t
  have hs : s.server.m_frameIds 0x11 = some 0 := by decide
  have ht : t.server.m_frameIds 0x11 = some 0 := by decide
  refine ⟨hs, ht, fun hc => ?_⟩
  have hgone : t.server.m_frameIds 0x11 = none := by
    rw [hc.removed]
    rfl
  rw [ht] at hgone
  exact absurd hgone (by simp)

end CanApi

end Kuavo
