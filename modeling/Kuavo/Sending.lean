import Kuavo.CanApi
import Mathlib.Algebra.Order.Ring.Int

/-!
The sending side of `lib/motor/CANAPI.cpp` and `lib/motor/UdpServer.cpp`: what the functions of
the API hand to `CANFrame::modify`, and what a send that fails leaves in the table of replies.
-/

namespace Kuavo

open Kuavo.Lib.Bits Kuavo.Lib.Runs Kuavo.Utility

def CAN_MAX_DLEN : ℕ := 8

/-! ### The data of a frame -/

/-- The arguments of `CANFrame::modify`: the pointer, with the bytes behind it, is `none` where it
is null. -/
structure ModifyArgs where
  id : ℕ
  send_data : Option (List UInt8)
  dataSize : UInt8
  deriving DecidableEq

/-- There is a pointer where there is something to copy, and the frame has room for it. -/
structure ModifyArgs.Safe (a : ModifyArgs) : Prop where
  send_data : 0 < a.dataSize.toNat → a.send_data.isSome = true
  dataSize : a.dataSize.toNat ≤ CAN_MAX_DLEN

/-- Bytes at the start of data that is zero. -/
def DataFrame.ofBytes (l : List UInt8) : DataFrame :=
  ⟨l.getD 0 0, l.getD 1 0, l.getD 2 0, l.getD 3 0, l.getD 4 0, l.getD 5 0, l.getD 6 0, l.getD 7 0⟩

/-- `CANFrame::modify` on a new frame. A copy of bytes that are not there, or that have no room,
is undefined. -/
def CANFrame.modify? (a : ModifyArgs) : Option CANFrame :=
  let bytes := a.send_data.getD []
  if a.dataSize.toNat ≤ bytes.length ∧ a.dataSize.toNat ≤ CAN_MAX_DLEN then
    some (.modify a.id (.ofBytes (bytes.take a.dataSize.toNat)))
  else none

/-- Where the frame is defined, the arguments were safe. -/
lemma ModifyArgs.safe_of_modify {a : ModifyArgs} (h : (CANFrame.modify? a).isSome = true) :
    a.Safe := by
  unfold CANFrame.modify? at h
  dsimp only at h
  split_ifs at h with hsize
  · refine ⟨fun hpos => ?_, hsize.2⟩
    cases hdata : a.send_data with
    | none =>
      have hzero : a.dataSize.toNat ≤ 0 := by simpa [hdata] using hsize.1
      omega
    | some bytes => rfl
  · simp at h

/-! ### The functions of the API -/

/-- What a caller gives a write: at most eight bytes behind the pointer, or null and no bytes. -/
structure Packet where
  data : Option (List UInt8)
  length : ℤ
  length_nonneg : 0 ≤ length
  length_le : length ≤ CAN_MAX_DLEN
  readable : length ≤ (data.getD []).length

lemma Packet.toNat_ofInt (p : Packet) : (UInt8.ofInt p.length).toNat = p.length.toNat := by
  have hlow := p.length_nonneg
  have hhigh := p.length_le
  unfold CAN_MAX_DLEN at hhigh
  rw [UInt8.ofInt, UInt8.toNat_ofNat']
  omega

inductive ApiCall
  | HAL_InitializeCAN (manufacturer : HAL_CANManufacturer) (deviceId : ℕ)
  | HAL_WriteCANPacket (handle : HAL_CANHandle) (packet : Packet) (apiId : ℕ) (reply : Bool)
  | HAL_WriteCANPacketRepeating (handle : HAL_CANHandle) (packet : Packet) (apiId : ℕ)
      (repeatMs : ℤ) (reply : Bool)
  | HAL_StopCANPacketRepeating (handle : HAL_CANHandle) (apiId : ℕ) (reply : Bool)
  | HAL_ReadCANPacketNew (handle : HAL_CANHandle) (apiId : ℕ) (reply : Bool)

def HAL_CAN_SEND_PERIOD_STOP_REPEATING : ℤ := -1

/-- The API over one of its servers, the repeat periods, and the arguments that `modify` was
called with on either server. -/
structure Api where
  can : CanApi
  periodicSends : HAL_CANHandle → ℕ → Option ℤ := fun _ _ => none
  modified : List ModifyArgs := []

namespace Api

/-- What the four functions share: `sendMsg` with a size that is cut to a byte, if the handle is
known. -/
def send (s : Api) (handle : HAL_CANHandle) (data : Option (List UInt8)) (length : ℤ) (apiId : ℕ)
    (reply : Bool) (numBytesSent : ℕ) : Api :=
  match s.can.storage? handle with
  | none => s
  | some can =>
    let dataSize := UInt8.ofInt length
    { s with
      can := s.can.writePacket handle apiId dataSize.toNat reply numBytesSent
      modified := s.modified ++ [⟨(CreateCANId can apiId handle).forwardCANId, data, dataSize⟩] }

/-- `can->periodicSends[apiId] = repeatMs`, if the handle is known. -/
def setPeriod (s : Api) (handle : HAL_CANHandle) (apiId : ℕ) (repeatMs : ℤ) : Api :=
  match s.can.storage? handle with
  | none => s
  | some _ =>
    { s with
      periodicSends := Function.update s.periodicSends handle
        (Function.update (s.periodicSends handle) apiId (some repeatMs)) }

def HAL_WriteCANPacket (s : Api) (handle : HAL_CANHandle) (packet : Packet) (apiId : ℕ)
    (reply : Bool) (numBytesSent : ℕ) : Api :=
  (s.setPeriod handle apiId (-1)).send handle packet.data packet.length apiId reply numBytesSent

def HAL_WriteCANPacketRepeating (s : Api) (handle : HAL_CANHandle) (packet : Packet) (apiId : ℕ)
    (repeatMs : ℤ) (reply : Bool) (numBytesSent : ℕ) : Api :=
  (s.send handle packet.data packet.length apiId reply numBytesSent).setPeriod handle apiId
    repeatMs

def HAL_StopCANPacketRepeating (s : Api) (handle : HAL_CANHandle) (apiId : ℕ) (reply : Bool)
    (numBytesSent : ℕ) : Api :=
  (s.send handle none HAL_CAN_SEND_PERIOD_STOP_REPEATING apiId reply numBytesSent).setPeriod
    handle apiId (-1)

/-- As far as the wait for the reply. -/
def HAL_ReadCANPacketNew (s : Api) (handle : HAL_CANHandle) (apiId : ℕ) (reply : Bool)
    (numBytesSent : ℕ) : Api :=
  s.send handle none HAL_CAN_SEND_PERIOD_STOP_REPEATING apiId reply numBytesSent

/-- A call, with what `sendto` returned in it. -/
def step (s : Api) : ApiCall × ℕ → Api
  | (.HAL_InitializeCAN manufacturer deviceId, _) =>
    { s with can := s.can.initializeCAN manufacturer deviceId }
  | (.HAL_WriteCANPacket handle packet apiId reply, n) =>
    s.HAL_WriteCANPacket handle packet apiId reply n
  | (.HAL_WriteCANPacketRepeating handle packet apiId repeatMs reply, n) =>
    s.HAL_WriteCANPacketRepeating handle packet apiId repeatMs reply n
  | (.HAL_StopCANPacketRepeating handle apiId reply, n) =>
    s.HAL_StopCANPacketRepeating handle apiId reply n
  | (.HAL_ReadCANPacketNew handle apiId reply, n) => s.HAL_ReadCANPacketNew handle apiId reply n

/-- A stop or a read under a handle that is known. -/
def StopsOrReads (s : Api) : ApiCall × ℕ → Prop
  | (.HAL_StopCANPacketRepeating handle _ _, _) | (.HAL_ReadCANPacketNew handle _ _, _) =>
    (s.can.storage? handle).isSome = true
  | _ => False

/-! ### What a call hands over -/

@[simp] lemma modified_setPeriod (s : Api) (handle : HAL_CANHandle) (apiId : ℕ) (repeatMs : ℤ) :
    (s.setPeriod handle apiId repeatMs).modified = s.modified := by
  unfold setPeriod
  cases s.can.storage? handle <;> rfl

@[simp] lemma can_setPeriod (s : Api) (handle : HAL_CANHandle) (apiId : ℕ) (repeatMs : ℤ) :
    (s.setPeriod handle apiId repeatMs).can = s.can := by
  unfold setPeriod
  cases s.can.storage? handle <;> rfl

/-- A known handle hands one call over, and an unknown one nothing. -/
lemma modified_send (s : Api) (handle : HAL_CANHandle) (data : Option (List UInt8)) (length : ℤ)
    (apiId : ℕ) (reply : Bool) (n : ℕ) :
    (s.send handle data length apiId reply n).modified =
      s.modified ++ ((s.can.storage? handle).map fun can =>
        (⟨(CreateCANId can apiId handle).forwardCANId, data, UInt8.ofInt length⟩ :
          ModifyArgs)).toList := by
  unfold send
  cases s.can.storage? handle <;> simp

/-- The frame of a write is defined. -/
lemma safe_packet (p : Packet) (id : ℕ) :
    (⟨id, p.data, UInt8.ofInt p.length⟩ : ModifyArgs).Safe := by
  have hlow := p.length_nonneg
  have hhigh := p.length_le
  have hread := p.readable
  refine ModifyArgs.safe_of_modify ?_
  have hsize : (UInt8.ofInt p.length).toNat ≤ (p.data.getD []).length ∧
      (UInt8.ofInt p.length).toNat ≤ CAN_MAX_DLEN := by
    rw [p.toNat_ofInt]
    omega
  unfold CANFrame.modify?
  rw [if_pos hsize]
  rfl

/-- The code for a stop is 255 as a size. -/
lemma not_safe_stop (id : ℕ) :
    ¬ (⟨id, none, UInt8.ofInt HAL_CAN_SEND_PERIOD_STOP_REPEATING⟩ : ModifyArgs).Safe :=
  fun h => absurd (show 255 ≤ CAN_MAX_DLEN from h.dataSize) (by decide)

/-- Everything that was handed to `modify` was safe. -/
def AllSafe (s : Api) : Prop := ∀ a ∈ s.modified, a.Safe

lemma allSafe_send (s : Api) (handle : HAL_CANHandle) (data : Option (List UInt8)) (length : ℤ)
    (apiId : ℕ) (reply : Bool) (n : ℕ) :
    AllSafe (s.send handle data length apiId reply n) ↔
      AllSafe s ∧ ∀ can, s.can.storage? handle = some can →
        (⟨(CreateCANId can apiId handle).forwardCANId, data, UInt8.ofInt length⟩ :
          ModifyArgs).Safe := by
  unfold AllSafe
  rw [modified_send]
  cases s.can.storage? handle with
  | none => simp
  | some can => simp [or_imp, forall_and]

lemma allSafe_write (s : Api) (handle : HAL_CANHandle) (p : Packet) (apiId : ℕ) (reply : Bool)
    (n : ℕ) : AllSafe (s.send handle p.data p.length apiId reply n) ↔ AllSafe s := by
  rw [allSafe_send]
  exact and_iff_left fun can _ => safe_packet p _

lemma allSafe_stop (s : Api) (handle : HAL_CANHandle) (apiId : ℕ) (reply : Bool) (n : ℕ) :
    AllSafe (s.send handle none HAL_CAN_SEND_PERIOD_STOP_REPEATING apiId reply n) ↔
      AllSafe s ∧ ¬ (s.can.storage? handle).isSome = true := by
  rw [allSafe_send]
  refine and_congr_right fun _ => ?_
  cases s.can.storage? handle with
  | none => simp
  | some can => simp [not_safe_stop]

/-- A step keeps everything safe unless it is a stop or a read. -/
lemma allSafe_step (s : Api) (i : ApiCall × ℕ) :
    AllSafe (step s i) ↔ AllSafe s ∧ ¬ s.StopsOrReads i := by
  obtain ⟨c, n⟩ := i
  cases c with
  | HAL_InitializeCAN manufacturer deviceId => exact (and_iff_left not_false).symm
  | HAL_WriteCANPacket handle packet apiId reply =>
    refine (allSafe_write _ handle packet apiId reply n).trans ?_
    simp [AllSafe, StopsOrReads]
  | HAL_WriteCANPacketRepeating handle packet apiId repeatMs reply =>
    have hwrite := allSafe_write s handle packet apiId reply n
    simpa [AllSafe, StopsOrReads, step, HAL_WriteCANPacketRepeating] using hwrite
  | HAL_StopCANPacketRepeating handle apiId reply =>
    have hstop := allSafe_stop s handle apiId reply n
    simpa [AllSafe, StopsOrReads, step, HAL_StopCANPacketRepeating] using hstop
  | HAL_ReadCANPacketNew handle apiId reply => exact allSafe_stop s handle apiId reply n

/-- **What reaches `modify`** in a sequence of calls is safe exactly if none of them is a stop or
a read under a known handle. -/
theorem allSafe_run_iff (s : Api) (l : List (ApiCall × ℕ)) :
    AllSafe (run step s l) ↔ AllSafe s ∧ Each step (fun s i => ¬ s.StopsOrReads i) s l := by
  induction l generalizing s with
  | nil => simp
  | cons i l ih => rw [run_cons, ih, allSafe_step, each_cons, and_assoc]

/-- The API before the first handle. -/
def start (serverId maxCanDevice : ℕ) (cache : MotorParamCache) : Api where
  can := .start serverId maxCanDevice cache

/-- **When only safe arguments reach `modify`**, in every sequence of calls of the API. -/
theorem allSafe_iff (serverId maxCanDevice : ℕ) (cache : MotorParamCache)
    (l : List (ApiCall × ℕ)) :
    AllSafe (run step (start serverId maxCanDevice cache) l) ↔
      Each step (fun s i => ¬ s.StopsOrReads i) (start serverId maxCanDevice cache) l := by
  rw [allSafe_run_iff]
  exact and_iff_right fun _ ha => absurd ha (by simp [start])

/-- A stop hands over a null pointer with a size of 255. -/
theorem stop_not_safe :
    let s := run step (start 0 6 CanApi.emptyCache)
      [(.HAL_InitializeCAN .Dm 1, 0), (.HAL_StopCANPacketRepeating 0 0 false, 13)]
    s.modified = [⟨1, none, 255⟩] ∧ ¬ AllSafe s := by
  intro s
  have hmodified : s.modified = [⟨1, none, 255⟩] := rfl
  refine ⟨hmodified, fun h => ?_⟩
  have hsize := (h ⟨1, none, 255⟩ (by rw [hmodified]; exact List.mem_singleton_self _)).dataSize
  exact absurd hsize (by decide)

end Api

/-! ### A send that fails -/

/-- The conversion of `ssize_t` to `size_t`. -/
def sizeT (n : ℤ) : ℕ := (n % 0x10000000000000000).toNat

namespace UdpServer

/-- `sendto` returned the error, or fewer bytes than the thirteen of a frame. -/
def SendFailed (n : ℤ) : Prop := n = -1 ∨ 0 ≤ n ∧ n < 13

/-- Nothing is waited for under the reply id of the request, and the other entries are as they
were. -/
structure RolledBack (s t : UdpServer) (frameId : CANFrameId) : Prop where
  removed : t.m_frameIds (int32 frameId.replyCANId) = none
  others : ∀ k, k ≠ int32 frameId.replyCANId → t.m_frameIds k = s.m_frameIds k

lemma rolledBack_sendMsg_iff (s : UdpServer) (frameId : CANFrameId) (dataSize numBytesSent : ℕ) :
    RolledBack s (s.sendMsg frameId dataSize true numBytesSent) frameId ↔
      numBytesSent < dataSize := by
  have htable := s.frameIds_sendMsg frameId dataSize true numBytesSent
  rw [if_pos rfl] at htable
  constructor
  · intro h
    by_contra hsent
    have hremoved := h.removed
    rw [htable, if_neg hsent, Function.update_self] at hremoved
    exact absurd hremoved (by simp)
  · intro hsent
    rw [if_pos hsent] at htable
    exact ⟨by rw [htable, Function.update_self],
      fun k hk => by rw [htable, Function.update_of_ne hk]⟩

/-- **When a failed send takes its reply back**, whatever the table holds: exactly when `sendto`
did send something, or nothing without an error, and fewer bytes than the request has data. -/
theorem rolledBack_iff (s : UdpServer) (frameId : CANFrameId) (dataSize : UInt8) {n : ℤ}
    (hn : SendFailed n) :
    RolledBack s (s.sendMsg frameId dataSize.toNat true (sizeT n)) frameId ↔
      0 ≤ n ∧ n < dataSize.toNat := by
  have hsize := dataSize.toNat_lt
  rw [rolledBack_sendMsg_iff]
  unfold sizeT
  rcases hn with rfl | ⟨hlow, hhigh⟩
  · refine iff_of_false (fun h => ?_) (fun h => by omega)
    have hmax : ((-1 : ℤ) % 0x10000000000000000).toNat = 0xFFFFFFFFFFFFFFFF := by decide
    rw [hmax] at h
    omega
  · omega

/-- The query of a register of device `1`, under handle `0`. -/
def queryId : CANFrameId := CreateCANId (HAL_InitializeCAN .Dm 1) 0x02 0

theorem rolledBack_five_bytes :
    let s : UdpServer := { m_subscribers := fun _ => none }
    RolledBack s (s.sendMsg queryId 8 true (sizeT 5)) queryId ↔ (0 : ℤ) ≤ 5 ∧ (5 : ℤ) < 8 :=
  rolledBack_iff _ queryId 8 (.inr ⟨by decide, by decide⟩)

/-- The error of `sendto` counts as many bytes, and the reply stays waited for. -/
theorem failed_send_keeps_reply :
    let s : UdpServer := { m_subscribers := fun _ => none }
    let t := s.sendMsg queryId 8 true (sizeT (-1))
    SendFailed (-1) ∧ t.m_frameIds 0x11 = some 0 ∧ ¬ RolledBack s t queryId := by
  intro s t
  have hkept : t.m_frameIds 0x11 = some 0 := by decide
  refine ⟨.inl rfl, hkept, fun h => ?_⟩
  have hremoved : t.m_frameIds 0x11 = none := h.removed
  rw [hkept] at hremoved
  exact absurd hremoved (by simp)

end UdpServer

end Kuavo
