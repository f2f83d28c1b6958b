import Kuavo.Motor

/-!
CAN frames on the wire, as `UdpServer.h` and `CANAPI.cpp` make them: thirteen bytes, a
header, the identifier in big-endian order and eight bytes of data.
-/

namespace Kuavo

open Kuavo.Lib.Bits

/-- A frame as it lies in memory: the four bytes of `FrameId` one by one. -/
structure CANFrame where
  FrameHeader : UInt8 := 0x08
  id0 : UInt8
  id1 : UInt8
  id2 : UInt8
  id3 : UInt8
  data : DataFrame
  deriving DecidableEq

namespace CANFrame

/-- `FrameId`, read as the little-endian machine does. -/
def FrameId (f : CANFrame) : ℕ := le32 f.id0 f.id1 f.id2 f.id3

/-- `CANFrame::modify` with all eight bytes of data. -/
def modify (id : ℕ) (data : DataFrame) : CANFrame :=
  let FrameId := bswap32 id
  { id0 := byte FrameId
    id1 := byte (FrameId / 256)
    id2 := byte (FrameId / 65536)
    id3 := byte (FrameId / 16777216)
    data := data }

lemma bswap32_frameId (f : CANFrame) : bswap32 f.FrameId = be32 f.id0 f.id1 f.id2 f.id3 :=
  bswap32_le32 _ _ _ _

@[simp] lemma modify_data (id : ℕ) (d : DataFrame) : (modify id d).data = d := rfl

end CANFrame

inductive HAL_CANManufacturer | kBroadcast | Dummy | Dm
  deriving DecidableEq

abbrev HAL_CANHandle := ℕ

/-- What `HAL_InitializeCAN` keeps of a device. -/
structure CANStorage where
  manufacturer : HAL_CANManufacturer := .Dm
  deviceId : ℕ
  masterId : ℕ
  /-- Whether `replyEvent` is set. -/
  replyEvent : Bool := false

structure CANFrameId where
  deviceId : ℕ := 0
  forwardCANId : ℕ := 0
  replyCANId : ℕ := 0
  hanlde : HAL_CANHandle := 0
  deriving DecidableEq

/-- `HAL_InitializeCAN`: both ids are bytes. -/
def HAL_InitializeCAN (manufacturer : HAL_CANManufacturer) (deviceId : ℕ) : CANStorage where
  manufacturer := manufacturer
  deviceId := deviceId % 256
  masterId := (deviceId + 0x10) % 256

def CreateCANId (storage : CANStorage) (apiId : ℕ) (handle : HAL_CANHandle) : CANFrameId :=
  match storage.manufacturer with
  | .Dm =>
    { forwardCANId :=
        if apiId = 0x01 ∨ apiId = 0x02 ∨ apiId = 0x03 ∨ apiId = 0x04 then 0x7FF
        else storage.deviceId &&& 0x3F
      deviceId := storage.deviceId
      replyCANId := storage.masterId
      hanlde := handle }
  | _ => {}

/-- The frame that goes out when the device's handle writes `data` under `apiId`. -/
def writtenFrame (storage : CANStorage) (apiId : ℕ) (data : DataFrame) : CANFrame :=
  .modify (CreateCANId storage apiId 0).forwardCANId data

end Kuavo
