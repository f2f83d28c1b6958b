import Kuavo.Lib.LittleEndian
import Mathlib.Tactic.NormNum

/-!
The batches of `include/mercury_shm.h`, from the composer to the payloads that the logger
publishes.

Sensor and command records are only ever copied as a whole, so that a record is its image in
memory. The machine is little-endian, and the payload structures are packed.
-/

namespace Kuavo.BatchLog

open Kuavo.Lib Kuavo.Lib.LittleEndian

def PAYLOAD_MAGIC : UInt16 := 0x4D52
def PAYLOAD_VERSION : UInt8 := 1
def BATCH_SIZE : ℕ := 4

inductive RecordType | COMMAND | SENSOR | STATUS | SENSOR_BATCH
  deriving DecidableEq

def RecordType.code : RecordType → UInt8
  | .COMMAND => 0x01
  | .SENSOR => 0x02
  | .STATUS => 0x03
  | .SENSOR_BATCH => 0x04

/-- Three triples and nine rows of doubles, the contact bytes, seven 64-bit and four 32-bit
words. -/
def sizeof_SensorData : ℕ := (3 * 3 + 9 * 12) * 8 + 8 + 7 * 8 + 4 * 4

/-- Five rows of doubles, two rows of bytes, padding and two 64-bit words. -/
def sizeof_Command : ℕ := 5 * 12 * 8 + 2 * 12 + 8 + 2 * 8

def sizeof_SensorCommandPair : ℕ := sizeof_SensorData + sizeof_Command

def sizeof_BinaryPayloadHeader : ℕ := 32

structure BinaryPayloadHeader where
  magic : UInt16
  version : UInt8
  record_type : UInt8
  robot_id : UInt32
  payload_size : UInt32
  reserved : UInt32
  sequence : UInt64
  timestamp_ns : UInt64
  deriving DecidableEq

structure SensorCommandPair where
  sensor : Vector UInt8 sizeof_SensorData
  cmd : Vector UInt8 sizeof_Command
  deriving DecidableEq

structure BatchLogRecord where
  header : BinaryPayloadHeader
  sample_count : UInt32
  samples : Vector SensorCommandPair BATCH_SIZE
  deriving DecidableEq

/-- The samples that count. -/
def BatchLogRecord.valid (b : BatchLogRecord) : List SensorCommandPair :=
  b.samples.toList.take b.sample_count.toNat

/-! ### Bytes -/

def BinaryPayloadHeader.toBytes (h : BinaryPayloadHeader) : List UInt8 :=
  LittleEndian.toBytes 2 h.magic.toNat ++ (LittleEndian.toBytes 1 h.version.toNat ++
    (LittleEndian.toBytes 1 h.record_type.toNat ++ (LittleEndian.toBytes 4 h.robot_id.toNat ++
      (LittleEndian.toBytes 4 h.payload_size.toNat ++ (LittleEndian.toBytes 4 h.reserved.toNat ++
        (LittleEndian.toBytes 8 h.sequence.toNat ++
          LittleEndian.toBytes 8 h.timestamp_ns.toNat))))))

/-- `memcpy` of a header out of the bytes it starts. -/
def BinaryPayloadHeader.ofBytes (bs : List UInt8) : BinaryPayloadHeader where
  magic := UInt16.ofNat (field bs 0 2)
  version := UInt8.ofNat (field bs 2 1)
  record_type := UInt8.ofNat (field bs 3 1)
  robot_id := UInt32.ofNat (field bs 4 4)
  payload_size := UInt32.ofNat (field bs 8 4)
  reserved := UInt32.ofNat (field bs 12 4)
  sequence := UInt64.ofNat (field bs 16 8)
  timestamp_ns := UInt64.ofNat (field bs 24 8)

def SensorCommandPair.toBytes (p : SensorCommandPair) : List UInt8 :=
  p.sensor.toList ++ p.cmd.toList

@[simp] lemma length_header (h : BinaryPayloadHeader) :
    h.toBytes.length = sizeof_BinaryPayloadHeader := by
  simp [BinaryPayloadHeader.toBytes, sizeof_BinaryPayloadHeader]

@[simp] lemma length_pair (p : SensorCommandPair) :
    p.toBytes.length = sizeof_SensorCommandPair := by
  simp [SensorCommandPair.toBytes, sizeof_SensorCommandPair]

/-- **Round trip** of a header, whatever follows it. -/
theorem ofBytes_toBytes (h : BinaryPayloadHeader) (rest : List UInt8) :
    BinaryPayloadHeader.ofBytes (h.toBytes ++ rest) = h := by
  obtain ⟨magic, version, record_type, robot_id, payload_size, reserved, sequence, timestamp⟩ := h
  have hskip : ∀ (w n : ℕ) (bs : List UInt8) (off w' : ℕ),
      field (LittleEndian.toBytes w n ++ bs) (w + off) w' = field bs off w' := by
    intro w n bs off w'
    have := field_append_right (LittleEndian.toBytes w n) bs off w'
    rwa [length_toBytes] at this
  unfold BinaryPayloadHeader.toBytes BinaryPayloadHeader.ofBytes
  simp only [List.append_assoc]
  refine BinaryPayloadHeader.mk.injEq .. |>.mpr ⟨?_, ?_, ?_, ?_, ?_, ?_, ?_, ?_⟩
  · rw [field_toBytes magic.toNat_lt, UInt16.ofNat_toNat]
  · rw [hskip 2 _ _ 0, field_toBytes version.toNat_lt, UInt8.ofNat_toNat]
  · rw [hskip 2 _ _ 1, hskip 1 _ _ 0, field_toBytes record_type.toNat_lt, UInt8.ofNat_toNat]
  · rw [hskip 2 _ _ 2, hskip 1 _ _ 1, hskip 1 _ _ 0, field_toBytes robot_id.toNat_lt,
      UInt32.ofNat_toNat]
  · rw [hskip 2 _ _ 6, hskip 1 _ _ 5, hskip 1 _ _ 4, hskip 4 _ _ 0,
      field_toBytes payload_size.toNat_lt, UInt32.ofNat_toNat]
  · rw [hskip 2 _ _ 10, hskip 1 _ _ 9, hskip 1 _ _ 8, hskip 4 _ _ 4, hskip 4 _ _ 0,
      field_toBytes reserved.toNat_lt, UInt32.ofNat_toNat]
  · rw [hskip 2 _ _ 14, hskip 1 _ _ 13, hskip 1 _ _ 12, hskip 4 _ _ 8, hskip 4 _ _ 4,
      hskip 4 _ _ 0, field_toBytes sequence.toNat_lt, UInt64.ofNat_toNat]
  · rw [hskip 2 _ _ 22, hskip 1 _ _ 21, hskip 1 _ _ 20, hskip 4 _ _ 16, hskip 4 _ _ 12,
      hskip 4 _ _ 8, hskip 8 _ _ 0, field_toBytes timestamp.toNat_lt, UInt64.ofNat_toNat]

/-! ### The logger -/

/-- `sizeof(uint32_t) * 2 + n * sizeof(SensorCommandPair)`, cast to 32 bits. -/
def payloadSize (n : ℕ) : UInt32 := UInt32.ofNat (4 * 2 + n * sizeof_SensorCommandPair)

/-- The header fields that the logger sets before it serializes a batch. -/
def prepare (robot_id : UInt32) (batch : BatchLogRecord) : BatchLogRecord :=
  { batch with
    header := { batch.header with
      magic := PAYLOAD_MAGIC
      version := PAYLOAD_VERSION
      record_type := RecordType.SENSOR_BATCH.code
      robot_id := robot_id
      payload_size := payloadSize batch.sample_count.toNat
      reserved := 0 } }

/-- A batch has no more samples than it has room for, so that the copy stays inside it. -/
def serializeBatch (batch : BatchLogRecord) : List UInt8 :=
  batch.header.toBytes ++ (LittleEndian.toBytes 4 batch.sample_count.toNat ++
    (LittleEndian.toBytes 4 0 ++ batch.valid.flatMap SensorCommandPair.toBytes))

/-- What `drainOnce` publishes for a batch. -/
def published (robot_id : UInt32) (batch : BatchLogRecord) : List UInt8 :=
  serializeBatch (prepare robot_id batch)

lemma header_published (robot_id : UInt32) (batch : BatchLogRecord) :
    BinaryPayloadHeader.ofBytes (published robot_id batch) = (prepare robot_id batch).header :=
  ofBytes_toBytes _ _

lemma length_valid {batch : BatchLogRecord} (h : batch.sample_count.toNat ≤ BATCH_SIZE) :
    batch.valid.length = batch.sample_count.toNat := by
  rw [BatchLogRecord.valid, List.length_take, Vector.length_toList, min_eq_left h]

lemma length_published (robot_id : UInt32) {batch : BatchLogRecord}
    (h : batch.sample_count.toNat ≤ BATCH_SIZE) :
    (published robot_id batch).length =
      sizeof_BinaryPayloadHeader + 8 + batch.sample_count.toNat * sizeof_SensorCommandPair := by
  have hvalid : (prepare robot_id batch).valid = batch.valid := rfl
  have hpairs : (batch.valid.flatMap SensorCommandPair.toBytes).length =
      batch.valid.length * sizeof_SensorCommandPair := by
    induction batch.valid with
    | nil => simp
    | cons p l ih =>
      rw [List.flatMap_cons, List.length_append, ih, length_pair, List.length_cons]
      ring
  unfold published serializeBatch
  rw [hvalid]
  simp only [List.length_append, length_header, length_toBytes, hpairs, length_valid h]
  ring

end Kuavo.BatchLog
