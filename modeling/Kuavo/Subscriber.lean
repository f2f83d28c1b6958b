import Kuavo.BatchLog

/-!
`tools/test_subscriber_influxdb.cpp`: what the subscriber makes of a payload.

It shares the header with the publisher, and of the record types it knows the single records
only. A batch passes the checks of the header, adds nothing and counts as a good message.
-/

namespace Kuavo.Subscriber

open Kuavo.Lib Kuavo.BatchLog

/-- A record as it is handed to the writer of points. -/
inductive Point
  | sensor (hdr : BinaryPayloadHeader) (sensor : List UInt8)
  | command (hdr : BinaryPayloadHeader) (cmd : List UInt8)
  deriving DecidableEq

/-- The record without its header. -/
def Point.record : Point → RecordType × List UInt8
  | .sensor _ s => (.SENSOR, s)
  | .command _ c => (.COMMAND, c)

/-- What has been added, and the counters. -/
structure Tally where
  points : List Point := []
  g_msg_count : ℕ := 0
  g_sensor_count : ℕ := 0
  g_cmd_count : ℕ := 0
  g_invalid_count : ℕ := 0
  deriving DecidableEq

namespace Tally

def invalid (s : Tally) : Tally := { s with g_invalid_count := s.g_invalid_count + 1 }

def good (s : Tally) : Tally := { s with g_msg_count := s.g_msg_count + 1 }

def add_sensor_point (s : Tally) (hdr : BinaryPayloadHeader) (sensor : List UInt8) :
    Tally :=
  { s with points := s.points ++ [.sensor hdr sensor], g_sensor_count := s.g_sensor_count + 1 }

def add_command_point (s : Tally) (hdr : BinaryPayloadHeader) (cmd : List UInt8) :
    Tally :=
  { s with points := s.points ++ [.command hdr cmd], g_cmd_count := s.g_cmd_count + 1 }

def process_binary_payload (s : Tally) (payload : List UInt8) : Tally :=
  if payload.length < sizeof_BinaryPayloadHeader then s.invalid
  else
    let hdr := BinaryPayloadHeader.ofBytes payload
    let data := payload.drop sizeof_BinaryPayloadHeader
    if hdr.magic ≠ PAYLOAD_MAGIC then s.invalid
    else if hdr.version ≠ PAYLOAD_VERSION then s.invalid
    else if hdr.record_type = RecordType.SENSOR.code then
      if hdr.payload_size.toNat ≠ sizeof_SensorData ∨ data.length < sizeof_SensorData then s.invalid
      else (s.add_sensor_point hdr (data.take sizeof_SensorData)).good
    else if hdr.record_type = RecordType.COMMAND.code then
      if hdr.payload_size.toNat ≠ sizeof_Command ∨ data.length < sizeof_Command then s.invalid
      else (s.add_command_point hdr (data.take sizeof_Command)).good
    else s.good

end Tally

open Tally

/-- A header that passes the checks every record is under. -/
structure HeaderOk (payload : List UInt8) : Prop where
  size : sizeof_BinaryPayloadHeader ≤ payload.length
  magic : (BinaryPayloadHeader.ofBytes payload).magic = PAYLOAD_MAGIC
  version : (BinaryPayloadHeader.ofBytes payload).version = PAYLOAD_VERSION

/-- A record type that the subscriber has a branch for. -/
def KnownType (payload : List UInt8) : Prop :=
  (BinaryPayloadHeader.ofBytes payload).record_type = RecordType.SENSOR.code ∨
  (BinaryPayloadHeader.ofBytes payload).record_type = RecordType.COMMAND.code

/-- The records of a batch, the sensor record of each sample before its command. -/
def records (batch : BatchLogRecord) : List (RecordType × List UInt8) :=
  batch.valid.flatMap fun p => [(.SENSOR, p.sensor.toList), (.COMMAND, p.cmd.toList)]

/-- The payload adds the records of the batch and nothing else. -/
def Understood (s : Tally) (payload : List UInt8) (batch : BatchLogRecord) : Prop :=
  ∃ added, (s.process_binary_payload payload).points = s.points ++ added ∧
    added.map Point.record = records batch

/-- A payload that adds nothing is counted as invalid and not as good. -/
def CountedIfDropped (s : Tally) (payload : List UInt8) : Prop :=
  (s.process_binary_payload payload).points = s.points →
    (s.process_binary_payload payload).g_invalid_count = s.g_invalid_count + 1 ∧
    (s.process_binary_payload payload).g_msg_count = s.g_msg_count

/-! ### The three things that can happen -/

variable (s : Tally) {payload : List UInt8}

lemma process_unknown (hok : HeaderOk payload) (htype : ¬ KnownType payload) :
    s.process_binary_payload payload = s.good := by
  obtain ⟨hsensor, hcommand⟩ := not_or.mp htype
  unfold process_binary_payload
  simp only [not_lt.mpr hok.size, if_false, hok.magic, hok.version, ne_eq, not_true, hsensor,
    hcommand]

/-- Without a valid header, or with a known type, a payload adds one record or counts as
invalid. -/
lemma process_cases (h : ¬ (HeaderOk payload ∧ ¬ KnownType payload)) :
    s.process_binary_payload payload = s.invalid ∨
      ∃ p, (s.process_binary_payload payload).points = s.points ++ [p] := by
  unfold process_binary_payload
  simp only
  split_ifs with hsize hmagic hversion hsensor hs hcommand hc
  · exact Or.inl rfl
  · exact Or.inl rfl
  · exact Or.inl rfl
  · exact Or.inl rfl
  · exact Or.inr ⟨_, rfl⟩
  · exact Or.inl rfl
  · exact Or.inr ⟨_, rfl⟩
  · refine absurd ⟨⟨not_lt.mp hsize, not_not.mp hmagic, not_not.mp hversion⟩, ?_⟩ h
    exact not_or.mpr ⟨hsensor, hcommand⟩

/-- A payload that is dropped is counted as such, but for one with a valid header and a type
that the subscriber does not know. -/
lemma countedIfDropped_iff :
    CountedIfDropped s payload ↔ ¬ (HeaderOk payload ∧ ¬ KnownType payload) := by
  constructor
  · rintro h ⟨hok, htype⟩
    have hgood := process_unknown s hok htype
    have hcount := (h (by rw [hgood]; rfl)).2
    rw [hgood] at hcount
    exact absurd hcount (Nat.succ_ne_self _)
  · intro h hsame
    rcases process_cases s h with hinv | ⟨p, hp⟩
    · rw [hinv]
      exact ⟨rfl, rfl⟩
    · rw [hp] at hsame
      have := congrArg List.length hsame
      simp at this

/-! ### Batches -/

lemma headerOk_published (robot_id : UInt32) {batch : BatchLogRecord}
    (h : batch.sample_count.toNat ≤ BATCH_SIZE) : HeaderOk (published robot_id batch) := by
  refine ⟨?_, ?_, ?_⟩
  · rw [length_published robot_id h]
    omega
  · rw [header_published]
    rfl
  · rw [header_published]
    rfl

lemma not_knownType_published (robot_id : UInt32) (batch : BatchLogRecord) :
    ¬ KnownType (published robot_id batch) := by
  unfold KnownType
  rw [header_published]
  change ¬ (RecordType.SENSOR_BATCH.code = _ ∨ RecordType.SENSOR_BATCH.code = _)
  decide

lemma records_ne_nil {batch : BatchLogRecord} (h0 : 0 < batch.sample_count.toNat)
    (h : batch.sample_count.toNat ≤ BATCH_SIZE) : records batch ≠ [] := by
  intro hnil
  have hlen : (records batch).length = 2 * batch.valid.length := by
    unfold records
    induction batch.valid with
    | nil => rfl
    | cons p l ih =>
      rw [List.flatMap_cons, List.length_append, ih, List.length_cons]
      simp only [List.length_cons, List.length_nil]
      ring
  rw [hnil, length_valid h] at hlen
  simp only [List.length_nil] at hlen
  omega

/-- **Batches are dropped.** No payload that the logger publishes is understood, and every one
counts as a good message. Of all payloads, those whose loss goes uncounted are exactly the ones
with a valid header and a type that the subscriber does not know. -/
theorem published_dropped (s : Tally) (robot_id : UInt32) (batch : BatchLogRecord)
    (h0 : 1 ≤ batch.sample_count.toNat) (h : batch.sample_count.toNat ≤ BATCH_SIZE) :
    ¬ Understood s (published robot_id batch) batch ∧
    ¬ CountedIfDropped s (published robot_id batch) ∧
    ∀ payload, CountedIfDropped s payload ↔ ¬ (HeaderOk payload ∧ ¬ KnownType payload) := by
  have hok := headerOk_published robot_id h
  have htype := not_knownType_published robot_id batch
  refine ⟨?_, ?_, fun payload => countedIfDropped_iff s⟩
  · rintro ⟨added, hadded, hrecords⟩
    rw [process_unknown s hok htype] at hadded
    have hnil : added = [] := by
      have : s.points ++ [] = s.points ++ added := by rw [List.append_nil]; exact hadded
      exact (List.append_cancel_left this).symm
    rw [hnil] at hrecords
    exact records_ne_nil h0 h hrecords.symm
  · rw [countedIfDropped_iff]
    exact fun hn => hn ⟨hok, htype⟩

/-- A batch of one sample, all of its bytes zero. -/
def oneSample : BatchLogRecord where
  header := ⟨0, 0, 0, 0, 0, 0, 0, 0⟩
  sample_count := 1
  samples := Vector.replicate _ ⟨Vector.replicate _ 0, Vector.replicate _ 0⟩

theorem oneSample_dropped : ¬ Understood {} (published 1 oneSample) oneSample :=
  (published_dropped {} 1 oneSample (by decide) (by decide)).1

/-- The payload adds nothing, and counts as good. -/
theorem oneSample_counted_good :
    ({} : Tally).process_binary_payload (published 1 oneSample) = { g_msg_count := 1 } ∧
    ¬ CountedIfDropped {} (published 1 oneSample) ∧ records oneSample ≠ [] := by
  have hok : HeaderOk (published 1 oneSample) := headerOk_published 1 (by decide)
  have htype := not_knownType_published 1 oneSample
  refine ⟨process_unknown {} hok htype, ?_, records_ne_nil (by decide) (by decide)⟩
  rw [countedIfDropped_iff]
  exact fun hn => hn ⟨hok, htype⟩

end Kuavo.Subscriber
