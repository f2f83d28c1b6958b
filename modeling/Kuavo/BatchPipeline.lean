import Kuavo.BatchLog
import Kuavo.SpscRing
import Mathlib.Data.List.Induction

/-!
From `lib/composer/Composer.cpp` through the ring to `lib/logger/Logger.cpp`.

The composer thread accumulates what it composed into batches and pushes them; the logger
thread pops them and offers some of them to the MQTT client. What a compose cycle reads is an
input, as is the clock. The calls of `push` and `pop` are taken step by step, and everything
else a thread does is its own.
-/

namespace Kuavo.BatchPipeline

open Kuavo.BatchLog Kuavo.Lib.Bits Kuavo.Lib.Runs Kuavo.Lib.Copy Kuavo.Lib.BoundedQueue
open SpscRing (pushed pushReturned popReturned)

/-- `LOG_RING_CAPACITY` and `BATCH_RING_CAPACITY` are 256. -/
def ringBits : Fin 64 := 8

def DRAIN_BATCH_LIMIT : ℕ := 10

/-- `run` at the head of its loop, or in `flush_batch`, the last one if the loop is over. -/
inductive ComposerPc
  | exited
  | loop
  | flushing (last : Bool)
  deriving DecidableEq

structure Composer where
  batch_ : BatchLogRecord
  batch_idx_ : ℕ := 0
  batch_seq_ : UInt64 := 0
  dropped_ : UInt64 := 0
  running_ : Bool := false
  pc : ComposerPc := .exited

/-- `drainOnce` in its round `i`, popping. -/
inductive LoggerPc
  | idle
  | draining (i : ℕ)
  deriving DecidableEq

structure Logger where
  robot_id_ : UInt32
  downsample_every_ : UInt64
  drain_skip_counter_ : UInt64 := 0
  pc : LoggerPc := .idle
  /-- The payloads of the calls of `publish_binary`. -/
  offered : List (List UInt8) := []

structure System (L : Layout BatchLogRecord) where
  robot_id : UInt32
  composer : Composer
  logger : Logger
  ring : SpscRing.State L
  /-- The samples of all compose cycles. -/
  composed : List SensorCommandPair := []

inductive Input
  | start
  | shutdown
  /-- The composer at the head of its loop, with the sample it composes if it is to go on. -/
  | composerLoop (sample : SensorCommandPair) (now : UInt64)
  | composerStep
  /-- The logger calls `drainOnce`, whose variable is not initialized. -/
  | drainOnce (batch : BatchLogRecord)
  | loggerStep (batch : BatchLogRecord)

variable {L : Layout BatchLogRecord}

/-! ### The composer -/

namespace Composer

/-- The end of a compose cycle. -/
def accumulate (c : Composer) (sample : SensorCommandPair) : Composer :=
  { c with
    batch_ := { c.batch_ with samples := c.batch_.samples.setIfInBounds c.batch_idx_ sample }
    batch_idx_ := c.batch_idx_ + 1 }

/-- `flush_batch`, as far as the push. -/
def flush_batch (c : Composer) (robot_id : UInt32) (now : UInt64) (last : Bool) : Composer :=
  { c with
    batch_ := { c.batch_ with
      header := { c.batch_.header with
        magic := PAYLOAD_MAGIC
        version := PAYLOAD_VERSION
        record_type := RecordType.SENSOR_BATCH.code
        robot_id := robot_id
        payload_size := payloadSize c.batch_idx_
        sequence := c.batch_seq_
        timestamp_ns := now }
      sample_count := UInt32.ofNat c.batch_idx_ }
    batch_seq_ := c.batch_seq_ + 1
    pc := .flushing last }

/-- The rest of `flush_batch`. -/
def flushed (c : Composer) (ok : Bool) (last : Bool) : Composer :=
  { c with
    dropped_ := if ok then c.dropped_ else c.dropped_ + 1
    batch_idx_ := 0
    pc := if last then .exited else .loop }

/-- The samples that wait for their batch to be flushed. -/
def pending (c : Composer) : List SensorCommandPair :=
  match c.pc with
  | .exited | .loop => c.batch_.samples.toList.take c.batch_idx_
  | .flushing _ => []

end Composer

/-- `flush_batch` up to its call of `push`. -/
def flush (s : System L) (now : UInt64) (last : Bool) : System L :=
  let c := s.composer.flush_batch s.robot_id now last
  { s with composer := c, ring := SpscRing.step ringBits s.ring (.push c.batch_) }

def compose_cycle (s : System L) (sample : SensorCommandPair) (now : UInt64) : System L :=
  let s' := { s with
    composer := s.composer.accumulate sample
    composed := s.composed ++ [sample] }
  if BATCH_SIZE ≤ s'.composer.batch_idx_ then flush s' now false else s'

def composerLoop (s : System L) (sample : SensorCommandPair) (now : UInt64) : System L :=
  match s.composer.pc with
  | .loop =>
    if s.composer.running_ then compose_cycle s sample now
    else if 0 < s.composer.batch_idx_ then flush s now true
    else { s with composer := { s.composer with pc := .exited } }
  | .exited | .flushing _ => s

def composerStep (s : System L) : System L :=
  match s.composer.pc with
  | .flushing last =>
    let ring := SpscRing.pushStep ringBits s.ring
    match pushReturned ring with
    | some ok => { s with ring := ring, composer := s.composer.flushed ok last }
    | none => { s with ring := ring }
  | .exited | .loop => s

/-! ### The logger -/

/-- What `drainOnce` does with a batch it popped. -/
def Logger.process (lg : Logger) (batch : BatchLogRecord) : Logger :=
  { lg with
    drain_skip_counter_ := lg.drain_skip_counter_ + 1
    offered :=
      if lg.drain_skip_counter_ % lg.downsample_every_ = 0 then
        lg.offered ++ [published lg.robot_id_ batch]
      else lg.offered }

def loggerStep (s : System L) (batch : BatchLogRecord) : System L :=
  match s.logger.pc with
  | .draining i =>
    let ring := SpscRing.popStep ringBits s.ring
    match popReturned ring with
    | none => { s with ring := ring }
    | some none => { s with ring := ring, logger := { s.logger with pc := .idle } }
    | some (some popped) =>
      let lg := s.logger.process popped
      if i + 1 < DRAIN_BATCH_LIMIT then
        { s with
          ring := SpscRing.step ringBits ring (.pop batch)
          logger := { lg with pc := .draining (i + 1) } }
      else { s with ring := ring, logger := { lg with pc := .idle } }
  | .idle => s

def step (s : System L) : Input → System L
  | .start =>
    match s.composer.pc with
    | .exited => { s with composer := { s.composer with running_ := true, pc := .loop } }
    | .loop | .flushing _ => s
  | .shutdown => { s with composer := { s.composer with running_ := false } }
  | .composerLoop sample now => composerLoop s sample now
  | .composerStep => composerStep s
  | .drainOnce batch =>
    match s.logger.pc with
    | .idle =>
      { s with
        ring := SpscRing.step ringBits s.ring (.pop batch)
        logger := { s.logger with pc := .draining 0 } }
    | .draining _ => s
  | .loggerStep batch => loggerStep s batch

/-- `downsample_every_` as the constructor of the logger sets it. -/
def rate (downsample_every : UInt64) : UInt64 :=
  if downsample_every = 0 then 1 else downsample_every

/-- The constructors of the three. -/
def init (L : Layout BatchLogRecord) (robot_id robot_id_ : UInt32) (downsample_every : UInt64)
    (batch_ : BatchLogRecord) (buffer : ℕ → BatchLogRecord) : System L where
  robot_id := robot_id
  composer := { batch_ := batch_ }
  logger :=
    { robot_id_ := robot_id_
      downsample_every_ := rate downsample_every }
  ring := SpscRing.init buffer

/-! ### The composer's invariant -/

/-- What the composer has counted, with the samples that wait: `issued` are the batches of all
calls of `push`, `returned` those of the calls that have returned. -/
structure Accounted (c : Composer) (composed waiting : List SensorCommandPair)
    (returned : List (BatchLogRecord × Bool)) (issued : List BatchLogRecord) : Prop where
  seq : c.batch_seq_.toNat = issued.length
  sequences : issued.map (fun b => b.header.sequence.toNat) = List.range issued.length
  counts : ∀ b ∈ issued, 1 ≤ b.sample_count.toNat ∧ b.sample_count.toNat ≤ BATCH_SIZE
  composed : composed = issued.flatMap BatchLogRecord.valid ++ waiting
  dropped : c.dropped_.toNat = dropped returned

structure ComposerInv (c : Composer) (composed : List SensorCommandPair)
    (returned : List (BatchLogRecord × Bool)) (issued : List BatchLogRecord) (busy : Prop) :
    Prop where
  pc : match c.pc with
    | .exited => ¬busy ∧ c.batch_idx_ = 0
    | .loop => ¬busy ∧ c.batch_idx_ < BATCH_SIZE
    | .flushing _ => busy
  accounted : Accounted c composed c.pending returned issued

variable {c : Composer} {composed waiting : List SensorCommandPair}
  {returned : List (BatchLogRecord × Bool)} {issued : List BatchLogRecord} {busy : Prop}

lemma pending_flushed (c : Composer) (ok last : Bool) : (c.flushed ok last).pending = [] := by
  cases last <;> simp [Composer.flushed, Composer.pending]

/-- A sample is appended to those that wait. -/
lemma take_accumulate (sample : SensorCommandPair) (h : c.batch_idx_ < BATCH_SIZE) :
    (c.accumulate sample).batch_.samples.toList.take (c.accumulate sample).batch_idx_ =
      c.batch_.samples.toList.take c.batch_idx_ ++ [sample] := by
  have hlen : c.batch_idx_ < c.batch_.samples.toList.length := by
    rw [Vector.length_toList]
    exact h
  simp only [Composer.accumulate, Vector.toList_setIfInBounds]
  rw [List.take_add_one, List.take_set_of_le le_rfl, List.getElem?_set_self hlen]
  rfl

lemma Accounted.accumulate (sample : SensorCommandPair) (hidx : c.batch_idx_ < BATCH_SIZE)
    (h : Accounted c composed (c.batch_.samples.toList.take c.batch_idx_) returned issued) :
    Accounted (c.accumulate sample) (composed ++ [sample])
      ((c.accumulate sample).batch_.samples.toList.take (c.accumulate sample).batch_idx_)
      returned issued := by
  refine ⟨h.seq, h.sequences, h.counts, ?_, h.dropped⟩
  rw [take_accumulate sample hidx, h.composed, List.append_assoc]

/-- The batch that is pushed has the samples that waited. -/
lemma valid_flush_batch (robot_id : UInt32) (now : UInt64) (last : Bool)
    (h : c.batch_idx_ ≤ BATCH_SIZE) :
    (c.flush_batch robot_id now last).batch_.sample_count.toNat = c.batch_idx_ ∧
      (c.flush_batch robot_id now last).batch_.valid =
        c.batch_.samples.toList.take c.batch_idx_ := by
  have hcount : (UInt32.ofNat c.batch_idx_).toNat = c.batch_idx_ := by
    rw [UInt32.toNat_ofNat']
    exact Nat.mod_eq_of_lt (h.trans_lt (by decide))
  refine ⟨hcount, ?_⟩
  rw [BatchLogRecord.valid]
  simp only [Composer.flush_batch, hcount]

/-- The call of `push` in `flush_batch`. -/
lemma Accounted.flush_batch (robot_id : UInt32) (now : UInt64) (last : Bool)
    (h : Accounted c composed (c.batch_.samples.toList.take c.batch_idx_) returned issued)
    (hidx : 1 ≤ c.batch_idx_ ∧ c.batch_idx_ ≤ BATCH_SIZE) (hB : issued.length + 1 < 2 ^ 64) :
    Accounted (c.flush_batch robot_id now last) composed [] returned
      (issued ++ [(c.flush_batch robot_id now last).batch_]) := by
  obtain ⟨hcount, hvalid⟩ := valid_flush_batch robot_id now last hidx.2
  refine ⟨?_, ?_, ?_, ?_, h.dropped⟩
  · rw [List.length_append, ← h.seq]
    exact toNat_succ (by rw [h.seq]; exact hB)
  · rw [List.map_append, h.sequences, List.length_append, List.length_singleton, List.range_succ]
    simp [Composer.flush_batch, h.seq]
  · intro b hb
    rcases List.mem_append.mp hb with hb | hb
    · exact h.counts b hb
    · rw [List.mem_singleton.mp hb, hcount]
      exact hidx
  · rw [List.flatMap_append, List.flatMap_singleton, hvalid, List.append_nil]
    exact h.composed

/-- The call of `push` has returned. -/
lemma Accounted.flushed (b : BatchLogRecord) (ok last : Bool)
    (h : Accounted c composed [] returned issued) (hB : (returned ++ [(b, ok)]).length < 2 ^ 64) :
    Accounted (c.flushed ok last) composed [] (returned ++ [(b, ok)]) issued := by
  refine ⟨h.seq, h.sequences, h.counts, h.composed, ?_⟩
  cases ok with
  | true => simpa [Composer.flushed] using h.dropped
  | false =>
    have hle := length_pushes returned
    rw [List.length_append, List.length_singleton] at hB
    rw [dropped_concat, ← h.dropped]
    exact toNat_succ (by rw [h.dropped]; omega)

/-! ### The logger's invariant -/

/-- The payloads that are due for the batches popped so far. -/
def offers (robot_id : UInt32) (every : UInt64) (popped : List BatchLogRecord) :
    List (List UInt8) :=
  (popped.zipIdx.filter fun p => p.2 % every.toNat = 0).map fun p => published robot_id p.1

lemma offers_concat (robot_id : UInt32) (every : UInt64) (popped : List BatchLogRecord)
    (b : BatchLogRecord) :
    offers robot_id every (popped ++ [b]) =
      offers robot_id every popped ++
        if popped.length % every.toNat = 0 then [published robot_id b] else [] := by
  unfold offers
  rw [List.zipIdx_append, List.filter_append, List.map_append]
  by_cases h : popped.length % every.toNat = 0 <;> simp [h]

structure LoggerInv (lg : Logger) (popped : List BatchLogRecord) (busy : Prop) : Prop where
  pc : match lg.pc with
    | .idle => ¬busy
    | .draining _ => busy
  skip : lg.drain_skip_counter_.toNat = popped.length
  offered : lg.offered = offers lg.robot_id_ lg.downsample_every_ popped

lemma process_spec {lg : Logger} {popped : List BatchLogRecord} (b : BatchLogRecord)
    (hskip : lg.drain_skip_counter_.toNat = popped.length)
    (hoffered : lg.offered = offers lg.robot_id_ lg.downsample_every_ popped)
    (hB : (popped ++ [b]).length < 2 ^ 64) :
    (lg.process b).drain_skip_counter_.toNat = (popped ++ [b]).length ∧
      (lg.process b).offered = offers lg.robot_id_ lg.downsample_every_ (popped ++ [b]) := by
  constructor
  · rw [List.length_append, List.length_singleton] at hB ⊢
    rw [← hskip] at hB ⊢
    exact toNat_succ hB
  · have hdue : lg.drain_skip_counter_ % lg.downsample_every_ = 0 ↔
        popped.length % lg.downsample_every_.toNat = 0 := by
      rw [← UInt64.toNat_inj, UInt64.toNat_mod, hskip]
      rfl
    rw [offers_concat, ← hoffered]
    by_cases h : lg.drain_skip_counter_ % lg.downsample_every_ = 0
    · simp [Logger.process, h, hdue.mp h]
    · simp [Logger.process, h, mt hdue.mpr h]

/-! ### Both threads -/

/-- The ring is as its own invariant says, and is a queue. -/
structure RingInv (ring : SpscRing.State L) : Prop where
  inv : SpscRing.Inv ringBits ring
  fifo : Fifo (2 ^ ringBits.val) (SpscRing.abs ringBits ring)

lemma RingInv.step {ring : SpscRing.State L} (h : RingInv ring) (i : SpscRing.Input BatchLogRecord)
    (hB : (pushed (SpscRing.step ringBits ring i)).length < 2 ^ 64) :
    RingInv (SpscRing.step ringBits ring i) :=
  ⟨SpscRing.inv_step i h.inv hB, SpscRing.fifo_step i h.inv hB h.fifo⟩

/-- No more batches are popped than were pushed. -/
lemma RingInv.popped_le {ring : SpscRing.State L} (h : RingInv ring) :
    (Lib.BoundedQueue.returned ring.pops).length ≤ (pushed ring).length := by
  have haccepted := congrArg List.length (SpscRing.accepted_eq h.fifo)
  have hpushes := length_pushes ring.pushes
  rw [List.length_append] at haccepted
  rw [pushed, List.length_append, List.length_map]
  omega

structure Inv (s : System L) : Prop where
  ring : RingInv s.ring
  composer : ComposerInv s.composer s.composed s.ring.pushes (pushed s.ring)
    (s.ring.pushPc ≠ .idle)
  logger : LoggerInv s.logger (Lib.BoundedQueue.returned s.ring.pops) (s.ring.popPc ≠ .idle)

lemma inv_init (L : Layout BatchLogRecord) (robot_id robot_id_ : UInt32)
    (downsample_every : UInt64) (batch_ : BatchLogRecord) (buffer : ℕ → BatchLogRecord) :
    Inv (init L robot_id robot_id_ downsample_every batch_ buffer) where
  ring := ⟨SpscRing.inv_init buffer, ⟨rfl, Nat.zero_le _⟩⟩
  composer :=
    { pc := ⟨not_not.mpr rfl, rfl⟩
      accounted :=
        ⟨rfl, rfl, by simp [pushed, init, SpscRing.init, SpscRing.PushPc.item], rfl, rfl⟩ }
  logger := ⟨not_not.mpr rfl, rfl, rfl⟩

/-- What a call of `push` that starts does to the ring. -/
lemma step_push {ring : SpscRing.State L} (hidle : ring.pushPc = .idle) (b : BatchLogRecord) :
    let ring' := SpscRing.step ringBits ring (.push b)
    ring'.pushPc ≠ .idle ∧ ring'.pushes = ring.pushes ∧ pushed ring' = pushed ring ++ [b] ∧
      ring'.popPc = ring.popPc ∧ ring'.pops = ring.pops := by
  simp [SpscRing.step, hidle, pushed, SpscRing.PushPc.item]

lemma step_pop {ring : SpscRing.State L} (hidle : ring.popPc = .idle) (b : BatchLogRecord) :
    let ring' := SpscRing.step ringBits ring (.pop b)
    ring'.popPc ≠ .idle ∧ ring'.pops = ring.pops ∧ ring'.pushPc = ring.pushPc ∧
      ring'.pushes = ring.pushes := by
  simp [SpscRing.step, hidle]

lemma inv_flush {s : System L} (now : UInt64) (last : Bool) (hring : RingInv s.ring)
    (hidle : s.ring.pushPc = .idle)
    (hacc : Accounted s.composer s.composed
      (s.composer.batch_.samples.toList.take s.composer.batch_idx_) s.ring.pushes (pushed s.ring))
    (hidx : 1 ≤ s.composer.batch_idx_ ∧ s.composer.batch_idx_ ≤ BATCH_SIZE)
    (hlogger : LoggerInv s.logger (Lib.BoundedQueue.returned s.ring.pops)
      (s.ring.popPc ≠ .idle))
    (hB : (pushed (flush s now last).ring).length < 2 ^ 64) : Inv (flush s now last) := by
  obtain ⟨hbusy, hpushes, hpushed, hpopPc, hpops⟩ :=
    step_push hidle (s.composer.flush_batch s.robot_id now last).batch_
  have hlen : (pushed s.ring).length + 1 < 2 ^ 64 := by
    rw [flush, hpushed, List.length_append] at hB
    exact hB
  refine ⟨hring.step _ hB, ⟨hbusy, ?_⟩, ?_⟩
  · simp only [flush, hpushes, hpushed]
    exact hacc.flush_batch s.robot_id now last hidx hlen
  · simp only [flush, hpops, hpopPc]
    exact hlogger

lemma pending_loop {c : Composer} (hs : c.pc = .loop) :
    c.pending = c.batch_.samples.toList.take c.batch_idx_ := by
  rw [Composer.pending, hs]

lemma inv_compose_cycle {s : System L} (sample : SensorCommandPair) (now : UInt64) (h : Inv s)
    (hs : s.composer.pc = .loop)
    (hB : (pushed (compose_cycle s sample now).ring).length < 2 ^ 64) :
    Inv (compose_cycle s sample now) := by
  have hpc := h.composer.pc
  have hacc := h.composer.accounted
  rw [hs] at hpc
  rw [pending_loop hs] at hacc
  obtain ⟨hidle, hidx⟩ := hpc
  have hadd := hacc.accumulate sample hidx
  unfold compose_cycle at hB ⊢
  by_cases hfull : BATCH_SIZE ≤ (s.composer.accumulate sample).batch_idx_
  · simp only [if_pos hfull] at hB ⊢
    exact inv_flush now false h.ring (not_not.mp hidle) hadd ⟨Nat.le_add_left 1 _, hidx⟩
      h.logger hB
  · simp only [if_neg hfull]
    have hs' : (s.composer.accumulate sample).pc = .loop := hs
    refine ⟨h.ring, ⟨?_, ?_⟩, h.logger⟩
    · rw [hs']
      exact ⟨hidle, not_le.mp hfull⟩
    · rw [pending_loop hs']
      exact hadd

lemma inv_composerLoop {s : System L} (sample : SensorCommandPair) (now : UInt64) (h : Inv s)
    (hB : (pushed (composerLoop s sample now).ring).length < 2 ^ 64) :
    Inv (composerLoop s sample now) := by
  rcases hs : s.composer.pc with _ | _ | last
  · rwa [show composerLoop s sample now = s by simp only [composerLoop, hs]]
  · by_cases hrunning : s.composer.running_
    · have heq : composerLoop s sample now = compose_cycle s sample now := by
        simp only [composerLoop, hs, if_pos hrunning]
      rw [heq] at hB ⊢
      exact inv_compose_cycle sample now h hs hB
    · have hpc := h.composer.pc
      have hacc := h.composer.accounted
      rw [hs] at hpc
      rw [pending_loop hs] at hacc
      obtain ⟨hidle, hidx⟩ := hpc
      by_cases hidx0 : 0 < s.composer.batch_idx_
      · have heq : composerLoop s sample now = flush s now true := by
          simp only [composerLoop, hs, if_neg hrunning, if_pos hidx0]
        rw [heq] at hB ⊢
        exact inv_flush now true h.ring (not_not.mp hidle) hacc ⟨hidx0, hidx.le⟩ h.logger hB
      · have heq : composerLoop s sample now =
            { s with composer := { s.composer with pc := .exited } } := by
          simp only [composerLoop, hs, if_neg hrunning, if_neg hidx0]
        rw [heq]
        exact ⟨h.ring, ⟨⟨hidle, Nat.eq_zero_of_not_pos hidx0⟩,
          ⟨hacc.seq, hacc.sequences, hacc.counts, hacc.composed, hacc.dropped⟩⟩, h.logger⟩
  · rwa [show composerLoop s sample now = s by simp only [composerLoop, hs]]

lemma inv_composerStep {s : System L} (h : Inv s) (hB : (pushed s.ring).length < 2 ^ 64) :
    Inv (composerStep s) := by
  have hpc := h.composer.pc
  have hacc := h.composer.accounted
  rcases hs : s.composer.pc with _ | _ | last
  · rwa [show composerStep s = s by simp only [composerStep, hs]]
  · rwa [show composerStep s = s by simp only [composerStep, hs]]
  · rw [hs] at hpc
    rw [Composer.pending, hs] at hacc
    obtain ⟨hpushed, hpops, hpopPc, hcases⟩ := SpscRing.pushStep_cases (k := ringBits) hpc
    rw [← hpushed] at hB
    have hring : RingInv (SpscRing.pushStep ringBits s.ring) := h.ring.step .pushStep hB
    have hlogger : LoggerInv s.logger
        (Lib.BoundedQueue.returned (SpscRing.pushStep ringBits s.ring).pops)
        ((SpscRing.pushStep ringBits s.ring).popPc ≠ .idle) := by
      rw [hpops, hpopPc]
      exact h.logger
    obtain ⟨hbusy, hpushes, hreturned⟩ | ⟨b, ok, hidle, hpushes, hreturned⟩ := hcases
    · have heq : composerStep s = { s with ring := SpscRing.pushStep ringBits s.ring } := by
        simp only [composerStep, hs, hreturned]
      rw [heq]
      refine ⟨hring, ⟨?_, ?_⟩, hlogger⟩
      · simp only [hs]
        exact hbusy
      · simp only [Composer.pending, hs, hpushed, hpushes]
        exact hacc
    · have heq : composerStep s =
          { s with
            ring := SpscRing.pushStep ringBits s.ring
            composer := s.composer.flushed ok last } := by
        simp only [composerStep, hs, hreturned]
      rw [heq]
      refine ⟨hring, ⟨?_, ?_⟩, hlogger⟩
      · cases last
        · exact ⟨not_not.mpr hidle, Nat.succ_pos _⟩
        · exact ⟨not_not.mpr hidle, rfl⟩
      · simp only [pending_flushed, hpushed, hpushes]
        refine hacc.flushed b ok last ?_
        rw [pushed, hidle, hpushes, List.length_append, List.length_map] at hB
        exact (Nat.le_add_right _ _).trans_lt hB

/-- The logger starts another call of `pop`. -/
lemma inv_pop {s : System L} (batch : BatchLogRecord) (i : ℕ) (h : Inv s)
    (hs : s.logger.pc = .idle) (hB : (pushed s.ring).length < 2 ^ 64) :
    Inv { s with
      ring := SpscRing.step ringBits s.ring (.pop batch)
      logger := { s.logger with pc := .draining i } } := by
  obtain ⟨hpc, hskip, hoffered⟩ := h.logger
  rw [hs] at hpc
  obtain ⟨hbusy, hpops, hpushPc, hpushes⟩ := step_pop (not_not.mp hpc) batch
  have hpushed : pushed (SpscRing.step ringBits s.ring (.pop batch)) = pushed s.ring :=
    SpscRing.pushed_congr hpushes hpushPc
  refine ⟨h.ring.step _ (by rw [hpushed]; exact hB), ?_, hbusy, ?_, ?_⟩
  · simp only [hpushes, hpushed, hpushPc]
    exact h.composer
  · rw [hpops]
    exact hskip
  · rw [hpops]
    exact hoffered

lemma inv_loggerStep {s : System L} (batch : BatchLogRecord) (h : Inv s)
    (hB : (pushed s.ring).length < 2 ^ 64) : Inv (loggerStep s batch) := by
  obtain ⟨hpc, hskip, hoffered⟩ := h.logger
  rcases hs : s.logger.pc with _ | i
  · rwa [show loggerStep s batch = s by simp only [loggerStep, hs]]
  · rw [hs] at hpc
    obtain ⟨hpushes, hpushPc, hcases⟩ := SpscRing.popStep_cases (k := ringBits) hpc
    have hpushed : pushed (SpscRing.popStep ringBits s.ring) = pushed s.ring :=
      SpscRing.pushed_congr hpushes hpushPc
    rw [← hpushed] at hB
    have hring : RingInv (SpscRing.popStep ringBits s.ring) := h.ring.step .popStep hB
    have hcomposer : ComposerInv s.composer s.composed
        (SpscRing.popStep ringBits s.ring).pushes (pushed (SpscRing.popStep ringBits s.ring))
        ((SpscRing.popStep ringBits s.ring).pushPc ≠ .idle) := by
      rw [hpushes, hpushed, hpushPc]
      exact h.composer
    obtain ⟨hbusy, hpops, hreturned⟩ | ⟨o, hidle, hpops, hreturned⟩ := hcases
    · have heq : loggerStep s batch = { s with ring := SpscRing.popStep ringBits s.ring } := by
        simp only [loggerStep, hs, hreturned]
      rw [heq]
      refine ⟨hring, hcomposer, ?_, ?_, ?_⟩
      · simp only [hs]
        exact hbusy
      · rw [hpops]
        exact hskip
      · rw [hpops]
        exact hoffered
    · cases o with
      | none =>
        have heq : loggerStep s batch =
            { s with
              ring := SpscRing.popStep ringBits s.ring
              logger := { s.logger with pc := .idle } } := by
          simp only [loggerStep, hs, hreturned]
        rw [heq]
        refine ⟨hring, hcomposer, not_not.mpr hidle, ?_, ?_⟩
        · simpa [hpops] using hskip
        · simpa [hpops] using hoffered
      | some b =>
        have hpopped : Lib.BoundedQueue.returned (SpscRing.popStep ringBits s.ring).pops =
            Lib.BoundedQueue.returned s.ring.pops ++ [b] := by
          rw [hpops]
          simp
        have hlen : (Lib.BoundedQueue.returned s.ring.pops ++ [b]).length < 2 ^ 64 := by
          rw [← hpopped]
          exact hring.popped_le.trans_lt hB
        obtain ⟨hskip', hoffered'⟩ := process_spec b hskip hoffered hlen
        rw [← hpopped] at hskip' hoffered'
        have hdone : Inv { s with
            ring := SpscRing.popStep ringBits s.ring
            logger := { s.logger.process b with pc := .idle } } :=
          ⟨hring, hcomposer, not_not.mpr hidle, hskip', hoffered'⟩
        by_cases hi : i + 1 < DRAIN_BATCH_LIMIT
        · have heq : loggerStep s batch =
              { s with
                ring := SpscRing.step ringBits (SpscRing.popStep ringBits s.ring) (.pop batch)
                logger := { s.logger.process b with pc := .draining (i + 1) } } := by
            simp only [loggerStep, hs, hreturned, if_pos hi]
          rw [heq]
          exact inv_pop batch (i + 1) hdone rfl hB
        · have heq : loggerStep s batch =
              { s with
                ring := SpscRing.popStep ringBits s.ring
                logger := { s.logger.process b with pc := .idle } } := by
            simp only [loggerStep, hs, hreturned, if_neg hi]
          rw [heq]
          exact hdone

/-- Each step is none, one or two of the ring's. -/
lemma ring_step (s : System L) (i : Input) :
    Reachable (SpscRing.step ringBits) s.ring (step s i).ring := by
  have hone := fun (r : SpscRing.State L) i => reachable_step (SpscRing.step ringBits) r i
  have hrefl := Reachable.refl (SpscRing.step ringBits) s.ring
  cases i with
  | start =>
    simp only [step]
    split <;> exact hrefl
  | shutdown => exact hrefl
  | composerLoop sample now =>
    simp only [step, composerLoop, compose_cycle]
    split
    · split_ifs
      · exact hone _ (.push _)
      · exact hrefl
      · exact hone _ (.push _)
      · exact hrefl
    · exact hrefl
    · exact hrefl
  | composerStep =>
    simp only [step, composerStep]
    split
    · split <;> exact hone _ .pushStep
    · exact hrefl
    · exact hrefl
  | drainOnce batch =>
    simp only [step]
    split
    · exact hone _ (.pop _)
    · exact hrefl
  | loggerStep batch =>
    simp only [step, loggerStep]
    split
    · split
      · exact hone _ .popStep
      · exact hone _ .popStep
      · split_ifs
        · exact (hone _ .popStep).trans (hone _ (.pop _))
        · exact hone _ .popStep
    · exact hrefl

lemma length_pushed_le (s : System L) (i : Input) :
    (pushed s.ring).length ≤ (pushed (step s i).ring).length := by
  obtain ⟨l, hl⟩ := ring_step s i
  rw [← hl]
  exact run_relation (R := fun r r' : SpscRing.State L =>
      (pushed r).length ≤ (pushed r').length) (fun _ => le_rfl)
    (fun _ r' i h => h.trans (SpscRing.length_pushed_le r' i)) s.ring l

theorem inv_step (s : System L) (i : Input) (h : Inv s)
    (hB : (pushed (step s i).ring).length < 2 ^ 64) : Inv (step s i) := by
  have hB' := (length_pushed_le s i).trans_lt hB
  cases i with
  | start =>
    simp only [step]
    split
    · rename_i hs
      have hpc := h.composer.pc
      have hacc := h.composer.accounted
      rw [hs] at hpc
      rw [Composer.pending, hs] at hacc
      refine ⟨h.ring, ⟨⟨hpc.1, ?_⟩, ?_⟩, h.logger⟩
      · simp only [hpc.2]
        decide
      · exact ⟨hacc.seq, hacc.sequences, hacc.counts, hacc.composed, hacc.dropped⟩
    · exact h
    · exact h
  | shutdown =>
    have hacc := h.composer.accounted
    exact ⟨h.ring, ⟨h.composer.pc,
      ⟨hacc.seq, hacc.sequences, hacc.counts, hacc.composed, hacc.dropped⟩⟩, h.logger⟩
  | composerLoop sample now => exact inv_composerLoop sample now h hB
  | composerStep => exact inv_composerStep h hB'
  | drainOnce batch =>
    simp only [step]
    split
    · rename_i hs
      exact inv_pop batch 0 h hs hB'
    · exact h
  | loggerStep batch => exact inv_loggerStep batch h hB'

lemma logger_settings (s : System L) (i : Input) :
    (step s i).logger.robot_id_ = s.logger.robot_id_ ∧
      (step s i).logger.downsample_every_ = s.logger.downsample_every_ := by
  cases i with
  | start =>
    simp only [step]
    split <;> exact ⟨rfl, rfl⟩
  | shutdown => exact ⟨rfl, rfl⟩
  | composerLoop sample now =>
    simp only [step, composerLoop, compose_cycle]
    split
    · split_ifs <;> exact ⟨rfl, rfl⟩
    · exact ⟨rfl, rfl⟩
    · exact ⟨rfl, rfl⟩
  | composerStep =>
    simp only [step, composerStep]
    split
    · split <;> exact ⟨rfl, rfl⟩
    · exact ⟨rfl, rfl⟩
    · exact ⟨rfl, rfl⟩
  | drainOnce batch =>
    simp only [step]
    split <;> exact ⟨rfl, rfl⟩
  | loggerStep batch =>
    simp only [step, loggerStep]
    split
    · split
      · exact ⟨rfl, rfl⟩
      · exact ⟨rfl, rfl⟩
      · split_ifs <;> exact ⟨rfl, rfl⟩
    · exact ⟨rfl, rfl⟩

lemma logger_settings_run (s : System L) (l : List Input) :
    (run step s l).logger.robot_id_ = s.logger.robot_id_ ∧
      (run step s l).logger.downsample_every_ = s.logger.downsample_every_ :=
  run_relation (R := fun s t : System L => t.logger.robot_id_ = s.logger.robot_id_ ∧
      t.logger.downsample_every_ = s.logger.downsample_every_) (fun _ => ⟨rfl, rfl⟩)
    (fun _ t i h => ⟨(logger_settings t i).1.trans h.1, (logger_settings t i).2.trans h.2⟩) s l

/-! ### From samples to payloads -/

lemma sequences_pairwise {issued popped : List BatchLogRecord} (hsub : popped.Sublist issued)
    (h : issued.map (fun b => b.header.sequence.toNat) = List.range issued.length) :
    (popped.map fun b => b.header.sequence).Pairwise (· < ·) := by
  have hall : (issued.map fun b => b.header.sequence.toNat).Pairwise (· < ·) := by
    rw [h]
    exact List.pairwise_lt_range
  have hpopped := hall.sublist (hsub.map _)
  rw [List.pairwise_map] at hpopped ⊢
  exact hpopped.imp fun hlt => UInt64.lt_iff_toNat_lt.mpr hlt

/-- What was popped was pushed. -/
lemma popped_sublist {ring : SpscRing.State L} (h : RingInv ring) :
    (Lib.BoundedQueue.returned ring.pops).Sublist (pushed ring) := by
  have haccepted := accepted_sublist ring.pushes
  rw [SpscRing.accepted_eq h.fifo] at haccepted
  exact (List.sublist_append_left _ _).trans
    (haccepted.trans (List.sublist_append_left _ _))

/-- Between two flushes: what was pushed was popped, is in the ring or was dropped. -/
lemma conserved {s : System L} (h : Inv s) (hpc : ∀ last, s.composer.pc ≠ .flushing last) :
    s.composer.batch_seq_.toNat =
      (Lib.BoundedQueue.returned s.ring.pops).length + (SpscRing.size s.ring).toNat +
        s.composer.dropped_.toNat := by
  have hidle : s.ring.pushPc = .idle := by
    have hcomposer := h.composer.pc
    rcases hs : s.composer.pc with _ | _ | last
    · rw [hs] at hcomposer
      exact not_not.mp hcomposer.1
    · rw [hs] at hcomposer
      exact not_not.mp hcomposer.1
    · exact absurd hs (hpc last)
  have haccepted := congrArg List.length (SpscRing.accepted_eq h.ring.fifo)
  rw [List.length_append] at haccepted
  rw [h.composer.accounted.seq, h.composer.accounted.dropped, SpscRing.size_eq h.ring.inv, pushed,
    hidle, ← haccepted, SpscRing.PushPc.item, List.append_nil, List.length_map, length_pushes]

lemma pending_lt {s : System L} (h : Inv s) :
    s.composer.pending.length < BATCH_SIZE ∧
      (s.composer.pc = .exited → s.composer.pending = []) := by
  have hpc := h.composer.pc
  rcases hs : s.composer.pc with _ | _ | last
  · rw [hs] at hpc
    simp [Composer.pending, hs, hpc.2, BATCH_SIZE]
  · rw [hs] at hpc
    refine ⟨?_, nofun⟩
    rw [pending_loop hs]
    exact (List.length_take_le _ _).trans_lt hpc.2
  · simp [Composer.pending, hs, BATCH_SIZE]

/-- **Conservation of samples and batches**, whatever the interleaving of the two threads. The
samples of all compose cycles are, in order, those of the batches that were pushed and the few
that still wait, none of them once the composer has exited; a batch has 1 to 4. What was popped
is among what was pushed, each batch as it was, under increasing sequence numbers. Between two
flushes every number is accounted for. The logger has offered the batches at every
`downsample_every_`-th place. -/
theorem batches_conserved (L : Layout BatchLogRecord) (robot_id robot_id_ : UInt32)
    (downsample_every : UInt64) (batch_ : BatchLogRecord) (buffer : ℕ → BatchLogRecord)
    (l : List Input)
    (hB : (pushed (run step
      (init L robot_id robot_id_ downsample_every batch_ buffer) l).ring).length < 2 ^ 64) :
    let s := run step (init L robot_id robot_id_ downsample_every batch_ buffer) l
    let popped := Lib.BoundedQueue.returned s.ring.pops
    (s.composed = (pushed s.ring).flatMap BatchLogRecord.valid ++ s.composer.pending ∧
      s.composer.pending.length < BATCH_SIZE ∧
      (s.composer.pc = .exited → s.composer.pending = []) ∧
      ∀ b ∈ pushed s.ring, 1 ≤ b.sample_count.toNat ∧ b.sample_count.toNat ≤ BATCH_SIZE) ∧
    (popped.Sublist (pushed s.ring) ∧
      (popped.map fun b => b.header.sequence).Pairwise (· < ·)) ∧
    ((∀ last, s.composer.pc ≠ .flushing last) →
      s.composer.batch_seq_.toNat =
        popped.length + (SpscRing.size s.ring).toNat + s.composer.dropped_.toNat) ∧
    s.logger.offered = offers robot_id_ (rate downsample_every) popped := by
  intro s popped
  have hinv : Inv s :=
    (each_of_final (B := fun s : System L => (pushed s.ring).length < 2 ^ 64)
      (fun s i h => (length_pushed_le s i).trans_lt h) hB).invariant (I := Inv) inv_step
      (inv_init L robot_id robot_id_ downsample_every batch_ buffer)
  obtain ⟨hpending, hexited⟩ := pending_lt hinv
  have hsub := popped_sublist hinv.ring
  have hacc := hinv.composer.accounted
  obtain ⟨hid, hrate⟩ :=
    logger_settings_run (init L robot_id robot_id_ downsample_every batch_ buffer) l
  have hoffered := hinv.logger.offered
  rw [hid, hrate] at hoffered
  exact ⟨⟨hacc.composed, hpending, hexited, hacc.counts⟩,
    ⟨hsub, sequences_pairwise hsub hacc.sequences⟩, conserved hinv, hoffered⟩

/-- A sample whose bytes are all zero, and a batch of none. -/
def zeroSample : SensorCommandPair := ⟨Vector.replicate _ 0, Vector.replicate _ 0⟩

def zeroBatch : BatchLogRecord := ⟨⟨0, 0, 0, 0, 0, 0, 0, 0⟩, 0, Vector.replicate _ zeroSample⟩

/-- Five cycles, the last flush, and the logger, which offers every other batch. -/
def lastFlush : List Input :=
  .start :: List.replicate 4 (.composerLoop zeroSample 0) ++ List.replicate 4 .composerStep ++
    [.composerLoop zeroSample 0, .shutdown, .composerLoop zeroSample 0] ++
    List.replicate 4 .composerStep ++ .drainOnce zeroBatch ::
    List.replicate 10 (.loggerStep zeroBatch)

theorem batches_conserved_lastFlush :
    let s := run step (init (Layout.whole _) 1 1 2 zeroBatch fun _ => zeroBatch) lastFlush
    let popped := Lib.BoundedQueue.returned s.ring.pops
    popped.map (fun b => b.sample_count) = [4, 1] ∧ s.logger.offered.length = 1 ∧
      s.composer.batch_seq_.toNat =
        popped.length + (SpscRing.size s.ring).toNat + s.composer.dropped_.toNat ∧
      s.logger.offered = offers 1 (rate 2) popped := by
  obtain ⟨-, -, hconserved, hoffered⟩ := batches_conserved (Layout.whole _) 1 1 2 zeroBatch
    (fun _ => zeroBatch) lastFlush (by decide +kernel)
  exact ⟨by decide +kernel, by decide +kernel, hconserved (by decide +kernel), hoffered⟩

end Kuavo.BatchPipeline
