import Kuavo.ImuReader

/-!
The stream of `tools/imuSimulator.cpp` at the reader, when frames of it are lost.

A cycle of the simulator is five frames. As long as no frame overtakes another, and of a cycle of
which anything arrives the first frame does, the reader publishes the cycles that arrive whole,
each once and in order, and nothing else.
-/

namespace Kuavo

open Kuavo.Lib.Binary32 Kuavo.Lib.Bits Kuavo.Lib.Runs Kuavo.MercuryShm

/-! ### The simulator -/

namespace ImuSimulator

def NUM_CAN_FRAMES : ℕ := 5
def FLOATS_PER_FRAME : ℕ := 2

/-- The singles as they lie in memory. What they are in a cycle, `update` computes in floating
point; here they are any. -/
structure ImuState where
  accX : UInt32
  accY : UInt32
  accZ : UInt32
  gyroX : UInt32
  gyroY : UInt32
  gyroZ : UInt32
  quatW : UInt32
  quatX : UInt32
  quatY : UInt32
  quatZ : UInt32

def ImuState.pack (s : ImuState) : List UInt32 :=
  [s.accX, s.accY, s.accZ, s.gyroX, s.gyroY, s.gyroZ, s.quatW, s.quatX, s.quatY, s.quatZ]

/-- A single, byte by byte on a little-endian machine. -/
def memcpy (v : UInt32) : List UInt8 :=
  [byte v.toNat, byte (v.toNat / 256), byte (v.toNat / 65536), byte (v.toNat / 16777216)]

def build_can_frame (can_id v0 v1 : UInt32) : List UInt8 :=
  [0x08, byte (can_id.toNat / 16777216), byte (can_id.toNat / 65536), byte (can_id.toNat / 256),
    byte can_id.toNat] ++ memcpy v0 ++ memcpy v1

/-- Frame `f` of a cycle. -/
def frame (baseCanId : UInt32) (s : ImuState) (f : ℕ) : List UInt8 :=
  build_can_frame (baseCanId + UInt32.ofNat f) (s.pack.getD (f * FLOATS_PER_FRAME) 0)
    (s.pack.getD (f * FLOATS_PER_FRAME + 1) 0)

end ImuSimulator

namespace ImuStream

open ImuSimulator ImuReader

/-- A cycle of the simulator, and which of its frames arrive. -/
structure Cycle where
  state : ImuState
  kept : ℕ → Bool

namespace Cycle

/-- What arrives of a cycle. -/
def arrivals (baseId : UInt32) (c : Cycle) : List (List UInt8) :=
  ((List.range NUM_CAN_FRAMES).filter c.kept).map (frame baseId c.state)

def complete (c : Cycle) : Bool := (List.range NUM_CAN_FRAMES).all c.kept

end Cycle

/-! ### What the reader takes -/

/-- What the reader makes of frame `f`. -/
def taken (s : ImuState) (f : ℕ) : Accepted where
  offset := f
  f0 := ofBits (s.pack.getD (f * FLOATS_PER_FRAME) 0).toNat
  f1 := ofBits (s.pack.getD (f * FLOATS_PER_FRAME + 1) 0).toNat

/-- What a reader for identifiers from `baseId` on makes of a datagram. -/
def take? (baseId : UInt32) (datagram : List UInt8) : Option Accepted :=
  (recvfrom datagram).bind (init baseId true).reader.accept?

lemma be32_bytes {n : ℕ} (h : n < 2 ^ 32) :
    be32 (byte (n / 16777216)) (byte (n / 65536)) (byte (n / 256)) (byte n) = n := by
  rw [be32, byte_toNat, byte_toNat, byte_toNat, byte_toNat]
  omega

lemma offset?_add {baseId : UInt32} (hbase : baseId.toNat + NUM_CAN_FRAMES < 2 ^ 32) {f : ℕ}
    (hf : f < NUM_CAN_FRAMES) :
    (init baseId true).reader.offset? (baseId + UInt32.ofNat f) = some f := by
  unfold NUM_CAN_FRAMES at hbase hf
  have hf' : (UInt32.ofNat f).toNat = f := UInt32.toNat_ofNat_of_lt' (Nat.lt_trans hf (by decide))
  have hid : (baseId + UInt32.ofNat f).toNat = baseId.toNat + f := by
    rw [UInt32.toNat_add, hf']
    omega
  have hend : (baseId + UInt32.ofNat kMaxFrames).toNat = baseId.toNat + 5 := by
    rw [UInt32.toNat_add]
    change (baseId.toNat + 5) % 2 ^ 32 = _
    omega
  have hfilter : ¬ (baseId + UInt32.ofNat f < baseId ∨
      baseId + UInt32.ofNat kMaxFrames ≤ baseId + UInt32.ofNat f) := by
    rw [UInt32.lt_iff_toNat_lt, UInt32.le_iff_toNat_le, hid, hend]
    omega
  have hsub : (baseId + UInt32.ofNat f - baseId).toNat = f := by
    rw [UInt32.toNat_sub_of_le _ _ (UInt32.le_iff_toNat_le.mpr (by omega)), hid]
    omega
  exact (if_neg hfilter).trans (congrArg some hsub)

/-- **One frame** comes through as it was packed. -/
lemma take?_frame {baseId : UInt32} (hbase : baseId.toNat + NUM_CAN_FRAMES < 2 ^ 32) (s : ImuState)
    {f : ℕ} (hf : f < NUM_CAN_FRAMES) : take? baseId (frame baseId s f) = some (taken s f) := by
  have hle : ∀ v : UInt32, le32 (byte v.toNat) (byte (v.toNat / 256)) (byte (v.toNat / 65536))
      (byte (v.toNat / 16777216)) = v.toNat := fun v => be32_bytes v.toNat_lt
  have hid : ∀ f' : CANFrame, bswap32 f'.FrameId = be32 f'.id0 f'.id1 f'.id2 f'.id3 :=
    CANFrame.bswap32_frameId
  unfold take? frame build_can_frame memcpy
  simp only [List.cons_append, List.nil_append, recvfrom, Option.bind_some, accept?, hid, hle]
  rw [be32_bytes (UInt32.toNat_lt _), UInt32.ofNat_toNat, offset?_add hbase hf]
  rfl

/-! ### Frame by frame -/

/-- What an accepted frame does. -/
def stepTaken (o : Observed) (i : Accepted × UInt64) : Observed :=
  let cycle := extend o.cycle i.1
  match o.reader.receive i.1 i.2 with
  | (r, none) => { o with reader := r, cycle := cycle }
  | (r, some data) => { reader := r, cycle := [], published := o.published ++ [(cycle, data)] }

lemma step_eq (o : Observed) (i : List UInt8 × UInt64) :
    step o i = ((take? o.reader.m_baseId i.1).map fun a => (a, i.2)).elim o (stepTaken o) := by
  have htake : (recvfrom i.1).bind o.reader.accept? = take? o.reader.m_baseId i.1 := rfl
  unfold step
  rw [htake]
  cases take? o.reader.m_baseId i.1 <;> rfl

/-- A reader does not change what it reads. -/
lemma baseId_stepTaken (o : Observed) (i : Accepted × UInt64) :
    (stepTaken o i).reader.m_baseId = o.reader.m_baseId ∧
      (stepTaken o i).reader.staged = o.reader.staged := by
  unfold stepTaken
  obtain ⟨-, hreceive⟩ | ⟨-, hreceive⟩ := receive_cases o.reader i.1 i.2
  · simp only [hreceive]
    exact ⟨rfl, rfl⟩
  · simp only [hreceive, complete]
    split_ifs <;> exact ⟨rfl, rfl⟩

/-- Datagrams that the reader does not take do nothing. -/
lemma run_eq (o : Observed) (l : List (List UInt8 × UInt64)) :
    run step o l = run stepTaken o
      (l.filterMap fun i => (take? o.reader.m_baseId i.1).map fun a => (a, i.2)) := by
  induction l generalizing o with
  | nil => rfl
  | cons i l ih =>
    rw [run_cons, step_eq, List.filterMap_cons]
    cases take? o.reader.m_baseId i.1 with
    | none => exact ih o
    | some a =>
      rw [Option.map_some, Option.elim_some, ih, (baseId_stepTaken o _).1]
      rfl

/-! ### Cycle by cycle -/

/-- The record of a cycle, but for the time. -/
def record (s : ImuState) (sequence : UInt64) : ImuStageData :=
  let ang_vel : Triple := ⟨ofBits s.gyroX.toNat, ofBits s.gyroY.toNat, ofBits s.gyroZ.toNat⟩
  { imu_inc := ⟨ang_vel.x.scale (1 / kRateHz), ang_vel.y.scale (1 / kRateHz),
      ang_vel.z.scale (1 / kRateHz)⟩
    imu_ang_vel := ang_vel
    imu_acc := ⟨ofBits s.accX.toNat, ofBits s.accY.toNat, ofBits s.accZ.toNat⟩
    sequence := sequence }

/-- The records of cycles, numbered from one on. -/
def recordsOf (done : List ImuState) : List ImuStageData :=
  done.zipIdx.map fun p => record p.1 (UInt64.ofNat (p.2 + 1))

/-- The reader has published the cycles `done`. -/
structure Published (o : Observed) (done : List ImuState) : Prop where
  staged : o.reader.staged = true
  sequence : o.reader.m_sequence = UInt64.ofNat done.length
  records : o.published.map (fun p => { p.2 with timestamp_ns := 0 }) = recordsOf done

/-- Frames without a first one, too few to fill the count, publish nothing. -/
lemma Published.quiet {o : Observed} {done : List ImuState} (h : Published o done)
    {as : List (Accepted × UInt64)} (hoffset : ∀ a ∈ as, a.1.offset ≠ 0)
    (hcount : o.reader.m_frameCount + as.length < kMaxFrames) :
    Published (run stepTaken o as) done := by
  induction as generalizing o with
  | nil => exact h
  | cons a as ih =>
    rw [List.length_cons] at hcount
    have ha : a.1.offset ≠ 0 := hoffset a (List.mem_cons_self ..)
    have hnext : (o.reader.count a.1).m_frameCount = o.reader.m_frameCount + 1 := by
      rw [count, if_neg ha]
    have hquiet : o.reader.receive a.1 a.2 = (o.reader.count a.1, none) := by
      unfold receive
      exact if_neg (by rw [hnext]; omega)
    rw [run_cons]
    refine ih ?_ (fun b hb => hoffset b (List.mem_cons_of_mem _ hb)) ?_
    · simp only [stepTaken, hquiet]
      exact ⟨h.staged, h.sequence, h.records⟩
    · simp only [stepTaken, hquiet, hnext]
      omega

/-- A first frame starts the count again. -/
lemma Published.first {o : Observed} {done : List ImuState} (h : Published o done) (s : ImuState)
    (now : UInt64) :
    Published (stepTaken o (taken s 0, now)) done ∧
      (stepTaken o (taken s 0, now)).reader.m_frameCount = 1 := by
  have hquiet : o.reader.receive (taken s 0) now = (o.reader.count (taken s 0), none) := rfl
  simp only [stepTaken, hquiet]
  exact ⟨⟨h.staged, h.sequence, h.records⟩, rfl⟩

/-- Five frames in order are published. -/
lemma Published.whole {o : Observed} {done : List ImuState} (h : Published o done) (s : ImuState)
    {as : List (Accepted × UInt64)}
    (has : as.map Prod.fst = (List.range NUM_CAN_FRAMES).map (taken s)) :
    Published (run stepTaken o as) (done ++ [s]) := by
  obtain ⟨⟨_, t₀⟩, as₁, rfl, rfl, h₁⟩ := List.map_eq_cons_iff.mp has
  obtain ⟨⟨_, t₁⟩, as₂, rfl, rfl, h₂⟩ := List.map_eq_cons_iff.mp h₁
  obtain ⟨⟨_, t₂⟩, as₃, rfl, rfl, h₃⟩ := List.map_eq_cons_iff.mp h₂
  obtain ⟨⟨_, t₃⟩, as₄, rfl, rfl, h₄⟩ := List.map_eq_cons_iff.mp h₃
  obtain ⟨⟨_, t₄⟩, as₅, rfl, rfl, h₅⟩ := List.map_eq_cons_iff.mp h₄
  obtain rfl := List.map_eq_nil_iff.mp h₅
  have hnew : recordsOf (done ++ [s]) = recordsOf done ++ [record s (o.reader.m_sequence + 1)] := by
    rw [recordsOf, List.zipIdx_append, List.map_append, h.sequence]
    simp [recordsOf]
  obtain ⟨⟨m_baseId, m_frameCount, m_accumulator, m_sequence, staged⟩, cycle, published⟩ := o
  obtain rfl : staged = true := h.staged
  refine ⟨rfl, ?_, ?_⟩
  · rw [List.length_append, List.length_singleton]
    have hseq : m_sequence = UInt64.ofNat done.length := h.sequence
    change m_sequence + 1 = _
    rw [hseq]
    simp
  · rw [hnew, ← h.records]
    exact List.map_append

/-- Of a cycle either the first frame arrives or none does. -/
def Cycle.Led (c : Cycle) : Prop :=
  c.kept 0 = true ∨ ∀ f < NUM_CAN_FRAMES, c.kept f = false

/-- **One cycle**, whatever the reader had counted before: it is published if it is whole. -/
lemma Published.cycle {o : Observed} {done : List ImuState} (h : Published o done) {c : Cycle}
    (hled : c.Led) {as : List (Accepted × UInt64)}
    (has : as.map Prod.fst = ((List.range NUM_CAN_FRAMES).filter c.kept).map (taken c.state)) :
    Published (run stepTaken o as) (done ++ if c.complete then [c.state] else []) := by
  by_cases hcomplete : c.complete = true
  · have hall : (List.range NUM_CAN_FRAMES).filter c.kept = List.range NUM_CAN_FRAMES :=
      List.filter_eq_self.mpr (List.all_eq_true.mp hcomplete)
    rw [hall] at has
    rw [if_pos hcomplete]
    exact h.whole c.state has
  · rw [if_neg hcomplete, List.append_nil]
    rcases hled with hfirst | hnone
    · -- the frames behind the first do not fill the count
      have hrange : List.range NUM_CAN_FRAMES = 0 :: [1, 2, 3, 4] := rfl
      rw [hrange, List.filter_cons_of_pos hfirst] at has
      obtain ⟨⟨_, t⟩, rest, rfl, rfl, hrest⟩ := List.map_eq_cons_iff.mp has
      obtain ⟨hpublished, hone⟩ := h.first c.state t
      have hlost : ∃ f ∈ [1, 2, 3, 4], ¬ c.kept f = true := by
        by_contra hno
        refine hcomplete (List.all_eq_true.mpr fun f hf => ?_)
        rw [hrange] at hf
        rcases List.mem_cons.mp hf with rfl | hf
        · exact hfirst
        · by_contra hf'
          exact hno ⟨f, hf, hf'⟩
      have hshort : rest.length < 4 := by
        have hlen := congrArg List.length hrest
        have hlt := List.length_filter_lt_length_iff_exists.mpr hlost
        simp only [List.length_map, List.length_cons, List.length_nil] at hlen hlt
        omega
      refine hpublished.quiet (fun a ha => ?_) ?_
      · have hmem : a.1 ∈ rest.map Prod.fst := List.mem_map_of_mem ha
        rw [hrest] at hmem
        obtain ⟨f, hf, hfa⟩ := List.mem_map.mp hmem
        have hf' : f ∈ [1, 2, 3, 4] := List.mem_of_mem_filter hf
        rw [← hfa]
        change f ≠ 0
        rintro rfl
        simp at hf'
      · rw [hone]
        unfold kMaxFrames
        omega
    · have hempty : (List.range NUM_CAN_FRAMES).filter c.kept = [] := by
        refine List.filter_eq_nil_iff.mpr fun f hf => ?_
        rw [hnone f (List.mem_range.mp hf)]
        exact Bool.false_ne_true
      rw [hempty, List.map_nil, List.map_eq_nil_iff] at has
      rw [has]
      exact h

lemma Published.cycles {o : Observed} {done : List ImuState} (h : Published o done)
    {cs : List Cycle} (hled : ∀ c ∈ cs, c.Led) {as : List (Accepted × UInt64)}
    (has : as.map Prod.fst = cs.flatMap fun c =>
      ((List.range NUM_CAN_FRAMES).filter c.kept).map (taken c.state)) :
    Published (run stepTaken o as) (done ++ (cs.filter Cycle.complete).map Cycle.state) := by
  induction cs generalizing o done as with
  | nil =>
    rw [List.flatMap_nil, List.map_eq_nil_iff] at has
    rw [has]
    simpa using h
  | cons c cs ih =>
    rw [List.flatMap_cons] at has
    obtain ⟨as₁, as₂, rfl, h₁, h₂⟩ := List.map_eq_append_iff.mp has
    have hone := h.cycle (hled c (List.mem_cons_self ..)) h₁
    have hrest := ih hone (fun c' hc' => hled c' (List.mem_cons_of_mem _ hc')) h₂
    rw [run_append]
    rw [List.append_assoc] at hrest
    rw [List.filter_cons]
    split_ifs at hrest ⊢ <;> exact hrest

/-- **What is published of a stream with losses.** Datagrams of other senders may come in
between, and any frames of the simulator may be lost, as long as of each cycle the first frame
arrives or none: the records are those of the cycles that arrive whole, in order and numbered
from one on. -/
theorem published_complete (baseId : UInt32) (hbase : baseId.toNat + NUM_CAN_FRAMES < 2 ^ 32)
    (cs : List Cycle) (hled : ∀ c ∈ cs, c.Led) (l : List (List UInt8 × UInt64))
    (hl : (l.map Prod.fst).filter (fun d => (take? baseId d).isSome) =
      cs.flatMap (Cycle.arrivals baseId)) :
    (run step (init baseId true) l).published.map (fun p => { p.2 with timestamp_ns := 0 }) =
      recordsOf ((cs.filter Cycle.complete).map Cycle.state) := by
  have hstart : Published (init baseId true) [] := ⟨rfl, rfl, rfl⟩
  rw [run_eq]
  refine (hstart.cycles hled ?_).records
  have htaken : (l.map Prod.fst).filterMap (take? baseId) = cs.flatMap fun c =>
      ((List.range NUM_CAN_FRAMES).filter c.kept).map (taken c.state) := by
    have hsome : (l.map Prod.fst).filterMap (take? baseId) =
        ((l.map Prod.fst).filter fun d => (take? baseId d).isSome).filterMap (take? baseId) := by
      rw [List.filterMap_filter]
      refine List.filterMap_congr fun d _ => ?_
      cases take? baseId d <;> simp
    rw [hsome, hl, List.filterMap_flatMap]
    refine List.flatMap_congr fun c _ => ?_
    rw [Cycle.arrivals, List.filterMap_map]
    rw [← List.filterMap_eq_map]
    refine List.filterMap_congr fun f hf => ?_
    exact take?_frame hbase c.state (List.mem_range.mp (List.mem_of_mem_filter hf))
  rw [← htaken, List.map_filterMap, List.filterMap_map]
  refine List.filterMap_congr fun i _ => ?_
  change Option.map Prod.fst (Option.map _ (take? baseId i.1)) = take? baseId i.1
  rw [Option.map_map]
  exact Option.map_id'

/-- A state at rest: one `g` along the third axis. -/
def atRest : ImuState := ⟨0, 0, 0x3f800000, 0, 0, 0, 0x3f800000, 0, 0, 0⟩

/-- A cycle whose fourth frame is lost, and a whole one. -/
def oneLost : List Cycle := [⟨atRest, fun f => f ≠ 3⟩, ⟨atRest, fun _ => true⟩]

/-- Between the two cycles comes feedback of a motor. -/
theorem published_complete_oneLost :
    (run step (init 0x514 true)
      (((⟨atRest, fun f => f ≠ 3⟩ : Cycle).arrivals 0x514 ++
        build_can_frame 0x11 0 0 :: (⟨atRest, fun _ => true⟩ : Cycle).arrivals 0x514).map
          fun d => (d, 0))).published.map (fun p => { p.2 with timestamp_ns := 0 }) =
      recordsOf [atRest] :=
  published_complete 0x514 (by decide) oneLost
    (by simp [oneLost, Cycle.Led]) _ (by decide +kernel)

/-- Without its first frame, the rest of a cycle completes the one before. -/
example :
    ((run step (init 0x514 true)
      (((⟨atRest, fun f => f < 2⟩ : Cycle).arrivals 0x514 ++
        (⟨atRest, fun f => 2 ≤ f⟩ : Cycle).arrivals 0x514).map
          fun d => (d, 0))).published.map fun p => p.1.map Accepted.offset) =
      [[0, 1, 2, 3, 4]] := by
  decide +kernel

end ImuStream

end Kuavo
