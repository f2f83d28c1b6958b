import Kuavo.CanFrame
import Kuavo.Lib.Runs
import Kuavo.MercuryShm
import Mathlib.Data.List.Perm.Subperm

/-!
`lib/imu/ImuReader.cpp`: from CAN frames to the records that are staged for the Composer.

A measurement cycle is five frames under consecutive identifiers. The reader counts the frames
of its window from the last frame with offset 0 on, and publishes what it has accumulated when
it has counted five.
-/

namespace Kuavo

open Kuavo.Lib.Binary32 Kuavo.Lib.Bits Kuavo.Lib.Runs Kuavo.MercuryShm

structure ImuReader where
  m_baseId : UInt32
  m_frameCount : ℕ := 0
  m_accumulator : ImuStageData := {}
  m_sequence : UInt64 := 0
  /-- Whether `m_stage` is set. -/
  staged : Bool

namespace ImuReader

def kMaxFrames : ℕ := 5
def kRateHz : ℚ := 200

/-- What `recvfrom` makes of a datagram: what is too short is dropped, the rest of what is too
long is cut off. -/
def recvfrom : List UInt8 → Option CANFrame
  | header :: i0 :: i1 :: i2 :: i3 :: b0 :: b1 :: b2 :: b3 :: b4 :: b5 :: b6 :: b7 :: _ =>
    some ⟨header, i0, i1, i2, i3, ⟨b0, b1, b2, b3, b4, b5, b6, b7⟩⟩
  | _ => none

/-- A frame that passed the filter. -/
structure Accepted where
  offset : ℕ
  f0 : Value
  f1 : Value
  deriving DecidableEq

/-- The filter on the identifier. -/
def offset? (r : ImuReader) (canId : UInt32) : Option ℕ :=
  if canId < r.m_baseId ∨ r.m_baseId + UInt32.ofNat kMaxFrames ≤ canId then none
  else some (canId - r.m_baseId).toNat

def accept? (r : ImuReader) (frame : CANFrame) : Option Accepted :=
  (r.offset? (UInt32.ofNat (bswap32 frame.FrameId))).map fun offset =>
    { offset := offset
      f0 := ofBits (le32 frame.data.b0 frame.data.b1 frame.data.b2 frame.data.b3)
      f1 := ofBits (le32 frame.data.b4 frame.data.b5 frame.data.b6 frame.data.b7) }

/-- The `switch` on the offset. -/
def accumulate (d : ImuStageData) (a : Accepted) : ImuStageData :=
  match a.offset with
  | 0 => { d with imu_acc := { d.imu_acc with x := a.f0, y := a.f1 } }
  | 1 =>
    { d with
      imu_acc := { d.imu_acc with z := a.f0 }
      imu_ang_vel := { d.imu_ang_vel with x := a.f1 } }
  | 2 => { d with imu_ang_vel := { d.imu_ang_vel with y := a.f0, z := a.f1 } }
  | _ => d

/-- The count and the accumulator when a frame has been accepted. -/
def count (r : ImuReader) (a : Accepted) : ImuReader :=
  { r with
    m_frameCount := (if a.offset = 0 then 0 else r.m_frameCount) + 1
    m_accumulator := accumulate r.m_accumulator a }

/-- The end of a cycle, with what is published. -/
def complete (r : ImuReader) (now : UInt64) : ImuReader × Option ImuStageData :=
  let data := { r.m_accumulator with
    timestamp_ns := now
    sequence := r.m_sequence + 1
    imu_inc := {
      x := r.m_accumulator.imu_ang_vel.x.scale (1 / kRateHz)
      y := r.m_accumulator.imu_ang_vel.y.scale (1 / kRateHz)
      z := r.m_accumulator.imu_ang_vel.z.scale (1 / kRateHz) } }
  ({ r with m_accumulator := data, m_sequence := r.m_sequence + 1, m_frameCount := 0 },
    if r.staged then some data else none)

/-- The body of the loop for one accepted frame. -/
def receive (r : ImuReader) (a : Accepted) (now : UInt64) : ImuReader × Option ImuStageData :=
  let r' := r.count a
  if r'.m_frameCount = kMaxFrames then r'.complete now else (r', none)

/-- A run, as seen from outside: the frames accepted since the last publish and from the last
frame with offset 0 on, and what was published, each record with these frames. -/
structure Observed where
  reader : ImuReader
  cycle : List Accepted := []
  published : List (List Accepted × ImuStageData) := []

/-- The cycle with the frame that was accepted. -/
def extend (cycle : List Accepted) (a : Accepted) : List Accepted :=
  if a.offset = 0 then [a] else cycle ++ [a]

/-- A datagram and the time at which it is read. -/
def step (o : Observed) (input : List UInt8 × UInt64) : Observed :=
  match (recvfrom input.1).bind o.reader.accept? with
  | none => o
  | some a =>
    let cycle := extend o.cycle a
    match o.reader.receive a input.2 with
    | (r, none) => { o with reader := r, cycle := cycle }
    | (r, some data) => { reader := r, cycle := [], published := o.published ++ [(cycle, data)] }

def init (m_baseId : UInt32) (staged : Bool) : Observed where
  reader := { m_baseId := m_baseId, staged := staged }

/-- The record holds the values of frames of the cycle with offsets 0, 1 and 2, and there has
been a frame of every offset in it. -/
def Sound (cycle : List Accepted) (d : ImuStageData) : Prop :=
  (∃ a₀ ∈ cycle, ∃ a₁ ∈ cycle, ∃ a₂ ∈ cycle, (a₀.offset = 0 ∧ a₁.offset = 1 ∧ a₂.offset = 2) ∧
    d.imu_acc = ⟨a₀.f0, a₀.f1, a₁.f0⟩ ∧ d.imu_ang_vel = ⟨a₁.f1, a₂.f0, a₂.f1⟩) ∧
  ∀ k < kMaxFrames, ∃ a ∈ cycle, a.offset = k

instance (cycle : List Accepted) (d : ImuStageData) : Decidable (Sound cycle d) :=
  inferInstanceAs (Decidable (_ ∧ _))

/-! ### The accumulator -/

/-- The fields of a frame's offset hold its values. -/
def Holds (d : ImuStageData) (a : Accepted) : Prop :=
  match a.offset with
  | 0 => d.imu_acc.x = a.f0 ∧ d.imu_acc.y = a.f1
  | 1 => d.imu_acc.z = a.f0 ∧ d.imu_ang_vel.x = a.f1
  | 2 => d.imu_ang_vel.y = a.f0 ∧ d.imu_ang_vel.z = a.f1
  | _ => True

lemma holds_accumulate (d : ImuStageData) (a : Accepted) : Holds (accumulate d a) a := by
  obtain ⟨_ | _ | _ | k, f0, f1⟩ := a <;> simp [Holds, accumulate]

/-- Frames of other offsets stay where they are. -/
lemma Holds.accumulate {d : ImuStageData} {a b : Accepted} (h : Holds d b)
    (hne : b.offset ≠ a.offset) : Holds (accumulate d a) b := by
  obtain ⟨_ | _ | _ | k, f0, f1⟩ := a <;> obtain ⟨_ | _ | _ | j, g0, g1⟩ := b <;>
    simp_all [Holds, ImuReader.accumulate]

/-- Of every offset that the cycle has, it has a frame whose values are held. -/
def Held (cycle : List Accepted) (d : ImuStageData) : Prop :=
  ∀ b ∈ cycle, ∃ a ∈ cycle, a.offset = b.offset ∧ Holds d a

lemma held_nil (d : ImuStageData) : Held [] d := fun _ hb => absurd hb List.not_mem_nil

lemma held_singleton (d : ImuStageData) (a : Accepted) : Held [a] (accumulate d a) := by
  intro b hb
  rw [List.mem_singleton.mp hb]
  exact ⟨a, List.mem_singleton_self a, rfl, holds_accumulate d a⟩

lemma Held.concat {cycle : List Accepted} {d : ImuStageData} (h : Held cycle d) (a : Accepted) :
    Held (cycle ++ [a]) (accumulate d a) := by
  intro b hb
  by_cases hoffset : b.offset = a.offset
  · exact ⟨a, by simp, hoffset.symm, holds_accumulate d a⟩
  · have hb' : b ∈ cycle := by
      refine (List.mem_append.mp hb).resolve_right fun hba => hoffset ?_
      rw [List.mem_singleton.mp hba]
    obtain ⟨a', ha', heq, hholds⟩ := h b hb'
    exact ⟨a', List.mem_append_left _ ha', heq, hholds.accumulate (heq.trans_ne hoffset)⟩

/-- What is held of three offsets is all of the accelerometer and the gyroscope. -/
lemma sound_of_held {cycle : List Accepted} {d : ImuStageData} (h : Held cycle d)
    (hall : ∀ k < kMaxFrames, ∃ a ∈ cycle, a.offset = k) : Sound cycle d := by
  have hget : ∀ k < kMaxFrames, ∃ a ∈ cycle, a.offset = k ∧ Holds d a := by
    intro k hk
    obtain ⟨b, hb, hbk⟩ := hall k hk
    obtain ⟨a, ha, hab, hholds⟩ := h b hb
    exact ⟨a, ha, hab.trans hbk, hholds⟩
  obtain ⟨a₀, ha₀, h0, hd₀⟩ := hget 0 (by decide)
  obtain ⟨a₁, ha₁, h1, hd₁⟩ := hget 1 (by decide)
  obtain ⟨a₂, ha₂, h2, hd₂⟩ := hget 2 (by decide)
  rw [Holds, h0] at hd₀
  rw [Holds, h1] at hd₁
  rw [Holds, h2] at hd₂
  refine ⟨⟨a₀, ha₀, a₁, ha₁, a₂, ha₂, ⟨h0, h1, h2⟩, ?_, ?_⟩, hall⟩
  · rw [← hd₀.1, ← hd₀.2, ← hd₁.1]
  · rw [← hd₁.2, ← hd₂.1, ← hd₂.2]

/-- Five frames are of all five offsets just when no two are of the same. -/
lemma all_offsets_iff {cycle : List Accepted} (hlen : cycle.length = kMaxFrames)
    (hlt : ∀ a ∈ cycle, a.offset < kMaxFrames) :
    (∀ k < kMaxFrames, ∃ a ∈ cycle, a.offset = k) ↔ (cycle.map Accepted.offset).Nodup := by
  have hlen' : (cycle.map Accepted.offset).length = (List.range kMaxFrames).length := by
    rw [List.length_map, List.length_range, hlen]
  constructor
  · intro hall
    have hsub : List.range kMaxFrames ⊆ cycle.map Accepted.offset := by
      intro k hk
      obtain ⟨a, ha, rfl⟩ := hall k (List.mem_range.mp hk)
      exact List.mem_map_of_mem ha
    have hperm := (List.subperm_of_subset List.nodup_range hsub).perm_of_length_le hlen'.le
    exact hperm.nodup_iff.mp List.nodup_range
  · intro hnodup k hk
    have hsub : cycle.map Accepted.offset ⊆ List.range kMaxFrames := by
      intro k hk
      obtain ⟨a, ha, rfl⟩ := List.mem_map.mp hk
      exact List.mem_range.mpr (hlt a ha)
    have hperm := (List.subperm_of_subset hnodup hsub).perm_of_length_le hlen'.ge
    obtain ⟨a, ha, hak⟩ := List.mem_map.mp (hperm.mem_iff.mpr (List.mem_range.mpr hk))
    exact ⟨a, ha, hak⟩

/-! ### Runs -/

lemma offset_lt {r : ImuReader} {canId : UInt32} {k : ℕ} (h : r.offset? canId = some k) :
    k < kMaxFrames := by
  unfold offset? at h
  split_ifs at h with hfilter
  obtain ⟨hlow, hhigh⟩ := not_or.mp hfilter
  rw [← Option.some.inj h]
  have hle : r.m_baseId ≤ canId := UInt32.not_lt.mp hlow
  have hlt := UInt32.lt_iff_toNat_lt.mp (UInt32.not_le.mp hhigh)
  have hadd := UInt32.toNat_add r.m_baseId (UInt32.ofNat kMaxFrames)
  have hfive : (UInt32.ofNat kMaxFrames).toNat = 5 := by decide
  have hmod := Nat.mod_le (r.m_baseId.toNat + 5) (2 ^ 32)
  rw [UInt32.toNat_sub_of_le _ _ hle]
  rw [hadd, hfive] at hlt
  rw [kMaxFrames]
  omega

lemma accept_offset_lt {r : ImuReader} {frame : CANFrame} {a : Accepted}
    (h : r.accept? frame = some a) : a.offset < kMaxFrames := by
  obtain ⟨k, hk, rfl⟩ := Option.map_eq_some_iff.mp h
  exact offset_lt hk

structure Inv (o : Observed) : Prop where
  count : o.reader.staged → o.reader.m_frameCount = o.cycle.length
  offsets : ∀ a ∈ o.cycle, a.offset < kMaxFrames
  held : Held o.cycle o.reader.m_accumulator
  published : ∀ p ∈ o.published, p.1.length = kMaxFrames ∧
    (∀ a ∈ p.1, a.offset < kMaxFrames) ∧ Held p.1 p.2

lemma inv_init (m_baseId : UInt32) (staged : Bool) : Inv (init m_baseId staged) :=
  ⟨fun _ => rfl, fun _ ha => absurd ha List.not_mem_nil, held_nil _,
    fun _ hp => absurd hp List.not_mem_nil⟩

lemma held_extend {cycle : List Accepted} {d : ImuStageData} (h : Held cycle d) (a : Accepted) :
    Held (extend cycle a) (accumulate d a) := by
  unfold extend
  split_ifs
  · exact held_singleton d a
  · exact h.concat a

lemma offsets_extend {cycle : List Accepted} (h : ∀ a ∈ cycle, a.offset < kMaxFrames)
    {a : Accepted} (ha : a.offset < kMaxFrames) : ∀ b ∈ extend cycle a, b.offset < kMaxFrames := by
  unfold extend
  split_ifs
  · intro b hb
    rwa [List.mem_singleton.mp hb]
  · intro b hb
    rcases List.mem_append.mp hb with hb | hb
    · exact h b hb
    · rwa [List.mem_singleton.mp hb]

/-- While the reader publishes, its count is the length of the cycle. -/
lemma count_extend {r : ImuReader} {cycle : List Accepted} (h : r.m_frameCount = cycle.length)
    (a : Accepted) : (r.count a).m_frameCount = (extend cycle a).length := by
  unfold count extend
  split_ifs
  · rfl
  · rw [List.length_append, h]
    rfl

/-- What a frame does, when it does not end a cycle and when it does. -/
lemma receive_cases (r : ImuReader) (a : Accepted) (now : UInt64) :
    ((r.count a).m_frameCount ≠ kMaxFrames ∧ r.receive a now = (r.count a, none)) ∨
      ((r.count a).m_frameCount = kMaxFrames ∧ r.receive a now = (r.count a).complete now) := by
  by_cases h : (r.count a).m_frameCount = kMaxFrames
  · exact .inr ⟨h, if_pos h⟩
  · exact .inl ⟨h, if_neg h⟩

theorem inv_step (o : Observed) (input : List UInt8 × UInt64) (h : Inv o) :
    Inv (step o input) := by
  unfold step
  rcases hframe : (recvfrom input.1).bind o.reader.accept? with _ | a
  · exact h
  · obtain ⟨frame, -, haccept⟩ := Option.bind_eq_some_iff.mp hframe
    have hoffsets := offsets_extend h.offsets (accept_offset_lt haccept)
    have hheld := held_extend h.held a
    obtain ⟨hcount, heq⟩ | ⟨hcount, heq⟩ := receive_cases o.reader a input.2
    · simp only [heq]
      exact ⟨fun hs => count_extend (h.count hs) a, hoffsets, hheld, h.published⟩
    · -- the time, the sequence and the increments do not touch what is held
      simp only [heq, complete]
      rcases hs : (o.reader.count a).staged with _ | _
      · exact ⟨fun hs' => absurd hs' Bool.false_ne_true, hoffsets, hheld, h.published⟩
      · refine ⟨fun _ => rfl, fun _ ha => absurd ha List.not_mem_nil, held_nil _, fun p hp => ?_⟩
        rcases List.mem_append.mp hp with hp | hp
        · exact h.published p hp
        · rw [List.mem_singleton.mp hp]
          have hlen := (count_extend (h.count hs) a).symm.trans hcount
          exact ⟨hlen, hoffsets, hheld⟩

/-- **A record is sound exactly when the five frames behind it have five different offsets**,
for every record of every run. -/
theorem sound_iff_nodup (m_baseId : UInt32) (staged : Bool) (l : List (List UInt8 × UInt64)) :
    ∀ p ∈ (run step (init m_baseId staged) l).published,
      p.1.length = kMaxFrames ∧ (Sound p.1 p.2 ↔ (p.1.map Accepted.offset).Nodup) := by
  intro p hp
  obtain ⟨hlen, hlt, hheld⟩ :=
    (run_invariant (I := Inv) inv_step (inv_init m_baseId staged) l).published p hp
  rw [← all_offsets_iff hlen hlt]
  exact ⟨hlen, fun h => h.2, sound_of_held hheld⟩

/-- The datagram of a frame under the first identifiers, its data all zero. -/
def datagram (offset : UInt8) : List UInt8 :=
  [8, 0, 0, 5, 0x14 + offset] ++ List.replicate 8 0

/-- A whole cycle. -/
def inOrder : List (List UInt8 × UInt64) :=
  [0, 1, 2, 3, 4].map fun offset => (datagram offset, 0)

theorem inOrder_sound :
    ∃ p ∈ (run step (init 0x514 true) inOrder).published, Sound p.1 p.2 := by
  have hpublished : ∃ p ∈ (run step (init 0x514 true) inOrder).published,
      (p.1.map Accepted.offset).Nodup := by decide +kernel
  obtain ⟨p, hp, hnodup⟩ := hpublished
  exact ⟨p, hp, (sound_iff_nodup 0x514 true inOrder p hp).2.mpr hnodup⟩

/-- One frame with offset 0, and the next one four times over. -/
def repeated : List (List UInt8 × UInt64) :=
  [0, 1, 1, 1, 1].map fun offset => (datagram offset, 0)

theorem repeated_unsound :
    let s := run step (init 0x514 true) repeated
    (s.published.map fun p => p.1.map Accepted.offset) = [[0, 1, 1, 1, 1]] ∧
      ¬ ∀ p ∈ s.published, Sound p.1 p.2 := by
  decide +kernel

end ImuReader

end Kuavo
