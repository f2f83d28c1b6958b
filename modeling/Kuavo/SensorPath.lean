import Kuavo.Lib.OrderedReads
import Kuavo.Motor
import Kuavo.SourceDoubleBuffer

/-!
What a sample of the controller is made of: from the staging buffers of `include/mercury_shm.h`
through `Composer::compose_cycle` to the controller's read of `composed_buffers`.

The IMU's thread and the two legs stage records, the parameter cache is stored to, the Composer
reads the three sources one after the other, loads the cache entry by entry and publishes, and
the controller reads; all of them step by step and in any order. How `memcpy` splits a record
into parts is left open.
-/

namespace Kuavo.SensorPath

open Kuavo.Lib Kuavo.Lib.Binary32 Kuavo.Lib.Copy Kuavo.Lib.Runs Kuavo.MercuryShm
open Kuavo.SourceDoubleBuffer

/-! ### Records -/

inductive MotorGroup | a | b
  deriving DecidableEq

/-- `MotorGroupStageData` with the fields that no leg fills in. -/
structure MotorGroupRecord extends MotorGroupStageData where
  bus_current : List Value := []
  bus_voltage : List Value := []
  motor_current : List Value := []
  reflected_rotor_inertia : List Value := []

structure SensorData where
  imu_inc : Triple := {}
  imu_ang_vel : Triple := {}
  imu_acc : Triple := {}
  joint_jpos : Fin NUM_ACT_JOINT → ℚ := fun _ => 0
  joint_jvel : Fin NUM_ACT_JOINT → ℚ := fun _ => 0
  motor_jpos : Fin NUM_ACT_JOINT → ℚ := fun _ => 0
  motor_jvel : Fin NUM_ACT_JOINT → ℚ := fun _ => 0
  bus_current : Fin NUM_ACT_JOINT → Value := fun _ => .fin 0
  bus_voltage : Fin NUM_ACT_JOINT → Value := fun _ => .fin 0
  jtorque : Fin NUM_ACT_JOINT → ℚ := fun _ => 0
  motor_current : Fin NUM_ACT_JOINT → Value := fun _ => .fin 0
  reflected_rotor_inertia : Fin NUM_ACT_JOINT → Value := fun _ => .fin 0
  rfoot_contact : UInt8 := 0
  lfoot_contact : UInt8 := 0
  imu_timestamp_ns : UInt64 := 0
  motor_group_a_timestamp_ns : UInt64 := 0
  motor_group_b_timestamp_ns : UInt64 := 0
  compose_timestamp_ns : UInt64 := 0
  imu_sequence : UInt64 := 0
  motor_group_a_sequence : UInt64 := 0
  motor_group_b_sequence : UInt64 := 0
  leg_a_duration_us : UInt32 := 0
  leg_a_interval_us : UInt32 := 0
  leg_b_duration_us : UInt32 := 0
  leg_b_interval_us : UInt32 := 0

/-- What the segment holds before a leg has staged anything. -/
def zeroGroup : MotorGroupRecord where
  joint_jpos := []
  joint_jvel := []
  motor_jpos := []
  motor_jvel := []
  jtorque := []
  motor_status := []
  mos_temperature := []
  rotor_temperature := []
  controller_duration_us := 0
  controller_interval_us := 0
  timestamp_ns := 0
  sequence := 0

/-- The arrays of two groups behind each other; what is not listed is zero. -/
def place {V : Type} (a b : List V) (zero : V) (j : Fin NUM_ACT_JOINT) : V :=
  if j.val < MOTORS_PER_GROUP then a.getD j.val zero else b.getD (j.val - MOTORS_PER_GROUP) zero

/-- The local variables of a cycle, not initialized until they are read into. -/
structure Locals where
  imu : ImuStageData
  grpA : MotorGroupRecord
  grpB : MotorGroupRecord

/-- The merge of the three sources, before the cache and the time of composition. -/
def merge (c : Locals) : SensorData where
  imu_inc := c.imu.imu_inc
  imu_ang_vel := c.imu.imu_ang_vel
  imu_acc := c.imu.imu_acc
  joint_jpos := place c.grpA.joint_jpos c.grpB.joint_jpos 0
  joint_jvel := place c.grpA.joint_jvel c.grpB.joint_jvel 0
  motor_jpos := place c.grpA.motor_jpos c.grpB.motor_jpos 0
  motor_jvel := place c.grpA.motor_jvel c.grpB.motor_jvel 0
  bus_current := place c.grpA.bus_current c.grpB.bus_current (.fin 0)
  bus_voltage := place c.grpA.bus_voltage c.grpB.bus_voltage (.fin 0)
  jtorque := place c.grpA.jtorque c.grpB.jtorque 0
  motor_current := place c.grpA.motor_current c.grpB.motor_current (.fin 0)
  reflected_rotor_inertia :=
    place c.grpA.reflected_rotor_inertia c.grpB.reflected_rotor_inertia (.fin 0)
  imu_timestamp_ns := c.imu.timestamp_ns
  motor_group_a_timestamp_ns := c.grpA.timestamp_ns
  motor_group_b_timestamp_ns := c.grpB.timestamp_ns
  imu_sequence := c.imu.sequence
  motor_group_a_sequence := c.grpA.sequence
  motor_group_b_sequence := c.grpB.sequence
  leg_a_duration_us := c.grpA.controller_duration_us
  leg_a_interval_us := c.grpA.controller_interval_us
  leg_b_duration_us := c.grpB.controller_duration_us
  leg_b_interval_us := c.grpB.controller_interval_us

/-! ### The parameter cache -/

inductive Param | bus_voltage | bus_current | reflected_rotor_inertia
  deriving DecidableEq

def load (cache : MotorParamCache) (idx : ℕ) : Param → Value
  | .bus_voltage => cache.bus_voltage idx
  | .bus_current => cache.bus_current idx
  | .reflected_rotor_inertia => cache.reflected_rotor_inertia idx

/-- The loads of a cycle, in order. -/
def params : List (Param × Fin NUM_ACT_JOINT) :=
  (List.finRange NUM_ACT_JOINT).flatMap fun i =>
    [(.bus_voltage, i), (.bus_current, i), (.reflected_rotor_inertia, i)]

/-- A value that is not zero takes the place of the staged one. -/
def overwrite (sd : SensorData) (i : Fin NUM_ACT_JOINT) (value : Value) : Param → SensorData
  | .bus_voltage =>
    if value ≠ .fin 0 then { sd with bus_voltage := Function.update sd.bus_voltage i value }
    else sd
  | .bus_current =>
    if value ≠ .fin 0 then { sd with bus_current := Function.update sd.bus_current i value }
    else sd
  | .reflected_rotor_inertia =>
    if value ≠ .fin 0 then
      { sd with
        reflected_rotor_inertia := Function.update sd.reflected_rotor_inertia i value }
    else sd

/-! ### The threads -/

/-- The segment's composed records; `composed_sequence` counts them after the index is stored. -/
def composedBuffer (L : Layout SensorData) : DoubleBuffer.Protocol SensorData UInt64 SensorData
    SensorData where
  layout := L
  before := []
  after := [fun _ composed_sequence => composed_sequence + 1]
  read := fun sensor => DoubleBuffer.Reader.copy L L.parts sensor

/-- How the records are copied. -/
structure Layouts where
  imu : Layout ImuStageData
  group : Layout MotorGroupRecord
  sensor : Layout SensorData

inductive ComposerPc
  | idle
  | imu (c : Locals)
  | grpA (c : Locals)
  | grpB (c : Locals)
  | params (c : Locals) (sd : SensorData) (rest : List (Param × Fin NUM_ACT_JOINT))
  | publish

abbrev ImuStage (L : Layouts) :=
  DoubleBuffer.State (sourceDoubleBuffer L.imu ImuStageData.timestamp_ns)
abbrev GroupStage (L : Layouts) :=
  DoubleBuffer.State (sourceDoubleBuffer L.group fun r => r.timestamp_ns)
abbrev Composed (L : Layouts) := DoubleBuffer.State (composedBuffer L.sensor)

structure System (L : Layouts) where
  imu : ImuStage L
  grpA : GroupStage L
  grpB : GroupStage L
  composed : Composed L
  cache : MotorParamCache
  /-- What the cache has been, from the start on. -/
  caches : List MotorParamCache
  clock : UInt64
  composer : ComposerPc := .idle

inductive Input
  | publishImu (data : ImuStageData)
  | imuStep
  | publishGroup (g : MotorGroup) (data : MotorGroupRecord)
  | groupStep (g : MotorGroup)
  /-- A parameter answer arrives. -/
  | store (idx rid : ℕ) (value : Value)
  /-- The monotonic clock moves on. -/
  | tick (t : UInt64)
  /-- The Composer's period is over. -/
  | compose (uninitialized : Locals)
  | composeStep
  /-- The controller reads, over the sample it had. -/
  | sample (sensor : SensorData)
  | sampleStep

variable {L : Layouts}

def composeStep (s : System L) : System L :=
  match s.composer with
  | .idle => s
  | .imu c =>
    match s.imu.reader with
    | .reading _ _ (.done imu) =>
      { s with
        imu := DoubleBuffer.readStep s.imu
        grpA := DoubleBuffer.step s.grpA (.read c.grpA)
        composer := .grpA { c with imu } }
    | _ => { s with imu := DoubleBuffer.readStep s.imu }
  | .grpA c =>
    match s.grpA.reader with
    | .reading _ _ (.done grpA) =>
      { s with
        grpA := DoubleBuffer.readStep s.grpA
        grpB := DoubleBuffer.step s.grpB (.read c.grpB)
        composer := .grpB { c with grpA } }
    | _ => { s with grpA := DoubleBuffer.readStep s.grpA }
  | .grpB c =>
    match s.grpB.reader with
    | .reading _ _ (.done grpB) =>
      { s with
        grpB := DoubleBuffer.readStep s.grpB
        composer := .params { c with grpB } (merge { c with grpB }) params }
    | _ => { s with grpB := DoubleBuffer.readStep s.grpB }
  | .params c sd ((p, i) :: rest) =>
    { s with composer := .params c (overwrite sd i (load s.cache i p) p) rest }
  | .params _ sd [] =>
    { s with
      composed := DoubleBuffer.step s.composed (.publish { sd with
        compose_timestamp_ns := s.clock })
      composer := .publish }
  | .publish =>
    match s.composed.writer with
    | .idle => { s with composer := .idle }
    | _ => { s with composed := DoubleBuffer.writeStep s.composed }

def step (s : System L) : Input → System L
  | .publishImu data => { s with imu := DoubleBuffer.step s.imu (.publish data) }
  | .imuStep => { s with imu := DoubleBuffer.step s.imu .writeStep }
  | .publishGroup .a data => { s with grpA := DoubleBuffer.step s.grpA (.publish data) }
  | .publishGroup .b data => { s with grpB := DoubleBuffer.step s.grpB (.publish data) }
  | .groupStep .a => { s with grpA := DoubleBuffer.step s.grpA .writeStep }
  | .groupStep .b => { s with grpB := DoubleBuffer.step s.grpB .writeStep }
  | .store idx rid value =>
    let cache := s.cache.store idx rid value
    { s with cache, caches := s.caches ++ [cache] }
  | .tick t => { s with clock := if s.clock ≤ t then t else s.clock }
  | .compose uninitialized =>
    match s.composer with
    | .idle =>
      { s with
        imu := DoubleBuffer.step s.imu (.read uninitialized.imu)
        composer := .imu uninitialized }
    | _ => s
  | .composeStep => composeStep s
  | .sample sensor => { s with composed := DoubleBuffer.step s.composed (.read sensor) }
  | .sampleStep => { s with composed := DoubleBuffer.step s.composed .readStep }

def zeroCache : MotorParamCache where
  bus_voltage := fun _ => .fin 0
  bus_current := fun _ => .fin 0
  reflected_rotor_inertia := fun _ => .fin 0

/-- The zeroed segment and a new cache. -/
def start (L : Layouts) (clock : UInt64) : System L where
  imu := DoubleBuffer.init _ {} {}
  grpA := DoubleBuffer.init _ zeroGroup {}
  grpB := DoubleBuffer.init _ zeroGroup {}
  composed := DoubleBuffer.init _ {} 0
  cache := zeroCache
  caches := [zeroCache]
  clock

/-- No copy goes into a slot that is being read. -/
def NoOverwrite (s : System L) : Input → Prop
  | .imuStep => DoubleBuffer.NoOverwrite s.imu .writeStep
  | .groupStep .a => DoubleBuffer.NoOverwrite s.grpA .writeStep
  | .groupStep .b => DoubleBuffer.NoOverwrite s.grpB .writeStep
  | .composeStep => DoubleBuffer.NoOverwrite s.composed .writeStep
  | .publishImu _ | .publishGroup _ _ | .store _ _ _ | .tick _ | .compose _ | .sample _
  | .sampleStep => True

instance (s : System L) : (i : Input) → Decidable (NoOverwrite s i)
  | .imuStep => inferInstanceAs (Decidable (DoubleBuffer.NoOverwrite s.imu .writeStep))
  | .groupStep .a => inferInstanceAs (Decidable (DoubleBuffer.NoOverwrite s.grpA .writeStep))
  | .groupStep .b => inferInstanceAs (Decidable (DoubleBuffer.NoOverwrite s.grpB .writeStep))
  | .composeStep => inferInstanceAs (Decidable (DoubleBuffer.NoOverwrite s.composed .writeStep))
  | .publishImu _ | .publishGroup _ _ | .store _ _ _ | .tick _ | .compose _ | .sample _
  | .sampleStep => isTrue trivial

/-! ### What a cycle composes -/

/-- Every value that is not zero in the place of the staged one. -/
def withParams (sd : SensorData) (cached : Param → Fin NUM_ACT_JOINT → Value) : SensorData :=
  { sd with
    bus_voltage := fun i =>
      if cached .bus_voltage i ≠ .fin 0 then cached .bus_voltage i else sd.bus_voltage i
    bus_current := fun i =>
      if cached .bus_current i ≠ .fin 0 then cached .bus_current i else sd.bus_current i
    reflected_rotor_inertia := fun i =>
      if cached .reflected_rotor_inertia i ≠ .fin 0 then cached .reflected_rotor_inertia i
      else sd.reflected_rotor_inertia i }

/-- The cache once held this value. -/
def Held (caches : List MotorParamCache) (p : Param) (i : Fin NUM_ACT_JOINT) (value : Value) :
    Prop :=
  ∃ cache ∈ caches, load cache i p = value

/-- The record composed of `c`, at some time and with values that the cache once held. -/
def Merged (caches : List MotorParamCache) (sd : SensorData) (c : Locals) : Prop :=
  ∃ cached : Param → Fin NUM_ACT_JOINT → Value, ∃ t, (∀ p i, Held caches p i (cached p i)) ∧
    sd = { withParams (merge c) cached with compose_timestamp_ns := t }

/-- The record in the middle of the loads: a value that is still to be loaded counts as zero. -/
def PartlyMerged (caches : List MotorParamCache) (sd : SensorData) (c : Locals)
    (rest : List (Param × Fin NUM_ACT_JOINT)) : Prop :=
  ∃ cached : Param → Fin NUM_ACT_JOINT → Value, sd = withParams (merge c) cached ∧
    ∀ p i, if (p, i) ∈ rest then cached p i = .fin 0 else Held caches p i (cached p i)

lemma mem_params (q : Param × Fin NUM_ACT_JOINT) : q ∈ params := by
  obtain ⟨p, i⟩ := q
  refine List.mem_flatMap.mpr ⟨i, List.mem_finRange i, ?_⟩
  cases p <;> simp

lemma nodup_params : params.Nodup := by
  decide +kernel

lemma partlyMerged_params (caches : List MotorParamCache) (c : Locals) :
    PartlyMerged caches (merge c) c params :=
  ⟨fun _ _ => .fin 0, by simp [withParams], fun p i => by simp [mem_params]⟩

/-- One load of the loop. -/
lemma overwrite_withParams (sd : SensorData) {cached : Param → Fin NUM_ACT_JOINT → Value}
    {p : Param} {i : Fin NUM_ACT_JOINT} (hzero : cached p i = .fin 0) (value : Value) :
    overwrite (withParams sd cached) i value p =
      withParams sd (Function.update cached p (Function.update (cached p) i value)) := by
  by_cases hvalue : value = .fin 0
  · -- a zero is not stored, and a zero is what was there
    have hsame : Function.update cached p (Function.update (cached p) i value) = cached := by
      rw [hvalue, ← hzero, Function.update_eq_self, Function.update_eq_self]
    rw [hsame]
    cases p <;> simp [overwrite, hvalue]
  · cases p <;> simp only [overwrite, ne_eq, hvalue, not_false_eq_true, if_true, withParams] <;>
      congr 1 <;> funext j <;> by_cases hj : j = i <;> simp [Function.update, hj, hvalue]

lemma Held.mono {caches caches' : List MotorParamCache} (hsub : caches ⊆ caches') {p : Param}
    {i : Fin NUM_ACT_JOINT} {value : Value} (h : Held caches p i value) :
    Held caches' p i value := by
  obtain ⟨cache, hcache, hvalue⟩ := h
  exact ⟨cache, hsub hcache, hvalue⟩

lemma Merged.mono {caches caches' : List MotorParamCache} (hsub : caches ⊆ caches')
    {sd : SensorData} {c : Locals} (h : Merged caches sd c) : Merged caches' sd c := by
  obtain ⟨cached, t, hcached, hsd⟩ := h
  exact ⟨cached, t, fun p i => (hcached p i).mono hsub, hsd⟩

lemma PartlyMerged.mono {caches caches' : List MotorParamCache} (hsub : caches ⊆ caches')
    {sd : SensorData} {c : Locals} {rest : List (Param × Fin NUM_ACT_JOINT)}
    (h : PartlyMerged caches sd c rest) : PartlyMerged caches' sd c rest := by
  obtain ⟨cached, hsd, hcached⟩ := h
  refine ⟨cached, hsd, fun p i => ?_⟩
  specialize hcached p i
  split_ifs at hcached ⊢
  · exact hcached
  · exact hcached.mono hsub

lemma PartlyMerged.afterLoad {caches : List MotorParamCache} {sd : SensorData} {c : Locals}
    {p : Param} {i : Fin NUM_ACT_JOINT} {rest : List (Param × Fin NUM_ACT_JOINT)}
    (h : PartlyMerged caches sd c ((p, i) :: rest)) (hnodup : ((p, i) :: rest).Nodup)
    {cache : MotorParamCache} (hcache : cache ∈ caches) :
    PartlyMerged caches (overwrite sd i (load cache i p) p) c rest := by
  obtain ⟨cached, rfl, hcached⟩ := h
  have hzero : cached p i = .fin 0 := by
    simpa using hcached p i
  refine ⟨_, overwrite_withParams _ hzero _, fun q j => ?_⟩
  by_cases hq : (q, j) = (p, i)
  · obtain ⟨rfl, rfl⟩ := Prod.mk.inj hq
    rw [if_neg (List.nodup_cons.mp hnodup).1, Function.update_self, Function.update_self]
    exact ⟨cache, hcache, rfl⟩
  · have hother : Function.update cached p (Function.update (cached p) i (load cache i p)) q j =
        cached q j := by
      by_cases hp : q = p
      · subst hp
        have hj : j ≠ i := fun hj => hq (by rw [hj])
        rw [Function.update_self, Function.update_of_ne hj]
      · rw [Function.update_of_ne hp]
    rw [hother]
    simpa [hq] using hcached q j

lemma PartlyMerged.merged {caches : List MotorParamCache} {sd : SensorData} {c : Locals}
    (h : PartlyMerged caches sd c []) (t : UInt64) :
    Merged caches { sd with compose_timestamp_ns := t } c := by
  obtain ⟨cached, rfl, hcached⟩ := h
  exact ⟨cached, t, fun p i => by simpa using hcached p i, rfl⟩

/-! ### The invariant -/

/-- What the cycle under way has read of the IMU's buffer. -/
def ComposerPc.imuRead : ComposerPc → List ImuStageData
  | .idle | .imu _ | .publish => []
  | .grpA c | .grpB c | .params c _ _ => [c.imu]

def ComposerPc.grpARead : ComposerPc → List MotorGroupRecord
  | .idle | .imu _ | .grpA _ | .publish => []
  | .grpB c | .params c _ _ => [c.grpA]

def ComposerPc.grpBRead : ComposerPc → List MotorGroupRecord
  | .idle | .imu _ | .grpA _ | .grpB _ | .publish => []
  | .params c _ _ => [c.grpB]

/-- What is composed while the cache is loaded. -/
def ComposerPc.LoadingOk (caches : List MotorParamCache) : ComposerPc → Prop
  | .idle | .imu _ | .grpA _ | .grpB _ | .publish => True
  | .params c sd rest => PartlyMerged caches sd c rest ∧ rest.Nodup

lemma ComposerPc.LoadingOk.mono {caches caches' : List MotorParamCache}
    (hsub : caches ⊆ caches') {pc : ComposerPc} (h : pc.LoadingOk caches) :
    pc.LoadingOk caches' := by
  cases pc with
  | params c sd rest => exact ⟨h.1.mono hsub, h.2⟩
  | _ => trivial

/-- The cycles whose record has been issued, and what the one under way has got so far. -/
structure CyclesOk (s : System L) (cycles : List Locals) : Prop where
  imu : s.imu.results.map Prod.snd = cycles.map Locals.imu ++ s.composer.imuRead
  grpA : s.grpA.results.map Prod.snd = cycles.map Locals.grpA ++ s.composer.grpARead
  grpB : s.grpB.results.map Prod.snd = cycles.map Locals.grpB ++ s.composer.grpBRead
  merged : List.Forall₂ (Merged s.caches) s.composed.issued cycles
  loading : s.composer.LoadingOk s.caches
  writer : s.composer ≠ .publish → s.composed.writer = .idle
  cache : s.cache ∈ s.caches
  zero : zeroCache ∈ s.caches

structure Inv (s : System L) : Prop where
  imu : DoubleBuffer.Ordered {} s.imu
  grpA : DoubleBuffer.Ordered zeroGroup s.grpA
  grpB : DoubleBuffer.Ordered zeroGroup s.grpB
  composed : DoubleBuffer.Ordered {} s.composed
  cycles : ∃ cycles, CyclesOk s cycles

lemma inv_start (L : Layouts) (clock : UInt64) : Inv (start L clock) where
  imu := DoubleBuffer.ordered_init _ _
  grpA := DoubleBuffer.ordered_init _ _
  grpB := DoubleBuffer.ordered_init _ _
  composed := DoubleBuffer.ordered_init _ _
  cycles := ⟨[], rfl, rfl, rfl, .nil, trivial, fun _ => rfl, List.mem_singleton.mpr rfl,
    List.mem_singleton.mpr rfl⟩

/-- The sources' threads and the controller leave the Composer's cycle alone. -/
lemma CyclesOk.congr {s t : System L} {cycles : List Locals} (h : CyclesOk s cycles)
    (himu : t.imu.results = s.imu.results) (hA : t.grpA.results = s.grpA.results)
    (hB : t.grpB.results = s.grpB.results) (hissued : t.composed.issued = s.composed.issued)
    (hwriter : t.composed.writer = s.composed.writer) (hcomposer : t.composer = s.composer)
    (hcache : t.cache = s.cache) (hcaches : t.caches = s.caches) : CyclesOk t cycles := by
  obtain ⟨h1, h2, h3, h4, h5, h6, h7, h8⟩ := h
  constructor
  · rw [himu, hcomposer, h1]
  · rw [hA, hcomposer, h2]
  · rw [hB, hcomposer, h3]
  · rwa [hissued, hcaches]
  · rwa [hcomposer, hcaches]
  · rwa [hcomposer, hwriter]
  · rwa [hcache, hcaches]
  · rwa [hcaches]

/-- Each step of the composer either goes on with a read, or takes what it read over, or loads a
parameter, or issues the record, or goes on with the publication. -/
lemma cyclesOk_composeStep {s : System L} {cycles : List Locals} (h : CyclesOk s cycles) :
    ∃ cycles', CyclesOk (composeStep s) cycles' := by
  have himu := h.imu
  have hA := h.grpA
  have hB := h.grpB
  unfold composeStep
  rcases hs : s.composer with _ | c | c | c | ⟨c, sd, _ | ⟨⟨p, i⟩, rest⟩⟩ | _ <;>
    simp only [hs, ComposerPc.imuRead, ComposerPc.grpARead, ComposerPc.grpBRead] at himu hA hB ⊢
  case idle => exact ⟨cycles, h⟩
  case imu =>
    have hwriter := h.writer (by simp [hs])
    split
    · next arg rb imu hr =>
      refine ⟨cycles, ?_, ?_, ?_, h.merged, trivial, fun _ => hwriter, h.cache, h.zero⟩
      · simp [DoubleBuffer.results_readStep_done hr, himu, ComposerPc.imuRead]
      · simp [hA, ComposerPc.grpARead]
      · simp [hB, ComposerPc.grpBRead]
    · next hr =>
      exact ⟨cycles, h.congr (DoubleBuffer.results_readStep hr) rfl rfl rfl rfl hs.symm rfl rfl⟩
  case grpA =>
    have hwriter := h.writer (by simp [hs])
    split
    · next arg rb grpA hr =>
      refine ⟨cycles, ?_, ?_, ?_, h.merged, trivial, fun _ => hwriter, h.cache, h.zero⟩
      · simp [himu, ComposerPc.imuRead]
      · simp [DoubleBuffer.results_readStep_done hr, hA, ComposerPc.grpARead]
      · simp [hB, ComposerPc.grpBRead]
    · next hr =>
      exact ⟨cycles, h.congr rfl (DoubleBuffer.results_readStep hr) rfl rfl rfl hs.symm rfl rfl⟩
  case grpB =>
    have hwriter := h.writer (by simp [hs])
    split
    · next arg rb grpB hr =>
      refine ⟨cycles, ?_, ?_, ?_, h.merged, ⟨partlyMerged_params _ _, nodup_params⟩,
        fun _ => hwriter, h.cache, h.zero⟩
      · simp [himu, ComposerPc.imuRead]
      · simp [hA, ComposerPc.grpARead]
      · simp [DoubleBuffer.results_readStep_done hr, hB, ComposerPc.grpBRead]
    · next hr =>
      exact ⟨cycles, h.congr rfl rfl (DoubleBuffer.results_readStep hr) rfl rfl hs.symm rfl rfl⟩
  case params.nil =>
    -- the cycle's record is issued
    have hloading := h.loading
    rw [hs] at hloading
    obtain ⟨hpartly, -⟩ := hloading
    have hwriter := h.writer (by simp [hs])
    refine ⟨cycles ++ [c], ?_, ?_, ?_, ?_, trivial, fun hne => absurd rfl hne, h.cache, h.zero⟩
    · simp [himu, ComposerPc.imuRead]
    · simp [hA, ComposerPc.grpARead]
    · simp [hB, ComposerPc.grpBRead]
    · rw [DoubleBuffer.issued_publish hwriter]
      exact List.rel_append h.merged (.cons (hpartly.merged s.clock) .nil)
  case params.cons =>
    have hloading := h.loading
    rw [hs] at hloading
    obtain ⟨hpartly, hnodup⟩ := hloading
    have hwriter := h.writer (by simp [hs])
    exact ⟨cycles, himu, hA, hB, h.merged,
      ⟨hpartly.afterLoad hnodup h.cache, (List.nodup_cons.mp hnodup).2⟩, fun _ => hwriter,
      h.cache, h.zero⟩
  case publish =>
    split
    · next hr => exact ⟨cycles, himu, hA, hB, h.merged, trivial, fun _ => hr, h.cache, h.zero⟩
    · exact ⟨cycles, himu, hA, hB, by simpa using h.merged, trivial,
        fun hne => absurd rfl hne, h.cache, h.zero⟩

lemma cyclesOk_step {s : System L} {cycles : List Locals} (h : CyclesOk s cycles) (i : Input) :
    ∃ cycles', CyclesOk (step s i) cycles' := by
  cases i with
  | publishImu data =>
    exact ⟨cycles, h.congr (DoubleBuffer.results_publish _ _) rfl rfl rfl rfl rfl rfl rfl⟩
  | imuStep =>
    exact ⟨cycles, h.congr (DoubleBuffer.results_writeStep _) rfl rfl rfl rfl rfl rfl rfl⟩
  | publishGroup g data =>
    cases g with
    | a => exact ⟨cycles, h.congr rfl (DoubleBuffer.results_publish _ _) rfl rfl rfl rfl rfl rfl⟩
    | b => exact ⟨cycles, h.congr rfl rfl (DoubleBuffer.results_publish _ _) rfl rfl rfl rfl rfl⟩
  | groupStep g =>
    cases g with
    | a => exact ⟨cycles, h.congr rfl (DoubleBuffer.results_writeStep _) rfl rfl rfl rfl rfl rfl⟩
    | b => exact ⟨cycles, h.congr rfl rfl (DoubleBuffer.results_writeStep _) rfl rfl rfl rfl rfl⟩
  | store idx rid value =>
    have hsub : s.caches ⊆ s.caches ++ [s.cache.store idx rid value] :=
      List.subset_append_left _ _
    exact ⟨cycles, h.imu, h.grpA, h.grpB, h.merged.imp fun _ _ hm => hm.mono hsub,
      h.loading.mono hsub, h.writer, List.mem_append_right _ (List.mem_singleton.mpr rfl),
      hsub h.zero⟩
  | tick t => exact ⟨cycles, h.imu, h.grpA, h.grpB, h.merged, h.loading, h.writer, h.cache, h.zero⟩
  | compose uninitialized =>
    simp only [step]
    split
    · next hs =>
      have himu := h.imu
      have hA := h.grpA
      have hB := h.grpB
      simp only [hs, ComposerPc.imuRead, ComposerPc.grpARead, ComposerPc.grpBRead] at himu hA hB
      refine ⟨cycles, ?_, hA, hB, h.merged, trivial, fun _ => h.writer (by simp [hs]), h.cache,
        h.zero⟩
      simpa [ComposerPc.imuRead] using himu
    · exact ⟨cycles, h⟩
  | composeStep => exact cyclesOk_composeStep h
  | sample sensor =>
    exact ⟨cycles, h.congr rfl rfl rfl (DoubleBuffer.issued_read _ _)
      (DoubleBuffer.writer_read _ _) rfl rfl rfl⟩
  | sampleStep =>
    exact ⟨cycles, h.congr rfl rfl rfl (DoubleBuffer.issued_readStep _)
      (DoubleBuffer.writer_readStep _) rfl rfl rfl⟩

lemma inv_composeStep {s : System L} (h : Inv s)
    (hno : DoubleBuffer.NoOverwrite s.composed .writeStep) : Inv (composeStep s) := by
  obtain ⟨himu, hA, hB, hcomposed, cycles, hcycles⟩ := h
  have hcycles' := cyclesOk_composeStep hcycles
  unfold composeStep at hcycles' ⊢
  rcases hs : s.composer with _ | c | c | c | ⟨c, sd, _ | ⟨⟨p, i⟩, rest⟩⟩ | _ <;>
    simp only [hs] at hcycles' ⊢
  case idle => exact ⟨himu, hA, hB, hcomposed, hcycles'⟩
  case imu =>
    split at hcycles'
    · exact ⟨himu.step .readStep trivial, hA.step (.read c.grpA) trivial, hB, hcomposed, hcycles'⟩
    · exact ⟨himu.step .readStep trivial, hA, hB, hcomposed, hcycles'⟩
  case grpA =>
    split at hcycles'
    · exact ⟨himu, hA.step .readStep trivial, hB.step (.read c.grpB) trivial, hcomposed, hcycles'⟩
    · exact ⟨himu, hA.step .readStep trivial, hB, hcomposed, hcycles'⟩
  case grpB =>
    split at hcycles'
    · exact ⟨himu, hA, hB.step .readStep trivial, hcomposed, hcycles'⟩
    · exact ⟨himu, hA, hB.step .readStep trivial, hcomposed, hcycles'⟩
  case params.nil => exact ⟨himu, hA, hB, hcomposed.step (.publish _) trivial, hcycles'⟩
  case params.cons => exact ⟨himu, hA, hB, hcomposed, hcycles'⟩
  case publish =>
    split at hcycles'
    · exact ⟨himu, hA, hB, hcomposed, hcycles'⟩
    · exact ⟨himu, hA, hB, hcomposed.step .writeStep hno, hcycles'⟩

/-- The four buffers keep their order: each moves by a step of its own or not at all. -/
lemma inv_step (s : System L) (i : Input) (h : Inv s) (hno : NoOverwrite s i) :
    Inv (step s i) := by
  obtain ⟨himu, hA, hB, hcomposed, cycles, hcycles⟩ := h
  have hcycles' := cyclesOk_step hcycles i
  cases i with
  | publishImu data => exact ⟨himu.step (.publish data) trivial, hA, hB, hcomposed, hcycles'⟩
  | imuStep => exact ⟨himu.step .writeStep hno, hA, hB, hcomposed, hcycles'⟩
  | publishGroup g data =>
    cases g with
    | a => exact ⟨himu, hA.step (.publish data) trivial, hB, hcomposed, hcycles'⟩
    | b => exact ⟨himu, hA, hB.step (.publish data) trivial, hcomposed, hcycles'⟩
  | groupStep g =>
    cases g with
    | a => exact ⟨himu, hA.step .writeStep hno, hB, hcomposed, hcycles'⟩
    | b => exact ⟨himu, hA, hB.step .writeStep hno, hcomposed, hcycles'⟩
  | store idx rid value => exact ⟨himu, hA, hB, hcomposed, hcycles'⟩
  | tick t => exact ⟨himu, hA, hB, hcomposed, hcycles'⟩
  | compose c =>
    simp only [step] at hcycles' ⊢
    split at hcycles'
    · exact ⟨himu.step (.read c.imu) trivial, hA, hB, hcomposed, hcycles'⟩
    · exact ⟨himu, hA, hB, hcomposed, hcycles'⟩
  | composeStep => exact inv_composeStep ⟨himu, hA, hB, hcomposed, cycles, hcycles⟩ hno
  | sample sensor => exact ⟨himu, hA, hB, hcomposed.step (.read sensor) trivial, hcycles'⟩
  | sampleStep => exact ⟨himu, hA, hB, hcomposed.step .readStep trivial, hcycles'⟩

/-! ### Samples -/

lemma composed_copies (L : Layouts) (arg x : SensorData) :
    ((composedBuffer L.sensor).read arg).eval x = x := by
  rw [composedBuffer, DoubleBuffer.eval_copy, L.sensor.finish_parts]

/-- A record of each source, by its place among what was published there; 0 is what the zeroed
segment holds. -/
structure Pick where
  imu : ℕ
  grpA : ℕ
  grpB : ℕ

/-- No source is behind. -/
structure Pick.Le (k k' : Pick) : Prop where
  imu : k.imu ≤ k'.imu
  grpA : k.grpA ≤ k'.grpA
  grpB : k.grpB ≤ k'.grpB

/-- The samples that the controller has read. -/
def System.samples (s : System L) : List SensorData := s.composed.results.map Prod.snd

/-- The sample is the merge of the records that are picked, none of them torn, with values that
the cache once held. -/
def IsSample (s : System L) (sample : SensorData) (k : Pick) : Prop :=
  ∃ c : Locals, s.imu.record? {} k.imu = some c.imu ∧
    s.grpA.record? zeroGroup k.grpA = some c.grpA ∧
    s.grpB.record? zeroGroup k.grpB = some c.grpB ∧ Merged s.caches sample c

lemma getElem?_le {ks : List ℕ} (h : ks.Pairwise (· ≤ ·)) {j j' a b : ℕ} (hj : j ≤ j')
    (ha : ks[j]? = some a) (hb : ks[j']? = some b) : a ≤ b := by
  obtain ⟨hlt, rfl⟩ := List.getElem?_eq_some_iff.mp ha
  obtain ⟨hlt', rfl⟩ := List.getElem?_eq_some_iff.mp hb
  rcases Nat.eq_or_lt_of_le hj with rfl | hj
  · exact Nat.le_refl _
  · exact List.pairwise_iff_getElem.mp h j j' hlt hlt' hj

lemma place_nil {V : Type} (zero : V) : place [] [] zero = fun _ => zero := by
  funext j
  simp [place]

lemma merged_zero {caches : List MotorParamCache} (h : zeroCache ∈ caches) :
    Merged caches {} ⟨{}, zeroGroup, zeroGroup⟩ := by
  refine ⟨fun _ _ => .fin 0, 0, fun p i => ⟨zeroCache, h, ?_⟩, ?_⟩
  · cases p <;> rfl
  · simp [withParams, merge, place_nil, zeroGroup]

/-- The reads of the first `j` cycles, the one before any of which is of the zeroed segment. -/
def pick (ki ka kb : List ℕ) (j : ℕ) : Pick where
  imu := (0 :: ki).getD j 0
  grpA := (0 :: ka).getD j 0
  grpB := (0 :: kb).getD j 0

/-- The cycles' reads `ki`, `ka` and `kb` of the three sources. -/
structure Reads (s : System L) (ki ka kb : List ℕ) : Prop where
  imu : List.Forall₂ (fun x k => s.imu.record? {} k = some x) (s.imu.results.map Prod.snd) ki
  grpA : List.Forall₂ (fun x k => s.grpA.record? zeroGroup k = some x)
    (s.grpA.results.map Prod.snd) ka
  grpB : List.Forall₂ (fun x k => s.grpB.record? zeroGroup k = some x)
    (s.grpB.results.map Prod.snd) kb
  sorted : ki.Pairwise (· ≤ ·) ∧ ka.Pairwise (· ≤ ·) ∧ kb.Pairwise (· ≤ ·)

lemma Inv.reads {s : System L} (h : Inv s) : ∃ ki ka kb, Reads s ki ka kb := by
  have hcopy {T : Type} (K : Layout T) (arg x : T) :
      (DoubleBuffer.Reader.copy K K.parts arg).eval x = x := by
    rw [DoubleBuffer.eval_copy, K.finish_parts]
  obtain ⟨ki, hki, himu⟩ := h.imu.copies (hcopy L.imu)
  obtain ⟨ka, hka, hA⟩ := h.grpA.copies (hcopy L.group)
  obtain ⟨kb, hkb, hB⟩ := h.grpB.copies (hcopy L.group)
  exact ⟨ki, ka, kb, himu, hA, hB, hki, hka, hkb⟩

/-- The composed record `j + 1` is made of the reads of cycle `j`. -/
lemma Reads.record {s : System L} {ki ka kb : List ℕ} (h : Reads s ki ka kb)
    {cycles : List Locals} (hcycles : CyclesOk s cycles) {j : ℕ} {sample : SensorData}
    (hj : s.composed.record? {} j = some sample) :
    ∃ k : Pick, IsSample s sample k ∧ (0 :: ki)[j]? = some k.imu ∧
      (0 :: ka)[j]? = some k.grpA ∧ (0 :: kb)[j]? = some k.grpB := by
  cases j with
  | zero =>
    obtain rfl : {} = sample := by simpa [DoubleBuffer.State.record?] using hj
    exact ⟨⟨0, 0, 0⟩, ⟨⟨{}, zeroGroup, zeroGroup⟩, rfl, rfl, rfl, merged_zero hcycles.zero⟩,
      rfl, rfl, rfl⟩
  | succ n =>
    have hissued : s.composed.issued[n]? = some sample := by
      have hpublished : s.composed.published[n]? = some sample := by
        simpa [DoubleBuffer.State.record?] using hj
      obtain ⟨hn, -⟩ := List.getElem?_eq_some_iff.mp hpublished
      rw [DoubleBuffer.State.issued, List.getElem?_append_left hn, hpublished]
    obtain ⟨c, hc, hmerged⟩ := DoubleBuffer.forall₂_getElem? hcycles.merged hissued
    obtain ⟨hn, rfl⟩ := List.getElem?_eq_some_iff.mp hc
    have hcycle {V : Type} (f : Locals → V) (more : List V) :
        (cycles.map f ++ more)[n]? = some (f cycles[n]) := by
      rw [List.getElem?_append_left (by simpa using hn)]
      simp [hn]
    obtain ⟨i, hi, hri⟩ := DoubleBuffer.forall₂_getElem? h.imu (by rw [hcycles.imu, hcycle])
    obtain ⟨a, ha, hra⟩ := DoubleBuffer.forall₂_getElem? h.grpA (by rw [hcycles.grpA, hcycle])
    obtain ⟨b, hb, hrb⟩ := DoubleBuffer.forall₂_getElem? h.grpB (by rw [hcycles.grpB, hcycle])
    exact ⟨⟨i, a, b⟩, ⟨cycles[n], hri, hra, hrb, hmerged⟩, by simpa using hi, by simpa using ha,
      by simpa using hb⟩

lemma pick_eq {ki ka kb : List ℕ} {j : ℕ} {k : Pick} (hi : (0 :: ki)[j]? = some k.imu)
    (ha : (0 :: ka)[j]? = some k.grpA) (hb : (0 :: kb)[j]? = some k.grpB) :
    pick ki ka kb j = k := by
  simp only [pick, List.getD_eq_getElem?_getD, hi, ha, hb, Option.getD_some]

/-- **Samples in order.** However the threads are interleaved, as long as no copy goes into a
slot that is being read: every sample of the controller is made of one whole record of each
source, and no source goes back from one sample to the next. -/
theorem samples_in_order (L : Layouts) (clock : UInt64) (l : List Input)
    (hl : Each step NoOverwrite (start L clock) l) :
    ∃ picks : List Pick, picks.Pairwise Pick.Le ∧
      List.Forall₂ (IsSample (run step (start L clock) l))
        (run step (start L clock) l).samples picks := by
  have hinv := hl.invariant (I := Inv) inv_step (inv_start L clock)
  generalize run step (start L clock) l = s at hinv
  obtain ⟨ki, ka, kb, hreads⟩ := hinv.reads
  obtain ⟨cycles, hcycles⟩ := hinv.cycles
  obtain ⟨js, hjs, hcomposed⟩ := hinv.composed.copies (composed_copies L)
  refine ⟨js.map (pick ki ka kb), List.pairwise_map.mpr (hjs.imp_of_mem ?_),
    List.forall₂_map_right_iff.mpr (hcomposed.imp ?_)⟩
  · intro j j' hj hj' hle
    obtain ⟨n, hn⟩ := List.mem_iff_getElem?.mp hj
    obtain ⟨n', hn'⟩ := List.mem_iff_getElem?.mp hj'
    obtain ⟨x, -, hx⟩ := DoubleBuffer.forall₂_getElem? hcomposed.flip hn
    obtain ⟨x', -, hx'⟩ := DoubleBuffer.forall₂_getElem? hcomposed.flip hn'
    obtain ⟨k, -, hi, ha, hb⟩ := hreads.record hcycles hx
    obtain ⟨k', -, hi', ha', hb'⟩ := hreads.record hcycles hx'
    rw [pick_eq hi ha hb, pick_eq hi' ha' hb']
    obtain ⟨hki, hka, hkb⟩ := hreads.sorted
    have hcons {ks : List ℕ} (h : ks.Pairwise (· ≤ ·)) : (0 :: ks).Pairwise (· ≤ ·) :=
      List.pairwise_cons.mpr ⟨fun _ _ => Nat.zero_le _, h⟩
    exact ⟨getElem?_le (hcons hki) hle hi hi', getElem?_le (hcons hka) hle ha ha',
      getElem?_le (hcons hkb) hle hb hb'⟩
  · intro sample j hj
    obtain ⟨k, hk, hi, ha, hb⟩ := hreads.record hcycles hj
    rwa [pick_eq hi ha hb]

/-- The IMU's records field by field, the others at once. -/
def layouts : Layouts where
  imu := imuLayout
  group := Layout.whole _
  sensor := Layout.whole _

def stageImu (n : ℕ) : List Input := .publishImu (measurement n) :: List.replicate 11 .imuStep

def composing (n : ℕ) : List Input := List.replicate n .composeStep

/-- A measurement and a bus voltage, then a cycle. -/
def oneCycle : List Input :=
  .tick 5 :: stageImu 1 ++ [.store 0 RID_BUS_VOLTAGE (.fin 24),
    .compose ⟨{}, zeroGroup, zeroGroup⟩] ++ composing 60

def isIdle (s : System L) : Bool :=
  match s.composed.reader with
  | .idle => true
  | .loadIndex _ | .reading _ _ _ => false

lemma reader_of_isIdle {s : System L} (h : isIdle s = true) : s.composed.reader = .idle := by
  unfold isIdle at h
  split at h
  · assumption
  · exact absurd h Bool.false_ne_true
  · exact absurd h Bool.false_ne_true

/-- The controller reads. -/
def oneSample : List Input := .sample {} :: List.replicate 4 .sampleStep

/-- The `n`-th record of a leg. -/
def legRecord (n : ℕ) : MotorGroupRecord :=
  { zeroGroup with
    joint_jpos := List.replicate MOTORS_PER_GROUP n
    timestamp_ns := UInt64.ofNat n
    sequence := UInt64.ofNat n }

def stageLeg (g : MotorGroup) (n : ℕ) : List Input :=
  .publishGroup g (legRecord n) :: List.replicate 7 (.groupStep g)

/-- Both legs have staged a record, and the IMU stages its second while a cycle reads the first. -/
def firstCycle : List Input :=
  .tick 5 :: stageImu 1 ++ stageLeg .a 1 ++ stageLeg .b 1 ++
    [.compose ⟨{}, zeroGroup, zeroGroup⟩] ++ composing 3 ++ stageImu 2 ++ composing 60

/-- The controller reads while the next cycle composes, and once more behind it. -/
def twoSamples : List Input :=
  firstCycle ++ [.tick 9, .sample {}, .sampleStep, .sampleStep] ++ stageLeg .a 2 ++
    [.compose ⟨{}, zeroGroup, zeroGroup⟩] ++ composing 60 ++ [.sampleStep, .sampleStep] ++ oneSample

theorem samples_in_order_two :
    (run step (start layouts 1) twoSamples).samples.map (fun sample =>
      (sample.imu_sequence, sample.joint_jpos ⟨0, by decide⟩, sample.motor_group_a_sequence,
        sample.motor_group_b_sequence, sample.compose_timestamp_ns)) =
        [(1, 1, 1, 1, 5), (2, 2, 2, 1, 9)] ∧
      ∃ picks : List Pick, picks.Pairwise Pick.Le ∧
        List.Forall₂ (IsSample (run step (start layouts 1) twoSamples))
          (run step (start layouts 1) twoSamples).samples picks := by
  have hl : Each step NoOverwrite (start layouts 1) twoSamples := by decide +kernel
  exact ⟨by decide +kernel, samples_in_order layouts 1 twoSamples hl⟩

/-! ### Time -/

/-- The records are composed in the order of the clock. -/
structure TimeOk (s : System L) : Prop where
  sorted : s.composed.issued.Pairwise fun x y => x.compose_timestamp_ns ≤ y.compose_timestamp_ns
  past : ∀ x ∈ s.composed.issued, x.compose_timestamp_ns ≤ s.clock

lemma timeOk_start (L : Layouts) (clock : UInt64) : TimeOk (start L clock) :=
  ⟨.nil, fun _ hx => absurd hx List.not_mem_nil⟩

lemma TimeOk.later {s t : System L} (h : TimeOk s) (hissued : t.composed.issued = s.composed.issued)
    (hclock : s.clock ≤ t.clock) : TimeOk t := by
  refine ⟨hissued ▸ h.sorted, fun x hx => ?_⟩
  rw [hissued] at hx
  exact UInt64.le_trans (h.past x hx) hclock

lemma TimeOk.issue {s t : System L} (h : TimeOk s) {x : SensorData}
    (hissued : t.composed.issued = s.composed.issued ++ [x])
    (hx : x.compose_timestamp_ns = s.clock) (hclock : t.clock = s.clock) : TimeOk t := by
  constructor
  · rw [hissued]
    refine List.pairwise_append.mpr ⟨h.sorted, List.pairwise_singleton _ _, fun y hy z hz => ?_⟩
    rw [List.mem_singleton.mp hz, hx]
    exact h.past y hy
  · rw [hissued, hclock]
    intro y hy
    rcases List.mem_append.mp hy with hy | hy
    · exact h.past y hy
    · rw [List.mem_singleton.mp hy, hx]
      exact UInt64.le_refl _

lemma timeOk_composeStep {s : System L} (h : TimeOk s) {cycles : List Locals}
    (hcycles : CyclesOk s cycles) : TimeOk (composeStep s) := by
  unfold composeStep
  rcases hs : s.composer with _ | c | c | c | ⟨c, sd, _ | ⟨⟨p, i⟩, rest⟩⟩ | _ <;>
    dsimp only
  case params.nil =>
    have hwriter := hcycles.writer (by simp [hs])
    exact h.issue (DoubleBuffer.issued_publish hwriter _) rfl rfl
  case publish =>
    split
    · exact h.later rfl (UInt64.le_refl _)
    · exact h.later (DoubleBuffer.issued_writeStep _) (UInt64.le_refl _)
  case idle => exact h
  case params.cons => exact h.later rfl (UInt64.le_refl _)
  all_goals split <;> exact h.later rfl (UInt64.le_refl _)

lemma timeOk_step {s : System L} (h : TimeOk s) {cycles : List Locals}
    (hcycles : CyclesOk s cycles) (i : Input) : TimeOk (step s i) := by
  cases i with
  | tick t =>
    refine h.later rfl ?_
    simp only [step]
    split_ifs with ht
    · exact ht
    · exact UInt64.le_refl _
  | composeStep => exact timeOk_composeStep h hcycles
  | compose c =>
    simp only [step]
    split
    · exact h.later rfl (UInt64.le_refl _)
    · exact h
  | publishGroup g data => cases g <;> exact h.later rfl (UInt64.le_refl _)
  | groupStep g => cases g <;> exact h.later rfl (UInt64.le_refl _)
  | sample sensor => exact h.later (DoubleBuffer.issued_read _ _) (UInt64.le_refl _)
  | sampleStep => exact h.later (DoubleBuffer.issued_readStep _) (UInt64.le_refl _)
  | publishImu data => exact h.later rfl (UInt64.le_refl _)
  | imuStep => exact h.later rfl (UInt64.le_refl _)
  | store idx rid value => exact h.later rfl (UInt64.le_refl _)

/-- The composed records move by a step of their own buffer or not at all. -/
lemma composed_step {s : System L} {i : Input} (hno : NoOverwrite s i) :
    (step s i).composed = s.composed ∨ ∃ j, DoubleBuffer.NoOverwrite s.composed j ∧
      (step s i).composed = DoubleBuffer.step s.composed j := by
  cases i with
  | composeStep =>
    simp only [step, composeStep]
    rcases hs : s.composer with _ | c | c | c | ⟨c, sd, _ | ⟨⟨p, i⟩, rest⟩⟩ | _ <;> dsimp only
    case params.nil => exact Or.inr ⟨.publish _, trivial, rfl⟩
    case publish =>
      split
      · exact Or.inl rfl
      · exact Or.inr ⟨.writeStep, hno, rfl⟩
    case idle => exact Or.inl rfl
    case params.cons => exact Or.inl rfl
    all_goals split <;> exact Or.inl rfl
  | compose c =>
    simp only [step]
    split <;> exact Or.inl rfl
  | publishGroup g data => cases g <;> exact Or.inl rfl
  | groupStep g => cases g <;> exact Or.inl rfl
  | sample sensor => exact Or.inr ⟨.read sensor, trivial, rfl⟩
  | sampleStep => exact Or.inr ⟨.readStep, trivial, rfl⟩
  | publishImu data => exact Or.inl rfl
  | imuStep => exact Or.inl rfl
  | store idx rid value => exact Or.inl rfl
  | tick t => exact Or.inl rfl

/-- Records that are published later are composed later. -/
lemma TimeOk.le_of_record {s : System L} (h : TimeOk s) {m k : ℕ} {x y : SensorData}
    (hx : s.composed.published[m]? = some x) (hy : s.composed.record? {} k = some y)
    (hmk : m < k) : x.compose_timestamp_ns ≤ y.compose_timestamp_ns := by
  obtain ⟨k, rfl⟩ := Nat.exists_eq_succ_of_ne_zero (Nat.ne_zero_of_lt hmk)
  have hy : s.composed.published[k]? = some y := by
    simpa [DoubleBuffer.State.record?] using hy
  have hsorted := (List.pairwise_append.mp h.sorted).1
  obtain ⟨hm, rfl⟩ := List.getElem?_eq_some_iff.mp hx
  obtain ⟨hk, rfl⟩ := List.getElem?_eq_some_iff.mp hy
  rcases Nat.eq_or_lt_of_le (Nat.lt_succ_iff.mp hmk) with rfl | hlt
  · exact UInt64.le_refl _
  · exact List.pairwise_iff_getElem.mp hsorted m k hm hk hlt

lemma TimeOk.record_le {s : System L} (h : TimeOk s) {k : ℕ} {y : SensorData}
    (hy : s.composed.record? {} k = some y) : y.compose_timestamp_ns ≤ s.clock := by
  rcases List.mem_cons.mp (List.mem_of_getElem? hy) with rfl | hmem
  · exact UInt64.zero_le
  · exact h.past y (List.mem_append_left _ hmem)

/-- **Samples are not out of date.** As long as no copy goes into a slot that is being read: a
sample whose read begins after `a` is at least as recent as every record that was published by
then, and not from the future. -/
theorem samples_fresh (L : Layouts) (clock : UInt64) (a b : List Input)
    (hl : Each step NoOverwrite (start L clock) (a ++ b))
    (hidle : (run step (start L clock) a).composed.reader = .idle) :
    let s := run step (start L clock) a
    let t := run step (start L clock) (a ++ b)
    ∀ sample ∈ t.samples.drop s.samples.length,
      (∀ x ∈ s.composed.published, x.compose_timestamp_ns ≤ sample.compose_timestamp_ns) ∧
        sample.compose_timestamp_ns ≤ t.clock := by
  intro s t
  obtain ⟨ha, hb⟩ := (each_append _ _ _).mp hl
  let I (s : System L) : Prop := Inv s ∧ TimeOk s
  have hI (s : System L) (i : Input) (h : I s) (hno : NoOverwrite s i) : I (step s i) := by
    obtain ⟨hinv, htime⟩ := h
    obtain ⟨cycles, hcycles⟩ := hinv.cycles
    exact ⟨inv_step s i hinv hno, timeOk_step htime hcycles i⟩
  have hs : I s := ha.invariant hI ⟨inv_start L clock, timeOk_start L clock⟩
  obtain ⟨ks, hks, hlen⟩ := hs.1.composed.since hidle
  -- what is published by then stays, and the reads from then on are not older
  let J (t : System L) : Prop := I t ∧
    DoubleBuffer.Since {} t.composed ks s.composed.published.length ∧
    s.composed.published <+: t.composed.published
  have hJ (t : System L) (i : Input) (h : J t) (hno : NoOverwrite t i) : J (step t i) := by
    obtain ⟨ht, hsince, hsub⟩ := h
    refine ⟨hI t i ht hno, ?_⟩
    obtain heq | ⟨j, hj, heq⟩ := composed_step hno
    · rw [heq]
      exact ⟨hsince, hsub⟩
    · rw [heq]
      exact ⟨hsince.step ht.1.composed.1 j hj, hsub.trans (DoubleBuffer.published_step _ j)⟩
  have ht : J t := by
    have hrun : t = run step s b := run_append step _ a b
    rw [hrun]
    exact hb.invariant hJ ⟨hs, hks, List.prefix_rfl⟩
  obtain ⟨⟨-, htime⟩, hsince, hsub⟩ := ht
  intro sample hsample
  have hnew : sample ∈ (t.composed.results.drop ks.length).map Prod.snd := by
    rw [List.map_drop, hlen]
    simpa [System.samples] using hsample
  obtain ⟨k, hk, hrecord⟩ := hsince.fresh (composed_copies L) sample hnew
  refine ⟨fun x hx => ?_, htime.record_le hrecord⟩
  obtain ⟨m, hm⟩ := List.mem_iff_getElem?.mp hx
  obtain ⟨hlt, -⟩ := List.getElem?_eq_some_iff.mp hm
  obtain ⟨more, hmore⟩ := hsub
  have hm' : t.composed.published[m]? = some x := by
    rw [← hmore, List.getElem?_append_left hlt]
    exact hm
  exact htime.le_of_record hm' hrecord (Nat.lt_of_lt_of_le hlt hk)

theorem samples_fresh_one :
    let s := run step (start layouts 1) oneCycle
    let t := run step (start layouts 1) (oneCycle ++ oneSample)
    s.composed.published.map SensorData.compose_timestamp_ns = [5] ∧
      (t.samples.drop s.samples.length).map SensorData.compose_timestamp_ns = [5] ∧
      ∀ sample ∈ t.samples.drop s.samples.length,
        (∀ x ∈ s.composed.published, x.compose_timestamp_ns ≤ sample.compose_timestamp_ns) ∧
          sample.compose_timestamp_ns ≤ t.clock :=
  ⟨by decide +kernel, by decide +kernel,
    samples_fresh layouts 1 oneCycle oneSample (by decide +kernel)
      (reader_of_isIdle (by decide +kernel))⟩

end Kuavo.SensorPath
