import Kuavo.Lib.Binary32
import Mathlib.Data.Rat.Floor
import Mathlib.Tactic.Common

/-!
The shared memory between the robot process and the Mercury Controller, as
`include/mercury_shm.h` lays it out.

Doubles are exact rationals. Of `SharedMemoryLayout` the fields appear that the modelled
functions read or write.
-/

namespace Kuavo.MercuryShm

open Kuavo.Lib.Binary32 (Value)

def NUM_ACT_JOINT : ℕ := 12
def MOTORS_PER_GROUP : ℕ := 6
def SHM_MAGIC : UInt32 := 0x4D455243
def SHM_VERSION : UInt32 := 5
def HEARTBEAT_STALE_NS : UInt64 := 100000000

inductive ShmLifecycle | UNINITIALIZED | INITIALIZING | RUNNING | SHUTTING_DOWN | TERMINATED
  deriving DecidableEq

/-- One set-point record of the Mercury Controller. -/
structure Command where
  jtorque_cmd : Fin NUM_ACT_JOINT → ℚ := fun _ => 0
  jpos_cmd : Fin NUM_ACT_JOINT → ℚ := fun _ => 0
  jvel_cmd : Fin NUM_ACT_JOINT → ℚ := fun _ => 0
  kp : Fin NUM_ACT_JOINT → ℚ := fun _ => 0
  kd : Fin NUM_ACT_JOINT → ℚ := fun _ => 0
  enabled : Fin NUM_ACT_JOINT → UInt8 := fun _ => 0
  timestamp_ns : UInt64 := 0

/-- Three doubles, infinities included. -/
structure Triple where
  x : Value := .fin 0
  y : Value := .fin 0
  z : Value := .fin 0
  deriving DecidableEq

/-- What the IMU reader stages for the Composer. -/
structure ImuStageData where
  imu_inc : Triple := {}
  imu_ang_vel : Triple := {}
  imu_acc : Triple := {}
  timestamp_ns : UInt64 := 0
  sequence : UInt64 := 0
  deriving DecidableEq

/-- What a leg stages for the Composer in one cycle. -/
structure MotorGroupStageData where
  joint_jpos : List ℚ
  joint_jvel : List ℚ
  motor_jpos : List ℚ
  motor_jvel : List ℚ
  jtorque : List ℚ
  motor_status : List UInt8
  mos_temperature : List ℤ
  rotor_temperature : List ℤ
  controller_duration_us : UInt32
  controller_interval_us : UInt32
  timestamp_ns : UInt64
  sequence : UInt64

structure SharedMemoryLayout where
  magic : UInt32 := 0
  version : UInt32 := 0
  lifecycle_state : ShmLifecycle := .UNINITIALIZED
  composed_sequence : UInt64 := 0
  cmd_buffers : Fin 2 → Command := fun _ => {}
  cmd_write_idx : UInt32 := 0
  emergency_stop : Bool := false
  controller_emergency_stop : Bool := false

namespace SharedMemoryLayout

/-- `cmd_buffers[cmd_write_idx]`, for an index that is in range. -/
def currentCommand? (m : SharedMemoryLayout) : Option Command :=
  if h : m.cmd_write_idx.toNat < 2 then some (m.cmd_buffers ⟨m.cmd_write_idx.toNat, h⟩) else none

/-- The segment as `Robot::robotInit` leaves it: zeroed, then its fields written. -/
def created : SharedMemoryLayout where
  magic := SHM_MAGIC
  version := SHM_VERSION
  lifecycle_state := .RUNNING

end SharedMemoryLayout

def double_to_uint (x x_min x_max : ℚ) (bits : ℕ) : ℕ :=
  let x := if x < x_min then x_min else x
  let x := if x_max < x then x_max else x
  ⌊(x - x_min) / (x_max - x_min) * ((1 <<< bits - 1 : ℕ) : ℚ)⌋₊ % 2 ^ 16

def uint_to_double (x : ℕ) (min_v max_v : ℚ) (bits : ℕ) : ℚ :=
  (x : ℚ) / ((1 <<< bits - 1 : ℕ) : ℚ) * (max_v - min_v) + min_v

end Kuavo.MercuryShm
