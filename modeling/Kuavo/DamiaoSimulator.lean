import Kuavo.CanFrame

/-!
`tools/DamiaoSimulator.cpp`: how the motor side tells commands apart, what it does with them
and how it builds its feedback.
-/

namespace Kuavo.DamiaoSimulator

open Kuavo.Lib Kuavo.Lib.Bits

def CAN_FRAME_SIZE : ℕ := 13

inductive MotorStatus
  | DISABLED | ENABLED | OVERVOLTAGE | UNDERVOLTAGE | OVERCURRENT | MOS_OVERTEMP
  | COIL_OVERTEMP | COMM_LOST | OVERLOAD
  deriving DecidableEq

def MotorStatus.code : MotorStatus → ℕ
  | .DISABLED => 0x00
  | .ENABLED => 0x01
  | .OVERVOLTAGE => 0x08
  | .UNDERVOLTAGE => 0x09
  | .OVERCURRENT => 0x0A
  | .MOS_OVERTEMP => 0x0B
  | .COIL_OVERTEMP => 0x0C
  | .COMM_LOST => 0x0D
  | .OVERLOAD => 0x0E

lemma MotorStatus.code_lt (s : MotorStatus) : s.code < 16 := by cases s <;> decide

lemma default_pMax_pos : (0 : ℚ) < 25 / 2 := by norm_num
lemma default_vMax_pos : (0 : ℚ) < 45 := by norm_num

def DEFAULT_LIMITS : LimitParam where
  pMax := 25 / 2
  vMax := 45
  tMax := 18
  pMax_pos := default_pMax_pos
  vMax_pos := default_vMax_pos

/-- Targets may come from the bytes of a single, and need not be finite. -/
structure MotorState where
  canId : ℕ
  masterId : ℕ
  status : MotorStatus := .DISABLED
  position : ℚ := 0
  velocity : ℚ := 0
  torque : ℚ := 0
  mosFetTemp : ℤ := 35
  rotorTemp : ℤ := 40
  targetPos : Binary32.Value := .fin 0
  targetVel : Binary32.Value := .fin 0
  targetTorque : ℚ := 0
  kp : ℚ := 0
  kd : ℚ := 0
  limits : LimitParam := DEFAULT_LIMITS
  zeroSaved : Bool := false
  /-- The bit patterns of the singles stored. -/
  parameters : UInt8 → Option ℕ := fun _ => none

def MotorState.initDefaults (m : MotorState) : MotorState :=
  { m with
    parameters := fun rid =>
      if rid = 0x05 then some (Binary32.toBits m.limits.pMax)
      else if rid = 0x06 then some (Binary32.toBits m.limits.vMax)
      else if rid = 0x07 then some (Binary32.toBits m.canId)
      else if rid = 0x08 then some (Binary32.toBits m.masterId)
      else if rid = 0x09 then some (Binary32.toBits 10000)
      else if rid = 0x0A then some (Binary32.toBits m.limits.tMax)
      else if rid = 0x0B then some (Binary32.toBits 100)
      else m.parameters rid }

/-- A motor as the constructor of the simulator sets it up. -/
def MotorState.ofId (id : ℕ) : MotorState :=
  MotorState.initDefaults { canId := id, masterId := (id + 0x10) % 2 ^ 16 }

def double_to_uint (x x_min x_max : ℚ) (bits : ℕ) : ℕ :=
  let x := max x_min (min x x_max)
  let span := x_max - x_min
  ⌊(x - x_min) / span * ((1 <<< bits - 1 : ℕ) : ℚ)⌋₊ % 2 ^ 16

/-- The simulator's copy is the one of the motor side. -/
lemma double_to_uint_eq (x x_min x_max : ℚ) (bits : ℕ) :
    double_to_uint x x_min x_max bits = Utility.doubleToUint x x_min x_max bits := rfl

def uint_to_double (x : ℕ) (min_val max_val : ℚ) (bits : ℕ) : ℚ :=
  let span := max_val - min_val
  (x : ℚ) / ((1 <<< bits - 1 : ℕ) : ℚ) * span + min_val

lemma uint_to_double_eq (x : ℕ) (min_val max_val : ℚ) (bits : ℕ) :
    uint_to_double x min_val max_val bits = Utility.uintToDouble x min_val max_val bits := rfl

/-! ### Commands -/

inductive CommandType
  | UNKNOWN | ENABLE | DISABLE | SAVE_ZERO | CLEAR_ERROR | MIT_CONTROL | POSVEL_CONTROL
  | VELOCITY_CONTROL | POSFORCE_CONTROL | QUERY_PARAM | WRITE_PARAM | REFRESH
  deriving DecidableEq

structure ParsedCommand where
  type : CommandType := .UNKNOWN
  motor : Option MotorState := none
  canId : ℕ := 0

def extract_can_id (msg : CANFrame) : ℕ := be32 msg.id0 msg.id1 msg.id2 msg.id3

/-- `motors_` is a map from the CAN id of a motor to the motor, listed in key order. -/
def findMotorByCanId (motors : List MotorState) (canId : ℕ) : Option MotorState :=
  (motors.find? fun m => m.canId = canId % 2 ^ 16).or
    (motors.find? fun m =>
      canId = m.canId + 0x100 ∨ canId = m.canId + 0x200 ∨ canId = m.canId + 0x300)

def findMotorByParamData (motors : List MotorState) (data : DataFrame) : Option MotorState :=
  motors.find? fun m => m.canId = (data.b0.toNat ||| data.b1.toNat <<< 8)

/-- The first seven bytes are those of a special command. -/
def isSpecial (data : DataFrame) : Bool :=
  data.b0 == 0xFF && data.b1 == 0xFF && data.b2 == 0xFF && data.b3 == 0xFF && data.b4 == 0xFF &&
    data.b5 == 0xFF && data.b6 == 0xFF

def specialType (b : UInt8) : CommandType :=
  if b = 0xFC then .ENABLE
  else if b = 0xFD then .DISABLE
  else if b = 0xFE then .SAVE_ZERO
  else if b = 0xFB then .CLEAR_ERROR
  else .UNKNOWN

def paramType (b : UInt8) : CommandType :=
  if b = 0x33 then .QUERY_PARAM
  else if b = 0x55 then .WRITE_PARAM
  else if b = 0xCC then .REFRESH
  else .UNKNOWN

def modeType (canId baseId : ℕ) : CommandType :=
  if canId = baseId then .MIT_CONTROL
  else if canId = baseId + 0x100 then .POSVEL_CONTROL
  else if canId = baseId + 0x200 then .VELOCITY_CONTROL
  else if canId = baseId + 0x300 then .POSFORCE_CONTROL
  else .UNKNOWN

def identifyCommand (motors : List MotorState) (msg : CANFrame) (len : ℕ) : ParsedCommand :=
  if len < CAN_FRAME_SIZE then {}
  else
    let canId := extract_can_id msg
    let data := msg.data
    if isSpecial data then
      match findMotorByCanId motors canId with
      | none => { canId := canId }
      | some m => { canId := canId, motor := some m, type := specialType data.b7 }
    else if canId = 0x7FF then
      match findMotorByParamData motors data with
      | none => { canId := canId }
      | some m => { canId := canId, motor := some m, type := paramType data.b2 }
    else
      match findMotorByCanId motors canId with
      | none => { canId := canId }
      | some m => { canId := canId, motor := some m, type := modeType canId m.canId }

/-! ### Feedback -/

/-- `std::max(0, std::min(255, t))`, as a byte. -/
def tempByte (t : ℤ) : UInt8 := byte (max 0 (min 255 t)).toNat

def buildFeedbackFrame (motor : MotorState) : CANFrame :=
  let pos_u := double_to_uint motor.position (-motor.limits.pMax) motor.limits.pMax 16
  let vel_u := double_to_uint motor.velocity (-motor.limits.vMax) motor.limits.vMax 12
  let tau_u := double_to_uint motor.torque (-motor.limits.tMax) motor.limits.tMax 12
  { FrameHeader := 0x08
    id0 := byte (motor.masterId >>> 24 &&& 0xFF)
    id1 := byte (motor.masterId >>> 16 &&& 0xFF)
    id2 := byte (motor.masterId >>> 8 &&& 0xFF)
    id3 := byte (motor.masterId &&& 0xFF)
    data :=
      { b0 := byte ((motor.canId &&& 0xFF) ||| motor.status.code <<< 4)
        b1 := byte (pos_u >>> 8 &&& 0xFF)
        b2 := byte (pos_u &&& 0xFF)
        b3 := byte (vel_u >>> 4 &&& 0xFF)
        b4 := byte ((vel_u &&& 0x0F) <<< 4 ||| (tau_u >>> 8 &&& 0x0F))
        b5 := byte (tau_u &&& 0xFF)
        b6 := tempByte motor.mosFetTemp
        b7 := tempByte motor.rotorTemp } }

/-! ### Physics -/

/-- One step of a quantity towards its target, clamped. A NaN falls through `std::min` and
`std::max` to the lower end. -/
def approach (limit x : ℚ) : Binary32.Value → ℚ
  | .fin target => max (-limit) (min (x + 1 / 10 * (target - x)) limit)
  | .inf negative => if negative then -limit else limit
  | .nan => -limit

def updatePhysics (motor : MotorState) : MotorState :=
  let torque := approach motor.limits.tMax motor.torque (.fin motor.targetTorque)
  { motor with
    position := approach motor.limits.pMax motor.position motor.targetPos
    velocity := approach motor.limits.vMax motor.velocity motor.targetVel
    torque := torque
    mosFetTemp := 35 + ⌊|torque| * 2⌋
    rotorTemp := 40 + ⌊|torque| * (3 / 2)⌋ }

/-! ### Handlers -/

/-- `bytes_to_float`. -/
def bytes_to_float (b0 b1 b2 b3 : UInt8) : Binary32.Value :=
  Binary32.ofBits (le32 b0 b1 b2 b3)

def handleMitControl (motor : MotorState) (data : DataFrame) : MotorState :=
  if motor.status ≠ .ENABLED then motor
  else
    let q_uint := data.b0.toNat <<< 8 ||| data.b1.toNat
    let dq_uint := data.b2.toNat <<< 4 ||| data.b3.toNat >>> 4
    let kp_uint := (data.b3.toNat &&& 0x0F) <<< 8 ||| data.b4.toNat
    let kd_uint := data.b5.toNat <<< 4 ||| data.b6.toNat >>> 4
    let tau_uint := (data.b6.toNat &&& 0x0F) <<< 8 ||| data.b7.toNat
    let limits := motor.limits
    updatePhysics { motor with
      targetPos := .fin (uint_to_double q_uint (-limits.pMax) limits.pMax 16)
      targetVel := .fin (uint_to_double dq_uint (-limits.vMax) limits.vMax 12)
      kp := uint_to_double kp_uint 0 500 12
      kd := uint_to_double kd_uint 0 5 12
      targetTorque := uint_to_double tau_uint (-limits.tMax) limits.tMax 12 }

def handlePosVelControl (motor : MotorState) (data : DataFrame) : MotorState :=
  if motor.status ≠ .ENABLED then motor
  else
    updatePhysics { motor with
      targetPos := bytes_to_float data.b0 data.b1 data.b2 data.b3
      targetVel := bytes_to_float data.b4 data.b5 data.b6 data.b7 }

def handleVelocityControl (motor : MotorState) (data : DataFrame) : MotorState :=
  if motor.status ≠ .ENABLED then motor
  else updatePhysics { motor with targetVel := bytes_to_float data.b0 data.b1 data.b2 data.b3 }

def handlePosForceControl (motor : MotorState) (data : DataFrame) : MotorState :=
  if motor.status ≠ .ENABLED then motor
  else
    let vel_u := data.b4.toNat ||| data.b5.toNat <<< 8
    let i_u := data.b6.toNat ||| data.b7.toNat <<< 8
    updatePhysics { motor with
      targetPos := bytes_to_float data.b0 data.b1 data.b2 data.b3
      targetVel := .fin (vel_u / 100)
      targetTorque := i_u / 10000 * motor.limits.tMax }

/-- The response to a query. The four bytes are an integer or the single itself; `undef` says
what becomes of a single that no `uint32_t` holds. -/
def handleQueryParam (undef : Binary32.Value → ℕ) (motor : MotorState) (data : DataFrame) :
    CANFrame :=
  let rid := data.b3
  let value := (motor.parameters rid).getD 0
  let word :=
    if isIntRid rid.toNat then (Binary32.ofBits value).toUInt32 undef else value
  { FrameHeader := 0x08
    id0 := byte (motor.masterId >>> 24 &&& 0xFF)
    id1 := byte (motor.masterId >>> 16 &&& 0xFF)
    id2 := byte (motor.masterId >>> 8 &&& 0xFF)
    id3 := byte (motor.masterId &&& 0xFF)
    data :=
      ⟨data.b0, data.b1, 0x33, rid, byte word, byte (word / 256), byte (word / 65536),
        byte (word / 16777216)⟩ }

def handleWriteParam (motor : MotorState) (data : DataFrame) : MotorState :=
  let word := le32 data.b4 data.b5 data.b6 data.b7
  let value := if isIntRid data.b3.toNat then Binary32.toBits word else word
  { motor with parameters := Function.update motor.parameters data.b3 (some value) }

/-- A handler that ends with feedback. -/
def withFeedback (motor : MotorState) : MotorState × List CANFrame :=
  (motor, [buildFeedbackFrame motor])

/-- The switch of `handleCommand`: the motor after it, and the frames sent back. -/
def execute (undef : Binary32.Value → ℕ) (motor : MotorState) (data : DataFrame) :
    CommandType → MotorState × List CANFrame
  | .ENABLE => withFeedback { motor with status := .ENABLED }
  | .DISABLE =>
    withFeedback { motor with
      status := .DISABLED, targetPos := .fin 0, targetVel := .fin 0, targetTorque := 0 }
  | .SAVE_ZERO => withFeedback { motor with position := 0, zeroSaved := true }
  | .CLEAR_ERROR => withFeedback { motor with status := .DISABLED }
  | .MIT_CONTROL => withFeedback (handleMitControl motor data)
  | .POSVEL_CONTROL => withFeedback (handlePosVelControl motor data)
  | .VELOCITY_CONTROL => withFeedback (handleVelocityControl motor data)
  | .POSFORCE_CONTROL => withFeedback (handlePosForceControl motor data)
  | .QUERY_PARAM => (motor, [handleQueryParam undef motor data])
  | .WRITE_PARAM =>
    let motor := handleWriteParam motor data
    (motor, [handleQueryParam undef motor data])
  | .REFRESH => withFeedback motor
  | .UNKNOWN => (motor, [])

/-- Puts a motor back under its CAN id. -/
def store (motors : List MotorState) (motor : MotorState) : List MotorState :=
  motors.map fun m => if m.canId = motor.canId then motor else m

def handleCommand (undef : Binary32.Value → ℕ) (motors : List MotorState) (msg : CANFrame)
    (len : ℕ) : List MotorState × List CANFrame :=
  let parsed := identifyCommand motors msg len
  match parsed.motor with
  | none => (motors, [])
  | some motor =>
    let r := execute undef motor msg.data parsed.type
    (store motors r.1, r.2)

end Kuavo.DamiaoSimulator
