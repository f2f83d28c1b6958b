import Kuavo.Utility

/-!
`lib/motor/Motor.cpp` with the frames of `DmFrame.h`: the commands a motor is sent, the
packing of a MIT command, and the parsing of what comes back.
-/

namespace Kuavo

open Kuavo.Lib Kuavo.Lib.Bits Kuavo.Utility

inductive MotorType | DM8009 | DM10010L
  deriving DecidableEq

/-- Limits of one motor, each the bound of a symmetric range. -/
structure LimitParam where
  pMax : ℚ
  vMax : ℚ
  tMax : ℚ
  pMax_pos : 0 < pMax := by norm_num
  vMax_pos : 0 < vMax := by norm_num
  tMax_pos : 0 < tMax := by norm_num

def MOTOR_LIMIT_PARAMS : MotorType → LimitParam
  | .DM8009 => { pMax := 25 / 2, vMax := 45, tMax := 54 }
  | .DM10010L => { pMax := 25 / 2, vMax := 25, tMax := 200 }

structure MITParam where
  kp : ℚ
  kd : ℚ
  q : ℚ
  dq : ℚ
  tau : ℚ
  deriving DecidableEq

structure PosVelParam where
  q : ℚ
  dq : ℚ
  deriving DecidableEq

/-- The eight data bytes of a CAN frame. -/
structure DataFrame where
  b0 : UInt8
  b1 : UInt8
  b2 : UInt8
  b3 : UInt8
  b4 : UInt8
  b5 : UInt8
  b6 : UInt8
  b7 : UInt8
  deriving DecidableEq

def DataFrame.toList (d : DataFrame) : List UInt8 :=
  [d.b0, d.b1, d.b2, d.b3, d.b4, d.b5, d.b6, d.b7]

/-- Seven bytes `0xff` and the code of a special command. -/
def special (code : UInt8) : DataFrame := ⟨0xff, 0xff, 0xff, 0xff, 0xff, 0xff, 0xff, code⟩

def dataframe_clear_error : DataFrame := special 0xfb
def dataframe_enable_motor : DataFrame := special 0xfc
def dataframe_disable_motor : DataFrame := special 0xfd
def dataframe_set_zero_position : DataFrame := special 0xfe

/-! ### Commands -/

/-- The commands a motor can be sent. -/
inductive MotorCmd
  | clearMotorError
  | enableMotor
  | disableMotor
  | setZeroCommand
  | setMitControl (mit_param : MITParam)
  | setPosvelControl (posvel_param : PosVelParam)
  | getMotorStatus
  | getRegParam (RID : ℤ)
  | writeRegParam (RID val : ℤ)
  | saveRegParam (RID : ℤ)
  deriving DecidableEq

/-- Whether a command switches the motor on or off. -/
def MotorCmd.power : MotorCmd → Option Bool
  | .enableMotor => some true
  | .disableMotor => some false
  | _ => none

def MotorCmd.isMit : MotorCmd → Bool
  | .setMitControl _ => true
  | _ => false

/-- The five codes of a MIT command. -/
structure MITCodes where
  q_uint : ℕ
  dq_uint : ℕ
  kp_uint : ℕ
  kd_uint : ℕ
  tau_uint : ℕ

def mitCodes (t : MotorType) (p : MITParam) : MITCodes :=
  let limits := MOTOR_LIMIT_PARAMS t
  { kp_uint := doubleToUint p.kp 0 500 12
    kd_uint := doubleToUint p.kd 0 5 12
    q_uint := doubleToUint p.q (-limits.pMax) limits.pMax 16
    dq_uint := doubleToUint p.dq (-limits.vMax) limits.vMax 12
    tau_uint := doubleToUint p.tau (-limits.tMax) limits.tMax 12 }

def MITCodes.pack (c : MITCodes) : DataFrame where
  b0 := byte (c.q_uint >>> 8 &&& 0xFF)
  b1 := byte (c.q_uint &&& 0xFF)
  b2 := byte (c.dq_uint >>> 4)
  b3 := byte ((c.dq_uint &&& 0xF) <<< 4 ||| (c.kp_uint >>> 8 &&& 0xF))
  b4 := byte (c.kp_uint &&& 0xFF)
  b5 := byte (c.kd_uint >>> 4)
  b6 := byte ((c.kd_uint &&& 0xF) <<< 4 ||| (c.tau_uint >>> 8 &&& 0xF))
  b7 := byte (c.tau_uint &&& 0xFF)

/-- The frame that `Motor::setMitControl` packs. -/
def Motor.setMitControl (t : MotorType) (p : MITParam) : DataFrame := (mitCodes t p).pack

/-- `dataframe_reg_param_t`, with the register cut to a byte and the four bytes after it. -/
def registerParam (deviceId : ℕ) (cmd : UInt8) (RID : ℤ) (rest : Fin 4 → UInt8) : DataFrame :=
  ⟨byte deviceId, byte (deviceId / 256), cmd, byte (RID % 256).toNat,
    rest 0, rest 1, rest 2, rest 3⟩

/-- The data bytes of each command. Commands on registers and on the status leave the last four
of the union as they happen to be, and so does a write: its value goes nowhere. -/
def MotorCmd.data (t : MotorType) (deviceId : ℕ) (rest : Fin 4 → UInt8) : MotorCmd → DataFrame
  | .clearMotorError => dataframe_clear_error
  | .enableMotor => dataframe_enable_motor
  | .disableMotor => dataframe_disable_motor
  | .setZeroCommand => dataframe_set_zero_position
  | .setMitControl p => Motor.setMitControl t p
  | .setPosvelControl p =>
    let pb := floatToUint8s p.q
    let vb := floatToUint8s p.dq
    ⟨pb 0, pb 1, pb 2, pb 3, vb 0, vb 1, vb 2, vb 3⟩
  | .getMotorStatus =>
    ⟨byte deviceId, byte (deviceId / 256), 0xcc, 0, rest 0, rest 1, rest 2, rest 3⟩
  | .getRegParam rid => registerParam deviceId 0x33 rid rest
  | .writeRegParam rid _ => registerParam deviceId 0x55 rid rest
  | .saveRegParam rid => registerParam deviceId 0xaa rid rest

/-- The `command_id` that `sendMessage` is given. -/
def MotorCmd.apiId : MotorCmd → ℕ
  | .getMotorStatus => 0x01
  | .getRegParam _ => 0x02
  | .saveRegParam _ => 0x03
  | .writeRegParam _ _ => 0x04
  | _ => 0

/-! ### Responses -/

/-- The cache of slow parameters that the Composer reads. -/
structure MotorParamCache where
  bus_voltage : ℕ → Binary32.Value
  bus_current : ℕ → Binary32.Value
  reflected_rotor_inertia : ℕ → Binary32.Value

def RID_BUS_VOLTAGE : ℕ := 0x50
def RID_BUS_CURRENT : ℕ := 0x51
def RID_REFLECTED_ROTOR_INERTIA : ℕ := 0x52

/-- Stores the value of a cached register, and nothing for any other. -/
def MotorParamCache.store (c : MotorParamCache) (idx rid : ℕ) (value : Binary32.Value) :
    MotorParamCache :=
  if rid = RID_BUS_VOLTAGE then { c with bus_voltage := Function.update c.bus_voltage idx value }
  else if rid = RID_BUS_CURRENT then
    { c with bus_current := Function.update c.bus_current idx value }
  else if rid = RID_REFLECTED_ROTOR_INERTIA then
    { c with reflected_rotor_inertia := Function.update c.reflected_rotor_inertia idx value }
  else c

structure Motor where
  deviceId : ℕ
  motorType : MotorType := .DM8009
  status : ℕ := 0
  stateQ : ℚ := 0
  stateDq : ℚ := 0
  stateTau : ℚ := 0
  stateTmos : ℕ := 0
  stateTrotor : ℕ := 0
  lastUpdateTime : UInt64 := 0
  paramDict : ℕ → Option ℤ := fun _ => none
  /-- Whether `m_paramCache` is set. -/
  hasParamCache : Bool := true

structure StateResult where
  state : ℕ
  position : ℚ
  velocity : ℚ
  torque : ℚ
  t_mos : ℕ
  t_rotor : ℕ

structure ParamResult where
  rid : ℕ
  value : Binary32.Value

/-- The registers that hold integers. -/
def isIntRid (rid : ℕ) : Bool :=
  (7 ≤ rid && rid ≤ 10) || (13 ≤ rid && rid ≤ 16) || (35 ≤ rid && rid ≤ 36)

def decodeParam (rid : ℕ) (b4 b5 b6 b7 : UInt8) : Binary32.Value :=
  if isIntRid rid then .fin (uint8sToUint32 b4 b5 b6 b7) else uint8sToFloat b4 b5 b6 b7

namespace Motor

/-- `none` where the source returns a result that is not valid. -/
def parseMotorStateData (m : Motor) : List UInt8 → Option StateResult
  | d0 :: d1 :: d2 :: d3 :: d4 :: d5 :: d6 :: d7 :: _ =>
    let limits := MOTOR_LIMIT_PARAMS m.motorType
    let q_uint := d1.toNat <<< 8 ||| d2.toNat
    let dq_uint := d3.toNat <<< 4 ||| d4.toNat >>> 4
    let tau_uint := (d4.toNat &&& 0xF) <<< 8 ||| d5.toNat
    some
      { state := d0.toNat >>> 4 &&& 0xF
        position := uintToDouble q_uint (-limits.pMax) limits.pMax 16
        velocity := uintToDouble dq_uint (-limits.vMax) limits.vMax 12
        torque := uintToDouble tau_uint (-limits.tMax) limits.tMax 12
        t_mos := d6.toNat
        t_rotor := d7.toNat }
  | _ => none

/-- `none` where the source returns a result that is not valid. -/
def parseMotorParamData : List UInt8 → Option ParamResult
  | _ :: _ :: d2 :: d3 :: d4 :: d5 :: d6 :: d7 :: _ =>
    if d2 = 0x33 ∨ d2 = 0x55 then
      some { rid := d3.toNat, value := decodeParam d3.toNat d4 d5 d6 d7 }
    else none
  | _ => none

def setTempParam (m : Motor) (RID : ℕ) (val : ℤ) : Motor :=
  { m with paramDict := Function.update m.paramDict RID (some val) }

def updateState (m : Motor) (r : StateResult) (now : UInt64) : Motor :=
  { m with
    status := r.state
    stateQ := r.position
    stateDq := r.velocity
    stateTau := r.torque
    stateTmos := r.t_mos
    stateTrotor := r.t_rotor
    lastUpdateTime := now }

/-- `Motor::callback`. A parameter response is told by its third byte alone. -/
def callback (undef : Binary32.Value → ℤ) (m : Motor) (cache : MotorParamCache)
    (data : List UInt8) (now : UInt64) : Motor × MotorParamCache :=
  match parseMotorParamData data with
  | some p =>
    (m.setTempParam p.rid (p.value.toInt undef),
      if m.hasParamCache then cache.store (m.deviceId - 1) p.rid p.value else cache)
  | none =>
    match m.parseMotorStateData data with
    | some r => (m.updateState r now, cache)
    | none => (m, cache)

@[simp] lemma deviceId_callback (undef : Binary32.Value → ℤ) (m : Motor)
    (cache : MotorParamCache) (data : List UInt8) (now : UInt64) :
    (m.callback undef cache data now).1.deviceId = m.deviceId := by
  unfold callback
  cases parseMotorParamData data with
  | some p => rfl
  | none => cases m.parseMotorStateData data <;> simp [updateState]

end Motor

end Kuavo
