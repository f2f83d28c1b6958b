import Kuavo.Lib.Runs
import Kuavo.MitFrame

/-!
The motors of `tools/DamiaoSimulator.cpp` under whatever datagrams reach them.

Each datagram is for one motor at most. Whatever it holds, that motor stays within its limits,
and it moves only while it is enabled.
-/

namespace Kuavo.DamiaoSimulator

open Kuavo.Lib Kuavo.Lib.Bits Kuavo.Lib.Runs

/-- What `recvfrom` left: the buffer, and how many bytes of it were received. -/
structure Datagram where
  msg : CANFrame
  len : ℕ

variable (undef : Binary32.Value → ℕ)

/-- One turn of the loop of `runMotorMode`, without the replies. -/
def serve (motors : List MotorState) (d : Datagram) : List MotorState :=
  (handleCommand undef motors d.msg d.len).1

/-- `motors_` before the first datagram. -/
def construct (motorIds : List ℕ) : List MotorState := motorIds.map .ofId

/-! ### One motor of several -/

/-- `motors_[canId]`. -/
def motor? (motors : List MotorState) (canId : ℕ) : Option MotorState :=
  motors.find? fun m => m.canId = canId

lemma canId_of_motor? {motors : List MotorState} {canId : ℕ} {m : MotorState}
    (h : motor? motors canId = some m) : m.canId = canId := by simpa using List.find?_some h

lemma mem_of_motor? {motors : List MotorState} {canId : ℕ} {m : MotorState}
    (h : motor? motors canId = some m) : m ∈ motors := List.mem_of_find?_eq_some h

/-- The motor that a search by its CAN id alone finds is the one filed under it. -/
lemma motor?_of_find? {motors : List MotorState} {p : ℕ → Bool} {m : MotorState}
    (h : (motors.find? fun x => p x.canId) = some m) : motor? motors m.canId = some m := by
  induction motors with
  | nil => simp at h
  | cons x motors ih =>
    rw [List.find?_cons] at h
    unfold motor?
    rw [List.find?_cons]
    cases hp : p x.canId with
    | true =>
      rw [hp] at h
      obtain rfl : x = m := by simpa using h
      simp
    | false =>
      rw [hp] at h
      have hne : x.canId ≠ m.canId := fun he => by
        have hm : p m.canId = true := by simpa using List.find?_some h
        rw [← he, hp] at hm
        exact absurd hm (by simp)
      have hrest := ih h
      unfold motor? at hrest
      simpa [hne] using hrest

lemma motor?_store (motors : List MotorState) (x : MotorState) (canId : ℕ) :
    motor? (store motors x) canId =
      if x.canId = canId then (motor? motors canId).map fun _ => x else motor? motors canId := by
  induction motors with
  | nil => simp [motor?, store]
  | cons m motors ih =>
    unfold motor? store at ih ⊢
    rw [List.map_cons, List.find?_cons, List.find?_cons, ih]
    by_cases hm : m.canId = x.canId
    · by_cases hx : x.canId = canId
      · simp [hm, hx]
      · simp [hm, hx]
    · by_cases hx : x.canId = canId
      · simp [hx, hx ▸ hm]
      · simp [hm, hx]

/-- A command is for a motor that is filed under its CAN id. -/
lemma motor?_of_identify {motors : List MotorState} {msg : CANFrame} {len : ℕ} {m : MotorState}
    (h : (identifyCommand motors msg len).motor = some m) : motor? motors m.canId = some m := by
  have hcan : ∀ canId, findMotorByCanId motors canId = some m → motor? motors m.canId = some m := by
    intro canId hf
    unfold findMotorByCanId at hf
    rcases Option.or_eq_some_iff.mp hf with hown | ⟨-, hmode⟩
    · exact motor?_of_find? (p := fun k => k = canId % 2 ^ 16) hown
    · exact motor?_of_find?
        (p := fun k => canId = k + 0x100 ∨ canId = k + 0x200 ∨ canId = k + 0x300) hmode
  unfold identifyCommand at h
  by_cases hlen : len < CAN_FRAME_SIZE
  · simp [hlen] at h
  · by_cases hspecial : isSpecial msg.data
    · cases hf : findMotorByCanId motors (extract_can_id msg) with
      | none => simp [hlen, hspecial, hf] at h
      | some x =>
        obtain rfl : x = m := by simpa [hlen, hspecial, hf] using h
        exact hcan _ hf
    · by_cases hparam : extract_can_id msg = 0x7FF
      · cases hf : findMotorByParamData motors msg.data with
        | none => simp [hlen, hspecial, hparam, hf] at h
        | some x =>
          obtain rfl : x = m := by simpa [hlen, hspecial, hparam, hf] using h
          exact motor?_of_find?
            (p := fun k => k = (msg.data.b0.toNat ||| msg.data.b1.toNat <<< 8)) hf
      · cases hf : findMotorByCanId motors (extract_can_id msg) with
        | none => simp [hlen, hspecial, hparam, hf] at h
        | some x =>
          obtain rfl : x = m := by simpa [hlen, hspecial, hparam, hf] using h
          exact hcan _ hf

/-! ### What a datagram does -/

/-- **What a datagram can do.** It is for no motor, or one motor executes it. -/
lemma handleCommand_cases (motors : List MotorState) (msg : CANFrame) (len : ℕ) :
    handleCommand undef motors msg len = (motors, []) ∨
      ∃ m, motor? motors m.canId = some m ∧ (identifyCommand motors msg len).motor = some m ∧
        handleCommand undef motors msg len =
          (store motors (execute undef m msg.data (identifyCommand motors msg len).type).1,
            (execute undef m msg.data (identifyCommand motors msg len).type).2) := by
  unfold handleCommand
  cases hm : (identifyCommand motors msg len).motor with
  | none => exact Or.inl (by simp [hm])
  | some m => exact Or.inr ⟨m, motor?_of_identify hm, rfl, by simp [hm]⟩

@[simp] lemma canId_updatePhysics (m : MotorState) : (updatePhysics m).canId = m.canId := rfl

/-- A handler keeps the motor's ids. -/
lemma canId_execute (m : MotorState) (data : DataFrame) (type : CommandType) :
    (execute undef m data type).1.canId = m.canId := by
  cases type with
  | MIT_CONTROL =>
    change (handleMitControl m data).canId = _
    unfold handleMitControl
    split_ifs <;> rfl
  | POSVEL_CONTROL =>
    change (handlePosVelControl m data).canId = _
    unfold handlePosVelControl
    split_ifs <;> rfl
  | VELOCITY_CONTROL =>
    change (handleVelocityControl m data).canId = _
    unfold handleVelocityControl
    split_ifs <;> rfl
  | POSFORCE_CONTROL =>
    change (handlePosForceControl m data).canId = _
    unfold handlePosForceControl
    split_ifs <;> rfl
  | ENABLE | DISABLE | SAVE_ZERO | CLEAR_ERROR => rfl
  | QUERY_PARAM | WRITE_PARAM | REFRESH | UNKNOWN => rfl

/-- What a datagram makes of the motor under one id: nothing, or what executing it makes. -/
lemma motor?_serve (motors : List MotorState) (d : Datagram) (canId : ℕ) :
    motor? (serve undef motors d) canId = motor? motors canId ∨
      ∃ m, motor? motors canId = some m ∧ (identifyCommand motors d.msg d.len).motor = some m ∧
        motor? (serve undef motors d) canId =
          some (execute undef m d.msg.data (identifyCommand motors d.msg d.len).type).1 := by
  unfold serve
  rcases handleCommand_cases undef motors d.msg d.len with hnone | ⟨m, hm, hident, hone⟩
  · exact Or.inl (by rw [hnone])
  · rw [hone, motor?_store, canId_execute]
    by_cases hid : m.canId = canId
    · subst hid
      exact Or.inr ⟨m, hm, hident, by simp [hm]⟩
    · exact Or.inl (if_neg hid)

/-- What every execution keeps of a motor, every datagram keeps of the motor under one id. -/
theorem motor?_run {P : MotorState → Prop}
    (hexec : ∀ m data type, P m → P (execute undef m data type).1) {motors : List MotorState}
    {canId : ℕ} (h : ∀ m, motor? motors canId = some m → P m) (l : List Datagram) :
    ∀ m, motor? (run (serve undef) motors l) canId = some m → P m := by
  refine run_invariant (I := fun motors => ∀ m, motor? motors canId = some m → P m) ?_ h l
  intro motors d hmotors m' hm'
  rcases motor?_serve undef motors d canId with hsame | ⟨m, hm, -, hexec'⟩
  · exact hmotors m' (hsame ▸ hm')
  · obtain rfl := Option.some.inj (hexec'.symm.trans hm')
    exact hexec m _ _ (hmotors m hm)

/-! ### Limits -/

/-- A motor that has only ever executed commands. -/
structure Sound (m : MotorState) : Prop where
  limits : m.limits = DEFAULT_LIMITS
  masterId : m.masterId = (m.canId + 0x10) % 2 ^ 16
  status : m.status = .DISABLED ∨ m.status = .ENABLED
  position : |m.position| ≤ m.limits.pMax
  velocity : |m.velocity| ≤ m.limits.vMax
  torque : |m.torque| ≤ m.limits.tMax
  mosFetTemp : m.mosFetTemp = 35 + ⌊|m.torque| * 2⌋
  rotorTemp : m.rotorTemp = 40 + ⌊|m.torque| * (3 / 2)⌋

/-- Small ids are not cut. -/
lemma Sound.masterId_eq {m : MotorState} (h : Sound m) (hid : m.canId ≤ 12) :
    m.masterId = m.canId + 0x10 := by
  rw [h.masterId]
  omega

lemma sound_ofId (id : ℕ) : Sound (.ofId id) := by
  refine ⟨rfl, rfl, Or.inl rfl, ?_, ?_, ?_, ?_, ?_⟩ <;>
    norm_num [MotorState.ofId, MotorState.initDefaults, DEFAULT_LIMITS]

lemma abs_approach_le {limit : ℚ} (h : 0 < limit) (x : ℚ) (target : Binary32.Value) :
    |approach limit x target| ≤ limit := by
  rw [abs_le]
  cases target with
  | fin t =>
    unfold approach
    exact ⟨le_max_left _ _, max_le (by linarith) (min_le_right _ _)⟩
  | inf negative =>
    cases negative with
    | true => exact ⟨le_rfl, by simp only [approach, if_true]; linarith⟩
    | false => exact ⟨by simp only [approach, Bool.false_eq_true, if_false]; linarith, le_rfl⟩
  | nan => exact ⟨le_rfl, by simp only [approach]; linarith⟩

lemma sound_updatePhysics {m : MotorState} (hlimits : m.limits = DEFAULT_LIMITS)
    (hmaster : m.masterId = (m.canId + 0x10) % 2 ^ 16)
    (hstatus : m.status = .DISABLED ∨ m.status = .ENABLED) :
    Sound (updatePhysics m) where
  limits := hlimits
  masterId := hmaster
  status := hstatus
  position := abs_approach_le m.limits.pMax_pos _ _
  velocity := abs_approach_le m.limits.vMax_pos _ _
  torque := abs_approach_le m.limits.tMax_pos _ _
  mosFetTemp := rfl
  rotorTemp := rfl

/-- A control command is refused, or new targets are followed for one step. -/
lemma control_cases (m : MotorState) (data : DataFrame) {type : CommandType}
    (h : type = .MIT_CONTROL ∨ type = .POSVEL_CONTROL ∨ type = .VELOCITY_CONTROL ∨
      type = .POSFORCE_CONTROL) :
    (m.status ≠ .ENABLED ∧ (execute undef m data type).1 = m) ∨
      (m.status = .ENABLED ∧ ∃ targetPos targetVel targetTorque kp kd,
        (execute undef m data type).1 = updatePhysics { m with
          targetPos := targetPos, targetVel := targetVel, targetTorque := targetTorque, kp := kp,
          kd := kd }) := by
  by_cases hs : m.status = .ENABLED
  · refine Or.inr ⟨hs, ?_⟩
    rcases h with rfl | rfl | rfl | rfl <;>
      simp only [execute, withFeedback, handleMitControl, handlePosVelControl,
        handleVelocityControl, handlePosForceControl, hs, ne_eq, not_true_eq_false, if_false] <;>
      exact ⟨_, _, _, _, _, rfl⟩
  · refine Or.inl ⟨hs, ?_⟩
    rcases h with rfl | rfl | rfl | rfl <;>
      simp [execute, withFeedback, handleMitControl, handlePosVelControl, handleVelocityControl,
        handlePosForceControl, hs]

lemma sound_execute {m : MotorState} (h : Sound m) (data : DataFrame) (type : CommandType) :
    Sound (execute undef m data type).1 := by
  obtain ⟨hlim, hmas, hst, hpos, hvel, htor, hmos, hrot⟩ := h
  have hcontrol : ∀ {type : CommandType}, type = .MIT_CONTROL ∨ type = .POSVEL_CONTROL ∨
      type = .VELOCITY_CONTROL ∨ type = .POSFORCE_CONTROL →
        Sound (execute undef m data type).1 := by
    intro type htype
    rcases control_cases undef m data htype with ⟨-, hsame⟩ | ⟨-, _, _, _, _, _, hmoved⟩
    · rw [hsame]
      exact ⟨hlim, hmas, hst, hpos, hvel, htor, hmos, hrot⟩
    · rw [hmoved]
      exact sound_updatePhysics hlim hmas hst
  cases type with
  | ENABLE => exact ⟨hlim, hmas, Or.inr rfl, hpos, hvel, htor, hmos, hrot⟩
  | DISABLE => exact ⟨hlim, hmas, Or.inl rfl, hpos, hvel, htor, hmos, hrot⟩
  | SAVE_ZERO =>
    refine ⟨hlim, hmas, hst, ?_, hvel, htor, hmos, hrot⟩
    simpa [execute, withFeedback] using m.limits.pMax_pos.le
  | CLEAR_ERROR => exact ⟨hlim, hmas, Or.inl rfl, hpos, hvel, htor, hmos, hrot⟩
  | MIT_CONTROL => exact hcontrol (Or.inl rfl)
  | POSVEL_CONTROL => exact hcontrol (Or.inr (Or.inl rfl))
  | VELOCITY_CONTROL => exact hcontrol (Or.inr (Or.inr (Or.inl rfl)))
  | POSFORCE_CONTROL => exact hcontrol (Or.inr (Or.inr (Or.inr rfl)))
  | QUERY_PARAM | WRITE_PARAM => exact ⟨hlim, hmas, hst, hpos, hvel, htor, hmos, hrot⟩
  | REFRESH | UNKNOWN => exact ⟨hlim, hmas, hst, hpos, hvel, htor, hmos, hrot⟩

lemma sound_construct {motorIds : List ℕ} {canId : ℕ} {m : MotorState}
    (h : motor? (construct motorIds) canId = some m) : Sound m := by
  obtain ⟨id, -, rfl⟩ := List.mem_map.mp (mem_of_motor? h)
  exact sound_ofId id

/-- **Limits.** Whatever reaches the simulator, its motors are sound. -/
theorem sound_run (motorIds : List ℕ) (l : List Datagram) (canId : ℕ) (m : MotorState)
    (h : motor? (run (serve undef) (construct motorIds) l) canId = some m) : Sound m :=
  motor?_run undef (fun _ data type hm => sound_execute undef hm data type)
    (fun _ hm => sound_construct hm) l m h

/-- Feedback carries the temperatures of a sound motor as they are. -/
lemma Sound.tempByte {m : MotorState} (h : Sound m) :
    ((tempByte m.mosFetTemp).toNat : ℤ) = m.mosFetTemp ∧
      ((tempByte m.rotorTemp).toNat : ℤ) = m.rotorTemp := by
  have htor : |m.torque| ≤ 18 := by
    have hle := h.torque
    rw [h.limits] at hle
    exact hle
  have hfloor : ∀ c : ℚ, 0 ≤ c → c ≤ 2 → 0 ≤ ⌊|m.torque| * c⌋ ∧ ⌊|m.torque| * c⌋ ≤ 36 := by
    intro c hc hc2
    have h0 := abs_nonneg m.torque
    refine ⟨Int.floor_nonneg.mpr (mul_nonneg h0 hc), ?_⟩
    have hlt : ⌊|m.torque| * c⌋ < 37 := by
      rw [Int.floor_lt]
      push_cast
      nlinarith
    omega
  have hbyte : ∀ t : ℤ, 0 ≤ t → t ≤ 255 → ((DamiaoSimulator.tempByte t).toNat : ℤ) = t := by
    intro t h0 h255
    unfold DamiaoSimulator.tempByte
    rw [min_eq_right h255, max_eq_right h0, byte_toNat]
    omega
  obtain ⟨hm0, hm36⟩ := hfloor 2 (by norm_num) (by norm_num)
  obtain ⟨hr0, hr36⟩ := hfloor (3 / 2) (by norm_num) (by norm_num)
  exact ⟨hbyte _ (by rw [h.mosFetTemp]; omega) (by rw [h.mosFetTemp]; omega),
    hbyte _ (by rw [h.rotorTemp]; omega) (by rw [h.rotorTemp]; omega)⟩

/-! ### Motion -/

/-- A datagram that enables the motor under an id. -/
def Arms (motors : List MotorState) (canId : ℕ) (d : Datagram) : Prop :=
  (identifyCommand motors d.msg d.len).type = .ENABLE ∧
    (identifyCommand motors d.msg d.len).motor.map MotorState.canId = some canId

/-- From `m` to `m'` a motor that is not enabled has not moved, except that its position may
have been declared zero. -/
structure Still (m m' : MotorState) : Prop where
  status : m'.status ≠ .ENABLED
  position : m'.position = m.position ∨ m'.position = 0
  velocity : m'.velocity = m.velocity
  torque : m'.torque = m.torque

lemma still_execute {m m' : MotorState} (h : Still m m') (data : DataFrame) {type : CommandType}
    (htype : type ≠ .ENABLE) : Still m (execute undef m' data type).1 := by
  obtain ⟨hst, hpos, hvel, htor⟩ := h
  have hcontrol : ∀ {type : CommandType}, type = .MIT_CONTROL ∨ type = .POSVEL_CONTROL ∨
      type = .VELOCITY_CONTROL ∨ type = .POSFORCE_CONTROL →
      Still m (execute undef m' data type).1 := by
    intro type htype
    rcases control_cases undef m' data htype with ⟨-, hsame⟩ | ⟨hen, -⟩
    · rw [hsame]
      exact ⟨hst, hpos, hvel, htor⟩
    · exact absurd hen hst
  cases type with
  | ENABLE => exact absurd rfl htype
  | DISABLE => exact ⟨by simp [execute, withFeedback], hpos, hvel, htor⟩
  | SAVE_ZERO => exact ⟨hst, Or.inr rfl, hvel, htor⟩
  | CLEAR_ERROR => exact ⟨by simp [execute, withFeedback], hpos, hvel, htor⟩
  | MIT_CONTROL => exact hcontrol (Or.inl rfl)
  | POSVEL_CONTROL => exact hcontrol (Or.inr (Or.inl rfl))
  | VELOCITY_CONTROL => exact hcontrol (Or.inr (Or.inr (Or.inl rfl)))
  | POSFORCE_CONTROL => exact hcontrol (Or.inr (Or.inr (Or.inr rfl)))
  | QUERY_PARAM | WRITE_PARAM => exact ⟨hst, hpos, hvel, htor⟩
  | REFRESH | UNKNOWN => exact ⟨hst, hpos, hvel, htor⟩

/-- **A motor that is not enabled stays still**, whatever datagrams reach the simulator, until
one of them enables it. -/
theorem still_run {motors : List MotorState} {canId : ℕ} {m : MotorState}
    (hm : motor? motors canId = some m) (hst : m.status ≠ .ENABLED) {l : List Datagram}
    (hl : Each (serve undef) (fun motors d => ¬ Arms motors canId d) motors l) :
    ∃ m', motor? (run (serve undef) motors l) canId = some m' ∧ Still m m' := by
  refine hl.invariant (I := fun motors => ∃ m', motor? motors canId = some m' ∧ Still m m') ?_
    ⟨m, hm, hst, Or.inl rfl, rfl, rfl⟩
  rintro motors d ⟨m', hm', hstill⟩ harms
  rcases motor?_serve undef motors d canId with hsame | ⟨x, hx, hident, hexec⟩
  · exact ⟨m', hsame.trans hm', hstill⟩
  · obtain rfl := Option.some.inj (hx.symm.trans hm')
    refine ⟨_, hexec, still_execute undef hstill _ fun htype => harms ⟨htype, ?_⟩⟩
    rw [hident, Option.map_some, canId_of_motor? hm']

/-- **Limits and power.** Whatever datagrams have reached the simulator, a motor of it is within
its limits and reports its true temperatures; and while it is not enabled, no further datagrams
move it unless one of them enables it. -/
theorem motors_kept (motorIds : List ℕ) (before later : List Datagram) (canId : ℕ) (m : MotorState)
    (hm : motor? (run (serve undef) (construct motorIds) before) canId = some m) :
    (Sound m ∧ ((tempByte m.mosFetTemp).toNat : ℤ) = m.mosFetTemp ∧
      ((tempByte m.rotorTemp).toNat : ℤ) = m.rotorTemp) ∧
      (m.status ≠ .ENABLED →
        Each (serve undef) (fun motors d => ¬ Arms motors canId d)
          (run (serve undef) (construct motorIds) before) later →
        ∃ m', motor? (run (serve undef) (construct motorIds) (before ++ later)) canId = some m' ∧
          Still m m') := by
  have hsound := sound_run undef motorIds before canId m hm
  refine ⟨⟨hsound, hsound.tempByte⟩, fun hst hlater => ?_⟩
  rw [run_append]
  exact still_run undef hm hst hlater

/-- A MIT command to motor 1. -/
def mitDatagram : Datagram :=
  ⟨.modify 1 ⟨0x8f, 0x5c, 0x80, 0x08, 0x00, 0x33, 0x38, 0xe4⟩, CAN_FRAME_SIZE⟩

/-- Motor 1 does not follow a MIT command before it is enabled. -/
theorem motors_kept_one :
    (identifyCommand (construct [1]) mitDatagram.msg mitDatagram.len).type = .MIT_CONTROL ∧
      ∃ m m', motor? (construct [1]) 1 = some m ∧
        motor? (run (serve fun _ => 0) (construct [1]) ([] ++ [mitDatagram])) 1 = some m' ∧
        Still m m' := by
  have hmit : (identifyCommand (construct [1]) mitDatagram.msg mitDatagram.len).type =
      .MIT_CONTROL := by decide
  have hnone : Each (serve fun _ => 0) (fun motors d => ¬ Arms motors 1 d) (construct [1])
      [mitDatagram] := by
    refine ⟨fun h => absurd h.1 ?_, trivial⟩
    rw [hmit]
    decide
  obtain ⟨-, hstill⟩ := motors_kept (fun _ => 0) [1] [] [mitDatagram] 1 (.ofId 1) rfl
  obtain ⟨m', hm', h⟩ := hstill (by decide) hnone
  exact ⟨hmit, .ofId 1, m', rfl, hm', h⟩

end Kuavo.DamiaoSimulator
