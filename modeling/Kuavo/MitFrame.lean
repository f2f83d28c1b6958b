import Kuavo.DamiaoSimulator

/-!
Which MIT commands a receiver takes for a special command.

The special frames start with seven bytes `0xff`, and nothing in the packing of a MIT
command keeps away from them. The five codes are packed in the order position, velocity,
the two gains, torque; so seven bytes `0xff` say that the first four codes are at the top
of their ranges and that the torque code is at least `0xf00`.
-/

namespace Kuavo.MitFrame

open Kuavo.Lib.Bits Kuavo.Utility Kuavo.DamiaoSimulator

/-! ### From bytes to codes -/

/-- The codes fit the widths they are packed in. -/
structure InRange (c : MITCodes) : Prop where
  q : c.q_uint < 65536
  dq : c.dq_uint < 4096
  kp : c.kp_uint < 4096
  kd : c.kd_uint < 4096
  tau : c.tau_uint < 4096

lemma mitCodes_inRange (t : MotorType) (p : MITParam) : InRange (mitCodes t p) := by
  have hp := (MOTOR_LIMIT_PARAMS t).pMax_pos
  have hv := (MOTOR_LIMIT_PARAMS t).vMax_pos
  have ht := (MOTOR_LIMIT_PARAMS t).tMax_pos
  refine ⟨?_, ?_, ?_, ?_, ?_⟩
  · exact doubleToUint_lt (by linarith) 16 (by norm_num) _
  · exact doubleToUint_lt (by linarith) 12 (by norm_num) _
  · exact doubleToUint_lt (by norm_num) 12 (by norm_num) _
  · exact doubleToUint_lt (by norm_num) 12 (by norm_num) _
  · exact doubleToUint_lt (by linarith) 12 (by norm_num) _

/-- The first four codes at the top of their ranges. -/
structure TopCodes (c : MITCodes) : Prop where
  q : c.q_uint = 65535
  dq : c.dq_uint = 4095
  kp : c.kp_uint = 4095
  kd : c.kd_uint = 4095

/-- **Seven bytes `0xff`** are four codes at the top and the upper nibble of the fifth. -/
theorem isSpecial_pack_iff {c : MITCodes} (h : InRange c) :
    isSpecial c.pack ↔ TopCodes c ∧ 3840 ≤ c.tau_uint := by
  obtain ⟨hq, hdq, hkp, hkd, htau⟩ := h
  have h3 : (c.dq_uint &&& 0xF) <<< 4 ||| (c.kp_uint / 256 &&& 0xF)
      = c.dq_uint % 16 * 16 + c.kp_uint / 256 % 16 := by
    rw [shiftLeft_4_or (by rw [and_0xF]; omega), and_0xF, and_0xF]
  have h6 : (c.kd_uint &&& 0xF) <<< 4 ||| (c.tau_uint / 256 &&& 0xF)
      = c.kd_uint % 16 * 16 + c.tau_uint / 256 % 16 := by
    rw [shiftLeft_4_or (by rw [and_0xF]; omega), and_0xF, and_0xF]
  simp only [isSpecial, MITCodes.pack, Bool.and_eq_true, beq_iff_eq, byte_eq_iff, h3, h6,
    and_0xFF, shiftRight_4, shiftRight_8]
  refine ⟨?_, ?_⟩
  · rintro ⟨⟨⟨⟨⟨⟨e0, e1⟩, e2⟩, e3⟩, e4⟩, e5⟩, e6⟩
    change _ = 255 at e0 e1 e2 e3 e4 e5 e6
    refine ⟨⟨?_, ?_, ?_, ?_⟩, ?_⟩ <;> omega
  · rintro ⟨⟨e0, e1, e2, e3⟩, e4⟩
    refine ⟨⟨⟨⟨⟨⟨?_, ?_⟩, ?_⟩, ?_⟩, ?_⟩, ?_⟩, ?_⟩ <;> change _ = 255 <;> omega

lemma isSpecial_iff (d : DataFrame) : isSpecial d ↔ d = special d.b7 := by
  cases d
  simp [isSpecial, special]
  tauto

lemma pack_b7 (c : MITCodes) : c.pack.b7 = byte c.tau_uint := by
  simp [MITCodes.pack, byte_eq_iff, and_0xFF]

/-- A packed command equals one special frame exactly at one torque code. -/
lemma pack_eq_special_iff {c : MITCodes} (h : InRange c) (code : UInt8) :
    c.pack = special code ↔ TopCodes c ∧ c.tau_uint = 3840 + code.toNat := by
  have htau := h.tau
  have hcode := code.toNat_lt
  constructor
  · intro he
    have hb7 : byte c.tau_uint = code := by rw [← pack_b7, he]; rfl
    have hs : isSpecial c.pack := by rw [he]; rfl
    obtain ⟨htop, hge⟩ := (isSpecial_pack_iff h).mp hs
    rw [byte_eq_iff] at hb7
    exact ⟨htop, by omega⟩
  · rintro ⟨htop, he⟩
    have hs : isSpecial c.pack := (isSpecial_pack_iff h).mpr ⟨htop, by omega⟩
    have hb7 : c.pack.b7 = code := by
      rw [pack_b7, byte_eq_iff]
      omega
    rw [isSpecial_iff] at hs
    rw [hs, hb7]

/-! ### From codes to quantities -/

/-- Position, velocity and gains at or above the ends of their ranges. -/
structure Saturated (t : MotorType) (p : MITParam) : Prop where
  q : (MOTOR_LIMIT_PARAMS t).pMax ≤ p.q
  dq : (MOTOR_LIMIT_PARAMS t).vMax ≤ p.dq
  kp : 500 ≤ p.kp
  kd : 5 ≤ p.kd

/-- The torque from which on the code is at least `k`. -/
def torqueOfCode (t : MotorType) (k : ℕ) : ℚ :=
  -(MOTOR_LIMIT_PARAMS t).tMax
    + ((MOTOR_LIMIT_PARAMS t).tMax - -(MOTOR_LIMIT_PARAMS t).tMax) * (k / 4095)

lemma torqueOfCode_top (t : MotorType) : torqueOfCode t 4095 = (MOTOR_LIMIT_PARAMS t).tMax := by
  rw [torqueOfCode]
  norm_num

lemma topCodes_iff (t : MotorType) (p : MITParam) : TopCodes (mitCodes t p) ↔ Saturated t p := by
  have hp := (MOTOR_LIMIT_PARAMS t).pMax_pos
  have hv := (MOTOR_LIMIT_PARAMS t).vMax_pos
  have hq : (mitCodes t p).q_uint = 65535 ↔ (MOTOR_LIMIT_PARAMS t).pMax ≤ p.q :=
    doubleToUint_eq_top_iff (by linarith) 16 65535 (by norm_num) (by norm_num) (by norm_num) _
  have hdq : (mitCodes t p).dq_uint = 4095 ↔ (MOTOR_LIMIT_PARAMS t).vMax ≤ p.dq :=
    doubleToUint_eq_top_iff (by linarith) 12 4095 (by norm_num) (by norm_num) (by norm_num) _
  have hkp : (mitCodes t p).kp_uint = 4095 ↔ 500 ≤ p.kp :=
    doubleToUint_eq_top_iff (by norm_num) 12 4095 (by norm_num) (by norm_num) (by norm_num) _
  have hkd : (mitCodes t p).kd_uint = 4095 ↔ 5 ≤ p.kd :=
    doubleToUint_eq_top_iff (by norm_num) 12 4095 (by norm_num) (by norm_num) (by norm_num) _
  exact ⟨fun h => ⟨hq.mp h.q, hdq.mp h.dq, hkp.mp h.kp, hkd.mp h.kd⟩,
    fun h => ⟨hq.mpr h.q, hdq.mpr h.dq, hkp.mpr h.kp, hkd.mpr h.kd⟩⟩

lemma le_tau_uint_iff (t : MotorType) (p : MITParam) {k : ℕ} (hk : 0 < k) (hkt : k ≤ 4095) :
    k ≤ (mitCodes t p).tau_uint ↔ torqueOfCode t k ≤ p.tau := by
  have ht := (MOTOR_LIMIT_PARAMS t).tMax_pos
  have hlt : -(MOTOR_LIMIT_PARAMS t).tMax < (MOTOR_LIMIT_PARAMS t).tMax := by linarith
  have h := le_doubleToUint_iff hlt 12 4095 k (by norm_num) (by norm_num) hk hkt p.tau
  exact_mod_cast h

/-! ### Special frames and classification -/

/-- The four special commands. -/
def specialFrames : List DataFrame :=
  [dataframe_clear_error, dataframe_enable_motor, dataframe_disable_motor,
    dataframe_set_zero_position]

lemma mem_specialFrames_iff (t : MotorType) (p : MITParam) :
    Motor.setMitControl t p ∈ specialFrames ↔
      Saturated t p ∧ torqueOfCode t 4091 ≤ p.tau ∧ p.tau < (MOTOR_LIMIT_PARAMS t).tMax := by
  have hr := mitCodes_inRange t p
  have hlt : p.tau < (MOTOR_LIMIT_PARAMS t).tMax ↔ ¬ 4095 ≤ (mitCodes t p).tau_uint := by
    rw [le_tau_uint_iff t p (by norm_num) le_rfl, torqueOfCode_top, not_le]
  rw [← le_tau_uint_iff t p (by norm_num) (by norm_num), hlt, ← topCodes_iff]
  have e := pack_eq_special_iff hr
  change (mitCodes t p).pack ∈ [special 0xfb, special 0xfc, special 0xfd, special 0xfe] ↔ _
  simp only [List.mem_cons, List.not_mem_nil, or_false, e]
  change (_ ∧ _ = 3840 + 251) ∨ (_ ∧ _ = 3840 + 252) ∨ (_ ∧ _ = 3840 + 253) ∨
    (_ ∧ _ = 3840 + 254) ↔ _
  constructor
  · rintro (⟨hs, h⟩ | ⟨hs, h⟩ | ⟨hs, h⟩ | ⟨hs, h⟩) <;> exact ⟨hs, by omega, by omega⟩
  · rintro ⟨hs, h1, h2⟩
    have : (mitCodes t p).tau_uint = 4091 ∨ (mitCodes t p).tau_uint = 4092 ∨
        (mitCodes t p).tau_uint = 4093 ∨ (mitCodes t p).tau_uint = 4094 := by omega
    tauto

lemma extract_can_id_modify {id : ℕ} (h : id < 2 ^ 32) (d : DataFrame) :
    extract_can_id (CANFrame.modify id d) = id := by
  change bswap32 (bswap32 id) = id
  exact bswap32_bswap32 h

/-- A registered motor is found under its own CAN id. -/
lemma findMotorByCanId_of_mem {motors : List MotorState} {id : ℕ} (hid : id < 65536)
    (h : ∃ m ∈ motors, m.canId = id) :
    ∃ m, findMotorByCanId motors id = some m ∧ m.canId = id := by
  obtain ⟨m, hm, rfl⟩ := h
  have hmod : m.canId % 2 ^ 16 = m.canId := Nat.mod_eq_of_lt hid
  have hsome : (motors.find? fun x => x.canId = m.canId).isSome := by
    rw [List.find?_isSome]
    exact ⟨m, hm, by simp⟩
  obtain ⟨x, hx⟩ := Option.isSome_iff_exists.mp hsome
  have hxid : x.canId = m.canId := by
    have := List.find?_some hx
    simpa using this
  exact ⟨x, by rw [findMotorByCanId, hmod, hx]; rfl, hxid⟩

lemma forwardCANId_own {id : ℕ} (hid : id < 64) :
    (CreateCANId (HAL_InitializeCAN .Dm id) 0 0).forwardCANId = id := by
  have h256 : id % 256 = id := Nat.mod_eq_of_lt (by omega)
  have h63 : id &&& 63 = id % 64 := Nat.and_two_pow_sub_one_eq_mod id 6
  simp [CreateCANId, HAL_InitializeCAN, h256, h63, Nat.mod_eq_of_lt hid]

/-- Under its own CAN id, a frame is a special command or a MIT command. -/
lemma identifyCommand_own {motors : List MotorState} {id : ℕ} (hid : id < 64)
    (h : ∃ m ∈ motors, m.canId = id) (d : DataFrame) :
    (identifyCommand motors (writtenFrame (HAL_InitializeCAN .Dm id) 0 d) CAN_FRAME_SIZE).type =
      if isSpecial d then specialType d.b7 else .MIT_CONTROL := by
  obtain ⟨m, hm, hmid⟩ := findMotorByCanId_of_mem (by omega) h
  have hcan := extract_can_id_modify (show id < 2 ^ 32 by omega) d
  have h7 : id ≠ 0x7FF := by omega
  unfold identifyCommand writtenFrame
  rw [forwardCANId_own hid]
  by_cases hs : isSpecial d
  · simp only [lt_irrefl, if_false, CANFrame.modify_data, hs, if_true, hcan, hm]
  · simp [hcan, hm, hs, h7, modeType, hmid]

lemma specialType_ne_mit (code : UInt8) : specialType code ≠ .MIT_CONTROL := by
  unfold specialType
  split_ifs <;> exact nofun

lemma specialType_ne_posvel (code : UInt8) : specialType code ≠ .POSVEL_CONTROL := by
  unfold specialType
  split_ifs <;> exact nofun

/-- A data frame written to a registered motor is a MIT command unless it starts with seven
bytes `0xff`. -/
lemma identifyCommand_written {motors : List MotorState} {id : ℕ} (hid : id < 64)
    (h : ∃ m ∈ motors, m.canId = id) (p : MITParam) (d : DataFrame) :
    (identifyCommand motors
      (writtenFrame (HAL_InitializeCAN .Dm id) (MotorCmd.setMitControl p).apiId d)
      CAN_FRAME_SIZE).type = .MIT_CONTROL ↔ ¬ isSpecial d := by
  rw [show (MotorCmd.setMitControl p).apiId = 0 from rfl, identifyCommand_own hid h d]
  by_cases hs : isSpecial d
  · rw [if_pos hs]
    exact iff_of_false (specialType_ne_mit d.b7) (not_not.mpr hs)
  · rw [if_neg hs]
    exact iff_of_true rfl hs

/-- **MIT commands and special frames.** A packed command is a special frame exactly when
position, velocity and gains saturate and the torque falls in the four codes under the
top; a receiver that looks for special commands first takes it for a MIT command exactly
when it is not the case that the four saturate and the torque code is at least `0xf00`. -/
theorem setMitControl_special (t : MotorType) (p : MITParam) (motors : List MotorState) (id : ℕ)
    (hid : id < 64) (hreg : ∃ m ∈ motors, m.canId = id) :
    (Motor.setMitControl t p ∈ specialFrames ↔
      Saturated t p ∧ torqueOfCode t 4091 ≤ p.tau ∧ p.tau < (MOTOR_LIMIT_PARAMS t).tMax) ∧
    ((identifyCommand motors
        (writtenFrame (HAL_InitializeCAN .Dm id) (MotorCmd.setMitControl p).apiId
          (Motor.setMitControl t p)) CAN_FRAME_SIZE).type = .MIT_CONTROL ↔
      ¬ (Saturated t p ∧ torqueOfCode t 3840 ≤ p.tau)) := by
  refine ⟨mem_specialFrames_iff t p, ?_⟩
  have hsp : isSpecial (Motor.setMitControl t p) ↔
      Saturated t p ∧ torqueOfCode t 3840 ≤ p.tau := by
    rw [← topCodes_iff, ← le_tau_uint_iff t p (by norm_num) (by norm_num)]
    exact isSpecial_pack_iff (mitCodes_inRange t p)
  rw [identifyCommand_written hid hreg, hsp]

theorem setMitControl_special_at_rest :
    (identifyCommand [.ofId 1]
      (writtenFrame (HAL_InitializeCAN .Dm 1) (MotorCmd.setMitControl ⟨0, 0, 0, 0, 0⟩).apiId
        (Motor.setMitControl .DM8009 ⟨0, 0, 0, 0, 0⟩)) CAN_FRAME_SIZE).type = .MIT_CONTROL := by
  refine (setMitControl_special .DM8009 ⟨0, 0, 0, 0, 0⟩ [.ofId 1] 1 (by norm_num)
    ⟨.ofId 1, by simp, rfl⟩).2.mpr ?_
  rintro ⟨hs, -⟩
  have := hs.kp
  norm_num at this

/-- With everything at its limit and a torque of 53.93 Nm, the frame is the one that enables
the motor, and the receiver enables it. -/
theorem setMitControl_enables :
    Motor.setMitControl .DM8009 ⟨500, 5, 25 / 2, 45, 5393 / 100⟩ = dataframe_enable_motor ∧
    (identifyCommand [.ofId 1]
      (writtenFrame (HAL_InitializeCAN .Dm 1)
        (MotorCmd.setMitControl ⟨500, 5, 25 / 2, 45, 5393 / 100⟩).apiId
        (Motor.setMitControl .DM8009 ⟨500, 5, 25 / 2, 45, 5393 / 100⟩))
      CAN_FRAME_SIZE).type = .ENABLE := by
  decide +kernel

end Kuavo.MitFrame
