import Kuavo.MitFrame

/-!
The commands of a motor, as the simulator takes them.

A special command is told by its data bytes, a command on registers by the broadcast id and a
marker byte, and a control mode by an offset of the CAN id. Of the commands that the motor side
builds, one lacks its offset and one its value.
-/

namespace Kuavo.MotorCommands

open Kuavo.Lib Kuavo.Lib.Bits Kuavo.DamiaoSimulator Kuavo.MitFrame

/-- The command that the simulator has for a command of the motor side. It has none for saving
a register. -/
def matching : MotorCmd → Option CommandType
  | .clearMotorError => some .CLEAR_ERROR
  | .enableMotor => some .ENABLE
  | .disableMotor => some .DISABLE
  | .setZeroCommand => some .SAVE_ZERO
  | .setMitControl _ => some .MIT_CONTROL
  | .setPosvelControl _ => some .POSVEL_CONTROL
  | .getMotorStatus => some .REFRESH
  | .getRegParam _ => some .QUERY_PARAM
  | .writeRegParam _ _ => some .WRITE_PARAM
  | .saveRegParam _ => none

/-- What a command asks for, of the motor before and after it and of the frames sent back. -/
def Effect (undef : Binary32.Value → ℕ) (before after : MotorState) (replies : List CANFrame) :
    MotorCmd → Prop
  | .clearMotorError => after.status = .DISABLED
  | .enableMotor => after.status = .ENABLED
  | .disableMotor => after.status = .DISABLED
  | .setZeroCommand => after.position = 0 ∧ after.zeroSaved = true
  | .setMitControl _ => True
  | .setPosvelControl p =>
    after.targetPos = Binary32.ofBits (Binary32.toBits p.q) ∧
      after.targetVel = Binary32.ofBits (Binary32.toBits p.dq)
  | .getMotorStatus => after = before ∧ replies = [buildFeedbackFrame before]
  | .getRegParam RID => after = before ∧
      ∃ data : DataFrame, (data.b3.toNat : ℤ) = RID ∧ replies = [handleQueryParam undef before data]
  | .writeRegParam RID val => ∃ (rid : UInt8) (bits : ℕ), (rid.toNat : ℤ) = RID ∧
      after.parameters rid = some bits ∧ Binary32.ofBits bits = .fin val
  | .saveRegParam _ => True

/-- The frame of a command to motor `id`, with what the union happens to hold in `rest`. -/
def frame (t : MotorType) (id : ℕ) (c : MotorCmd) (rest : Fin 4 → UInt8) : CANFrame :=
  writtenFrame (HAL_InitializeCAN .Dm id) c.apiId (c.data t id rest)

/-- The simulator takes a frame for the command it was sent as, to the same motor, and does what
that asks for to this motor alone. -/
structure Executed (undef : Binary32.Value → ℕ) (motors : List MotorState) (id : ℕ)
    (c : MotorCmd) (msg : CANFrame) : Prop where
  type : matching c = some (identifyCommand motors msg CAN_FRAME_SIZE).type
  effect : ∃ before after replies,
    (identifyCommand motors msg CAN_FRAME_SIZE).motor = some before ∧ before.canId = id ∧
    after.canId = id ∧
    handleCommand undef motors msg CAN_FRAME_SIZE = (store motors after, replies) ∧
    Effect undef before after replies c

/-- The command is executed whatever else the union holds. -/
def Obeyed (undef : Binary32.Value → ℕ) (t : MotorType) (motors : List MotorState) (id : ℕ)
    (c : MotorCmd) : Prop :=
  ∀ rest, Executed undef motors id c (frame t id c rest)

/-- The commands that carry what they ask for. -/
def Carried : MotorCmd → Prop
  | .clearMotorError | .enableMotor | .disableMotor | .setZeroCommand | .getMotorStatus => True
  | .getRegParam RID => 0 ≤ RID ∧ RID < 256
  | .setMitControl _ | .setPosvelControl _ | .writeRegParam _ _ | .saveRegParam _ => False

/-! ### How the simulator sorts the frames -/

variable {motors : List MotorState} {id : ℕ}

/-- A special command goes to the motor of its own CAN id. -/
lemma identifyCommand_special (hid : id < 64) (h : ∃ m ∈ motors, m.canId = id) (code : UInt8) :
    ∃ m, m.canId = id ∧
      identifyCommand motors (writtenFrame (HAL_InitializeCAN .Dm id) 0 (special code))
        CAN_FRAME_SIZE = { type := specialType code, motor := some m, canId := id } := by
  obtain ⟨m, hm, hmid⟩ := findMotorByCanId_of_mem (by omega) h
  have hcan := extract_can_id_modify (show id < 2 ^ 32 by omega) (special code)
  have hs : isSpecial (special code) := by rw [isSpecial_iff]; rfl
  refine ⟨m, hmid, ?_⟩
  unfold identifyCommand writtenFrame
  rw [forwardCANId_own hid]
  simp only [lt_irrefl, if_false, CANFrame.modify_data, hs, if_true, hcan, hm]
  rfl

/-- A command under the broadcast id goes to the motor that its first two bytes name. -/
lemma identifyCommand_broadcast (hid : 1 ≤ id ∧ id ≤ 12) (h : ∃ m ∈ motors, m.canId = id)
    {apiId : ℕ} (hapi : apiId = 1 ∨ apiId = 2 ∨ apiId = 3 ∨ apiId = 4) {d : DataFrame}
    (h0 : d.b0 = byte id) (h1 : d.b1 = byte (id / 256)) :
    ∃ m, m.canId = id ∧
      identifyCommand motors (writtenFrame (HAL_InitializeCAN .Dm id) apiId d) CAN_FRAME_SIZE =
        { type := paramType d.b2, motor := some m, canId := 0x7FF } := by
  have hfwd : (CreateCANId (HAL_InitializeCAN .Dm id) apiId 0).forwardCANId = 0x7FF := by
    simp [CreateCANId, HAL_InitializeCAN, hapi]
  have hcan := extract_can_id_modify (show 0x7FF < 2 ^ 32 by norm_num) d
  have h0' : d.b0.toNat = id := by rw [h0, byte_toNat]; omega
  have h1' : d.b1.toNat = 0 := by rw [h1, byte_toNat]; omega
  have hs : isSpecial d = false := by
    have hne : d.b0 ≠ 0xFF := by
      intro he
      have : d.b0.toNat = 255 := by rw [he]; rfl
      omega
    simp [isSpecial, hne]
  have hword : d.b0.toNat ||| d.b1.toNat <<< 8 = id := by rw [h0', h1']; simp
  have hsome : (motors.find? fun x => x.canId = id).isSome := by
    rw [List.find?_isSome]
    obtain ⟨m, hm, hmid⟩ := h
    exact ⟨m, hm, by simpa using hmid⟩
  obtain ⟨m, hm⟩ := Option.isSome_iff_exists.mp hsome
  have hmid : m.canId = id := by simpa using List.find?_some hm
  refine ⟨m, hmid, ?_⟩
  unfold identifyCommand writtenFrame
  rw [hfwd]
  simp only [lt_irrefl, if_false, CANFrame.modify_data, hs, Bool.false_eq_true, hcan, if_true,
    findMotorByParamData, hword, hm]

/-- What `handleCommand` does to the motor it finds. -/
lemma handleCommand_of_identify (undef : Binary32.Value → ℕ) {msg : CANFrame} {m : MotorState}
    {type : CommandType} {canId : ℕ} (h : identifyCommand motors msg CAN_FRAME_SIZE =
      { type := type, motor := some m, canId := canId }) :
    handleCommand undef motors msg CAN_FRAME_SIZE =
      (store motors (execute undef m msg.data type).1, (execute undef m msg.data type).2) := by
  unfold handleCommand
  rw [h]

/-- A command is executed once it is sorted rightly and its handler has the effect. -/
lemma executed_of_identify {undef : Binary32.Value → ℕ} {c : MotorCmd} {msg : CANFrame}
    {m : MotorState} {type : CommandType} {canId : ℕ}
    (hident : identifyCommand motors msg CAN_FRAME_SIZE =
      { type := type, motor := some m, canId := canId })
    (hmid : m.canId = id) (hmatch : matching c = some type)
    (hkeep : (execute undef m msg.data type).1.canId = m.canId)
    (heff : Effect undef m (execute undef m msg.data type).1 (execute undef m msg.data type).2 c) :
    Executed undef motors id c msg := by
  refine ⟨?_, m, _, _, ?_, hmid, hkeep.trans hmid, handleCommand_of_identify undef hident, heff⟩
  · rw [hident, hmatch]
  · rw [hident]

/-! ### The commands one by one -/

variable (undef : Binary32.Value → ℕ) (t : MotorType)

/-- The four special commands share their frames but for the last byte. -/
lemma obeyed_special (hid : id < 64) (h : ∃ m ∈ motors, m.canId = id) {c : MotorCmd}
    (code : UInt8) (hapi : c.apiId = 0) (hdata : ∀ rest, c.data t id rest = special code)
    (hmatch : matching c = some (specialType code))
    (hkeep : ∀ m, (execute undef m (special code) (specialType code)).1.canId = m.canId)
    (heff : ∀ m, Effect undef m (execute undef m (special code) (specialType code)).1
      (execute undef m (special code) (specialType code)).2 c) :
    Obeyed undef t motors id c := by
  intro rest
  obtain ⟨m, hmid, hident⟩ := identifyCommand_special hid h code
  unfold frame
  rw [hapi, hdata]
  exact executed_of_identify hident hmid hmatch (hkeep m) (heff m)

lemma obeyed_getMotorStatus (hid : 1 ≤ id ∧ id ≤ 12) (h : ∃ m ∈ motors, m.canId = id) :
    Obeyed undef t motors id .getMotorStatus := by
  intro rest
  obtain ⟨m, hmid, hident⟩ := identifyCommand_broadcast hid h (Or.inl rfl)
    (d := MotorCmd.getMotorStatus.data t id rest) rfl rfl
  exact executed_of_identify hident hmid rfl rfl ⟨rfl, rfl⟩

/-- The register is cut to a byte. -/
lemma byte_register_iff (RID : ℤ) :
    ((byte (RID % 256).toNat).toNat : ℤ) = RID ↔ 0 ≤ RID ∧ RID < 256 := by
  rw [byte_toNat]
  omega

lemma obeyed_getRegParam_iff (hid : 1 ≤ id ∧ id ≤ 12) (h : ∃ m ∈ motors, m.canId = id) (RID : ℤ) :
    Obeyed undef t motors id (.getRegParam RID) ↔ 0 ≤ RID ∧ RID < 256 := by
  constructor
  · intro hob
    obtain ⟨-, before, after, replies, -, -, -, -, -, data, hdata, -⟩ := hob fun _ => 0
    have := data.b3.toNat_lt
    omega
  · intro hrid rest
    obtain ⟨m, hmid, hident⟩ := identifyCommand_broadcast hid h (Or.inr (Or.inl rfl))
      (d := (MotorCmd.getRegParam RID).data t id rest) rfl rfl
    exact executed_of_identify hident hmid rfl rfl
      ⟨rfl, _, (byte_register_iff RID).mpr hrid, rfl⟩

/-- The frame lacks the offset of its mode: it is a MIT command, or a special one. -/
lemma not_obeyed_setPosvelControl (hid : id < 64) (h : ∃ m ∈ motors, m.canId = id)
    (p : PosVelParam) : ¬ Obeyed undef t motors id (.setPosvelControl p) := by
  intro hob
  have htype := (hob fun _ => 0).type
  have hown := identifyCommand_own hid h ((MotorCmd.setPosvelControl p).data t id fun _ => 0)
  change some CommandType.POSVEL_CONTROL = some (identifyCommand motors
    (writtenFrame (HAL_InitializeCAN .Dm id) 0 _) CAN_FRAME_SIZE).type at htype
  rw [hown] at htype
  split_ifs at htype
  · exact specialType_ne_posvel _ (Option.some.inj htype).symm
  · exact absurd htype (by decide)

lemma store_inj (h : ∃ m ∈ motors, m.canId = id) {a b : MotorState} (ha : a.canId = id)
    (hb : b.canId = id) (heq : store motors a = store motors b) : a = b := by
  obtain ⟨m, hm, hmid⟩ := h
  have := List.map_inj_left.mp heq m hm
  rwa [if_pos (hmid.trans ha.symm), if_pos (hmid.trans hb.symm)] at this

/-- What the register holds after a write, for the word that came along. -/
def written (RID : ℤ) (word : ℕ) : ℕ :=
  if isIntRid (byte (RID % 256).toNat).toNat then Binary32.toBits word else word

/-- A write that is executed has found its value in bytes that it did not set. -/
lemma written_of_executed (hid : 1 ≤ id ∧ id ≤ 12) (h : ∃ m ∈ motors, m.canId = id) {RID val : ℤ}
    {rest : Fin 4 → UInt8}
    (hex : Executed undef motors id (.writeRegParam RID val)
      (frame t id (.writeRegParam RID val) rest)) :
    Binary32.ofBits (written RID (le32 (rest 0) (rest 1) (rest 2) (rest 3))) = .fin val := by
  obtain ⟨m, hmid, hident⟩ := identifyCommand_broadcast hid h (Or.inr (Or.inr (Or.inr rfl)))
    (d := (MotorCmd.writeRegParam RID val).data t id rest) rfl rfl
  have hhandle := handleCommand_of_identify undef hident
  obtain ⟨-, before, after, replies, -, -, hafter, hstore, rid, bits, hrid, hbits, hval⟩ := hex
  have hrange : 0 ≤ RID ∧ RID < 256 := by
    have := rid.toNat_lt
    omega
  have hreg : rid = byte (RID % 256).toNat := by
    refine UInt8.toNat_inj.mp ?_
    have := (byte_register_iff RID).mpr hrange
    omega
  have hkeep : (handleWriteParam m
      ((MotorCmd.writeRegParam RID val).data t id rest)).canId = id := hmid
  have hsame := store_inj h hafter hkeep (congrArg Prod.fst (hstore.symm.trans hhandle))
  have hparam : after.parameters rid =
      some (written RID (le32 (rest 0) (rest 1) (rest 2) (rest 3))) := by
    rw [hsame, hreg]
    exact Function.update_self _ _ _
  rw [hparam] at hbits
  rw [← hval, Option.some.inj hbits]

/-- Not both a zero word and the word one can be the value. -/
lemma not_obeyed_writeRegParam (hid : 1 ≤ id ∧ id ≤ 12) (h : ∃ m ∈ motors, m.canId = id)
    (RID val : ℤ) : ¬ Obeyed undef t motors id (.writeRegParam RID val) := by
  intro hob
  have hzero := written_of_executed undef t hid h (hob fun _ => 0)
  have hone := written_of_executed undef t hid h (hob fun i => if i = 0 then 1 else 0)
  rw [show le32 0 0 0 0 = 0 from rfl] at hzero
  rw [show le32 (if (0 : Fin 4) = 0 then 1 else 0) (if (1 : Fin 4) = 0 then 1 else 0)
    (if (2 : Fin 4) = 0 then 1 else 0) (if (3 : Fin 4) = 0 then 1 else 0) = 1 from rfl] at hone
  have hbits0 : written RID 0 = 0 := by
    unfold written
    split_ifs
    · decide +kernel
    · rfl
  have hbits1 : written RID 1 = 0x3F800000 ∨ written RID 1 = 1 := by
    unfold written
    split_ifs
    · exact Or.inl (by decide +kernel)
    · exact Or.inr rfl
  have hval0 : (val : ℚ) = 0 := by
    rw [hbits0] at hzero
    have he : Binary32.ofBits 0 = .fin 0 := by decide +kernel
    rw [he] at hzero
    exact (Binary32.Value.fin.inj hzero).symm
  rw [hval0] at hone
  rcases hbits1 with h1 | h1
  · rw [h1] at hone
    exact absurd hone (by decide +kernel)
  · rw [h1] at hone
    exact absurd hone (by decide +kernel)

/-- **Commands.** For a registered motor with an id of the robot, the simulator obeys exactly the
special commands, the request for the status, and the query of a register that fits a byte. -/
theorem obeyed_iff (undef : Binary32.Value → ℕ) (t : MotorType) (motors : List MotorState) (id : ℕ)
    (hid : 1 ≤ id ∧ id ≤ 12) (hreg : ∃ m ∈ motors, m.canId = id) (c : MotorCmd)
    (hc : c.isMit = false) :
    Obeyed undef t motors id c ↔ Carried c := by
  have hid' : id < 64 := by omega
  cases c with
  | clearMotorError =>
    exact iff_of_true (obeyed_special undef t hid' hreg 0xfb rfl (fun _ => rfl) rfl
      (fun _ => rfl) fun _ => rfl) trivial
  | enableMotor =>
    exact iff_of_true (obeyed_special undef t hid' hreg 0xfc rfl (fun _ => rfl) rfl
      (fun _ => rfl) fun _ => rfl) trivial
  | disableMotor =>
    exact iff_of_true (obeyed_special undef t hid' hreg 0xfd rfl (fun _ => rfl) rfl
      (fun _ => rfl) fun _ => rfl) trivial
  | setZeroCommand =>
    exact iff_of_true (obeyed_special undef t hid' hreg 0xfe rfl (fun _ => rfl) rfl
      (fun _ => rfl) fun _ => ⟨rfl, rfl⟩) trivial
  | setMitControl p => exact absurd hc (by simp [MotorCmd.isMit])
  | setPosvelControl p =>
    exact iff_of_false (not_obeyed_setPosvelControl undef t hid' hreg p) not_false
  | getMotorStatus => exact iff_of_true (obeyed_getMotorStatus undef t hid hreg) trivial
  | getRegParam RID => exact obeyed_getRegParam_iff undef t hid hreg RID
  | writeRegParam RID val =>
    exact iff_of_false (not_obeyed_writeRegParam undef t hid hreg RID val) not_false
  | saveRegParam RID =>
    exact iff_of_false (fun h => by simpa [matching] using (h fun _ => 0).type) not_false

theorem obeyed_enableMotor :
    Obeyed (fun _ => 0) .DM8009 [.ofId 1] 1 .enableMotor :=
  (obeyed_iff (fun _ => 0) .DM8009 [.ofId 1] 1 ⟨by decide, by decide⟩ ⟨.ofId 1, by simp, rfl⟩
    .enableMotor rfl).mpr trivial

/-- A position to go to is taken for a MIT command, and a write of 7 to register 21 stores
zero. -/
theorem setPosvelControl_taken_for_mit :
    ¬ Obeyed (fun _ => 0) .DM8009 [.ofId 1] 1 (.setPosvelControl ⟨1, 0⟩) ∧
    (identifyCommand [.ofId 1] (frame .DM8009 1 (.setPosvelControl ⟨1, 0⟩) fun _ => 0)
      CAN_FRAME_SIZE).type = .MIT_CONTROL ∧
    ¬ Obeyed (fun _ => 0) .DM8009 [.ofId 1] 1 (.writeRegParam 21 7) ∧
    (handleCommand (fun _ => 0) [.ofId 1] (frame .DM8009 1 (.writeRegParam 21 7) fun _ => 0)
      CAN_FRAME_SIZE).1.map (fun m => (m.parameters 21).map Binary32.ofBits)
      = [some (.fin 0)] := by
  have hreg : ∃ m ∈ [MotorState.ofId 1], m.canId = 1 := ⟨.ofId 1, by simp, rfl⟩
  refine ⟨?_, by decide +kernel, ?_, by decide +kernel⟩
  · exact not_obeyed_setPosvelControl _ _ (by decide) hreg _
  · exact not_obeyed_writeRegParam _ _ ⟨by decide, by decide⟩ hreg 21 7

end Kuavo.MotorCommands
