import Kuavo.Lib.Approach
import Kuavo.PowerDelivered
import Kuavo.Scaling

/-!
From the set-points of a controller to the joints.

What a leg sends goes out as codes in eight bytes and is read back by the simulator. In the units
of the robot this comes to a small machine, one for each motor: a command sets targets, and the
motor goes a tenth of the way. The simulator refines it, and through the leg's dispatch loop each
joint of a command reaches the motor it is meant for.
-/

namespace Kuavo.SetPoints

open Kuavo.Lib Kuavo.Lib.Approach Kuavo.Lib.LastSent Kuavo.Lib.Runs Kuavo.Utility
open Kuavo.DamiaoSimulator Kuavo.MitFrame Kuavo.MotorCommands Kuavo.PowerDelivered
open Kuavo.MercuryShm

/-! ### One motor, in the units of the robot -/

/-- A motor as its commands see it. -/
structure Drive where
  on : Bool := false
  targetPos : ℚ := 0
  targetVel : ℚ := 0
  targetTorque : ℚ := 0
  kp : ℚ := 0
  kd : ℚ := 0
  position : ℚ := 0
  velocity : ℚ := 0
  torque : ℚ := 0

namespace Drive

/-- A tenth of the way to the targets. -/
def move (d : Drive) : Drive :=
  { d with
    position := toward (1 / 10) d.position d.targetPos
    velocity := toward (1 / 10) d.velocity d.targetVel
    torque := toward (1 / 10) d.torque d.targetTorque }

/-- The targets of a command, cut down to codes. The torque is packed in 54 Nm and read in
18 Nm. -/
def aim (d : Drive) (p : MITParam) : Drive :=
  { d with
    targetPos := uintToDouble (doubleToUint p.q (-(25 / 2)) (25 / 2) 16) (-(25 / 2)) (25 / 2) 16
    targetVel := uintToDouble (doubleToUint p.dq (-45) 45 12) (-45) 45 12
    targetTorque := uintToDouble (doubleToUint p.tau (-54) 54 12) (-18) 18 12
    kp := uintToDouble (doubleToUint p.kp 0 500 12) 0 500 12
    kd := uintToDouble (doubleToUint p.kd 0 5 12) 0 5 12 }

def step (d : Drive) : MotorCmd → Drive
  | .enableMotor => { d with on := true }
  | .disableMotor => { d with on := false, targetPos := 0, targetVel := 0, targetTorque := 0 }
  | .setZeroCommand => { d with position := 0 }
  | .setMitControl p => if d.on then (d.aim p).move else d
  | .clearMotorError => { d with on := false }
  | .setPosvelControl _ | .getMotorStatus | .getRegParam _ | .writeRegParam _ _
  | .saveRegParam _ => d

end Drive

/-- The motor of the simulator is where the drive is. -/
structure Follows (m : MotorState) (d : Drive) : Prop where
  limits : m.limits = DEFAULT_LIMITS
  status : m.status = if d.on then .ENABLED else .DISABLED
  targetPos : m.targetPos = .fin d.targetPos
  targetVel : m.targetVel = .fin d.targetVel
  targetTorque : m.targetTorque = d.targetTorque
  kp : m.kp = d.kp
  kd : m.kd = d.kd
  position : m.position = d.position
  velocity : m.velocity = d.velocity
  torque : m.torque = d.torque

/-- Quantities and targets keep to the range of the motor. -/
structure Bounded (d : Drive) : Prop where
  targetPos : |d.targetPos| ≤ 25 / 2
  targetVel : |d.targetVel| ≤ 45
  targetTorque : |d.targetTorque| ≤ 18
  position : |d.position| ≤ 25 / 2
  velocity : |d.velocity| ≤ 45
  torque : |d.torque| ≤ 18

lemma bounded_zero : Bounded {} := by
  constructor <;> norm_num

lemma abs_uintToDouble_le {c bits : ℕ} {b : ℚ} (h : 0 < b) (hc : c < 2 ^ bits) :
    |uintToDouble c (-b) b bits| ≤ b := by
  have hle : c ≤ 1 <<< bits - 1 := by
    rw [Nat.shiftLeft_eq, one_mul]
    omega
  exact abs_le.mpr (Quantize.decode_mem (by linarith) hle)

lemma Bounded.aim {d : Drive} (h : Bounded d) (p : MITParam) : Bounded (d.aim p) where
  targetPos := abs_uintToDouble_le (by norm_num)
    (doubleToUint_lt (by norm_num) 16 (by norm_num) p.q)
  targetVel := abs_uintToDouble_le (by norm_num)
    (doubleToUint_lt (by norm_num) 12 (by norm_num) p.dq)
  targetTorque := abs_uintToDouble_le (by norm_num)
    (doubleToUint_lt (by norm_num) 12 (by norm_num) p.tau)
  position := h.position
  velocity := h.velocity
  torque := h.torque

lemma Bounded.move {d : Drive} (h : Bounded d) : Bounded d.move where
  targetPos := h.targetPos
  targetVel := h.targetVel
  targetTorque := h.targetTorque
  position := abs_toward_le (by norm_num) (by norm_num) h.position h.targetPos
  velocity := abs_toward_le (by norm_num) (by norm_num) h.velocity h.targetVel
  torque := abs_toward_le (by norm_num) (by norm_num) h.torque h.targetTorque

lemma Bounded.step {d : Drive} (h : Bounded d) (cmd : MotorCmd) : Bounded (d.step cmd) := by
  obtain ⟨h1, h2, h3, h4, h5, h6⟩ := h
  cases cmd with
  | setMitControl p =>
    simp only [Drive.step]
    split_ifs
    · exact (Bounded.aim ⟨h1, h2, h3, h4, h5, h6⟩ p).move
    · exact ⟨h1, h2, h3, h4, h5, h6⟩
  | disableMotor =>
    exact ⟨by norm_num [Drive.step], by norm_num [Drive.step], by norm_num [Drive.step], h4, h5, h6⟩
  | setZeroCommand => exact ⟨h1, h2, h3, by norm_num [Drive.step], h5, h6⟩
  | enableMotor | clearMotorError | setPosvelControl _ | getMotorStatus | getRegParam _
  | writeRegParam _ _ | saveRegParam _ => exact ⟨h1, h2, h3, h4, h5, h6⟩

/-! ### The simulator follows -/

lemma approach_eq {limit x t : ℚ} (hx : |x| ≤ limit) (ht : |t| ≤ limit) :
    approach limit x (.fin t) = toward (1 / 10) x t :=
  clamp_toward (by norm_num) (by norm_num) hx ht

lemma Follows.move {m : MotorState} {d : Drive} (h : Follows m d) (hd : Bounded d) :
    Follows (updatePhysics m) d.move := by
  obtain ⟨hl, hs, h1, h2, h3, h4, h5, h6, h7, h8⟩ := h
  refine ⟨hl, hs, h1, h2, h3, h4, h5, ?_, ?_, ?_⟩
  · simp only [updatePhysics, hl, h1, h6]
    exact approach_eq hd.position hd.targetPos
  · simp only [updatePhysics, hl, h2, h7]
    exact approach_eq hd.velocity hd.targetVel
  · simp only [updatePhysics, hl, h3, h8]
    exact approach_eq hd.torque hd.targetTorque

variable (undef : Binary32.Value → ℕ)

/-- A command makes of the motor what it makes of the drive. -/
lemma Follows.execute {m : MotorState} {d : Drive} (h : Follows m d) (hd : Bounded d)
    {cmd : MotorCmd} {type : CommandType} (hplain : Plain .DM8009 cmd)
    (htype : matching cmd = some type) (id : ℕ) (rest : Fin 4 → UInt8) :
    Follows (execute undef m (cmd.data .DM8009 id rest) type).1 (d.step cmd) := by
  obtain ⟨hl, hs, h1, h2, h3, h4, h5, h6, h7, h8⟩ := h
  cases cmd with
  | enableMotor =>
    obtain rfl := Option.some.inj htype
    exact ⟨hl, rfl, h1, h2, h3, h4, h5, h6, h7, h8⟩
  | disableMotor =>
    obtain rfl := Option.some.inj htype
    exact ⟨hl, rfl, rfl, rfl, rfl, h4, h5, h6, h7, h8⟩
  | setZeroCommand =>
    obtain rfl := Option.some.inj htype
    exact ⟨hl, hs, h1, h2, h3, h4, h5, rfl, h7, h8⟩
  | getMotorStatus | getRegParam _ =>
    obtain rfl := Option.some.inj htype
    exact ⟨hl, hs, h1, h2, h3, h4, h5, h6, h7, h8⟩
  | setMitControl p =>
    obtain rfl := Option.some.inj htype
    change Follows (handleMitControl m (mitCodes .DM8009 p).pack) _
    by_cases hon : d.on
    · have hen : m.status = .ENABLED := by simp [hs, hon]
      rw [Scaling.handleMitControl_pack hen (mitCodes_inRange .DM8009 p)]
      have haim : d.step (.setMitControl p) = (d.aim p).move := by simp [Drive.step, hon]
      rw [haim]
      refine Follows.move ?_ (hd.aim p)
      rw [hl]
      exact ⟨rfl, hs, rfl, rfl, rfl, rfl, rfl, h6, h7, h8⟩
    · have hen : m.status ≠ .ENABLED := by simp [hs, hon]
      have hsame : d.step (.setMitControl p) = d := by simp [Drive.step, hon]
      rw [handleMitControl, if_pos hen, hsame]
      exact ⟨hl, hs, h1, h2, h3, h4, h5, h6, h7, h8⟩
  | clearMotorError | setPosvelControl _ | writeRegParam _ _ | saveRegParam _ =>
    exact hplain.elim

/-- The commands for one motor. -/
def commandsFor (k : ℕ) (sent : Frames) : List MotorCmd :=
  sent.filterMap fun e => if e.1 = k then some e.2 else none

lemma commandsFor_append (k : ℕ) (l m : Frames) :
    commandsFor k (l ++ m) = commandsFor k l ++ commandsFor k m := List.filterMap_append

lemma commandsFor_concat (k : ℕ) (l : Frames) (e : ℕ × MotorCmd) :
    commandsFor k (l ++ [e]) = commandsFor k l ++ if e.1 = k then [e.2] else [] := by
  rw [commandsFor_append]
  congr 1
  by_cases hk : e.1 = k <;> simp [commandsFor, hk]

lemma bounded_run {d : Drive} (h : Bounded d) (l : List MotorCmd) : Bounded (run Drive.step d l) :=
  run_invariant (I := Bounded) (fun _ cmd hd => hd.step cmd) h l

/-- **Refinement.** Through the frames, the simulator's motor follows the drive. -/
theorem follows_run {motors : List MotorState} {w : List Sending}
    (hw : ∀ s ∈ w, Deliverable .DM8009 motors s) {k : ℕ} {m : MotorState} {d : Drive}
    (hm : motor? motors k = some m) (h : Follows m d) (hd : Bounded d) :
    ∃ m', motor? (run (deliver undef .DM8009) motors w) k = some m' ∧
      Follows m' (run Drive.step d (commandsFor k (w.map Sending.addressed))) := by
  induction w using List.reverseRecOn with
  | nil => exact ⟨m, hm, h⟩
  | append_singleton w s ih =>
    obtain ⟨m', hm', hfollows⟩ := ih fun s hs => hw s (by simp [hs])
    have hs := hw s (by simp)
    have hreg := (registered_run undef .DM8009 motors w s.deviceId).mpr hs.registered
    obtain ⟨type, htype, hdeliver⟩ := motor?_deliver undef .DM8009 hs.id hreg hs.plain
    have hbounded := bounded_run hd (commandsFor k (w.map Sending.addressed))
    rw [run_concat, hdeliver k, List.map_append, List.map_cons, List.map_nil, commandsFor_concat,
      hm']
    by_cases hk : s.deviceId = k
    · rw [if_pos hk, if_pos (show s.addressed.1 = k from hk), run_concat]
      exact ⟨_, rfl, hfollows.execute undef hbounded hs.plain htype s.deviceId s.rest⟩
    · rw [if_neg hk, if_neg (show s.addressed.1 ≠ k from hk), List.append_nil]
      exact ⟨m', rfl, hfollows⟩

/-- Commands for other motors leave a motor alone. -/
lemma motor?_run_other {motors : List MotorState} {w : List Sending}
    (hw : ∀ s ∈ w, Deliverable .DM8009 motors s) {k : ℕ}
    (hk : commandsFor k (w.map Sending.addressed) = []) :
    motor? (run (deliver undef .DM8009) motors w) k = motor? motors k := by
  induction w using List.reverseRecOn with
  | nil => rfl
  | append_singleton w s ih =>
    rw [List.map_append, List.map_cons, List.map_nil, commandsFor_concat] at hk
    obtain ⟨hbefore, hlast⟩ := List.append_eq_nil_iff.mp hk
    have hne : s.deviceId ≠ k := by
      rintro rfl
      simp [Sending.addressed] at hlast
    have hs := hw s (by simp)
    have hreg := (registered_run undef .DM8009 motors w s.deviceId).mpr hs.registered
    obtain ⟨type, -, hdeliver⟩ := motor?_deliver undef .DM8009 hs.id hreg hs.plain
    rw [run_concat, hdeliver k, if_neg hne]
    exact ih (fun s hs => hw s (by simp [hs])) hbefore

lemma follows_ofId (k : ℕ) : Follows (.ofId k) {} :=
  ⟨rfl, rfl, rfl, rfl, rfl, rfl, rfl, rfl, rfl, rfl⟩

lemma Follows.on {m : MotorState} {d : Drive} (h : Follows m d) :
    decide (m.status = .ENABLED) = d.on := by
  rw [h.status]
  cases d.on <;> rfl

/-! ### A leg and its motors -/

/-- What the theorems below share: the motors that are there, a history of the leg, and the
frames of its commands on their way. -/
structure Link (motorIds : List ℕ) (baseId motorsPerLeg : ℕ) (l : List LegRun.LegOp)
    (w : List Sending) : Prop where
  ids : ∀ k ∈ List.range' baseId motorsPerLeg, 1 ≤ k ∧ k ≤ 12 ∧ k ∈ motorIds
  /-- No MIT command is so extreme that seven bytes of its frame are `0xff`. -/
  mit : ∀ k p, (k, .setMitControl p) ∈
    (run LegRun.step (LegRun.start baseId motorsPerLeg) l).sent →
    ¬ (Saturated .DM8009 p ∧ torqueOfCode .DM8009 3840 ≤ p.tau)
  frames : w.map Sending.addressed =
    (run LegRun.step (LegRun.start baseId motorsPerLeg) l).sent

variable {motorIds : List ℕ} {baseId motorsPerLeg : ℕ} {l : List LegRun.LegOp} {w : List Sending}

lemma ids_run : (run LegRun.step (LegRun.start baseId motorsPerLeg) l).leg.ids =
    List.range' baseId motorsPerLeg := by
  rw [LegRun.run_ids]
  simp [LegRun.start, Legged.construct, Legged.ids, Function.comp_def]

lemma groupOffset_apply (leg : Legged) (op : LegRun.LegOp) :
    (LegRun.apply leg op).1.m_groupOffset = leg.m_groupOffset := by
  have hset (b : Bool) : (leg.setEnable b).1.m_groupOffset = leg.m_groupOffset := by
    unfold Legged.setEnable
    split_ifs <;> rfl
  cases op with
  | onMessage message =>
    change (leg.onMessage message).1.m_groupOffset = _
    unfold Legged.onMessage
    split_ifs
    · exact hset true
    · exact hset false
    · exact hset false
    · rfl
  | setEnable b => exact hset b
  | autonomousInit | teleopInit => exact hset true
  | controllerPeriodic c =>
    cases hr : leg.faultReason c with
    | none => exact (Legged.controllerPeriodic_no_fault hr).1.m_groupOffset
    | some reason => exact (Legged.controllerPeriodic_fault hr).1.m_groupOffset
  | disabledInit | robotPeriodic | setShmPointers _ _ | getRegParam _ _ | feedback _ _ _ => rfl

lemma groupOffset_run : (run LegRun.step (LegRun.start baseId motorsPerLeg) l).leg.m_groupOffset =
    if baseId = 1 then 0 else MOTORS_PER_GROUP :=
  run_invariant
    (I := fun st : LegRun.LegState =>
      st.leg.m_groupOffset = if baseId = 1 then 0 else MOTORS_PER_GROUP)
    (fun st op h => (groupOffset_apply st.leg op).trans h) rfl l

/-- The drive of motor `k`, by the commands that the leg has sent it. -/
def driveOf (st : LegRun.LegState) (k : ℕ) : Drive := run Drive.step {} (commandsFor k st.sent)

/-- **The motors follow the leg's commands.** -/
theorem Link.follows (h : Link motorIds baseId motorsPerLeg l w) {k : ℕ}
    (hk : k ∈ List.range' baseId motorsPerLeg) :
    ∃ m, motor? (run (deliver undef .DM8009) (construct motorIds) w) k = some m ∧
      Follows m (driveOf (run LegRun.step (LegRun.start baseId motorsPerLeg) l) k) := by
  have hdeliver := deliverable_of_sent motorIds h.ids h.mit h.frames
  obtain ⟨-, -, hreg⟩ := h.ids k hk
  obtain ⟨m, hm, hfollows⟩ := follows_run undef hdeliver (motor?_construct hreg) (follows_ofId k)
    bounded_zero
  rw [h.frames] at hfollows
  exact ⟨m, hm, hfollows⟩

/-- The drives of a leg that is enabled and not latched are on. -/
lemma Link.on (h : Link motorIds baseId motorsPerLeg l w) {k : ℕ}
    (hk : k ∈ List.range' baseId motorsPerLeg)
    (hen : (run LegRun.step (LegRun.start baseId motorsPerLeg) l).leg.isEnabled = true)
    (hlatch : (run LegRun.step (LegRun.start baseId motorsPerLeg) l).leg.m_motorsFaultDisabled =
      false) :
    (driveOf (run LegRun.step (LegRun.start baseId motorsPerLeg) l) k).on = true := by
  obtain ⟨p, hreach, hrefines⟩ := LegRun.refines_run baseId motorsPerLeg l
  have hon := (LegPower.reachable_inv hreach).on_of_isEnabled (hrefines.isEnabled ▸ hen)
    (hrefines.latched ▸ hlatch)
  have hdeliver := deliverable_of_sent motorIds h.ids h.mit h.frames
  -- any way of interpreting the singles will do here
  obtain ⟨m, hm, hfollows⟩ := h.follows (fun _ => 0) hk
  have hpow : last MotorCmd.power (w.map Sending.addressed) k = some p.on := by
    rw [h.frames]
    exact hrefines.power k (ids_run ▸ hk)
  have henabled := enabled?_run (fun _ => 0) .DM8009 hdeliver k
  rw [enabled?, hm, hpow, Option.map_some, Option.some_or] at henabled
  rw [← hfollows.on, Option.some.inj henabled, hon]

/-! ### The dispatch loop -/

lemma filterMap_zipIdx_eq {β : Type*} {ids : List ℕ} (hnodup : ids.Nodup) {i id : ℕ}
    (hid : ids[i]? = some id) (start : ℕ) (g : ℕ → Option β) :
    (ids.zipIdx start).filterMap (fun q => if q.1 = id then g q.2 else none) =
      (g (start + i)).toList := by
  induction ids generalizing i start with
  | nil => simp at hid
  | cons x ids ih =>
    obtain ⟨hx, hnodup'⟩ := List.nodup_cons.mp hnodup
    rw [List.zipIdx_cons, List.filterMap_cons]
    cases i with
    | zero =>
      obtain rfl : x = id := by simpa using hid
      have hrest : (ids.zipIdx (start + 1)).filterMap
          (fun q => if q.1 = x then g q.2 else none) = [] := by
        refine List.filterMap_eq_nil_iff.mpr fun q hq => if_neg ?_
        rintro rfl
        exact hx (List.fst_mem_of_mem_zipIdx hq)
      rw [hrest]
      cases g start <;> simp
    | succ i =>
      have hid' : ids[i]? = some id := by simpa using hid
      have hne : x ≠ id := by
        rintro rfl
        exact hx (List.mem_of_getElem? hid')
      rw [if_neg hne]
      simpa [Nat.add_assoc, Nat.add_comm 1 i] using ih hnodup' hid' (start + 1)

/-- Motor `i` gets the command of joint `m_groupOffset + i`, if that is enabled, and no other. -/
lemma commandsFor_dispatch {leg : Legged} (hnodup : leg.ids.Nodup) (cmd : Command) {i id : ℕ}
    (hid : leg.ids[i]? = some id) {j : Fin NUM_ACT_JOINT} (hj : j.val = leg.m_groupOffset + i) :
    commandsFor id (leg.dispatch cmd) =
      if cmd.enabled j ≠ 0 then [.setMitControl (Legged.mitParam cmd j)] else [] := by
  let g (n : ℕ) : Option MotorCmd :=
    if h : leg.m_groupOffset + n < NUM_ACT_JOINT then
      if cmd.enabled ⟨leg.m_groupOffset + n, h⟩ ≠ 0 then
        some (.setMitControl (Legged.mitParam cmd ⟨leg.m_groupOffset + n, h⟩))
      else none
    else none
  have hloop : commandsFor id (leg.dispatch cmd) =
      leg.ids.zipIdx.filterMap fun q => if q.1 = id then g q.2 else none := by
    unfold commandsFor Legged.dispatch Legged.mitParams
    rw [List.filterMap_map, List.filterMap_filterMap]
    refine List.filterMap_congr fun q _ => ?_
    obtain ⟨x, n⟩ := q
    by_cases hn : leg.m_groupOffset + n < NUM_ACT_JOINT
    · by_cases hen : cmd.enabled ⟨leg.m_groupOffset + n, hn⟩ = 0 <;> simp [g, hn, hen]
    · simp [g, hn]
  obtain ⟨j, hlt⟩ := j
  simp only at hj
  subst hj
  rw [hloop, filterMap_zipIdx_eq hnodup hid, Nat.zero_add]
  simp only [g, hlt, dif_pos]
  split_ifs <;> rfl

/-! ### Set-points -/

/-- From `before` to `after` the motor has taken a set-point. Its targets are within a quantum of
what it was asked for, clamped to its range, only that of the torque it gets a third; and it has
gone a tenth of the way. -/
structure Taken (p : MITParam) (before after : MotorState) : Prop where
  position : ∃ x, after.targetPos = .fin x ∧ Scaling.Within x p.q (-(25 / 2)) (25 / 2) 16 ∧
    after.position = toward (1 / 10) before.position x
  velocity : ∃ x, after.targetVel = .fin x ∧ Scaling.Within x p.dq (-45) 45 12 ∧
    after.velocity = toward (1 / 10) before.velocity x
  torque : Scaling.Within (3 * after.targetTorque) p.tau (-54) 54 12 ∧
    after.torque = toward (1 / 10) before.torque after.targetTorque
  kp : Scaling.Within after.kp p.kp 0 500 12
  kd : Scaling.Within after.kd p.kd 0 5 12

/-- A code that is read in 18 Nm stands for a third of what it stands for in 54 Nm. -/
lemma three_mul_uintToDouble (c bits : ℕ) :
    3 * uintToDouble c (-18) 18 bits = uintToDouble c (-54) 54 bits := by
  unfold uintToDouble
  ring

lemma taken_of_follows {p : MITParam} {before after : MotorState} {d : Drive}
    (h : Follows before d) (h' : Follows after (d.aim p).move) : Taken p before after where
  position := ⟨_, h'.targetPos, Scaling.within_same (by norm_num) (by norm_num) (by norm_num) p.q,
    h.position ▸ h'.position⟩
  velocity := ⟨_, h'.targetVel, Scaling.within_same (by norm_num) (by norm_num) (by norm_num) p.dq,
    h.velocity ▸ h'.velocity⟩
  torque := by
    refine ⟨?_, ?_⟩
    · rw [h'.targetTorque]
      change Scaling.Within (3 * uintToDouble _ (-18) 18 12) p.tau (-54) 54 12
      rw [three_mul_uintToDouble]
      exact Scaling.within_same (by norm_num) (by norm_num) (by norm_num) p.tau
    · rw [h'.torque, h'.targetTorque, h.torque]
      rfl
  kp := by
    rw [h'.kp]
    exact abs_uintToDouble_doubleToUint_le (by norm_num) (by norm_num) (by norm_num) p.kp
  kd := by
    rw [h'.kd]
    exact abs_uintToDouble_doubleToUint_le (by norm_num) (by norm_num) (by norm_num) p.kd

/-- **Set-points reach the joints.** After any history of a leg, a cycle of it that acts on a
command hands each joint of the command that is enabled to the motor of that joint, and leaves
the motors of the other joints alone. -/
theorem set_points_reach {c : Cycle} {cmd : Command} {more : List Sending}
    (h : Link motorIds baseId motorsPerLeg l w)
    (h' : Link motorIds baseId motorsPerLeg (l ++ [.controllerPeriodic c]) (w ++ more))
    (hattached : (run LegRun.step (LegRun.start baseId motorsPerLeg) l).leg.attached = true)
    (hen : (run LegRun.step (LegRun.start baseId motorsPerLeg) l).leg.isEnabled = true)
    (hlatch : (run LegRun.step (LegRun.start baseId motorsPerLeg) l).leg.m_motorsFaultDisabled =
      false)
    (hshm : Legged.shmFault c.shm = none) (hcmd : c.shm.currentCommand? = some cmd)
    (hfresh : Legged.commandStale cmd c.cp_start = false) {i : ℕ} (hi : i < motorsPerLeg)
    {j : Fin NUM_ACT_JOINT} (hj : j.val = (if baseId = 1 then 0 else MOTORS_PER_GROUP) + i) :
    ∃ before after,
      motor? (run (deliver undef .DM8009) (construct motorIds) w) (baseId + i) = some before ∧
      motor? (run (deliver undef .DM8009) (construct motorIds) (w ++ more)) (baseId + i) =
        some after ∧
      if cmd.enabled j ≠ 0 then Taken (Legged.mitParam cmd j) before after else after = before := by
  have hmem : baseId + i ∈ List.range' baseId motorsPerLeg :=
    List.mem_range'_1.mpr ⟨by omega, by omega⟩
  have hon := h.on hmem hen hlatch
  obtain ⟨before, hbefore, hfollows⟩ := h.follows undef hmem
  obtain ⟨after, hafter, hfollows'⟩ := h'.follows undef hmem
  obtain ⟨hnofault, hmit⟩ := Legged.mitFrames_of_command hattached hshm hen hcmd
  rw [hfresh] at hmit
  have hids : (run LegRun.step (LegRun.start baseId motorsPerLeg) l).leg.ids[i]? =
      some (baseId + i) := by
    rw [ids_run, List.getElem?_range' hi, Nat.one_mul]
  have hnodup : (run LegRun.step (LegRun.start baseId motorsPerLeg) l).leg.ids.Nodup := by
    rw [ids_run]
    exact List.nodup_range'
  have hcycle := commandsFor_dispatch hnodup cmd hids (j := j) (by rw [groupOffset_run, hj])
  have hsent : (run LegRun.step (LegRun.start baseId motorsPerLeg)
      (l ++ [.controllerPeriodic c])).sent =
      (run LegRun.step (LegRun.start baseId motorsPerLeg) l).sent ++
        (run LegRun.step (LegRun.start baseId motorsPerLeg) l).leg.dispatch cmd := by
    rw [run_concat]
    change _ ++ (Legged.controllerPeriodic _ c).1.2 = _
    rw [(Legged.controllerPeriodic_no_fault hnofault).2.2, hmit]
    rfl
  refine ⟨before, after, hbefore, hafter, ?_⟩
  unfold driveOf at hfollows'
  rw [hsent, commandsFor_append, run_append, hcycle] at hfollows'
  split_ifs with hjoint
  · rw [if_pos hjoint] at hfollows'
    refine taken_of_follows hfollows ?_
    have hstep : run Drive.step (driveOf (run LegRun.step (LegRun.start baseId motorsPerLeg) l)
        (baseId + i)) [.setMitControl (Legged.mitParam cmd j)] =
        ((driveOf (run LegRun.step (LegRun.start baseId motorsPerLeg) l) (baseId + i)).aim
          (Legged.mitParam cmd j)).move := by
      simp [Drive.step, hon]
    exact hstep ▸ hfollows'
  · -- no command of the cycle is for this motor
    have hframes : more.map Sending.addressed =
        (run LegRun.step (LegRun.start baseId motorsPerLeg) l).leg.dispatch cmd := by
      have happend := h'.frames
      rw [List.map_append, h.frames, hsent] at happend
      exact List.append_cancel_left happend
    have hdeliver := deliverable_of_sent motorIds h'.ids h'.mit h'.frames
    rw [run_append,
      motor?_run_other undef (fun s hs => ?_) (by rw [hframes, hcycle, if_neg hjoint]),
      hbefore] at hafter
    · exact (Option.some.inj hafter).symm
    · have hs' := hdeliver s (List.mem_append_right w hs)
      exact ⟨hs'.id, (registered_run undef .DM8009 _ w _).mpr hs'.registered, hs'.plain⟩

lemma link_of_sent {l : List LegRun.LegOp} {frames : Frames}
    (hsent : (run LegRun.step (LegRun.start 1 2) l).sent = frames)
    (hmit : ∀ k p, (k, .setMitControl p) ∈ frames → p = firstJoint) :
    Link [1, 2] 1 2 l (sendings frames) where
  ids := by decide
  mit := not_saturated_of_sent hsent hmit
  frames := (addressed_sendings frames).trans hsent.symm

/-- The frames that enable the leg: when it is attached, and when it is told so. -/
def enabling : Frames :=
  [(1, .enableMotor), (2, .enableMotor), (1, .enableMotor), (2, .enableMotor)]

lemma link_ready : Link [1, 2] 1 2 ready (sendings enabling) :=
  link_of_sent rfl fun k p hmem => absurd hmem (by simp [enabling])

/-- Joint 0 is enabled in the command and reaches motor 1. Joint 1 is not. -/
theorem set_points_reach_firstJoint :
    let motors := run (deliver (fun _ => 0) .DM8009) (construct [1, 2]) (sendings enabling)
    let motors' := run (deliver (fun _ => 0) .DM8009) (construct [1, 2])
      (sendings enabling ++ sendings [(1, .setMitControl firstJoint)])
    (∃ before after, motor? motors (1 + 0) = some before ∧ motor? motors' (1 + 0) = some after ∧
      Taken firstJoint before after) ∧
      ∃ before after, motor? motors (1 + 1) = some before ∧ motor? motors' (1 + 1) = some after ∧
        after = before := by
  have hsent : (run LegRun.step (LegRun.start 1 2)
      (ready ++ [.controllerPeriodic commandCycle])).sent =
      enabling ++ [(1, .setMitControl firstJoint)] := rfl
  have hlink : Link [1, 2] 1 2 (ready ++ [.controllerPeriodic commandCycle])
      (sendings enabling ++ sendings [(1, .setMitControl firstJoint)]) :=
    link_of_sent hsent fun k p hmem =>
      (show k = 1 ∧ p = firstJoint by simpa [enabling] using hmem).2
  exact ⟨set_points_reach (fun _ => 0) link_ready hlink rfl rfl rfl rfl rfl rfl
      (i := 0) (by decide) (j := ⟨0, by decide⟩) rfl,
    set_points_reach (fun _ => 0) link_ready hlink rfl rfl rfl rfl rfl rfl
      (i := 1) (by decide) (j := ⟨1, by decide⟩) rfl⟩

/-! ### Holding a set-point -/

/-- A command that holds the set-point, or asks for a register. -/
def Holds (p : MITParam) (cmd : MotorCmd) : Prop :=
  cmd = .setMitControl p ∨ ∃ RID, cmd = .getRegParam RID

/-- Each command that sets the set-point again leaves nine tenths of the way. -/
lemma position_run {p : MITParam} {d : Drive} (hon : d.on = true) {l : List MotorCmd}
    (hl : ∀ cmd ∈ l, Holds p cmd) :
    (run Drive.step d l).position - (d.aim p).targetPos =
      (1 - 1 / 10) ^ l.countP MotorCmd.isMit * (d.position - (d.aim p).targetPos) := by
  induction l generalizing d with
  | nil => simp
  | cons cmd l ih =>
    have hrest : ∀ cmd ∈ l, Holds p cmd := fun cmd hcmd => hl cmd (List.mem_cons_of_mem _ hcmd)
    rw [run_cons]
    rcases hl cmd List.mem_cons_self with rfl | ⟨RID, rfl⟩
    · have hstep : d.step (.setMitControl p) = (d.aim p).move := by simp [Drive.step, hon]
      have hpos : (d.aim p).move.position - (d.aim p).targetPos =
          (1 - 1 / 10) * (d.position - (d.aim p).targetPos) := toward_sub _ _ _
      have haim : ((d.aim p).move.aim p).targetPos = (d.aim p).targetPos := rfl
      have hrun := ih (d := (d.aim p).move) hon hrest
      rw [haim] at hrun
      rw [hstep, hrun, hpos, List.countP_cons_of_pos (by rfl), pow_succ]
      ring
    · rw [List.countP_cons_of_neg (by simp [MotorCmd.isMit])]
      exact ih hon hrest

/-- **Joints converge.** After any history of a leg that leaves it enabled and not latched, let
the leg do anything that sends a motor one and the same set-point again and again. With every
time the motor covers a tenth of what is left, down to the quantum of the position. -/
theorem joints_converge {later : List LegRun.LegOp} {more : List Sending}
    (h : Link motorIds baseId motorsPerLeg l w)
    (h' : Link motorIds baseId motorsPerLeg (l ++ later) (w ++ more))
    (hen : (run LegRun.step (LegRun.start baseId motorsPerLeg) l).leg.isEnabled = true)
    (hlatch : (run LegRun.step (LegRun.start baseId motorsPerLeg) l).leg.m_motorsFaultDisabled =
      false)
    {k : ℕ} (hk : k ∈ List.range' baseId motorsPerLeg) {p : MITParam}
    (hold : ∀ cmd ∈ commandsFor k (more.map Sending.addressed), Holds p cmd) :
    ∃ m, motor? (run (deliver undef .DM8009) (construct motorIds) (w ++ more)) k = some m ∧
      |m.position - limitMinMax p.q (-(25 / 2)) (25 / 2)| ≤
        (9 / 10) ^ (commandsFor k (more.map Sending.addressed)).countP MotorCmd.isMit * 25 +
          quantum (-(25 / 2)) (25 / 2) 16 := by
  have hon := h.on hk hen hlatch
  obtain ⟨m, hm, hfollows⟩ := h'.follows undef hk
  have hcommands : commandsFor k (run LegRun.step (LegRun.start baseId motorsPerLeg)
      (l ++ later)).sent = commandsFor k (run LegRun.step (LegRun.start baseId motorsPerLeg) l).sent
        ++ commandsFor k (more.map Sending.addressed) := by
    rw [← h'.frames, ← h.frames, List.map_append, commandsFor_append]
  unfold driveOf at hfollows
  rw [hcommands, run_append] at hfollows
  have hposition := hfollows.position
  generalize hd : run Drive.step {} (commandsFor k
    (run LegRun.step (LegRun.start baseId motorsPerLeg) l).sent) = d at hposition
  have hon : d.on = true := hd ▸ hon
  have hbounded : Bounded d := hd ▸ bounded_run bounded_zero _
  have hrun := position_run hon hold
  have htarget := (hbounded.aim p).targetPos
  have hdistance : |d.position - (d.aim p).targetPos| ≤ 25 := by
    have h1 := abs_sub (d.position) (d.aim p).targetPos
    have h2 := hbounded.position
    linarith
  have hquantum : |(d.aim p).targetPos - limitMinMax p.q (-(25 / 2)) (25 / 2)| ≤
      quantum (-(25 / 2)) (25 / 2) 16 :=
    Scaling.within_same (by norm_num) (by norm_num) (by norm_num) p.q
  have htenth : (1 - 1 / 10 : ℚ) = 9 / 10 := by norm_num
  have hleft : |m.position - (d.aim p).targetPos| ≤
      (9 / 10) ^ (commandsFor k (more.map Sending.addressed)).countP MotorCmd.isMit * 25 := by
    rw [hposition, hrun, htenth, abs_mul, abs_of_nonneg (by positivity)]
    exact mul_le_mul_of_nonneg_left hdistance (by positivity)
  refine ⟨m, hm, ?_⟩
  calc |m.position - limitMinMax p.q (-(25 / 2)) (25 / 2)|
      ≤ |m.position - (d.aim p).targetPos|
        + |(d.aim p).targetPos - limitMinMax p.q (-(25 / 2)) (25 / 2)| := abs_sub_le _ _ _
    _ ≤ _ := add_le_add hleft hquantum

/-- Two cycles act on the same command. -/
theorem joints_converge_twice : ∃ m,
    motor? (run (deliver (fun _ => 0) .DM8009) (construct [1, 2])
      (sendings enabling ++ sendings (List.replicate 2 (1, .setMitControl firstJoint)))) 1 =
        some m ∧
      |m.position - limitMinMax 1 (-(25 / 2)) (25 / 2)| ≤
        (9 / 10) ^ 2 * 25 + quantum (-(25 / 2)) (25 / 2) 16 := by
  have hsent : (run LegRun.step (LegRun.start 1 2)
      (ready ++ List.replicate 2 (.controllerPeriodic commandCycle))).sent =
      enabling ++ List.replicate 2 (1, .setMitControl firstJoint) := rfl
  have hlink : Link [1, 2] 1 2 (ready ++ List.replicate 2 (.controllerPeriodic commandCycle))
      (sendings enabling ++ sendings (List.replicate 2 (1, .setMitControl firstJoint))) :=
    link_of_sent hsent fun k p hmem =>
      (show k = 1 ∧ p = firstJoint by simpa [enabling] using hmem).2
  have hold : ∀ cmd ∈ commandsFor 1
      ((sendings (List.replicate 2 (1, .setMitControl firstJoint))).map Sending.addressed),
      Holds firstJoint cmd := by
    intro cmd hcmd
    rw [addressed_sendings] at hcmd
    exact Or.inl (by simpa [commandsFor] using hcmd)
  obtain ⟨m, hm, hclose⟩ := joints_converge (fun _ => 0) link_ready hlink rfl rfl (by decide) hold
  have hcount : (commandsFor 1 ((sendings (List.replicate 2 (1, .setMitControl firstJoint))).map
      Sending.addressed)).countP MotorCmd.isMit = 2 := rfl
  rw [hcount] at hclose
  exact ⟨m, hm, hclose⟩

end Kuavo.SetPoints
