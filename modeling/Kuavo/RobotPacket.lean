import Kuavo.DriverStation
import Mathlib.Data.Rat.Floor
import Mathlib.Tactic.Linarith
import Mathlib.Tactic.NormNum
import Mathlib.Tactic.Ring

/-!
The packets of `tools/PackageGenerator.cpp`, and what `JoystickDataCache::Update` makes of them.

The generator puts the joysticks behind the header and, if there is one, the time block; the
cache looks for them at offset 19, which is behind a time block. It takes the bytes for `char`,
whose sign depends on the platform, and the axes for signed, which the generator shifts.
-/

namespace Kuavo

/-! ### The generator -/

namespace PackageGenerator

inductive DS_ControlMode | TELEOPERATED | TEST | AUTONOMOUS
  deriving DecidableEq

inductive DS_Alliance | RED | BLUE
  deriving DecidableEq

inductive DS_Position | POSITION_1 | POSITION_2 | POSITION_3
  deriving DecidableEq

def cRequestRestartCode : UInt8 := 0x04
def cRequestReboot : UInt8 := 0x08
def cRequestNormal : UInt8 := 0x00
def cTagCommVersion : UInt8 := 0x01
def cTeleoperated : UInt8 := 0x00
def cTest : UInt8 := 0x04
def cAutonomous : UInt8 := 0x02
def cEnabled : UInt8 := 0x01
def cEmergencyStop : UInt8 := 0x08
def cFMSConnected : UInt8 := 0x10
def cDSAttached : UInt8 := 0x20
def cTagDate : UInt8 := 0x0f
def cTagJoystick : UInt8 := 0x0c
def cTagTimezone : UInt8 := 0x10

/-- A joystick with at most six axes, sixteen buttons and four hats. Its axes are exact numbers
for which the conversion to a byte is defined. -/
structure Joystick where
  axes : List ℚ
  buttons : List ℤ
  hats : List ℤ
  axes_length_le : axes.length ≤ 6
  buttons_length_le : buttons.length ≤ 16
  hats_length_le : hats.length ≤ 4
  axes_defined : ∀ v ∈ axes, -1 < (v + 1) / 2 * 255 ∧ (v + 1) / 2 * 255 < 256

/-- The part of `localtime_r` that the time block has. -/
structure Time where
  tm_sec : ℤ
  tm_min : ℤ
  tm_hour : ℤ
  tm_yday : ℤ
  tm_mon : ℤ
  tm_year : ℤ
  tm_zone : String

/-- The state of the generator and its test configuration. -/
structure Settings where
  control_mode : DS_ControlMode
  alliance : DS_Alliance
  position : DS_Position
  robot_enabled : Bool
  estop : Bool
  fms_comms : Bool
  robot_comms : Bool
  send_time_data : Bool
  sent_robot_packets : UInt32
  reboot : Bool
  restart_code : Bool
  timeinfo : Time
  joysticks : List Joystick

def dsFloatToByte (val : ℚ) : UInt8 := UInt8.ofNat ⌊(val + 1) / 2 * 255⌋₊

/-- The sum of the powers of two of the buttons that are pressed, as a 16-bit word. -/
def Joystick.button_flags (j : Joystick) : ℕ :=
  (j.buttons.zipIdx.map fun p => if p.1 ≠ 0 then 2 ^ p.2 else 0).sum % 2 ^ 16

def control_code (s : Settings) : UInt8 :=
  let mode := match s.control_mode with
    | .TEST => cTest
    | .AUTONOMOUS => cAutonomous
    | .TELEOPERATED => cTeleoperated
  cDSAttached ||| mode ||| (if s.fms_comms then cFMSConnected else 0) |||
    (if s.estop then cEmergencyStop else 0) ||| (if s.robot_enabled then cEnabled else 0)

def request_code (s : Settings) : UInt8 :=
  if s.robot_comms then
    if s.reboot then cRequestReboot
    else if s.restart_code then cRequestRestartCode
    else cRequestNormal
  else cRequestNormal

def station_code (s : Settings) : UInt8 :=
  match s.position, s.alliance with
  | .POSITION_1, .RED => 0x00
  | .POSITION_2, .RED => 0x01
  | .POSITION_3, .RED => 0x02
  | .POSITION_1, .BLUE => 0x03
  | .POSITION_2, .BLUE => 0x04
  | .POSITION_3, .BLUE => 0x05

def header (s : Settings) : List UInt8 :=
  [(s.sent_robot_packets >>> 8).toUInt8, s.sent_robot_packets.toUInt8, cTagCommVersion,
    control_code s, request_code s, station_code s]

/-- The milliseconds are always zero, and of the time zone only the length is sent. -/
def tz_data (t : Time) : List UInt8 :=
  [cTagDate, 0, 0, 0, 0, UInt8.ofInt t.tm_sec, UInt8.ofInt t.tm_min, UInt8.ofInt t.tm_hour,
    UInt8.ofInt t.tm_yday, UInt8.ofInt t.tm_mon, UInt8.ofInt t.tm_year, cTagTimezone,
    UInt8.ofNat t.tm_zone.utf8ByteSize]

def hat_data (h : ℤ) : List UInt8 := [UInt8.ofInt (h / 256), UInt8.ofInt h]

namespace Joystick

def size (j : Joystick) : UInt8 :=
  UInt8.ofNat (2 + (j.buttons.length + 1) + (j.axes.length + 1) + (j.hats.length * 2 + 1))

/-- Buttons and the number of hats. -/
def counts (j : Joystick) : List UInt8 :=
  [UInt8.ofNat j.buttons.length, UInt8.ofNat (j.button_flags / 256), UInt8.ofNat j.button_flags,
    UInt8.ofNat j.hats.length]

def js_data (j : Joystick) : List UInt8 :=
  [j.size, cTagJoystick, UInt8.ofNat j.axes.length] ++
    (j.axes.map dsFloatToByte ++ (j.counts ++ j.hats.flatMap hat_data))

end Joystick

def create_robot_packet (s : Settings) : List UInt8 :=
  header s ++ ((if s.send_time_data then tz_data s.timeinfo else []) ++
    (if 5 < s.sent_robot_packets then s.joysticks.flatMap Joystick.js_data else []))

end PackageGenerator

/-! ### What is to be recovered -/

namespace RobotPacket

open PackageGenerator JoystickDataCache

/-- One step of an axis byte. -/
def quantum : ℚ := 1 / 127

/-- The cache has the control word of the packet and the data of the joystick. -/
structure Recovered (s : Settings) (j : Joystick) (c : JoystickDataCache) : Prop where
  controlWord : c.controlWord.low = control_code s
  axis_count : c.axes.count = j.axes.length
  axes : ∀ (i : ℕ) v, j.axes[i]? = some v → ∃ a, c.axes.axes[i]? = some a ∧ |a - v| ≤ quantum
  button_count : c.buttons.count = j.buttons.length
  buttons : c.buttons.buttons = j.button_flags
  hat_count : c.povs.count = j.hats.length
  hats : c.povs.povs = j.hats

/-- The bytes from offset 19 on read as the joystick, for either sign of `char`. -/
structure ReadsAs (payload : Payload) (j : Joystick) : Prop where
  size : 0 < payload JOYSTICK_POS ∧ payload JOYSTICK_POS < 128
  axis_count : (payload (JOYSTICK_POS + 2)).toNat = j.axes.length
  axes : ∀ (i : ℕ) v, j.axes[i]? = some v →
    |axisValue (payload (JOYSTICK_POS + 3 + i)) - v| ≤ quantum
  button_count : (payload (JOYSTICK_POS + 3 + j.axes.length)).toNat = j.buttons.length
  small : payload (JOYSTICK_POS + 4 + j.axes.length) < 128 ∧
    payload (JOYSTICK_POS + 5 + j.axes.length) < 128
  buttons : (payload (JOYSTICK_POS + 4 + j.axes.length)).toNat * 256 +
    (payload (JOYSTICK_POS + 5 + j.axes.length)).toNat = j.button_flags
  hat_count : (payload (JOYSTICK_POS + 6 + j.axes.length)).toNat = j.hats.length
  hats : ∀ (i : ℕ) h, j.hats[i]? = some h →
    payload (JOYSTICK_POS + 8 + j.axes.length + 2 * i) < 128 ∧
      int16Value ((payload (JOYSTICK_POS + 7 + j.axes.length + 2 * i)).toNat * 256 +
        (payload (JOYSTICK_POS + 8 + j.axes.length + 2 * i)).toNat) = h

/-! ### Characters -/

lemma charValue_small (signed : Bool) {b : UInt8} (h : b < 128) : charValue signed b = b.toNat := by
  have hnot : ¬ (signed ∧ 128 ≤ b) := fun hc => absurd hc.2 (UInt8.not_le.mpr h)
  rw [charValue, if_neg hnot]

lemma charValue_unsigned (b : UInt8) : charValue false b = b.toNat := by
  simp [charValue]

lemma charValue_signed (b : UInt8) :
    charValue true b = if b.toNat < 128 then (b.toNat : ℤ) else (b.toNat : ℤ) - 256 := by
  have hle : (128 : UInt8) ≤ b ↔ ¬ b.toNat < 128 := by
    rw [UInt8.le_iff_toNat_le, not_lt]
    rfl
  by_cases h : b.toNat < 128 <;> simp [charValue, hle, h]

lemma small_iff (b : UInt8) : b < 128 ↔ b.toNat < 128 := UInt8.lt_iff_toNat_lt

/-- A word of two `char`s, as the buttons have it. -/
lemma buttons_iff (hi lo : UInt8) {n : ℕ} :
    (∀ signed, ((charValue signed hi * 256 + charValue signed lo) % 2 ^ 32).toNat = n) ↔
      (hi < 128 ∧ lo < 128) ∧ hi.toNat * 256 + lo.toNat = n := by
  have hhi := hi.toNat_lt
  have hlo := lo.toNat_lt
  rw [Bool.forall_bool, charValue_unsigned, charValue_unsigned, charValue_signed,
    charValue_signed, small_iff, small_iff]
  constructor
  · rintro ⟨hu, hs⟩
    split_ifs at hs <;> omega
  · rintro ⟨⟨hhi', hlo'⟩, hn⟩
    rw [if_pos hhi', if_pos hlo']
    omega

/-- The same, as the hats have it: the sign of the high byte is cut off again. -/
lemma hat_iff (hi lo : UInt8) {h : ℤ} :
    (∀ signed, int16Value (charValue signed hi * 256 + charValue signed lo) = h) ↔
      lo < 128 ∧ int16Value (hi.toNat * 256 + lo.toNat) = h := by
  have hhi := hi.toNat_lt
  have hlo := lo.toNat_lt
  rw [Bool.forall_bool, charValue_unsigned, charValue_unsigned, charValue_signed,
    charValue_signed, small_iff]
  unfold int16Value
  constructor
  · rintro ⟨hu, hs⟩
    refine ⟨?_, hu⟩
    split_ifs at hs <;> omega
  · rintro ⟨hlo', hh⟩
    refine ⟨hh, ?_⟩
    rw [if_pos hlo']
    split_ifs <;> omega

/-! ### What a payload is read as -/

/-- That there is a joystick, and how many axes it has, is read alike. -/
structure HeadReadsAs (payload : Payload) (j : Joystick) : Prop where
  size : 0 < payload JOYSTICK_POS ∧ payload JOYSTICK_POS < 128
  axis_count : (payload (JOYSTICK_POS + 2)).toNat = j.axes.length

variable {payload : Payload} {j : Joystick}

lemma hasJoystick_iff : (∀ signed, hasJoystick signed payload = true) ↔
    0 < payload JOYSTICK_POS ∧ payload JOYSTICK_POS < 128 := by
  have hlt := (payload JOYSTICK_POS).toNat_lt
  rw [Bool.forall_bool, small_iff, UInt8.lt_iff_toNat_lt, hasJoystick, hasJoystick,
    decide_eq_true_iff, decide_eq_true_iff, charValue_unsigned, charValue_signed]
  simp only [UInt8.toNat_zero]
  split_ifs <;> omega

lemma HeadReadsAs.hasJoystick (h : HeadReadsAs payload j) (signed : Bool) :
    JoystickDataCache.hasJoystick signed payload = true := hasJoystick_iff.mpr h.size signed

lemma HeadReadsAs.count (h : HeadReadsAs payload j) (signed : Bool) :
    charValue signed (payload (JOYSTICK_POS + 2)) = j.axes.length := by
  have hle := j.axes_length_le
  have hcount := h.axis_count
  rw [charValue_small signed, hcount]
  rw [small_iff]
  omega

lemma HeadReadsAs.axes_eq (h : HeadReadsAs payload j) (signed : Bool) (axes : HAL_JoystickAxes) :
    (HAL_GetJoystickAxesInternal signed payload axes).count = j.axes.length ∧
      (HAL_GetJoystickAxesInternal signed payload axes).axes =
        (List.range j.axes.length).map fun i : ℕ =>
          axisValue (payload (JOYSTICK_POS + 3 + i)) := by
  simp [HAL_GetJoystickAxesInternal, h.hasJoystick signed, h.count signed, Function.comp_def]

lemma HeadReadsAs.buttons_eq (h : HeadReadsAs payload j) (signed : Bool)
    (buttons : HAL_JoystickButtons) :
    HAL_GetJoystickButtonsInternal signed payload buttons =
      { count := (payload (JOYSTICK_POS + 3 + j.axes.length)).toNat
        buttons := ((charValue signed (payload (JOYSTICK_POS + 4 + j.axes.length)) * 256 +
          charValue signed (payload (JOYSTICK_POS + 5 + j.axes.length))) % 2 ^ 32).toNat } := by
  have h1 : JOYSTICK_POS + 3 + (j.axes.length : ℤ) + 1 = JOYSTICK_POS + 4 + j.axes.length := by
    ring
  have h2 : JOYSTICK_POS + 3 + (j.axes.length : ℤ) + 2 = JOYSTICK_POS + 5 + j.axes.length := by
    ring
  rw [HAL_GetJoystickButtonsInternal, if_pos (h.hasJoystick signed), h.count signed]
  simp only [h1, h2]

lemma HeadReadsAs.povs_eq (h : HeadReadsAs payload j) (signed : Bool) (povs : HAL_JoystickPOVs) :
    HAL_GetJoystickPOVsInternal signed payload povs =
      let count := charValue signed (payload (JOYSTICK_POS + 6 + j.axes.length))
      { count := count
        povs := (List.range count.toNat).map fun i : ℕ =>
          int16Value
            (charValue signed (payload (JOYSTICK_POS + 7 + j.axes.length + 2 * i)) * 256 +
              charValue signed (payload (JOYSTICK_POS + 8 + j.axes.length + 2 * i))) } := by
  have h0 : 6 + JOYSTICK_POS + (j.axes.length : ℤ) = JOYSTICK_POS + 6 + j.axes.length := by
    ring
  have h1 : ∀ i : ℕ, JOYSTICK_POS + 6 + (j.axes.length : ℤ) + 1 + 2 * i =
      JOYSTICK_POS + 7 + j.axes.length + 2 * i := fun i => by ring
  have h2 : ∀ i : ℕ, JOYSTICK_POS + 6 + (j.axes.length : ℤ) + 2 + 2 * i =
      JOYSTICK_POS + 8 + j.axes.length + 2 * i := fun i => by ring
  rw [HAL_GetJoystickPOVsInternal, if_pos (h.hasJoystick signed), h.count signed]
  simp only [h0, h1, h2]

/-- A cache without a joystick keeps what it had, so that there is one to be read. -/
lemma headReadsAs_of_recovered {s : Settings}
    (h : ∀ signed c, Recovered s j (JoystickDataCache.Update signed payload c)) :
    HeadReadsAs payload j := by
  have hsize : 0 < payload JOYSTICK_POS ∧ payload JOYSTICK_POS < 128 := by
    rw [← hasJoystick_iff]
    intro signed
    by_contra hno
    have hcount := (h signed { axes := { count := -1 } }).axis_count
    simp only [Update, HAL_GetJoystickAxesInternal, if_neg hno] at hcount
    omega
  refine ⟨hsize, ?_⟩
  have hcount := (h false {}).axis_count
  have hjoystick := hasJoystick_iff.mpr hsize false
  simp only [Update, HAL_GetJoystickAxesInternal, if_pos hjoystick, charValue_unsigned] at hcount
  exact_mod_cast hcount

/-- There are too few hats for their number to have a sign. -/
lemma small_of_hats {b : UInt8} (h : b.toNat = j.hats.length) : b < 128 := by
  have hle := j.hats_length_le
  rw [small_iff]
  omega

/-- What is recovered for both signs of `char` is there to be read. -/
lemma readsAs_of_recovered {s : Settings}
    (h : ∀ signed c, Recovered s j (JoystickDataCache.Update signed payload c)) :
    ReadsAs payload j := by
  have hhead := headReadsAs_of_recovered h
  have hbuttons := (buttons_iff _ _).mp fun signed => by
    have hb := (h signed {}).buttons
    rw [Update, hhead.buttons_eq] at hb
    exact hb
  have hcount : (payload (JOYSTICK_POS + 6 + j.axes.length)).toNat = j.hats.length := by
    have hc := (h false {}).hat_count
    rw [Update, hhead.povs_eq, charValue_unsigned] at hc
    exact Int.ofNat_inj.mp hc
  refine ⟨hhead.size, hhead.axis_count, fun i v hv => ?_, ?_, hbuttons.1, hbuttons.2, hcount,
    fun i g hg => ?_⟩
  · obtain ⟨a, ha, hav⟩ := (h false {}).axes i v hv
    rw [Update, (hhead.axes_eq false _).2, List.getElem?_map, Option.map_eq_some_iff] at ha
    obtain ⟨i', hi', rfl⟩ := ha
    rw [List.getElem?_range (List.getElem?_eq_some_iff.mp hv).1, Option.some.injEq] at hi'
    rwa [hi']
  · have hb := (h false {}).button_count
    rwa [Update, hhead.buttons_eq] at hb
  · refine (hat_iff _ _).mp fun signed => ?_
    have hlen := (List.getElem?_eq_some_iff.mp hg).1
    have hp := (h signed {}).hats
    rw [Update, hhead.povs_eq, charValue_small signed (small_of_hats hcount), hcount] at hp
    have hget := congrArg (fun l : List ℤ => l[i]?) hp
    simp only [Int.toNat_natCast, List.getElem?_map, List.getElem?_range hlen, hg,
      Option.map_some, Option.some.injEq] at hget
    exact hget

/-- What is there to be read is recovered, into any cache. -/
lemma ReadsAs.recovered {s : Settings} (hreads : ReadsAs payload j)
    (hcontrol : payload 3 = control_code s) (signed : Bool) (c : JoystickDataCache) :
    Recovered s j (JoystickDataCache.Update signed payload c) := by
  have hhead : HeadReadsAs payload j := ⟨hreads.size, hreads.axis_count⟩
  have hsmall := small_of_hats hreads.hat_count
  refine ⟨hcontrol, (hhead.axes_eq signed _).1, fun i v hv => ?_, ?_, ?_, ?_, ?_⟩
  · refine ⟨_, ?_, hreads.axes i v hv⟩
    rw [Update, (hhead.axes_eq signed _).2, List.getElem?_map,
      List.getElem?_range (List.getElem?_eq_some_iff.mp hv).1]
    rfl
  · rw [Update, hhead.buttons_eq]
    exact hreads.button_count
  · rw [Update, hhead.buttons_eq]
    exact (buttons_iff _ _).mpr ⟨hreads.small, hreads.buttons⟩ signed
  · rw [Update, hhead.povs_eq, charValue_small signed hsmall, hreads.hat_count]
  · rw [Update, hhead.povs_eq, charValue_small signed hsmall, hreads.hat_count]
    refine List.ext_getElem? fun i => ?_
    by_cases hi : i < j.hats.length
    · obtain ⟨hlow, heq⟩ := hreads.hats i _ (List.getElem?_eq_getElem hi)
      simp only [Int.toNat_natCast, List.getElem?_map, List.getElem?_range hi,
        List.getElem?_eq_getElem hi, Option.map_some]
      exact congrArg some ((hat_iff _ _).mpr ⟨hlow, heq⟩ signed)
    · rw [List.getElem?_eq_none (by simpa using hi), List.getElem?_eq_none (by omega)]

/-- **What recovers a joystick**, whatever the sign of `char` and the cache before. -/
theorem recovered_iff (s : Settings) :
    (∀ signed c, Recovered s j (JoystickDataCache.Update signed payload c)) ↔
      payload 3 = control_code s ∧ ReadsAs payload j :=
  ⟨fun h => ⟨(h false {}).controlWord, readsAs_of_recovered h⟩,
    fun ⟨hcontrol, hreads⟩ => hreads.recovered hcontrol⟩

/-! ### Packets with a time block -/

/-- The payload starts with the bytes. -/
def Extends (payload : Payload) (bytes : List UInt8) : Prop :=
  ∀ (i : ℕ) b, bytes[i]? = some b → payload i = b

/-- What decides whether a joystick behind a time block is recovered. -/
structure Plain (j : Joystick) : Prop where
  axes : j.axes = []
  buttons : j.button_flags / 256 < 128 ∧ j.button_flags % 256 < 128
  hats : ∀ h ∈ j.hats, (-2 ^ 15 ≤ h ∧ h < 2 ^ 15) ∧ h % 256 < 128

/-- An axis is read one unit off, give or take a step. -/
lemma axis_lost {v : ℚ} (hdef : -1 < (v + 1) / 2 * 255 ∧ (v + 1) / 2 * 255 < 256) :
    quantum < |axisValue (dsFloatToByte v) - v| := by
  obtain ⟨hlow, hhigh⟩ := hdef
  set x := (v + 1) / 2 * 255 with hx
  have hv : v = 2 * x / 255 - 1 := by rw [hx]; ring
  have hlt : ⌊x⌋₊ < 256 := (Nat.floor_lt' (by decide)).mpr (by exact_mod_cast hhigh)
  have hupper : x < ⌊x⌋₊ + 1 := Nat.lt_floor_add_one x
  have hbyte : (dsFloatToByte v).toNat = ⌊x⌋₊ := by
    rw [dsFloatToByte, ← hx, UInt8.toNat_ofNat']
    exact Nat.mod_eq_of_lt hlt
  rw [axisValue, int8Value, charValue_signed, hbyte, quantum]
  by_cases hsmall : ⌊x⌋₊ < 128
  · -- the byte is not negative, and the axis reads too high
    have hnot : ¬ ((⌊x⌋₊ : ℤ) < 0) := by omega
    rw [if_pos hsmall, if_neg hnot, hv]
    refine lt_abs.mpr (.inl ?_)
    have hn : (0 : ℚ) ≤ ⌊x⌋₊ := Nat.cast_nonneg _
    push_cast
    linarith
  · have hneg : (⌊x⌋₊ : ℤ) - 256 < 0 := by omega
    have hpos : 0 ≤ x := by
      by_contra hc
      rw [Nat.floor_of_nonpos (not_le.mp hc).le] at hsmall
      exact hsmall (by decide)
    have hlower : (⌊x⌋₊ : ℚ) ≤ x := Nat.floor_le hpos
    rw [if_neg hsmall, if_pos hneg, hv]
    refine lt_abs.mpr (.inr ?_)
    have hn : (0 : ℚ) ≤ ⌊x⌋₊ := Nat.cast_nonneg _
    push_cast
    linarith

lemma flags_lt (j : Joystick) : j.button_flags < 2 ^ 16 := Nat.mod_lt _ (by decide)

/-- The two bytes of a hat, one by one. -/
lemma hat_data_getElem (hats : List ℤ) {i : ℕ} {h : ℤ} (hi : hats[i]? = some h) :
    (hats.flatMap hat_data)[2 * i]? = some (UInt8.ofInt (h / 256)) ∧
      (hats.flatMap hat_data)[2 * i + 1]? = some (UInt8.ofInt h) := by
  induction hats generalizing i with
  | nil => simp at hi
  | cons g hats ih =>
    cases i with
    | zero =>
      obtain rfl : g = h := by simpa using hi
      exact ⟨rfl, rfl⟩
    | succ i =>
      have hget := ih (by simpa using hi)
      have heven : 2 * (i + 1) = 2 * i + 1 + 1 := by ring
      rw [heven]
      exact hget

/-- Behind the axes come the counts and the hats. -/
lemma js_data_getElem (j : Joystick) (k : ℕ) :
    j.js_data[3 + j.axes.length + k]? = (j.counts ++ j.hats.flatMap hat_data)[k]? := by
  rw [Joystick.js_data, List.getElem?_append_right (by simp; omega),
    List.getElem?_append_right (by simp; omega)]
  congr 1
  simp
  omega

/-- The data of the joystick lies where the cache looks for it. -/
def Located (payload : Payload) (j : Joystick) : Prop :=
  ∀ (i : ℕ) b, j.js_data[i]? = some b → payload (JOYSTICK_POS + i) = b

lemma Located.axis (h : Located payload j) {i : ℕ} {v : ℚ} (hv : j.axes[i]? = some v) :
    payload (JOYSTICK_POS + 3 + i) = dsFloatToByte v := by
  have hi : i < (j.axes.map dsFloatToByte).length := by
    rw [List.length_map]
    exact (List.getElem?_eq_some_iff.mp hv).1
  have hget : j.js_data[3 + i]? = some (dsFloatToByte v) := by
    rw [Joystick.js_data, List.getElem?_append_right (by simp)]
    simp only [List.length_cons, List.length_nil, Nat.zero_add, Nat.reduceAdd,
      Nat.add_sub_cancel_left]
    rw [List.getElem?_append_left hi, List.getElem?_map, hv]
    rfl
  rw [← h _ _ hget]
  push_cast
  congr 1
  ring

lemma Located.tail (h : Located payload j) {k : ℕ} {b : UInt8}
    (hb : (j.counts ++ j.hats.flatMap hat_data)[k]? = some b) :
    payload (JOYSTICK_POS + 3 + j.axes.length + k) = b := by
  rw [← js_data_getElem] at hb
  rw [← h _ _ hb]
  push_cast
  congr 1
  ring

/-- The same, for an offset that is written as one number. -/
lemma Located.tail' (h : Located payload j) {k : ℕ} {b : UInt8} (z : ℤ) (hz : z = 3 + k)
    (hb : (j.counts ++ j.hats.flatMap hat_data)[k]? = some b) :
    payload (JOYSTICK_POS + z + j.axes.length) = b := by
  rw [← h.tail hb, hz]
  congr 1
  ring

/-- The four bytes behind the axes. -/
lemma Located.counts (h : Located payload j) :
    (payload (JOYSTICK_POS + 3 + j.axes.length)).toNat = j.buttons.length ∧
      (payload (JOYSTICK_POS + 4 + j.axes.length)).toNat = j.button_flags / 256 ∧
      (payload (JOYSTICK_POS + 5 + j.axes.length)).toNat = j.button_flags % 256 ∧
      (payload (JOYSTICK_POS + 6 + j.axes.length)).toNat = j.hats.length := by
  have hbuttons := j.buttons_length_le
  have hhats := j.hats_length_le
  have hflags := flags_lt j
  refine ⟨?_, ?_, ?_, ?_⟩
  · rw [h.tail' (k := 0) 3 rfl rfl, UInt8.toNat_ofNat']
    omega
  · rw [h.tail' (k := 1) 4 rfl rfl, UInt8.toNat_ofNat']
    omega
  · rw [h.tail' (k := 2) 5 rfl rfl, UInt8.toNat_ofNat']
  · rw [h.tail' (k := 3) 6 rfl rfl, UInt8.toNat_ofNat']
    omega

/-- The size, which is small, and the number of axes. -/
lemma Located.head (h : Located payload j) :
    (0 < payload JOYSTICK_POS ∧ payload JOYSTICK_POS < 128) ∧
      (payload (JOYSTICK_POS + 2)).toNat = j.axes.length := by
  have haxes := j.axes_length_le
  have hbuttons := j.buttons_length_le
  have hhats := j.hats_length_le
  have hsize : payload JOYSTICK_POS = j.size := by
    rw [← h 0 _ rfl]
    rfl
  have hcount : payload (JOYSTICK_POS + 2) = UInt8.ofNat j.axes.length := h 2 _ rfl
  constructor
  · rw [hsize, small_iff, UInt8.lt_iff_toNat_lt, Joystick.size, UInt8.toNat_ofNat',
      UInt8.toNat_zero]
    omega
  · rw [hcount, UInt8.toNat_ofNat']
    omega

/-- The two bytes of a hat. -/
lemma Located.hat (h : Located payload j) {i : ℕ} {g : ℤ} (hg : j.hats[i]? = some g) :
    payload (JOYSTICK_POS + 7 + j.axes.length + 2 * i) = UInt8.ofInt (g / 256) ∧
      payload (JOYSTICK_POS + 8 + j.axes.length + 2 * i) = UInt8.ofInt g := by
  obtain ⟨hhigh, hlow⟩ := hat_data_getElem j.hats hg
  have hshift : ∀ k, (j.counts ++ j.hats.flatMap hat_data)[4 + k]? =
      (j.hats.flatMap hat_data)[k]? := by
    intro k
    rw [List.getElem?_append_right (by simp [Joystick.counts])]
    simp [Joystick.counts]
  constructor
  · rw [← h.tail ((hshift _).trans hhigh)]
    push_cast
    congr 1
    ring
  · rw [← h.tail ((hshift _).trans hlow)]
    push_cast
    congr 1
    ring

lemma toNat_ofInt (z : ℤ) : ((UInt8.ofInt z).toNat : ℤ) = z % 256 := by
  rw [UInt8.ofInt, UInt8.toNat_ofNat']
  omega

/-- Where the joystick lies, its data decides. -/
lemma readsAs_iff_plain (h : Located payload j) : ReadsAs payload j ↔ Plain j := by
  obtain ⟨hbuttons, hhigh, hlow, hcount⟩ := h.counts
  have hflags := flags_lt j
  have hhat : ∀ (i : ℕ) g, j.hats[i]? = some g →
      ((payload (JOYSTICK_POS + 8 + j.axes.length + 2 * i) < 128 ∧
        int16Value ((payload (JOYSTICK_POS + 7 + j.axes.length + 2 * i)).toNat * 256 +
          (payload (JOYSTICK_POS + 8 + j.axes.length + 2 * i)).toNat) = g) ↔
        (-2 ^ 15 ≤ g ∧ g < 2 ^ 15) ∧ g % 256 < 128) := by
    intro i g hg
    obtain ⟨h1, h2⟩ := h.hat hg
    have hof := toNat_ofInt g
    rw [h1, h2, small_iff, toNat_ofInt, hof, int16Value]
    omega
  constructor
  · intro hreads
    refine ⟨List.eq_nil_iff_forall_not_mem.mpr fun v hv => ?_, ?_, fun g hg => ?_⟩
    · obtain ⟨i, hi⟩ := List.mem_iff_getElem?.mp hv
      have hle := hreads.axes i v hi
      rw [h.axis hi] at hle
      exact absurd hle (not_le.mpr (axis_lost (j.axes_defined v hv)))
    · obtain ⟨hsmall, hsmall'⟩ := hreads.small
      rw [small_iff] at hsmall hsmall'
      exact ⟨by omega, by omega⟩
    · obtain ⟨i, hi⟩ := List.mem_iff_getElem?.mp hg
      exact (hhat i g hi).mp (hreads.hats i g hi)
  · rintro ⟨haxes, ⟨hfhigh, hflow⟩, hhats⟩
    refine ⟨h.head.1, h.head.2, fun i v hv => ?_, hbuttons, ?_, ?_, hcount, fun i g hg => ?_⟩
    · simp [haxes] at hv
    · rw [small_iff, small_iff, hhigh, hlow]
      exact ⟨hfhigh, hflow⟩
    · rw [hhigh, hlow]
      omega
    · exact (hhat i g hg).mpr (hhats g (List.mem_of_getElem? hg))

/-- Behind a time block, the data of the first joystick lies where the cache looks for it. -/
lemma located_of_time {s : Settings} {js : List Joystick}
    (hext : Extends payload (create_robot_packet s)) (htime : s.send_time_data = true)
    (hsent : 5 < s.sent_robot_packets) (hjs : s.joysticks = j :: js) : Located payload j := by
  intro i b hb
  have hget : (create_robot_packet s)[19 + i]? = some b := by
    have hlen : 19 = (header s ++ tz_data s.timeinfo).length := rfl
    have hi := (List.getElem?_eq_some_iff.mp hb).1
    rw [create_robot_packet, if_pos htime, if_pos hsent, hjs, ← List.append_assoc, hlen,
      List.getElem?_append_right (Nat.le_add_right _ _), Nat.add_sub_cancel_left,
      List.flatMap_cons, List.getElem?_append_left hi]
    exact hb
  exact_mod_cast hext _ _ hget

/-- The control word is in every packet. -/
lemma control_of_extends {s : Settings} (hext : Extends payload (create_robot_packet s)) :
    payload 3 = control_code s := hext 3 _ rfl

/-- **When a packet is recovered**, for either sign of `char` and whatever is in memory behind
the packet: with a time block, exactly when joystick 0 has no axes, its flags have neither the
top bit nor bit 7, and its hats are 16-bit numbers whose low bytes are below 128; without one,
exactly when the bytes from offset 19 on, which belong to something else, read as joystick 0. -/
theorem recovered_iff_plain (s : Settings) (j : Joystick) (js : List Joystick)
    (payload : Payload) (hext : Extends payload (create_robot_packet s))
    (hsent : 5 < s.sent_robot_packets) (hjs : s.joysticks = j :: js) :
    (∀ signed c, Recovered s j (JoystickDataCache.Update signed payload c)) ↔
      if s.send_time_data then Plain j else ReadsAs payload j := by
  rw [recovered_iff, and_iff_right (control_of_extends hext)]
  split_ifs with htime
  · exact readsAs_iff_plain (located_of_time hext htime hsent hjs)
  · exact Iff.rfl

/-- The bytes, with zeros behind them. -/
def ofBytes (bytes : List UInt8) : Payload := fun i => bytes.getD i.toNat 0

lemma extends_ofBytes (bytes : List UInt8) : Extends (ofBytes bytes) bytes := by
  intro i b hb
  simp [ofBytes, hb]

/-- An enabled robot with one joystick, and a time block. -/
def timed (j : Joystick) : Settings where
  control_mode := .TELEOPERATED
  alliance := .RED
  position := .POSITION_1
  robot_enabled := true
  estop := false
  fms_comms := false
  robot_comms := true
  send_time_data := true
  sent_robot_packets := 6
  reboot := false
  restart_code := false
  timeinfo := ⟨0, 0, 0, 0, 0, 70, "UTC"⟩
  joysticks := [j]

/-- No axes, one button that is pressed, and a hat at 90 degrees. -/
def buttonAndHat : Joystick where
  axes := []
  buttons := [1]
  hats := [90]
  axes_length_le := by decide
  buttons_length_le := by decide
  hats_length_le := by decide
  axes_defined := nofun

theorem buttonAndHat_recovered :
    let payload := ofBytes (create_robot_packet (timed buttonAndHat))
    Recovered (timed buttonAndHat) buttonAndHat (JoystickDataCache.Update true payload {}) ∧
      Recovered (timed buttonAndHat) buttonAndHat (JoystickDataCache.Update false payload {}) := by
  have h := (recovered_iff_plain (timed buttonAndHat) buttonAndHat [] _ (extends_ofBytes _)
    (by decide) rfl).mpr ⟨rfl, by decide, by decide⟩
  exact ⟨h true {}, h false {}⟩

/-- An axis at rest, the eighth button pressed, and a hat at 180 degrees. -/
def oneOfEach : Joystick where
  axes := [0]
  buttons := [0, 0, 0, 0, 0, 0, 0, 1]
  hats := [180]
  axes_length_le := by decide
  buttons_length_le := by decide
  hats_length_le := by decide
  axes_defined := by
    intro v hv
    rw [List.mem_singleton.mp hv]
    norm_num

theorem oneOfEach_lost :
    let payload := ofBytes (create_robot_packet (timed oneOfEach))
    (∀ signed, (JoystickDataCache.Update signed payload {}).axes.axes = [1]) ∧
      (JoystickDataCache.Update true payload {}).buttons.buttons = 2 ^ 32 - 128 ∧
      (JoystickDataCache.Update true payload {}).povs.povs = [-76] ∧
      ¬ ∀ signed c, Recovered (timed oneOfEach) oneOfEach
        (JoystickDataCache.Update signed payload c) := by
  refine ⟨by decide +kernel, by decide, by decide, fun h => ?_⟩
  have hbuttons := (h true {}).buttons
  revert hbuttons
  decide

end RobotPacket

end Kuavo
