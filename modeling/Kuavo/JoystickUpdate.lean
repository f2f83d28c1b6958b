import Kuavo.DriverStation
import Kuavo.Lib.Logged
import Mathlib.Algebra.Order.Ring.Int

/-!
The accesses of `JoystickDataCache::Update` in `lib/ds/FRCDriverStation.cpp`.

The payload says itself how many axes and hats it has and where they lie, and the length that
comes with it is not looked at. What the functions read and write is logged here beside their
values.
-/

namespace Kuavo

open Kuavo.Lib Kuavo.Lib.Logged

def HAL_kMaxJoystickAxes : ℕ := 12
def HAL_kMaxJoystickPOVs : ℕ := 12

/-- A byte of the payload that is read, or an entry of an array that is read or written:
`netcommAxes.axes`, the axes of joystick 0 and their raw values, its hats. -/
inductive Access
  | payload (offset : ℤ)
  | netcommAxes (i : ℕ)
  | raw (i : ℕ)
  | axes (i : ℕ)
  | povs (i : ℕ)
  deriving DecidableEq

/-- Inside a payload of `payload_len` bytes, or inside the array. -/
def Access.InBounds (payload_len : ℕ) : Access → Prop
  | .payload offset => 0 ≤ offset ∧ offset < payload_len
  | .netcommAxes i | .raw i | .axes i => i < HAL_kMaxJoystickAxes
  | .povs i => i < HAL_kMaxJoystickPOVs

instance (payload_len : ℕ) (a : Access) : Decidable (a.InBounds payload_len) :=
  match a with
  | .payload _ => inferInstanceAs (Decidable (_ ∧ _))
  | .netcommAxes _ | .raw _ | .axes _ | .povs _ => inferInstanceAs (Decidable (_ < _))

namespace JoystickDataCache

variable (signed : Bool) (payload : Payload)

def readPayload (offset : ℤ) : Logged Access UInt8 := access (.payload offset) (payload offset)

namespace Accesses

def HAL_GetJoystickAxesInternal (axes : HAL_JoystickAxes) : Logged Access HAL_JoystickAxes := do
  let joystick_size ← readPayload payload JOYSTICK_POS
  if 0 < charValue signed joystick_size then
    let numAxes ← readPayload payload (JOYSTICK_POS + 2)
    let count := charValue signed numAxes
    let bytes ← each (List.range count.toNat) fun (i : ℕ) => do
      let value ← readPayload payload (JOYSTICK_POS + 3 + i)
      access (.netcommAxes i) value
    let values ← each (List.range count.toNat) fun (i : ℕ) => do
      let value ← access (.netcommAxes i) (bytes.getD i 0)
      let value ← access (.raw i) value
      access (.axes i) (axisValue value)
    return { count := count, axes := values, raw := bytes }
  else
    return axes

def HAL_GetJoystickPOVsInternal (povs : HAL_JoystickPOVs) : Logged Access HAL_JoystickPOVs := do
  let joystick_size ← readPayload payload JOYSTICK_POS
  if 0 < charValue signed joystick_size then
    let numAxes ← readPayload payload (JOYSTICK_POS + 2)
    let offset := 6 + JOYSTICK_POS + charValue signed numAxes
    let numHats ← readPayload payload offset
    let count := charValue signed numHats
    let values ← each (List.range count.toNat) fun (i : ℕ) => do
      let high ← readPayload payload (offset + 1 + 2 * i)
      let low ← readPayload payload (offset + 2 + 2 * i)
      access (.povs i) (int16Value (charValue signed high * 256 + charValue signed low))
    return { count := count, povs := values }
  else
    return povs

def HAL_GetJoystickButtonsInternal (buttons : HAL_JoystickButtons) :
    Logged Access HAL_JoystickButtons := do
  let joystick_size ← readPayload payload JOYSTICK_POS
  if 0 < charValue signed joystick_size then
    let numAxes ← readPayload payload (JOYSTICK_POS + 2)
    let offset := JOYSTICK_POS + 3 + charValue signed numAxes
    let count ← readPayload payload offset
    let high ← readPayload payload (offset + 1)
    let low ← readPayload payload (offset + 2)
    return {
      count := count.toNat
      buttons := ((charValue signed high * 256 + charValue signed low) % 2 ^ 32).toNat }
  else
    return buttons

def Update (c : JoystickDataCache) : Logged Access JoystickDataCache := do
  let axes ← HAL_GetJoystickAxesInternal signed payload c.axes
  let povs ← HAL_GetJoystickPOVsInternal signed payload c.povs
  let buttons ← HAL_GetJoystickButtonsInternal signed payload c.buttons
  let controlWord ← readPayload payload 3
  return { axes := axes, povs := povs, buttons := buttons, controlWord := ⟨controlWord⟩ }

/-! ### The values are those of the model -/

lemma value_axes (axes : HAL_JoystickAxes) :
    (HAL_GetJoystickAxesInternal signed payload axes).value =
      JoystickDataCache.HAL_GetJoystickAxesInternal signed payload axes := by
  unfold HAL_GetJoystickAxesInternal JoystickDataCache.HAL_GetJoystickAxesInternal hasJoystick
  by_cases h : 0 < charValue signed (payload JOYSTICK_POS)
  · simp only [readPayload, value_bind, value_access, value_each, h, if_true, decide_true,
      value_pure, List.map_map, HAL_JoystickAxes.mk.injEq, true_and, and_true]
    refine List.map_congr_left fun i hi => ?_
    rw [List.getD_eq_getElem?_getD, List.getElem?_map,
      List.getElem?_range (List.mem_range.mp hi)]
    rfl
  · simp [readPayload, h]

lemma value_povs (povs : HAL_JoystickPOVs) :
    (HAL_GetJoystickPOVsInternal signed payload povs).value =
      JoystickDataCache.HAL_GetJoystickPOVsInternal signed payload povs := by
  unfold HAL_GetJoystickPOVsInternal JoystickDataCache.HAL_GetJoystickPOVsInternal hasJoystick
  by_cases h : 0 < charValue signed (payload JOYSTICK_POS) <;> simp [readPayload, h]

lemma value_buttons (buttons : HAL_JoystickButtons) :
    (HAL_GetJoystickButtonsInternal signed payload buttons).value =
      JoystickDataCache.HAL_GetJoystickButtonsInternal signed payload buttons := by
  unfold HAL_GetJoystickButtonsInternal JoystickDataCache.HAL_GetJoystickButtonsInternal hasJoystick
  by_cases h : 0 < charValue signed (payload JOYSTICK_POS) <;> simp [readPayload, h]

/-- The logged function computes what `Update` does. -/
theorem value_update (c : JoystickDataCache) :
    (Update signed payload c).value = JoystickDataCache.Update signed payload c := by
  simp only [Update, value_bind, value_pure, value_axes, value_povs, value_buttons]
  rfl

/-! ### What stays in bounds -/

variable (payload_len : ℕ)

/-- How many axes and hats the payload says there are; the number of hats lies behind the axes and
the buttons. -/
def axisCount : ℤ := charValue signed (payload (JOYSTICK_POS + 2))
def hatCount : ℤ := charValue signed (payload (6 + JOYSTICK_POS + axisCount signed payload))

lemma hasJoystick_iff : hasJoystick signed payload = true ↔ 0 < charValue signed (payload 19) :=
  decide_eq_true_iff

/-- Where each round of a loop asks for more than the one before, the last round decides. -/
lemma forall_rounds_iff {P : ℕ → Prop} (hP : ∀ i j, i ≤ j → P j → P i) (n : ℤ) :
    (∀ i : ℕ, i < n.toNat → P i) ↔ (0 < n → P (n.toNat - 1)) := by
  constructor
  · intro h hn
    apply h
    omega
  · intro h i hi
    apply hP i (n.toNat - 1)
    · omega
    · exact h (by omega)

/-- The loop that reads the axes. -/
lemma axes_loop_iff (n : ℤ) :
    (∀ i : ℕ, i < n.toNat → (0 ≤ 19 + 3 + (i : ℤ) ∧ 19 + 3 + (i : ℤ) < payload_len) ∧ i < 12) ↔
      n ≤ 12 ∧ (0 < n → 22 + n ≤ payload_len) := by
  rw [forall_rounds_iff]
  · omega
  · intro i j hij hj
    omega

/-- The loop that reads the hats. -/
lemma povs_loop_iff {offset : ℤ} (hoffset : 0 ≤ offset) (c : ℤ) :
    (∀ i : ℕ, i < c.toNat → (0 ≤ offset + 1 + 2 * i ∧ offset + 1 + 2 * i < payload_len) ∧
        (0 ≤ offset + 2 + 2 * i ∧ offset + 2 + 2 * i < payload_len) ∧ i < 12) ↔
      c ≤ 12 ∧ (0 < c → offset + 1 + 2 * c ≤ payload_len) := by
  rw [forall_rounds_iff]
  · omega
  · intro i j hij hj
    omega

lemma all_axes (axes : HAL_JoystickAxes) :
    (HAL_GetJoystickAxesInternal signed payload axes).All (Access.InBounds payload_len) ↔
      20 ≤ payload_len ∧ (hasJoystick signed payload = true →
        22 ≤ payload_len ∧ axisCount signed payload ≤ 12 ∧
          (0 < axisCount signed payload → 22 + axisCount signed payload ≤ payload_len)) := by
  have hn : charValue signed (payload (19 + 2)) = axisCount signed payload := rfl
  simp only [HAL_GetJoystickAxesInternal, readPayload, all_bind, all_ite, all_each, all_access,
    all_pure]
  simp only [value_access, List.mem_range, hasJoystick_iff, Access.InBounds,
    JOYSTICK_POS, HAL_kMaxJoystickAxes, hn]
  rw [← axes_loop_iff]
  constructor
  · rintro ⟨hsize, hjoystick, -⟩
    refine ⟨by omega, fun h => ?_⟩
    obtain ⟨hcount, hloop, -⟩ := hjoystick h
    exact ⟨by omega, hloop⟩
  · rintro ⟨hsize, hjoystick⟩
    refine ⟨by omega, fun h => ?_, fun _ => trivial⟩
    obtain ⟨hcount, hloop⟩ := hjoystick h
    have hentry : ∀ i : ℕ, i < (axisCount signed payload).toNat → i < 12 := fun i hi =>
      (hloop i hi).2
    exact ⟨by omega, hloop, fun i hi => ⟨hentry i hi, hentry i hi, hentry i hi⟩, trivial⟩

lemma all_povs (povs : HAL_JoystickPOVs) :
    (HAL_GetJoystickPOVsInternal signed payload povs).All (Access.InBounds payload_len) ↔
      20 ≤ payload_len ∧ (hasJoystick signed payload = true →
        22 ≤ payload_len ∧
          (0 ≤ 25 + axisCount signed payload ∧ 26 + axisCount signed payload ≤ payload_len) ∧
          hatCount signed payload ≤ 12 ∧
          (0 < hatCount signed payload →
            26 + axisCount signed payload + 2 * hatCount signed payload ≤ payload_len)) := by
  have hn : charValue signed (payload (19 + 2)) = axisCount signed payload := rfl
  have hc : charValue signed (payload (6 + 19 + axisCount signed payload)) =
    hatCount signed payload := rfl
  simp only [HAL_GetJoystickPOVsInternal, readPayload, all_bind, all_ite, all_each, all_access,
    all_pure]
  simp only [value_access, List.mem_range, hasJoystick_iff, Access.InBounds,
    JOYSTICK_POS, HAL_kMaxJoystickPOVs, hn, hc]
  constructor
  · rintro ⟨hsize, hjoystick, -⟩
    refine ⟨by omega, fun h => ?_⟩
    obtain ⟨hcount, hoffset, hloop, -⟩ := hjoystick h
    obtain ⟨hmax, hlast⟩ := (povs_loop_iff payload_len (by omega) _).mp hloop
    exact ⟨by omega, by omega, hmax, fun h0 => by have := hlast h0; omega⟩
  · rintro ⟨hsize, hjoystick⟩
    refine ⟨by omega, fun h => ?_, fun _ => trivial⟩
    obtain ⟨hcount, hoffset, hmax, hlast⟩ := hjoystick h
    have hstart : 0 ≤ 6 + 19 + axisCount signed payload := by omega
    have hloop := (povs_loop_iff payload_len hstart (hatCount signed payload)).mpr
      ⟨hmax, fun h0 => by have := hlast h0; omega⟩
    exact ⟨by omega, by omega, hloop, trivial⟩

lemma all_buttons (buttons : HAL_JoystickButtons) :
    (HAL_GetJoystickButtonsInternal signed payload buttons).All (Access.InBounds payload_len) ↔
      20 ≤ payload_len ∧ (hasJoystick signed payload = true →
        22 ≤ payload_len ∧
          0 ≤ 22 + axisCount signed payload ∧ 25 + axisCount signed payload ≤ payload_len) := by
  have hn : charValue signed (payload (19 + 2)) = axisCount signed payload := rfl
  simp only [HAL_GetJoystickButtonsInternal, readPayload, all_bind, all_ite, all_access, all_pure]
  simp only [value_access, hasJoystick_iff, Access.InBounds, JOYSTICK_POS, hn]
  constructor
  · rintro ⟨hsize, hjoystick, -⟩
    refine ⟨by omega, fun h => ?_⟩
    have := hjoystick h
    omega
  · rintro ⟨hsize, hjoystick⟩
    refine ⟨by omega, fun h => ?_, fun _ => trivial⟩
    have := hjoystick h
    exact ⟨by omega, by omega, by omega, by omega, trivial⟩

/-- The payload is as long as what it says of itself needs, and says no more than there is room
for. -/
structure Fits : Prop where
  header : 20 ≤ payload_len
  joystick : hasJoystick signed payload = true →
    22 ≤ payload_len ∧ (-22 ≤ axisCount signed payload ∧ axisCount signed payload ≤ 12) ∧
      26 + axisCount signed payload ≤ payload_len ∧ hatCount signed payload ≤ 12 ∧
      26 + axisCount signed payload + 2 * hatCount signed payload ≤ payload_len

/-- **When `Update` stays in bounds**, for every payload, every length and either sign of `char`:
exactly if the payload is as long as it says. -/
theorem update_inBounds_iff (c : JoystickDataCache) :
    (Update signed payload c).All (Access.InBounds payload_len) ↔
      Fits signed payload payload_len := by
  simp only [Update, all_bind, all_axes, all_povs, all_buttons, readPayload, all_access, all_pure,
    Access.InBounds]
  constructor
  · rintro ⟨⟨hsize, haxes⟩, ⟨-, hpovs⟩, ⟨-, hbuttons⟩, -⟩
    refine ⟨hsize, fun h => ?_⟩
    obtain ⟨hcount, hmax, -⟩ := haxes h
    obtain ⟨-, hoffset, hhats, hlast⟩ := hpovs h
    obtain ⟨-, hlow, -⟩ := hbuttons h
    refine ⟨hcount, ⟨by omega, hmax⟩, hoffset.2, hhats, ?_⟩
    by_cases h0 : 0 < hatCount signed payload
    · exact hlast h0
    · omega
  · rintro ⟨hsize, hjoystick⟩
    refine ⟨⟨hsize, fun h => ?_⟩, ⟨hsize, fun h => ?_⟩, ⟨hsize, fun h => ?_⟩, ?_⟩
    all_goals try have := hjoystick h
    · exact ⟨by omega, by omega, fun _ => by omega⟩
    · exact ⟨by omega, by omega, by omega, fun _ => by omega⟩
    · exact ⟨by omega, by omega, by omega⟩
    · exact ⟨by omega, trivial⟩

/-- A payload with a joystick that has a hundred axes. -/
def manyAxes : Payload := fun i =>
  if i = JOYSTICK_POS then 1 else if i = JOYSTICK_POS + 2 then 100 else 0

/-- Its first 22 bytes make `Update` read behind them and write behind the arrays. -/
theorem manyAxes_out_of_bounds :
    .payload 22 ∈ (Update true manyAxes {}).log ∧ .axes 12 ∈ (Update true manyAxes {}).log ∧
      ¬ (Update true manyAxes {}).All (Access.InBounds 22) := by
  have haxes : .axes 12 ∈ (Update true manyAxes {}).log := by decide +kernel
  refine ⟨by decide +kernel, haxes, fun h => ?_⟩
  exact absurd (h (.axes 12) haxes) (by decide)

end Accesses

end JoystickDataCache

end Kuavo
