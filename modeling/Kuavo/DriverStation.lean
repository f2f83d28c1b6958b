import Mathlib.Algebra.Group.Int.Defs
import Mathlib.Data.Rat.Defs
import Mathlib.Logic.Function.Basic
import Mathlib.Tactic.Common

/-!
`lib/ds/FRCDriverStation.cpp`: the three caches between the thread that receives packets and
the main loop, and the control word that the main loop samples.

A payload is a function of the offset. Of a cache the entry of joystick 0 is kept, the only
one that a packet writes.
-/

namespace Kuavo

/-- The low byte of a control word; packets carry no more and the rest stays zero. -/
structure HAL_ControlWord where
  low : UInt8 := 0
  deriving DecidableEq

namespace HAL_ControlWord

def enabled (w : HAL_ControlWord) : Bool := w.low.toNat.testBit 0
def autonomous (w : HAL_ControlWord) : Bool := w.low.toNat.testBit 1
def test (w : HAL_ControlWord) : Bool := w.low.toNat.testBit 2
def eStop (w : HAL_ControlWord) : Bool := w.low.toNat.testBit 3
def fmsAttached (w : HAL_ControlWord) : Bool := w.low.toNat.testBit 4
def dsAttached (w : HAL_ControlWord) : Bool := w.low.toNat.testBit 5

end HAL_ControlWord

/-! ### `DSControlWord` -/

namespace DSControlWord

def isEnabled (w : HAL_ControlWord) : Bool := w.enabled && w.dsAttached
def isDisabled (w : HAL_ControlWord) : Bool := !(w.enabled && w.dsAttached)
def isEStopped (w : HAL_ControlWord) : Bool := w.eStop
def isAutonomous (w : HAL_ControlWord) : Bool := w.autonomous
def isTeleop (w : HAL_ControlWord) : Bool := !(w.autonomous || w.test)
def isTest (w : HAL_ControlWord) : Bool := w.test
def isDSAttached (w : HAL_ControlWord) : Bool := w.dsAttached

end DSControlWord

/-! ### Packets -/

/-- The bytes of a payload, and of the memory around it. -/
abbrev Payload := ℤ → UInt8

def JOYSTICK_POS : ℤ := 19

/-- The value of a `char`, which is signed on some platforms. -/
def charValue (signed : Bool) (b : UInt8) : ℤ :=
  if signed ∧ 128 ≤ b then (b.toNat : ℤ) - 256 else b.toNat

def int8Value (b : UInt8) : ℤ := charValue true b

/-- The conversion to `int16_t`. -/
def int16Value (z : ℤ) : ℤ := (z + 2 ^ 15) % 2 ^ 16 - 2 ^ 15

structure HAL_JoystickAxes where
  count : ℤ := 0
  axes : List ℚ := []
  raw : List UInt8 := []

structure HAL_JoystickPOVs where
  count : ℤ := 0
  povs : List ℤ := []

structure HAL_JoystickButtons where
  buttons : ℕ := 0
  count : ℕ := 0
  deriving DecidableEq

structure JoystickDataCache where
  axes : HAL_JoystickAxes := {}
  povs : HAL_JoystickPOVs := {}
  buttons : HAL_JoystickButtons := {}
  controlWord : HAL_ControlWord := {}

namespace JoystickDataCache

variable (signed : Bool) (payload : Payload)

/-- Whether the payload says that joystick 0 is there. -/
def hasJoystick : Bool := 0 < charValue signed (payload JOYSTICK_POS)

def axisValue (b : UInt8) : ℚ :=
  if int8Value b < 0 then int8Value b / 128 else int8Value b / 127

def HAL_GetJoystickAxesInternal (axes : HAL_JoystickAxes) : HAL_JoystickAxes :=
  if hasJoystick signed payload then
    let count := charValue signed (payload (JOYSTICK_POS + 2))
    let bytes := (List.range count.toNat).map fun (i : ℕ) => payload (JOYSTICK_POS + 3 + i)
    { count := count, axes := bytes.map axisValue, raw := bytes }
  else axes

def HAL_GetJoystickPOVsInternal (povs : HAL_JoystickPOVs) : HAL_JoystickPOVs :=
  if hasJoystick signed payload then
    let offset := 6 + JOYSTICK_POS + charValue signed (payload (JOYSTICK_POS + 2))
    let count := charValue signed (payload offset)
    { count := count
      povs := (List.range count.toNat).map fun (i : ℕ) =>
        int16Value (charValue signed (payload (offset + 1 + 2 * i)) * 256 +
          charValue signed (payload (offset + 2 + 2 * i))) }
  else povs

def HAL_GetJoystickButtonsInternal (buttons : HAL_JoystickButtons) : HAL_JoystickButtons :=
  if hasJoystick signed payload then
    let offset := JOYSTICK_POS + 3 + charValue signed (payload (JOYSTICK_POS + 2))
    { count := (payload offset).toNat
      buttons := ((charValue signed (payload (offset + 1)) * 256 +
        charValue signed (payload (offset + 2))) % 2 ^ 32).toNat }
  else buttons

/-- The control word is the byte at offset three, whatever the rest of the packet says. -/
def Update (c : JoystickDataCache) : JoystickDataCache where
  axes := HAL_GetJoystickAxesInternal signed payload c.axes
  povs := HAL_GetJoystickPOVsInternal signed payload c.povs
  buttons := HAL_GetJoystickButtonsInternal signed payload c.buttons
  controlWord := ⟨payload 3⟩

end JoystickDataCache

/-! ### The caches -/

structure FRCDriverStation where
  newestControlWord : HAL_ControlWord := {}
  caches : Fin 3 → JoystickDataCache := fun _ => {}
  currentRead : Fin 3 := 0
  currentReadLocal : Fin 3 := 0
  currentCache : Option (Fin 3) := none
  lastGiven : Fin 3 := 1
  cacheToUpdate : Fin 3 := 2

namespace FRCDriverStation

def newDataOccur (signed : Bool) (d : FRCDriverStation) (payload : Payload) : FRCDriverStation :=
  let d := { d with
    caches := Function.update d.caches d.cacheToUpdate
      ((d.caches d.cacheToUpdate).Update signed payload) }
  let given := d.cacheToUpdate
  match d.currentCache with
  | none =>
    { d with
      currentCache := some given
      cacheToUpdate := d.currentReadLocal
      currentReadLocal := d.lastGiven
      lastGiven := given }
  | some prev => { d with currentCache := some given, cacheToUpdate := prev, lastGiven := given }

/-- Zeroes the control word of the cache that readers use. -/
def zeroCurrent (d : FRCDriverStation) : FRCDriverStation :=
  { d with
    caches := Function.update d.caches d.currentRead
      { d.caches d.currentRead with controlWord := {} } }

/-- `HAL_RefreshDSData`, and whether it took a new cache. -/
def HAL_RefreshDSData (d : FRCDriverStation) : FRCDriverStation × Bool :=
  let controlWord := (d.caches d.lastGiven).controlWord
  let prev := d.currentCache
  let d := { d with currentCache := none, currentRead := prev.getD d.currentRead }
  let d := if controlWord.dsAttached then d else d.zeroCurrent
  ({ d with newestControlWord := (d.caches d.currentRead).controlWord }, prev.isSome)

/-- The cache that readers use after a refresh. -/
def nextRead (d : FRCDriverStation) : Fin 3 := d.currentCache.getD d.currentRead

lemma refresh_attached {d : FRCDriverStation}
    (h : (d.caches d.lastGiven).controlWord.dsAttached = true) :
    d.HAL_RefreshDSData.1 = { d with
      currentCache := none
      currentRead := d.nextRead
      newestControlWord := (d.caches d.nextRead).controlWord } := by
  unfold HAL_RefreshDSData nextRead
  simp only [h, if_true]

lemma refresh_detached {d : FRCDriverStation}
    (h : (d.caches d.lastGiven).controlWord.dsAttached = false) :
    d.HAL_RefreshDSData.1 = { d with
      currentCache := none
      currentRead := d.nextRead
      caches := Function.update d.caches d.nextRead
        { d.caches d.nextRead with controlWord := {} }
      newestControlWord := {} } := by
  unfold HAL_RefreshDSData nextRead zeroCurrent
  simp only [h, Bool.false_eq_true, if_false, Function.update_self]

end FRCDriverStation

end Kuavo
