import Mathlib.Data.List.Basic
import Mathlib.Logic.Function.Basic

/-!
Copies that are made part by part, so that others may step in between.
-/

namespace Kuavo.Lib.Copy

/-- How values of a type are copied: the parts, in order, and the copy of one of them. Once all
parts are copied the destination is the source. -/
structure Layout (T : Type*) where
  Part : Type
  parts : List Part
  /-- One part of the first value, put into the second. -/
  copy : Part → T → T → T
  copied : ∀ src dst, parts.foldl (fun d p => copy p src d) dst = src

variable {T : Type*}

namespace Layout

/-- What the destination comes to with the parts that are left. -/
def finish (L : Layout T) (rest : List L.Part) (src dst : T) : T :=
  rest.foldl (fun d p => L.copy p src d) dst

@[simp] lemma finish_nil (L : Layout T) (src dst : T) : L.finish [] src dst = dst := rfl
@[simp] lemma finish_cons (L : Layout T) (p : L.Part) (rest : List L.Part) (src dst : T) :
    L.finish (p :: rest) src dst = L.finish rest src (L.copy p src dst) := rfl
@[simp] lemma finish_parts (L : Layout T) (src dst : T) : L.finish L.parts src dst = src :=
  L.copied src dst

/-- A value that is copied at once. -/
def whole (T : Type*) : Layout T where
  Part := Unit
  parts := [()]
  copy := fun _ src _ => src
  copied := fun _ _ => rfl

end Layout

end Kuavo.Lib.Copy
