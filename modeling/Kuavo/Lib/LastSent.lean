import Mathlib.Data.List.Basic
import Mathlib.Tactic.Common

/-!
The last entry of a given kind that a log holds for an address.

A log is a list of addressed entries, the newest at its end; `f` reads a value off the
entries of the kind asked for and is `none` on all others.
-/

namespace Kuavo.Lib.LastSent

variable {κ α β : Type*}

/-- The same entry for every address of a list. -/
def toAll (ks : List κ) (a : α) : List (κ × α) := ks.map fun k => (k, a)

@[simp] lemma toAll_nil (a : α) : toAll ([] : List κ) a = [] := rfl

lemma mem_toAll {ks : List κ} {a : α} {e : κ × α} :
    e ∈ toAll ks a ↔ e.1 ∈ ks ∧ e.2 = a := by
  obtain ⟨k, b⟩ := e
  simp [toAll, eq_comm]

variable [DecidableEq κ] (f : α → Option β)

/-- The value of the newest entry for `k` that `f` reads. -/
def last : List (κ × α) → κ → Option β
  | [], _ => none
  | e :: l, k => (last l k).or (if e.1 = k then f e.2 else none)

@[simp] lemma last_nil (k : κ) : last f ([] : List (κ × α)) k = none := rfl

lemma last_append (l m : List (κ × α)) (k : κ) :
    last f (l ++ m) k = (last f m k).or (last f l k) := by
  induction l with
  | nil => simp
  | cons e l ih => simp [last, ih, Option.or_assoc]

lemma last_toAll (ks : List κ) (a : α) (k : κ) :
    last f (toAll ks a) k = if k ∈ ks then f a else none := by
  induction ks with
  | nil => simp
  | cons j ks ih =>
    change (last f (toAll ks a) k).or (if j = k then f a else none) = _
    rw [ih]
    by_cases hk : k ∈ ks <;> by_cases hj : j = k <;> simp [hk, hj, Ne.symm]

variable {f}

/-- Entries that `f` does not read leave the last one where it was. -/
lemma last_append_of_none {l m : List (κ × α)} (h : ∀ e ∈ m, f e.2 = none) (k : κ) :
    last f (l ++ m) k = last f l k := by
  have hm : last f m k = none := by
    induction m with
    | nil => rfl
    | cons e m ih =>
      have he : f e.2 = none := h e (by simp)
      simp [last, ih (fun x hx => h x (by simp [hx])), he]
  simp [last_append, hm]

/-- Entries for other addresses do not matter. -/
lemma last_filter {p : κ → Bool} {k : κ} (hk : p k = true) (l : List (κ × α)) :
    last f (l.filter fun e => p e.1) k = last f l k := by
  induction l with
  | nil => rfl
  | cons e l ih =>
    by_cases he : p e.1 = true
    · simp only [List.filter_cons, he, if_true, last, ih]
    · have hne : e.1 ≠ k := fun h => he (h ▸ hk)
      simp [he, last, hne, ih]

lemma last_append_toAll {l : List (κ × α)} {ks : List κ} {a : α} {b : β} (h : f a = some b)
    {k : κ} (hk : k ∈ ks) : last f (l ++ toAll ks a) k = some b := by
  simp [last_append, last_toAll, hk, h]

end Kuavo.Lib.LastSent
