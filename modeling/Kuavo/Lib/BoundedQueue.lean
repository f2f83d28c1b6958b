import Kuavo.Lib.Runs
import Mathlib.Data.List.ReduceOption
import Mathlib.Data.Nat.ModEq
import Mathlib.Logic.Function.Basic

/-!
A bounded queue that drops the newest item when it is full, and the circular buffers that
implement one.

The queue keeps the history of its calls: of each push whether it was accepted, of each pop
what it returned. A circular buffer of `c` slots keeps the items of the indexes from `t` on,
each in the slot of its index modulo `c`; the indexes themselves only ever grow.
-/

namespace Kuavo.Lib.BoundedQueue

open Kuavo.Lib.Runs

variable {T : Type*}

structure Queue (T : Type*) where
  items : List T := []
  pushes : List (T × Bool) := []
  pops : List (Option T) := []

inductive Op (T : Type*)
  | push (x : T)
  | pop

def step (capacity : ℕ) (q : Queue T) : Op T → Queue T
  | .push x =>
    if q.items.length < capacity then
      { q with items := q.items ++ [x], pushes := q.pushes ++ [(x, true)] }
    else { q with pushes := q.pushes ++ [(x, false)] }
  | .pop =>
    match q.items with
    | [] => { q with pops := q.pops ++ [none] }
    | x :: rest => { q with items := rest, pops := q.pops ++ [some x] }

lemma step_push_room {capacity : ℕ} {q : Queue T} (x : T) (h : q.items.length < capacity) :
    step capacity q (.push x) =
      { q with items := q.items ++ [x], pushes := q.pushes ++ [(x, true)] } := if_pos h

lemma step_push_full {capacity : ℕ} {q : Queue T} (x : T) (h : ¬ q.items.length < capacity) :
    step capacity q (.push x) = { q with pushes := q.pushes ++ [(x, false)] } := if_neg h

lemma step_pop_nil {capacity : ℕ} {q : Queue T} (h : q.items = []) :
    step capacity q .pop = { q with pops := q.pops ++ [none] } := by
  simp only [step, h]

lemma step_pop_cons {capacity : ℕ} {q : Queue T} {x : T} {rest : List T}
    (h : q.items = x :: rest) :
    step capacity q .pop = { q with items := rest, pops := q.pops ++ [some x] } := by
  simp only [step, h]

/-- The items that were accepted, in order. -/
def accepted (pushes : List (T × Bool)) : List T :=
  pushes.filterMap fun p => if p.2 then some p.1 else none

/-- The number of items that were not. -/
def dropped (pushes : List (T × Bool)) : ℕ := pushes.countP fun p => !p.2

/-- The items that were returned, in order. -/
def returned (pops : List (Option T)) : List T := pops.reduceOption

@[simp] lemma accepted_nil : accepted ([] : List (T × Bool)) = [] := rfl
@[simp] lemma dropped_nil : dropped ([] : List (T × Bool)) = 0 := rfl
@[simp] lemma returned_nil : returned ([] : List (Option T)) = [] := rfl

@[simp] lemma accepted_concat (pushes : List (T × Bool)) (x : T) (b : Bool) :
    accepted (pushes ++ [(x, b)]) = accepted pushes ++ if b then [x] else [] := by
  cases b <;> simp [accepted]

@[simp] lemma dropped_concat (pushes : List (T × Bool)) (x : T) (b : Bool) :
    dropped (pushes ++ [(x, b)]) = dropped pushes + if b then 0 else 1 := by
  cases b <;> simp [dropped]

@[simp] lemma returned_concat (pops : List (Option T)) (o : Option T) :
    returned (pops ++ [o]) = returned pops ++ o.toList := by
  cases o <;> simp [returned, List.reduceOption]

lemma length_pushes (pushes : List (T × Bool)) :
    pushes.length = (accepted pushes).length + dropped pushes := by
  induction pushes using List.reverseRecOn with
  | nil => rfl
  | append_singleton pushes p ih =>
    obtain ⟨x, b⟩ := p
    cases b <;> simp [ih] <;> omega

/-- What was accepted was pushed, in this order. -/
lemma accepted_sublist (pushes : List (T × Bool)) :
    (accepted pushes).Sublist (pushes.map Prod.fst) := by
  induction pushes with
  | nil => exact List.Sublist.slnil
  | cons p pushes ih =>
    obtain ⟨x, b⟩ := p
    cases b
    · exact ih.cons x
    · exact ih.cons_cons x

/-- Nothing is lost or reordered, and there is never too much. -/
structure Fifo (capacity : ℕ) (q : Queue T) : Prop where
  accepted_eq : accepted q.pushes = returned q.pops ++ q.items
  length_le : q.items.length ≤ capacity

lemma fifo_step {capacity : ℕ} {q : Queue T} (h : Fifo capacity q) (op : Op T) :
    Fifo capacity (step capacity q op) := by
  obtain ⟨heq, hle⟩ := h
  cases op with
  | push x =>
    by_cases hroom : q.items.length < capacity
    · rw [step_push_room x hroom]
      refine ⟨by simp [heq], ?_⟩
      rw [List.length_append, List.length_singleton]
      exact hroom
    · rw [step_push_full x hroom]
      exact ⟨by simp [heq], hle⟩
  | pop =>
    rcases hitems : q.items with _ | ⟨x, rest⟩
    · rw [step_pop_nil hitems]
      exact ⟨by simp [heq, hitems], by simp [hitems]⟩
    · rw [step_pop_cons hitems]
      rw [hitems] at heq hle
      exact ⟨by simp [heq], Nat.le_of_succ_le hle⟩

/-- **First in, first out**, in every run from the empty queue. -/
theorem fifo_of_reachable {capacity : ℕ} {q : Queue T} (h : Reachable (step capacity) {} q) :
    Fifo capacity q :=
  h.invariant (I := Fifo capacity) (fun _ op hq => fifo_step hq op) ⟨rfl, Nat.zero_le _⟩

/-! ### Circular buffers -/

/-- The items of the `n` indexes from `t` on. -/
def window (buffer : ℕ → T) (c t n : ℕ) : List T :=
  (List.range' t n).map fun i => buffer (i % c)

@[simp] lemma window_zero (buffer : ℕ → T) (c t : ℕ) : window buffer c t 0 = [] := rfl

@[simp] lemma length_window (buffer : ℕ → T) (c t n : ℕ) :
    (window buffer c t n).length = n := by
  simp [window]

lemma window_succ (buffer : ℕ → T) (c t n : ℕ) :
    window buffer c t (n + 1) = buffer (t % c) :: window buffer c (t + 1) n := by
  simp [window, List.range'_succ]

lemma window_concat (buffer : ℕ → T) (c t n : ℕ) :
    window buffer c t (n + 1) = window buffer c t n ++ [buffer ((t + n) % c)] := by
  simp [window, List.range'_concat]

/-- Indexes less than a round apart have different slots. -/
lemma mod_ne_of_lt {c i j : ℕ} (hij : i < j) (hj : j < i + c) : i % c ≠ j % c := by
  intro h
  have hdvd : c ∣ j - i := (Nat.modEq_iff_dvd' hij.le).mp h
  have hle : c ≤ j - i := Nat.le_of_dvd (Nat.sub_pos_of_lt hij) hdvd
  omega

/-- What is written behind the window, less than a round away from its front, is not in it. -/
lemma window_update {c t n i : ℕ} (buffer : ℕ → T) (x : T) (hlow : t + n ≤ i) (hup : i < t + c) :
    window (Function.update buffer (i % c) x) c t n = window buffer c t n := by
  refine List.map_congr_left fun j hj => ?_
  obtain ⟨htj, hjn⟩ := List.mem_range'_1.mp hj
  have hne : j % c ≠ i % c := mod_ne_of_lt (by omega) (by omega)
  rw [Function.update_of_ne hne]

end Kuavo.Lib.BoundedQueue
