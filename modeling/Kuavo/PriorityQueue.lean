import Kuavo.Lib.Heap
import Kuavo.Lib.Runs

/-!
`lib/common/priority_queue.h`: the queue of the scheduler, a heap in a container.

The comparator is a relation, in which a strict weak order is asked for as the standard
library does; the heap functions of the library are any that keep its laws. Elements are found
by their own equality, of which nothing is asked.
-/

namespace Kuavo.PriorityQueue

open Kuavo.Lib Kuavo.Lib.Heap Kuavo.Lib.Runs

variable {T : Type*} {lt : T → T → Prop} (std : Heap.Functions lt)

/-- The constructors make a heap of what they are given. -/
def construct (c : List T) : List T := std.make_heap c

def empty (m_c : List T) : Bool := m_c.isEmpty

def top (m_c : List T) : Option T := m_c.head?

def push (m_c : List T) (value : T) : List T := std.push_heap (m_c ++ [value])

def emplace (m_c : List T) (value : T) : List T := std.push_heap (m_c ++ [value])

/-- On an empty queue a pop is undefined. -/
def pop (m_c : List T) : Option (T × List T) :=
  if empty m_c then none
  else
    let m_c := std.pop_heap m_c
    m_c.getLast?.map fun ret => (ret, m_c.dropLast)

/-- The first element that equals the value is erased. -/
def remove [BEq T] (m_c : List T) (value : T) : Bool × List T :=
  if m_c.any (· == value) then (true, std.make_heap (m_c.eraseP (· == value)))
  else (false, m_c)

/-! ### One operation -/

lemma push_spec {m_c : List T} (h : IsHeap lt m_c) (value : T) :
    IsHeap lt (push std m_c value) ∧ (push std m_c value).Perm (value :: m_c) :=
  ⟨std.isHeap_push m_c value h,
    (std.push_perm m_c value h).trans (List.perm_append_singleton value m_c)⟩

/-- A pop takes the front, one occurrence of it. -/
lemma pop_spec {m_c : List T} (h : IsHeap lt m_c) (hne : m_c ≠ []) :
    ∃ x c, pop std m_c = some (x, c) ∧ top m_c = some x ∧ m_c.Perm (x :: c) ∧ IsHeap lt c := by
  obtain ⟨x, rest, rfl⟩ := List.exists_cons_of_ne_nil hne
  have hlast : (std.pop_heap (x :: rest)).getLast? = some x := std.pop_last _ h
  have hsplit : (std.pop_heap (x :: rest)).dropLast ++ [x] = std.pop_heap (x :: rest) :=
    List.dropLast_append_getLast? x hlast
  refine ⟨x, (std.pop_heap (x :: rest)).dropLast, ?_, rfl, ?_, std.isHeap_pop _ h⟩
  · simp [pop, empty, hlast]
  · have hperm := std.pop_perm _ h
    rw [← hsplit] at hperm
    exact hperm.symm.trans (List.perm_append_singleton x _)

lemma countP_eraseP {p : T → Bool} (l : List T) :
    (l.eraseP p).countP p = l.countP p - 1 := by
  induction l with
  | nil => rfl
  | cons x l ih =>
    cases hx : p x with
    | true => simp [hx]
    | false => simp [hx, ih]

lemma filter_eraseP {p : T → Bool} (l : List T) :
    (l.eraseP p).filter (fun x => !p x) = l.filter fun x => !p x := by
  induction l with
  | nil => rfl
  | cons x l ih =>
    cases hx : p x with
    | true => simp [hx]
    | false => simp [hx, ih]

variable [BEq T]

/-- A removal reports whether there was an element to remove, and takes one of them. -/
lemma remove_spec {m_c : List T} (h : IsHeap lt m_c) (value : T) :
    IsHeap lt (remove std m_c value).2 ∧
      ((remove std m_c value).1 = true ↔ ∃ x ∈ m_c, (x == value) = true) ∧
      (remove std m_c value).2.countP (· == value) = m_c.countP (· == value) - 1 ∧
      ((remove std m_c value).2.filter fun x => !(x == value)).Perm
        (m_c.filter fun x => !(x == value)) := by
  unfold remove
  by_cases hany : m_c.any (· == value) = true
  · rw [if_pos hany]
    refine ⟨std.isHeap_make _, ?_, ?_, ?_⟩
    · simpa using hany
    · rw [(std.make_perm _).countP_eq, countP_eraseP]
    · rw [← filter_eraseP m_c]
      exact (std.make_perm _).filter _
  · rw [if_neg hany]
    have hnone : m_c.countP (· == value) = 0 := by
      rw [List.countP_eq_zero]
      intro x hx he
      exact hany (List.any_eq_true.mpr ⟨x, hx, he⟩)
    refine ⟨h, ?_, by rw [hnone], .refl _⟩
    simpa using hany

/-! ### Runs -/

inductive Op (T : Type*)
  | push (value : T)
  | emplace (value : T)
  | pop
  | remove (value : T)

/-- A pop of an empty queue is undefined; it is left out. -/
def step (m_c : List T) : Op T → List T
  | .push value => push std m_c value
  | .emplace value => emplace std m_c value
  | .pop => match pop std m_c with
    | some (_, c) => c
    | none => m_c
  | .remove value => (remove std m_c value).2

/-- What an operation owes, as the class describes it. -/
def Law (m_c : List T) (op : Op T) : Prop :=
  IsHeap lt m_c ∧ IsHeap lt (step std m_c op) ∧
  match op with
  | .push value => (push std m_c value).Perm (value :: m_c)
  | .emplace value => (emplace std m_c value).Perm (value :: m_c)
  | .pop => m_c ≠ [] →
    ∃ x c, pop std m_c = some (x, c) ∧ (∀ y ∈ m_c, ¬ lt x y) ∧ m_c.Perm (x :: c)
  | .remove value =>
    ((remove std m_c value).1 = true ↔ ∃ x ∈ m_c, (x == value) = true) ∧
    (∀ x ∈ (remove std m_c value).2, ¬ (x == value) = true) ∧
    ((remove std m_c value).2.filter fun x => !(x == value)).Perm
      (m_c.filter fun x => !(x == value))

/-- What is removed is there at most once. -/
def Once (m_c : List T) : Op T → Prop
  | .remove value => m_c.countP (· == value) ≤ 1
  | _ => True

lemma isHeap_step (m_c : List T) (op : Op T) (h : IsHeap lt m_c) : IsHeap lt (step std m_c op) := by
  cases op with
  | push value => exact (push_spec std h value).1
  | emplace value => exact (push_spec std h value).1
  | pop =>
    by_cases hne : m_c = []
    · subst hne
      exact h
    · obtain ⟨x, c, hpop, -, -, hc⟩ := pop_spec std h hne
      simpa only [step, hpop] using hc
  | remove value => exact (remove_spec std h value).1

lemma law_iff [IsStrictWeakOrder T lt] {m_c : List T} (h : IsHeap lt m_c) (op : Op T) :
    Law std m_c op ↔ Once m_c op := by
  have hstep := isHeap_step std m_c op h
  cases op with
  | push value => exact ⟨fun _ => trivial, fun _ => ⟨h, hstep, (push_spec std h value).2⟩⟩
  | emplace value => exact ⟨fun _ => trivial, fun _ => ⟨h, hstep, (push_spec std h value).2⟩⟩
  | pop =>
    refine ⟨fun _ => trivial, fun _ => ⟨h, hstep, fun hne => ?_⟩⟩
    obtain ⟨x, c, hpop, htop, hperm, -⟩ := pop_spec std h hne
    exact ⟨x, c, hpop, h.front htop, hperm⟩
  | remove value =>
    obtain ⟨-, hfound, hcount, hrest⟩ := remove_spec std h value
    have hgone : (∀ x ∈ (remove std m_c value).2, ¬ (x == value) = true) ↔
        m_c.countP (· == value) ≤ 1 := by
      rw [← List.countP_eq_zero (p := (· == value)), hcount]
      omega
    constructor
    · rintro ⟨-, -, -, hnone, -⟩
      exact hgone.mp hnone
    · intro honce
      exact ⟨h, hstep, hfound, hgone.mpr honce, hrest⟩

/-- **Removal.** However the queue is used, every operation does what it owes exactly if no
value is removed that is there more than once. -/
theorem each_remove_iff [IsStrictWeakOrder T lt] (c : List T) (l : List (Op T)) :
    Each (step std) (Law std) (construct std c) l ↔ Each (step std) Once (construct std c) l :=
  each_congr (I := IsHeap lt) (fun m_c op h _ => isHeap_step std m_c op h)
    (fun _ op h => law_iff std h op) (std.isHeap_make c) l

/-- Numbers by `std::less`. -/
def less (a b : ℕ) : Prop := a < b

instance : IsStrictWeakOrder ℕ less := isStrictWeakOrder_key id
instance : DecidableRel less := fun a b => inferInstanceAs (Decidable (a < b))

/-- Of two equal elements one stays. -/
theorem remove_leaves_equal :
    remove (bySorting less) [5, 5] 5 = (true, [5]) ∧
    ¬ Each (step (bySorting less)) (Law (bySorting less)) (construct (bySorting less) [])
      [.push 5, .push 5, .remove 5] := by
  have hremove : remove (bySorting less) [5, 5] 5 = (true, [5]) := by decide
  refine ⟨hremove, fun h => ?_⟩
  obtain ⟨-, -, ⟨-, -, -, hnone, -⟩, -⟩ := h
  exact hnone 5 (by decide) rfl

theorem each_remove_iff_pops :
    Each (step (bySorting less)) (Law (bySorting less)) (construct (bySorting less) [1, 2])
      [.push 3, .pop, .remove 1, .remove 7] := by
  refine (each_remove_iff (bySorting less) [1, 2] _).mpr ⟨trivial, trivial, ?_, ?_, trivial⟩
  · change List.countP _ _ ≤ 1
    decide
  · change List.countP _ _ ≤ 1
    decide

end Kuavo.PriorityQueue
