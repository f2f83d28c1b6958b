import Mathlib.Data.List.Sort
import Mathlib.Order.RelClasses

/-!
Binary heaps in a list, and the functions that keep them.

The entry at `i` has its children at `2 * i + 1` and `2 * i + 2`; in a heap no entry is before
a child of it, so that no entry of the list is after its front. What the functions do in the
list is open: a `Functions` is any that keep the laws, and sorting gives one.
-/

namespace Kuavo.Lib.Heap

variable {α : Type*} (lt : α → α → Prop)

/-- No entry is before its child; the parent of the entry at `i + 1` is at `i / 2`. -/
def IsHeap (l : List α) : Prop :=
  ∀ i p x, l[i / 2]? = some p → l[i + 1]? = some x → ¬ lt p x

lemma isHeap_nil : IsHeap lt [] := fun i p x hp => absurd hp (by simp)

section WeakOrder

variable [IsStrictWeakOrder α lt]

/-- Neither before the other is an equivalence, and order is connected over it. -/
lemma connected : IsOrderConnected α lt where
  conn a b c hac := by
    by_contra hno
    obtain ⟨hab, hbc⟩ := not_or.mp hno
    have hba : ¬ lt b a := fun h => hbc (IsTrans.trans _ _ _ h hac)
    have hcb : ¬ lt c b := fun h => hab (IsTrans.trans _ _ _ hac h)
    exact (IsStrictWeakOrder.incomp_trans a b c ⟨hab, hba⟩ ⟨hbc, hcb⟩).1 hac

lemma not_lt_trans {a b c : α} (hab : ¬ lt a b) (hbc : ¬ lt b c) : ¬ lt a c :=
  have := connected lt
  IsOrderConnected.neg_trans hab hbc

variable {lt}

/-- **Front.** No entry of a heap is after its front. -/
theorem IsHeap.front {l : List α} (h : IsHeap lt l) {top : α} (htop : l.head? = some top) :
    ∀ x ∈ l, ¬ lt top x := by
  have hat : ∀ (i : ℕ) (x : α), l[i]? = some x → ¬ lt top x := by
    intro i
    induction i using Nat.strong_induction_on with
    | _ i ih =>
      intro x hx
      cases i with
      | zero =>
        rw [← List.head?_eq_getElem?, htop] at hx
        obtain rfl := Option.some.inj hx
        exact irrefl top
      | succ i =>
        have hlt : i / 2 < l.length := by
          have := (List.getElem?_eq_some_iff.mp hx).1
          omega
        have hp : l[i / 2]? = some l[i / 2] := List.getElem?_eq_getElem hlt
        exact not_lt_trans lt (ih (i / 2) (by omega) _ hp) (h i _ x hp hx)
  intro x hx
  obtain ⟨i, hi⟩ := List.mem_iff_getElem?.mp hx
  exact hat i x hi

end WeakOrder

/-- Comparing by a key in a linear order. -/
theorem isStrictWeakOrder_key {β : Type*} [LinearOrder β] (key : α → β) :
    IsStrictWeakOrder α fun a b => key a < key b where
  irrefl a := lt_irrefl (key a)
  trans _ _ _ := lt_trans
  incomp_trans a b c hab hbc := by
    obtain ⟨h1, h2⟩ := hab
    obtain ⟨h3, h4⟩ := hbc
    exact ⟨not_lt.mpr ((not_lt.mp h3).trans (not_lt.mp h1)),
      not_lt.mpr ((not_lt.mp h2).trans (not_lt.mp h4))⟩

/-- Functions that keep heaps: one that sifts up the last entry, one that brings the front to
the end, and one that makes a heap of any list. -/
structure Functions where
  push_heap : List α → List α
  pop_heap : List α → List α
  make_heap : List α → List α
  push_perm : ∀ l x, IsHeap lt l → (push_heap (l ++ [x])).Perm (l ++ [x])
  isHeap_push : ∀ l x, IsHeap lt l → IsHeap lt (push_heap (l ++ [x]))
  pop_perm : ∀ l, IsHeap lt l → (pop_heap l).Perm l
  pop_last : ∀ l, IsHeap lt l → (pop_heap l).getLast? = l.head?
  isHeap_pop : ∀ l, IsHeap lt l → IsHeap lt (pop_heap l).dropLast
  make_perm : ∀ l, (make_heap l).Perm l
  isHeap_make : ∀ l, IsHeap lt (make_heap l)

/-- A list in order is a heap. -/
lemma isHeap_of_pairwise {l : List α} (h : l.Pairwise fun a b => ¬ lt a b) : IsHeap lt l := by
  intro i p x hp hx
  obtain ⟨hi, rfl⟩ := List.getElem?_eq_some_iff.mp hp
  obtain ⟨hj, rfl⟩ := List.getElem?_eq_some_iff.mp hx
  exact List.pairwise_iff_getElem.mp h (i / 2) (i + 1) hi hj (by omega)

variable [IsStrictWeakOrder α lt] [DecidableRel lt]

/-- The list with no entry before a later one. -/
def sorted (l : List α) : List α := l.insertionSort fun a b => ¬ lt a b

lemma isHeap_sorted (l : List α) : IsHeap lt (sorted lt l) := by
  have : Std.Total fun a b => ¬ lt a b :=
    ⟨fun a b => by
      by_contra hno
      obtain ⟨hab, hba⟩ := not_or.mp hno
      exact irrefl a (IsTrans.trans _ _ _ (not_not.mp hab) (not_not.mp hba))⟩
  have : IsTrans α fun a b => ¬ lt a b := ⟨fun _ _ _ => not_lt_trans lt⟩
  exact isHeap_of_pairwise lt (List.pairwise_insertionSort _ l)

/-- Sorting keeps heaps. -/
def bySorting : Functions lt where
  push_heap := sorted lt
  pop_heap l := match l with
    | [] => []
    | x :: rest => sorted lt rest ++ [x]
  make_heap := sorted lt
  push_perm l x _ := List.perm_insertionSort _ (l ++ [x])
  isHeap_push l x _ := isHeap_sorted lt (l ++ [x])
  pop_perm l _ := match l with
    | [] => .refl _
    | x :: rest => (List.perm_append_comm).trans ((List.perm_insertionSort _ rest).cons x)
  pop_last l _ := match l with
    | [] => rfl
    | x :: rest => List.getLast?_concat
  isHeap_pop l _ := match l with
    | [] => isHeap_nil lt
    | x :: rest => by
      rw [List.dropLast_concat]
      exact isHeap_sorted lt rest
  make_perm l := List.perm_insertionSort _ l
  isHeap_make := isHeap_sorted lt

end Kuavo.Lib.Heap
