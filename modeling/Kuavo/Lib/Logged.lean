import Mathlib.Data.List.Basic
import Mathlib.Tactic.Common

/-!
Computations that keep a log of the memory accesses they make.

A program written with `access` and `each` has a value, which its ordinary model has as well, and a
log. What is asked of every access is taken apart along the program.
-/

namespace Kuavo.Lib

universe u v w
variable {A : Type u} {α β : Type v} {ι : Type w}

/-- A value, and the accesses made on the way to it, in order. -/
structure Logged (A : Type u) (α : Type v) where
  value : α
  log : List A

namespace Logged

instance : Monad (Logged A) where
  pure x := ⟨x, []⟩
  bind c f := ⟨(f c.value).value, c.log ++ (f c.value).log⟩

@[simp] lemma value_pure (x : α) : (pure x : Logged A α).value = x := rfl
@[simp] lemma log_pure (x : α) : (pure x : Logged A α).log = [] := rfl
@[simp] lemma value_bind (c : Logged A α) (f : α → Logged A β) :
    (c >>= f).value = (f c.value).value := rfl
@[simp] lemma log_bind (c : Logged A α) (f : α → Logged A β) :
    (c >>= f).log = c.log ++ (f c.value).log := rfl

/-- An access that gives the value `x`. -/
def access (a : A) (x : α) : Logged A α := ⟨x, [a]⟩

@[simp] lemma value_access (a : A) (x : α) : (access a x).value = x := rfl
@[simp] lemma log_access (a : A) (x : α) : (access a x).log = [a] := rfl

/-- A loop over a list that collects what its body gives. -/
def each (l : List ι) (body : ι → Logged A α) : Logged A (List α) :=
  ⟨l.map fun i => (body i).value, l.flatMap fun i => (body i).log⟩

@[simp] lemma value_each (l : List ι) (body : ι → Logged A α) :
    (each l body).value = l.map fun i => (body i).value := rfl

/-- The loop runs its body once for each member, in order. -/
lemma each_cons (i : ι) (l : List ι) (body : ι → Logged A α) :
    each (i :: l) body = (do
      let x ← body i
      let xs ← each l body
      pure (x :: xs)) := by
  simp [each, bind, pure]

/-! ### What is asked of every access -/

def All (P : A → Prop) (c : Logged A α) : Prop := ∀ a ∈ c.log, P a

variable {P : A → Prop}

@[simp] lemma all_pure (x : α) : (pure x : Logged A α).All P := by simp [All]

@[simp] lemma all_access (a : A) (x : α) : (access a x).All P ↔ P a := by simp [All]

@[simp] lemma all_bind (c : Logged A α) (f : α → Logged A β) :
    (c >>= f).All P ↔ c.All P ∧ (f c.value).All P := by
  simp only [All, log_bind, List.forall_mem_append]

@[simp] lemma all_each (l : List ι) (body : ι → Logged A α) :
    (each l body).All P ↔ ∀ i ∈ l, (body i).All P := by
  simp only [All, each, List.mem_flatMap, forall_exists_index, and_imp]
  exact forall_comm.trans (forall_congr' fun i => forall_comm)

lemma all_ite {p : Prop} [Decidable p] (c d : Logged A α) :
    (if p then c else d).All P ↔ (p → c.All P) ∧ (¬ p → d.All P) := by
  split_ifs with h <;> simp [h]

end Logged

end Kuavo.Lib
