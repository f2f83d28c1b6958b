import Mathlib.Data.List.Induction
import Mathlib.Tactic.Common

/-!
Runs of a machine that is driven by inputs.

A machine is a step function; an interleaving of several threads is one as well, the input
saying which thread moves. What is proved once here: a property that steps preserve holds
at the end of every run, a condition asked of every step of a run can be read at each of
its splits, and an abstraction that commutes with steps commutes with runs.
-/

namespace Kuavo.Lib.Runs

universe u v w
variable {σ : Type u} {ι : Type v} (step : σ → ι → σ)

def run (s : σ) (l : List ι) : σ := l.foldl step s

@[simp] lemma run_nil (s : σ) : run step s [] = s := rfl
@[simp] lemma run_cons (s : σ) (i : ι) (l : List ι) :
    run step s (i :: l) = run step (step s i) l := rfl
lemma run_append (s : σ) (l m : List ι) : run step s (l ++ m) = run step (run step s l) m := by
  simp [run, List.foldl_append]
lemma run_concat (s : σ) (l : List ι) (i : ι) :
    run step s (l ++ [i]) = step (run step s l) i := by
  rw [run_append]; rfl

/-- The states some run reaches from `s`. -/
def Reachable (s t : σ) : Prop := ∃ l, run step s l = t

lemma Reachable.refl (s : σ) : Reachable step s s := ⟨[], rfl⟩

lemma reachable_step (s : σ) (i : ι) : Reachable step s (step s i) := ⟨[i], rfl⟩

variable {step}

lemma Reachable.trans {s t u : σ} (h : Reachable step s t) (h' : Reachable step t u) :
    Reachable step s u := by
  obtain ⟨l, rfl⟩ := h
  obtain ⟨m, rfl⟩ := h'
  exact ⟨l ++ m, run_append step s l m⟩

/-- What a step preserves, a run preserves. -/
theorem run_invariant {I : σ → Prop} (hstep : ∀ s i, I s → I (step s i)) {s : σ} (h : I s)
    (l : List ι) : I (run step s l) := by
  induction l generalizing s with
  | nil => exact h
  | cons i l ih => exact ih (hstep s i h)

theorem Reachable.invariant {I : σ → Prop} (hstep : ∀ s i, I s → I (step s i)) {s t : σ}
    (ht : Reachable step s t) (h : I s) : I t := by
  obtain ⟨l, rfl⟩ := ht
  exact run_invariant hstep h l

/-- What a step relates to its state before, a run relates to its state before. -/
theorem run_relation {R : σ → σ → Prop} (hrefl : ∀ s, R s s)
    (hstep : ∀ s t i, R s t → R s (step t i)) (s : σ) (l : List ι) : R s (run step s l) := by
  induction l using List.reverseRecOn with
  | nil => exact hrefl s
  | append_singleton l i ih => rw [run_concat]; exact hstep s _ i ih

/-! ### Conditions on every step of a run -/

/-- Every step of the run satisfies `P`, read in the state the step starts from. -/
def Each (step : σ → ι → σ) (P : σ → ι → Prop) : σ → List ι → Prop
  | _, [] => True
  | s, i :: l => P s i ∧ Each step P (step s i) l

variable {P Q : σ → ι → Prop}

@[simp] lemma each_nil (s : σ) : Each step P s [] := trivial
@[simp] lemma each_cons (s : σ) (i : ι) (l : List ι) :
    Each step P s (i :: l) ↔ P s i ∧ Each step P (step s i) l := Iff.rfl

instance decidableEach [∀ s i, Decidable (P s i)] :
    (s : σ) → (l : List ι) → Decidable (Each step P s l)
  | _, [] => isTrue trivial
  | s, i :: l =>
    have := decidableEach (step s i) l
    inferInstanceAs (Decidable (P s i ∧ Each step P (step s i) l))

lemma each_append (s : σ) (l m : List ι) :
    Each step P s (l ++ m) ↔ Each step P s l ∧ Each step P (run step s l) m := by
  induction l generalizing s with
  | nil => simp
  | cons i l ih => simp [ih, and_assoc]

lemma each_iff_split (s : σ) (l : List ι) :
    Each step P s l ↔ ∀ a i b, l = a ++ i :: b → P (run step s a) i := by
  induction l generalizing s with
  | nil => simp
  | cons j l ih =>
    rw [each_cons, ih]
    constructor
    · rintro ⟨h0, h⟩ a i b hl
      cases a with
      | nil =>
        obtain ⟨rfl, rfl⟩ := List.cons.inj hl
        exact h0
      | cons x a =>
        obtain ⟨rfl, hl'⟩ := List.cons.inj hl
        exact h a i b hl'
    · intro h
      exact ⟨h [] j l rfl, fun a i b hl => h (j :: a) i b (by rw [hl]; rfl)⟩

/-- What a step preserves under a condition, a run whose steps all meet it preserves. -/
theorem Each.invariant {I : σ → Prop} (hstep : ∀ s i, I s → P s i → I (step s i)) {s : σ}
    {l : List ι} (hl : Each step P s l) (h : I s) : I (run step s l) := by
  induction l generalizing s with
  | nil => exact h
  | cons i l ih => exact ih hl.2 (hstep s i h hl.1)

/-- A condition implies another on runs whose states keep an invariant under it. -/
theorem Each.imp {I : σ → Prop} (hstep : ∀ s i, I s → P s i → I (step s i))
    (hPQ : ∀ s i, I s → P s i → Q s i) {s : σ} {l : List ι} (hl : Each step P s l) (h : I s) :
    Each step Q s l := by
  induction l generalizing s with
  | nil => trivial
  | cons i l ih => exact ⟨hPQ s i h hl.1, ih hl.2 (hstep s i h hl.1)⟩

/-- A condition that holds at the end of a run, and of every state before a state it holds of,
holds after every step of the run. -/
theorem each_of_final {B : σ → Prop} (hB : ∀ s i, B (step s i) → B s) {s : σ} {l : List ι}
    (h : B (run step s l)) : Each step (fun s i => B (step s i)) s l := by
  have hback : ∀ (l : List ι) (s : σ), B (run step s l) → B s := by
    intro l
    induction l with
    | nil => exact fun s h => h
    | cons i l ih => exact fun s h => hB s i (ih (step s i) h)
  induction l generalizing s with
  | nil => trivial
  | cons i l ih => exact ⟨hback l (step s i) h, ih h⟩

/-- Conditions that agree in every state of an invariant, which the first one keeps, agree on
runs. -/
theorem each_congr {I : σ → Prop} (hstep : ∀ s i, I s → P s i → I (step s i))
    (hPQ : ∀ s i, I s → (P s i ↔ Q s i)) {s : σ} (h : I s) (l : List ι) :
    Each step P s l ↔ Each step Q s l := by
  induction l generalizing s with
  | nil => exact Iff.rfl
  | cons i l ih =>
    rw [each_cons, each_cons, ← hPQ s i h]
    exact and_congr_right fun hp => ih (hstep s i h hp)

/-- **Flags.** A flag that some steps raise and others lower is up at the end of a run exactly
if a step of the run raised it and no later one lowered it. -/
theorem run_flag_iff {F : σ → Prop} {S C : σ → ι → Prop}
    (hstep : ∀ s i, F (step s i) ↔ S s i ∨ (F s ∧ ¬ C s i)) {s : σ} (h0 : ¬ F s) (l : List ι) :
    F (run step s l) ↔ ∃ a i b, l = a ++ i :: b ∧ S (run step s a) i ∧
      Each step (fun t j => ¬ C t j) (run step s (a ++ [i])) b := by
  induction l using List.reverseRecOn with
  | nil => exact ⟨fun h => absurd h h0, by rintro ⟨a, i, b, hl, -⟩; simp at hl⟩
  | append_singleton l j ih =>
    rw [run_concat, hstep, ih]
    constructor
    · rintro (hS | ⟨⟨a, i, b, rfl, hS, hb⟩, hC⟩)
      · exact ⟨l, j, [], rfl, hS, trivial⟩
      · refine ⟨a, i, b ++ [j], by simp, hS, (each_append _ _ _).mpr ⟨hb, ?_, trivial⟩⟩
        rwa [← run_append, List.append_assoc]
    · rintro ⟨a, i, b, hl, hS, hb⟩
      rcases List.eq_nil_or_concat b with rfl | ⟨b, k, rfl⟩
      · obtain ⟨rfl, rfl⟩ : l = a ∧ j = i := by simpa using hl
        exact Or.inl hS
      · rw [List.concat_eq_append] at hl hb
        rw [← List.cons_append, ← List.append_assoc] at hl
        obtain ⟨rfl, hjk⟩ := List.append_inj' hl rfl
        obtain rfl : j = k := by simpa using hjk
        obtain ⟨hb, hC, -⟩ := (each_append _ _ _).mp hb
        rw [← run_append, List.append_assoc] at hC
        exact Or.inr ⟨⟨a, i, b, rfl, hS, hb⟩, hC⟩

/-- What does not hold of the empty run and holds of a run began to hold with one of its steps. -/
lemma exists_turn {F : List ι → Prop} (h0 : ¬ F []) {l : List ι} (h : F l) :
    ∃ a i b, l = a ++ i :: b ∧ ¬ F a ∧ F (a ++ [i]) := by
  induction l using List.reverseRecOn with
  | nil => exact absurd h h0
  | append_singleton l j ih =>
    by_cases hl : F l
    · obtain ⟨a, i, b, rfl, ha, hi⟩ := ih hl
      exact ⟨a, i, b ++ [j], by simp, ha, hi⟩
    · exact ⟨l, j, [], rfl, hl, h⟩

/-! ### Records -/

/-- An entry of a record is an old one or the one added. -/
lemma getElem?_concat_iff {l : List ι} {x y : ι} {i : ℕ} :
    (l ++ [x])[i]? = some y ↔ l[i]? = some y ∨ (i = l.length ∧ y = x) := by
  rcases Nat.lt_trichotomy i l.length with hi | rfl | hi
  · rw [List.getElem?_append_left hi]
    exact ⟨Or.inl, fun h => h.resolve_right fun h' => Nat.ne_of_lt hi h'.1⟩
  · simp [eq_comm]
  · have hlen : (l ++ [x]).length ≤ i := by
      rw [List.length_append]
      exact hi
    rw [List.getElem?_eq_none hlen, List.getElem?_eq_none (Nat.le_of_lt hi)]
    simp [Nat.ne_of_gt hi]

/-! ### Abstraction -/

/-- An abstraction under which every step is a run of another machine takes runs to runs. -/
theorem run_abstract {τ : Type w} {κ : Type*} {step' : τ → κ → τ} (f : σ → τ) (g : σ → ι → List κ)
    (hsim : ∀ s i, f (step s i) = run step' (f s) (g s i)) (s : σ) (l : List ι) :
    Reachable step' (f s) (f (run step s l)) := by
  induction l using List.reverseRecOn with
  | nil => exact Reachable.refl step' _
  | append_singleton l i ih =>
    obtain ⟨m, hm⟩ := ih
    exact ⟨m ++ g (run step s l) i, by rw [run_concat, hsim, run_append, hm]⟩

/-- **Simulation.** The same, with an invariant that holds under a condition on the steps. -/
theorem Each.abstract {τ : Type w} {κ : Type*} {step' : τ → κ → τ} {f : σ → τ}
    {g : σ → ι → List κ} {I : σ → Prop} (hstep : ∀ s i, I s → P s i → I (step s i))
    (hsim : ∀ s i, I s → P s i → f (step s i) = run step' (f s) (g s i)) {s : σ} {l : List ι}
    (hl : Each step P s l) (h : I s) : Reachable step' (f s) (f (run step s l)) := by
  induction l generalizing s with
  | nil => exact Reachable.refl step' _
  | cons i l ih =>
    have hone : Reachable step' (f s) (f (step s i)) := ⟨g s i, (hsim s i h hl.1).symm⟩
    exact hone.trans (ih hl.2 (hstep s i h hl.1))

end Kuavo.Lib.Runs
