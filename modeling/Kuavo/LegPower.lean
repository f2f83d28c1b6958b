import Kuavo.Lib.Runs

/-!
What a leg remembers about the power of its motors.

A leg controls its motors through a flag, a latch that keeps a fault from being handled
twice, and the last command that switched the motors. This is the abstract machine of these
three: the flag follows requests, the latch follows faults, and the power follows whichever
of the two acted last.
-/

namespace Kuavo.LegPower

open Kuavo.Lib.Runs

structure Power where
  isEnabled : Bool
  latched : Bool
  /-- Whether the motors were last switched on. -/
  on : Bool
  deriving DecidableEq

inductive PowerOp
  | enable
  | disable
  /-- The flag is cleared and nothing is said to the motors. -/
  | clearFlag
  | fault

def step (p : Power) : PowerOp → Power
  | .enable => if p.isEnabled then p else ⟨true, false, true⟩
  | .disable => if p.isEnabled then { p with isEnabled := false, on := false } else p
  | .clearFlag => { p with isEnabled := false }
  | .fault => if p.latched then p else { p with latched := true, on := false }

/-- The motors are switched on before the flag is ever set. -/
def init : Power := ⟨false, false, true⟩

/-- The power is on where flag and latch ask for it, and off where the latch is set. -/
structure Inv (p : Power) : Prop where
  on_of_isEnabled : p.isEnabled = true → p.latched = false → p.on = true
  off_of_latched : p.latched = true → p.on = false

lemma inv_init : Inv init := ⟨fun _ _ => rfl, fun h => by simp [init] at h⟩

lemma inv_step {p : Power} (h : Inv p) (op : PowerOp) : Inv (step p op) := by
  obtain ⟨hon, hoff⟩ := h
  cases op with
  | enable =>
    by_cases he : p.isEnabled
    · simp only [step, he, if_true]
      exact ⟨hon, hoff⟩
    · simp only [step, he]
      exact ⟨fun _ _ => rfl, fun h => by simp at h⟩
  | disable =>
    by_cases he : p.isEnabled
    · simp only [step, he, if_true]
      exact ⟨fun h => by simp at h, fun _ => rfl⟩
    · simp only [step, he]
      exact ⟨hon, hoff⟩
  | clearFlag => exact ⟨fun h => by simp [step] at h, hoff⟩
  | fault =>
    by_cases hl : p.latched
    · simp only [step, hl, if_true]
      exact ⟨hon, hoff⟩
    · simp only [step, hl]
      exact ⟨fun _ h => by simp at h, fun _ => rfl⟩

/-- **Flag, latch and power agree** after every history. -/
theorem reachable_inv {p : Power} (h : Reachable step init p) : Inv p := by
  have hstep : ∀ p op, Inv p → Inv (step p op) := fun _ op h => inv_step h op
  exact h.invariant hstep inv_init

/-- Switching on rearms exactly where the flag does not hide a fault. -/
lemma enable_rearms_iff {p : Power} (h : Inv p) :
    ((step p .enable).latched = false ∧ (step p .enable).isEnabled = true ∧
      (step p .enable).on = true) ↔ ¬ (p.isEnabled = true ∧ p.latched = true) := by
  rcases hl : p.latched with _ | _ <;> rcases he : p.isEnabled with _ | _
  · simp [step, he]
  · simp [step, he, hl, h.on_of_isEnabled he hl]
  · simp [step, he]
  · simp [step, he, hl]

/-! ### Requests -/

/-- What an operation asks for. -/
def PowerOp.ask : PowerOp → Option Bool
  | .enable => some true
  | .disable => some false
  | .clearFlag | .fault => none

/-- What was asked for last. -/
def lastAsk (l : List PowerOp) : Option Bool := (l.filterMap PowerOp.ask).getLast?

/-- A request to switch off still reaches motors that are on. -/
def Answerable (p : Power) : Prop := p.isEnabled = true ∨ p.on = false

structure Settled (p : Power) : Prop where
  isEnabled : p.isEnabled = false
  on : p.on = false

lemma answerable_step {p : Power} (h : Answerable p) {op : PowerOp} (hop : op ≠ .clearFlag) :
    Answerable (step p op) := by
  cases op with
  | enable =>
    by_cases he : p.isEnabled
    · simpa only [step, he, if_true] using h
    · simp [step, he, Answerable]
  | disable =>
    by_cases he : p.isEnabled
    · simp [step, he, Answerable]
    · simp only [step, he]
      exact h
  | clearFlag => exact absurd rfl hop
  | fault =>
    by_cases hl : p.latched
    · simpa only [step, hl, if_true] using h
    · simp [step, hl, Answerable]

lemma settled_disable {p : Power} (h : Answerable p) : Settled (step p .disable) := by
  by_cases he : p.isEnabled
  · simp only [step, he, if_true]
    exact ⟨rfl, rfl⟩
  · have hon : p.on = false := h.resolve_left he
    simp only [step, he]
    exact ⟨by simpa using he, hon⟩

lemma settled_fault {p : Power} (h : Settled p) : Settled (step p .fault) := by
  by_cases hl : p.latched
  · simpa only [step, hl, if_true] using h
  · simp only [step, hl]
    exact ⟨h.isEnabled, rfl⟩

lemma answerable_run {p : Power} (h : Answerable p) {l : List PowerOp}
    (hl : .clearFlag ∉ l) : Answerable (run step p l) := by
  induction l generalizing p with
  | nil => exact h
  | cons op l ih =>
    obtain ⟨hop, hl⟩ : PowerOp.clearFlag ≠ op ∧ PowerOp.clearFlag ∉ l := by simpa using hl
    exact ih (answerable_step h hop.symm) hl

/-- **Switching off for good.** Where requests are answered, motors that were last asked to be
off are off. -/
theorem settled_of_lastAsk {p : Power} (h : Answerable p) {l : List PowerOp}
    (hl : .clearFlag ∉ l) (hask : lastAsk l = some false) : Settled (run step p l) := by
  induction l using List.reverseRecOn with
  | nil => simp [lastAsk] at hask
  | append_singleton l op ih =>
    obtain ⟨hfront, hop⟩ : PowerOp.clearFlag ∉ l ∧ PowerOp.clearFlag ≠ op := by simpa using hl
    rw [run_concat]
    cases op with
    | enable => simp [lastAsk, PowerOp.ask] at hask
    | disable => exact settled_disable (answerable_run h hfront)
    | clearFlag => exact absurd rfl hop
    | fault => exact settled_fault (ih hfront (by simpa [lastAsk, PowerOp.ask] using hask))

/-- Requests alone leave the motors on where they were last asked to be on. -/
theorem on_of_lastAsk {p : Power} (h : p.isEnabled = false) {l : List PowerOp}
    (hl : ∀ op ∈ l, op.ask ≠ none) (hask : lastAsk l = some true) :
    (run step p l).on = true := by
  have hkeep : ∀ m : List PowerOp, (∀ op ∈ m, op.ask ≠ none) →
      (run step p m).isEnabled = true → (run step p m).on = true := by
    intro m hm
    induction m using List.reverseRecOn with
    | nil => simp [h]
    | append_singleton m op ih =>
      have ih' := ih fun o ho => hm o (by simp [ho])
      rw [run_concat]
      cases op with
      | enable =>
        by_cases he : (run step p m).isEnabled
        · simpa only [step, he, if_true] using ih'
        · simp [step, he]
      | disable =>
        by_cases he : (run step p m).isEnabled
        · simp [step, he]
        · simp [step, he]
      | clearFlag => exact absurd rfl (hm .clearFlag (by simp))
      | fault => exact absurd rfl (hm .fault (by simp))
  refine hkeep l hl ?_
  -- the last request is the last operation
  induction l using List.reverseRecOn with
  | nil => simp [lastAsk] at hask
  | append_singleton m op ih =>
    rw [run_concat]
    cases op with
    | enable =>
      by_cases he : (run step p m).isEnabled
      · simp only [step, he, if_true]
      · simp [step, he]
    | disable => simp [lastAsk, PowerOp.ask] at hask
    | clearFlag => exact absurd rfl (hl .clearFlag (by simp))
    | fault => exact absurd rfl (hl .fault (by simp))

end Kuavo.LegPower
