import Kuavo.Lib.Runs
import Mathlib.Logic.Function.Basic

/-!
`lib/ds/DriverStation.cpp`: the edges of the joystick buttons.

A refresh collects which buttons went down and which went up since the one before, and a query
takes one of these flags away. What a query reads from the driver station besides has no effect
and is left out, as is the count of buttons that goes with a mask.
-/

namespace Kuavo.ButtonEdges

open Kuavo.Lib.Runs

def kJoystickPorts : ℕ := 6

abbrev Stick := Fin kJoystickPorts

/-- A mask has a bit for each of the buttons 1 to 32. -/
abbrev Button := { button : ℕ // 1 ≤ button ∧ button ≤ 32 }

structure Instance where
  previousButtonStates : Stick → BitVec 32 := fun _ => 0
  joystickButtonsPressed : Stick → BitVec 32 := fun _ => 0
  joystickButtonsReleased : Stick → BitVec 32 := fun _ => 0

/-- A flag that is set is cleared and reported. -/
def takeEdge (flags : Stick → BitVec 32) (stick : Stick) (button : ℕ) :
    Bool × (Stick → BitVec 32) :=
  if flags stick &&& 1#32 <<< (button - 1) ≠ 0 then
    (true, Function.update flags stick (flags stick &&& ~~~(1#32 <<< (button - 1))))
  else (false, flags)

namespace Instance

def getStickButtonPressed (inst : Instance) (stick : Stick) (button : ℕ) : Bool × Instance :=
  let r := takeEdge inst.joystickButtonsPressed stick button
  (r.1, { inst with joystickButtonsPressed := r.2 })

def getStickButtonReleased (inst : Instance) (stick : Stick) (button : ℕ) : Bool × Instance :=
  let r := takeEdge inst.joystickButtonsReleased stick button
  (r.1, { inst with joystickButtonsReleased := r.2 })

def refreshData (inst : Instance) (currentButtons : Stick → BitVec 32) : Instance where
  joystickButtonsPressed i :=
    inst.joystickButtonsPressed i ||| (~~~inst.previousButtonStates i &&& currentButtons i)
  joystickButtonsReleased i :=
    inst.joystickButtonsReleased i ||| (inst.previousButtonStates i &&& ~~~currentButtons i)
  previousButtonStates := currentButtons

end Instance

inductive Edge | pressed | released
  deriving DecidableEq

/-- A query for the edge of a button. -/
structure Query where
  edge : Edge
  stick : Stick
  button : Button
  deriving DecidableEq

def Instance.ask (inst : Instance) (q : Query) : Bool × Instance :=
  match q.edge with
  | .pressed => inst.getStickButtonPressed q.stick q.button
  | .released => inst.getStickButtonReleased q.stick q.button

inductive Op
  | refresh (currentButtons : Stick → BitVec 32)
  | query (q : Query)

def step (inst : Instance) : Op → Instance
  | .refresh m => inst.refreshData m
  | .query q => (inst.ask q).2

/-! ### One flag -/

/-- The flags of an edge. -/
def Instance.flags (inst : Instance) : Edge → Stick → BitVec 32
  | .pressed => inst.joystickButtonsPressed
  | .released => inst.joystickButtonsReleased

/-- The flag that a query takes. -/
def Instance.flag (inst : Instance) (q : Query) : Bool :=
  (inst.flags q.edge q.stick).getLsbD (q.button - 1)

/-- From one mask to the next, the bit of the query goes from 0 to 1, or from 1 to 0. -/
def Query.Changed (q : Query) (before now : Stick → BitVec 32) : Prop :=
  match q.edge with
  | .pressed => (before q.stick).getLsbD (q.button - 1) = false ∧
      (now q.stick).getLsbD (q.button - 1) = true
  | .released => (before q.stick).getLsbD (q.button - 1) = true ∧
      (now q.stick).getLsbD (q.button - 1) = false

lemma Button.index_lt (button : Button) : (button : ℕ) - 1 < 32 := by
  have := button.2
  omega

lemma and_bit_ne_zero_iff (x : BitVec 32) {k : ℕ} (hk : k < 32) :
    x &&& 1#32 <<< k ≠ 0 ↔ x.getLsbD k = true := by
  rw [← BitVec.twoPow_eq, BitVec.and_twoPow]
  have hne : BitVec.twoPow 32 k ≠ 0#32 := by
    intro h
    have hbit := congrArg (fun y => y.getLsbD k) h
    simp [hk] at hbit
  cases x.getLsbD k <;> simp [hne]

lemma getLsbD_clear (x : BitVec 32) {j k : ℕ} (hj : j < 32) (hk : k < 32) :
    (x &&& ~~~(1#32 <<< k)).getLsbD j = (x.getLsbD j && !decide (k = j)) := by
  rw [← BitVec.twoPow_eq, BitVec.getLsbD_and, BitVec.getLsbD_not, BitVec.getLsbD_twoPow]
  simp only [hj, hk, decide_true, Bool.true_and]

lemma takeEdge_fst (flags : Stick → BitVec 32) (stick : Stick) (button : Button) :
    (takeEdge flags stick button).1 = (flags stick).getLsbD (button - 1) := by
  have h := and_bit_ne_zero_iff (flags stick) button.index_lt
  unfold takeEdge
  by_cases hbit : (flags stick).getLsbD (button - 1) = true
  · rw [if_pos (h.mpr hbit), hbit]
  · rw [if_neg (mt h.mp hbit), Bool.not_eq_true _ |>.mp hbit]

/-- The flag taken is down, the others are as they were. -/
lemma takeEdge_snd (flags : Stick → BitVec 32) (stick stick' : Stick) (button button' : Button) :
    ((takeEdge flags stick button).2 stick').getLsbD (button' - 1) =
      ((flags stick').getLsbD (button' - 1) && !decide (stick = stick' ∧ button = button')) := by
  have hidx : (button : ℕ) - 1 = button' - 1 ↔ button = button' := by
    have := button.2
    have := button'.2
    rw [Subtype.ext_iff]
    omega
  have h := and_bit_ne_zero_iff (flags stick) button.index_lt
  unfold takeEdge
  split_ifs with hbit
  · by_cases hs : stick = stick'
    · subst hs
      simp only [Function.update_self, getLsbD_clear _ button'.index_lt button.index_lt]
      simp [hidx]
    · simp [Function.update_of_ne (Ne.symm hs), hs]
  · by_cases heq : stick = stick' ∧ button = button'
    · obtain ⟨rfl, rfl⟩ := heq
      have hdown : (flags stick).getLsbD (button - 1) = false := by
        rw [← Bool.not_eq_true]
        exact mt h.mpr hbit
      simp [hdown]
    · simp [heq]

lemma ask_fst (inst : Instance) (q : Query) : (inst.ask q).1 = inst.flag q := by
  obtain ⟨e, stick, button⟩ := q
  cases e <;> exact takeEdge_fst _ stick button

@[simp] lemma previousButtonStates_ask (inst : Instance) (q : Query) :
    (inst.ask q).2.previousButtonStates = inst.previousButtonStates := by
  obtain ⟨e, stick, button⟩ := q
  cases e <;> rfl

lemma flag_ask_self (inst : Instance) (q : Query) : (inst.ask q).2.flag q = false := by
  obtain ⟨e, stick, button⟩ := q
  cases e <;> exact (takeEdge_snd _ stick stick button button).trans (by simp)

/-- No query takes another query's flag. -/
lemma flag_ask_of_ne (inst : Instance) {q q' : Query} (h : q' ≠ q) :
    (inst.ask q').2.flag q = inst.flag q := by
  obtain ⟨e, stick, button⟩ := q
  obtain ⟨e', stick', button'⟩ := q'
  have hother : e' = e → ¬ (stick' = stick ∧ button' = button) := by
    rintro rfl ⟨rfl, rfl⟩
    exact h rfl
  cases e <;> cases e'
  · refine (takeEdge_snd inst.joystickButtonsPressed stick' stick button' button).trans ?_
    rw [decide_eq_false (hother rfl), Bool.not_false, Bool.and_true]
    rfl
  · rfl
  · rfl
  · refine (takeEdge_snd inst.joystickButtonsReleased stick' stick button' button).trans ?_
    rw [decide_eq_false (hother rfl), Bool.not_false, Bool.and_true]
    rfl

lemma flag_refreshData (inst : Instance) (m : Stick → BitVec 32) (q : Query) :
    (inst.refreshData m).flag q = true ↔
      q.Changed inst.previousButtonStates m ∨ inst.flag q = true := by
  obtain ⟨e, stick, button⟩ := q
  have hlt := button.index_lt
  cases e
  · simp [Instance.refreshData, Instance.flag, Instance.flags, Query.Changed, hlt, or_comm]
  · simp [Instance.refreshData, Instance.flag, Instance.flags, Query.Changed, hlt, or_comm]

/-! ### Histories -/

/-- The masks of the last refresh, all 0 before the first. -/
def lastMasks (l : List Op) : Stick → BitVec 32 :=
  run (fun before op => match op with
    | .refresh m => m
    | .query _ => before) (fun _ => 0) l

/-- What the query returns after a history. -/
def answer (l : List Op) (q : Query) : Bool := ((run step {} l).ask q).1

lemma previousButtonStates_run (l : List Op) :
    (run step {} l).previousButtonStates = lastMasks l := by
  induction l using List.reverseRecOn with
  | nil => rfl
  | append_singleton l op ih =>
    rw [lastMasks, run_concat, run_concat]
    cases op with
    | refresh m => rfl
    | query q => exact (previousButtonStates_ask _ q).trans ih

/-- One step of a history, seen at one flag. -/
lemma flag_step_iff (q : Query) (inst : Instance) (op : Op) :
    (step inst op).flag q = true ↔
      (∃ m, op = .refresh m ∧ q.Changed inst.previousButtonStates m) ∨
        (inst.flag q = true ∧ ¬ (op = .query q ∧ (inst.ask q).1 = true)) := by
  cases op with
  | refresh m => simp [step, flag_refreshData]
  | query q' =>
    by_cases h : q' = q
    · subst h
      simp [step, flag_ask_self, ask_fst]
    · simp [step, flag_ask_of_ne inst h, h]

/-- States that differ in the flag of one query only. -/
structure Alike (q : Query) (s t : Instance) : Prop where
  previous : s.previousButtonStates = t.previousButtonStates
  flag : ∀ q' ≠ q, s.flag q' = t.flag q'

lemma alike_step {q : Query} (s t : Instance) (op : Op) (h : Alike q s t) :
    Alike q (step s op) (step t op) := by
  have hflag (q' : Query) (hq' : q' ≠ q) : (step s op).flag q' = (step t op).flag q' := by
    rw [Bool.eq_iff_iff, flag_step_iff, flag_step_iff, ask_fst, ask_fst, h.previous, h.flag q' hq']
  cases op with
  | refresh m => exact ⟨rfl, hflag⟩
  | query q' =>
    refine ⟨?_, hflag⟩
    change (s.ask q').2.previousButtonStates = (t.ask q').2.previousButtonStates
    rw [previousButtonStates_ask, previousButtonStates_ask, h.previous]

lemma alike_run {q : Query} {s t : Instance} (h : Alike q s t) (l : List Op) :
    Alike q (run step s l) (run step t l) := by
  induction l generalizing s t with
  | nil => exact h
  | cons op l ih => exact ih (alike_step s t op h)

/-- **Edges.** A query returns true exactly if, since the last time it did, some refresh found
the button changed the way it asks for; and a query leaves what every other one returns as it
is, however the history goes on. -/
theorem answer_iff (l : List Op) (q : Query) :
    (answer l q = true ↔ ∃ a m b, l = a ++ .refresh m :: b ∧ q.Changed (lastMasks a) m ∧
      ∀ b₁ b₂, b = b₁ ++ .query q :: b₂ → answer (a ++ .refresh m :: b₁) q = false) ∧
    ∀ q' ≠ q, ∀ l', answer (l ++ .query q' :: l') q = answer (l ++ l') q := by
  constructor
  · have hdown : ¬ ({} : Instance).flag q = true := by
      obtain ⟨e, stick, button⟩ := q
      cases e <;> simp [Instance.flag, Instance.flags]
    rw [answer, ask_fst]
    refine (run_flag_iff (F := fun inst : Instance => inst.flag q = true)
      (flag_step_iff q) hdown l).trans ?_
    have hanswer (a b₁ : List Op) (m : Stick → BitVec 32) :
        answer (a ++ .refresh m :: b₁) q =
          ((run step (run step {} (a ++ [.refresh m])) b₁).ask q).1 := by
      rw [answer, ← run_append, List.append_assoc]
      rfl
    simp only [each_iff_split, previousButtonStates_run]
    constructor
    · rintro ⟨a, op, b, rfl, ⟨m, rfl, hm⟩, hb⟩
      refine ⟨a, m, b, rfl, hm, fun b₁ b₂ h => ?_⟩
      rw [hanswer, ← Bool.not_eq_true]
      exact fun ht => hb b₁ _ b₂ h ⟨rfl, ht⟩
    · rintro ⟨a, m, b, rfl, hm, hb⟩
      refine ⟨a, _, b, rfl, ⟨m, rfl, hm⟩, ?_⟩
      rintro b₁ op b₂ h ⟨rfl, ht⟩
      have hfalse := hb b₁ b₂ h
      rw [hanswer, ht] at hfalse
      exact Bool.noConfusion hfalse
  · intro q' hq' l'
    have halike : Alike q' (run step {} (l ++ [.query q'])) (run step {} l) := by
      rw [run_concat]
      exact ⟨previousButtonStates_ask _ q', fun q'' hq'' => flag_ask_of_ne _ (Ne.symm hq'')⟩
    have hrun := (alike_run halike l').flag q (Ne.symm hq')
    rw [← run_append, ← run_append, List.append_assoc] at hrun
    rw [answer, answer, ask_fst, ask_fst]
    exact hrun

end Kuavo.ButtonEdges
