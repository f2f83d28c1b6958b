import Kuavo.Lib.Runs
import Mathlib.Logic.Function.Basic

/-!
`lib/ds/BooleanEvent.cpp` and `lib/ds/EventLoop.cpp`: events that are built from conditions on
raw inputs and from each other, and evaluated by polling the loop they are bound to.

Events are numbered in the order they are built in, and an event's state is a cell under its
number. A raw condition is a predicate on what the raw inputs are when it is evaluated. Actions
are labels; what they do is not modelled.
-/

namespace Kuavo.BooleanEvent

open Kuavo.Lib.Runs

variable {I A : Type*}

/-- What an event evaluates. The conditions of edges carry the value they saw last, which they
change when they are evaluated. -/
inductive Condition (I : Type*)
  | raw (signal : I → Bool)
  | not (operand : ℕ)
  | and (operand rhs : ℕ)
  | or (operand rhs : ℕ)
  | rising (operand : ℕ) (m_previous : Bool)
  | falling (operand : ℕ) (m_previous : Bool)

namespace Condition

/-- The value of a condition, and the condition afterwards. -/
def eval (input : I) (state : ℕ → Bool) : Condition I → Bool × Condition I
  | .raw signal => (signal input, .raw signal)
  | .not i => (!state i, .not i)
  | .and i j => (state i && state j, .and i j)
  | .or i j => (state i || state j, .or i j)
  | .rising i m_previous =>
    let present := state i
    let past := m_previous
    (!past && present, .rising i present)
  | .falling i m_previous =>
    let present := state i
    let past := m_previous
    (past && !present, .falling i present)

end Condition

inductive Binding (I A : Type*)
  | update (event : ℕ) (condition : Condition I)
  | ifHigh (event : ℕ) (action : A)

/-- What a poll leaves: the states, the bindings, and the actions that ran. -/
structure Polled (I A : Type*) where
  state : ℕ → Bool
  m_bindings : List (Binding I A)
  ran : List A

/-- The bindings run in the order they were made in. -/
def pollBindings (input : I) : List (Binding I A) → (ℕ → Bool) → Polled I A
  | [], state => ⟨state, [], []⟩
  | .update k condition :: rest, state =>
    let r := condition.eval input state
    let p := pollBindings input rest (Function.update state k r.1)
    { p with m_bindings := .update k r.2 :: p.m_bindings }
  | .ifHigh k action :: rest, state =>
    let p := pollBindings input rest state
    { p with
      m_bindings := .ifHigh k action :: p.m_bindings
      ran := if state k then action :: p.ran else p.ran }

/-- What can be asked of an event loop and the events on it. -/
inductive Build (I : Type*)
  | raw (signal : I → Bool)
  | not (operand : ℕ)
  | and (operand rhs : ℕ)
  | or (operand rhs : ℕ)
  | rising (operand : ℕ)
  | falling (operand : ℕ)

/-- Operands are events that exist. -/
def Build.operandsBelow (n : ℕ) : Build I → Bool
  | .raw _ => true
  | .not i => i < n
  | .and i j => i < n && j < n
  | .or i j => i < n && j < n
  | .rising i => i < n
  | .falling i => i < n

structure EventLoop (I A : Type*) where
  m_bindings : List (Binding I A) := []
  /-- The number of events, and their states. -/
  events : ℕ := 0
  state : ℕ → Bool := fun _ => false

namespace EventLoop

def bind (loop : EventLoop I A) (b : Binding I A) : EventLoop I A :=
  { loop with m_bindings := loop.m_bindings ++ [b] }

def poll (loop : EventLoop I A) (input : I) : EventLoop I A × List A :=
  let p := pollBindings input loop.m_bindings loop.state
  ({ loop with m_bindings := p.m_bindings, state := p.state }, p.ran)

def getAsBoolean (loop : EventLoop I A) (event : ℕ) : Bool := loop.state event

/-- The constructor evaluates the condition once, and binds it as this evaluation left it. -/
def construct (loop : EventLoop I A) (now : I) (m_signal : Condition I) : EventLoop I A :=
  let r := m_signal.eval now loop.state
  let loop := { loop with
    events := loop.events + 1
    state := Function.update loop.state loop.events r.1 }
  loop.bind (.update (loop.events - 1) r.2)

def condition (loop : EventLoop I A) : Build I → Condition I
  | .raw signal => .raw signal
  | .not i => .not i
  | .and i j => .and i j
  | .or i j => .or i j
  | .rising i => .rising i (loop.state i)
  | .falling i => .falling i (loop.state i)

def ifHigh (loop : EventLoop I A) (event : ℕ) (action : A) : EventLoop I A :=
  loop.bind (.ifHigh event action)

end EventLoop

inductive Op (I A : Type*)
  /-- An event is built while the raw inputs are `now`. -/
  | build (now : I) (b : Build I)
  | ifHigh (event : ℕ) (action : A)
  | poll (input : I)

/-- Building on an event that does not exist is no operation. -/
def step (loop : EventLoop I A) : Op I A → EventLoop I A
  | .build now b =>
    if b.operandsBelow loop.events then loop.construct now (loop.condition b) else loop
  | .ifHigh event action => if event < loop.events then loop.ifHigh event action else loop
  | .poll input => (loop.poll input).1

/-! ### What an event means -/

/-- An event as an expression over its operands, with the number of polls before it was built
where that matters. -/
inductive Expr (I : Type*)
  | raw (birth : ℕ) (now : I) (signal : I → Bool)
  | not (e : Expr I)
  | and (e rhs : Expr I)
  | or (e rhs : Expr I)
  | rising (birth : ℕ) (e : Expr I)
  | falling (birth : ℕ) (e : Expr I)

/-- The value of an expression after polls with these inputs, the latest first. -/
def Expr.meaning : Expr I → List I → Bool
  | .raw _ now signal, [] => signal now
  | .raw birth now signal, x :: before =>
    if (x :: before).length = birth then signal now else signal x
  | .not e, inputs => !e.meaning inputs
  | .and e rhs, inputs => e.meaning inputs && rhs.meaning inputs
  | .or e rhs, inputs => e.meaning inputs || rhs.meaning inputs
  | .rising _ _, [] => false
  | .rising birth e, x :: before =>
    if (x :: before).length = birth then false
    else !e.meaning before && e.meaning (x :: before)
  | .falling _ _, [] => false
  | .falling birth e, x :: before =>
    if (x :: before).length = birth then false
    else e.meaning before && !e.meaning (x :: before)

/-- The expression that is built from the events there are. -/
def Build.expr? (exprs : List (Expr I)) (birth : ℕ) (now : I) : Build I → Option (Expr I)
  | .raw signal => some (.raw birth now signal)
  | .not i => do return .not (← exprs[i]?)
  | .and i j => do return .and (← exprs[i]?) (← exprs[j]?)
  | .or i j => do return .or (← exprs[i]?) (← exprs[j]?)
  | .rising i => do return .rising birth (← exprs[i]?)
  | .falling i => do return .falling birth (← exprs[i]?)

/-- What a history has built and bound, and the inputs of its polls, the latest first. -/
structure Program (I A : Type*) where
  exprs : List (Expr I) := []
  bound : List (ℕ × A) := []
  inputs : List I := []

def Program.step (p : Program I A) : Op I A → Program I A
  | .build now b =>
    match b.expr? p.exprs p.inputs.length now with
    | some e => { p with exprs := p.exprs ++ [e] }
    | none => p
  | .ifHigh event action =>
    if event < p.exprs.length then { p with bound := p.bound ++ [(event, action)] } else p
  | .poll input => { p with inputs := input :: p.inputs }

/-! ### Bindings in order -/

/-- A condition evaluates an expression over the events before it, and remembers what its
operand was at the last poll. -/
inductive Represents (exprs : List (Expr I)) (inputs : List I) : Condition I → Expr I → Prop
  | raw {birth : ℕ} {now : I} {signal : I → Bool} (h : birth ≤ inputs.length) :
    Represents exprs inputs (.raw signal) (.raw birth now signal)
  | not {i : ℕ} {e : Expr I} (he : exprs[i]? = some e) : Represents exprs inputs (.not i) (.not e)
  | and {i j : ℕ} {e f : Expr I} (he : exprs[i]? = some e) (hf : exprs[j]? = some f) :
    Represents exprs inputs (.and i j) (.and e f)
  | or {i j : ℕ} {e f : Expr I} (he : exprs[i]? = some e) (hf : exprs[j]? = some f) :
    Represents exprs inputs (.or i j) (.or e f)
  | rising {i birth : ℕ} {e : Expr I} (h : birth ≤ inputs.length) (he : exprs[i]? = some e) :
    Represents exprs inputs (.rising i (e.meaning inputs)) (.rising birth e)
  | falling {i birth : ℕ} {e : Expr I} (h : birth ≤ inputs.length) (he : exprs[i]? = some e) :
    Represents exprs inputs (.falling i (e.meaning inputs)) (.falling birth e)

/-- The states are what the expressions mean. -/
def Shows (state : ℕ → Bool) (exprs : List (Expr I)) (inputs : List I) : Prop :=
  ∀ k e, exprs[k]? = some e → state k = e.meaning inputs

/-- Bindings in which every event comes after its operands and before its actions: they take
the events `exprs` to the events `all`. -/
inductive Ordered (inputs : List I) : List (Expr I) → List (Binding I A) → List (Expr I) → Prop
  | nil (exprs : List (Expr I)) : Ordered inputs exprs [] exprs
  | update {exprs all : List (Expr I)} {c : Condition I} {e : Expr I} {bs : List (Binding I A)}
    (hc : Represents exprs inputs c e) (h : Ordered inputs (exprs ++ [e]) bs all) :
    Ordered inputs exprs (.update exprs.length c :: bs) all
  | ifHigh {exprs all : List (Expr I)} {k : ℕ} {a : A} {bs : List (Binding I A)}
    (hk : k < exprs.length) (h : Ordered inputs exprs bs all) :
    Ordered inputs exprs (.ifHigh k a :: bs) all

lemma Ordered.prefix {inputs : List I} {exprs all : List (Expr I)} {bs : List (Binding I A)}
    (h : Ordered inputs exprs bs all) : exprs <+: all := by
  induction h with
  | nil => exact List.prefix_rfl
  | update hc h ih => exact (List.prefix_append _ _).trans ih
  | ifHigh hk h ih => exact ih

lemma Ordered.append {inputs : List I} {exprs mid all : List (Expr I)}
    {bs bs' : List (Binding I A)} (h : Ordered inputs exprs bs mid)
    (h' : Ordered inputs mid bs' all) : Ordered inputs exprs (bs ++ bs') all := by
  induction h with
  | nil => exact h'
  | update hc h ih => exact .update hc (ih h')
  | ifHigh hk h ih => exact .ifHigh hk (ih h')

lemma Shows.concat {state : ℕ → Bool} {exprs : List (Expr I)} {inputs : List I}
    (h : Shows state exprs inputs) {e : Expr I} {v : Bool} (hv : v = e.meaning inputs) :
    Shows (Function.update state exprs.length v) (exprs ++ [e]) inputs := by
  intro k f hf
  rcases getElem?_concat_iff.mp hf with hold | ⟨rfl, rfl⟩
  · have hk : k < exprs.length := (List.getElem?_eq_some_iff.mp hold).1
    rw [Function.update_of_ne (Nat.ne_of_lt hk), h k f hold]
  · rw [Function.update_self, hv]

/-- In a poll, a condition whose operands are up to date evaluates to what its expression
means, and remembers this poll. -/
lemma eval_poll {exprs : List (Expr I)} {inputs : List I} {c : Condition I} {e : Expr I}
    (hc : Represents exprs inputs c e) (x : I) {state : ℕ → Bool}
    (h : Shows state exprs (x :: inputs)) :
    (c.eval x state).1 = e.meaning (x :: inputs) ∧
      Represents exprs (x :: inputs) (c.eval x state).2 e := by
  have hage {birth : ℕ} (hb : birth ≤ inputs.length) : ¬ (x :: inputs).length = birth := by
    rw [List.length_cons]
    omega
  have hold {birth : ℕ} (hb : birth ≤ inputs.length) : birth ≤ (x :: inputs).length :=
    Nat.le_succ_of_le hb
  cases hc with
  | raw hb => exact ⟨by rw [Expr.meaning, if_neg (hage hb)]; rfl, .raw (hold hb)⟩
  | not he => exact ⟨by rw [Condition.eval, Expr.meaning, h _ _ he], .not he⟩
  | and he hf => exact ⟨by rw [Condition.eval, Expr.meaning, h _ _ he, h _ _ hf], .and he hf⟩
  | or he hf => exact ⟨by rw [Condition.eval, Expr.meaning, h _ _ he, h _ _ hf], .or he hf⟩
  | rising hb he =>
    simp only [Condition.eval, Expr.meaning, if_neg (hage hb), h _ _ he]
    exact ⟨trivial, .rising (hold hb) he⟩
  | falling hb he =>
    simp only [Condition.eval, Expr.meaning, if_neg (hage hb), h _ _ he]
    exact ⟨trivial, .falling (hold hb) he⟩

def Binding.action? : Binding I A → Option (ℕ × A)
  | .update _ _ => none
  | .ifHigh k a => some (k, a)

/-- The actions bound, in order. -/
def actionsOf (bs : List (Binding I A)) : List (ℕ × A) := bs.filterMap Binding.action?

lemma actionsOf_pollBindings (x : I) (bs : List (Binding I A)) (state : ℕ → Bool) :
    actionsOf (pollBindings x bs state).m_bindings = actionsOf bs := by
  induction bs generalizing state with
  | nil => rfl
  | cons b bs ih =>
    cases b with
    | update k c => exact ih _
    | ifHigh k a => exact congrArg (List.cons (k, a)) (ih state)

/-- **One poll.** Running the bindings in order brings every event up to date, keeps the order,
and runs the actions of the events that are up. -/
theorem poll_spec {inputs : List I} {exprs all : List (Expr I)} {bs : List (Binding I A)}
    (hbs : Ordered inputs exprs bs all) (x : I) {state : ℕ → Bool}
    (h : Shows state exprs (x :: inputs)) :
    Shows (pollBindings x bs state).state all (x :: inputs) ∧
      Ordered (x :: inputs) exprs (pollBindings x bs state).m_bindings all ∧
      (pollBindings x bs state).ran =
        ((actionsOf bs).filter fun b => (pollBindings x bs state).state b.1).map Prod.snd := by
  induction hbs generalizing state with
  | nil => exact ⟨h, .nil _, rfl⟩
  | update hc hbs ih =>
    obtain ⟨hv, hc'⟩ := eval_poll hc x h
    obtain ⟨hshow, hord, hran⟩ := ih (h.concat hv)
    exact ⟨hshow, .update hc' hord, hran⟩
  | @ifHigh exprs all k a bs hk hbs ih =>
    obtain ⟨hshow, hord, hran⟩ := ih h
    refine ⟨hshow, .ifHigh hk hord, ?_⟩
    -- the event is up to date when its action is reached, and does not change any more
    have hup : state k = (pollBindings x bs state).state k := by
      have he : exprs[k]? = some exprs[k] := List.getElem?_eq_getElem hk
      obtain ⟨later, hall⟩ := hbs.prefix
      have he' : all[k]? = some exprs[k] := by rw [← hall, List.getElem?_append_left hk, he]
      rw [h k _ he, hshow k _ he']
    have hcons : actionsOf (Binding.ifHigh k a :: bs) = (k, a) :: actionsOf bs := rfl
    change (if state k then a :: (pollBindings x bs state).ran
      else (pollBindings x bs state).ran) = _
    rw [hcons, List.filter_cons, hup, hran]
    change _ = List.map Prod.snd (if (pollBindings x bs state).state k = true then _ else _)
    split_ifs <;> rfl

/-! ### Histories -/

/-- The loop and the program of a history belong together. -/
structure Follows (loop : EventLoop I A) (p : Program I A) : Prop where
  events : loop.events = p.exprs.length
  ordered : Ordered p.inputs [] loop.m_bindings p.exprs
  shows : Shows loop.state p.exprs p.inputs
  bound : actionsOf loop.m_bindings = p.bound

lemma follows_init : Follows ({} : EventLoop I A) {} where
  events := rfl
  ordered := .nil []
  shows := fun k e h => absurd h (by simp)
  bound := rfl

/-! An event at its construction, before another poll. -/

lemma meaning_raw_birth (inputs : List I) (now : I) (signal : I → Bool) :
    (Expr.raw inputs.length now signal).meaning inputs = signal now := by
  cases inputs with
  | nil => rfl
  | cons x before => rw [Expr.meaning, if_pos rfl]

lemma meaning_rising_birth (inputs : List I) (e : Expr I) :
    (Expr.rising inputs.length e).meaning inputs = false := by
  cases inputs with
  | nil => rfl
  | cons x before => rw [Expr.meaning, if_pos rfl]

lemma meaning_falling_birth (inputs : List I) (e : Expr I) :
    (Expr.falling inputs.length e).meaning inputs = false := by
  cases inputs with
  | nil => rfl
  | cons x before => rw [Expr.meaning, if_pos rfl]

/-- An event over the operands there are: its condition represents the expression, also after
the evaluation in the constructor, which gives its first state. -/
lemma eval_construct {loop : EventLoop I A} {p : Program I A} (h : Follows loop p) (now : I)
    {b : Build I} {e : Expr I} (he : b.expr? p.exprs p.inputs.length now = some e) :
    ((loop.condition b).eval now loop.state).1 = e.meaning p.inputs ∧
      Represents p.exprs p.inputs ((loop.condition b).eval now loop.state).2 e := by
  have hs := h.shows
  cases b with
  | raw signal =>
    obtain rfl : Expr.raw _ now signal = e := Option.some.inj he
    exact ⟨(meaning_raw_birth p.inputs now signal).symm, .raw (Nat.le_refl _)⟩
  | not i =>
    obtain ⟨f, hf, rfl⟩ : ∃ f, p.exprs[i]? = some f ∧ Expr.not f = e := by
      simpa [Build.expr?, Option.bind_eq_some_iff] using he
    exact ⟨by rw [Expr.meaning, ← hs _ _ hf]; rfl, .not hf⟩
  | and i j =>
    obtain ⟨f, hf, g, hg, rfl⟩ :
        ∃ f, p.exprs[i]? = some f ∧ ∃ g, p.exprs[j]? = some g ∧ Expr.and f g = e := by
      simpa [Build.expr?, Option.bind_eq_some_iff] using he
    exact ⟨by rw [Expr.meaning, ← hs _ _ hf, ← hs _ _ hg]; rfl, .and hf hg⟩
  | or i j =>
    obtain ⟨f, hf, g, hg, rfl⟩ :
        ∃ f, p.exprs[i]? = some f ∧ ∃ g, p.exprs[j]? = some g ∧ Expr.or f g = e := by
      simpa [Build.expr?, Option.bind_eq_some_iff] using he
    exact ⟨by rw [Expr.meaning, ← hs _ _ hf, ← hs _ _ hg]; rfl, .or hf hg⟩
  | rising i =>
    obtain ⟨f, hf, rfl⟩ : ∃ f, p.exprs[i]? = some f ∧ Expr.rising _ f = e := by
      simpa [Build.expr?, Option.bind_eq_some_iff] using he
    refine ⟨?_, ?_⟩
    · rw [meaning_rising_birth]
      exact Bool.not_and_self _
    · have hrep : Represents p.exprs p.inputs (.rising i (f.meaning p.inputs))
          (.rising p.inputs.length f) := .rising (Nat.le_refl _) hf
      rw [← hs _ _ hf] at hrep
      exact hrep
  | falling i =>
    obtain ⟨f, hf, rfl⟩ : ∃ f, p.exprs[i]? = some f ∧ Expr.falling _ f = e := by
      simpa [Build.expr?, Option.bind_eq_some_iff] using he
    refine ⟨?_, ?_⟩
    · rw [meaning_falling_birth]
      exact Bool.and_not_self _
    · have hrep : Represents p.exprs p.inputs (.falling i (f.meaning p.inputs))
          (.falling p.inputs.length f) := .falling (Nat.le_refl _) hf
      rw [← hs _ _ hf] at hrep
      exact hrep

/-- The operands of an event exist if there is an expression. -/
lemma operandsBelow_iff (b : Build I) (exprs : List (Expr I)) (birth : ℕ) (now : I) :
    b.operandsBelow exprs.length = (b.expr? exprs birth now).isSome := by
  have hat (i : ℕ) : decide (i < exprs.length) = exprs[i]?.isSome := by
    rcases Nat.lt_or_ge i exprs.length with h | h
    · rw [List.getElem?_eq_getElem h, Option.isSome_some, decide_eq_true h]
    · rw [List.getElem?_eq_none h, Option.isSome_none, decide_eq_false (by omega)]
  cases b with
  | raw signal => rfl
  | not i =>
    rw [Build.operandsBelow, hat, Build.expr?]
    cases exprs[i]? <;> rfl
  | and i j =>
    rw [Build.operandsBelow, hat, hat, Build.expr?]
    cases exprs[i]? <;> cases exprs[j]? <;> rfl
  | or i j =>
    rw [Build.operandsBelow, hat, hat, Build.expr?]
    cases exprs[i]? <;> cases exprs[j]? <;> rfl
  | rising i =>
    rw [Build.operandsBelow, hat, Build.expr?]
    cases exprs[i]? <;> rfl
  | falling i =>
    rw [Build.operandsBelow, hat, Build.expr?]
    cases exprs[i]? <;> rfl

lemma actionsOf_append (bs bs' : List (Binding I A)) :
    actionsOf (bs ++ bs') = actionsOf bs ++ actionsOf bs' := List.filterMap_append

lemma follows_step {loop : EventLoop I A} {p : Program I A} (op : Op I A) (h : Follows loop p) :
    Follows (step loop op) (p.step op) := by
  cases op with
  | build now b =>
    have hiff := operandsBelow_iff b p.exprs p.inputs.length now
    rw [← h.events] at hiff
    cases he : b.expr? p.exprs p.inputs.length now with
    | none =>
      rw [he] at hiff
      simpa [step, Program.step, he, hiff] using h
    | some e =>
      rw [he] at hiff
      obtain ⟨hv, hrep⟩ := eval_construct h now he
      simp only [step, Program.step, he, hiff, Option.isSome_some, if_true]
      exact {
        events := by simp [EventLoop.construct, EventLoop.bind, h.events]
        ordered := by
          have hnew := Ordered.update (A := A) hrep (.nil _)
          rw [← h.events] at hnew
          exact h.ordered.append hnew
        shows := by
          have hnew := h.shows.concat hv
          rw [← h.events] at hnew
          exact hnew
        bound := by
          refine (actionsOf_append _ _).trans ?_
          rw [h.bound]
          exact List.append_nil _ }
  | ifHigh event action =>
    by_cases hlt : event < p.exprs.length
    · have hlt' : event < loop.events := h.events ▸ hlt
      simp only [step, Program.step, if_pos hlt, if_pos hlt']
      exact {
        events := h.events
        ordered := h.ordered.append (.ifHigh hlt (.nil _))
        shows := h.shows
        bound := by
          refine (actionsOf_append _ _).trans ?_
          rw [h.bound]
          rfl }
    · have hlt' : ¬ event < loop.events := h.events ▸ hlt
      simpa only [step, Program.step, if_neg hlt, if_neg hlt'] using h
  | poll input =>
    have hnone : Shows loop.state [] (input :: p.inputs) := fun k e he => absurd he (by simp)
    obtain ⟨hshow, hord, -⟩ := poll_spec h.ordered input hnone
    exact ⟨h.events, hord, hshow, (actionsOf_pollBindings input _ _).trans h.bound⟩

/-- The loop after a history, and the program that the history has put together. -/
def loopAfter (l : List (Op I A)) : EventLoop I A := run step {} l
def programOf (l : List (Op I A)) : Program I A := run Program.step {} l

lemma follows_history (l : List (Op I A)) : Follows (loopAfter l) (programOf l) := by
  induction l using List.reverseRecOn with
  | nil => exact follows_init
  | append_singleton l op ih =>
    rw [loopAfter, programOf, run_concat, run_concat]
    exact follows_step op ih

/-- **Events.** However events and actions were put together between the polls before, a poll
leaves every event in the state that its expression means after it, and runs the actions bound
to the events that are up, each once and no other. -/
theorem poll_meaning (l : List (Op I A)) (input : I) :
    (∀ k : Fin (programOf l).exprs.length, ((loopAfter l).poll input).1.getAsBoolean k =
      ((programOf l).exprs.get k).meaning (input :: (programOf l).inputs)) ∧
    ((loopAfter l).poll input).2 = ((programOf l).bound.filter fun b =>
      ((loopAfter l).poll input).1.getAsBoolean b.1).map Prod.snd := by
  have h := follows_history l
  have hnone : Shows (loopAfter l).state [] (input :: (programOf l).inputs) :=
    fun k e he => absurd he (by simp)
  obtain ⟨hshow, -, hran⟩ := poll_spec h.ordered input hnone
  constructor
  · intro k
    exact hshow k _ (List.getElem?_eq_getElem k.isLt)
  · rw [← h.bound]
    exact hran

end Kuavo.BooleanEvent
