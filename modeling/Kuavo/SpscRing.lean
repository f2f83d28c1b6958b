import Kuavo.Lib.BoundedQueue
import Kuavo.Lib.Copy
import Kuavo.Lib.Bits

/-!
The ring buffer of `include/mercury_shm.h` between its two threads.

The indexes only ever grow and are masked at each access. Each of the loads, the parts of the
copies and the stores of a call is a step of its own, which the other thread can come in
between of.
-/

namespace Kuavo.SpscRing

open Kuavo.Lib.Bits Kuavo.Lib.Runs Kuavo.Lib.Copy Kuavo.Lib.BoundedQueue

/-- Every power of two that `size_t` has. -/
def Capacity (k : Fin 64) : UInt64 := UInt64.ofNat (2 ^ k.val)

/-- The slot of an index. -/
def slot (k : Fin 64) (i : UInt64) : ℕ := (i &&& (Capacity k - 1)).toNat

variable {T : Type*} {k : Fin 64} {L : Layout T}

/-- Where the pushing thread is. With nothing left to copy, the store of the index is next. -/
inductive PushPc (L : Layout T)
  | idle
  | loadHead (item : T)
  | loadTail (item : T) (head : UInt64)
  | drop (item : T)
  | copying (item : T) (head : UInt64) (rest : List L.Part)

/-- Where the popping thread is; `item` is the variable of the caller that it fills. -/
inductive PopPc (L : Layout T)
  | idle
  | loadTail (item : T)
  | loadHead (item : T) (tail : UInt64)
  | copying (item : T) (tail : UInt64) (rest : List L.Part)

structure State (L : Layout T) where
  head_ : UInt64 := 0
  tail_ : UInt64 := 0
  dropped_ : UInt64 := 0
  buffer_ : ℕ → T
  pushPc : PushPc L := .idle
  popPc : PopPc L := .idle
  /-- The calls of `push` that have returned, with what they returned. -/
  pushes : List (T × Bool) := []
  /-- The calls of `pop` that have returned, with what they returned. -/
  pops : List (Option T) := []

inductive Input (T : Type*)
  | push (item : T)
  | pushStep
  | pop (item : T)
  | popStep

variable (k) in
def pushStep (s : State L) : State L :=
  match s.pushPc with
  | .idle => s
  | .loadHead item => { s with pushPc := .loadTail item s.head_ }
  | .loadTail item head =>
    if Capacity k ≤ head - s.tail_ then { s with pushPc := .drop item }
    else { s with pushPc := .copying item head L.parts }
  | .drop item =>
    { s with
      dropped_ := s.dropped_ + 1
      pushPc := .idle
      pushes := s.pushes ++ [(item, false)] }
  | .copying item head (p :: rest) =>
    let i := slot k head
    { s with
      buffer_ := Function.update s.buffer_ i (L.copy p item (s.buffer_ i))
      pushPc := .copying item head rest }
  | .copying item head [] =>
    { s with
      head_ := head + 1
      pushPc := .idle
      pushes := s.pushes ++ [(item, true)] }

variable (k) in
def popStep (s : State L) : State L :=
  match s.popPc with
  | .idle => s
  | .loadTail item => { s with popPc := .loadHead item s.tail_ }
  | .loadHead item tail =>
    if s.head_ ≤ tail then { s with popPc := .idle, pops := s.pops ++ [none] }
    else { s with popPc := .copying item tail L.parts }
  | .copying item tail (p :: rest) =>
    { s with popPc := .copying (L.copy p (s.buffer_ (slot k tail)) item) tail rest }
  | .copying item tail [] =>
    { s with
      tail_ := tail + 1
      popPc := .idle
      pops := s.pops ++ [some item] }

variable (k) in
/-- A thread starts a call only when it has returned from the last. -/
def step (s : State L) : Input T → State L
  | .push item =>
    match s.pushPc with
    | .idle => { s with pushPc := .loadHead item }
    | _ => s
  | .pushStep => pushStep k s
  | .pop item =>
    match s.popPc with
    | .idle => { s with popPc := .loadTail item }
    | _ => s
  | .popStep => popStep k s

/-- The two indexes are equal, whatever the slots hold. -/
def init (buffer : ℕ → T) : State L where
  buffer_ := buffer

def size (s : State L) : UInt64 := s.head_ - s.tail_

/-! ### What the callers see -/

/-- The call of `push` that has not returned yet. -/
def PushPc.item : PushPc L → List T
  | .idle => []
  | .loadHead item | .loadTail item _ | .drop item | .copying item _ _ => [item]

/-- What `push` was called with, in order. -/
def pushed (s : State L) : List T := s.pushes.map Prod.fst ++ s.pushPc.item

lemma pushed_congr {s t : State L} (hpushes : t.pushes = s.pushes) (hpc : t.pushPc = s.pushPc) :
    pushed t = pushed s := by
  rw [pushed, hpushes, hpc, pushed]

/-- What `push` has just returned, if it is not still running. -/
def pushReturned (s : State L) : Option Bool :=
  match s.pushPc with
  | .idle => s.pushes.getLast?.map Prod.snd
  | _ => none

/-- What `pop` has just returned, if it is not still running. -/
def popReturned (s : State L) : Option (Option T) :=
  match s.popPc with
  | .idle => s.pops.getLast?
  | _ => none

/-- The pushing thread alone makes the calls of `push`, and a step of it ends one at most. -/
lemma pushStep_cases {s : State L} (hbusy : s.pushPc ≠ .idle) :
    pushed (pushStep k s) = pushed s ∧ (pushStep k s).pops = s.pops ∧
      (pushStep k s).popPc = s.popPc ∧
      ((pushStep k s).pushPc ≠ .idle ∧ (pushStep k s).pushes = s.pushes ∧
          pushReturned (pushStep k s) = none ∨
        ∃ item ok, (pushStep k s).pushPc = .idle ∧
          (pushStep k s).pushes = s.pushes ++ [(item, ok)] ∧
          pushReturned (pushStep k s) = some ok) := by
  obtain ⟨head_, tail_, dropped_, buffer_, pushPc, popPc, pushes, pops⟩ := s
  cases pushPc with
  | idle => exact absurd rfl hbusy
  | loadHead item => exact ⟨rfl, rfl, rfl, .inl ⟨nofun, rfl, rfl⟩⟩
  | loadTail item head =>
    by_cases hfull : Capacity k ≤ head - tail_
    · simp only [pushStep, if_pos hfull]
      exact ⟨rfl, trivial, trivial, .inl ⟨nofun, trivial, rfl⟩⟩
    · simp only [pushStep, if_neg hfull]
      exact ⟨rfl, trivial, trivial, .inl ⟨nofun, trivial, rfl⟩⟩
  | drop item =>
    refine ⟨?_, rfl, rfl, .inr ⟨item, false, rfl, rfl, ?_⟩⟩
    · simp [pushStep, pushed, PushPc.item]
    · simp [pushStep, pushReturned]
  | copying item head rest =>
    cases rest with
    | cons p rest => exact ⟨rfl, rfl, rfl, .inl ⟨nofun, rfl, rfl⟩⟩
    | nil =>
      refine ⟨?_, rfl, rfl, .inr ⟨item, true, rfl, rfl, ?_⟩⟩
      · simp [pushStep, pushed, PushPc.item]
      · simp [pushStep, pushReturned]

/-- The same for the popping thread. -/
lemma popStep_cases {s : State L} (hbusy : s.popPc ≠ .idle) :
    (popStep k s).pushes = s.pushes ∧ (popStep k s).pushPc = s.pushPc ∧
      ((popStep k s).popPc ≠ .idle ∧ (popStep k s).pops = s.pops ∧
          popReturned (popStep k s) = none ∨
        ∃ o, (popStep k s).popPc = .idle ∧ (popStep k s).pops = s.pops ++ [o] ∧
          popReturned (popStep k s) = some o) := by
  obtain ⟨head_, tail_, dropped_, buffer_, pushPc, popPc, pushes, pops⟩ := s
  cases popPc with
  | idle => exact absurd rfl hbusy
  | loadTail item => exact ⟨rfl, rfl, .inl ⟨nofun, rfl, rfl⟩⟩
  | loadHead item tail =>
    by_cases hempty : head_ ≤ tail
    · simp only [popStep, if_pos hempty]
      exact ⟨trivial, trivial, .inr ⟨none, trivial, rfl, by simp [popReturned]⟩⟩
    · simp only [popStep, if_neg hempty]
      exact ⟨trivial, trivial, .inl ⟨nofun, trivial, rfl⟩⟩
  | copying item tail rest =>
    cases rest with
    | cons p rest => exact ⟨rfl, rfl, .inl ⟨nofun, rfl, rfl⟩⟩
    | nil => exact ⟨rfl, rfl, .inr ⟨some item, rfl, rfl, by simp [popStep, popReturned]⟩⟩

/-! ### Indexes and slots -/

lemma toNat_Capacity (k : Fin 64) : (Capacity k).toNat = 2 ^ k.val := by
  rw [Capacity, UInt64.toNat_ofNat']
  exact Nat.mod_eq_of_lt (Nat.pow_lt_pow_right (by decide) k.isLt)

/-- Masking is the remainder. -/
lemma slot_eq (k : Fin 64) (i : UInt64) : slot k i = i.toNat % 2 ^ k.val := by
  have hone : (1 : UInt64) ≤ Capacity k := by
    rw [UInt64.le_iff_toNat_le, toNat_Capacity]
    exact Nat.one_le_two_pow
  rw [slot, UInt64.toNat_and, UInt64.toNat_sub_of_le _ _ hone, toNat_Capacity]
  exact Nat.and_two_pow_sub_one_eq_mod i.toNat k.val

/-- Indexes less than a round apart have different slots. -/
lemma slot_ne {i j : UInt64} (hlt : i.toNat < j.toNat) (hround : j.toNat < i.toNat + 2 ^ k.val) :
    slot k i ≠ slot k j := by
  rw [slot_eq, slot_eq]
  exact mod_ne_of_lt hlt hround

/-! ### The queue that a state stands for -/

/-- The push that is certain to fail. -/
def PushPc.failing : PushPc L → List (T × Bool)
  | .drop item => [(item, false)]
  | _ => []

variable (k) in
/-- The items whose indexes have been stored by the one thread and not by the other. -/
def contents (s : State L) : List T :=
  window s.buffer_ (2 ^ k.val) s.tail_.toNat (s.head_.toNat - s.tail_.toNat)

variable (k) in
def abs (s : State L) : Queue T where
  items := contents k s
  pushes := s.pushes ++ s.pushPc.failing
  pops := s.pops

variable (k) in
/-- Where a step takes effect: a push that finds the ring full when it loads `tail_`, any other
push when it stores `head_`; a pop that finds it empty when it loads `head_`, any other pop when
it stores `tail_`. -/
def events (s : State L) : Input T → List (Op T)
  | .pushStep =>
    match s.pushPc with
    | .loadTail item head => if Capacity k ≤ head - s.tail_ then [.push item] else []
    | .copying item _ [] => [.push item]
    | _ => []
  | .popStep =>
    match s.popPc with
    | .loadHead _ tail => if s.head_ ≤ tail then [.pop] else []
    | .copying _ _ [] => [.pop]
    | _ => []
  | .push _ | .pop _ => []

/-! ### The invariant -/

variable (k) in
/-- What the pushing thread has loaded is still so, and its slot is outside of the contents. -/
def PushOk (s : State L) : Prop :=
  match s.pushPc with
  | .idle | .loadHead _ | .drop _ => True
  | .loadTail _ head => head = s.head_
  | .copying item head rest =>
    head = s.head_ ∧ head.toNat < s.tail_.toNat + 2 ^ k.val ∧
      L.finish rest item (s.buffer_ (slot k head)) = item

variable (k) in
/-- What the popping thread has loaded is still so, and its slot is the first of the contents. -/
def PopOk (s : State L) : Prop :=
  match s.popPc with
  | .idle | .loadTail _ => True
  | .loadHead _ tail => tail = s.tail_
  | .copying item tail rest =>
    tail = s.tail_ ∧ tail.toNat < s.head_.toNat ∧
      L.finish rest (s.buffer_ (slot k tail)) item = s.buffer_ (slot k tail)

variable (k) in
structure Inv (s : State L) : Prop where
  head_eq : s.head_.toNat = (accepted s.pushes).length
  dropped_eq : s.dropped_.toNat = dropped s.pushes
  tail_le : s.tail_.toNat ≤ s.head_.toNat
  head_le : s.head_.toNat ≤ s.tail_.toNat + 2 ^ k.val
  push : PushOk k s
  pop : PopOk k s

lemma inv_init (buffer : ℕ → T) : Inv k (init buffer : State L) :=
  ⟨rfl, rfl, le_rfl, Nat.zero_le _, trivial, trivial⟩

lemma length_items (s : State L) :
    (abs k s).items.length = s.head_.toNat - s.tail_.toNat := length_window _ _ _ _

lemma full_iff {s : State L} (hle : s.tail_.toNat ≤ s.head_.toNat) :
    Capacity k ≤ s.head_ - s.tail_ ↔ ¬ (abs k s).items.length < 2 ^ k.val := by
  rw [UInt64.le_iff_toNat_le, toNat_Capacity,
    UInt64.toNat_sub_of_le _ _ (UInt64.le_iff_toNat_le.mpr hle), length_items, not_lt]

lemma empty_iff {s : State L} : s.head_ ≤ s.tail_ ↔ (abs k s).items = [] := by
  rw [← List.length_eq_zero_iff, length_items, UInt64.le_iff_toNat_le, Nat.sub_eq_zero_iff_le]

/-- As long as the calls of `push` are fewer than `2 ^ 64`, the counters do not wrap. -/
lemma counters_lt {s : State L} (h : Inv k s) {item : T} (hitem : s.pushPc.item = [item])
    (hB : (pushed s).length < 2 ^ 64) :
    s.head_.toNat + 1 < 2 ^ 64 ∧ s.dropped_.toNat + 1 < 2 ^ 64 := by
  rw [pushed, hitem, List.length_append, List.length_map, List.length_singleton,
    length_pushes] at hB
  rw [h.head_eq, h.dropped_eq]
  constructor <;> omega

/-- The first of the contents, and what is left when it is gone. -/
lemma items_cons {s : State L} (hlt : s.tail_.toNat < s.head_.toNat) :
    (abs k s).items = s.buffer_ (slot k s.tail_) ::
      window s.buffer_ (2 ^ k.val) (s.tail_.toNat + 1) (s.head_.toNat - (s.tail_.toNat + 1)) := by
  have hn : s.head_.toNat - s.tail_.toNat = s.head_.toNat - (s.tail_.toNat + 1) + 1 := by omega
  simp only [abs, contents]
  rw [hn, window_succ, slot_eq]

/-! ### One step of the pushing thread -/

theorem inv_pushStep {s : State L} (h : Inv k s) (hB : (pushed s).length < 2 ^ 64) :
    Inv k (pushStep k s) := by
  obtain ⟨head_, tail_, dropped_, buffer_, pushPc, popPc, pushes, pops⟩ := s
  have hpop := h.pop
  have hpush := h.push
  cases pushPc with
  | idle => exact h
  | loadHead item => exact ⟨h.head_eq, h.dropped_eq, h.tail_le, h.head_le, rfl, h.pop⟩
  | loadTail item head =>
    obtain rfl : head = head_ := hpush
    by_cases hfull : Capacity k ≤ head - tail_
    · simp only [pushStep, if_pos hfull]
      exact ⟨h.head_eq, h.dropped_eq, h.tail_le, h.head_le, trivial, h.pop⟩
    · simp only [pushStep, if_neg hfull]
      have hroom := not_not.mp (mt (full_iff h.tail_le).mpr hfull)
      rw [length_items] at hroom
      have hlt : head.toNat < tail_.toNat + 2 ^ k.val := by
        have hle := h.tail_le
        simp only at hroom hle
        omega
      exact ⟨h.head_eq, h.dropped_eq, h.tail_le, h.head_le,
        ⟨rfl, hlt, L.finish_parts item _⟩, h.pop⟩
  | drop item =>
    obtain ⟨-, hlt⟩ := counters_lt h rfl hB
    refine ⟨?_, ?_, h.tail_le, h.head_le, trivial, h.pop⟩
    · simpa [pushStep] using h.head_eq
    · have heq := h.dropped_eq
      simp only [pushStep, dropped_concat] at heq ⊢
      rw [toNat_succ hlt, heq]
      rfl
  | copying item head rest =>
    obtain ⟨hhead, hlt, hfinish⟩ := hpush
    obtain rfl : head = head_ := hhead
    cases rest with
    | cons p rest =>
      refine ⟨h.head_eq, h.dropped_eq, h.tail_le, h.head_le, ⟨rfl, hlt, ?_⟩, ?_⟩
      · simpa [pushStep] using hfinish
      · -- the popping thread reads another slot
        cases popPc with
        | copying item' tail rest' =>
          obtain ⟨htail, hle, hfinish'⟩ := hpop
          obtain rfl : tail = tail_ := htail
          have hne : slot k tail ≠ slot k head := slot_ne hle hlt
          refine ⟨rfl, hle, ?_⟩
          simpa [pushStep, Function.update_of_ne hne] using hfinish'
        | _ => exact hpop
    | nil =>
      obtain ⟨hlt', -⟩ := counters_lt h rfl hB
      have hsucc : (head + 1).toNat = head.toNat + 1 := toNat_succ hlt'
      have heq := h.head_eq
      have hle := h.tail_le
      simp only at heq hle hlt hlt'
      refine ⟨?_, ?_, ?_, ?_, trivial, ?_⟩
      · simp [pushStep, hsucc, heq]
      · simpa [pushStep] using h.dropped_eq
      · simp only [pushStep, hsucc]
        omega
      · simp only [pushStep, hsucc]
        omega
      · cases popPc with
        | copying item' tail rest' =>
          obtain ⟨htail, hlt', hfinish'⟩ := hpop
          refine ⟨htail, ?_, hfinish'⟩
          simp only [pushStep, hsucc]
          exact Nat.lt_succ_of_lt hlt'
        | _ => exact hpop

/-- Unless the step takes effect, the queue stays as it is. -/
theorem abs_pushStep {s : State L} (h : Inv k s) (hB : (pushed s).length < 2 ^ 64) :
    abs k (pushStep k s) =
      run (Lib.BoundedQueue.step (2 ^ k.val)) (abs k s) (events k s .pushStep) := by
  obtain ⟨head_, tail_, dropped_, buffer_, pushPc, popPc, pushes, pops⟩ := s
  have hpush := h.push
  have hle := h.tail_le
  cases pushPc with
  | idle => rfl
  | loadHead item => rfl
  | loadTail item head =>
    obtain rfl : head = head_ := hpush
    by_cases hfull : Capacity k ≤ head - tail_
    · simp only [pushStep, events, if_pos hfull, run_cons, run_nil]
      rw [step_push_full _ ((full_iff hle).mp hfull)]
      simp [abs, contents, PushPc.failing]
    · simp only [pushStep, events, if_neg hfull]
      rfl
  | drop item => simp [abs, contents, pushStep, events, PushPc.failing]
  | copying item head rest =>
    obtain ⟨hhead, hlt, hfinish⟩ := hpush
    obtain rfl : head = head_ := hhead
    simp only at hle hlt
    cases rest with
    | cons p rest =>
      simp only [abs, contents, pushStep, events, run_nil, PushPc.failing]
      rw [slot_eq, window_update _ _ (by omega) hlt]
    | nil =>
      obtain ⟨hlt', -⟩ := counters_lt h rfl hB
      have hsucc : (head + 1).toNat = head.toNat + 1 := toNat_succ hlt'
      have hn : head.toNat + 1 - tail_.toNat = head.toNat - tail_.toNat + 1 := by omega
      have hroom : head.toNat - tail_.toNat < 2 ^ k.val := by omega
      rw [L.finish_nil, slot_eq] at hfinish
      simp only at hfinish
      simp only [pushStep, events, run_cons, run_nil]
      rw [step_push_room _ (by rw [length_items]; exact hroom)]
      simp only [abs, contents, PushPc.failing, List.append_nil, hsucc, hn, window_concat,
        Nat.add_sub_cancel' hle, hfinish]

/-! ### One step of the popping thread -/

theorem inv_popStep {s : State L} (h : Inv k s) : Inv k (popStep k s) := by
  obtain ⟨head_, tail_, dropped_, buffer_, pushPc, popPc, pushes, pops⟩ := s
  have hpop := h.pop
  have hpush := h.push
  cases popPc with
  | idle => exact h
  | loadTail item => exact ⟨h.head_eq, h.dropped_eq, h.tail_le, h.head_le, h.push, rfl⟩
  | loadHead item tail =>
    obtain rfl : tail = tail_ := hpop
    by_cases hempty : head_ ≤ tail
    · simp only [popStep, if_pos hempty]
      exact ⟨h.head_eq, h.dropped_eq, h.tail_le, h.head_le, h.push, trivial⟩
    · simp only [popStep, if_neg hempty]
      have hlt : tail.toNat < head_.toNat := UInt64.lt_iff_toNat_lt.mp (UInt64.not_le.mp hempty)
      exact ⟨h.head_eq, h.dropped_eq, h.tail_le, h.head_le, h.push,
        ⟨rfl, hlt, L.finish_parts _ item⟩⟩
  | copying item tail rest =>
    obtain ⟨htail, hlt, hfinish⟩ := hpop
    obtain rfl : tail = tail_ := htail
    cases rest with
    | cons p rest =>
      refine ⟨h.head_eq, h.dropped_eq, h.tail_le, h.head_le, h.push, rfl, hlt, ?_⟩
      simpa [popStep] using hfinish
    | nil =>
      have hsucc : (tail + 1).toNat = tail.toNat + 1 := toNat_succ_of_lt hlt
      have hle := h.head_le
      simp only at hlt hle
      refine ⟨h.head_eq, h.dropped_eq, ?_, ?_, ?_, trivial⟩
      · simp only [popStep, hsucc]
        exact hlt
      · simp only [popStep, hsucc]
        omega
      · -- there is one more slot free than the pushing thread found
        cases pushPc with
        | copying item' head rest' =>
          obtain ⟨hhead, hroom, hfinish'⟩ := hpush
          refine ⟨hhead, ?_, hfinish'⟩
          simp only [popStep, hsucc]
          simp only at hroom
          omega
        | _ => exact hpush

theorem abs_popStep {s : State L} (h : Inv k s) :
    abs k (popStep k s) =
      run (Lib.BoundedQueue.step (2 ^ k.val)) (abs k s) (events k s .popStep) := by
  obtain ⟨head_, tail_, dropped_, buffer_, pushPc, popPc, pushes, pops⟩ := s
  have hpop := h.pop
  cases popPc with
  | idle => rfl
  | loadTail item => rfl
  | loadHead item tail =>
    obtain rfl : tail = tail_ := hpop
    by_cases hempty : head_ ≤ tail
    · simp only [popStep, events, if_pos hempty, run_cons, run_nil]
      rw [step_pop_nil (empty_iff.mp hempty)]
      rfl
    · simp only [popStep, events, if_neg hempty]
      rfl
  | copying item tail rest =>
    obtain ⟨htail, hlt, hfinish⟩ := hpop
    obtain rfl : tail = tail_ := htail
    cases rest with
    | cons p rest => rfl
    | nil =>
      have hsucc : (tail + 1).toNat = tail.toNat + 1 := toNat_succ_of_lt hlt
      rw [L.finish_nil] at hfinish
      simp only [popStep, events, run_cons, run_nil]
      rw [step_pop_cons (items_cons hlt)]
      simp only [abs, contents, hsucc, hfinish]

/-! ### Runs of both threads -/

/-- What a step of either thread does to the calls of `push`. -/
lemma pushed_step (s : State L) (i : Input T) :
    pushed (step k s i) = pushed s ∨ ∃ item, pushed (step k s i) = pushed s ++ [item] := by
  cases i with
  | push item =>
    simp only [step]
    split
    · rename_i hpc
      exact .inr ⟨item, by simp [pushed, hpc, PushPc.item]⟩
    · exact .inl rfl
  | pushStep =>
    by_cases hbusy : s.pushPc = .idle
    · simp [step, pushStep, hbusy]
    · exact .inl (pushStep_cases hbusy).1
  | pop item =>
    simp only [step]
    split <;> exact .inl rfl
  | popStep =>
    by_cases hbusy : s.popPc = .idle
    · simp [step, popStep, hbusy]
    · obtain ⟨hpushes, hpc, -⟩ := popStep_cases (k := k) hbusy
      exact .inl (pushed_congr hpushes hpc)

lemma length_pushed_le (s : State L) (i : Input T) :
    (pushed s).length ≤ (pushed (step k s i)).length := by
  obtain h | ⟨item, h⟩ := pushed_step (k := k) s i
  · rw [h]
  · rw [h, List.length_append]
    exact Nat.le_add_right _ _

theorem inv_step {s : State L} (i : Input T) (h : Inv k s)
    (hB : (pushed (step k s i)).length < 2 ^ 64) : Inv k (step k s i) := by
  have hB' := (length_pushed_le s i).trans_lt hB
  cases i with
  | push item =>
    simp only [step]
    split
    · exact ⟨h.head_eq, h.dropped_eq, h.tail_le, h.head_le, trivial, h.pop⟩
    · exact h
  | pushStep => exact inv_pushStep h hB'
  | pop item =>
    simp only [step]
    split
    · exact ⟨h.head_eq, h.dropped_eq, h.tail_le, h.head_le, h.push, trivial⟩
    · exact h
  | popStep => exact inv_popStep h

/-- **Simulation**, step by step. -/
theorem abs_step {s : State L} (i : Input T) (h : Inv k s)
    (hB : (pushed (step k s i)).length < 2 ^ 64) :
    abs k (step k s i) =
      run (Lib.BoundedQueue.step (2 ^ k.val)) (abs k s) (events k s i) := by
  have hB' := (length_pushed_le s i).trans_lt hB
  cases i with
  | push item =>
    simp only [step]
    split
    · rename_i hpc
      simp [abs, contents, events, hpc, PushPc.failing]
    · rfl
  | pushStep => exact abs_pushStep h hB'
  | pop item =>
    simp only [step]
    split <;> rfl
  | popStep => exact abs_popStep h

lemma fifo_step {s : State L} (i : Input T) (h : Inv k s)
    (hB : (pushed (step k s i)).length < 2 ^ 64) (hfifo : Fifo (2 ^ k.val) (abs k s)) :
    Fifo (2 ^ k.val) (abs k (step k s i)) := by
  rw [abs_step i h hB]
  exact run_invariant (I := Fifo (2 ^ k.val))
    (fun q op hq => Lib.BoundedQueue.fifo_step hq op) hfifo _

/-- What was accepted has been returned or is still there. -/
lemma accepted_eq {s : State L} (hfifo : Fifo (2 ^ k.val) (abs k s)) :
    accepted s.pushes = returned s.pops ++ (abs k s).items := by
  have haccepted := hfifo.accepted_eq
  -- a push that is certain to fail adds nothing to what was accepted
  cases hpc : s.pushPc <;> simpa [abs, hpc, PushPc.failing] using haccepted

lemma size_eq {s : State L} (h : Inv k s) : (size s).toNat = (abs k s).items.length := by
  rw [size, UInt64.toNat_sub_of_le _ _ (UInt64.le_iff_toNat_le.mpr h.tail_le), length_items]

/-- No slot is written while it is read. -/
def Disjoint (k : Fin 64) (s : State L) : Prop :=
  ∀ item head rest item' tail rest', s.pushPc = .copying item head rest →
    s.popPc = .copying item' tail rest' → slot k head ≠ slot k tail

lemma disjoint_of_inv {s : State L} (h : Inv k s) : Disjoint k s := by
  intro item head rest item' tail rest' hpush hpop
  have hpushOk := h.push
  have hpopOk := h.pop
  rw [PushOk, hpush] at hpushOk
  rw [PopOk, hpop] at hpopOk
  obtain ⟨rfl, hlt, -⟩ := hpushOk
  obtain ⟨rfl, hle, -⟩ := hpopOk
  exact (slot_ne hle hlt).symm

/-- Every push that was called is in the run's bound from its start on. -/
lemma each_bound {buffer : ℕ → T} {l : List (Input T)}
    (hB : (pushed (run (step k) (init buffer : State L) l)).length < 2 ^ 64) :
    Each (step k) (fun s i => (pushed (step k s i)).length < 2 ^ 64) (init buffer : State L) l :=
  each_of_final (B := fun s => (pushed s).length < 2 ^ 64)
    (fun s i h => (length_pushed_le s i).trans_lt h) hB

/-- **The ring is a bounded queue.** Whatever the interleaving, with fewer than `2 ^ 64` pushes:
what the two threads have seen is a run of the queue that drops the newest item when it is full;
the pops returned the accepted items, in order, and what they have not returned is in the ring,
which has room for it; no slot is written while it is read; and `dropped_` counts the pushes
that failed. -/
theorem refines_boundedQueue (k : Fin 64) (L : Layout T) (buffer : ℕ → T) (l : List (Input T))
    (hB : (pushed (run (step k) (init buffer : State L) l)).length < 2 ^ 64) :
    let s := run (step k) (init buffer : State L) l
    Reachable (Lib.BoundedQueue.step (2 ^ k.val)) {} (abs k s) ∧
      accepted s.pushes = returned s.pops ++ (abs k s).items ∧
      (abs k s).items.length ≤ (Capacity k).toNat ∧
      s.dropped_.toNat = dropped s.pushes ∧
      Disjoint k s := by
  have hinv := (each_bound hB).invariant (I := Inv k) (fun s i h hb => inv_step i h hb)
    (inv_init buffer)
  have habs : Reachable (Lib.BoundedQueue.step (2 ^ k.val)) {}
      (abs k (run (step k) (init buffer : State L) l)) :=
    (each_bound hB).abstract (f := abs k) (fun s i h hb => inv_step i h hb)
      (fun s i h hb => abs_step i h hb) (inv_init buffer)
  have hfifo := fifo_of_reachable habs
  refine ⟨habs, accepted_eq hfifo, ?_, hinv.dropped_eq, disjoint_of_inv hinv⟩
  rw [toNat_Capacity]
  exact hfifo.length_le

/-- A ring with one slot, filled. A second item is dropped while the first is popped, and a third
takes its place. -/
def oneRound : List (Input ℕ) :=
  .push 7 :: List.replicate 4 .pushStep ++
    [.push 8, .pop 0, .popStep, .pushStep, .pushStep, .popStep, .pushStep, .popStep, .popStep] ++
    .push 9 :: List.replicate 4 .pushStep

theorem refines_boundedQueue_oneRound :
    let s := run (step 0) (init fun _ => 0 : State (Layout.whole ℕ)) oneRound
    s.pushes = [(7, true), (8, false), (9, true)] ∧ returned s.pops = [7] ∧
      accepted s.pushes = returned s.pops ++ (abs 0 s).items ∧
      (abs 0 s).items.length ≤ (Capacity 0).toNat ∧ s.dropped_.toNat = dropped s.pushes := by
  obtain ⟨-, hfifo, hlength, hdropped, -⟩ :=
    refines_boundedQueue 0 (Layout.whole ℕ) (fun _ => 0) oneRound (by decide)
  exact ⟨by decide, by decide, hfifo, hlength, hdropped⟩

end Kuavo.SpscRing
