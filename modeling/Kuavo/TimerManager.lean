import Kuavo.PriorityQueue

/-!
`lib/common/TimerManager.cpp` over `lib/common/GenericTimerQueue.h`: timers in a queue by the
tick of 100 ms in which they expire.

Ticks are far from overflow. The queue of the standard library works as the one of
`Kuavo.PriorityQueue`.
-/

namespace Kuavo.TimerManager

open Kuavo.Lib Kuavo.Lib.Heap Kuavo.Lib.Runs

variable {E : Type*}

/-- What `gettimeofday` gives. -/
structure Timeval where
  tv_sec : ℤ
  tv_usec : ℤ
  usec_nonneg : 0 ≤ tv_usec
  usec_lt : tv_usec < 1000000

def Timeval.micros (now : Timeval) : ℤ := now.tv_sec * 1000000 + now.tv_usec

def TICK_MILLISECONDS : ℤ := 100

def tick (now : Timeval) : ℤ :=
  now.tv_sec * (Int.tdiv 1000 TICK_MILLISECONDS) +
    Int.tdiv now.tv_usec (TICK_MILLISECONDS * 1000)

/-- A timer, and the call that started it. -/
structure Timer (E : Type*) where
  timer_id : UInt32
  event : E
  started : Timeval
  milliseconds : ℕ

/-- An element of the queue. -/
structure Entry (E : Type*) where
  expires : ℤ
  object : Timer E

def TimerCompare (lhs rhs : Entry E) : Prop := rhs.expires - lhs.expires < 0

instance : DecidableRel (TimerCompare (E := E)) := fun lhs rhs =>
  inferInstanceAs (Decidable (rhs.expires - lhs.expires < 0))

lemma timerCompare_iff (lhs rhs : Entry E) : TimerCompare lhs rhs ↔ rhs.expires < lhs.expires := by
  unfold TimerCompare
  omega

instance : IsStrictWeakOrder (Entry E) TimerCompare := by
  have hkey : (TimerCompare : Entry E → Entry E → Prop) = fun a b =>
      OrderDual.toDual a.expires < OrderDual.toDual b.expires := by
    funext a b
    exact propext (timerCompare_iff a b)
  rw [hkey]
  exact isStrictWeakOrder_key _

variable (std : Heap.Functions (TimerCompare (E := E)))

namespace GenericTimerQueue

def push (queue_ : List (Entry E)) (now interval : ℤ) (obj : Timer E) : List (Entry E) :=
  let interval := if interval < 0 then 0 else interval
  PriorityQueue.push std queue_ ⟨now + interval, obj⟩

/-- The timer at the head, if it has expired. -/
def pop (queue_ : List (Entry E)) (now : ℤ) : Option (Timer E) × List (Entry E) :=
  match PriorityQueue.top queue_ with
  | none => (none, queue_)
  | some timer =>
    if now - timer.expires ≥ 0 then
      match PriorityQueue.pop std queue_ with
      | some (_, rest) => (some timer.object, rest)
      | none => (none, queue_)
    else (none, queue_)

end GenericTimerQueue

/-- What was started and what was returned are kept beside the manager's own data. -/
structure Manager (E : Type*) where
  timer_queue_ : List (Entry E) := []
  next_timer_id_ : UInt32 := 1
  started : List (Timer E) := []
  returned : List (Timer E) := []

def INVALID_TIMER_ID : UInt32 := 0

def getNextTimerId (m : Manager E) : UInt32 × Manager E :=
  let id := if m.next_timer_id_ = INVALID_TIMER_ID then 1 else m.next_timer_id_
  (id, { m with next_timer_id_ := id + 1 })

def startTimer (m : Manager E) (now : Timeval) (event : E) (milliseconds : ℕ) :
    UInt32 × Manager E :=
  let (timer_id, m) := getNextTimerId m
  let interval := Int.tdiv milliseconds TICK_MILLISECONDS
  let timer : Timer E := ⟨timer_id, event, now, milliseconds⟩
  (timer_id, { m with
    timer_queue_ := GenericTimerQueue.push std m.timer_queue_ (tick now) interval timer
    started := m.started ++ [timer] })

def getExpiredTimer (m : Manager E) (now : Timeval) : Option (Timer E) × Manager E :=
  let (timer, queue) := GenericTimerQueue.pop std m.timer_queue_ (tick now)
  (timer, { m with timer_queue_ := queue, returned := m.returned ++ timer.toList })

inductive Op (E : Type*)
  | startTimer (now : Timeval) (event : E) (milliseconds : ℕ)
  | getExpiredTimer (now : Timeval)

def step (m : Manager E) : Op E → Manager E
  | .startTimer now event milliseconds => (startTimer std m now event milliseconds).2
  | .getExpiredTimer now => (getExpiredTimer std m now).2

/-! ### Ticks -/

lemma tick_eq (now : Timeval) : tick now = now.micros / 100000 := by
  have h0 := now.usec_nonneg
  have hdiv : Int.tdiv now.tv_usec 100000 = now.tv_usec / 100000 :=
    Int.tdiv_eq_ediv_of_nonneg h0
  change now.tv_sec * 10 + Int.tdiv now.tv_usec 100000 = _
  rw [hdiv, Timeval.micros]
  omega

/-- The ticks in which a timer expires begin here. -/
def Timer.due (t : Timer E) : ℤ := t.started.micros / 100000 + (t.milliseconds : ℤ) / 100

/-- The times at which a timer has expired by its tick, but not by its timeout. -/
def Timer.EarlyAt (t : Timer E) (now : Timeval) : Prop :=
  t.due * 100000 ≤ now.micros ∧ now.micros < t.started.micros + t.milliseconds * 1000

lemma due_le_tick_iff (t : Timer E) (now : Timeval) :
    t.due ≤ tick now ↔ t.due * 100000 ≤ now.micros := by
  rw [tick_eq]
  omega

/-- A timer expires by its tick less than 200 ms early. -/
lemma lt_of_due {t : Timer E} {now : Timeval} (h : t.due ≤ tick now) :
    t.started.micros + t.milliseconds * 1000 < now.micros + 200000 := by
  rw [due_le_tick_iff, Timer.due] at h
  omega

/-- A timer has early times exactly if it was not started on a tick, or not for whole ticks. -/
lemma exists_earlyAt_iff (t : Timer E) :
    (∃ now, t.EarlyAt now) ↔ ¬ (t.started.micros % 100000 = 0 ∧ t.milliseconds % 100 = 0) := by
  unfold Timer.EarlyAt Timer.due
  constructor
  · rintro ⟨now, hdue, hearly⟩
    omega
  · intro hphase
    let now : Timeval :=
      ⟨(t.started.micros / 100000 + (t.milliseconds : ℤ) / 100) / 10,
        (t.started.micros / 100000 + (t.milliseconds : ℤ) / 100) % 10 * 100000,
        by omega, by omega⟩
    have hnow : now.micros =
        (t.started.micros / 100000 + (t.milliseconds : ℤ) / 100) * 100000 := by
      change _ / 10 * 1000000 + _ % 10 * 100000 = _
      omega
    exact ⟨now, by omega, by omega⟩

/-! ### Runs -/

/-- The queue is in order, its timers expire by their ticks, and every timer started is in it
or was returned. -/
structure Kept (m : Manager E) : Prop where
  heap : IsHeap TimerCompare m.timer_queue_
  expires : ∀ e ∈ m.timer_queue_, e.expires = e.object.due
  conserved : m.started.Perm (m.returned ++ m.timer_queue_.map Entry.object)

lemma kept_init : Kept ({} : Manager E) where
  heap := isHeap_nil _
  expires := fun _ he => absurd he List.not_mem_nil
  conserved := .refl _

lemma kept_startTimer {m : Manager E} (h : Kept m) (now : Timeval) (event : E)
    (milliseconds : ℕ) : Kept (startTimer std m now event milliseconds).2 := by
  obtain ⟨hheap, hperm⟩ := PriorityQueue.push_spec std h.heap
    ⟨tick now + Int.tdiv milliseconds TICK_MILLISECONDS,
      ⟨(getNextTimerId m).1, event, now, milliseconds⟩⟩
  have hinterval : ¬ Int.tdiv milliseconds TICK_MILLISECONDS < 0 :=
    not_lt.mpr (Int.tdiv_nonneg (Int.natCast_nonneg _) (by decide))
  simp only [startTimer, GenericTimerQueue.push, if_neg hinterval]
  refine ⟨hheap, ?_, ?_⟩
  · intro e he
    rcases List.mem_cons.mp (hperm.mem_iff.mp he) with rfl | he
    · have hdiv : Int.tdiv milliseconds 100 = (milliseconds : ℤ) / 100 :=
        Int.tdiv_eq_ediv_of_nonneg (Int.natCast_nonneg _)
      change tick now + Int.tdiv milliseconds 100 = now.micros / 100000 + (milliseconds : ℤ) / 100
      rw [tick_eq, hdiv]
    · exact h.expires e he
  · refine (h.conserved.append_right _).trans ?_
    rw [List.append_assoc]
    refine List.Perm.append_left _ ?_
    exact (List.perm_append_singleton _ _).trans (hperm.map Entry.object).symm

/-- A poll takes the timer at the head if it expires by the tick. -/
lemma pop_spec {queue : List (Entry E)} (h : IsHeap TimerCompare queue) (now : ℤ) :
    ((GenericTimerQueue.pop std queue now).1 = none ∧
        (GenericTimerQueue.pop std queue now).2 = queue ∧
        ∀ first, PriorityQueue.top queue = some first → now < first.expires) ∨
      ∃ first rest, PriorityQueue.top queue = some first ∧ first.expires ≤ now ∧
        GenericTimerQueue.pop std queue now = (some first.object, rest) ∧
        queue.Perm (first :: rest) ∧ IsHeap TimerCompare rest := by
  by_cases hne : queue = []
  · subst hne
    exact Or.inl ⟨rfl, rfl, fun first hf => absurd hf nofun⟩
  · obtain ⟨first, rest, hpop, htop, hperm, hrest⟩ := PriorityQueue.pop_spec std h hne
    by_cases hexp : now - first.expires ≥ 0
    · refine Or.inr ⟨first, rest, htop, by omega, ?_, hperm, hrest⟩
      simp only [GenericTimerQueue.pop, htop, if_pos hexp, hpop]
    · refine Or.inl ⟨?_, ?_, ?_⟩
      · simp only [GenericTimerQueue.pop, htop, if_neg hexp]
      · simp only [GenericTimerQueue.pop, htop, if_neg hexp]
      · intro first' hf
        obtain rfl := Option.some.inj (htop.symm.trans hf)
        omega

/-- What is owed of a timer that is returned. -/
def Owed (m : Manager E) (now : Timeval) (t : Timer E) : Prop :=
  t.started.micros + t.milliseconds * 1000 ≤ now.micros ∧
    ∃ e ∈ m.timer_queue_, e.object = t ∧ ∀ other ∈ m.timer_queue_, e.expires ≤ other.expires

/-- A timer is returned after its timeout and before those that expire later, and none is
returned twice or lost. -/
def Law (m : Manager E) (op : Op E) : Prop :=
  (step std m op).started.Perm
      ((step std m op).returned ++ (step std m op).timer_queue_.map Entry.object) ∧
    match op with
    | .startTimer _ _ _ => True
    | .getExpiredTimer now => ∀ t, (getExpiredTimer std m now).1 = some t → Owed m now t

/-- No poll comes at an early time of the timer at the head. -/
def OffEarly (m : Manager E) : Op E → Prop
  | .startTimer _ _ _ => True
  | .getExpiredTimer now =>
    ∀ first, PriorityQueue.top m.timer_queue_ = some first → ¬ first.object.EarlyAt now

lemma kept_getExpiredTimer {m : Manager E} (h : Kept m) (now : Timeval) :
    Kept (getExpiredTimer std m now).2 := by
  rcases pop_spec std h.heap (tick now) with ⟨hnone, hsame, -⟩ |
    ⟨first, rest, -, -, hpop, hperm, hrest⟩
  · have hkept : (getExpiredTimer std m now).2 = m := by
      simp [getExpiredTimer, hnone, hsame]
    rw [hkept]
    exact h
  · simp only [getExpiredTimer, hpop]
    refine ⟨hrest, fun e he => h.expires e (hperm.mem_iff.mpr (List.mem_cons_of_mem _ he)), ?_⟩
    refine h.conserved.trans ?_
    rw [List.append_assoc]
    exact (hperm.map Entry.object).append_left _

lemma kept_step (m : Manager E) (op : Op E) (h : Kept m) : Kept (step std m op) := by
  cases op with
  | startTimer now event milliseconds => exact kept_startTimer std h now event milliseconds
  | getExpiredTimer now => exact kept_getExpiredTimer std h now

lemma law_iff {m : Manager E} (h : Kept m) (op : Op E) : Law std m op ↔ OffEarly m op := by
  have hkept := (kept_step std m op h).conserved
  cases op with
  | startTimer now event milliseconds => exact ⟨fun _ => trivial, fun _ => ⟨hkept, trivial⟩⟩
  | getExpiredTimer now =>
    rcases pop_spec std h.heap (tick now) with ⟨hnone, -, hlate⟩ |
      ⟨first, rest, htop, hexp, hpop, hperm, -⟩
    · constructor
      · rintro - first hfirst ⟨hdue, -⟩
        have hmem : first ∈ m.timer_queue_ := List.mem_of_mem_head? hfirst
        have hlt := hlate first hfirst
        rw [h.expires first hmem] at hlt
        exact absurd ((due_le_tick_iff _ _).mpr hdue) (not_le.mpr hlt)
      · refine fun _ => ⟨hkept, fun t ht => ?_⟩
        simp [getExpiredTimer, hnone] at ht
    · have hmem : first ∈ m.timer_queue_ := hperm.mem_iff.mpr List.mem_cons_self
      have hreturned : (getExpiredTimer std m now).1 = some first.object := by
        simp [getExpiredTimer, hpop]
      have hdue : first.object.due * 100000 ≤ now.micros := by
        rw [← due_le_tick_iff, ← h.expires first hmem]
        exact hexp
      have hhead : ∀ other ∈ m.timer_queue_, first.expires ≤ other.expires := by
        intro other hother
        have hno := h.heap.front htop other hother
        rw [timerCompare_iff] at hno
        omega
      constructor
      · rintro ⟨-, howed⟩ first' htop' ⟨-, hearly⟩
        obtain rfl := Option.some.inj (htop.symm.trans htop')
        have := (howed _ hreturned).1
        omega
      · intro hoff
        refine ⟨hkept, fun t ht => ?_⟩
        obtain rfl := Option.some.inj (hreturned.symm.trans ht)
        refine ⟨?_, first, hmem, rfl, hhead⟩
        have hno := hoff first htop
        by_contra hlt
        exact hno ⟨hdue, by omega⟩

/-- **Timers.** However timers are started and polled for, all that is owed holds exactly if no
poll falls between the tick by which the timer at the head expires and the end of its
timeout. -/
theorem onTime_iff (l : List (Op E)) :
    Each (step std) (Law std) {} l ↔ Each (step std) OffEarly {} l :=
  each_congr (I := Kept) (fun m op h _ => kept_step std m op h) (fun _ op h => law_iff std h op)
    kept_init l

/-- No timer is returned 200 ms before the end of its timeout, or more. -/
theorem returned_within (l : List (Op E)) (now : Timeval) (t : Timer E)
    (ht : (getExpiredTimer std (run (step std) {} l) now).1 = some t) :
    t.started.micros + t.milliseconds * 1000 < now.micros + 200000 := by
  have h : Kept (run (step std) {} l) := run_invariant (kept_step std) kept_init l
  rcases pop_spec std h.heap (tick now) with ⟨hnone, -, -⟩ |
    ⟨first, rest, -, hexp, hpop, hperm, -⟩
  · simp [getExpiredTimer, hnone] at ht
  · have hreturned : first.object = t := by simpa [getExpiredTimer, hpop] using ht
    rw [h.expires first (hperm.mem_iff.mpr List.mem_cons_self), hreturned] at hexp
    exact lt_of_due hexp

/-- Started at 99 ms for 100 ms. -/
def startedLate : Op Unit := .startTimer ⟨0, 99000, by decide, by decide⟩ () 100

/-- The timer is returned after 1 ms. -/
theorem returned_early :
    ¬ Each (step (bySorting TimerCompare)) (Law (bySorting TimerCompare)) {}
      [startedLate, .getExpiredTimer ⟨0, 100000, by decide, by decide⟩] := by
  rintro ⟨-, ⟨-, howed⟩, -⟩
  have helapsed := (howed ⟨1, (), ⟨0, 99000, by decide, by decide⟩, 100⟩ rfl).1
  exact absurd helapsed (by decide)

end Kuavo.TimerManager
