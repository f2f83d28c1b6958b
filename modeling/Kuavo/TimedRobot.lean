import Kuavo.PriorityQueue

/-!
`lib/robot/TimedRobot.cpp`: the main loop, which sleeps until the first of its callbacks is due
and then runs all that are.

The loop that runs the callbacks that are due is bounded by fuel; that it ends is proved. What
a callback does is not modelled, and no callback adds another.
-/

namespace Kuavo.TimedRobot

open Kuavo.Lib Kuavo.Lib.Heap Kuavo.Lib.Runs Kuavo.PriorityQueue

variable {F : Type*}

/-- Times are in microseconds. -/
structure Callback (F : Type*) where
  m_func : F
  m_period : UInt64
  m_expirationTime : UInt64

/-- `std::greater`: the front of the queue expires first. -/
def greater (a b : Callback F) : Prop := a.m_expirationTime > b.m_expirationTime

instance : IsStrictWeakOrder (Callback F) greater :=
  isStrictWeakOrder_key fun c : Callback F => OrderDual.toDual c.m_expirationTime.toNat

instance : DecidableRel (greater (F := F)) := fun a b =>
  inferInstanceAs (Decidable (b.m_expirationTime < a.m_expirationTime))

/-- The expiration time after a run. -/
def Callback.renew (callback : Callback F) (currentTime : UInt64) : Callback F :=
  { callback with
    m_expirationTime := callback.m_expirationTime + (callback.m_period +
      (currentTime - callback.m_expirationTime) / callback.m_period * callback.m_period) }

variable (std : Heap.Functions (greater (F := F)))

/-- The callbacks that are ready, and the queue afterwards. -/
def processReady (currentTime : UInt64) :
    ℕ → List (Callback F) → Option (List (Callback F) × List (Callback F))
  | 0, _ => none
  | fuel + 1, m_callbacks => do
    let first ← top m_callbacks
    if first.m_expirationTime ≤ currentTime then
      let (callback, rest) ← pop std m_callbacks
      let (ran, after) ←
        processReady currentTime fuel (push std rest (callback.renew currentTime))
      return (callback :: ran, after)
    else return ([], m_callbacks)

/-- The clock before the sleep, and after it if there is one. -/
structure Readings where
  first : UInt64
  second : UInt64

def currentTime (callback : Callback F) (r : Readings) : UInt64 :=
  if callback.m_expirationTime > r.first then r.second else r.first

/-- One turn of the main loop: the callbacks that ran, in order, and the queue afterwards. -/
def turn (fuel : ℕ) (m_callbacks : List (Callback F)) (r : Readings) :
    Option (List (Callback F) × List (Callback F)) := do
  let (callback, rest) ← pop std m_callbacks
  let now := currentTime callback r
  let (ran, after) ← processReady std now fuel (push std rest (callback.renew now))
  return (callback :: ran, after)

/-- The turns of the main loop. Fuel for every callback is enough (`turns_spec`). -/
def step (m_callbacks : List (Callback F)) (r : Readings) : List (Callback F) :=
  match turn std (m_callbacks.length + 1) m_callbacks r with
  | some (_, after) => after
  | none => m_callbacks

/-! ### The next expiration time -/

lemma toNat_renew {c : Callback F} {now : UInt64} (hdue : c.m_expirationTime ≤ now)
    (hfit : now.toNat + c.m_period.toNat < 18446744073709551616) :
    (c.renew now).m_expirationTime.toNat = c.m_expirationTime.toNat + (c.m_period.toNat +
      (now.toNat - c.m_expirationTime.toNat) / c.m_period.toNat * c.m_period.toNat) := by
  have hdue' : c.m_expirationTime.toNat ≤ now.toNat := UInt64.le_iff_toNat_le.mp hdue
  have hle : (now.toNat - c.m_expirationTime.toNat) / c.m_period.toNat * c.m_period.toNat ≤
      now.toNat - c.m_expirationTime.toNat := Nat.div_mul_le_self _ _
  simp only [Callback.renew, UInt64.toNat_add, UInt64.toNat_mul, UInt64.toNat_div,
    UInt64.toNat_sub_of_le _ _ hdue]
  change (_ + (_ + _ % 18446744073709551616) % 18446744073709551616) % 18446744073709551616 = _
  rw [Nat.mod_eq_of_lt (a := _ / _ * _) (by omega),
    Nat.mod_eq_of_lt (a := _ + _ / _ * _) (by omega), Nat.mod_eq_of_lt (by omega)]

/-- **Catching up.** The next expiration time is the first after now in the grid of the
period. -/
lemma renew_spec {c : Callback F} {now : UInt64} (hdue : c.m_expirationTime ≤ now)
    (hpos : 0 < c.m_period) (hfit : now.toNat + c.m_period.toNat < 18446744073709551616) :
    now.toNat < (c.renew now).m_expirationTime.toNat ∧
      (c.renew now).m_expirationTime.toNat ≤ now.toNat + c.m_period.toNat ∧
      (c.renew now).m_expirationTime.toNat % c.m_period.toNat =
        c.m_expirationTime.toNat % c.m_period.toNat := by
  have hdue' : c.m_expirationTime.toNat ≤ now.toNat := UInt64.le_iff_toNat_le.mp hdue
  have hpos' : 0 < c.m_period.toNat := UInt64.lt_iff_toNat_lt.mp hpos
  have hdiv := Nat.div_add_mod (now.toNat - c.m_expirationTime.toNat) c.m_period.toNat
  have hmod := Nat.mod_lt (now.toNat - c.m_expirationTime.toNat) hpos'
  rw [Nat.mul_comm] at hdiv
  rw [toNat_renew hdue hfit]
  refine ⟨by omega, by omega, ?_⟩
  rw [Nat.add_left_comm, Nat.add_mod_left, Nat.add_mul_mod_self_right]

/-! ### The callbacks that are ready -/

def Callback.due (now : UInt64) (c : Callback F) : Bool := c.m_expirationTime ≤ now

/-- A callback after all that are due have run. -/
def Callback.served (now : UInt64) (c : Callback F) : Callback F :=
  if c.due now then c.renew now else c

/-- Nothing overflows at this time, and no period is 0. -/
structure Fits (now : UInt64) (m_callbacks : List (Callback F)) : Prop where
  period_pos : ∀ c ∈ m_callbacks, 0 < c.m_period
  fit : ∀ c ∈ m_callbacks, now.toNat + c.m_period.toNat < 18446744073709551616

lemma Fits.of_perm {now : UInt64} {q q' : List (Callback F)} (h : Fits now q) (hp : q.Perm q') :
    Fits now q' where
  period_pos := fun c hc => h.period_pos c (hp.mem_iff.mpr hc)
  fit := fun c hc => h.fit c (hp.mem_iff.mpr hc)

lemma Fits.renew {now : UInt64} {c : Callback F} {rest : List (Callback F)}
    (h : Fits now (c :: rest)) : Fits now (c.renew now :: rest) where
  period_pos := by
    intro d hd
    rcases List.mem_cons.mp hd with rfl | hd
    · exact h.period_pos c List.mem_cons_self
    · exact h.period_pos d (List.mem_cons_of_mem _ hd)
  fit := by
    intro d hd
    rcases List.mem_cons.mp hd with rfl | hd
    · exact h.fit c List.mem_cons_self
    · exact h.fit d (List.mem_cons_of_mem _ hd)

lemma not_due_renew {now : UInt64} {c : Callback F} {rest : List (Callback F)}
    (h : Fits now (c :: rest)) (hdue : c.due now = true) : (c.renew now).due now = false := by
  have hlt := (renew_spec (of_decide_eq_true hdue) (h.period_pos c List.mem_cons_self)
    (h.fit c List.mem_cons_self)).1
  rw [Callback.due, decide_eq_false_iff_not, UInt64.le_iff_toNat_le]
  omega

/-- What running the callbacks of a queue that are due comes to. -/
structure Serves (now : UInt64) (q ran after : List (Callback F)) : Prop where
  ran_perm : ran.Perm (q.filter (·.due now))
  after_perm : after.Perm (q.map (·.served now))
  heap : IsHeap greater after

/-- One callback that is due, and then the others. -/
lemma Serves.cons {now : UInt64} {q q' rest ran after : List (Callback F)} {c : Callback F}
    (hq : q.Perm (c :: rest)) (hq' : q'.Perm (c.renew now :: rest)) (hdue : c.due now = true)
    (hnew : (c.renew now).due now = false) (h : Serves now q' ran after) :
    Serves now q (c :: ran) after where
  ran_perm := by
    have hrest : ran.Perm (rest.filter (·.due now)) := by
      refine h.ran_perm.trans ((hq'.filter _).trans ?_)
      rw [List.filter_cons, hnew]
      exact .refl _
    refine (hrest.cons c).trans (List.Perm.trans ?_ (hq.filter _).symm)
    rw [List.filter_cons, hdue]
    exact .refl _
  after_perm := by
    refine h.after_perm.trans ((hq'.map _).trans (List.Perm.trans ?_ (hq.map _).symm))
    rw [List.map_cons, List.map_cons, Callback.served, hnew, Callback.served, hdue]
    exact .refl _
  heap := h.heap

/-- The front is due if any callback is. -/
lemma due_of_front {q : List (Callback F)} (h : IsHeap greater q) {first c : Callback F}
    (hfirst : top q = some first) (hc : c ∈ q) {now : UInt64} (hdue : c.due now = true) :
    first.due now = true := by
  have hle : ¬ greater first c := h.front hfirst c hc
  have hdue' : c.m_expirationTime ≤ now := of_decide_eq_true hdue
  refine decide_eq_true ?_
  rw [UInt64.le_iff_toNat_le] at hdue' ⊢
  rw [greater, gt_iff_lt, UInt64.lt_iff_toNat_lt] at hle
  omega

/-- **The loop ends.** With fuel for every callback that is due, each of them runs once, and
none other. -/
theorem processReady_spec (now : UInt64) (n : ℕ) {q : List (Callback F)} (hheap : IsHeap greater q)
    (hne : q ≠ []) (hfits : Fits now q) (hn : q.countP (·.due now) = n) :
    ∃ ran after, (∀ fuel, n < fuel → processReady std now fuel q = some (ran, after)) ∧
      Serves now q ran after := by
  induction n generalizing q with
  | zero =>
    obtain ⟨first, rest, rfl⟩ := List.exists_cons_of_ne_nil hne
    have hnone : ∀ c ∈ first :: rest, c.due now = false := by
      intro c hc
      rw [← Bool.not_eq_true]
      exact List.countP_eq_zero.mp hn c hc
    have hfirst : ¬ first.m_expirationTime ≤ now :=
      of_decide_eq_false (hnone first List.mem_cons_self)
    refine ⟨[], first :: rest, ?_, ?_, ?_, hheap⟩
    · intro fuel hfuel
      obtain ⟨fuel, rfl⟩ := Nat.exists_eq_succ_of_ne_zero hfuel.ne'
      simp [processReady, top, hfirst]
    · rw [List.filter_eq_nil_iff.mpr fun c hc => by simp [hnone c hc]]
    · have hid : (first :: rest).map (·.served now) = (first :: rest).map id :=
        List.map_congr_left fun c hc => by simp [Callback.served, hnone c hc]
      rw [hid, List.map_id]
  | succ n ih =>
    obtain ⟨c, rest, hpop, htop, hperm, hrest⟩ := pop_spec std hheap hne
    have hdue : c.due now = true := by
      obtain ⟨d, hd, hdue⟩ := List.countP_pos_iff.mp (by omega : 0 < q.countP (·.due now))
      exact due_of_front hheap htop hd hdue
    have hfits' := hfits.of_perm hperm
    have hnew := not_due_renew hfits' hdue
    obtain ⟨hpushHeap, hpush⟩ := push_spec std hrest (c.renew now)
    have hcount : (push std rest (c.renew now)).countP (·.due now) = n := by
      rw [hperm.countP_eq, List.countP_cons, hdue, if_pos rfl] at hn
      rw [hpush.countP_eq, List.countP_cons, hnew]
      simp only [Bool.false_eq_true, if_false]
      omega
    have hne' : push std rest (c.renew now) ≠ [] := by
      intro hnil
      rw [hnil] at hpush
      exact absurd hpush.length_eq (by simp)
    obtain ⟨ran, after, hrun, hserves⟩ :=
      ih hpushHeap hne' (hfits'.renew.of_perm hpush.symm) hcount
    refine ⟨c :: ran, after, ?_, hserves.cons hperm hpush hdue hnew⟩
    intro fuel hfuel
    obtain ⟨fuel, rfl⟩ := Nat.exists_eq_succ_of_ne_zero (by omega : fuel ≠ 0)
    have hdue' : c.m_expirationTime ≤ now := of_decide_eq_true hdue
    simp [processReady, htop, hdue', hpop, hrun fuel (by omega)]

/-! ### Turns -/

/-- The clock is not before the callback that is popped once the thread is awake, and times
with periods fit in 64 bits. -/
structure Meets (q : List (Callback F)) (r : Readings) : Prop where
  awake : ∀ c, top q = some c → c.m_expirationTime ≤ currentTime c r
  fit : ∀ c, top q = some c →
    ∀ d ∈ q, (currentTime c r).toNat + d.m_period.toNat < 18446744073709551616

lemma meets_iff {q : List (Callback F)} {c : Callback F} (h : top q = some c) (r : Readings) :
    (c.m_expirationTime ≤ currentTime c r ∧
      ∀ d ∈ q, (currentTime c r).toNat + d.m_period.toNat < 18446744073709551616) ↔ Meets q r := by
  constructor
  · rintro ⟨hawake, hfit⟩
    refine ⟨fun d hd => ?_, fun d hd => ?_⟩
    · rw [h] at hd
      exact Option.some.inj hd ▸ hawake
    · rw [h] at hd
      exact Option.some.inj hd ▸ hfit
  · exact fun hr => ⟨hr.awake c h, hr.fit c h⟩

instance (q : List (Callback F)) (r : Readings) : Decidable (Meets q r) :=
  match h : top q with
  | none => isTrue ⟨fun _ hc => absurd (h.symm.trans hc) nofun,
      fun _ hc => absurd (h.symm.trans hc) nofun⟩
  | some _ => decidable_of_iff _ (meets_iff h r)

/-- A turn ends, runs every callback that is due once and no other, and sets each of them to
the first time after now in the grid of its period. -/
def Law (q : List (Callback F)) (r : Readings) : Prop :=
  ∃ first ran, top q = some first ∧
    (∀ fuel, q.length < fuel → turn std fuel q r = some (ran, step std q r)) ∧
    ran.Perm (q.filter (·.due (currentTime first r))) ∧
    (step std q r).Perm (q.map (·.served (currentTime first r))) ∧
    ∀ c ∈ ran,
      (currentTime first r).toNat < (c.renew (currentTime first r)).m_expirationTime.toNat ∧
      (c.renew (currentTime first r)).m_expirationTime.toNat ≤
        (currentTime first r).toNat + c.m_period.toNat ∧
      (c.renew (currentTime first r)).m_expirationTime.toNat % c.m_period.toNat =
        c.m_expirationTime.toNat % c.m_period.toNat

/-- The queue of the main loop between its turns. -/
structure Scheduled (q : List (Callback F)) : Prop where
  heap : IsHeap greater q
  nonempty : q ≠ []
  period_pos : ∀ c ∈ q, 0 < c.m_period

lemma turn_spec {q : List (Callback F)} (h : Scheduled q) {r : Readings} (hr : Meets q r) :
    ∃ first ran after, top q = some first ∧
      (∀ fuel, q.length < fuel → turn std fuel q r = some (ran, after)) ∧
      Fits (currentTime first r) q ∧ Serves (currentTime first r) q ran after := by
  obtain ⟨c, rest, hpop, htop, hperm, hrest⟩ := pop_spec std h.heap h.nonempty
  have hfits : Fits (currentTime c r) q := ⟨h.period_pos, hr.fit c htop⟩
  have hdue : c.due (currentTime c r) = true := decide_eq_true (hr.awake c htop)
  have hfits' := hfits.of_perm hperm
  have hnew := not_due_renew hfits' hdue
  obtain ⟨hpushHeap, hpush⟩ := push_spec std hrest (c.renew (currentTime c r))
  have hne' : push std rest (c.renew (currentTime c r)) ≠ [] := by
    intro hnil
    rw [hnil] at hpush
    exact absurd hpush.length_eq (by simp)
  obtain ⟨ran, after, hrun, hserves⟩ := processReady_spec std (currentTime c r) _ hpushHeap hne'
    (hfits'.renew.of_perm hpush.symm) rfl
  refine ⟨c, c :: ran, after, htop, ?_, hfits, hserves.cons hperm hpush hdue hnew⟩
  intro fuel hfuel
  have hle : (push std rest (c.renew (currentTime c r))).countP (·.due (currentTime c r)) ≤
      q.length := by
    refine List.countP_le_length.trans (le_of_eq ?_)
    rw [hpush.length_eq, hperm.length_eq]
    rfl
  simp [turn, hpop, hrun fuel (by omega)]

lemma scheduled_law {q : List (Callback F)} (h : Scheduled q) {r : Readings} (hr : Meets q r) :
    Law std q r ∧ Scheduled (step std q r) := by
  obtain ⟨first, ran, after, htop, hturn, hfits, hserves⟩ := turn_spec std h hr
  have hstep : step std q r = after := by
    rw [step, hturn _ (Nat.lt_succ_self _)]
  constructor
  · refine ⟨first, ran, htop, fun fuel hfuel => ?_, hserves.ran_perm, ?_, ?_⟩
    · rw [hstep]
      exact hturn fuel hfuel
    · rw [hstep]
      exact hserves.after_perm
    · intro c hc
      obtain ⟨hmem, hdue⟩ := List.mem_filter.mp (hserves.ran_perm.mem_iff.mp hc)
      exact renew_spec (of_decide_eq_true hdue) (hfits.period_pos c hmem) (hfits.fit c hmem)
  · rw [hstep]
    refine ⟨hserves.heap, ?_, ?_⟩
    · intro hnil
      have hlen := hserves.after_perm.length_eq
      rw [hnil, List.length_map] at hlen
      exact h.nonempty (List.eq_nil_of_length_eq_zero hlen.symm)
    · intro c hc
      obtain ⟨d, hd, rfl⟩ := List.mem_map.mp (hserves.after_perm.mem_iff.mp hc)
      have hperiod : (d.served (currentTime first r)).m_period = d.m_period := by
        unfold Callback.served
        split_ifs <;> rfl
      rw [hperiod]
      exact h.period_pos d hd

/-- `addPeriodic` for each callback. -/
def addAll (cs : List (Callback F)) : List (Callback F) := cs.foldl (emplace std) []

lemma addAll_spec (cs : List (Callback F)) :
    IsHeap greater (addAll std cs) ∧ (addAll std cs).Perm cs := by
  induction cs using List.reverseRecOn with
  | nil => exact ⟨isHeap_nil greater, .refl _⟩
  | append_singleton cs c ih =>
    have hadd : addAll std (cs ++ [c]) = push std (addAll std cs) c := by
      rw [addAll, List.foldl_append]
      rfl
    obtain ⟨hheap, hperm⟩ := push_spec std ih.1 c
    rw [hadd]
    exact ⟨hheap, hperm.trans ((ih.2.cons c).trans (List.perm_append_singleton c cs).symm)⟩

/-- **The main loop.** Whatever callbacks there are and however late the clock finds it, every
turn of the loop ends, and in it the callbacks that are due run, once each. -/
theorem turns_spec (cs : List (Callback F)) (hne : cs ≠ []) (hpos : ∀ c ∈ cs, 0 < c.m_period)
    (l : List Readings) (hl : Each (step std) Meets (addAll std cs) l) :
    Each (step std) (Law std) (addAll std cs) l := by
  obtain ⟨hheap, hperm⟩ := addAll_spec std cs
  have hstart : Scheduled (addAll std cs) := by
    refine ⟨hheap, ?_, fun c hc => hpos c (hperm.mem_iff.mp hc)⟩
    intro hnil
    rw [hnil] at hperm
    exact hne hperm.nil_eq.symm
  exact hl.imp (fun q r h hr => (scheduled_law std h hr).2)
    (fun q r h hr => (scheduled_law std h hr).1) hstart

/-- The loop of the robot and a faster callback, the second turn late. -/
theorem turns_spec_late :
    Each (step (bySorting greater)) (Law (bySorting greater))
      (addAll (bySorting greater) [⟨"loopFunc", 10000, 10000⟩, ⟨"fast", 4000, 4000⟩])
      [⟨3500, 4100⟩, ⟨25000, 25000⟩] :=
  turns_spec (bySorting greater) _ (by decide) (by decide) _ (by decide +kernel)

end Kuavo.TimedRobot
