import Kuavo.ModeChange
import Mathlib.Algebra.Group.Nat.Even

/-!
The five pointers of `lib/ds/FRCDriverStation.cpp` to its three caches.

A packet is decoded into the cache that nobody uses, and a refresh makes it the one that is
read. From the first refresh behind a packet on, the pointers keep apart what has to be kept
apart. Before, they go back and forth between two settings, and the one after an odd number of
packets lets the next packet into the cache that is read.
-/

namespace Kuavo.DsCaches

open Kuavo.Lib.Runs

/-- The driver station, with what has happened to it. -/
structure System where
  ds : FRCDriverStation := {}
  /-- The number of packets. -/
  packets : ℕ := 0
  /-- Whether there has been a refresh behind a packet. -/
  refreshed : Bool := false
  /-- The cache that the last packet was decoded into. -/
  filled : Option (Fin 3) := none

inductive Input
  | newDataOccur (payload : Payload)
  | HAL_RefreshDSData

def step (signed : Bool) (s : System) : Input → System
  | .newDataOccur payload =>
    { s with
      ds := s.ds.newDataOccur signed payload
      packets := s.packets + 1
      filled := some s.ds.cacheToUpdate }
  | .HAL_RefreshDSData =>
    { s with
      ds := s.ds.HAL_RefreshDSData.1
      refreshed := s.refreshed || 0 < s.packets }

/-- The next packet goes into a cache that is neither read nor waiting to be. -/
def Apart (d : FRCDriverStation) : Prop :=
  d.cacheToUpdate ≠ d.currentRead ∧ d.currentCache ≠ some d.cacheToUpdate

instance (d : FRCDriverStation) : Decidable (Apart d) :=
  inferInstanceAs (Decidable (_ ∧ _))

/-- A refresh that returns true makes the cache of the last packet the one that is read. -/
def Latest (s : System) : Prop :=
  s.ds.HAL_RefreshDSData.2 = true → s.filled = some s.ds.HAL_RefreshDSData.1.currentRead

/-! ### The pointers alone -/

structure Pointers where
  currentRead : Fin 3
  currentReadLocal : Fin 3
  currentCache : Option (Fin 3)
  lastGiven : Fin 3
  cacheToUpdate : Fin 3
  deriving DecidableEq

def pointers (d : FRCDriverStation) : Pointers :=
  ⟨d.currentRead, d.currentReadLocal, d.currentCache, d.lastGiven, d.cacheToUpdate⟩

namespace Pointers

def packet (p : Pointers) : Pointers :=
  match p.currentCache with
  | none =>
    { p with
      currentCache := some p.cacheToUpdate
      cacheToUpdate := p.currentReadLocal
      currentReadLocal := p.lastGiven
      lastGiven := p.cacheToUpdate }
  | some prev =>
    { p with
      currentCache := some p.cacheToUpdate
      cacheToUpdate := prev
      lastGiven := p.cacheToUpdate }

def refresh (p : Pointers) : Pointers :=
  { p with currentCache := none, currentRead := p.currentCache.getD p.currentRead }

/-- What the pointers come to, and keep. -/
def Steady (p : Pointers) : Prop :=
  match p.currentCache with
  | none =>
    p.lastGiven = p.currentRead ∧
      (p.cacheToUpdate ≠ p.currentRead ∧ p.cacheToUpdate ≠ p.currentReadLocal ∧
        p.currentRead ≠ p.currentReadLocal)
  | some c =>
    (p.lastGiven = c ∧ p.currentReadLocal = p.currentRead) ∧
      (p.cacheToUpdate ≠ c ∧ p.cacheToUpdate ≠ p.currentRead ∧ c ≠ p.currentRead)

/-- The settings before the first packet, after an odd and after an even number of packets that
no refresh has followed. -/
def first : Pointers := pointers ModeChange.start.ds
def odd : Pointers := first.packet
def even : Pointers := odd.packet

lemma Steady.packet {p : Pointers} (h : p.Steady) : p.packet.Steady := by
  obtain ⟨r, l, _ | c, g, u⟩ := p
  · obtain ⟨hg, hur, hul, hrl⟩ := h
    exact ⟨⟨rfl, hg⟩, hul.symm, hrl.symm, hur⟩
  · obtain ⟨⟨-, hl⟩, huc, hur, hcr⟩ := h
    exact ⟨⟨rfl, hl⟩, huc.symm, hcr, hur⟩

lemma Steady.refresh {p : Pointers} (h : p.Steady) : p.refresh.Steady := by
  obtain ⟨r, l, _ | c, g, u⟩ := p
  · exact h
  · obtain ⟨⟨hg, hl⟩, huc, hur, hcr⟩ := h
    simp only at hg hl
    subst hg hl
    exact ⟨rfl, huc, hur, hcr⟩

end Pointers

@[simp] lemma pointers_newDataOccur (signed : Bool) (d : FRCDriverStation) (payload : Payload) :
    pointers (d.newDataOccur signed payload) = (pointers d).packet := by
  obtain ⟨w, caches, r, l, _ | c, g, u⟩ := d <;> rfl

@[simp] lemma pointers_refresh (d : FRCDriverStation) :
    pointers d.HAL_RefreshDSData.1 = (pointers d).refresh := by
  unfold FRCDriverStation.HAL_RefreshDSData FRCDriverStation.zeroCurrent
  dsimp only
  split <;> rfl

/-! ### Every run -/

/-- The setting, by what has happened. -/
def settingOk (s : System) : Prop :=
  if s.refreshed then 0 < s.packets ∧ (pointers s.ds).Steady
  else if s.packets = 0 then pointers s.ds = Pointers.first
  else if Even s.packets then pointers s.ds = Pointers.even
  else pointers s.ds = Pointers.odd

structure Inv (s : System) : Prop where
  setting : settingOk s
  waiting : ∀ c, s.ds.currentCache = some c → s.filled = some c

lemma inv_init : Inv {} := ⟨rfl, nofun⟩

lemma settingOk_packet {signed : Bool} {s : System} (payload : Payload) (h : settingOk s) :
    settingOk (step signed s (.newDataOccur payload)) := by
  unfold settingOk at h ⊢
  simp only [step, pointers_newDataOccur, Nat.succ_ne_zero, if_false]
  by_cases hrefreshed : s.refreshed
  · rw [if_pos hrefreshed] at h ⊢
    exact ⟨Nat.succ_pos _, h.2.packet⟩
  · rw [if_neg hrefreshed] at h ⊢
    by_cases hzero : s.packets = 0
    · rw [if_pos hzero] at h
      rw [hzero, h]
      rfl
    · rw [if_neg hzero] at h
      by_cases heven : Even s.packets
      · rw [if_pos heven] at h
        rw [if_neg (fun hn => Nat.even_add_one.mp hn heven), h]
        rfl
      · rw [if_neg heven] at h
        rw [if_pos (Nat.even_add_one.mpr heven), h]
        rfl

/-- A refresh behind a packet leads to a setting that stays. -/
lemma settingOk_refresh {signed : Bool} {s : System} (h : settingOk s) :
    settingOk (step signed s .HAL_RefreshDSData) := by
  unfold settingOk at h ⊢
  simp only [step, pointers_refresh]
  by_cases hrefreshed : s.refreshed
  · simp only [hrefreshed, Bool.true_or, if_true] at h ⊢
    exact ⟨h.1, h.2.refresh⟩
  · simp only [hrefreshed, Bool.false_or, Bool.false_eq_true, if_false] at h ⊢
    by_cases hzero : s.packets = 0
    · simp only [hzero, lt_irrefl, decide_false, Bool.false_eq_true, if_true, if_false] at h ⊢
      rw [h]
      rfl
    · have hpos : 0 < s.packets := Nat.pos_of_ne_zero hzero
      simp only [hpos, decide_true, if_true, true_and]
      rw [if_neg hzero] at h
      split_ifs at h
      · rw [h]
        exact ⟨rfl, by decide⟩
      · rw [h]
        exact ⟨rfl, by decide⟩

/-- What waits is what the last packet went into. -/
lemma waiting_step (signed : Bool) (s : System) (i : Input) :
    ∀ c, (step signed s i).ds.currentCache = some c → (step signed s i).filled = some c := by
  intro c hc
  cases i with
  | newDataOccur payload =>
    have hcache := congrArg Pointers.currentCache (pointers_newDataOccur signed s.ds payload)
    rw [show (step signed s (.newDataOccur payload)).ds.currentCache = _ from hcache] at hc
    unfold Pointers.packet at hc
    split at hc <;> exact hc
  | HAL_RefreshDSData =>
    have hcache := congrArg Pointers.currentCache (pointers_refresh s.ds)
    rw [show (step signed s .HAL_RefreshDSData).ds.currentCache = _ from hcache] at hc
    exact absurd hc (by simp [Pointers.refresh])

theorem inv_step (signed : Bool) (s : System) (i : Input) (h : Inv s) : Inv (step signed s i) := by
  refine ⟨?_, waiting_step signed s i⟩
  cases i with
  | newDataOccur payload => exact settingOk_packet payload h.setting
  | HAL_RefreshDSData => exact settingOk_refresh h.setting

lemma apart_iff (d : FRCDriverStation) :
    Apart d ↔ (pointers d).cacheToUpdate ≠ (pointers d).currentRead ∧
      (pointers d).currentCache ≠ some (pointers d).cacheToUpdate := Iff.rfl

lemma Pointers.Steady.apart {p : Pointers} (h : p.Steady) :
    p.cacheToUpdate ≠ p.currentRead ∧ p.currentCache ≠ some p.cacheToUpdate := by
  obtain ⟨r, l, _ | c, g, u⟩ := p
  · exact ⟨h.2.1, nofun⟩
  · exact ⟨h.2.2.1, fun hc => h.2.1 (Option.some.inj hc).symm⟩

lemma apart_of_setting {s : System} (h : settingOk s) :
    Apart s.ds ↔ s.refreshed ∨ Even s.packets := by
  rw [apart_iff]
  unfold settingOk at h
  by_cases hrefreshed : s.refreshed
  · rw [if_pos hrefreshed] at h
    exact iff_of_true h.2.apart (.inl hrefreshed)
  · rw [if_neg hrefreshed] at h
    by_cases hzero : s.packets = 0
    · rw [if_pos hzero] at h
      rw [h]
      exact iff_of_true (by decide) (.inr (by rw [hzero]; exact Even.zero))
    · rw [if_neg hzero] at h
      by_cases heven : Even s.packets
      · rw [if_pos heven] at h
        rw [h]
        exact iff_of_true (by decide) (.inr heven)
      · rw [if_neg heven] at h
        rw [h]
        exact iff_of_false (by decide) (not_or.mpr ⟨hrefreshed, heven⟩)

lemma latest_of_waiting {s : System} (h : ∀ c, s.ds.currentCache = some c → s.filled = some c) :
    Latest s := by
  intro htaken
  have hsome : s.ds.currentCache.isSome = true := htaken
  obtain ⟨c, hc⟩ := Option.isSome_iff_exists.mp hsome
  have hread := congrArg Pointers.currentRead (pointers_refresh s.ds)
  rw [h c hc, show s.ds.HAL_RefreshDSData.1.currentRead = _ from hread, Pointers.refresh, pointers,
    hc, Option.getD_some]

/-- **When the caches are kept apart**, in every run: exactly when a refresh has come behind a
packet, or the number of packets is even. What is read after a refresh that returns true is
always the cache of the last packet. -/
theorem apart_iff_refreshed_or_even (signed : Bool) (l : List Input) :
    (Apart (run (step signed) {} l).ds ∧ Latest (run (step signed) {} l)) ↔
      (run (step signed) {} l).refreshed ∨ Even (run (step signed) {} l).packets := by
  have hinv := run_invariant (I := Inv) (inv_step signed) inv_init l
  rw [← apart_of_setting hinv.setting]
  exact and_iff_left (latest_of_waiting hinv.waiting)

/-- The first packet ever: the next one goes into the cache that is read. -/
theorem first_packet_overlaps :
    let s := run (step true) {} [.newDataOccur fun _ => 0]
    s.ds.cacheToUpdate = s.ds.currentRead ∧ ¬ Apart s.ds := by
  decide

end Kuavo.DsCaches
