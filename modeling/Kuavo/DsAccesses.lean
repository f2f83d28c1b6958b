import Kuavo.ModeChange

/-!
`newDataOccur` and `HAL_RefreshDSData` of `lib/ds/FRCDriverStation.cpp` in single accesses to what
the two threads share.

The thread of the packets takes no lock. A refresh reads the control word of the cache given last
before it takes the lock, and zeroes the one of the cache it reads when that word is not attached:
a packet that is handed over in between is judged by the word of an older one.
-/

namespace Kuavo.DsAccesses

open Kuavo.ModeChange (effective)

/-- Where `newDataOccur` is, once the cache is updated. -/
inductive PacketPc
  | exchange
  | give (prev : Option (Fin 3))
  deriving DecidableEq

/-- Where `HAL_RefreshDSData` is. It holds the lock of the caches at `zero` and `copy`. -/
inductive RefreshPc
  | loadGiven
  | loadWord (given : Fin 3)
  | take (controlWord : HAL_ControlWord)
  | zero
  | copy
  deriving DecidableEq

variable (d : FRCDriverStation)

def update (signed : Bool) (payload : Payload) : FRCDriverStation :=
  { d with
    caches := Function.update d.caches d.cacheToUpdate
      ((d.caches d.cacheToUpdate).Update signed payload) }

/-- One access of the thread of the packets, and where it is then, if still in the call. What no
other thread looks at moves together with `lastGiven`. -/
def packetStep : PacketPc → FRCDriverStation × Option PacketPc
  | .exchange => ({ d with currentCache := some d.cacheToUpdate }, some (.give d.currentCache))
  | .give none =>
    ({ d with
        cacheToUpdate := d.currentReadLocal
        currentReadLocal := d.lastGiven
        lastGiven := d.cacheToUpdate }, none)
  | .give (some prev) => ({ d with cacheToUpdate := prev, lastGiven := d.cacheToUpdate }, none)

/-- One access of a refresh, and where it is then, if still in the call. -/
def refreshStep : RefreshPc → FRCDriverStation × Option RefreshPc
  | .loadGiven => (d, some (.loadWord d.lastGiven))
  | .loadWord given => (d, some (.take (d.caches given).controlWord))
  | .take controlWord =>
    ({ d with currentCache := none, currentRead := d.currentCache.getD d.currentRead },
      some (if controlWord.dsAttached then .copy else .zero))
  | .zero => (d.zeroCurrent, some .copy)
  | .copy => ({ d with newestControlWord := (d.caches d.currentRead).controlWord }, none)

/-! ### Alone -/

/-- **Agreement.** Alone, the accesses of the thread of the packets are the whole call. -/
theorem packet_alone (signed : Bool) (payload : Payload) :
    ∃ d' pc, packetStep (update d signed payload) .exchange = (d', some pc) ∧
      packetStep d' pc = (d.newDataOccur signed payload, none) := by
  refine ⟨_, _, rfl, ?_⟩
  cases hc : d.currentCache <;> simp [packetStep, update, FRCDriverStation.newDataOccur, hc]

/-- **Agreement.** Alone, the accesses of a refresh are the whole call. -/
theorem refresh_alone :
    ∃ word d' pc, refreshStep d .loadGiven = (d, some (.loadWord d.lastGiven)) ∧
      refreshStep d (.loadWord d.lastGiven) = (d, some (.take word)) ∧
      refreshStep d (.take word) = (d', some pc) ∧
      (pc = .copy ∧ refreshStep d' .copy = (d.HAL_RefreshDSData.1, none) ∨
        pc = .zero ∧ ∃ d'', refreshStep d' .zero = (d'', some .copy) ∧
          refreshStep d'' .copy = (d.HAL_RefreshDSData.1, none)) := by
  refine ⟨_, _, _, rfl, rfl, rfl, ?_⟩
  cases hatt : (d.caches d.lastGiven).controlWord.dsAttached with
  | true =>
    refine Or.inl ⟨rfl, ?_⟩
    simp [refreshStep, FRCDriverStation.HAL_RefreshDSData, hatt]
  | false =>
    refine Or.inr ⟨rfl, _, rfl, ?_⟩
    simp [refreshStep, FRCDriverStation.HAL_RefreshDSData, hatt]

/-! ### A cache on its way -/

variable {d} {g : Fin 3}

/-- The control word that the cache `g` holds. -/
def held (g : Fin 3) (d : FRCDriverStation) : HAL_ControlWord := (d.caches g).controlWord

/-- The cache waits to be read, or is read. -/
def Placed (g : Fin 3) (d : FRCDriverStation) : Prop :=
  d.currentCache = some g ∨ d.currentCache = none ∧ d.currentRead = g

/-- The cache has been handed over. -/
structure Given (g : Fin 3) (d : FRCDriverStation) : Prop where
  lastGiven : d.lastGiven = g
  placed : Placed g d

/-- What a refresh has read so far is what the cache holds. -/
def Reads (g : Fin 3) (d : FRCDriverStation) : RefreshPc → Prop
  | .loadGiven => True
  | .loadWord given => given = g
  | .take controlWord => controlWord = held g d
  | .zero => d.currentCache = none ∧ (held g d).dsAttached = false
  | .copy => d.currentCache = none ∧ held g d = effective (held g d)

/-- The cache has been read. -/
structure Read (g : Fin 3) (d : FRCDriverStation) : Prop where
  currentCache : d.currentCache = none
  newest : d.newestControlWord = effective (held g d)

lemma placed_exchange (hd : d.cacheToUpdate = g) : Placed g (packetStep d .exchange).1 :=
  Or.inl (congrArg some hd)

lemma given_give {prev : Option (Fin 3)} (hd : d.cacheToUpdate = g) (h : Placed g d) :
    Given g (packetStep d (.give prev)).1 := by
  cases prev <;> exact ⟨hd, h⟩

/-- A refresh moves neither what the thread of the packets updates nor what it gave last. -/
lemma refreshStep_frame (d : FRCDriverStation) (r : RefreshPc) :
    (refreshStep d r).1.lastGiven = d.lastGiven ∧
      (refreshStep d r).1.cacheToUpdate = d.cacheToUpdate := by
  cases r <;> exact ⟨rfl, rfl⟩

lemma Placed.refreshStep (h : Placed g d) (r : RefreshPc) : Placed g (refreshStep d r).1 := by
  cases r with
  | loadGiven | loadWord _ | zero | copy => exact h
  | take controlWord =>
    refine Or.inr ⟨rfl, ?_⟩
    rcases h with hc | ⟨hc, hread⟩
    · simp [DsAccesses.refreshStep, hc]
    · simp [DsAccesses.refreshStep, hc, hread]

lemma Given.refreshStep (h : Given g d) (r : RefreshPc) : Given g (refreshStep d r).1 :=
  ⟨(refreshStep_frame d r).1.trans h.lastGiven, h.placed.refreshStep r⟩

/-- **A refresh that began behind the hand-over** goes on with what the cache holds, and has read
it in the end. -/
lemma Reads.refreshStep (h : Given g d) {r : RefreshPc} (hr : Reads g d r) :
    match (refreshStep d r).2 with
    | some r' => Reads g (refreshStep d r).1 r'
    | none => Read g (refreshStep d r).1 := by
  cases r with
  | loadGiven => exact h.lastGiven
  | loadWord given => exact congrArg (fun c => (d.caches c).controlWord) hr
  | take controlWord =>
    have hword : controlWord = held g d := hr
    cases hatt : controlWord.dsAttached with
    | true =>
      simp only [DsAccesses.refreshStep, hatt, if_true]
      rw [hword] at hatt
      exact ⟨rfl, (if_pos hatt).symm⟩
    | false =>
      simp only [DsAccesses.refreshStep, hatt]
      exact ⟨rfl, hword ▸ hatt⟩
  | zero =>
    have hread : d.currentRead = g := (h.placed.resolve_left (by simp [hr.1])).2
    refine ⟨hr.1, ?_⟩
    have hheld : held g d.zeroCurrent = {} := by
      simp [held, FRCDriverStation.zeroCurrent, hread]
    change held g d.zeroCurrent = effective (held g d.zeroCurrent)
    rw [hheld]
    rfl
  | copy =>
    have hread : d.currentRead = g := (h.placed.resolve_left (by simp [hr.1])).2
    refine ⟨hr.1, ?_⟩
    change (d.caches d.currentRead).controlWord = effective (held g d)
    rw [hread]
    exact hr.2

/-- What an access does to the word that a cache holds: only zeroing the cache that is read takes
it away. -/
lemma held_refreshStep (g : Fin 3) (d : FRCDriverStation) (r : RefreshPc) :
    held g (refreshStep d r).1 = if r = .zero ∧ d.currentRead = g then {} else held g d := by
  cases r with
  | loadGiven | loadWord _ | take _ | copy => simp [held, refreshStep]
  | zero =>
    by_cases hread : d.currentRead = g
    · simp [held, refreshStep, FRCDriverStation.zeroCurrent, hread]
    · simp [held, refreshStep, FRCDriverStation.zeroCurrent, hread, Ne.symm hread]

lemma held_packetStep (g : Fin 3) (d : FRCDriverStation) (pc : PacketPc) :
    held g (packetStep d pc).1 = held g d := by
  rcases pc with _ | _ | _ <;> rfl

end Kuavo.DsAccesses
