import Kuavo.Lib.DoubleBuffer
import Mathlib.Data.List.Forall2

/-!
The reads of a double buffer, in the order of what was published.

As long as no read is overwritten, the reads of a run go through the records in the order in
which they were published, skipping some and repeating others. None returns a record that was
out of date when it began.
-/

namespace Kuavo.Lib.DoubleBuffer

open Kuavo.Lib.Copy Kuavo.Lib.Runs

universe u v w

variable {T : Type u} {A : Type v} {ι : Type w} {M : Type*} {P : Protocol T M ι A}

lemma forall₂_getElem? {α β : Type*} {R : α → β → Prop} {l : List α} {m : List β}
    (h : List.Forall₂ R l m) {n : ℕ} {x : α} (hx : l[n]? = some x) :
    ∃ y, m[n]? = some y ∧ R x y := by
  obtain ⟨hlen, hget⟩ := List.forall₂_iff_get.mp h
  obtain ⟨hn, rfl⟩ := List.getElem?_eq_some_iff.mp hx
  exact ⟨m[n], List.getElem?_eq_getElem (hlen ▸ hn), hget n hn (hlen ▸ hn)⟩

/-- Record `k` of a run, the first being what both slots held. -/
def State.record? (r : T) (s : State P) (k : ℕ) : Option T := (r :: s.published)[k]?

/-- The record on its way to being published. -/
def WriterPc.pending : WriterPc P → List T
  | .idle | .after _ _ => []
  | .loadIndex data | .copying data _ _ | .before data _ _ => [data]

/-- The slot that is read holds record `k`, and the rest of the read goes on as if the whole
read were of it. -/
def ReadsFrom (r : T) (s : State P) (least : ℕ) : Prop :=
  match s.reader with
  | .idle | .loadIndex _ => True
  | .reading arg rb rest => ∃ k, least ≤ k ∧ s.record? r k = some (s.buffers rb) ∧
    rest.eval (s.buffers rb) = (P.read arg).eval (s.buffers rb)

/-- The reads that have returned are of the records `ks`, in order, and later ones are not of
records before `least`. -/
structure InOrder (r : T) (s : State P) (ks : List ℕ) (least : ℕ) : Prop where
  sorted : ks.Pairwise (· ≤ ·)
  bound : ∀ k ∈ ks, k ≤ least
  current : s.record? r s.published.length = some (s.buffers s.write_idx)
  least_le : least ≤ s.published.length
  reads : List.Forall₂ (fun p k => ∃ x, s.record? r k = some x ∧ p.2 = (P.read p.1).eval x)
    s.results ks
  reader : ReadsFrom r s least

lemma inOrder_init (r : T) (m : M) : InOrder r (init P r m) [] 0 :=
  ⟨.nil, nofun, rfl, Nat.le_refl 0, .nil, trivial⟩

/-- What is published stays where it is. -/
lemma record?_of_prefix {r : T} {s t : State P} (h : s.published <+: t.published) {k : ℕ} {x : T}
    (hx : s.record? r k = some x) : t.record? r k = some x := by
  obtain ⟨more, hmore⟩ := h
  unfold State.record? at hx ⊢
  rw [← hmore, ← List.cons_append]
  rw [List.getElem?_append_left (List.getElem?_eq_some_iff.mp hx).1]
  exact hx

lemma ReadsFrom.mono {r : T} {s t : State P} {least : ℕ} (h : ReadsFrom r s least)
    (hreader : t.reader = s.reader)
    (hbuffers : ∀ arg rb rest, s.reader = .reading arg rb rest → t.buffers rb = s.buffers rb)
    (hsub : s.published <+: t.published) : ReadsFrom r t least := by
  rw [ReadsFrom, hreader]
  rcases hs : s.reader with _ | arg | ⟨arg, rb, rest⟩
  · trivial
  · trivial
  · rw [ReadsFrom, hs] at h
    obtain ⟨k, hk, hrecord, heval⟩ := h
    have hslot := hbuffers arg rb rest hs
    exact ⟨k, hk, hslot ▸ record?_of_prefix hsub hrecord, hslot ▸ heval⟩

/-- A step of the writer that publishes nothing and spares both the slot that is current and the
one that is read. -/
lemma InOrder.spare {r : T} {s t : State P} {ks : List ℕ} {least : ℕ} (h : InOrder r s ks least)
    (hpublished : t.published = s.published) (hresults : t.results = s.results)
    (hcurrent : t.buffers t.write_idx = s.buffers s.write_idx) (hreader : t.reader = s.reader)
    (hbuffers : ∀ arg rb rest, s.reader = .reading arg rb rest → t.buffers rb = s.buffers rb) :
    InOrder r t ks least := by
  have hrecord : ∀ k, t.record? r k = s.record? r k := fun k => by
    rw [State.record?, hpublished]
    rfl
  refine ⟨h.sorted, h.bound, ?_, hpublished ▸ h.least_le, ?_, ?_⟩
  · rw [hrecord, hpublished, hcurrent]
    exact h.current
  · rw [hresults]
    simpa only [hrecord] using h.reads
  · exact h.reader.mono hreader hbuffers (hpublished ▸ List.prefix_rfl)

lemma inOrder_writeStep {r : T} {s : State P} {ks : List ℕ} {least : ℕ} (hinv : Inv r s)
    (h : InOrder r s ks least) (hno : NoOverwrite s .writeStep) :
    InOrder r (writeStep s) ks least := by
  have hwriter := hinv.writer
  unfold writeStep
  rcases hs : s.writer with _ | data | ⟨data, wb, _ | ⟨p, rest⟩⟩ | ⟨data, wb, _ | ⟨f, rest⟩⟩ |
      ⟨data, _ | ⟨f, rest⟩⟩ <;> rw [WriterOk, hs] at hwriter
  case idle => exact h
  case copying.cons =>
    have hne : s.write_idx ≠ wb := by
      rw [hwriter.1]
      exact (one_sub_ne _).symm
    refine h.spare rfl rfl (Function.update_of_ne hne _ _) rfl fun arg rb left hr => ?_
    have hne' : wb ≠ rb := by
      simpa [NoOverwrite, hs, hr, WriterPc.target, ReaderPc.source] using hno
    exact Function.update_of_ne hne'.symm _ _
  case before.nil =>
    -- the record becomes the current one
    obtain ⟨hwb, hslot⟩ := hwriter
    have hsub : s.published <+: s.published ++ [data] := List.prefix_append _ _
    refine ⟨h.sorted, h.bound, ?_, ?_, ?_, h.reader.mono rfl (fun _ _ _ _ => rfl) hsub⟩
    · simp only [State.record?, List.length_append, List.length_singleton]
      rw [← List.cons_append, List.getElem?_append_right (by simp), hslot]
      simp
    · simp only [List.length_append, List.length_singleton]
      exact Nat.le_succ_of_le h.least_le
    · refine h.reads.imp fun p k => ?_
      rintro ⟨x, hx, hp⟩
      exact ⟨x, record?_of_prefix hsub hx, hp⟩
  all_goals exact h.spare rfl rfl rfl rfl fun _ _ _ _ => rfl

lemma inOrder_readStep {r : T} {s : State P} {ks : List ℕ} {least : ℕ} (h : InOrder r s ks least) :
    ∃ more least', InOrder r (readStep s) (ks ++ more) least' ∧ least ≤ least' ∧
      ∀ k ∈ more, least ≤ k := by
  have hreader := h.reader
  unfold readStep
  rcases hs : s.reader with _ | arg | ⟨arg, rb, a | next⟩ <;> rw [ReadsFrom, hs] at hreader
  case idle => exact ⟨[], least, by simpa using h, Nat.le_refl _, nofun⟩
  case loadIndex =>
    refine ⟨[], least, ?_, Nat.le_refl _, nofun⟩
    rw [List.append_nil]
    exact ⟨h.sorted, h.bound, h.current, h.least_le, h.reads,
      s.published.length, h.least_le, h.current, rfl⟩
  case reading.done =>
    -- no later read is of an earlier record than this one
    obtain ⟨k, hk, hrecord, heval⟩ := hreader
    refine ⟨[k], k, ⟨?_, ?_, h.current, ?_, ?_, trivial⟩, hk, by simpa using hk⟩
    · refine List.pairwise_append.mpr ⟨h.sorted, List.pairwise_singleton _ _, fun j hj j' hj' => ?_⟩
      rw [List.mem_singleton.mp hj']
      exact Nat.le_trans (h.bound j hj) hk
    · intro j hj
      rcases List.mem_append.mp hj with hj | hj
      · exact Nat.le_trans (h.bound j hj) hk
      · exact Nat.le_of_eq (List.mem_singleton.mp hj)
    · have hlt := (List.getElem?_eq_some_iff.mp hrecord).1
      exact Nat.lt_succ_iff.mp hlt
    · exact List.rel_append h.reads (.cons ⟨_, hrecord, heval⟩ .nil)
  case reading.load =>
    obtain ⟨k, hk, hrecord, heval⟩ := hreader
    refine ⟨[], least, ?_, Nat.le_refl _, nofun⟩
    rw [List.append_nil]
    exact ⟨h.sorted, h.bound, h.current, h.least_le, h.reads, k, hk, hrecord, heval⟩

/-- A step of either side adds at most one read, of a record that is not out of date. -/
theorem inOrder_step {r : T} {s : State P} {ks : List ℕ} {least : ℕ} (i : Input T ι)
    (hinv : Inv r s) (h : InOrder r s ks least) (hno : NoOverwrite s i) :
    ∃ more least', InOrder r (step s i) (ks ++ more) least' ∧ least ≤ least' ∧
      ∀ k ∈ more, least ≤ k := by
  have hsame {t : State P} (ht : InOrder r t ks least) :
      ∃ more least', InOrder r t (ks ++ more) least' ∧ least ≤ least' ∧ ∀ k ∈ more, least ≤ k :=
    ⟨[], least, by simpa using ht, Nat.le_refl _, nofun⟩
  cases i with
  | publish data =>
    simp only [step]
    split
    · exact hsame (h.spare rfl rfl rfl rfl fun _ _ _ _ => rfl)
    · exact hsame h
  | writeStep => exact hsame (inOrder_writeStep hinv h hno)
  | read arg =>
    simp only [step]
    split
    · exact hsame ⟨h.sorted, h.bound, h.current, h.least_le, h.reads, trivial⟩
    · exact hsame h
  | readStep => exact inOrder_readStep h

/-- The reads that have returned are in the order of what was published. -/
def Ordered (r : T) (s : State P) : Prop := Inv r s ∧ ∃ ks least, InOrder r s ks least

lemma ordered_init (r : T) (m : M) : Ordered r (init P r m) :=
  ⟨inv_init r m, [], 0, inOrder_init r m⟩

lemma Ordered.step {r : T} {s : State P} (h : Ordered r s) (i : Input T ι)
    (hno : NoOverwrite s i) : Ordered r (step s i) := by
  obtain ⟨hinv, ks, least, hks⟩ := h
  obtain ⟨more, least', hstep, -⟩ := inOrder_step i hinv hks hno
  exact ⟨inv_step s i hinv hno, ks ++ more, least', hstep⟩

/-- **Reads in order.** Where a read copies a record, the copies that were read are records in
the order of their publication. -/
theorem Ordered.copies {Q : Protocol T M ι T} {r : T} {s : State Q} (h : Ordered r s)
    (hcopy : ∀ arg x, (Q.read arg).eval x = x) :
    ∃ ks : List ℕ, ks.Pairwise (· ≤ ·) ∧
      List.Forall₂ (fun x k => s.record? r k = some x) (s.results.map Prod.snd) ks := by
  obtain ⟨-, ks, least, hks⟩ := h
  refine ⟨ks, hks.sorted, List.forall₂_map_left_iff.mpr (hks.reads.imp fun p k => ?_)⟩
  rintro ⟨x, hx, hp⟩
  rw [hx, hp, hcopy]

/-- Since the reads of `ks` returned, only records from `n` on have been read or will be. -/
def Since (r : T) (s : State P) (ks : List ℕ) (n : ℕ) : Prop :=
  ∃ more least, InOrder r s (ks ++ more) least ∧ n ≤ least ∧ ∀ k ∈ more, n ≤ k

/-- Between two reads every record but the latest is out of date. -/
lemma Ordered.since {r : T} {s : State P} (h : Ordered r s) (hidle : s.reader = .idle) :
    ∃ ks, Since r s ks s.published.length ∧ ks.length = s.results.length := by
  obtain ⟨-, ks, least, hks⟩ := h
  have hreader : ReadsFrom r s s.published.length := by
    rw [ReadsFrom, hidle]
    trivial
  refine ⟨ks, ⟨[], s.published.length, ?_, Nat.le_refl _, nofun⟩, hks.reads.length_eq.symm⟩
  rw [List.append_nil]
  exact ⟨hks.sorted, fun k hk => Nat.le_trans (hks.bound k hk) hks.least_le, hks.current,
    Nat.le_refl _, hks.reads, hreader⟩

lemma Since.step {r : T} {s : State P} {ks : List ℕ} {n : ℕ} (h : Since r s ks n)
    (hinv : Inv r s) (i : Input T ι) (hno : NoOverwrite s i) : Since r (step s i) ks n := by
  obtain ⟨more, least, hks, hn, hmore⟩ := h
  obtain ⟨more', least', hstep, hleast, hmore'⟩ := inOrder_step i hinv hks hno
  refine ⟨more ++ more', least', by rwa [← List.append_assoc], Nat.le_trans hn hleast, ?_⟩
  intro k hk
  rcases List.mem_append.mp hk with hk | hk
  · exact hmore k hk
  · exact Nat.le_trans hn (hmore' k hk)

/-- **Reads are not out of date.** A read that began later than a record was published is of
that record or of a later one. -/
theorem Since.fresh {Q : Protocol T M ι T} {r : T} {s : State Q} {ks : List ℕ} {n : ℕ}
    (h : Since r s ks n) (hcopy : ∀ arg x, (Q.read arg).eval x = x) :
    ∀ x ∈ (s.results.drop ks.length).map Prod.snd, ∃ k, n ≤ k ∧ s.record? r k = some x := by
  obtain ⟨more, least, hks, -, hmore⟩ := h
  have hdrop := List.forall₂_drop ks.length hks.reads
  rw [List.drop_left] at hdrop
  intro x hx
  obtain ⟨p, hp, rfl⟩ := List.mem_map.mp hx
  obtain ⟨i, hi⟩ := List.mem_iff_getElem?.mp hp
  obtain ⟨k, hk, y, hy, hpy⟩ := forall₂_getElem? hdrop hi
  refine ⟨k, hmore k (List.mem_of_getElem? hk), ?_⟩
  rw [hy, hpy, hcopy]

/-! ### What either side leaves alone -/

/-- The records whose publication has begun. -/
def State.issued (s : State P) : List T := s.published ++ s.writer.pending

/-- What is published stays published. -/
lemma published_step (s : State P) (i : Input T ι) : s.published <+: (step s i).published := by
  cases i with
  | publish data =>
    simp only [step]
    split <;> exact List.prefix_rfl
  | writeStep =>
    simp only [step, writeStep]
    split <;> first | exact List.prefix_rfl | exact List.prefix_append _ _
  | read arg =>
    simp only [step]
    split <;> exact List.prefix_rfl
  | readStep =>
    simp only [step, readStep]
    split <;> exact List.prefix_rfl

@[simp] lemma issued_writeStep (s : State P) : (writeStep s).issued = s.issued := by
  unfold writeStep State.issued
  rcases hs : s.writer with _ | data | ⟨data, wb, _ | ⟨p, rest⟩⟩ | ⟨data, wb, _ | ⟨g, rest⟩⟩ |
    ⟨data, _ | ⟨g, rest⟩⟩ <;> simp [WriterPc.pending, hs]

lemma issued_publish {s : State P} (hidle : s.writer = .idle) (data : T) :
    (step s (.publish data)).issued = s.issued ++ [data] := by
  simp [step, State.issued, hidle, WriterPc.pending]

@[simp] lemma issued_read (s : State P) (arg : ι) : (step s (.read arg)).issued = s.issued := by
  simp only [step]
  split <;> rfl

@[simp] lemma issued_readStep (s : State P) : (readStep s).issued = s.issued := by
  unfold readStep
  split <;> rfl

@[simp] lemma writer_read (s : State P) (arg : ι) : (step s (.read arg)).writer = s.writer := by
  simp only [step]
  split <;> rfl

@[simp] lemma writer_readStep (s : State P) : (readStep s).writer = s.writer := by
  unfold readStep
  split <;> rfl

@[simp] lemma results_writeStep (s : State P) : (writeStep s).results = s.results := by
  unfold writeStep
  split <;> rfl

@[simp] lemma results_publish (s : State P) (data : T) :
    (step s (.publish data)).results = s.results := by
  simp only [step]
  split <;> rfl

@[simp] lemma results_read (s : State P) (arg : ι) :
    (step s (.read arg)).results = s.results := by
  simp only [step]
  split <;> rfl

lemma results_readStep_done {s : State P} {arg : ι} {rb : Fin 2} {a : A}
    (hs : s.reader = .reading arg rb (.done a)) :
    (readStep s).results = s.results ++ [(arg, a)] := by
  simp [readStep, hs]

lemma results_readStep {s : State P} (hs : ∀ arg rb a, s.reader ≠ .reading arg rb (.done a)) :
    (readStep s).results = s.results := by
  unfold readStep
  split
  · rfl
  · rfl
  · rfl
  · next arg rb a h => exact absurd h (hs arg rb a)

end Kuavo.Lib.DoubleBuffer
