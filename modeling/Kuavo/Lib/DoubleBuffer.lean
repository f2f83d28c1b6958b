import Kuavo.Lib.Copy
import Kuavo.Lib.Runs

/-!
Two slots and an index, between a writer that never waits and a reader that never waits.

The writer copies a record into the slot that the index does not name and then stores the
index; the reader loads the index and then reads that slot, load by load. Nothing keeps the
writer from coming back to a slot that is still read. What is proved here: as long as it does
not, every read is that of one published record.
-/

namespace Kuavo.Lib.DoubleBuffer

open Kuavo.Lib.Copy Kuavo.Lib.Runs

universe u v w

/-- What a reader does with a slot: it loads from it, one load after the other, and what it
loads next may depend on what it has loaded. -/
inductive Reader (T : Type u) (A : Type v)
  | done (a : A)
  | load (next : T → Reader T A)

variable {T : Type u} {A : Type v} {ι : Type w} {M : Type*}

/-- A read that nothing comes in between of. -/
def Reader.eval (r : T) : Reader T A → A
  | .done a => a
  | .load next => (next r).eval r

/-- A copy of the slot, part by part, into `dst`. -/
def Reader.copy (L : Layout T) : List L.Part → T → Reader T T
  | [], dst => .done dst
  | p :: rest, dst => .load fun src => copy L rest (L.copy p src dst)

@[simp] lemma eval_copy (L : Layout T) (rest : List L.Part) (dst r : T) :
    (Reader.copy L rest dst).eval r = L.finish rest r dst := by
  induction rest generalizing dst with
  | nil => rfl
  | cons p rest ih => exact ih _

/-- How records are published: what is stored next to the slots, before the index and after
it, and what reads with an argument do. -/
structure Protocol (T : Type u) (M : Type*) (ι : Type w) (A : Type v) where
  layout : Layout T
  before : List (T → M → M)
  after : List (T → M → M)
  read : ι → Reader T A

variable {P : Protocol T M ι A}

inductive WriterPc (P : Protocol T M ι A)
  | idle
  | loadIndex (data : T)
  | copying (data : T) (wb : Fin 2) (rest : List P.layout.Part)
  | before (data : T) (wb : Fin 2) (rest : List (T → M → M))
  | after (data : T) (rest : List (T → M → M))

inductive ReaderPc (P : Protocol T M ι A)
  | idle
  | loadIndex (arg : ι)
  | reading (arg : ι) (rb : Fin 2) (rest : Reader T A)

structure State (P : Protocol T M ι A) where
  buffers : Fin 2 → T
  write_idx : Fin 2 := 0
  aside : M
  writer : WriterPc P := .idle
  reader : ReaderPc P := .idle
  /-- The records whose index has been stored. -/
  published : List T := []
  /-- The reads that have returned. -/
  results : List (ι × A) := []

inductive Input (T : Type u) (ι : Type w)
  | publish (data : T)
  | writeStep
  | read (arg : ι)
  | readStep

def writeStep (s : State P) : State P :=
  match s.writer with
  | .idle => s
  | .loadIndex data => { s with writer := .copying data (1 - s.write_idx) P.layout.parts }
  | .copying data wb (p :: rest) =>
    { s with
      buffers := Function.update s.buffers wb (P.layout.copy p data (s.buffers wb))
      writer := .copying data wb rest }
  | .copying data wb [] => { s with writer := .before data wb P.before }
  | .before data wb (f :: rest) =>
    { s with aside := f data s.aside, writer := .before data wb rest }
  | .before data wb [] =>
    { s with
      write_idx := wb
      writer := .after data P.after
      published := s.published ++ [data] }
  | .after data (f :: rest) => { s with aside := f data s.aside, writer := .after data rest }
  | .after _ [] => { s with writer := .idle }

def readStep (s : State P) : State P :=
  match s.reader with
  | .idle => s
  | .loadIndex arg => { s with reader := .reading arg s.write_idx (P.read arg) }
  | .reading arg rb (.load next) => { s with reader := .reading arg rb (next (s.buffers rb)) }
  | .reading arg _ (.done a) =>
    { s with reader := .idle, results := s.results ++ [(arg, a)] }

def step (s : State P) : Input T ι → State P
  | .publish data =>
    match s.writer with
    | .idle => { s with writer := .loadIndex data }
    | _ => s
  | .writeStep => writeStep s
  | .read arg =>
    match s.reader with
    | .idle => { s with reader := .loadIndex arg }
    | _ => s
  | .readStep => readStep s

/-- Both slots hold the same record. -/
def init (P : Protocol T M ι A) (r : T) (m : M) : State P where
  buffers := fun _ => r
  aside := m

/-- The slot that the writer's next step writes. -/
def WriterPc.target : WriterPc P → Option (Fin 2)
  | .copying _ wb (_ :: _) => some wb
  | .idle | .loadIndex _ | .copying _ _ [] | .before _ _ _ | .after _ _ => none

/-- The slot of the read in progress. -/
def ReaderPc.source : ReaderPc P → Option (Fin 2)
  | .reading _ rb _ => some rb
  | .idle | .loadIndex _ => none

/-- The writer does not copy into the slot that is being read. -/
def NoOverwrite (s : State P) : Input T ι → Prop
  | .writeStep => s.writer.target = none ∨ s.writer.target ≠ s.reader.source
  | .publish _ | .read _ | .readStep => True

instance (s : State P) : (i : Input T ι) → Decidable (NoOverwrite s i)
  | .writeStep => inferInstanceAs (Decidable (_ ∨ _))
  | .publish _ | .read _ | .readStep => isTrue trivial

/-! ### The invariant -/

/-- Some record of the list satisfies `p`. -/
def Published (r : T) (s : State P) (p : T → Prop) : Prop := ∃ x ∈ r :: s.published, p x

lemma Published.mono {r : T} {s t : State P} {p : T → Prop} (h : Published r s p)
    (hsub : s.published ⊆ t.published) : Published r t p := by
  obtain ⟨x, hx, hp⟩ := h
  refine ⟨x, ?_, hp⟩
  rcases List.mem_cons.mp hx with rfl | hx
  · exact List.mem_cons_self
  · exact List.mem_cons_of_mem _ (hsub hx)

/-- The slot that is written is not the one the index names. -/
def WriterOk (s : State P) : Prop :=
  match s.writer with
  | .idle | .loadIndex _ | .after _ _ => True
  | .copying data wb rest =>
    wb = 1 - s.write_idx ∧ P.layout.finish rest data (s.buffers wb) = data
  | .before data wb _ => wb = 1 - s.write_idx ∧ s.buffers wb = data

/-- The slot that is read still holds the record it held, and the rest of the read goes on as
if the whole read were of that record. -/
def ReaderOk (r : T) (s : State P) : Prop :=
  match s.reader with
  | .idle | .loadIndex _ => True
  | .reading arg rb rest =>
    Published r s fun x => s.buffers rb = x ∧ rest.eval x = (P.read arg).eval x

structure Inv (r : T) (s : State P) : Prop where
  current : Published r s fun x => s.buffers s.write_idx = x
  writer : WriterOk s
  reader : ReaderOk r s
  results : ∀ p ∈ s.results, Published r s fun x => p.2 = (P.read p.1).eval x

lemma inv_init (r : T) (m : M) : Inv r (init P r m) :=
  ⟨⟨r, List.mem_cons_self, rfl⟩, trivial, trivial, nofun⟩

lemma one_sub_ne (i : Fin 2) : 1 - i ≠ i := by
  revert i
  decide

lemma ReaderOk.mono {r : T} {s t : State P} (h : ReaderOk r s) (hreader : t.reader = s.reader)
    (hbuffers : ∀ arg rb rest, s.reader = .reading arg rb rest → t.buffers rb = s.buffers rb)
    (hsub : s.published ⊆ t.published) : ReaderOk r t := by
  rw [ReaderOk, hreader]
  rcases hs : s.reader with _ | arg | ⟨arg, rb, rest⟩
  · trivial
  · trivial
  · rw [ReaderOk, hs] at h
    obtain ⟨x, hx, hslot, heval⟩ := Published.mono h hsub
    exact ⟨x, hx, (hbuffers arg rb rest hs).trans hslot, heval⟩

/-- A step of the writer that touches neither the slots nor the index. -/
lemma Inv.setWriter {r : T} {s : State P} (h : Inv r s) (m : M) {w : WriterPc P}
    (hw : WriterOk { s with aside := m, writer := w }) :
    Inv r { s with aside := m, writer := w } :=
  ⟨h.current, hw, h.reader.mono rfl (fun _ _ _ _ => rfl) (List.Subset.refl _), h.results⟩

lemma inv_writeStep {r : T} {s : State P} (h : Inv r s) (hno : NoOverwrite s .writeStep) :
    Inv r (writeStep s) := by
  have hwriter := h.writer
  have hreader := h.reader
  have hcurrent := h.current
  unfold writeStep
  rcases hs : s.writer with _ | data | ⟨data, wb, _ | ⟨p, rest⟩⟩ | ⟨data, wb, _ | ⟨f, rest⟩⟩ |
      ⟨data, _ | ⟨f, rest⟩⟩ <;> rw [WriterOk, hs] at hwriter
  · exact h
  · exact h.setWriter s.aside ⟨rfl, P.layout.finish_parts data _⟩
  · -- the slot holds the whole record
    exact h.setWriter s.aside hwriter
  · obtain ⟨hwb, hfinish⟩ := hwriter
    have hne : s.write_idx ≠ wb := by
      rw [hwb]
      exact (one_sub_ne _).symm
    refine ⟨?_, ⟨hwb, ?_⟩, ?_, h.results⟩
    · simpa only [Published, Function.update_of_ne hne] using hcurrent
    · simpa using hfinish
    · refine hreader.mono rfl (fun arg rb left hr => ?_) (List.Subset.refl _)
      have hne' : wb ≠ rb := by
        simpa [NoOverwrite, hs, hr, WriterPc.target, ReaderPc.source] using hno
      exact Function.update_of_ne hne'.symm _ _
  · obtain ⟨hwb, hslot⟩ := hwriter
    have hsub : s.published ⊆ s.published ++ [data] := List.subset_append_left _ _
    refine ⟨⟨data, by simp, hslot⟩, trivial, hreader.mono rfl (fun _ _ _ _ => rfl) hsub,
      fun p hp => (h.results p hp).mono hsub⟩
  · exact h.setWriter _ hwriter
  · exact h.setWriter s.aside trivial
  · exact h.setWriter _ trivial

lemma inv_readStep {r : T} {s : State P} (h : Inv r s) : Inv r (readStep s) := by
  have hwriter := h.writer
  have hreader := h.reader
  unfold readStep
  rcases hs : s.reader with _ | arg | ⟨arg, rb, a | next⟩ <;> rw [ReaderOk, hs] at hreader
  · exact h
  · obtain ⟨x, hx, hslot⟩ := h.current
    exact ⟨h.current, hwriter, ⟨x, hx, hslot, rfl⟩, h.results⟩
  · refine ⟨h.current, hwriter, trivial, fun p hp => ?_⟩
    rcases List.mem_append.mp hp with hp | hp
    · exact h.results p hp
    · obtain ⟨x, hx, -, heval⟩ := hreader
      rw [List.mem_singleton.mp hp]
      exact ⟨x, hx, heval⟩
  · obtain ⟨x, hx, hslot, heval⟩ := hreader
    refine ⟨h.current, hwriter, ⟨x, hx, hslot, ?_⟩, h.results⟩
    rw [hslot]
    exact heval

theorem inv_step {r : T} (s : State P) (i : Input T ι) (h : Inv r s) (hno : NoOverwrite s i) :
    Inv r (step s i) := by
  cases i with
  | publish data =>
    simp only [step]
    split
    · exact ⟨h.current, trivial, h.reader, h.results⟩
    · exact h
  | writeStep => exact inv_writeStep h hno
  | read arg =>
    simp only [step]
    split
    · exact ⟨h.current, h.writer, trivial, h.results⟩
    · exact h
  | readStep => exact inv_readStep h

/-- **Reads that are not overwritten are whole**: each is that of one published record, or of
the first one. -/
theorem read_of_published {r : T} {m : M} {l : List (Input T ι)}
    (hl : Each step NoOverwrite (init P r m) l) :
    ∀ p ∈ (run step (init P r m) l).results,
      ∃ x ∈ r :: (run step (init P r m) l).published, p.2 = (P.read p.1).eval x :=
  (hl.invariant (I := Inv r) inv_step (inv_init r m)).results

end Kuavo.Lib.DoubleBuffer
