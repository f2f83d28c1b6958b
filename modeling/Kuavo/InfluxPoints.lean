import Kuavo.Lib.Runs
import Kuavo.MercuryShm
import Kuavo.Subscriber

/-!
The writer of points in `tools/test_subscriber_influxdb.cpp`.

Two threads add lines to one buffer and post it: the one that takes in payloads, whenever there
are enough lines, and one that goes by the time. Both hold the mutex, so each call is one step.
Whatever becomes of the posts, the counters tell it.
-/

namespace Kuavo.InfluxPoints

open Kuavo.BatchLog Kuavo.Lib.Runs Kuavo.MercuryShm Kuavo.Subscriber

/-- A line of the protocol, by what it is made of. -/
inductive Line
  | robot_sensor (hdr : BinaryPayloadHeader) (joint : ℕ) (sensor : List UInt8)
  | robot_imu (hdr : BinaryPayloadHeader) (sensor : List UInt8)
  | robot_contact (hdr : BinaryPayloadHeader) (sensor : List UInt8)
  | robot_command (hdr : BinaryPayloadHeader) (joint : ℕ) (cmd : List UInt8)
  deriving DecidableEq

def lines : Point → List Line
  | .sensor hdr s =>
    (List.range NUM_ACT_JOINT).map (.robot_sensor hdr · s) ++
      [.robot_imu hdr s, .robot_contact hdr s]
  | .command hdr c => (List.range NUM_ACT_JOINT).map (.robot_command hdr · c)

/-- What becomes of a buffer that is flushed: there is no handle, the request fails, or it is
answered. -/
inductive Outcome
  | noHandle
  | failed
  | answered (http_code : ℕ)
  deriving DecidableEq

def Outcome.accepted : Outcome → Bool
  | .answered http_code => http_code = 204
  | .noHandle | .failed => false

/-- Whether there was a request. -/
def Outcome.posted : Outcome → Bool
  | .noHandle => false
  | .failed | .answered _ => true

structure InfluxWriter where
  batch_size : ℤ
  buffer_ : List Line := []
  point_count_ : ℕ := 0
  total_written_ : ℕ := 0
  flush_count_ : ℕ := 0
  error_count_ : ℕ := 0
  /-- What was flushed so far, and what became of it. -/
  flushed : List (List Line × Outcome) := []

/-- The cast of an `int` to `size_t`. -/
def size_t (x : ℤ) : ℕ := (x % 18446744073709551616).toNat

namespace InfluxWriter

def flush_locked (w : InfluxWriter) (o : Outcome) : InfluxWriter :=
  if w.buffer_ = [] then w
  else
    match o with
    | .noHandle =>
      { w with
        error_count_ := w.error_count_ + 1
        buffer_ := []
        point_count_ := 0
        flushed := w.flushed ++ [(w.buffer_, o)] }
    | .failed =>
      { w with
        error_count_ := w.error_count_ + 1
        buffer_ := []
        point_count_ := 0
        flush_count_ := w.flush_count_ + 1
        flushed := w.flushed ++ [(w.buffer_, o)] }
    | .answered http_code =>
      { w with
        error_count_ := if http_code ≠ 204 then w.error_count_ + 1 else w.error_count_
        total_written_ :=
          if http_code ≠ 204 then w.total_written_ else w.total_written_ + w.point_count_
        buffer_ := []
        point_count_ := 0
        flush_count_ := w.flush_count_ + 1
        flushed := w.flushed ++ [(w.buffer_, o)] }

/-- `add_sensor_point` and `add_command_point`; the outcome counts if there are enough lines. -/
def add (w : InfluxWriter) (o : Outcome) (p : Point) : InfluxWriter :=
  let w := { w with
    buffer_ := w.buffer_ ++ lines p
    point_count_ := w.point_count_ + (lines p).length }
  if size_t w.batch_size ≤ w.point_count_ then w.flush_locked o else w

end InfluxWriter

/-! ### The subscriber -/

structure System where
  tally : Tally := {}
  writer : InfluxWriter

inductive Input
  /-- A message arrives; the outcome is that of the flush it may lead to. -/
  | payload (bytes : List UInt8) (o : Outcome)
  /-- The time is over, or the program ends. -/
  | flush (o : Outcome)

def step (s : System) : Input → System
  | .payload bytes o =>
    let tally := s.tally.process_binary_payload bytes
    { tally
      writer := (tally.points.drop s.tally.points.length).foldl (·.add o) s.writer }
  | .flush o => { s with writer := s.writer.flush_locked o }

def start (batch_size : ℤ) : System := { writer := { batch_size } }

/-! ### What is flushed -/

/-- What has been flushed and the buffer are the points added, in groups that are never torn. -/
structure Grouped (w : InfluxWriter) (points : List Point) (groups : List (List Point))
    (last : List Point) : Prop where
  points : groups.flatten ++ last = points
  flushed : w.flushed.map Prod.fst = groups.map (List.flatMap lines)
  buffer : w.buffer_ = last.flatMap lines
  count : w.point_count_ = w.buffer_.length

/-- What the counters count. -/
structure Counted (w : InfluxWriter) : Prop where
  written : w.total_written_ =
    ((w.flushed.filter fun e => e.2.accepted).map fun e => e.1.length).sum
  flushes : w.flush_count_ = w.flushed.countP fun e => e.2.posted
  errors : w.error_count_ = w.flushed.countP fun e => !e.2.accepted

/-- No flush is of many more lines than the limit. -/
structure Limited (w : InfluxWriter) : Prop where
  buffer : w.buffer_.length < size_t w.batch_size ∨ w.buffer_ = []
  flushed : ∀ e ∈ w.flushed, e.1 ≠ [] ∧ e.1.length ≤ max (size_t w.batch_size) 1 + 13

lemma length_lines_pos (p : Point) : 0 < (lines p).length := by
  cases p <;> simp [lines, NUM_ACT_JOINT]

lemma length_lines_le (p : Point) : (lines p).length ≤ 14 := by
  cases p <;> simp [lines, NUM_ACT_JOINT]

/-- A flush empties the buffer, and nothing is flushed twice. -/
lemma flush_locked_spec (w : InfluxWriter) (o : Outcome) :
    (w.flush_locked o).buffer_ = [] ∧ (w.flush_locked o).batch_size = w.batch_size ∧
      (w.flush_locked o).flushed =
        w.flushed ++ if w.buffer_ = [] then [] else [(w.buffer_, o)] := by
  unfold InfluxWriter.flush_locked
  split_ifs with hbuffer
  · simp [hbuffer]
  · cases o <;> exact ⟨rfl, rfl, rfl⟩

lemma count_flush_locked {w : InfluxWriter} (hcount : w.point_count_ = w.buffer_.length)
    (o : Outcome) : (w.flush_locked o).point_count_ = (w.flush_locked o).buffer_.length := by
  unfold InfluxWriter.flush_locked
  split_ifs
  · exact hcount
  · cases o <;> rfl

lemma Counted.flush {w : InfluxWriter} (h : Counted w) (hcount : w.point_count_ = w.buffer_.length)
    (o : Outcome) : Counted (w.flush_locked o) := by
  obtain ⟨hw, hf, he⟩ := h
  unfold InfluxWriter.flush_locked
  split_ifs
  · exact ⟨hw, hf, he⟩
  · cases o with
    | noHandle | failed =>
      constructor <;> simp [hw, hf, he, Outcome.accepted, Outcome.posted]
    | answered http_code =>
      by_cases hcode : http_code = 204 <;> constructor <;>
        simp [hw, hf, he, hcode, hcount, Outcome.accepted, Outcome.posted]

/-- The group that was being filled is complete. -/
lemma Grouped.flush {w : InfluxWriter} {points : List Point} {groups : List (List Point)}
    {last : List Point} (h : Grouped w points groups last) (o : Outcome) :
    ∃ groups', Grouped (w.flush_locked o) points groups' [] := by
  obtain ⟨hpoints, hflushed, hbuffer, hcount⟩ := h
  obtain ⟨hempty, -, hnew⟩ := flush_locked_spec w o
  have hcount' := count_flush_locked hcount o
  by_cases hnil : w.buffer_ = []
  · have hlast : last = [] := by
      cases last with
      | nil => rfl
      | cons p last =>
        have hpos := length_lines_pos p
        rw [hnil] at hbuffer
        have hlen := congrArg List.length hbuffer
        simp only [List.flatMap_cons, List.length_append, List.length_nil] at hlen
        omega
    refine ⟨groups, by rw [← hpoints, hlast], ?_, hempty, hcount'⟩
    rw [hnew, if_pos hnil, List.append_nil, hflushed]
  · refine ⟨groups ++ [last], by simpa using hpoints, ?_, hempty, hcount'⟩
    rw [hnew, if_neg hnil, List.map_append, hflushed, List.map_append, List.map_cons,
      List.map_nil, List.map_cons, List.map_nil, hbuffer]

/-- A buffer of at most the limit and one record more may be flushed. -/
lemma limited_flush {w : InfluxWriter}
    (hflushed : ∀ e ∈ w.flushed, e.1 ≠ [] ∧ e.1.length ≤ max (size_t w.batch_size) 1 + 13)
    (hbuffer : w.buffer_.length ≤ max (size_t w.batch_size) 1 + 13) (o : Outcome) :
    Limited (w.flush_locked o) := by
  obtain ⟨hempty, hsize, hnew⟩ := flush_locked_spec w o
  refine ⟨Or.inr hempty, ?_⟩
  rw [hnew, hsize]
  intro e he
  rcases List.mem_append.mp he with he | he
  · exact hflushed e he
  · split_ifs at he with hnil
    · simp at he
    · rw [List.mem_singleton.mp he]
      exact ⟨hnil, hbuffer⟩

/-- What every call keeps. -/
structure WriterOk (w : InfluxWriter) (points : List Point) : Prop where
  grouped : ∃ groups last, Grouped w points groups last
  counted : Counted w
  limited : Limited w

lemma WriterOk.flush {w : InfluxWriter} {points : List Point} (h : WriterOk w points)
    (o : Outcome) : WriterOk (w.flush_locked o) points := by
  obtain ⟨⟨groups, last, hgrouped⟩, hcounted, hlimited⟩ := h
  obtain ⟨groups', hgrouped'⟩ := hgrouped.flush o
  have hbuffer : w.buffer_.length ≤ max (size_t w.batch_size) 1 + 13 := by
    rcases hlimited.buffer with hlt | hnil
    · omega
    · simp [hnil]
  exact ⟨⟨groups', [], hgrouped'⟩, hcounted.flush hgrouped.count o,
    limited_flush hlimited.flushed hbuffer o⟩

lemma WriterOk.add {w : InfluxWriter} {points : List Point} (h : WriterOk w points)
    (o : Outcome) (p : Point) : WriterOk (w.add o p) (points ++ [p]) := by
  obtain ⟨⟨groups, last, hpoints, hflushed, hbuffer, hcount⟩, hcounted, hlimited⟩ := h
  have hlines := length_lines_le p
  unfold InfluxWriter.add
  extract_lets w'
  have hgrouped : Grouped w' (points ++ [p]) groups (last ++ [p]) :=
    ⟨by rw [← List.append_assoc, hpoints], hflushed, by simp [w', hbuffer],
      by simp [w', hcount]⟩
  have hcounted' : Counted w' := ⟨hcounted.written, hcounted.flushes, hcounted.errors⟩
  split_ifs with hfull
  · have hlength : w'.buffer_.length ≤ max (size_t w'.batch_size) 1 + 13 := by
      have hlen : w'.buffer_.length = w.buffer_.length + (lines p).length := by simp [w']
      have hsize : w'.batch_size = w.batch_size := rfl
      rw [hlen, hsize]
      rcases hlimited.buffer with hlt | hnil
      · omega
      · rw [hnil, List.length_nil]
        omega
    obtain ⟨groups', hgrouped'⟩ := hgrouped.flush o
    exact ⟨⟨groups', [], hgrouped'⟩, hcounted'.flush hgrouped.count o,
      limited_flush (w := w') hlimited.flushed hlength o⟩
  · have hlt : w'.buffer_.length < size_t w'.batch_size := by
      rw [← hgrouped.count]
      exact not_le.mp hfull
    exact ⟨⟨groups, last ++ [p], hgrouped⟩, hcounted', Or.inl hlt, hlimited.flushed⟩

lemma WriterOk.addAll {w : InfluxWriter} {points : List Point} (h : WriterOk w points)
    (o : Outcome) (new : List Point) : WriterOk (new.foldl (·.add o) w) (points ++ new) := by
  induction new generalizing w points with
  | nil => simpa using h
  | cons p new ih =>
    have hadd := ih (h.add o p)
    rwa [List.append_assoc] at hadd

/-- A payload adds points behind the ones that are there. -/
lemma points_process (t : Tally) (bytes : List UInt8) :
    t.points <+: (t.process_binary_payload bytes).points := by
  unfold Tally.process_binary_payload
  dsimp only
  split_ifs <;> first | exact List.prefix_rfl | exact List.prefix_append _ _

lemma writerOk_step (s : System) (i : Input) (h : WriterOk s.writer s.tally.points) :
    WriterOk (step s i).writer (step s i).tally.points := by
  cases i with
  | payload bytes o =>
    obtain ⟨new, hnew⟩ := points_process s.tally bytes
    have hadd := h.addAll o new
    simp only [step]
    rw [← hnew, List.drop_left]
    exact hadd
  | flush o => exact h.flush o

lemma writerOk_run (batch_size : ℤ) (l : List Input) :
    WriterOk (run step (start batch_size) l).writer
      (run step (start batch_size) l).tally.points := by
  refine run_invariant (I := fun s : System => WriterOk s.writer s.tally.points) writerOk_step ?_ l
  exact ⟨⟨[], [], rfl, rfl, rfl, rfl⟩, ⟨rfl, rfl, rfl⟩, Or.inr rfl, by simp [start]⟩

lemma batch_size_addAll (w : InfluxWriter) (o : Outcome) (new : List Point) :
    (new.foldl (·.add o) w).batch_size = w.batch_size := by
  induction new generalizing w with
  | nil => rfl
  | cons p new ih =>
    rw [List.foldl_cons, ih]
    unfold InfluxWriter.add
    dsimp only
    split_ifs
    · exact (flush_locked_spec _ o).2.1
    · rfl

lemma batch_size_run (batch_size : ℤ) (l : List Input) :
    (run step (start batch_size) l).writer.batch_size = batch_size := by
  refine run_invariant (I := fun s : System => s.writer.batch_size = batch_size) ?_ rfl l
  intro s i h
  cases i with
  | payload bytes o => exact (batch_size_addAll _ o _).trans h
  | flush o => exact (flush_locked_spec s.writer o).2.1.trans h

/-- **Every point is accounted for.** At the end of every run of the subscriber that ends with a
flush, what was flushed is all the points of the payloads, in order, each once and with all its
lines in one request; and the counters say what became of them. -/
theorem points_accounted (batch_size : ℤ) (l : List Input) (o : Outcome) :
    let s := run step (start batch_size) (l ++ [.flush o])
    (∃ groups : List (List Point), groups.flatten = s.tally.points ∧
      s.writer.flushed.map Prod.fst = groups.map (List.flatMap lines)) ∧
      s.writer.buffer_ = [] ∧ Counted s.writer ∧
      ∀ e ∈ s.writer.flushed, e.1 ≠ [] ∧ e.1.length ≤ max (size_t batch_size) 1 + 13 := by
  intro s
  have hok : WriterOk s.writer s.tally.points := writerOk_run batch_size _
  have hsize : s.writer.batch_size = batch_size := batch_size_run batch_size _
  obtain ⟨⟨groups, last, hgrouped⟩, -, -⟩ := writerOk_run batch_size l
  obtain ⟨groups', hpoints, hflushed, hbuffer, -⟩ := hgrouped.flush o
  have hs : s = step (run step (start batch_size) l) (.flush o) := run_concat step _ l _
  refine ⟨⟨groups', ?_, ?_⟩, ?_, hok.counted, hsize ▸ hok.limited.flushed⟩
  · rw [hs]
    change groups'.flatten = (run step (start batch_size) l).tally.points
    rw [← hpoints, List.append_nil]
  · rw [hs]
    exact hflushed
  · rw [hs]
    exact hbuffer

end Kuavo.InfluxPoints
