import Digitizer.Output.Batch
import Digitizer.Proofs.Output.Reception
import Mathlib.Data.List.Induction
import Mathlib.Data.List.TakeWhile

/-!
# Batches are the frames of the stream

A batch sink hands every frame of the stream of events to its target, in one write and in order, and drops it whatever the
target answers. Every event that ends a frame ends one, so there is only one way to cut a stream into frames and a rest
(`Cut.unique`).
-/
namespace Digitizer

/-! ## Frames of a stream -/

/-- Events of which only the last one ends a frame. -/
def IsFrame (frame : List Event) : Prop :=
  ∃ body last, frame = body ++ [last] ∧ (∀ e ∈ body, e.isReport = false) ∧ last.isReport = true

/-- A stream is cut into frames and a rest in which no frame ends. -/
structure Cut (events : List Event) (frames : List (List Event)) (rest : List Event) : Prop where
  joined : frames.flatten ++ rest = events
  closed : ∀ frame ∈ frames, IsFrame frame
  unfinished : ∀ e ∈ rest, e.isReport = false

namespace Cut
variable {events rest rest' : List Event} {frames frames' : List (List Event)} {e : Event}

theorem of_unfinished (h : ∀ e ∈ events, e.isReport = false) : Cut events [] events where
  joined := rfl
  closed := fun _ hframe => absurd hframe List.not_mem_nil
  unfinished := h

/-- An event that ends no frame goes to the rest. -/
theorem extend (h : Cut events frames rest) (he : e.isReport = false) : Cut (events ++ [e]) frames (rest ++ [e]) where
  joined := by rw [← List.append_assoc, h.joined]
  closed := h.closed
  unfinished := by
    intro x hx
    rcases List.mem_append.1 hx with hx | hx
    · exact h.unfinished x hx
    · rw [List.mem_singleton.1 hx]
      exact he

/-- An event that ends a frame makes a frame of the rest. -/
theorem close (h : Cut events frames rest) (he : e.isReport = true) :
    Cut (events ++ [e]) (frames ++ [rest ++ [e]]) [] where
  joined := by simp [← h.joined]
  closed := by
    intro frame hframe
    rcases List.mem_append.1 hframe with hframe | hframe
    · exact h.closed frame hframe
    · exact ⟨rest, e, List.mem_singleton.1 hframe, h.unfinished, he⟩
  unfinished := fun _ hx => absurd hx List.not_mem_nil

/-- The first frame reaches as far as the first event that ends one. -/
theorem of_cons {frame : List Event} (h : Cut events (frame :: frames) rest) :
    ∃ last tail, frame = events.takeWhile (!·.isReport) ++ [last] ∧
      events.dropWhile (!·.isReport) = last :: tail ∧ Cut tail frames rest := by
  obtain ⟨body, last, rfl, hbody, hlast⟩ := h.closed _ List.mem_cons_self
  have hevents : events = body ++ last :: (frames.flatten ++ rest) := by simp [← h.joined]
  have hkeep : ∀ e ∈ body, (!e.isReport) = true := fun e he => by simp [hbody e he]
  have htake : events.takeWhile (!·.isReport) = body := by
    rw [hevents, List.takeWhile_append_of_pos hkeep]
    simp [hlast]
  have hdrop : events.dropWhile (!·.isReport) = last :: (frames.flatten ++ rest) := by
    rw [hevents, List.dropWhile_append_of_pos hkeep]
    simp [hlast]
  refine ⟨last, frames.flatten ++ rest, by rw [htake], hdrop, rfl, ?_, h.unfinished⟩
  exact fun frame hframe => h.closed frame (List.mem_cons_of_mem _ hframe)

theorem of_nil (h : Cut events [] rest) : rest = events ∧ events.dropWhile (!·.isReport) = [] := by
  obtain rfl : rest = events := h.joined
  refine ⟨rfl, List.dropWhile_eq_nil_iff.2 fun e he => ?_⟩
  simp [h.unfinished e he]

/-- There is only one way to cut a stream. -/
theorem unique (h : Cut events frames rest) (h' : Cut events frames' rest') : frames = frames' ∧ rest = rest' := by
  induction frames generalizing events frames' with
  | nil =>
    obtain ⟨rfl, hnone⟩ := h.of_nil
    cases frames' with
    | nil => exact ⟨rfl, h'.of_nil.1.symm⟩
    | cons frame' frames' =>
      obtain ⟨last, tail, -, hsome, -⟩ := h'.of_cons
      exact absurd (hnone.symm.trans hsome) (by simp)
  | cons frame frames ih =>
    obtain ⟨last, tail, rfl, hdrop, htail⟩ := h.of_cons
    cases frames' with
    | nil => exact absurd (h'.of_nil.2.symm.trans hdrop) (by simp)
    | cons frame' frames' =>
      obtain ⟨last', tail', rfl, hdrop', htail'⟩ := h'.of_cons
      obtain ⟨rfl, rfl⟩ := List.cons.inj (hdrop.symm.trans hdrop')
      obtain ⟨rfl, hrest⟩ := ih htail htail'
      exact ⟨rfl, hrest⟩

end Cut

/-! ## A record of the writes -/

/-- A target with a record of the batches that it was handed, each with its answer. -/
structure Recorded (τ : Type) where
  target : τ
  writes : List (List Event × Except Errno Unit) := []

namespace Recorded
variable {τ : Type}

/-- The batches that the target was handed. -/
def batches (r : Recorded τ) : List (List Event) := r.writes.map Prod.fst

instance [BatchTarget τ] : BatchTarget (Recorded τ) where
  write r batch :=
    let (answer, target) := BatchTarget.write r.target batch
    (answer, { target, writes := r.writes ++ [(batch, answer)] })

end Recorded

namespace BatchSink
variable {τ : Type}

/-- The sink without the record of its target. -/
def plain (s : BatchSink (Recorded τ)) : BatchSink τ := { target := s.target.target, batch := s.batch, written := s.written }

variable [BatchTarget τ]

/-- The record changes nothing. -/
theorem take_plain (s : BatchSink (Recorded τ)) (e : Event) :
    Sink.take s.plain e =
      { result := (Sink.take s e).result
        sink := (Sink.take s e).sink.plain
        notices := (Sink.take s e).notices } := by
  change take s.plain e = ⟨(take s e).result, (take s e).sink.plain, (take s e).notices⟩
  by_cases he : e.isReport = true
  · have hwrite : BatchTarget.write s.target (s.batch ++ [e]) =
        ((BatchTarget.write s.target.target (s.batch ++ [e])).1,
          { target := (BatchTarget.write s.target.target (s.batch ++ [e])).2
            writes := s.target.writes ++
              [(s.batch ++ [e], (BatchTarget.write s.target.target (s.batch ++ [e])).1)] }) := rfl
    simp only [take, he, if_true, flush, plain, hwrite]
    rcases BatchTarget.write s.target.target (s.batch ++ [e]) with ⟨answer, target⟩
    cases answer <;> rfl
  · simp [take, he, plain]

theorem offered_plain (s : BatchSink (Recorded τ)) (events : List Event) :
    Sink.offered s.plain events = (Sink.offered s events).plain := by
  induction events generalizing s with
  | nil => rfl
  | cons e es ih =>
    have hnext : (Sink.take s.plain e).sink = (Sink.take s e).sink.plain := by rw [take_plain]
    have hrest := ih (Sink.take s e).sink
    rw [← hnext] at hrest
    exact hrest

/-! ## One event -/

/-- An event that ends no frame is kept for its batch. -/
theorem take_of_unfinished (s : BatchSink τ) {e : Event} (he : e.isReport = false) :
    Sink.take s e = { result := .ok (), sink := { s with batch := s.batch ++ [e] } } := by
  change take s e = _
  simp [take, he]

/-- An event that ends a frame is handed over with its batch, and the batch is dropped whatever the answer. -/
theorem take_of_report (s : BatchSink (Recorded τ)) {e : Event} (he : e.isReport = true) :
    (Sink.take s e).sink.batch = [] ∧
      (Sink.take s e).sink.target.writes = s.target.writes ++ [(s.batch ++ [e], (Sink.take s e).result)] := by
  have htake : Sink.take s e = s.flush (s.batch ++ [e]) := if_pos he
  have hwrites : (BatchTarget.write s.target (s.batch ++ [e])).2.writes =
      s.target.writes ++ [(s.batch ++ [e], (BatchTarget.write s.target (s.batch ++ [e])).1)] := rfl
  rw [htake, flush]
  revert hwrites
  rcases BatchTarget.write s.target (s.batch ++ [e]) with ⟨answer, target⟩
  intro hwrites
  cases answer with
  | error cause => exact ⟨rfl, hwrites⟩
  | ok a => exact ⟨rfl, hwrites⟩

/-- What is handed over with an event, and what is kept after it. -/
theorem writes_take (s : BatchSink (Recorded τ)) (e : Event) :
    (Sink.take s e).sink.target.writes =
        s.target.writes ++ (if e.isReport then [(s.batch ++ [e], (Sink.take s e).result)] else []) ∧
      (Sink.take s e).sink.batch = if e.isReport then [] else s.batch ++ [e] := by
  by_cases he : e.isReport = true
  · rw [if_pos he, if_pos he]
    exact (take_of_report s he).symm
  · rw [if_neg he, if_neg he, take_of_unfinished s (Bool.not_eq_true _ ▸ he)]
    exact ⟨(List.append_nil _).symm, rfl⟩

/-- An event is refused exactly if it ends a frame and the write of this frame fails. -/
theorem refused_iff (s : BatchSink (Recorded τ)) (e : Event) (cause : Errno) :
    (Sink.take s e).result = .error cause ↔
      e.isReport = true ∧
        (Sink.take s e).sink.target.writes = s.target.writes ++ [(s.batch ++ [e], .error cause)] := by
  by_cases he : e.isReport = true
  · rw [(take_of_report s he).2, List.append_cancel_left_eq]
    simp [he]
  · rw [take_of_unfinished s (Bool.not_eq_true _ ▸ he)]
    simp [he]

/-! ## A stream of events -/

/-- What a sink hands over while it is offered events are the frames of its batch and these events, and the rest is kept. -/
theorem cut_offered {s : BatchSink (Recorded τ)} (unfinished : ∀ e ∈ s.batch, e.isReport = false) (events : List Event) :
    ∃ writes, (Sink.offered s events).target.writes = s.target.writes ++ writes ∧
      Cut (s.batch ++ events) (writes.map Prod.fst) (Sink.offered s events).batch := by
  induction events using List.reverseRecOn with
  | nil =>
    refine ⟨[], (List.append_nil _).symm, ?_⟩
    rw [List.append_nil]
    exact .of_unfinished unfinished
  | append_singleton events e ih =>
    obtain ⟨writes, hwrites, hcut⟩ := ih
    have hlast : Sink.offered s (events ++ [e]) = (Sink.take (Sink.offered s events) e).sink := by
      simp [Sink.offered]
    obtain ⟨hnext, hbatch⟩ := writes_take (Sink.offered s events) e
    rw [hlast, hnext, hbatch, hwrites, List.append_assoc, ← List.append_assoc s.batch]
    refine ⟨_, rfl, ?_⟩
    by_cases he : e.isReport = true
    · simp only [he, if_true, List.map_append]
      exact hcut.close he
    · simp only [he, Bool.false_eq_true, if_false, List.append_nil]
      exact hcut.extend (Bool.not_eq_true _ ▸ he)

/--
A sink that is offered any events, a call for each of them and `Event.report` for the end of a frame, has handed its target the
frames of the stream, and its batch is the rest. Offered one more event, it makes a write only if that ends a frame, with all
that it has kept, and then keeps nothing, and it refuses the event exactly if this write fails. What it hands over later are the
frames of what it has kept and of later events. None of this is due to the record of the writes.
-/
theorem frames_handed_over_once (target : τ) (events : List Event) (e : Event) (later : List Event) :
    let fresh : BatchSink (Recorded τ) := { target := { target } }
    let s := Sink.offered fresh events
    let receipt := Sink.take s e
    (∀ frames rest, Cut events frames rest ↔ s.target.batches = frames ∧ s.batch = rest) ∧
    receipt.sink.target.writes =
      s.target.writes ++ (if e.isReport then [(s.batch ++ [e], receipt.result)] else []) ∧
    receipt.sink.batch = (if e.isReport then [] else s.batch ++ [e]) ∧
    (∀ cause, receipt.result = .error cause ↔
      e.isReport = true ∧ receipt.sink.target.writes = s.target.writes ++ [(s.batch ++ [e], .error cause)]) ∧
    (∃ writes, (Sink.offered fresh (events ++ later)).target.writes = s.target.writes ++ writes ∧
      Cut (s.batch ++ later) (writes.map Prod.fst) (Sink.offered fresh (events ++ later)).batch) ∧
    Sink.take (Sink.offered ({ target } : BatchSink τ) events) e =
      { result := receipt.result, sink := receipt.sink.plain, notices := receipt.notices } := by
  intro fresh s receipt
  obtain ⟨writes, hwrites, hcut⟩ := cut_offered (s := fresh) (fun _ hx => absurd hx List.not_mem_nil) events
  have hbatches : s.target.batches = writes.map Prod.fst := congrArg (List.map Prod.fst) hwrites
  have hcut : Cut events s.target.batches s.batch := hbatches ▸ hcut
  obtain ⟨hnext, hbatch⟩ := writes_take s e
  refine ⟨fun frames rest => ⟨fun h => hcut.unique h, ?_⟩, hnext, hbatch, refused_iff s e, ?_, ?_⟩
  · rintro ⟨rfl, rfl⟩
    exact hcut
  · have happend : Sink.offered fresh (events ++ later) = Sink.offered s later := List.foldl_append
    rw [happend]
    exact cut_offered hcut.unfinished later
  · have hplain : Sink.offered ({ target } : BatchSink τ) events = s.plain := offered_plain fresh events
    rw [hplain]
    exact take_plain s e

end BatchSink
end Digitizer
