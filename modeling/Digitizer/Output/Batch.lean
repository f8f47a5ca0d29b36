import Digitizer.Output.Sink

/-!
# Batches of events

The virtual input device takes events in batches, one for each frame. A `BatchSink` collects the events of a frame and
writes them when the frame ends. A batch that could not be written is dropped with its frame.
-/
namespace Digitizer

/-- The states `τ` of a device that takes a batch of events completely or not at all. -/
class BatchTarget (τ : Type) where
  /-- Write a batch. -/
  write : τ → List Event → Except Errno Unit × τ

/-- A sink that hands on whole frames. -/
structure BatchSink (τ : Type) where
  target : τ
  /-- The events since the last end of a frame. -/
  batch : List Event := []
  /-- The number of batches written. -/
  written : Nat := 0

namespace BatchSink
variable {τ : Type}

/-- What the log is told after so many written batches. -/
def remarks (written : Nat) : List Notice :=
  if written = 1 then [.firstBatch]
  else if written % 500 = 0 then [.batchesWritten written]
  else []

variable [BatchTarget τ]

/-- Write the batch that an event has completed. -/
def flush (s : BatchSink τ) (batch : List Event) : Receipt (BatchSink τ) :=
  match BatchTarget.write s.target batch with
  | (.error cause, target) => { result := .error cause, sink := { s with target, batch := [] } }
  | (.ok (), target) =>
    { result := .ok ()
      sink := { target, batch := [], written := s.written + 1 }
      notices := remarks (s.written + 1) }

/-- Keep an event for its batch, and write the batch if the event ends a frame. -/
def take (s : BatchSink τ) (e : Event) : Receipt (BatchSink τ) :=
  let batch := s.batch ++ [e]
  if e.isReport then s.flush batch
  else { result := .ok (), sink := { s with batch } }

instance : Sink (BatchSink τ) := ⟨take⟩

end BatchSink

end Digitizer
