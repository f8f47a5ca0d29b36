import Digitizer.Errno
import Digitizer.Notice
import Digitizer.Output.Event

/-!
# Receivers of events

A sink takes events one at a time and may refuse any of them.
-/
namespace Digitizer

/-- What a sink answers to an event. -/
structure Receipt (σ : Type) where
  result : Except Errno Unit
  /-- The sink afterwards. -/
  sink : σ
  /-- What the sink tells the log. -/
  notices : List Notice := []

/-- The states `σ` of a receiver of events. -/
class Sink (σ : Type) where
  /-- Offer an event to the sink. -/
  take : σ → Event → Receipt σ

end Digitizer
