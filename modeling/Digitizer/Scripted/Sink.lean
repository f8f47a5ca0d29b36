import Digitizer.Output.Batch

/-!
# Sinks that fail on demand

Stand-ins for the virtual input device. `ScriptedSink` refuses a run of events, `EventFile` takes batches of events unless
it is broken, and `ListedTarget` answers to batches as it is told.
-/
namespace Digitizer

/-- A sink that takes some events, then refuses some, and then takes all. -/
structure ScriptedSink where
  /-- How many events are taken first. -/
  taken : Nat := 0
  /-- How many events are refused after that. -/
  refused : Nat := 0
  cause : Errno := Errno.inputOutput
  deriving DecidableEq, Repr

/-- Take or refuse an event as the script says. -/
def ScriptedSink.take (s : ScriptedSink) (_ : Event) : Receipt ScriptedSink :=
  match s.taken, s.refused with
  | taken + 1, _ => { result := .ok (), sink := { s with taken } }
  | 0, refused + 1 => { result := .error s.cause, sink := { s with refused } }
  | 0, 0 => { result := .ok (), sink := s }

instance : Sink ScriptedSink := ⟨ScriptedSink.take⟩

/-- A file that records batches, each closed by an end of frame of its own. -/
structure EventFile where
  /-- Whether writes fail for lack of space. -/
  full : Bool := false
  contents : List Event := []
  deriving DecidableEq, Repr

/-- Append a batch. -/
def EventFile.write (f : EventFile) (batch : List Event) : Except Errno Unit × EventFile :=
  if f.full then (.error Errno.noSpace, f)
  else (.ok (), { f with contents := f.contents ++ batch ++ [Event.report] })

instance : BatchTarget EventFile := ⟨EventFile.write⟩

/-- A target that answers to the first batches as listed, and takes all later ones. -/
structure ListedTarget where
  answers : List (Except Errno Unit) := []

/-- Give the next answer. -/
def ListedTarget.write (t : ListedTarget) (_ : List Event) : Except Errno Unit × ListedTarget :=
  (t.answers.headD (.ok ()), { answers := t.answers.tail })

instance : BatchTarget ListedTarget := ⟨ListedTarget.write⟩

end Digitizer
