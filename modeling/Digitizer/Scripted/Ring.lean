import Digitizer.Ring.Basic

/-!
# A controller that follows a script

`ScriptedRing` stands in for a controller. Its script says what it answers to probes and doorbell calls, which frames it
has, and which calls it refuses.
-/
namespace Digitizer

/-- Answers to use up one by one, and the answer after them. -/
structure Script (α : Type) where
  queue : List α := []
  final : α
  deriving DecidableEq, Repr

/-- The next answer, and the script afterwards. -/
def Script.next {α : Type} (s : Script α) : α × Script α :=
  match s.queue with
  | [] => (s.final, s)
  | a :: queue => (a, { s with queue })

/-- A script of refusals: 0 stands for a call that is served. -/
abbrev Refusals := Script Nat

/-- Nothing is refused. -/
def Refusals.none : Refusals := { final := 0 }

/-- The state of a scripted controller. -/
structure ScriptedRing where
  ready : Script Bool := { final := true }
  doorbell : UInt32 := 0
  /-- Values that the doorbell takes before it is read. -/
  doorbellQueue : List UInt32 := []
  info : ControllerInfo := {}
  /-- Frames to be read; without one a read delivers nothing. -/
  frames : List Bytes := []
  infoRefusals : Refusals := .none
  doorbellRefusals : Refusals := .none
  feedbackRefusals : Refusals := .none
  resetRefusals : Refusals := .none
  readRefusals : Refusals := .none
  deriving DecidableEq, Repr

namespace ScriptedRing

/-- Refuse a call with the given number, or serve it if the number is 0. -/
def unlessRefused {α : Type} (number : Nat) (refused : ScriptedRing) (served : α × ScriptedRing) :
    Except Errno α × ScriptedRing :=
  if number = 0 then (.ok served.1, served.2) else (.error ⟨number⟩, refused)

/-- Serve a call on the controller. A refused call changes nothing but the script of refusals. -/
instance : Ring ScriptedRing where
  ready d _ :=
    let (answer, ready) := d.ready.next
    (answer, { d with ready })
  info d _ :=
    let (number, infoRefusals) := d.infoRefusals.next
    let d := { d with infoRefusals }
    unlessRefused number d (d.info, d)
  doorbell d _ :=
    let (number, doorbellRefusals) := d.doorbellRefusals.next
    let d := { d with doorbellRefusals }
    let doorbell := d.doorbellQueue.headD d.doorbell
    unlessRefused number d (doorbell, { d with doorbell, doorbellQueue := d.doorbellQueue.tail })
  feedback d _ :=
    let (number, feedbackRefusals) := d.feedbackRefusals.next
    let d := { d with feedbackRefusals }
    unlessRefused number d ((), d)
  reset d _ :=
    let (number, resetRefusals) := d.resetRefusals.next
    let d := { d with resetRefusals }
    unlessRefused number d ((), d)
  read d _ room :=
    let (number, readRefusals) := d.readRefusals.next
    let d := { d with readRefusals }
    unlessRefused number d ((d.frames.headD []).take room, { d with frames := d.frames.tail })

end ScriptedRing

end Digitizer
