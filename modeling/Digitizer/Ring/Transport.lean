import Digitizer.Action
import Digitizer.Ring.Basic

/-!
# Talking to the controller

`Transport` keeps the number of the next frame to read, its doorbell. Frame number `d` is in slot `d` modulo the depth of the
ring. A hardware doorbell below the local one means that the controller has started over: every buffer is given back, and
counting goes on from the hardware value.

Before every command the current slot is asked, a bounded number of times, whether the controller is ready.
-/
namespace Digitizer

/-- The commands that the ring can refuse. -/
inductive Command where
  | info
  | doorbell
  | feedback
  | reset
  | read
  deriving DecidableEq, Repr

/-- The name of a command in messages. -/
def Command.text : Command → String
  | info => "GET_DEVICE_INFO"
  | doorbell => "GET_DOORBELL"
  | feedback => "SEND_FEEDBACK"
  | reset => "SEND_RESET"
  | read => "READ"

/-- The name of a command in diagnostic output. -/
def Command.name : Command → String
  | info => "GetDeviceInfo"
  | doorbell => "GetDoorbell"
  | feedback => "SendFeedback"
  | reset => "SendReset"
  | read => "Read"

/-- A command that the ring has refused. -/
structure TransportError where
  command : Command
  cause : Errno
  deriving DecidableEq, Repr

/-- The wording shown to users. -/
def TransportError.message (e : TransportError) : String := s!"{e.command.text} failed: {e.cause.message}"

/-- The transport over a ring of `n` buffers. -/
structure Transport (n : Nat) (ρ : Type) where
  ring : ρ
  policy : ProbePolicy := {}
  info : ControllerInfo := {}
  /-- The number of the next frame to read. -/
  doorbell : UInt32 := 0

namespace Transport
variable {n : Nat} {ρ ε α : Type}

/-- The slot of the next frame to read. -/
def slot (t : Transport n ρ) : Nat := t.doorbell.toNat % n

variable [Ring ρ]

/-- Ask the current slot once whether the controller is ready. -/
def probe : Action (Transport n ρ) ε Bool := fun t =>
  let (answer, ring) := Ring.ready t.ring t.slot
  ⟨.ok answer, { t with ring }, [.call t.slot (.ready answer)]⟩

/-- Ask until the controller is ready, at most so many times. -/
def probeUpTo : Nat → Action (Transport n ρ) ε Bool
  | 0 => pure false
  | attempts + 1 => do
    let ready ← probe
    if ready then pure true else probeUpTo attempts

/-- Wait for the controller as the policy says. If it does not become ready, go on anyway. -/
def awaitReady : Action (Transport n ρ) ε Unit := do
  let t ← Action.get
  let ready ← probeUpTo t.policy.attempts
  if ready then pure () else Action.notify (.notReady t.policy.attempts)

omit [Ring ρ] in
/-- Issue a command on a slot, and keep the call in the journal. -/
def issue (command : Command) (slot : Nat) (call : ρ → Except Errno α × ρ) (record : Except Errno α → Call) :
    Action (Transport n ρ) TransportError α := fun t =>
  let (answer, ring) := call t.ring
  ⟨answer.mapError (⟨command, ·⟩), { t with ring }, [.call slot (record answer)]⟩

/-- Give one buffer back. -/
def giveBack (slot : Nat) : Action (Transport n ρ) TransportError Unit := do
  awaitReady
  issue .feedback slot (Ring.feedback · slot) .feedback

/-- Give every buffer back, in the order of the slots. -/
def returnAll : Action (Transport n ρ) TransportError Unit := Action.each giveBack (List.range n)

/-- Ask for the hardware doorbell. -/
def queryDoorbell : Action (Transport n ρ) TransportError UInt32 := do
  awaitReady
  let t ← Action.get
  issue .doorbell t.slot (Ring.doorbell · t.slot) .doorbell

/-- Follow a controller that counts from an earlier number. -/
def resynchronise (found : UInt32) : Action (Transport n ρ) TransportError Unit := do
  let t ← Action.get
  Action.notify (.doorbellRegressed t.doorbell found)
  returnAll
  Action.modify fun t => { t with doorbell := found }

/-- Ask for the hardware doorbell, and follow the controller if it has started over. -/
def pollDoorbell : Action (Transport n ρ) TransportError UInt32 := do
  let found ← queryDoorbell
  let t ← Action.get
  if found < t.doorbell then
    resynchronise found
    pure found
  else pure found

/-- Read the next frame into memory with so much room. The doorbell stays. -/
def read (room : Nat) : Action (Transport n ρ) TransportError Bytes := do
  awaitReady
  let t ← Action.get
  issue .read t.slot (Ring.read · t.slot room) (.read room)

/-- Give the current buffer back and move on to the next frame. -/
def acknowledge : Action (Transport n ρ) TransportError Unit := do
  let t ← Action.get
  giveBack t.slot
  Action.modify fun t => { t with doorbell := t.doorbell + 1 }

/-- Ask the controller to start over. -/
def reset : Action (Transport n ρ) TransportError Unit := do
  awaitReady
  Action.notify .resetting
  let t ← Action.get
  issue .reset t.slot (Ring.reset · t.slot) .reset

/-- Ask for the properties of the controller. -/
def queryInfo : Action (Transport n ρ) TransportError ControllerInfo := do
  awaitReady
  let t ← Action.get
  issue .info t.slot (Ring.info · t.slot) .info

/-- Take over a ring: give all buffers back, ask for the properties, and start counting at the hardware doorbell. -/
def start : Action (Transport n ρ) TransportError Unit := do
  returnAll
  let info ← queryInfo
  Action.modify fun t => { t with info }
  Action.notify (.connected info)
  let found ← pollDoorbell
  Action.modify fun t => { t with doorbell := found }

/-- What can be asked of the transport. -/
inductive Request where
  | doorbell
  | read (room : Nat)
  | feedback
  | reset

/-- What the transport answers. -/
inductive Answer where
  | doorbell (found : UInt32)
  | read (frame : Bytes)
  | done

/-- Serve one request. -/
def serve : Request → Action (Transport n ρ) TransportError Answer
  | .doorbell => do return .doorbell (← pollDoorbell)
  | .read room => do return .read (← read room)
  | .feedback => do acknowledge; return .done
  | .reset => do reset; return .done

end Transport

end Digitizer
