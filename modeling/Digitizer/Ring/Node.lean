import Digitizer.Files.Basic
import Digitizer.Numeric.Hex
import Digitizer.Ring.Transport

/-!
# Buffer nodes

A real ring consists of numbered nodes in a directory. Frames are read from a node like from a file; everything else is a
request to the kernel driver behind it. A node without such a driver refuses every request.
-/
namespace Digitizer

/-- The requests to the kernel driver. -/
inductive NodeRequest where
  | ready
  | info
  | doorbell
  | feedback
  | reset
  deriving DecidableEq, Repr

namespace NodeRequest

/-- The ordinal of a request in the driver's interface. -/
def ordinal : NodeRequest → Nat
  | ready => 1
  | info => 2
  | doorbell => 3
  | feedback => 4
  | reset => 5

/-- The size of the answer in bytes. -/
def answerSize : NodeRequest → Nat
  | ready => 1
  | info => ControllerInfo.byteSize
  | doorbell => 4
  | feedback | reset => 0

/--
The number of a request: two bits that say that an answer is read, fourteen bits for its size, a byte that names the
interface, and the ordinal.
-/
def number (r : NodeRequest) : Nat :=
  (if r.answerSize = 0 then 0 else 2) <<< 30 + r.answerSize <<< 16 + 0x86 <<< 8 + r.ordinal

/-- The number of a request as it is written down. -/
def text (r : NodeRequest) : String := "0x" ++ Numeric.hex 8 r.number

end NodeRequest

/-- What a request is answered with. -/
def NodeRequest.Answer : NodeRequest → Type
  | ready => UInt8
  | info => ControllerInfo
  | doorbell => UInt32
  | feedback | reset => Unit

/-- The request that a call on the ring makes of a node. Reading makes none. -/
def Call.request? : Call → Option NodeRequest
  | ready _ => some .ready
  | info _ => some .info
  | doorbell _ => some .doorbell
  | feedback _ => some .feedback
  | reset _ => some .reset
  | read .. => none

/-- An open node. -/
structure Node where
  path : String
  handle : Handle
  deriving DecidableEq, Repr

/-- Opening a node has failed. -/
structure NodeFault where
  path : String
  cause : Errno
  deriving DecidableEq, Repr

/-- The wording shown to users. -/
def NodeFault.message (f : NodeFault) : String := s!"failed to open {f.path}: {f.cause.message}"

/-- Open a node. -/
def Node.openAt (files : FileSystem) (path : String) : Except NodeFault Node :=
  match files.openPath path with
  | .ok handle => .ok ⟨path, handle⟩
  | .error cause => .error ⟨path, cause⟩

/-- The path of the node with a given number. -/
def Node.pathOf (directory : String) (slot : Nat) : String := joinPath directory (toString slot)

/-- Open the nodes `0` to `n - 1` of a directory, up to the first that cannot be opened. -/
def Node.openRing (files : FileSystem) (directory : String) (n : Nat) : Except NodeFault (List Node) :=
  (List.range n).mapM fun slot => Node.openAt files (Node.pathOf directory slot)

/--
The states `κ` of a kernel with drivers behind the nodes. A request is made of an open node. It may change the kernel and be
refused.
-/
class Kernel (κ : Type) where
  serve : κ → Node → (r : NodeRequest) → Except Errno r.Answer × κ

/-- A kernel driver that gives the same answers on every node. -/
structure NodeDriver where
  /-- Any number above 0 means ready. -/
  ready : UInt8 := 0
  doorbell : UInt32 := 0
  info : ControllerInfo := {}
  /-- The requests that are refused. -/
  refusal? : NodeRequest → Option Errno := fun _ => none

namespace NodeDriver

/-- The answer to a request that is not refused. -/
def answer (d : NodeDriver) : (r : NodeRequest) → r.Answer
  | .ready => d.ready
  | .info => d.info
  | .doorbell => d.doorbell
  | .feedback | .reset => ()

/-- Make a request of a node, behind which there may be a driver. -/
def serve (driver : Option NodeDriver) (r : NodeRequest) : Except Errno r.Answer :=
  match driver with
  | none => .error Errno.notTerminal
  | some driver =>
    match driver.refusal? r with
    | some cause => .error cause
    | none => .ok (driver.answer r)

end NodeDriver

instance : Kernel (Option NodeDriver) where
  serve driver _ r := (NodeDriver.serve driver r, driver)

/-- A ring of open nodes, slot `i` being the node at place `i`, and the kernel behind them. -/
structure NodeRing (κ : Type := Option NodeDriver) where
  driver : κ
  nodes : List Node := []

section
variable {κ : Type} [Kernel κ]

/-- Make a request of the node in a slot. -/
def NodeRing.request (ring : NodeRing κ) (slot : Nat) (r : NodeRequest) : Except Errno r.Answer × NodeRing κ :=
  match ring.nodes[slot]? with
  | none => (.error Errno.badDescriptor, ring)
  | some node =>
    let (answer, driver) := Kernel.serve ring.driver node r
    (answer, { ring with driver })

instance : Ring (NodeRing κ) where
  ready ring slot :=
    match ring.request slot .ready with
    | (.ok (answer : UInt8), ring) => (decide (0 < answer), ring)
    | (.error _, ring) => (false, ring)
  info ring slot := ring.request slot .info
  doorbell ring slot := ring.request slot .doorbell
  feedback ring slot := ring.request slot .feedback
  reset ring slot := ring.request slot .reset
  read ring slot room :=
    match ring.nodes[slot]? with
    | none => (.error Errno.badDescriptor, ring)
    | some node =>
      let (answer, handle) := node.handle.read room
      (answer, { ring with nodes := ring.nodes.set slot { node with handle } })

end

/-- Why a ring could not be taken into service. -/
inductive OpenError where
  | node (fault : NodeFault)
  | transport (e : TransportError)
  deriving DecidableEq, Repr

/-- The wording shown to users. -/
def OpenError.message : OpenError → String
  | node fault => fault.message
  | transport e => e.message

/--
Open all nodes of a directory, and only then take the ring into service, as a new transport that waits as usual. Of the state
before only the kernel matters.
-/
def Transport.openDirectory {n : Nat} {κ : Type} [Kernel κ] (files : FileSystem) (directory : String) :
    Action (Transport n (NodeRing κ)) OpenError Unit := do
  let nodes ← Action.mapError OpenError.node (Action.ofExcept (Node.openRing files directory n))
  Action.each (fun node => Action.notify (.nodeOpened node.path)) nodes
  Action.notify (.ringOpened n directory)
  Action.modify fun c => { ring := { c.ring with nodes } }
  Action.mapError OpenError.transport Transport.start

end Digitizer
