import Digitizer.Action
import Digitizer.IndexSet

/-!
# The contact behind the pointer

Programs that know nothing of multitouch see a pointer that follows one contact. The selector holds on to a contact until it
goes away. It then picks a successor at once but reports it only from the next frame on, so no frame releases one contact
and presses another.
-/
namespace Digitizer

/-- What the pointer does in a frame. -/
inductive Pointer where
  /-- It is down on a contact. -/
  | down (contact : Contact)
  /-- It stays as it is, because its contact is unstable. -/
  | hold
  /-- It is up. -/
  | up
  deriving BEq, Repr

/-- The tracking index that the pointer follows. -/
structure Selector where
  index : Nat := 0
  deriving DecidableEq, Repr

namespace Selector

/-- The contact that the pointer follows: the first one with the selected index, if it is valid. -/
def followed? (s : Selector) (frame : List Contact) : Option Contact :=
  (frame.find? (·.index == some s.index)).filter Contact.isValid

/-- The index that the pointer will follow next: that of the first valid contact with another index. -/
def successor? (s : Selector) (frame : List Contact) : Option Nat :=
  frame.findSome? fun c => c.index.filter fun i => i != s.index && c.isValid

/--
What the pointer does in a frame, and the selector afterwards. A contact that was lifted is not followed even if it is in the
frame again; while disabled the pointer is up and the selector stays.
-/
def select (s : Selector) (frame : List Contact) (lifted : IndexSet) (enabled : Bool) : Pointer × Selector :=
  if !enabled then (.up, s)
  else
    match if s.index ∈ lifted then none else s.followed? frame with
    | some c => (if c.isStable then .down c else .hold, s)
    | none => (.up, ⟨(s.successor? frame).getD s.index⟩)

/-- Select what the pointer does in a frame, and tell the log if it will follow another contact. -/
def choose {ε : Type} (frame : List Contact) (lifted : IndexSet) (enabled : Bool) :
    Action Selector ε Pointer := fun s =>
  let (pointer, next) := s.select frame lifted enabled
  ⟨.ok pointer, next, if next.index = s.index then [] else [.notice (.pointerMoved s.index next.index)]⟩

end Selector

end Digitizer
