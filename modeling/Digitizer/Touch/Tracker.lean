import Digitizer.Contact
import Digitizer.IndexSet

/-!
# Which contacts are gone

The tracker remembers the tracking indices of the last two frames, and which of them are gone. Only presence counts: a contact
that became invalid or unstable is still there. The three sets are made once; every frame swaps two of them and fills them
again (`advance_eq` says what comes of it).
-/
namespace Digitizer

/-- The indices that occur in a frame. -/
def indices (frame : List Contact) : IndexSet := IndexSet.ofList (frame.filterMap (·.index))

@[simp] theorem mem_indices {i : Nat} {frame : List Contact} :
    i ∈ indices frame ↔ ∃ c ∈ frame, c.index = some i := by
  simp [indices]

/-- The indices of the current and of the previous frame. -/
structure Tracker where
  current : IndexSet := ∅
  previous : IndexSet := ∅
  /-- The indices that were in the previous frame and are no longer in the current one. -/
  gone : IndexSet := ∅
  deriving DecidableEq

namespace Tracker

/-- Let the current frame be the previous one. What was the previous one is still to be replaced. -/
def swap (t : Tracker) : Tracker := { t with current := t.previous, previous := t.current }

/-- Fill the set of the current frame again. -/
def fill (t : Tracker) (frame : List Contact) : Tracker :=
  { t with current := t.current.clear.extend (frame.filterMap (·.index)) }

/-- Fill the set of what is gone again. -/
def compare (t : Tracker) : Tracker := { t with gone := t.gone.clear.extend (t.previous \ t.current).toList }

/-- Advance by one frame. -/
def advance (t : Tracker) (frame : List Contact) : Tracker := (t.swap.fill frame).compare

/-- Forget all frames. -/
def clear (t : Tracker) : Tracker where
  current := t.current.clear
  previous := t.previous.clear
  gone := t.gone.clear

/-- Every index that may still be down at the receiver of the events. -/
def remembered (t : Tracker) : IndexSet := t.current ∪ t.previous

/-- Of what the sets held before, nothing is left but the current frame. -/
theorem advance_eq (t : Tracker) (frame : List Contact) :
    t.advance frame =
      { current := indices frame, previous := t.current, gone := t.current \ indices frame } := by
  simp only [advance, swap, fill, compare, IndexSet.extend_clear, IndexSet.ofList_toList, indices]

/-- A frame matters through its indices only. -/
theorem advance_congr (t : Tracker) {frame frame' : List Contact} (h : indices frame = indices frame') :
    t.advance frame = t.advance frame' := by
  rw [advance_eq, advance_eq, h]

@[simp] theorem current_advance (t : Tracker) (frame : List Contact) : (t.advance frame).current = indices frame := by
  rw [advance_eq]

@[simp] theorem previous_advance (t : Tracker) (frame : List Contact) : (t.advance frame).previous = t.current := rfl

@[simp] theorem mem_gone_advance {i : Nat} {t : Tracker} {frame : List Contact} :
    i ∈ (t.advance frame).gone ↔ i ∈ t.current ∧ i ∉ indices frame := by
  rw [advance_eq, IndexSet.mem_sdiff]

@[simp] theorem clear_eq (t : Tracker) : t.clear = {} := rfl

@[simp] theorem mem_remembered {i : Nat} {t : Tracker} : i ∈ t.remembered ↔ i ∈ t.current ∨ i ∈ t.previous := by
  simp [remembered]

theorem mem_remembered_advance {i : Nat} {t : Tracker} {frame : List Contact} :
    i ∈ (t.advance frame).remembered ↔ i ∈ indices frame ∨ i ∈ t.current := by
  rw [mem_remembered, current_advance, previous_advance]

/-- What is gone is not in the frame. -/
theorem not_mem_gone_advance (t : Tracker) {i : Nat} {frame : List Contact} (h : ∃ c ∈ frame, c.index = some i) :
    i ∉ (t.advance frame).gone :=
  fun hgone => (mem_gone_advance.1 hgone).2 (mem_indices.2 h)

end Tracker

end Digitizer
