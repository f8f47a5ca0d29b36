import Digitizer.Proofs.Touch.PointerIsolation

/-!
# The pointer finds a contact

A selector whose contact is not in a frame, or not valid there, goes over to a valid contact of that frame. So after any frame
with a valid contact the selector holds the index of one (`index_select_mem`), whatever it held before. If that contact goes on
into the next frame, the pointer is on it there (`pointer_down_within_two_frames`).
-/
namespace Digitizer

/-- The indices of the valid contacts of a frame, in the order of the frame. -/
def validIndices (frame : List Contact) : List Nat := (frame.filter Contact.isValid).filterMap (·.index)

theorem mem_validIndices {i : Nat} {frame : List Contact} :
    i ∈ validIndices frame ↔ ∃ c ∈ frame, c.isValid = true ∧ c.index = some i := by
  simp [validIndices, and_assoc]

/-- In a frame without repetitions the first contact with an index is the only one. -/
theorem Contact.Distinct.find?_index {frame : List Contact} (h : Contact.Distinct frame) {c : Contact} (hc : c ∈ frame)
    {i : Nat} (hi : c.index = some i) : frame.find? (·.index == some i) = some c := by
  rw [← List.head?_filter, h.filter_index hc hi, List.head?_cons]

namespace Selector

/-- A successor is the index of a valid contact. -/
theorem mem_of_successor? {s : Selector} {frame : List Contact} {i : Nat} (h : s.successor? frame = some i) :
    i ∈ validIndices frame := by
  obtain ⟨c, hc, hi⟩ := List.exists_of_findSome?_eq_some h
  obtain ⟨hindex, hchosen⟩ := Option.filter_eq_some_iff.1 hi
  rw [Bool.and_eq_true] at hchosen
  exact mem_validIndices.2 ⟨c, hc, hchosen.2, hindex⟩

/-- A valid contact with another index is enough for a successor. -/
theorem exists_successor? {s : Selector} {frame : List Contact} {i : Nat} (h : i ∈ validIndices frame)
    (other : i ≠ s.index) : ∃ j, s.successor? frame = some j := by
  obtain ⟨c, hc, valid, hi⟩ := mem_validIndices.1 h
  refine Option.isSome_iff_exists.1 (List.findSome?_isSome_iff.2 ⟨c, hc, ?_⟩)
  simp [hi, valid, other]

/-- The selector follows a contact exactly if its index is that of a valid one. -/
theorem followed?_eq_none_iff {s : Selector} {frame : List Contact} (distinct : Contact.Distinct frame) :
    s.followed? frame = none ↔ s.index ∉ validIndices frame := by
  constructor
  · intro h hmem
    obtain ⟨c, hc, valid, hi⟩ := mem_validIndices.1 hmem
    simp [followed?, distinct.find?_index hc hi, valid] at h
  · intro h
    cases hf : s.followed? frame with
    | none => rfl
    | some c =>
      obtain ⟨hc, hi, valid⟩ := of_followed? hf
      exact absurd (mem_validIndices.2 ⟨c, hc, valid, hi⟩) h

/-- After a frame with a valid contact the selector holds the index of one, if none of its contacts counts as lifted. -/
theorem index_select_mem (s : Selector) {frame : List Contact} (distinct : Contact.Distinct frame)
    (touched : validIndices frame ≠ []) {lifted : IndexSet} (present : ∀ c ∈ frame, ∀ i, c.index = some i → i ∉ lifted) :
    (s.select frame lifted true).2.index ∈ validIndices frame := by
  by_cases hmem : s.index ∈ validIndices frame
  · -- The selector stays with its contact.
    obtain ⟨c, hc, -, hi⟩ := mem_validIndices.1 hmem
    have hlifted : s.index ∉ lifted := present c hc s.index hi
    cases hf : s.followed? frame with
    | none => exact absurd hmem ((followed?_eq_none_iff distinct).1 hf)
    | some c => simpa [select, hlifted, hf] using hmem
  · -- Its index is not that of a valid contact, so that every valid contact will do.
    obtain ⟨i, hi⟩ := List.exists_mem_of_ne_nil _ touched
    obtain ⟨j, hj⟩ := exists_successor? hi (s := s) fun h => hmem (h ▸ hi)
    have hfollowed := (followed?_eq_none_iff distinct).2 hmem
    simpa [select, hfollowed, hj] using mem_of_successor? hj

end Selector

namespace Touchscreen
variable {σ : Type}

/--
Two frames one after the other, in neither of which a palm blocks or an index occurs twice. The first has a valid contact, and
all its valid contacts are in the second and valid there. Only contacts with a slot count.
-/
structure GoOn (d : Touchscreen σ) (first second : List Contact) : Prop where
  unblocked : d.blocked first = false ∧ d.blocked second = false
  distinct : Contact.Distinct (d.slotted first) ∧ Contact.Distinct (d.slotted second)
  touched : validIndices (d.slotted first) ≠ []
  kept : validIndices (d.slotted first) ⊆ validIndices (d.slotted second)

/-- A frame with a valid contact leaves the selector of an enabled device on one. -/
theorem index_settle_mem {d : Touchscreen σ} (enabled : d.enabled = true) {contacts : List Contact}
    (unblocked : d.blocked contacts = false) (distinct : Contact.Distinct (d.slotted contacts))
    (touched : validIndices (d.slotted contacts) ≠ []) :
    (d.settle (.update contacts)).selector.index ∈ validIndices (d.slotted contacts) := by
  have hp := presents_of_not_blocked enabled unblocked
  have hpresent : ∀ c ∈ d.slotted contacts, ∀ i, c.index = some i →
      i ∉ (d.tracker.advance (d.slotted contacts)).gone := fun c hc _ hi =>
    d.tracker.not_mem_gone_advance ⟨c, hc, hi⟩
  simpa [settle, hp, selection, enabled] using d.selector.index_select_mem distinct touched hpresent

/-- The contact of a selector that holds the index of a valid contact stays. -/
theorem stays_of_mem {d : Touchscreen σ} {contacts : List Contact} (distinct : Contact.Distinct (d.slotted contacts))
    (h : d.selector.index ∈ validIndices (d.slotted contacts)) :
    d.selector.index < d.profile.slots ∧ ∃ c ∈ d.slotted contacts, c.index = some d.selector.index ∧ c.isValid = true ∧
      d.selected? contacts = some c := by
  obtain ⟨c, hc, valid, hi⟩ := mem_validIndices.1 h
  have fits := lt_slots_of_mem_slotted hc hi
  have hfollowed := followed_slotted fits contacts
  rw [Selector.followed?, distinct.find?_index hc hi, Option.filter_some_pos valid] at hfollowed
  exact ⟨fits, c, hc, hi, valid, (Option.filter_eq_some_iff.1 hfollowed.symm).1⟩

variable [Sink σ]

/--
Over a sink that never refuses an event, and in whatever state an enabled device is: of two frames that go on, the second does not
release the pointer. It puts the pointer down where the contact of the selector is if that is stable, and says nothing about
the pointer if it is not.
-/
theorem pointer_down_within_two_frames {d : Touchscreen σ} (reliable : Sink.Reliable d.sink) (enabled : d.enabled = true)
    {first second : List Contact} (h : d.GoOn first second) :
    let e := d.after (.update first)
    ∃ c ∈ d.slotted second, c.index = some e.selector.index ∧ c.isValid = true ∧
      .touch false ∉ e.delivered (.update second) ∧
      (e.delivered (.update second)).filter Event.isPointer =
        (let place := d.config.place c.mean
        if c.isStable then
          [.touch true, .axis Event.absX (scale place.x d.profile.maxX), .axis Event.absY (scale place.y d.profile.maxY)]
        else []) := by
  intro e
  obtain ⟨-, hsettle, hreliable⟩ := serve_of_reliable reliable (.update first)
  obtain ⟨hconfig, hprofile⟩ := settings_after d (.update first)
  have hslotted : e.slotted second = d.slotted second := by rw [slotted, hprofile, slotted]
  have henabled : e.enabled = true := (enabled_after_update d first).trans enabled
  have hunblocked : e.blocked second = false := by
    rw [blocked, hslotted, palmBlocks, hconfig]
    exact h.unblocked.2
  have hacquired : e.selector.index ∈ validIndices (e.slotted second) := by
    have hindex : e.selector = (d.settle (.update first)).selector := congrArg selector hsettle
    rw [hindex, hslotted]
    exact h.kept (index_settle_mem enabled h.unblocked.1 h.distinct.1 h.touched)
  obtain ⟨fits, c, hc, hi, valid, hselected⟩ := stays_of_mem (hslotted ▸ h.distinct.2) hacquired
  have hstays : e.Stays second := fun _ => ⟨c, hselected, valid⟩
  obtain ⟨⟨a, ha⟩, -⟩ := (sends_serve (.update second) e).reliable hreliable
  have hpointer := (update_of_stays henabled fits ha hstays).2
  refine ⟨c, hslotted ▸ hc, hi, valid, fun hreleased => ?_, ?_⟩
  · refine hstays.not_released hunblocked ?_
    rw [← hpointer]
    exact List.mem_filter.2 ⟨hreleased, rfl⟩
  · rw [hpointer, pointerReport, hunblocked, if_neg Bool.false_ne_true, hselected, hconfig, hprofile]
    cases hs : c.isStable <;> simp [hs, Report.pointer]

/--
The contact that a new selector waits for is rejected, and the first valid contact is at the end of the next frame. The pointer
goes down there, and waits when the contact is unstable.
-/
theorem pointer_down_on_last_contact :
    let touch (i : Nat) (x : Float) : Contact := { index := some i, mean := { x } }
    let palm : Contact := { index := some 0, valid := some false }
    let unstable : Contact := { index := some 5, stable := some false }
    let d := start ({} : ScriptedSink) {} Profile.standard
    let first := [palm, touch 5 0, touch 2 0]
    let e := d.after (.update first)
    Sink.Reliable d.sink ∧ d.enabled = true ∧ d.GoOn first [touch 2 0, palm, touch 5 0.25] ∧
      d.GoOn first [touch 2 0, unstable] ∧ e.selector.index = 5 ∧
      (e.delivered (.update [touch 2 0, palm, touch 5 0.25])).filter Event.isPointer =
        [.touch true, .axis Event.absX 2400, .axis Event.absY 0] ∧
      .touch false ∉ e.delivered (.update [touch 2 0, palm, touch 5 0.25]) ∧
      .touch false ∉ e.delivered (.update [touch 2 0, unstable]) := by
  intro touch palm unstable d first e
  have reliable : Sink.Reliable d.sink := ScriptedSink.reliable rfl
  have hstable : d.GoOn first [touch 2 0, palm, touch 5 0.25] := by
    refine ⟨⟨?_, ?_⟩, ⟨?_, ?_⟩, ?_, ?_⟩ <;> decide +kernel
  have hunstable : d.GoOn first [touch 2 0, unstable] := by
    refine ⟨⟨?_, ?_⟩, ⟨?_, ?_⟩, ?_, ?_⟩ <;> decide +kernel
  obtain ⟨-, -, -, -, hkept, -⟩ := pointer_down_within_two_frames reliable rfl hstable
  obtain ⟨-, -, -, -, hwaiting, -⟩ := pointer_down_within_two_frames reliable rfl hunstable
  refine ⟨reliable, rfl, hstable, hunstable, ?_, ?_, hkept, hwaiting⟩ <;> decide +kernel

end Touchscreen
end Digitizer
