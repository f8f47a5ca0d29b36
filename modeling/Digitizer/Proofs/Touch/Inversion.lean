import Digitizer.Proofs.Touch.Effects

/-!
# Inverted axes

To invert an axis is to look at the contacts in a mirror. An upright device, which inverts nothing, has for mirrored frames the
plans that an inverting device has for the frames themselves, and settles likewise. So over any sink both do the same
(`history_mirrored`). Nothing is used of the arithmetic of coordinates.
-/
namespace Digitizer

/-- A contact with its place turned round along either axis. In one mirror it also turns the other way, in two it does not. -/
def Contact.mirrored (alongX alongY : Bool) (c : Contact) : Contact :=
  { c with
    mean := { x := if alongX then 1 - c.mean.x else c.mean.x, y := if alongY then 1 - c.mean.y else c.mean.y }
    orientation := if alongX != alongY then 1 - c.orientation else c.orientation }

/-- A pointer that is down is so on the mirrored contact. -/
def Pointer.mirrored (alongX alongY : Bool) : Pointer → Pointer
  | .down c => .down (c.mirrored alongX alongY)
  | .hold => .hold
  | .up => .up

/-- The same configuration without inverted axes. -/
def Config.upright (c : Config) : Config := { c with invertX := false, invertY := false }

section
variable {alongX alongY : Bool}

@[simp] theorem Contact.index_mirrored (c : Contact) : (c.mirrored alongX alongY).index = c.index := rfl
@[simp] theorem Contact.isValid_mirrored (c : Contact) : (c.mirrored alongX alongY).isValid = c.isValid := rfl
@[simp] theorem Contact.isStable_mirrored (c : Contact) : (c.mirrored alongX alongY).isStable = c.isStable := rfl

theorem indices_mirrored (frame : List Contact) : indices (frame.map (Contact.mirrored alongX alongY)) = indices frame := by
  simp [indices, List.filterMap_map, Function.comp_def]

/-! ## The selector -/

theorem Selector.followed?_mirrored (s : Selector) (frame : List Contact) :
    s.followed? (frame.map (Contact.mirrored alongX alongY)) = (s.followed? frame).map (Contact.mirrored alongX alongY) := by
  simp only [followed?, List.find?_map, Function.comp_def, Contact.index_mirrored]
  cases frame.find? (·.index == some s.index) with
  | none => rfl
  | some c => cases h : c.isValid <;> simp [Option.filter, h]

theorem Selector.successor?_mirrored (s : Selector) (frame : List Contact) :
    s.successor? (frame.map (Contact.mirrored alongX alongY)) = s.successor? frame := by
  simp [successor?, List.findSome?_map, Function.comp_def]

/-- The selector follows and picks the same contacts. -/
theorem Selector.select_mirrored (s : Selector) (frame : List Contact) (lifted : IndexSet) (enabled : Bool) :
    s.select (frame.map (Contact.mirrored alongX alongY)) lifted enabled =
      ((s.select frame lifted enabled).1.mirrored alongX alongY, (s.select frame lifted enabled).2) := by
  cases enabled with
  | false => rfl
  | true =>
    simp only [select, followed?_mirrored, successor?_mirrored, Bool.not_true, Bool.false_eq_true, if_false]
    by_cases hlifted : s.index ∈ lifted
    · simp [hlifted, Pointer.mirrored]
    · cases hfollowed : s.followed? frame with
      | none => simp [hlifted, Pointer.mirrored]
      | some c => cases hs : c.isStable <;> simp [hlifted, hs, Pointer.mirrored]

end

/-! ## The reports -/

namespace Report

/-- Inversion is applied to a contact exactly as the mirrors do. -/
theorem contact_mirrored (config : Config) (p : Profile) (c : Contact) :
    contact config.upright p (c.mirrored config.invertX config.invertY) = contact config p c := rfl

theorem multitouch_mirrored (config : Config) (p : Profile) (frame : List Contact) (lifted : IndexSet) :
    multitouch config.upright p (frame.map (Contact.mirrored config.invertX config.invertY)) lifted =
      multitouch config p frame lifted := by
  simp [multitouch, List.flatMap_map, contact_mirrored]

theorem pointer_mirrored (config : Config) (p : Profile) (pointer : Pointer) :
    Report.pointer config.upright p (pointer.mirrored config.invertX config.invertY) = Report.pointer config p pointer := by
  cases pointer <;> rfl

end Report

namespace Touchscreen
variable {σ : Type}

/-- The same device without inverted axes. -/
def upright (d : Touchscreen σ) : Touchscreen σ := { d with config := d.config.upright }

/-- The same request for mirrored contacts. -/
def Request.mirrored (alongX alongY : Bool) : Request → Request
  | .update contacts => .update (contacts.map (Contact.mirrored alongX alongY))
  | .disable => .disable
  | .enable => .enable

/-- A request as it looks to a device that inverts axes. -/
def mirror (d : Touchscreen σ) (r : Request) : Request := r.mirrored d.config.invertX d.config.invertY

section
variable (d : Touchscreen σ)

theorem slotted_mirrored (contacts : List Contact) :
    d.upright.slotted (contacts.map (Contact.mirrored d.config.invertX d.config.invertY)) =
      (d.slotted contacts).map (Contact.mirrored d.config.invertX d.config.invertY) := List.filter_map

theorem presents_mirrored (frame : List Contact) :
    d.upright.presents (frame.map (Contact.mirrored d.config.invertX d.config.invertY)) = d.presents frame := by
  simp [presents, palmBlocks, upright, Config.upright, List.any_map, Function.comp_def]

theorem advance_mirrored (frame : List Contact) :
    d.upright.tracker.advance (frame.map (Contact.mirrored d.config.invertX d.config.invertY)) = d.tracker.advance frame :=
  d.tracker.advance_congr (indices_mirrored frame)

theorem selection_mirrored (frame : List Contact) :
    d.upright.selection (frame.map (Contact.mirrored d.config.invertX d.config.invertY)) =
      ((d.selection frame).1.mirrored d.config.invertX d.config.invertY, (d.selection frame).2) := by
  rw [selection, advance_mirrored, Selector.select_mirrored]
  rfl

theorem slotReport_mirrored (contacts : List Contact) :
    d.upright.slotReport (contacts.map (Contact.mirrored d.config.invertX d.config.invertY)) = d.slotReport contacts := by
  simp only [slotReport, slotted_mirrored, advance_mirrored]
  exact Report.multitouch_mirrored d.config d.profile _ _

/-- The events are the same. -/
theorem plan_mirrored (r : Request) : d.upright.plan (d.mirror r) = d.plan r := by
  cases r with
  | update contacts =>
    rw [mirror, Request.mirrored, plan_of_slotReport, slotReport_mirrored, slotted_mirrored, presents_mirrored,
      selection_mirrored, advance_mirrored, plan_of_slotReport,
      ← Report.pointer_mirrored d.config d.profile (d.selection (d.slotted contacts)).1]
    rfl
  | disable => rfl
  | enable => rfl

/-- So is what is left of the device, except that it is upright. -/
theorem settle_mirrored (r : Request) : d.upright.settle (d.mirror r) = (d.settle r).upright := by
  cases r with
  | update contacts =>
    simp only [settle, mirror, Request.mirrored, slotted_mirrored, presents_mirrored, selection_mirrored, advance_mirrored]
    rfl
  | disable => rfl
  | enable => rfl

end

variable [Sink σ]

theorem ending_mirrored (d : Touchscreen σ) (r : Request) : d.upright.ending (d.mirror r) = (d.ending r).upright := by
  have hsettle := d.settle_mirrored r
  cases r with
  | update contacts =>
    simp only [mirror, Request.mirrored] at hsettle
    simp only [ending, mirror, Request.mirrored, slotReport_mirrored, hsettle]
    rw [apply_ite upright]
    rfl
  | disable =>
    simp only [ending, mirror, Request.mirrored, apply_ite upright]
    rfl
  | enable => rfl

/-- Whatever the sink refuses, a request in the mirror does the same. -/
theorem effect_mirrored (d : Touchscreen σ) (r : Request) :
    d.upright.effect (d.mirror r) = { d.effect r with state := (d.effect r).state.upright } := by
  rw [effect_eq, effect_eq, plan_mirrored, ending_mirrored]
  rfl

/--
A device may invert its axes or have its contacts mirrored: whatever the sink refuses, every request of a run has the same
result, offers the same events, of which the same are taken, and leaves the same device but for the inversion.
-/
theorem history_mirrored (d : Touchscreen σ) (rs : List Request) :
    d.upright.history (rs.map d.mirror) = (d.history rs).map fun o => { o with state := o.state.upright } := by
  induction rs generalizing d with
  | nil => rfl
  | cons r rs ih =>
    have heffect := d.effect_mirrored r
    have hafter : d.upright.after (d.mirror r) = (d.after r).upright := congrArg Outcome.state heffect
    have hmirror : (d.after r).mirror = d.mirror := by
      funext s
      rw [mirror, (settings_after d r).1]
      rfl
    have hrest := ih (d.after r)
    rw [hmirror] at hrest
    rw [List.map_cons, history, history, heffect, hafter, hrest]
    rfl

end Touchscreen
end Digitizer
