import Digitizer.Proofs.Touch.Shown

/-!
# What reports do to the slots

Every group of events names its slot first, so replaying it changes one slot and what is current, and does not depend on
which slot was current before. A slot that a frame mentions several times ends as its stable contacts leave it one after
another, and a release lifts it.
-/
namespace Digitizer

/-! ## Numbers of slots -/

/-- An index with a slot has at most 31 bits. -/
theorem Profile.lt_of_lt_slots {p : Profile} {i : Nat} (h : i < p.slots) : i < 2147483648 :=
  Nat.lt_trans h (Int32.toNatClampNeg_lt p.maxContacts)

theorem toInt_slotNumber {i : Nat} (h : i < 2147483648) : (slotNumber i).toInt = i := Int32.toInt_ofNat_of_lt h

theorem slotNumber_nonneg {i : Nat} (h : i < 2147483648) : 0 ≤ slotNumber i := by
  rw [Int32.le_iff_toInt_le, toInt_slotNumber h]
  exact Int.natCast_nonneg i

theorem slotNumber_inj {i j : Nat} (hi : i < 2147483648) (hj : j < 2147483648) : slotNumber i = slotNumber j ↔ i = j := by
  constructor
  · intro h
    have hint := congrArg Int32.toInt h
    rw [toInt_slotNumber hi, toInt_slotNumber hj] at hint
    exact Int.ofNat.inj hint
  · rintro rfl
    rfl

/-! ## The effect of one event -/

/-- An axis of a slot takes a value. -/
def SlotState.set (s : SlotState) (a : UInt16 × Int32) : SlotState :=
  { s with axis := fun code => if code = a.1 then some a.2 else s.axis code }

/-- A slot is lifted. Its axes keep their last values. -/
def SlotState.lift (s : SlotState) : SlotState := { s with down := false }

@[simp] theorem SlotState.down_set (s : SlotState) (a : UInt16 × Int32) : (s.set a).down = s.down := rfl
@[simp] theorem SlotState.down_lift (s : SlotState) : s.lift.down = false := rfl

theorem SlotState.axis_foldl_set_of_notMem {axes : List (UInt16 × Int32)} {code : UInt16} (h : code ∉ axes.map Prod.fst)
    (s : SlotState) : (axes.foldl SlotState.set s).axis code = s.axis code := by
  induction axes generalizing s with
  | nil => rfl
  | cons a as ih =>
    simp only [List.map_cons, List.mem_cons, not_or] at h
    rw [List.foldl_cons, ih h.2]
    simp [SlotState.set, h.1]

/-- Axes that are set once have the values that they were set to. -/
theorem SlotState.axis_foldl_set {axes : List (UInt16 × Int32)} (once : (axes.map Prod.fst).Nodup) (s : SlotState) :
    ∀ a ∈ axes, (axes.foldl SlotState.set s).axis a.1 = some a.2 := by
  induction axes generalizing s with
  | nil => simp
  | cons b bs ih =>
    obtain ⟨hb, hbs⟩ := List.nodup_cons.1 once
    intro a ha
    rcases List.mem_cons.1 ha with rfl | ha
    · rw [List.foldl_cons, SlotState.axis_foldl_set_of_notMem hb]
      simp [SlotState.set]
    · exact ih hbs (s.set b) a ha

@[simp] theorem SlotState.down_foldl_set (axes : List (UInt16 × Int32)) (s : SlotState) :
    (axes.foldl SlotState.set s).down = s.down := by
  induction axes generalizing s with
  | nil => rfl
  | cons a as ih => rw [List.foldl_cons, ih, SlotState.down_set]

namespace Receiver

/-- A slot becomes the current one and takes a state. -/
def put (r : Receiver) (s : Int32) (state : SlotState) : Receiver :=
  { r with current := s, slot := fun t => if t = s then state else r.slot t }

@[simp] theorem slot_put_self (r : Receiver) (s : Int32) (state : SlotState) : (r.put s state).slot s = state := by
  simp [put]

theorem slot_put_of_ne (r : Receiver) {s t : Int32} (h : t ≠ s) (state : SlotState) :
    (r.put s state).slot t = r.slot t := by
  simp [put, h]

/-- What is known of the pointer. -/
def pointer (r : Receiver) : Bool × Option Int32 × Option Int32 := (r.pressed, r.x, r.y)

@[simp] theorem pointer_put (r : Receiver) (s : Int32) (state : SlotState) : (r.put s state).pointer = r.pointer := rfl

/-- Naming a slot leaves its state. -/
theorem receive_slot (r : Receiver) (s : Int32) : r.receive (.axis Event.mtSlot s) = r.put s (r.slot s) := by
  have hslot : r.slot = fun t => if t = s then r.slot s else r.slot t := by
    funext t
    split
    · next h => rw [h]
    · rfl
  rw [put, ← hslot]
  rfl

theorem onSlot_put (r : Receiver) (s : Int32) (state : SlotState) (f : SlotState → SlotState) :
    (r.put s state).onSlot f = r.put s (f state) := by
  simp only [onSlot, put, mk.injEq, true_and, and_true]
  funext t
  split <;> rfl

theorem receive_trackingId (r : Receiver) (s value : Int32) (state : SlotState) :
    (r.put s state).receive (.axis Event.mtTrackingId value) = r.put s { state with down := decide (0 ≤ value) } :=
  onSlot_put r s state fun st => { st with down := decide (0 ≤ value) }

theorem receive_slotAxis (r : Receiver) (s : Int32) (state : SlotState) {code : UInt16} (h : code ∈ slotAxes)
    (value : Int32) : (r.put s state).receive (.axis code value) = r.put s (state.set (code, value)) := by
  have hcodes : code ≠ Event.mtSlot ∧ code ≠ Event.mtTrackingId := by
    revert h
    simp only [slotAxes, List.mem_cons, List.not_mem_nil, or_false]
    rintro (rfl | rfl | rfl | rfl | rfl) <;> decide
  simp only [receive, Event.axis, receiveAxis, if_true, hcodes, if_false, h]
  exact onSlot_put r s state _

theorem replay_slotAxes (r : Receiver) (s : Int32) {axes : List (UInt16 × Int32)} (h : ∀ a ∈ axes, a.1 ∈ slotAxes)
    (state : SlotState) :
    (r.put s state).replay (axes.map fun a => Event.axis a.1 a.2) = r.put s (axes.foldl SlotState.set state) := by
  induction axes generalizing state with
  | nil => rfl
  | cons a as ih =>
    rw [List.map_cons, replay_cons, receive_slotAxis r s state (h a List.mem_cons_self), List.foldl_cons]
    exact ih (fun b hb => h b (List.mem_cons_of_mem a hb)) _

@[simp] theorem receive_report (r : Receiver) : r.receive Event.report = r := rfl

end Receiver

/-! ## The effect of one report -/

/-- The values that a contact gives to the axes of its slot. -/
def Contact.axes (config : Config) (p : Profile) (c : Contact) : List (UInt16 × Int32) :=
  [(Event.mtPositionX, scale (config.place c.mean).x p.maxX),
    (Event.mtPositionY, scale (config.place c.mean).y p.maxY),
    (Event.mtOrientation, scale (config.turn c.orientation) 180),
    (Event.mtTouchMajor, scale c.size.largest p.diagonal),
    (Event.mtTouchMinor, scale c.size.least p.diagonal)]

/-- How a stable contact leaves its slot: down with its own axes if it is valid, and otherwise lifted. -/
def Contact.leave (config : Config) (p : Profile) (s : SlotState) (c : Contact) : SlotState :=
  if c.isValid then (c.axes config p).foldl SlotState.set { s with down := true } else s.lift

theorem Contact.map_fst_axes (config : Config) (p : Profile) (c : Contact) :
    (c.axes config p).map Prod.fst = Receiver.slotAxes := rfl

theorem Contact.mem_slotAxes {config : Config} {p : Profile} {c : Contact} {a : UInt16 × Int32} (h : a ∈ c.axes config p) :
    a.1 ∈ Receiver.slotAxes := by
  rw [← c.map_fst_axes config p]
  exact List.mem_map_of_mem h

/-- A contact that is down names its slot, gives it an identity and sets its axes. -/
theorem Report.down_eq (config : Config) (p : Profile) (i : Nat) (c : Contact) :
    down config p i c = .axis Event.mtSlot (slotNumber i) :: .axis Event.mtTrackingId (slotNumber i) ::
      (c.axes config p).map fun a => Event.axis a.1 a.2 := rfl

@[simp] theorem Contact.down_leave (config : Config) (p : Profile) (s : SlotState) (c : Contact) :
    (c.leave config p s).down = c.isValid := by
  by_cases h : c.isValid = true <;> simp [leave, h]

/-- A valid contact sets every axis. -/
theorem Contact.axis_leave (config : Config) (p : Profile) (s : SlotState) {c : Contact} (valid : c.isValid = true) :
    ∀ a ∈ c.axes config p, (c.leave config p s).axis a.1 = some a.2 := by
  have once : ((c.axes config p).map Prod.fst).Nodup := by
    rw [map_fst_axes]
    decide
  rw [leave, if_pos valid]
  exact SlotState.axis_foldl_set once _

section
variable (config : Config) (p : Profile)

theorem replay_release (r : Receiver) (i : Nat) :
    r.replay (Report.release i) = r.put (slotNumber i) (r.slot (slotNumber i)).lift := by
  simp only [Report.release, Receiver.replay_cons, Receiver.replay_nil, Receiver.receive_slot,
    Receiver.receive_trackingId]
  rfl

theorem replay_down (r : Receiver) {i : Nat} (hi : i < 2147483648) (c : Contact) :
    r.replay (Report.down config p i c) =
      r.put (slotNumber i) ((c.axes config p).foldl SlotState.set { r.slot (slotNumber i) with down := true }) := by
  rw [Report.down_eq, Receiver.replay_cons, Receiver.replay_cons, Receiver.receive_slot, Receiver.receive_trackingId,
    Receiver.replay_slotAxes r _ fun a ha => Contact.mem_slotAxes ha]
  simp [slotNumber_nonneg hi]

/-- A stable contact with an index leaves its slot, any other contact leaves everything. -/
theorem replay_contact (r : Receiver) {c : Contact} (fits : ∀ i, c.index = some i → i < 2147483648) :
    r.replay (Report.contact config p c) =
      match c.index with
      | some i => if c.isStable then r.put (slotNumber i) (c.leave config p (r.slot (slotNumber i))) else r
      | none => r := by
  cases hi : c.index with
  | none => simp [Report.contact, hi]
  | some i =>
    by_cases hs : c.isStable = true
    · by_cases hv : c.isValid = true
      · simp [Report.contact, hi, hs, hv, Contact.leave, replay_down config p r (fits i hi)]
      · simp [Report.contact, hi, hs, hv, Contact.leave, replay_release]
    · simp [Report.contact, hi, hs]

/-! ## The effect of a frame -/

/-- A contact is reported in a slot. -/
def Contact.isFor (s : Int32) (c : Contact) : Bool := c.index.any (slotNumber · == s)

/-- After the contacts of a frame, a slot is as its stable contacts leave it one after another. -/
theorem slot_contacts {frame : List Contact} (fits : ∀ c ∈ frame, ∀ i, c.index = some i → i < 2147483648) (r : Receiver)
    (s : Int32) :
    (r.replay (frame.flatMap (Report.contact config p))).slot s =
      (frame.filter fun c => c.isFor s && c.isStable).foldl (Contact.leave config p) (r.slot s) := by
  induction frame generalizing r with
  | nil => rfl
  | cons c cs ih =>
    rw [List.flatMap_cons, Receiver.replay_append, ih fun b hb => fits b (List.mem_cons_of_mem c hb),
      replay_contact config p r (fits c List.mem_cons_self)]
    cases hi : c.index with
    | none => simp [Contact.isFor, hi]
    | some i =>
      by_cases hs : c.isStable = true
      · by_cases hslot : slotNumber i = s
        · simp [Contact.isFor, hi, hs, hslot]
        · simp [Contact.isFor, hi, hs, hslot, Receiver.slot_put_of_ne r (Ne.symm hslot)]
      · simp [hs]

theorem pointer_contacts {frame : List Contact} (fits : ∀ c ∈ frame, ∀ i, c.index = some i → i < 2147483648)
    (r : Receiver) : (r.replay (frame.flatMap (Report.contact config p))).pointer = r.pointer := by
  induction frame generalizing r with
  | nil => rfl
  | cons c cs ih =>
    rw [List.flatMap_cons, Receiver.replay_append, ih fun b hb => fits b (List.mem_cons_of_mem c hb),
      replay_contact config p r (fits c List.mem_cons_self)]
    split
    · split <;> rfl
    · rfl

end

/-- Releases lift the slots that they name. -/
theorem slot_releases (is : List Nat) (r : Receiver) (s : Int32) :
    (r.replay (is.flatMap Report.release)).slot s = if s ∈ is.map slotNumber then (r.slot s).lift else r.slot s := by
  induction is generalizing r with
  | nil => rfl
  | cons i is ih =>
    rw [List.flatMap_cons, Receiver.replay_append, ih, replay_release, List.map_cons]
    by_cases hs : s = slotNumber i
    · subst hs
      simp [SlotState.lift]
    · simp [hs, Receiver.slot_put_of_ne r hs]

theorem pointer_releases (is : List Nat) (r : Receiver) : (r.replay (is.flatMap Report.release)).pointer = r.pointer := by
  induction is generalizing r with
  | nil => rfl
  | cons i is ih => rw [List.flatMap_cons, Receiver.replay_append, ih, replay_release, Receiver.pointer_put]

theorem slot_pointer (config : Config) (p : Profile) (pointer : Pointer) (r : Receiver) :
    (r.replay (Report.pointer config p pointer)).slot = r.slot := by
  cases pointer <;> rfl

theorem pressed_releaseAll (tracked : IndexSet) (r : Receiver) :
    (r.replay (Report.releaseAll tracked ++ [Event.report])).pressed = false := by
  simp only [Report.releaseAll, Receiver.replay_append, Receiver.replay_cons, Receiver.replay_nil,
    Receiver.receive_report]
  rfl

end Digitizer
