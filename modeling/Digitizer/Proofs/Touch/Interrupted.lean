import Digitizer.Proofs.Touch.SlotRefinement

/-!
# Interrupted plans

A sink may refuse any event, so only a beginning of a plan may arrive. Wherever it breaks off, a slot changes only by the
groups of events that name it: contacts in the slot put it down or lift it, and releases lift it.
-/
namespace Digitizer
namespace Receiver
variable {P : SlotState → Prop} {s : Int32} {α : Type}

/-- Whatever beginning of some events arrives, a slot keeps a property. -/
def Maintains (P : SlotState → Prop) (s : Int32) (es : List Event) : Prop :=
  ∀ (r : Receiver) k, P (r.slot s) → P ((r.replay (es.take k)).slot s)

theorem Maintains.slot_replay {es fs : List Event} (h : Maintains P s es) (some : fs <+: es) {r : Receiver}
    (hr : P (r.slot s)) : P ((r.replay fs).slot s) := by
  rw [List.prefix_iff_eq_take.1 some]
  exact h r _ hr

theorem maintains_nil : Maintains P s [] := by
  intro r k hr
  rw [List.take_nil]
  exact hr

/-- An event that is not about slots comes first. -/
theorem maintains_cons {e : Event} {es : List Event} (he : ∀ r : Receiver, (r.receive e).slot = r.slot)
    (hes : Maintains P s es) : Maintains P s (e :: es) := by
  intro r k hr
  cases k with
  | zero => exact hr
  | succ k =>
    rw [List.take_succ_cons, replay_cons]
    refine hes _ k ?_
    rw [he]
    exact hr

theorem maintains_append {es fs : List Event} (hes : Maintains P s es) (hfs : Maintains P s fs) :
    Maintains P s (es ++ fs) := by
  intro r k hr
  rw [List.take_append, replay_append]
  exact hfs _ _ (hes r k hr)

theorem maintains_flatMap {f : α → List Event} {as : List α} (h : ∀ a ∈ as, Maintains P s (f a)) :
    Maintains P s (as.flatMap f) := by
  induction as with
  | nil => exact maintains_nil
  | cons a as ih =>
    rw [List.flatMap_cons]
    exact maintains_append (h a List.mem_cons_self) (ih fun b hb => h b (List.mem_cons_of_mem a hb))

theorem slot_onSlot_of_ne {r : Receiver} (h : s ≠ r.current) (f : SlotState → SlotState) :
    (r.onSlot f).slot s = r.slot s := by
  simp [onSlot, h]

/-- An axis changes the current slot only, and leaves it the current one. -/
theorem receive_axis_of_ne {code : UInt16} (unnamed : code ≠ Event.mtSlot) (value : Int32) {r : Receiver}
    (h : s ≠ r.current) :
    (r.receive (.axis code value)).current = r.current ∧ (r.receive (.axis code value)).slot s = r.slot s := by
  change (r.receiveAxis code value).current = r.current ∧ (r.receiveAxis code value).slot s = r.slot s
  rw [receiveAxis, if_neg unnamed]
  by_cases hid : code = Event.mtTrackingId
  · rw [if_pos hid]
    exact ⟨rfl, slot_onSlot_of_ne h _⟩
  · rw [if_neg hid]
    by_cases haxis : code ∈ slotAxes
    · rw [if_pos haxis]
      exact ⟨rfl, slot_onSlot_of_ne h _⟩
    · rw [if_neg haxis]
      by_cases hx : code = Event.absX
      · rw [if_pos hx]
        exact ⟨rfl, rfl⟩
      · rw [if_neg hx]
        by_cases hy : code = Event.absY
        · rw [if_pos hy]
          exact ⟨rfl, rfl⟩
        · rw [if_neg hy]
          exact ⟨rfl, rfl⟩

theorem slot_axes_of_ne {as : List (UInt16 × Int32)} (unnamed : ∀ a ∈ as, a.1 ≠ Event.mtSlot) {r : Receiver}
    (h : s ≠ r.current) : (r.replay (as.map fun a => Event.axis a.1 a.2)).slot s = r.slot s := by
  induction as generalizing r with
  | nil => rfl
  | cons a as ih =>
    obtain ⟨hcurrent, hslot⟩ := receive_axis_of_ne (unnamed a List.mem_cons_self) a.2 h
    have hnext : s ≠ (r.receive (.axis a.1 a.2)).current := by
      rw [hcurrent]
      exact h
    rw [List.map_cons, replay_cons, ih (fun b hb => unnamed b (List.mem_cons_of_mem a hb)) hnext]
    exact hslot

/-- A group of events that names another slot. -/
theorem maintains_elsewhere {t : Int32} (h : s ≠ t) {as : List (UInt16 × Int32)}
    (unnamed : ∀ a ∈ as, a.1 ≠ Event.mtSlot) :
    Maintains P s (.axis Event.mtSlot t :: as.map fun a => Event.axis a.1 a.2) := by
  intro r k hr
  cases k with
  | zero => exact hr
  | succ k =>
    have hrest : ∀ a ∈ as.take k, a.1 ≠ Event.mtSlot := fun a ha => unnamed a (List.mem_of_mem_take ha)
    rw [List.take_succ_cons, replay_cons, receive_slot, ← List.map_take, slot_axes_of_ne hrest h,
      slot_put_of_ne r h]
    exact hr

/-- A release of the slot itself has to keep the property. -/
theorem maintains_release {i : Nat} (lift : slotNumber i = s → ∀ state, P state → P state.lift) :
    Maintains P s (Report.release i) := by
  by_cases hs : s = slotNumber i
  · subst hs
    intro r k hr
    rcases k with _ | _ | k
    · exact hr
    · rw [Report.release, List.take_succ_cons, List.take_zero, replay_cons, replay_nil, receive_slot, slot_put_self]
      exact hr
    · rw [List.take_of_length_le (by simp [Report.release]), replay_release, slot_put_self]
      exact lift rfl _ hr
  · have hcodes : ∀ a ∈ [(Event.mtTrackingId, (-1 : Int32))], a.1 ≠ Event.mtSlot := by
      intro a ha
      rw [List.mem_singleton.1 ha]
      decide
    exact maintains_elsewhere hs hcodes

/-- A contact in another slot, or in none. -/
theorem maintains_contact (config : Config) (p : Profile) {c : Contact} (h : c.isFor s = false) :
    Maintains P s (Report.contact config p c) := by
  cases hi : c.index with
  | none =>
    simp only [Report.contact, hi]
    exact maintains_nil
  | some i =>
    have hs : s ≠ slotNumber i := by
      rintro rfl
      simp [Contact.isFor, hi] at h
    have hcodes : ∀ a ∈ (Event.mtTrackingId, slotNumber i) :: c.axes config p, a.1 ≠ Event.mtSlot := by
      have hfst : Event.mtSlot ∉ Event.mtTrackingId :: slotAxes := by decide
      intro a ha hcode
      exact hfst (hcode ▸ List.mem_map_of_mem ha)
    simp only [Report.contact, hi]
    split
    · exact maintains_nil
    · split
      · exact maintains_elsewhere hs hcodes
      · exact maintains_release fun hi => absurd hi.symm hs

theorem maintains_pointer (config : Config) (p : Profile) (pointer : Pointer) :
    Maintains P s (Report.pointer config p pointer) := by
  cases pointer with
  | down c =>
    exact maintains_cons (fun _ => rfl) (maintains_cons (fun _ => rfl) (maintains_cons (fun _ => rfl) maintains_nil))
  | hold => exact maintains_nil
  | up => exact maintains_cons (fun _ => rfl) maintains_nil

theorem maintains_report : Maintains P s [Event.report] := maintains_cons (fun _ => rfl) maintains_nil

theorem maintains_releases {is : List Nat} (lift : ∀ i ∈ is, slotNumber i = s → ∀ state, P state → P state.lift) :
    Maintains P s (is.flatMap Report.release) :=
  maintains_flatMap fun i hi => maintains_release (lift i hi)

theorem maintains_releaseAll {tracked : IndexSet}
    (lift : ∀ i ∈ tracked, slotNumber i = s → ∀ state, P state → P state.lift) :
    Maintains P s (Report.releaseAll tracked ++ [Event.report]) :=
  maintains_append (maintains_append (maintains_releases lift) (maintains_cons (fun _ => rfl) maintains_nil))
    maintains_report

end Receiver

namespace Touchscreen
variable {σ : Type} {P : SlotState → Prop} {s : Int32}

/-- An update without a contact in a slot does at most lift it, and only if it remembers an index of the slot. -/
theorem maintains_plan_update {d : Touchscreen σ} {contacts : List Contact}
    (others : ∀ c ∈ d.slotted contacts, c.isFor s = false)
    (lift : ∀ i ∈ (d.tracker.advance (d.slotted contacts)).remembered, slotNumber i = s →
      ∀ state, P state → P state.lift) :
    Receiver.Maintains P s (d.plan (.update contacts)) := by
  cases hp : d.presents (d.slotted contacts) with
  | true =>
    have hgone : ∀ i ∈ (d.tracker.advance (d.slotted contacts)).gone.toList, slotNumber i = s →
        ∀ state, P state → P state.lift := fun i hi =>
      lift i (Tracker.mem_remembered_advance.2 (Or.inr (Tracker.mem_gone_advance.1 hi).1))
    have hcontacts : Receiver.Maintains P s ((d.slotted contacts).flatMap (Report.contact d.config d.profile)) :=
      Receiver.maintains_flatMap fun c hc => Receiver.maintains_contact d.config d.profile (others c hc)
    simp only [plan, hp, if_true]
    exact Receiver.maintains_append (Receiver.maintains_append
      (Receiver.maintains_append hcontacts (Receiver.maintains_releases hgone)) (Receiver.maintains_pointer _ _ _))
      Receiver.maintains_report
  | false =>
    rw [plan_blocked hp]
    exact Receiver.maintains_releaseAll lift

variable [Sink σ]

/-- What a plan maintains is maintained wherever the sink breaks it off. -/
theorem maintained {d : Touchscreen σ} {r : Request} (h : Receiver.Maintains P s (d.plan r)) {known : Receiver}
    (hs : P (known.slot s)) : P ((known.replay (d.delivered r)).slot s) :=
  h.slot_replay (sends_serve r d).upTo hs

/-- A request whose plan lifts a slot has failed if the slot is down. -/
theorem error_of_down {d : Touchscreen σ} {r : Request} {known : Receiver}
    (up : ((known.replay (d.plan r)).slot s).down = false)
    (down : ((known.replay (d.delivered r)).slot s).down = true) : ∃ cause, (serve r d).result = .error cause := by
  cases hr : (serve r d).result with
  | ok a =>
    rw [delivered, (sends_serve r d).all a hr, up] at down
    exact absurd down Bool.false_ne_true
  | error cause => exact ⟨cause, rfl⟩

/-- A slot that is down after a request was down before it, unless the request brought a contact for it. -/
theorem down_before {d : Touchscreen σ} {r : Request}
    (others : ∀ contacts, r = .update contacts → ∀ c ∈ d.slotted contacts, c.isFor s = false) {known : Receiver}
    (down : ((known.replay (d.delivered r)).slot s).down = true) : (known.slot s).down = true := by
  have hplan : Receiver.Maintains (·.down = false) s (d.plan r) := by
    cases r with
    | update contacts => exact maintains_plan_update (others contacts rfl) fun _ _ _ _ _ => rfl
    | disable => exact Receiver.maintains_releaseAll fun _ _ _ _ _ => rfl
    | enable => exact Receiver.maintains_nil
  cases h : (known.slot s).down with
  | true => rfl
  | false =>
    have hafter := maintained hplan h
    exact hafter.symm.trans down

end Touchscreen
end Digitizer
