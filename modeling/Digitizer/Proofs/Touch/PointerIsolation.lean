import Digitizer.Proofs.Touch.Handover
import Mathlib.Data.List.Forall2

/-!
# The pointer does not notice other contacts

As long as the contact behind the pointer stays, what an update says about the pointer is a function of that contact and of
whether a palm blocks the frame (`pointerReport`). Other contacts get into the tracker and into the slots, and no further.
-/
namespace Digitizer.Touchscreen
variable {σ : Type}

/-- The first contact of a frame with the index of the selector. -/
def selected? (d : Touchscreen σ) (frame : List Contact) : Option Contact := frame.find? (·.index == some d.selector.index)

/-- Whether a palm blocks an update. Palms without a slot are not seen. -/
def blocked (d : Touchscreen σ) (contacts : List Contact) : Bool := d.palmBlocks (d.slotted contacts)

theorem presents_of_not_blocked {d : Touchscreen σ} (enabled : d.enabled = true) {contacts : List Contact}
    (unblocked : d.blocked contacts = false) : d.presents (d.slotted contacts) = true := by
  rw [blocked] at unblocked
  simp [presents, enabled, unblocked]

/-- What an update says about the pointer while its contact stays. -/
def pointerReport (d : Touchscreen σ) (contacts : List Contact) : List Event :=
  match if d.blocked contacts then none else d.selected? contacts with
  | some c => Report.pointer d.config d.profile (if c.isStable then .down c else .hold)
  | none => Report.pointer d.config d.profile .up

/-- A frame in which the contact of the selector stays: it is there and valid, or a palm blocks the frame. -/
def Stays (d : Touchscreen σ) (contacts : List Contact) : Prop :=
  d.blocked contacts = false → ∃ c, d.selected? contacts = some c ∧ c.isValid = true

/-- Two frames that differ in other contacts than that of the selector alone. In frames that a palm blocks it may differ, too. -/
structure SameForPointer (d : Touchscreen σ) (contacts contacts' : List Contact) : Prop where
  blocked : d.blocked contacts = d.blocked contacts'
  selected : d.blocked contacts = false → d.selected? contacts = d.selected? contacts'

theorem SameForPointer.pointerReport {d : Touchscreen σ} {contacts contacts' : List Contact}
    (h : d.SameForPointer contacts contacts') : d.pointerReport contacts = d.pointerReport contacts' := by
  cases hb : d.blocked contacts with
  | true => simp [Touchscreen.pointerReport, ← h.blocked, hb]
  | false => simp [Touchscreen.pointerReport, ← h.blocked, hb, h.selected hb]

/-- While its contact stays in a frame without palms the pointer is not released. -/
theorem Stays.not_released {d : Touchscreen σ} {contacts : List Contact} (h : d.Stays contacts)
    (unblocked : d.blocked contacts = false) : .touch false ∉ d.pointerReport contacts := by
  obtain ⟨c, hc, -⟩ := h unblocked
  rw [pointerReport, unblocked, if_neg Bool.false_ne_true, hc]
  by_cases hs : c.isStable = true
  · simp [hs, Report.pointer, Event.touch, Event.axis, Event.key, Event.abs]
  · simp [hs, Report.pointer]

/-- The selector follows a contact with a slot in the frame that is left after the others are dropped. -/
theorem followed_slotted {d : Touchscreen σ} (fits : d.selector.index < d.profile.slots) (contacts : List Contact) :
    d.selector.followed? (d.slotted contacts) = (d.selected? contacts).filter Contact.isValid := by
  have hfits : ∀ c : Contact, decide (c.fits d.profile.slots = true ∧ (c.index == some d.selector.index) = true)
      = (c.index == some d.selector.index) := by
    intro c
    by_cases hc : c.index = some d.selector.index <;> simp [Contact.fits, hc, fits]
  rw [Selector.followed?, slotted, List.find?_filter, funext hfits, selected?]

/-- A frame in which the contact of the selector stays moves the pointer with that contact, and leaves the selector. -/
theorem choice_of_stays {d : Touchscreen σ} (enabled : d.enabled = true) (fits : d.selector.index < d.profile.slots)
    {contacts : List Contact} (h : d.Stays contacts) :
    Report.pointer d.config d.profile (d.choice contacts) = d.pointerReport contacts ∧
      (d.settle (.update contacts)).selector = d.selector := by
  cases hb : d.blocked contacts with
  | true =>
    have hp : d.presents (d.slotted contacts) = false := by
      rw [blocked] at hb
      simp [presents, hb]
    exact ⟨by simp [choice, hp, pointerReport, hb], by simp [settle, hp]⟩
  | false =>
    obtain ⟨c, hc, valid⟩ := h hb
    have hp := presents_of_not_blocked enabled hb
    have hfollowed : d.selector.followed? (d.slotted contacts) = some c := by
      simp [followed_slotted fits, hc, valid]
    obtain ⟨hmem, hindex, -⟩ := Selector.of_followed? hfollowed
    -- Its contact is in the frame, so the index of the selector is not among those that are gone.
    have hgone : d.selector.index ∉ (d.tracker.advance (d.slotted contacts)).gone :=
      d.tracker.not_mem_gone_advance ⟨c, hmem, hindex⟩
    have hselection : d.selection (d.slotted contacts) = (if c.isStable then .down c else .hold, d.selector) := by
      simp [selection, Selector.select, enabled, hgone, hfollowed]
    exact ⟨by simp [choice, hp, hselection, pointerReport, hb, hc], by simp [settle, hp, hselection]⟩

variable [Sink σ]

/-- Updates that succeed and in which the contact of the selector stays. -/
structure KeepsContact (d : Touchscreen σ) (frames : List (List Contact)) : Prop where
  succeeds : d.Succeeds (frames.map .update)
  stays : ∀ contacts ∈ frames, d.Stays contacts

/-- An update in which the contact of the selector stays changes nothing but the sink and the tracker. -/
theorem update_of_stays {d : Touchscreen σ} (enabled : d.enabled = true) (fits : d.selector.index < d.profile.slots)
    {contacts : List Contact} (ok : (serve (.update contacts) d).result = .ok ()) (h : d.Stays contacts) :
    (∃ sink tracker, d.after (.update contacts) = { d with sink, tracker }) ∧
      (d.delivered (.update contacts)).filter Event.isPointer = d.pointerReport contacts := by
  obtain ⟨hchoice, hselector⟩ := choice_of_stays enabled fits h
  have hsends := sends_serve (.update contacts) d
  have hplan : d.delivered (.update contacts) = d.plan (.update contacts) := hsends.all () ok
  have hcore : (d.after (.update contacts)).core =
      ({ d with tracker := d.tracker.advance (d.slotted contacts) } : Touchscreen σ).core := by
    rw [after, hsends.settled () ok]
    exact congrArg (fun s => ({ d.settle (.update contacts) with selector := s } : Touchscreen Unit)) hselector
  obtain ⟨sink, hafter⟩ := exists_sink_of_core hcore
  exact ⟨⟨sink, _, hafter⟩, by rw [hplan, filter_plan, hchoice]⟩

/-- So do any number of them, and each says about the pointer what its frame alone decides. -/
theorem run_of_keepsContact {d : Touchscreen σ} (enabled : d.enabled = true) (fits : d.selector.index < d.profile.slots)
    {frames : List (List Contact)} (h : d.KeepsContact frames) :
    (∀ k, ∃ sink tracker, d.afterAll ((frames.take k).map .update) = { d with sink, tracker }) ∧
      (d.deliveries (frames.map .update)).map (List.filter Event.isPointer) = frames.map d.pointerReport := by
  induction frames generalizing d with
  | nil => exact ⟨fun _ => ⟨d.sink, d.tracker, by simp⟩, rfl⟩
  | cons contacts frames ih =>
    obtain ⟨ok, hsucceeds⟩ := succeeds_cons.1 h.succeeds
    obtain ⟨⟨sink, tracker, hafter⟩, hpointer⟩ := update_of_stays enabled fits ok (h.stays contacts List.mem_cons_self)
    have hkeeps : (d.after (.update contacts)).KeepsContact frames := by
      refine ⟨hsucceeds, fun next hnext => ?_⟩
      rw [hafter]
      exact h.stays next (List.mem_cons_of_mem contacts hnext)
    rw [hafter] at hkeeps
    obtain ⟨hstates, hrest⟩ := ih (d := { d with sink, tracker }) enabled fits hkeeps
    refine ⟨fun k => ?_, ?_⟩
    · cases k with
      | zero => exact ⟨d.sink, d.tracker, rfl⟩
      | succ k =>
        rw [List.take_succ_cons, List.map_cons, afterAll_cons, hafter]
        exact hstates k
    · rw [List.map_cons, List.map_cons, deliveries, List.map_cons, hpointer, hafter, hrest]
      rfl

/--
The pointer of an enabled device sticks to its contact, whatever state the device is in. Over updates that succeed, and in which
that contact stays, the selector keeps its index and no frame that is not blocked releases the pointer. Other frames with the
same contact for the pointer, blocked where these are blocked, say the same about it one by one.
-/
theorem pointer_undisturbed {d : Touchscreen σ} (enabled : d.enabled = true) (fits : d.selector.index < d.profile.slots)
    {frames : List (List Contact)} (h : d.KeepsContact frames) :
    (∀ k, (d.afterAll ((frames.take k).map .update)).selector.index = d.selector.index) ∧
    List.Forall₂ (fun contacts events => d.blocked contacts = false → .touch false ∉ events)
      frames (d.deliveries (frames.map .update)) ∧
    ∀ others, d.KeepsContact others → List.Forall₂ d.SameForPointer frames others →
      (d.deliveries (frames.map .update)).map (List.filter Event.isPointer) =
        (d.deliveries (others.map .update)).map (List.filter Event.isPointer) := by
  obtain ⟨hstates, hpointer⟩ := run_of_keepsContact enabled fits h
  refine ⟨fun k => ?_, ?_, ?_⟩
  · obtain ⟨sink, tracker, hstate⟩ := hstates k
    rw [hstate]
  · have hreports : List.Forall₂ Eq (frames.map d.pointerReport)
        ((d.deliveries (frames.map .update)).map (List.filter Event.isPointer)) := by
      rw [hpointer, List.forall₂_eq_eq_eq]
    rw [List.forall₂_map_left_iff, List.forall₂_map_right_iff] at hreports
    refine ((List.forall₂_and_left _ _).2 ⟨h.stays, hreports⟩).imp ?_
    rintro contacts events ⟨hstays, hreport⟩ unblocked hreleased
    refine hstays.not_released unblocked ?_
    rw [hreport]
    exact List.mem_filter.2 ⟨hreleased, rfl⟩
  · intro others hothers same
    have hreports : List.Forall₂ (fun contacts contacts' => d.pointerReport contacts = d.pointerReport contacts')
        frames others := same.imp fun _ _ => SameForPointer.pointerReport
    rw [hpointer, (run_of_keepsContact enabled fits hothers).2, ← List.forall₂_eq_eq_eq, List.forall₂_map_left_iff,
      List.forall₂_map_right_iff]
    exact hreports

/-- A contact comes and goes beside the one behind the pointer, and a palm blocks a frame that has no other contact. -/
theorem pointer_undisturbed_by_two_touches :
    let touch (i : Nat) (x : Float) : Contact := { index := some i, mean := { x } }
    let unstable : Contact := { index := some 3, stable := some false }
    let palm : Contact := { index := some 7, valid := some false }
    let device := start ({} : ScriptedSink) { disableOnPalm := true } Profile.standard
    let d := device.afterAll [.update [touch 0 0, touch 3 0], .update [touch 3 0]]
    let frames := [[touch 3 0.25], [palm], [unstable], [touch 3 0.5]]
    let others := [[touch 5 1, touch 3 0.25, touch 0 0], [touch 3 0.75, palm], [unstable, touch 0 1], [touch 3 0.5, touch 3 1]]
    let views (frames : List (List Contact)) := (d.deliveries (frames.map .update)).map (List.filter Event.isPointer)
    d.enabled = true ∧ d.selector.index = 3 ∧ d.KeepsContact frames ∧ d.KeepsContact others ∧
      List.Forall₂ d.SameForPointer frames others ∧
      d.deliveries (frames.map .update) ≠ d.deliveries (others.map .update) ∧ views frames = views others ∧
      views frames = [[.touch true, .axis Event.absX 2400, .axis Event.absY 0], [.touch false], [],
        [.touch true, .axis Event.absX 4800, .axis Event.absY 0]] := by
  intro touch unstable palm device d frames others views
  have enabled : d.enabled = true := by decide +kernel
  have hindex : d.selector.index = 3 := by decide +kernel
  have hsucceeds : ∀ rs, d.Succeeds rs :=
    succeeds_of_reliable (reliable_afterAll (d := device) (ScriptedSink.reliable rfl) _)
  have hpalm : d.blocked [palm] = true := by decide +kernel
  have hpalm' : d.blocked [touch 3 0.75, palm] = true := by decide +kernel
  have hselected : ∀ contacts, d.selected? contacts = contacts.find? (·.index == some 3) := by
    intro contacts
    rw [selected?, hindex]
  have hframes : d.KeepsContact frames := by
    refine ⟨hsucceeds _, fun contacts h => ?_⟩
    simp only [frames, List.mem_cons, List.not_mem_nil, or_false] at h
    rcases h with rfl | rfl | rfl | rfl
    · exact fun _ => ⟨_, hselected _, rfl⟩
    · exact fun unblocked => absurd (hpalm.symm.trans unblocked) (by decide)
    · exact fun _ => ⟨_, hselected _, rfl⟩
    · exact fun _ => ⟨_, hselected _, rfl⟩
  have hothers : d.KeepsContact others := by
    refine ⟨hsucceeds _, fun contacts h => ?_⟩
    simp only [others, List.mem_cons, List.not_mem_nil, or_false] at h
    rcases h with rfl | rfl | rfl | rfl <;> exact fun _ => ⟨_, hselected _, rfl⟩
  have same : List.Forall₂ d.SameForPointer frames others := by
    refine .cons ⟨?_, fun _ => ?_⟩ (.cons ⟨?_, fun unblocked => ?_⟩ (.cons ⟨?_, fun _ => ?_⟩ (.cons ⟨?_, fun _ => ?_⟩ .nil)))
    · decide +kernel
    · rw [hselected, hselected]
      rfl
    · decide +kernel
    · exact absurd (hpalm.symm.trans unblocked) (by decide)
    · decide +kernel
    · rw [hselected, hselected]
      rfl
    · decide +kernel
    · rw [hselected, hselected]
      rfl
  have fits : d.selector.index < d.profile.slots := by decide +kernel
  have hviews := (pointer_undisturbed enabled fits hframes).2.2 others hothers same
  refine ⟨enabled, hindex, hframes, hothers, same, ?_, hviews, ?_⟩ <;> decide +kernel

end Digitizer.Touchscreen
