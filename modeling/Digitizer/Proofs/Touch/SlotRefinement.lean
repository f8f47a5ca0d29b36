import Digitizer.Proofs.Touch.Slots

/-!
# Slots follow the frames

Over a sink that refuses nothing, what the slots show after a request is a function of the frame and of what they showed
before. The tracker remembers only two frames, and that is enough because every slot that is down belongs to a contact of
the current frame (`Tracked`).
-/
namespace Digitizer

/-- The last stable contact of a frame with an index. -/
def lastStable? (frame : List Contact) (i : Nat) : Option Contact :=
  (frame.filter fun c => c.index == some i && c.isStable).getLast?

theorem lastStable?_eq_none_iff {frame : List Contact} {i : Nat} :
    lastStable? frame i = none ↔ ∀ c ∈ frame, c.index = some i → c.isStable = false := by
  rw [lastStable?, List.getLast?_eq_none_iff, List.filter_eq_nil_iff]
  simp only [Bool.and_eq_true, beq_iff_eq, not_and, Bool.not_eq_true]

theorem of_lastStable? {frame : List Contact} {i : Nat} {c : Contact} (h : lastStable? frame i = some c) :
    c ∈ frame ∧ c.index = some i ∧ c.isStable = true := by
  have hc := List.mem_filter.1 (List.mem_of_getLast? h)
  simpa only [Bool.and_eq_true, beq_iff_eq] using hc

/-- No slot is down. -/
def Receiver.AllLifted (r : Receiver) : Prop := ∀ s, (r.slot s).down = false

/-- What the slots show after a frame has been reported, by what they showed `before` it. -/
structure FrameShown (config : Config) (p : Profile) (frame : List Contact) (before after : Receiver) : Prop where
  /-- The last stable contact decides. Contacts that are all unstable leave their slot, and without a contact it is up. -/
  down_iff : ∀ i < p.slots, (after.slot (slotNumber i)).down = true ↔
    (∃ c, lastStable? frame i = some c ∧ c.isValid = true) ∨
      (∃ c ∈ frame, c.index = some i) ∧ (∀ c ∈ frame, c.index = some i → c.isStable = false) ∧
        (before.slot (slotNumber i)).down = true
  axes : ∀ i < p.slots, ∀ c, lastStable? frame i = some c → c.isValid = true →
    ∀ a ∈ c.axes config p, (after.slot (slotNumber i)).axis a.1 = some a.2
  /-- Numbers that no index has stay up. -/
  numbered : ∀ s, (after.slot s).down = true → ∃ i < p.slots, slotNumber i = s

/-- What the slots show after a request, by what they showed `before` it and by whether the device was enabled. -/
def SlotsFollow (config : Config) (p : Profile) (enabled : Bool) (before : Receiver) :
    Touchscreen.Request → Receiver → Prop
  | .update contacts, after =>
    let frame := contacts.filter (Contact.fits p.slots)
    let blocked := config.disableOnPalm && frame.any (!·.isValid)
    (enabled && !blocked → FrameShown config p frame before after) ∧ (!enabled || blocked → after.AllLifted)
  | .disable, after => after.AllLifted
  | .enable, after => after.slot = before.slot

/-! ## Stable contacts one after another -/

section
variable (config : Config) (p : Profile)

/-- The last contact decides whether the slot is down. -/
theorem down_foldl_leave (cs : List Contact) (s : SlotState) :
    (cs.foldl (Contact.leave config p) s).down = (cs.getLast?.map Contact.isValid).getD s.down := by
  cases h : cs.getLast? with
  | none =>
    rw [List.getLast?_eq_none_iff.1 h]
    rfl
  | some c =>
    obtain ⟨init, rfl⟩ := List.getLast?_eq_some_iff.1 h
    simp

/-- The last contact, if it is valid, decides the axes. -/
theorem axis_foldl_leave {cs : List Contact} {c : Contact} (last : cs.getLast? = some c) (valid : c.isValid = true)
    (s : SlotState) : ∀ a ∈ c.axes config p, (cs.foldl (Contact.leave config p) s).axis a.1 = some a.2 := by
  obtain ⟨init, rfl⟩ := List.getLast?_eq_some_iff.1 last
  rw [List.foldl_append]
  exact c.axis_leave config p _ valid

end

/-- Where every index has a slot, the contacts for the slot of an index are those with the index. -/
theorem filter_isFor {frame : List Contact} (fits : ∀ c ∈ frame, ∀ j, c.index = some j → j < 2147483648) {i : Nat}
    (hi : i < 2147483648) :
    (frame.filter fun c => c.isFor (slotNumber i) && c.isStable)
      = frame.filter fun c => c.index == some i && c.isStable := by
  refine List.filter_congr fun c hc => ?_
  cases hj : c.index with
  | none => simp [Contact.isFor, hj]
  | some j =>
    have hbeq : (slotNumber j == slotNumber i) = (j == i) := by
      rw [Bool.eq_iff_iff, beq_iff_eq, beq_iff_eq]
      exact slotNumber_inj (fits c hc j hj) hi
    simp [Contact.isFor, hj, hbeq]

namespace Touchscreen
variable {σ : Type}

/-! ## What a plan does to a slot -/

theorem fits_slotted (d : Touchscreen σ) (contacts : List Contact) :
    ∀ c ∈ d.slotted contacts, ∀ i, c.index = some i → i < 2147483648 := fun _ hc _ hi =>
  Profile.lt_of_lt_slots (lt_slots_of_mem_slotted hc hi)

theorem slot_plan_presented {d : Touchscreen σ} {contacts : List Contact} (h : d.presents (d.slotted contacts) = true)
    (known : Receiver) (s : Int32) :
    let left := ((d.slotted contacts).filter fun c => c.isFor s && c.isStable).foldl
      (Contact.leave d.config d.profile) (known.slot s)
    (known.replay (d.plan (.update contacts))).slot s =
      if ∃ i ∈ (d.tracker.advance (d.slotted contacts)).gone, slotNumber i = s then left.lift else left := by
  simp only [plan, h, if_true, Report.multitouch, Receiver.replay_append, Receiver.replay_cons, Receiver.replay_nil,
    Receiver.receive_report, slot_pointer, slot_releases, slot_contacts _ _ (fits_slotted d contacts), List.mem_map,
    IndexSet.mem_toList]

theorem plan_blocked {d : Touchscreen σ} {contacts : List Contact} (h : d.presents (d.slotted contacts) = false) :
    d.plan (.update contacts) =
      Report.releaseAll (d.tracker.advance (d.slotted contacts)).remembered ++ [Event.report] := by
  simp [plan, h]

theorem slot_releaseAll (tracked : IndexSet) (known : Receiver) (s : Int32) :
    (known.replay (Report.releaseAll tracked ++ [Event.report])).slot s =
      if ∃ i ∈ tracked, slotNumber i = s then (known.slot s).lift else known.slot s := by
  have htouch : ∀ r : Receiver, (r.receive (.touch false)).slot = r.slot := fun _ => rfl
  simp only [Report.releaseAll, Receiver.replay_append, Receiver.replay_cons, Receiver.replay_nil,
    Receiver.receive_report, htouch, slot_releases, List.mem_map, IndexSet.mem_toList]

/-- Releasing a set lifts everything if every slot that is down belongs to a member. -/
theorem allLifted_releaseAll {tracked : IndexSet} {known : Receiver}
    (h : ∀ s, (known.slot s).down = true → ∃ i ∈ tracked, slotNumber i = s) :
    (known.replay (Report.releaseAll tracked ++ [Event.report])).AllLifted := by
  intro s
  rw [slot_releaseAll]
  split
  · rfl
  · next hs =>
    rw [← Bool.not_eq_true]
    exact fun hdown => hs (h s hdown)

/-! ## The invariant of the tracker -/

/-- Every slot that is down belongs to a contact of the current frame, and every index that is remembered has a slot. -/
structure Tracked (d : Touchscreen σ) (known : Receiver) : Prop where
  fits : ∀ i ∈ d.tracker.remembered, i < d.profile.slots
  down : ∀ s, (known.slot s).down = true → ∃ i ∈ d.tracker.current, slotNumber i = s

/-- The index of a contact is not gone, so its slot is as the stable contacts leave it. -/
theorem Tracked.slot_of_mem {d : Touchscreen σ} {known : Receiver} {contacts : List Contact} (h : Tracked d known)
    (hp : d.presents (d.slotted contacts) = true) {i : Nat} (hi : i ∈ indices (d.slotted contacts)) :
    (known.replay (d.plan (.update contacts))).slot (slotNumber i) =
      ((d.slotted contacts).filter fun c => c.index == some i && c.isStable).foldl
        (Contact.leave d.config d.profile) (known.slot (slotNumber i)) := by
  obtain ⟨c, hc, hci⟩ := mem_indices.1 hi
  have hlt := fits_slotted d contacts c hc i hci
  have hkept : ¬∃ j ∈ (d.tracker.advance (d.slotted contacts)).gone, slotNumber j = slotNumber i := by
    rintro ⟨j, hj, hs⟩
    obtain ⟨hprevious, hcurrent⟩ := Tracker.mem_gone_advance.1 hj
    have hslots := h.fits j (Tracker.mem_remembered.2 (Or.inl hprevious))
    rw [(slotNumber_inj (Profile.lt_of_lt_slots hslots) hlt).1 hs] at hcurrent
    exact hcurrent hi
  have hslot := slot_plan_presented hp known (slotNumber i)
  simp only [filter_isFor (fits_slotted d contacts) hlt, hkept, if_false] at hslot
  exact hslot

/-- A slot without a contact is up afterwards: either it was up, or its index is gone and it is lifted. -/
theorem Tracked.mem_of_down {d : Touchscreen σ} {known : Receiver} {contacts : List Contact} (h : Tracked d known)
    (hp : d.presents (d.slotted contacts) = true) {s : Int32}
    (hdown : ((known.replay (d.plan (.update contacts))).slot s).down = true) :
    ∃ i ∈ indices (d.slotted contacts), slotNumber i = s := by
  by_cases hs : ∃ i ∈ indices (d.slotted contacts), slotNumber i = s
  · exact hs
  · have hnone : ((d.slotted contacts).filter fun c => c.isFor s && c.isStable) = [] := by
      refine List.filter_eq_nil_iff.2 fun c hc => ?_
      cases hi : c.index with
      | none => simp [Contact.isFor, hi]
      | some i =>
        have hne : slotNumber i ≠ s := fun his => hs ⟨i, mem_indices.2 ⟨c, hc, hi⟩, his⟩
        simp [Contact.isFor, hi, hne]
    have hslot := slot_plan_presented hp known s
    simp only [hnone, List.foldl_nil] at hslot
    rw [hslot] at hdown
    split at hdown
    · exact absurd hdown Bool.false_ne_true
    · next hgone =>
      obtain ⟨i, hi, his⟩ := h.down s hdown
      exact absurd ⟨i, Tracker.mem_gone_advance.2 ⟨hi, fun hmem => hs ⟨i, hmem, his⟩⟩, his⟩ hgone

/-- A frame that is reported shows in the slots. -/
theorem Tracked.presented {d : Touchscreen σ} {known : Receiver} {contacts : List Contact} (h : Tracked d known)
    (hp : d.presents (d.slotted contacts) = true) :
    FrameShown d.config d.profile (d.slotted contacts) known (known.replay (d.plan (.update contacts))) := by
  refine ⟨?_, ?_, ?_⟩
  · intro i hi
    by_cases hmem : i ∈ indices (d.slotted contacts)
    · rw [h.slot_of_mem hp hmem, down_foldl_leave, ← lastStable?, ← lastStable?_eq_none_iff]
      cases lastStable? (d.slotted contacts) i <;> simp [mem_indices.1 hmem]
    · have hnone : ∀ c ∈ d.slotted contacts, c.index ≠ some i := fun c hc hci => hmem (mem_indices.2 ⟨c, hc, hci⟩)
      constructor
      · intro hdown
        obtain ⟨j, hj, hs⟩ := h.mem_of_down hp hdown
        obtain ⟨c, hc, hcj⟩ := mem_indices.1 hj
        have hji := (slotNumber_inj (fits_slotted d contacts c hc j hcj) (Profile.lt_of_lt_slots hi)).1 hs
        exact absurd (hji ▸ hj) hmem
      · rintro (⟨c, hc, -⟩ | ⟨⟨c, hc, hci⟩, -⟩)
        · obtain ⟨hc, hci, -⟩ := of_lastStable? hc
          exact absurd hci (hnone c hc)
        · exact absurd hci (hnone c hc)
  · intro i hi c hc valid
    obtain ⟨hmem, hci, -⟩ := of_lastStable? hc
    rw [h.slot_of_mem hp (mem_indices.2 ⟨c, hmem, hci⟩)]
    exact axis_foldl_leave d.config d.profile hc valid _
  · intro s hdown
    obtain ⟨i, hi, his⟩ := h.mem_of_down hp hdown
    obtain ⟨c, hc, hci⟩ := mem_indices.1 hi
    exact ⟨i, lt_slots_of_mem_slotted hc hci, his⟩

/-- What is down is remembered also after a new frame, so that releasing all that is remembered lifts everything. -/
theorem Tracked.blocked {d : Touchscreen σ} {known : Receiver} {contacts : List Contact} (h : Tracked d known)
    (hp : d.presents (d.slotted contacts) = false) : (known.replay (d.plan (.update contacts))).AllLifted := by
  rw [plan_blocked hp]
  refine allLifted_releaseAll fun s hdown => ?_
  obtain ⟨i, hi, his⟩ := h.down s hdown
  exact ⟨i, Tracker.mem_remembered_advance.2 (Or.inr hi), his⟩

theorem Tracked.disabled {d : Touchscreen σ} {known : Receiver} (h : Tracked d known) :
    (known.replay (d.plan .disable)).AllLifted := by
  refine allLifted_releaseAll fun s hdown => ?_
  obtain ⟨i, hi, his⟩ := h.down s hdown
  exact ⟨i, Tracker.mem_remembered.2 (Or.inl hi), his⟩

variable [Sink σ]

/-- The invariant is kept by every request of which everything arrives. -/
theorem Tracked.step_of_delivered {d : Touchscreen σ} {known : Receiver} (h : Tracked d known) {r : Request}
    (hplan : d.delivered r = d.plan r) : Tracked (d.after r) (known.replay (d.delivered r)) := by
  refine ⟨?_, ?_⟩
  · have hfits := lt_slots_of_remembered h.fits [r]
    rw [afterAll_cons, afterAll_nil] at hfits
    rwa [(settings_after d r).2]
  · intro s hdown
    rw [hplan] at hdown
    cases r with
    | update contacts =>
      rw [tracker_after_update, Tracker.current_advance]
      cases hp : d.presents (d.slotted contacts) with
      | true => exact h.mem_of_down hp hdown
      | false => exact absurd hdown (by simp [h.blocked hp s])
    | disable => exact absurd hdown (by simp [h.disabled s])
    | enable => exact h.down s hdown

theorem Tracked.step {d : Touchscreen σ} {known : Receiver} (h : Tracked d known) (reliable : Sink.Reliable d.sink)
    (r : Request) : Tracked (d.after r) (known.replay (d.delivered r)) :=
  h.step_of_delivered (serve_of_reliable reliable r).1

/-- The invariant is kept by every run that succeeds. -/
theorem Tracked.run {d : Touchscreen σ} {known : Receiver} (h : Tracked d known) {rs : List Request}
    (succeeds : d.Succeeds rs) : Tracked (d.afterAll rs) (known.replay (d.transcript rs)) := by
  induction rs generalizing d known with
  | nil => exact h
  | cons r rs ih =>
    obtain ⟨ok, hrest⟩ := succeeds_cons.1 succeeds
    have hnext := ih (h.step_of_delivered ((sends_serve r d).all () ok)) hrest
    rwa [afterAll_cons, transcript_cons, Receiver.replay_append]

omit [Sink σ] in
theorem tracked_start (sink : σ) (config : Config) (p : Profile) : Tracked (start sink config p) {} where
  fits := by
    intro i hi
    simp [start] at hi
  down := by
    intro s hdown
    exact absurd hdown Bool.false_ne_true

/-- Over a reliable sink the invariant holds after every run. -/
theorem tracked_shown {sink : σ} (reliable : Sink.Reliable sink) (config : Config) (p : Profile) (rs : List Request) :
    let d := start sink config p
    Sink.Reliable (d.afterAll rs).sink ∧ Tracked (d.afterAll rs) (d.shown rs) := by
  intro d
  exact ⟨reliable_afterAll (d := d) reliable rs,
    (tracked_start sink config p).run (succeeds_of_reliable (d := d) reliable rs)⟩

/--
Over a sink that never refuses an event, and after any run, every request shows in the slots as the frame and the slots
before it say.
-/
theorem slots_follow_requests {sink : σ} (reliable : Sink.Reliable sink) (config : Config) (p : Profile)
    (rs : List Request) (r : Request) :
    let d := start sink config p
    SlotsFollow config p (d.afterAll rs).enabled (d.shown rs) r (d.shown (rs ++ [r])) := by
  intro d
  obtain ⟨hreliable, htracked⟩ := tracked_shown reliable config p rs
  obtain ⟨hconfig, hprofile⟩ := settings_afterAll d rs
  rw [shown_snoc, (serve_of_reliable hreliable r).1]
  cases r with
  | update contacts =>
    have hframe : (d.afterAll rs).slotted contacts = contacts.filter (Contact.fits p.slots) :=
      slotted_afterAll d rs contacts
    have hpresents : ∀ frame, (d.afterAll rs).presents frame =
        ((d.afterAll rs).enabled && !(config.disableOnPalm && frame.any (!·.isValid))) := by
      intro frame
      rw [presents, palmBlocks, hconfig]
      rfl
    rw [SlotsFollow, ← hframe]
    constructor
    · intro hp
      have hshown := htracked.presented ((hpresents _).trans hp)
      rw [hconfig, hprofile] at hshown
      exact hshown
    · intro hp
      refine htracked.blocked ((hpresents _).trans ?_)
      rw [← Bool.not_eq_true', Bool.not_and, Bool.not_not]
      exact hp
  | disable => exact htracked.disabled
  | enable => rfl

/-- An unstable contact keeps its slot, a contact that is gone frees it, and a contact that is rejected last frees it too. -/
theorem slots_follow_requests_of_three_contacts :
    let touch (i : Nat) : Contact := { index := some i }
    let unstable (i : Nat) : Contact := { index := some i, stable := some false }
    let rejected (i : Nat) : Contact := { index := some i, valid := some false }
    let d := start ({} : ScriptedSink) {} Profile.standard
    let rs := [.update [touch 1, touch 2]]
    let r := .update [unstable 1, touch 3, rejected 3, touch 20]
    Sink.Reliable ({} : ScriptedSink) ∧
      SlotsFollow {} Profile.standard (d.afterAll rs).enabled (d.shown rs) r (d.shown (rs ++ [r])) ∧
      [1, 2, 3].map (fun s => ((d.shown rs).slot s).down) = [true, true, false] ∧
      [1, 2, 3].map (fun s => ((d.shown (rs ++ [r])).slot s).down) = [true, false, false] := by
  intro touch unstable rejected d rs r
  have reliable : Sink.Reliable ({} : ScriptedSink) := ScriptedSink.reliable rfl
  refine ⟨reliable, slots_follow_requests reliable {} Profile.standard rs r, ?_, ?_⟩ <;> decide +kernel

end Touchscreen
end Digitizer
