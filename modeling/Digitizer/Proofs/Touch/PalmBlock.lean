import Digitizer.Proofs.Touch.SlotRefinement

/-!
# What a palm blocks

Where palms block, a palm lifts everything, but only a palm that is seen: contacts without a slot are dropped before anything
looks for palms. So a frame clears the screen after every run if and only if one of its palms is among the contacts that are
kept, or none of those has an index.
-/
namespace Digitizer

/-- Whether an event puts a slot or the pointer down. -/
def Event.presses (e : Event) : Bool :=
  e.type == abs && e.code == mtTrackingId && decide (0 ≤ e.value) || e.type == key && e.code == btnTouch && e.value == 1

/-- Releasing presses nothing. -/
theorem presses_releaseAll (tracked : IndexSet) :
    ∀ e ∈ Report.releaseAll tracked ++ [Event.report], e.presses = false :=
  Report.forall_releaseAll (P := (·.presses = false)) (fun _ => rfl) rfl rfl rfl tracked

/-- A frame whose contacts have no indices releases the pointer, and none of them becomes its successor. -/
theorem Selector.select_of_unindexed {frame : List Contact} (unindexed : ∀ c ∈ frame, c.index = none) (s : Selector)
    (lifted : IndexSet) (enabled : Bool) : s.select frame lifted enabled = (.up, s) := by
  have hfollowed : s.followed? frame = none := by
    have hfind : frame.find? (·.index == some s.index) = none :=
      List.find?_eq_none.2 fun c hc => by simp [unindexed c hc]
    rw [followed?, hfind]
    rfl
  have hsuccessor : s.successor? frame = none := List.findSome?_eq_none_iff.2 fun c hc => by simp [unindexed c hc]
  simp [select, hfollowed, hsuccessor]

theorem Contact.isValid_eq_false {c : Contact} : c.isValid = false ↔ c.valid = some false := by
  cases h : c.valid <;> simp [isValid, h]

namespace Touchscreen
variable {σ : Type}

theorem presents_iff {d : Touchscreen σ} {frame : List Contact} :
    d.presents frame = true ↔
      d.enabled = true ∧ (d.config.disableOnPalm = true → ∀ c ∈ frame, c.isValid = true) := by
  cases hb : d.config.disableOnPalm <;> simp [presents, palmBlocks, hb]

theorem selector_settle_blocked {d : Touchscreen σ} {contacts : List Contact}
    (h : d.presents (d.slotted contacts) = false) : (d.settle (.update contacts)).selector = d.selector := by
  simp [settle, h]

/-- A frame without an index only releases what is gone. -/
theorem plan_unindexed {d : Touchscreen σ} {contacts : List Contact} (hp : d.presents (d.slotted contacts) = true)
    (unindexed : ∀ c ∈ d.slotted contacts, c.index = none) :
    d.plan (.update contacts) = Report.releaseAll (d.tracker.advance (d.slotted contacts)).gone ++ [Event.report] ∧
      (d.settle (.update contacts)).selector = d.selector := by
  have hselection : d.selection (d.slotted contacts) = (.up, d.selector) :=
    Selector.select_of_unindexed unindexed d.selector _ d.enabled
  have hcontacts : (d.slotted contacts).flatMap (Report.contact d.config d.profile) = [] :=
    List.flatMap_eq_nil_iff.2 fun c hc => by simp [Report.contact, unindexed c hc]
  constructor
  · simp [plan, hp, hselection, Report.multitouch, hcontacts, Report.pointer, Report.releaseAll]
  · simp [settle, hp, hselection]

variable {d : Touchscreen σ} {known : Receiver} {contacts : List Contact}

/-- A frame of valid contacts leaves the slots of its contacts down if they were down before. -/
theorem Tracked.down_of_valid (h : Tracked d known) (hp : d.presents (d.slotted contacts) = true)
    (valid : ∀ c ∈ d.slotted contacts, c.isValid = true) {c : Contact} (hc : c ∈ d.slotted contacts) {i : Nat}
    (hi : c.index = some i) (down : (known.slot (slotNumber i)).down = true) :
    ((known.replay (d.plan (.update contacts))).slot (slotNumber i)).down = true := by
  rw [(h.presented hp).down_iff i (lt_slots_of_mem_slotted hc hi)]
  cases hlast : lastStable? (d.slotted contacts) i with
  | some last => exact Or.inl ⟨last, rfl, valid last (of_lastStable? hlast).1⟩
  | none => exact Or.inr ⟨⟨c, hc, hi⟩, lastStable?_eq_none_iff.1 hlast, down⟩

variable [Sink σ]

/-- An update that presses nothing, lifts everything that a receiver `known` believes down and leaves the selector. -/
structure Clears (d : Touchscreen σ) (known : Receiver) (contacts : List Contact) : Prop where
  silent : ∀ e ∈ d.delivered (.update contacts), e.presses = false
  lifted : (known.replay (d.delivered (.update contacts))).AllLifted
  released : (known.replay (d.delivered (.update contacts))).pressed = false
  selector : (d.after (.update contacts)).selector = d.selector

/-- An update whose plan is to release a set of indices clears the screen if nothing else is down. -/
theorem clears_of_plan (reliable : Sink.Reliable d.sink) {tracked : IndexSet}
    (hplan : d.plan (.update contacts) = Report.releaseAll tracked ++ [Event.report])
    (hlifted : (known.replay (d.plan (.update contacts))).AllLifted)
    (hselector : (d.settle (.update contacts)).selector = d.selector) : d.Clears known contacts := by
  obtain ⟨hdelivered, hsettle, -⟩ := serve_of_reliable reliable (.update contacts)
  have hafter := congrArg selector hsettle
  refine ⟨?_, ?_, ?_, ?_⟩
  · rw [hdelivered, hplan]
    exact presses_releaseAll tracked
  · rwa [hdelivered]
  · rw [hdelivered, hplan]
    exact pressed_releaseAll tracked known
  · exact hafter.trans hselector

/-- A frame that is not reported clears the screen. -/
theorem Tracked.clears_blocked (h : Tracked d known) (reliable : Sink.Reliable d.sink)
    (hp : d.presents (d.slotted contacts) = false) : d.Clears known contacts :=
  clears_of_plan reliable (plan_blocked hp) (h.blocked hp) (selector_settle_blocked hp)

/-- So does a frame that is reported but has no index. -/
theorem Tracked.clears_unindexed (h : Tracked d known) (reliable : Sink.Reliable d.sink)
    (unindexed : ∀ c ∈ d.slotted contacts, c.index = none) : d.Clears known contacts := by
  cases hp : d.presents (d.slotted contacts) with
  | false => exact h.clears_blocked reliable hp
  | true =>
    obtain ⟨hplan, hselector⟩ := plan_unindexed hp unindexed
    refine clears_of_plan reliable hplan (fun s => ?_) hselector
    rw [← Bool.not_eq_true]
    intro hdown
    obtain ⟨i, hi, -⟩ := h.mem_of_down hp hdown
    obtain ⟨c, hc, hci⟩ := mem_indices.1 hi
    rw [unindexed c hc] at hci
    exact absurd hci (Option.some_ne_none i).symm

/-- A single touch puts its slot down, and leaves the device enabled. -/
theorem shown_touch {sink : σ} (reliable : Sink.Reliable sink) (config : Config) {p : Profile} {i : Nat}
    (hi : i < p.slots) :
    let d := start sink config p
    let touch : Request := .update [{ index := some i }]
    (d.afterAll [touch]).enabled = true ∧ ((d.shown [touch]).slot (slotNumber i)).down = true := by
  intro d touch
  have hslotted : d.slotted [{ index := some i }] = [{ index := some i }] := by
    simp [slotted, Contact.fits, d, start, hi]
  have hp : d.presents (d.slotted [{ index := some i }]) = true := by
    rw [hslotted, presents_iff]
    simp [d, start, Contact.isValid]
  have hlast : lastStable? (d.slotted [{ index := some i }]) i = some { index := some i } := by
    simp [hslotted, lastStable?, Contact.isStable]
  have hshown : d.shown [touch] = Receiver.replay {} (d.plan touch) := by
    rw [← (serve_of_reliable reliable touch).1]
    exact shown_snoc d [] touch
  have hframe := (tracked_start sink config p).presented hp
  refine ⟨enabled_after_update d _, ?_⟩
  rw [hshown]
  exact (hframe.down_iff i hi).2 (Or.inl ⟨_, hlast, rfl⟩)

/-- A frame of valid contacts, one of them with a slot, leaves that slot down after a touch in it. -/
theorem not_clears_after_touch {sink : σ} (reliable : Sink.Reliable sink) (config : Config) {p : Profile}
    {contacts : List Contact} (valid : ∀ c ∈ contacts.filter (Contact.fits p.slots), c.isValid = true) {c : Contact}
    (hc : c ∈ contacts) {i : Nat} (hi : c.index = some i) (hlt : i < p.slots) :
    let d := start sink config p
    ∃ rs, (d.afterAll rs).enabled = true ∧ ¬(d.afterAll rs).Clears (d.shown rs) contacts := by
  intro d
  let rs : List Request := [.update [{ index := some i }]]
  obtain ⟨enabled, hdown⟩ := shown_touch reliable config hlt
  obtain ⟨hreliable, h⟩ := tracked_shown reliable config p rs
  have hframe : (d.afterAll rs).slotted contacts = contacts.filter (Contact.fits p.slots) := slotted_afterAll d rs contacts
  have hslotted : c ∈ (d.afterAll rs).slotted contacts := by
    rw [hframe]
    exact List.mem_filter.2 ⟨hc, by simp [Contact.fits, hi, hlt]⟩
  rw [← hframe] at valid
  have hstill := h.down_of_valid (presents_iff.2 ⟨enabled, fun _ => valid⟩) valid hslotted hi hdown
  refine ⟨rs, enabled, fun hclears => ?_⟩
  have hlifted := hclears.lifted (slotNumber i)
  rw [(serve_of_reliable hreliable _).1, hstill] at hlifted
  exact Bool.false_ne_true hlifted.symm

/--
Over a sink that never refuses an event and where palms block, a disabled device clears the screen at every update. An enabled
one does so for a frame, whatever came before it, if and only if a palm of the frame has a slot or needs none, or no contact of
the frame has a slot.
-/
theorem frame_clears_screen_iff {sink : σ} (reliable : Sink.Reliable sink) {config : Config}
    (blocks : config.disableOnPalm = true) (p : Profile) (contacts : List Contact) :
    let d := start sink config p
    (∀ rs, (d.afterAll rs).enabled = false → (d.afterAll rs).Clears (d.shown rs) contacts) ∧
      ((∀ rs, (d.afterAll rs).enabled = true → (d.afterAll rs).Clears (d.shown rs) contacts) ↔
        (∃ palm ∈ contacts, palm.valid = some false ∧ ∀ i, palm.index = some i → i < p.slots) ∨
          ∀ c ∈ contacts, ∀ i, c.index = some i → p.slots ≤ i) := by
  intro d
  have hfits : ∀ c : Contact, c.fits p.slots = true ↔ ∀ i, c.index = some i → i < p.slots := by
    intro c
    simp [Contact.fits, Option.all_eq_true]
  have hslotted : ∀ rs, (d.afterAll rs).slotted contacts = contacts.filter (Contact.fits p.slots) := fun rs =>
    slotted_afterAll d rs contacts
  have htracked : ∀ rs, Sink.Reliable (d.afterAll rs).sink ∧ Tracked (d.afterAll rs) (d.shown rs) :=
    tracked_shown reliable config p
  refine ⟨fun rs disabled => ?_, fun hclears => ?_, ?_⟩
  · obtain ⟨hreliable, h⟩ := htracked rs
    exact h.clears_blocked hreliable (by simp [presents, disabled])
  · by_cases hpalm : ∃ palm ∈ contacts, palm.valid = some false ∧ ∀ i, palm.index = some i → i < p.slots
    · exact Or.inl hpalm
    · refine Or.inr fun c hc i hi => Nat.not_lt.1 fun hlt => ?_
      have hvalid : ∀ b ∈ contacts.filter (Contact.fits p.slots), b.isValid = true := by
        intro b hb
        obtain ⟨hmem, hb⟩ := List.mem_filter.1 hb
        rw [← Bool.not_eq_false, Contact.isValid_eq_false]
        exact fun rejected => hpalm ⟨b, hmem, rejected, (hfits b).1 hb⟩
      obtain ⟨rs, enabled, hkept⟩ := not_clears_after_touch reliable config hvalid hc hi hlt
      exact hkept (hclears rs enabled)
  · rintro (⟨palm, hmem, rejected, hslot⟩ | hunindexed) rs -
    · obtain ⟨hreliable, h⟩ := htracked rs
      refine h.clears_blocked hreliable ?_
      rw [← Bool.not_eq_true, presents_iff, hslotted, (settings_afterAll d rs).1]
      rintro ⟨-, hvalid⟩
      have hpalm := hvalid blocks palm (List.mem_filter.2 ⟨hmem, (hfits palm).2 hslot⟩)
      rw [Contact.isValid_eq_false.2 rejected] at hpalm
      exact Bool.false_ne_true hpalm
    · obtain ⟨hreliable, h⟩ := htracked rs
      refine h.clears_unindexed hreliable fun c hc => ?_
      rw [hslotted, List.mem_filter, hfits] at hc
      cases hi : c.index with
      | none => rfl
      | some i => exact absurd (hc.2 i hi) (Nat.not_lt.2 (hunindexed c hc.1 i hi))

/-- A palm without an index that is unstable and comes last releases two touches and the pointer on one of them. -/
theorem palm_without_index_clears_screen :
    let touch (i : Nat) : Contact := { index := some i }
    let palm : Contact := { valid := some false, stable := some false }
    let config : Config := { disableOnPalm := true }
    let d := start ({} : ScriptedSink) config Profile.standard
    let rs := [.update [touch 1, touch 2], .update [touch 1, touch 2]]
    Sink.Reliable ({} : ScriptedSink) ∧ config.disableOnPalm = true ∧
      (d.shown rs).pressed = true ∧ ((d.shown rs).slot 2).down = true ∧
      (d.afterAll rs).enabled = true ∧ (d.afterAll rs).Clears (d.shown rs) [touch 1, palm] := by
  intro touch palm config d rs
  have reliable : Sink.Reliable ({} : ScriptedSink) := ScriptedSink.reliable rfl
  have enabled : (d.afterAll rs).enabled = true := by decide +kernel
  have hpalm : ∃ b ∈ [touch 1, palm], b.valid = some false ∧ ∀ i, b.index = some i → i < Profile.standard.slots :=
    ⟨palm, by simp, rfl, fun i hi => absurd hi (Option.some_ne_none i).symm⟩
  have hclears := (frame_clears_screen_iff reliable (rfl : config.disableOnPalm = true) Profile.standard
    [touch 1, palm]).2.2 (Or.inl hpalm) rs enabled
  refine ⟨reliable, rfl, ?_, ?_, enabled, hclears⟩ <;> decide +kernel

/-- A palm whose index has no slot is dropped before palms are looked for. The touch beside it goes down with the pointer. -/
theorem palm_without_slot_clears_nothing :
    let touch : Contact := { index := some 0 }
    let palm : Contact := { index := some 16, valid := some false }
    let config : Config := { disableOnPalm := true }
    let d := start ({} : ScriptedSink) config Profile.standard
    Sink.Reliable ({} : ScriptedSink) ∧ config.disableOnPalm = true ∧ palm.valid = some false ∧
      (d.delivered (.update [touch, palm])).any Event.presses = true ∧
      ((d.shown [.update [touch, palm]]).slot 0).down = true ∧ (d.shown [.update [touch, palm]]).pressed = true := by
  intro touch palm config d
  refine ⟨ScriptedSink.reliable rfl, rfl, rfl, ?_, ?_, ?_⟩ <;> decide +kernel

end Touchscreen
end Digitizer
