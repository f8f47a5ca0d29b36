import Digitizer.Proofs.Touch.SlotRefinement

/-!
# The pointer agrees with its slot

The slots and the pointer are reported by separate events and follow separate states, the tracker and the selector. As long as
no frame holds two contacts with the same index, a pressed pointer is nevertheless always where the slot of the selected
index is: the pointer moves only together with that slot, and it stays only when the slot stays.
-/
namespace Digitizer

/-- No two contacts of a frame have the same index. -/
def Contact.Distinct (frame : List Contact) : Prop := (frame.filterMap (·.index)).Nodup

instance (frame : List Contact) : Decidable (Contact.Distinct frame) := inferInstanceAs (Decidable (List.Nodup _))

theorem Contact.Distinct.filter_index {frame : List Contact} (h : Contact.Distinct frame) {c : Contact} (hc : c ∈ frame)
    {i : Nat} (hi : c.index = some i) : frame.filter (·.index == some i) = [c] := by
  have hnone : ∀ {cs : List Contact}, i ∉ cs.filterMap (·.index) → cs.filter (·.index == some i) = [] := by
    intro cs hcs
    refine List.filter_eq_nil_iff.2 fun b hb hbi => ?_
    exact hcs (List.mem_filterMap.2 ⟨b, hb, eq_of_beq hbi⟩)
  induction frame with
  | nil => simp at hc
  | cons b bs ih =>
    rw [Contact.Distinct, List.filterMap_cons] at h
    rcases List.mem_cons.1 hc with rfl | hc
    · rw [hi] at h
      rw [List.filter_cons_of_pos (by simp [hi]), hnone (List.nodup_cons.1 h).1]
    · cases hb : b.index with
      | none =>
        rw [hb] at h
        rw [List.filter_cons_of_neg (by simp [hb]), ih h hc]
      | some j =>
        rw [hb] at h
        obtain ⟨hj, hbs⟩ := List.nodup_cons.1 h
        have hne : j ≠ i := by
          rintro rfl
          exact hj (List.mem_filterMap.2 ⟨c, hc, hi⟩)
        rw [List.filter_cons_of_neg (by simp [hb, hne]), ih hbs hc]

/-- In a frame without repetitions the stable contacts with an index are the contact with it, if it is stable. -/
theorem Contact.Distinct.filter_stable {frame : List Contact} (h : Contact.Distinct frame) {c : Contact} (hc : c ∈ frame)
    {i : Nat} (hi : c.index = some i) :
    (frame.filter fun b => b.index == some i && b.isStable) = if c.isStable then [c] else [] := by
  have hswap : (fun b : Contact => b.index == some i && b.isStable) = fun b => b.isStable && b.index == some i :=
    funext fun b => Bool.and_comm _ _
  rw [hswap, ← List.filter_filter, h.filter_index hc hi]
  by_cases hs : c.isStable = true <;> simp [hs]

namespace Selector

theorem of_followed? {s : Selector} {frame : List Contact} {c : Contact} (h : s.followed? frame = some c) :
    c ∈ frame ∧ c.index = some s.index ∧ c.isValid = true := by
  obtain ⟨hfind, valid⟩ := Option.filter_eq_some_iff.1 h
  have hindex := List.find?_some hfind
  exact ⟨List.mem_of_find?_eq_some hfind, eq_of_beq hindex, valid⟩

/-- Either the pointer is up, or it is on the contact that it follows and the selector stays. -/
theorem select_cases (s : Selector) (frame : List Contact) (lifted : IndexSet) (enabled : Bool) :
    (s.select frame lifted enabled).1 = .up ∨
      ∃ c, s.followed? frame = some c ∧
        s.select frame lifted enabled = (if c.isStable then .down c else .hold, s) := by
  by_cases he : enabled = true
  · by_cases hl : s.index ∈ lifted
    · left
      simp [select, he, hl]
    · cases hf : s.followed? frame with
      | none =>
        left
        simp [select, he, hl, hf]
      | some c =>
        right
        exact ⟨c, rfl, by simp [select, he, hl, hf]⟩
  · left
    simp [select, he]

end Selector

/-- The pointer is where a slot is that is down. -/
structure Receiver.StandsOn (r : Receiver) (s : Int32) : Prop where
  down : (r.slot s).down = true
  x : ∃ v, r.x = some v ∧ (r.slot s).axis Event.mtPositionX = some v
  y : ∃ v, r.y = some v ∧ (r.slot s).axis Event.mtPositionY = some v

namespace Touchscreen
variable {σ : Type}

/-- A pressed pointer stands on the slot of the selected index. -/
def PointerAgrees (d : Touchscreen σ) (known : Receiver) : Prop :=
  known.pressed = true → d.selector.index < d.profile.slots ∧ known.StandsOn (slotNumber d.selector.index)

theorem pointer_plan_presented {d : Touchscreen σ} {contacts : List Contact}
    (hp : d.presents (d.slotted contacts) = true) (known : Receiver) :
    (known.replay (d.plan (.update contacts))).pointer =
      match (d.selection (d.slotted contacts)).1 with
      | .down c =>
        let place := d.config.place c.mean
        (true, some (scale place.x d.profile.maxX), some (scale place.y d.profile.maxY))
      | .hold => known.pointer
      | .up => (false, known.x, known.y) := by
  have hfits := fits_slotted d contacts
  have hmultitouch : ∀ lifted, (known.replay
      (Report.multitouch d.config d.profile (d.slotted contacts) lifted)).pointer = known.pointer := by
    intro lifted
    rw [Report.multitouch, Receiver.replay_append, pointer_releases, pointer_contacts _ _ hfits]
  simp only [plan, hp, if_true, Receiver.replay_append, Receiver.replay_cons, Receiver.replay_nil,
    Receiver.receive_report]
  have hbefore := hmultitouch (d.tracker.advance (d.slotted contacts)).gone
  cases (d.selection (d.slotted contacts)).1 with
  | down c => rfl
  | hold => exact hbefore
  | up =>
    have hxy := congrArg Prod.snd hbefore
    exact congrArg (Prod.mk false) hxy

/-- A frame that is reported moves the pointer together with its slot. -/
theorem PointerAgrees.presented {d : Touchscreen σ} {known : Receiver} {contacts : List Contact}
    (h : PointerAgrees d known) (htracked : Tracked d known) (hp : d.presents (d.slotted contacts) = true)
    (distinct : Contact.Distinct (d.slotted contacts)) :
    let next := known.replay (d.plan (.update contacts))
    let index := (d.selection (d.slotted contacts)).2.index
    next.pressed = true → index < d.profile.slots ∧ next.StandsOn (slotNumber index) := by
  intro next index pressed
  have hpointer := pointer_plan_presented hp known
  rcases d.selector.select_cases (d.slotted contacts) (d.tracker.advance (d.slotted contacts)).gone d.enabled with
    hup | ⟨c, hfollowed, hselect⟩
  · rw [selection, hup] at hpointer
    have hreleased : next.pressed = false := congrArg Prod.fst hpointer
    exact absurd pressed (by simp [hreleased])
  · obtain ⟨hc, hci, valid⟩ := Selector.of_followed? hfollowed
    have hindex : index = d.selector.index := congrArg (fun choice => choice.2.index) hselect
    have hslot : next.slot (slotNumber d.selector.index) = _ := htracked.slot_of_mem hp (mem_indices.2 ⟨c, hc, hci⟩)
    rw [distinct.filter_stable hc hci] at hslot
    rw [selection, hselect] at hpointer
    rw [hindex]
    refine ⟨lt_slots_of_mem_slotted hc hci, ?_⟩
    by_cases hs : c.isStable = true
    · -- The contact goes into its slot and moves the pointer.
      simp only [hs, if_true, List.foldl_cons, List.foldl_nil] at hslot hpointer
      have haxis := c.axis_leave d.config d.profile (known.slot (slotNumber d.selector.index)) valid
      have hx : next.x = _ := congrArg (fun view => view.2.1) hpointer
      have hy : next.y = _ := congrArg (fun view => view.2.2) hpointer
      refine ⟨?_, ⟨_, hx, ?_⟩, ⟨_, hy, ?_⟩⟩
      · rw [hslot, Contact.down_leave, valid]
      · rw [hslot]
        exact haxis _ (List.mem_cons_self)
      · rw [hslot]
        exact haxis _ (List.mem_cons_of_mem _ List.mem_cons_self)
    · -- The contact moves neither its slot nor the pointer.
      simp only [hs, Bool.false_eq_true, if_false, List.foldl_nil] at hslot hpointer
      have hpressed : next.pressed = known.pressed := congrArg Prod.fst hpointer
      have hx : next.x = known.x := congrArg (fun view => view.2.1) hpointer
      have hy : next.y = known.y := congrArg (fun view => view.2.2) hpointer
      obtain ⟨-, hstands⟩ := h (hpressed ▸ pressed)
      refine ⟨?_, ?_, ?_⟩
      · rw [hslot]
        exact hstands.down
      · rw [hslot, hx]
        exact hstands.x
      · rw [hslot, hy]
        exact hstands.y

variable [Sink σ]

/-- Requests without repetitions keep the pointer with its slot. -/
theorem PointerAgrees.step {d : Touchscreen σ} {known : Receiver} (h : PointerAgrees d known)
    (htracked : Tracked d known) (reliable : Sink.Reliable d.sink) (r : Request)
    (distinct : ∀ contacts, r = .update contacts → Contact.Distinct (d.slotted contacts)) :
    PointerAgrees (d.after r) (known.replay (d.delivered r)) := by
  obtain ⟨hplan, hsettle, -⟩ := serve_of_reliable reliable r
  have hprofile : (d.after r).profile = d.profile := (settings_after d r).2
  have hselector : (d.after r).selector = (d.settle r).selector := congrArg selector hsettle
  intro pressed
  rw [hplan] at pressed ⊢
  rw [hprofile, hselector]
  cases r with
  | update contacts =>
    cases hp : d.presents (d.slotted contacts) with
    | true =>
      have hnext := h.presented htracked hp (distinct contacts rfl) pressed
      simpa only [settle, hp, if_true] using hnext
    | false =>
      rw [plan_blocked hp, pressed_releaseAll] at pressed
      exact absurd pressed Bool.false_ne_true
  | disable =>
    rw [plan, pressed_releaseAll] at pressed
    exact absurd pressed Bool.false_ne_true
  | enable => exact h pressed

/--
Over a sink that never refuses an event, and after any run whose frames never hold two reportable contacts with the same
index: if the pointer is pressed, then the slot of the selected index is down and is where the pointer is.
-/
theorem pointer_stands_on_selected_slot {sink : σ} (reliable : Sink.Reliable sink) (config : Config) (p : Profile)
    {rs : List Request}
    (distinct : ∀ contacts, .update contacts ∈ rs → Contact.Distinct (contacts.filter (Contact.fits p.slots))) :
    let d := start sink config p
    (d.shown rs).pressed = true →
      (d.afterAll rs).selector.index < p.slots ∧
        (d.shown rs).StandsOn (slotNumber (d.afterAll rs).selector.index) := by
  intro d pressed
  have hinv := run_invariant
    (fun d known => (Sink.Reliable d.sink ∧ d.profile = p) ∧ Tracked d known ∧ PointerAgrees d known)
    (fun r => ∀ contacts, r = .update contacts → Contact.Distinct (contacts.filter (Contact.fits p.slots)))
    ?_ (d := d) ⟨⟨reliable, rfl⟩, tracked_start sink config p, fun h => absurd h Bool.false_ne_true⟩
    fun r hr contacts hcontacts => distinct contacts (hcontacts ▸ hr)
  · obtain ⟨⟨-, hprofile⟩, -, hagrees⟩ := hinv
    rw [← hprofile]
    exact hagrees pressed
  · intro d known r hr ⟨⟨hreliable, hprofile⟩, htracked, hagrees⟩
    have hdistinct : ∀ contacts, r = .update contacts → Contact.Distinct (d.slotted contacts) := by
      intro contacts hcontacts
      rw [slotted, hprofile]
      exact hr contacts hcontacts
    exact ⟨⟨(serve_of_reliable hreliable r).2.2, (settings_after d r).2.trans hprofile⟩,
      htracked.step hreliable r, hagrees.step htracked hreliable r hdistinct⟩

/-- The pointer goes over to a second contact when the first is gone, and waits with its slot while that contact is unstable. -/
theorem pointer_stands_on_slot_after_handoff :
    let touch (i : Nat) (x : Float) : Contact := { index := some i, mean := { x } }
    let unstable (i : Nat) (x : Float) : Contact := { index := some i, mean := { x }, stable := some false }
    let d := start ({} : ScriptedSink) {} Profile.standard
    let rs := [.update [touch 0 0, touch 3 0.25], .update [touch 3 0.25], .update [touch 3 0.5],
      .update [unstable 3 0.75]]
    Sink.Reliable ({} : ScriptedSink) ∧
      (∀ contacts, .update contacts ∈ rs → Contact.Distinct (contacts.filter (Contact.fits Profile.standard.slots))) ∧
      (d.shown rs).pressed = true ∧ (d.shown rs).x = some 4800 ∧
      (d.afterAll rs).selector.index < Profile.standard.slots ∧
      (d.shown rs).StandsOn (slotNumber (d.afterAll rs).selector.index) := by
  intro touch unstable d rs
  have reliable : Sink.Reliable ({} : ScriptedSink) := ScriptedSink.reliable rfl
  have distinct : ∀ contacts, .update contacts ∈ rs →
      Contact.Distinct (contacts.filter (Contact.fits Profile.standard.slots)) := by
    intro contacts h
    simp only [rs, List.mem_cons, Request.update.injEq, List.not_mem_nil, or_false] at h
    rcases h with rfl | rfl | rfl | rfl <;> decide
  have pressed : (d.shown rs).pressed = true := by decide +kernel
  have stands := pointer_stands_on_selected_slot reliable {} Profile.standard distinct pressed
  refine ⟨reliable, distinct, pressed, ?_, ?_⟩
  · decide +kernel
  · simp only [d]
    exact stands

end Touchscreen
end Digitizer
