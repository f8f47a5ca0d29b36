import Digitizer.Proofs.Touch.PointerAgreement

/-!
# The pointer changes hands

Of the events of an update those about the pointer are fixed by one choice: to be down on a contact, to hold or to be up
(`pointer_delivered`). Every request that moves the selector releases the pointer, and a press leaves the selector where it is.
So whoever sees presses for two contacts sees a release between them, in a frame of its own.
-/
namespace Digitizer

/-- Whether an event presses or releases the pointer. -/
def Event.isTouch (e : Event) : Bool := e.type == key && e.code == btnTouch

/-- Whether an event is about the pointer: about whether it is down, or about where. -/
def Event.isPointer (e : Event) : Bool := e.isTouch || e.type == abs && (e.code == absX || e.code == absY)

namespace Report

theorem isPointer_of_slotCode : ∀ code ∈ slotCodes, ∀ value, (Event.axis code value).isPointer = false := by
  have habsX : Event.absX ∉ slotCodes := by decide
  have habsY : Event.absY ∉ slotCodes := by decide
  intro code hcode value
  have hx : code ≠ Event.absX := fun h => habsX (h ▸ hcode)
  have hy : code ≠ Event.absY := fun h => habsY (h ▸ hcode)
  have hposition : (code == Event.absX || code == Event.absY) = false := by simp [hx, hy]
  exact hposition

theorem filter_releases (is : List Nat) : (is.flatMap release).filter Event.isPointer = [] := by
  refine List.filter_eq_nil_iff.2 fun e he => ?_
  have hother := forall_releases (P := (·.isPointer = false)) isPointer_of_slotCode e he
  simp [hother]

/-- The slots are reported apart from the pointer. -/
theorem filter_multitouch (config : Config) (p : Profile) (frame : List Contact) (lifted : IndexSet) :
    (multitouch config p frame lifted).filter Event.isPointer = [] := by
  refine List.filter_eq_nil_iff.2 fun e he => ?_
  have hother := forall_multitouch (P := (·.isPointer = false)) isPointer_of_slotCode config p frame lifted e he
  simp [hother]

theorem filter_pointer (config : Config) (p : Profile) (choice : Pointer) :
    (pointer config p choice).filter Event.isPointer = pointer config p choice := by
  cases choice <;> rfl

/-- The pointer is pressed only on a contact. -/
theorem down_of_touch {config : Config} {p : Profile} {choice : Pointer} (h : .touch true ∈ pointer config p choice) :
    ∃ c, choice = .down c := by
  cases choice with
  | down c => exact ⟨c, rfl⟩
  | hold => simp [pointer] at h
  | up => exact absurd (List.mem_singleton.1 h) (by decide)

theorem length_touches_pointer (config : Config) (p : Profile) (choice : Pointer) :
    ((pointer config p choice).filter Event.isTouch).length ≤ 1 := by
  cases choice with
  | down c => exact Nat.le_refl 1
  | hold => exact Nat.zero_le 1
  | up => exact Nat.le_refl 1

end Report

namespace Touchscreen
variable {σ : Type}

/-- What the pointer does in an update. In a frame that is not reported it is up. -/
def choice (d : Touchscreen σ) (contacts : List Contact) : Pointer :=
  if d.presents (d.slotted contacts) then (d.selection (d.slotted contacts)).1 else .up

theorem filter_plan (d : Touchscreen σ) (contacts : List Contact) :
    (d.plan (.update contacts)).filter Event.isPointer = Report.pointer d.config d.profile (d.choice contacts) := by
  have hreport : [Event.report].filter Event.isPointer = [] := rfl
  by_cases hp : d.presents (d.slotted contacts) = true
  · simp only [plan, choice, if_pos hp, List.filter_append, Report.filter_multitouch, Report.filter_pointer, hreport,
      List.nil_append, List.append_nil]
  · simp only [plan, choice, if_neg hp, List.filter_append, Report.releaseAll, Report.filter_releases, hreport,
      List.nil_append, List.append_nil]
    rfl

/-- Either the pointer is up, or it is on the contact that the selector follows and the selector stays. -/
theorem choice_cases (d : Touchscreen σ) (contacts : List Contact) :
    d.choice contacts = .up ∨
      ∃ c, d.selector.followed? (d.slotted contacts) = some c ∧
        d.choice contacts = (if c.isStable then .down c else .hold) ∧
        (d.settle (.update contacts)).selector = d.selector := by
  by_cases hp : d.presents (d.slotted contacts) = true
  · rcases d.selector.select_cases (d.slotted contacts) (d.tracker.advance (d.slotted contacts)).gone d.enabled with
      hup | ⟨c, hfollowed, hselect⟩
    · left
      simpa [choice, hp, selection] using hup
    · right
      exact ⟨c, hfollowed, by simp [choice, hp, selection, hselect], by simp [settle, hp, selection, hselect]⟩
  · left
    simp [choice, hp]

/-- A contact that the pointer goes down on has the index that the selector holds before and after. -/
theorem of_choice_down {d : Touchscreen σ} {contacts : List Contact} {c : Contact} (h : d.choice contacts = .down c) :
    c ∈ contacts ∧ c.index = some d.selector.index ∧ (d.settle (.update contacts)).selector = d.selector := by
  rcases d.choice_cases contacts with hup | ⟨b, hfollowed, hchoice, hselector⟩
  · rw [h] at hup
    exact absurd hup (by simp)
  · obtain ⟨hmem, hindex, -⟩ := Selector.of_followed? hfollowed
    rw [h] at hchoice
    split at hchoice
    · obtain rfl : c = b := Pointer.down.inj hchoice
      exact ⟨(mem_slotted.1 hmem).1, hindex, hselector⟩
    · exact absurd hchoice (by simp)

variable [Sink σ]

/-- The events of an update about the pointer. -/
theorem pointer_delivered {d : Touchscreen σ} (reliable : Sink.Reliable d.sink) (contacts : List Contact) :
    (d.delivered (.update contacts)).filter Event.isPointer =
      Report.pointer d.config d.profile (d.choice contacts) := by
  rw [(serve_of_reliable reliable (.update contacts)).1, filter_plan]

theorem selector_after {d : Touchscreen σ} (reliable : Sink.Reliable d.sink) (r : Request) :
    (d.after r).selector = (d.settle r).selector := by
  obtain ⟨-, hsettle, -⟩ := serve_of_reliable reliable r
  exact congrArg selector hsettle

/-- A request that moves the selector releases the pointer. -/
theorem kept_or_released {d : Touchscreen σ} (reliable : Sink.Reliable d.sink) (r : Request) :
    (d.after r).selector = d.selector ∨ .touch false ∈ d.delivered r := by
  have hselector := selector_after reliable r
  cases r with
  | update contacts =>
    rcases d.choice_cases contacts with hup | ⟨-, -, -, hkept⟩
    · right
      have hpointer := pointer_delivered reliable contacts
      rw [hup] at hpointer
      have hmem : Event.touch false ∈ (d.delivered (.update contacts)).filter Event.isPointer :=
        hpointer ▸ List.mem_singleton_self _
      exact (List.mem_filter.1 hmem).1
    · exact Or.inl (hselector.trans hkept)
  | disable =>
    right
    simp [(serve_of_reliable reliable .disable).1, plan, Report.releaseAll]
  | enable => exact Or.inl hselector

/-- A run that moves the selector releases the pointer on the way. -/
theorem kept_or_released_all {d : Touchscreen σ} (reliable : Sink.Reliable d.sink) (rs : List Request) :
    (d.afterAll rs).selector = d.selector ∨ .touch false ∈ d.transcript rs := by
  induction rs generalizing d with
  | nil => exact Or.inl rfl
  | cons r rs ih =>
    rw [afterAll_cons, transcript_cons, List.mem_append]
    rcases kept_or_released reliable r with hkept | hreleased
    · rcases ih (serve_of_reliable reliable r).2.2 with hrest | hrest
      · exact Or.inl (hrest.trans hkept)
      · exact Or.inr (Or.inr hrest)
    · exact Or.inr (Or.inl hreleased)

/-- Requests that are not updates leave the selector. -/
theorem selector_of_no_update {d : Touchscreen σ} (reliable : Sink.Reliable d.sink) {rs : List Request}
    (idle : ∀ contacts, .update contacts ∉ rs) : (d.afterAll rs).selector = d.selector := by
  induction rs generalizing d with
  | nil => rfl
  | cons r rs ih =>
    have hrest := ih (serve_of_reliable reliable r).2.2 fun contacts h => idle contacts (List.mem_cons_of_mem r h)
    rw [afterAll_cons, hrest, selector_after reliable r]
    cases r with
    | update contacts => exact absurd List.mem_cons_self (idle contacts)
    | disable => rfl
    | enable => rfl

/-- An update puts the pointer down on a contact, and says nothing else about the pointer. -/
structure PutsDown (d : Touchscreen σ) (contacts : List Contact) (c : Contact) : Prop where
  chosen : d.choice contacts = .down c
  delivered : (d.delivered (.update contacts)).filter Event.isPointer = Report.pointer d.config d.profile (.down c)

/--
Over a sink that never refuses an event an update presses or releases the pointer at most once. It presses it only on a contact
with the index that the selector held before, which is 0 before the first update. Between presses for different indices the
pointer is released, by a request after the first of them and before the second.
-/
theorem release_before_press {sink : σ} (reliable : Sink.Reliable sink) (config : Config) (p : Profile) :
    let d := start sink config p
    (∀ rs, (∀ contacts, .update contacts ∉ rs) → (d.afterAll rs).selector.index = 0) ∧
    (∀ rs contacts, (((d.afterAll rs).delivered (.update contacts)).filter Event.isTouch).length ≤ 1) ∧
    (∀ rs contacts, .touch true ∈ (d.afterAll rs).delivered (.update contacts) →
      ∃ c ∈ contacts, (d.afterAll rs).PutsDown contacts c ∧ c.index = some (d.afterAll rs).selector.index) ∧
    (∀ before between contacts contacts' c c',
      let first := d.afterAll before
      let second := d.afterAll (before ++ .update contacts :: between)
      first.PutsDown contacts c → second.PutsDown contacts' c' → c.index ≠ c'.index →
        .touch false ∈ (first.after (.update contacts)).transcript between) := by
  intro d
  have hreliable : ∀ rs, Sink.Reliable (d.afterAll rs).sink := fun rs => reliable_afterAll (d := d) reliable rs
  refine ⟨?_, ?_, ?_, ?_⟩
  · intro rs idle
    rw [selector_of_no_update (d := d) reliable idle]
    rfl
  · intro rs contacts
    have htouch : (fun e : Event => e.isTouch && e.isPointer) = Event.isTouch :=
      funext fun e => by cases h : e.isTouch <;> simp [Event.isPointer, h]
    rw [← htouch, ← List.filter_filter, pointer_delivered (hreliable rs)]
    exact Report.length_touches_pointer _ _ _
  · intro rs contacts pressed
    have hpointer := pointer_delivered (hreliable rs) contacts
    have hmem := List.mem_filter.2 ⟨pressed, (rfl : (Event.touch true).isPointer = true)⟩
    rw [hpointer] at hmem
    obtain ⟨c, hc⟩ := Report.down_of_touch hmem
    rw [hc] at hpointer
    obtain ⟨hcontacts, hindex, -⟩ := of_choice_down hc
    exact ⟨c, hcontacts, ⟨hc, hpointer⟩, hindex⟩
  · intro before between contacts contacts' c c' first second hfirst hsecond different
    obtain ⟨-, hindex, hsettled⟩ := of_choice_down hfirst.chosen
    obtain ⟨-, hindex', -⟩ := of_choice_down hsecond.chosen
    have hpressed : (first.after (.update contacts)).selector = first.selector :=
      (selector_after (hreliable before) _).trans hsettled
    have hnext : Sink.Reliable (first.after (.update contacts)).sink := (serve_of_reliable (hreliable before) _).2.2
    have hsplit : second = (first.after (.update contacts)).afterAll between := afterAll_append d before _
    rcases kept_or_released_all hnext between with hkept | hreleased
    · rw [← hsplit, hpressed] at hkept
      rw [hindex, hindex', hkept] at different
      exact absurd rfl different
    · exact hreleased

/-- The first contact goes, the second takes over in the next frame but one, and the frame in between releases the pointer. -/
theorem release_before_press_of_second_contact :
    let touch (i : Nat) : Contact := { index := some i }
    let d := start ({} : ScriptedSink) {} Profile.standard
    let second := d.afterAll [.update [touch 0, touch 3], .update [touch 3]]
    Sink.Reliable ({} : ScriptedSink) ∧
      .touch true ∈ d.delivered (.update [touch 0, touch 3]) ∧ d.selector.index = 0 ∧
      .touch true ∈ second.delivered (.update [touch 3]) ∧ second.selector.index = 3 ∧
      .touch false ∈ (d.after (.update [touch 0, touch 3])).transcript [.update [touch 3]] := by
  intro touch d second
  have reliable : Sink.Reliable ({} : ScriptedSink) := ScriptedSink.reliable rfl
  obtain ⟨-, -, hpress, hrelease⟩ := release_before_press reliable {} Profile.standard
  have hfirst : Event.touch true ∈ d.delivered (.update [touch 0, touch 3]) := by decide +kernel
  have hsecond : Event.touch true ∈ second.delivered (.update [touch 3]) := by decide +kernel
  have hindex : second.selector.index = 3 := by decide +kernel
  obtain ⟨c, -, hc, hci⟩ := hpress [] [touch 0, touch 3] hfirst
  obtain ⟨c', -, hc', hci'⟩ := hpress [.update [touch 0, touch 3], .update [touch 3]] [touch 3] hsecond
  have different : c.index ≠ c'.index := by
    rw [hci, hci']
    decide +kernel
  exact ⟨reliable, hfirst, rfl, hsecond, hindex, hrelease [] [.update [touch 3]] _ _ c c' hc hc' different⟩

end Touchscreen
end Digitizer
