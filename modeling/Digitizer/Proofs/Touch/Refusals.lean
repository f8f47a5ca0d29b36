import Digitizer.Proofs.Touch.Effects
import Digitizer.Proofs.Touch.Handover
import Digitizer.Proofs.Touch.PalmBlock

/-!
# Where an update stops

An update offers its events one by one and stops at the first that is refused, and nothing is taken back. The tracker has
advanced by then. The selector has moved if all slots were reported, so the event that is refused tells whether it has: it has
not if the event is about a slot (`update_stops_at_refusal`).
-/
namespace Digitizer

/-- Whether an event is about a slot: which one, its identity or its axes. -/
def Event.isMultitouch (e : Event) : Bool := e.type == abs && Report.slotCodes.contains e.code

namespace Report

theorem isMultitouch_of_slotCode : ∀ code ∈ slotCodes, ∀ value, (Event.axis code value).isMultitouch = true := by
  intro code hcode value
  have hcontains : slotCodes.contains code = true := List.contains_iff_mem.2 hcode
  exact hcontains

theorem isPointer_of_pointer (config : Config) (p : Profile) (choice : Pointer) :
    ∀ e ∈ pointer config p choice, e.isPointer = true := by
  intro e he
  rw [← filter_pointer] at he
  exact (List.mem_filter.1 he).2

end Report

/-- No event about a slot is about the pointer or ends the frame. -/
theorem Event.isMultitouch_eq_false {e : Event} (h : e.isPointer = true ∨ e = Event.report) : e.isMultitouch = false := by
  rcases h with h | rfl
  · simp only [isPointer, isTouch, Bool.or_eq_true, Bool.and_eq_true, beq_iff_eq] at h
    rcases h with ⟨htype, -⟩ | ⟨-, hcode | hcode⟩
    · rw [isMultitouch, htype]
      rfl
    · rw [isMultitouch, hcode, Bool.and_eq_false_iff]
      exact Or.inr (by decide)
    · rw [isMultitouch, hcode, Bool.and_eq_false_iff]
      exact Or.inr (by decide)
  · rfl

namespace Touchscreen
variable {σ τ : Type}

theorem isMultitouch_of_slotReport {d : Touchscreen σ} {contacts : List Contact} :
    ∀ e ∈ d.slotReport contacts, e.isMultitouch = true :=
  Report.forall_multitouch (P := (·.isMultitouch = true)) Report.isMultitouch_of_slotCode _ _ _ _

/-- Every event of an update is about a slot or the pointer, or ends the frame. -/
theorem phase_of_mem_plan {d : Touchscreen σ} {contacts : List Contact} {e : Event} (he : e ∈ d.plan (.update contacts)) :
    e.isMultitouch = true ∨ e.isPointer = true ∨ e = Event.report := by
  rw [plan_of_slotReport] at he
  rcases List.mem_append.1 he with he | he
  · split at he
    · rcases List.mem_append.1 he with he | he
      · exact Or.inl (isMultitouch_of_slotReport e he)
      · exact Or.inr (Or.inl (Report.isPointer_of_pointer _ _ _ e he))
    · rcases List.mem_append.1 he with he | he
      · exact Or.inl (Report.forall_releases (P := (·.isMultitouch = true)) Report.isMultitouch_of_slotCode e he)
      · exact Or.inr (Or.inl (List.mem_singleton.1 he ▸ rfl))
  · exact Or.inr (Or.inr (List.mem_singleton.1 he))

variable [Sink σ] [Sink τ] {d : Touchscreen σ} {contacts : List Contact} {n : Nat} {e : Event} {cause : Errno}

/-- An update that is interrupted at an event about a slot leaves the selector, and any other settles it. -/
theorem selector_of_refusesAt (refusal : Sink.RefusesAt d.sink (d.plan (.update contacts)) n e cause) :
    (d.after (.update contacts)).selector =
      if e.isMultitouch then d.selector else (d.settle (.update contacts)).selector := by
  have hended : (d.after (.update contacts)).selector = (d.ending (.update contacts)).selector :=
    congrArg selector (core_after d (.update contacts))
  rw [hended, ending]
  cases hp : d.presents (d.slotted contacts) with
  | false =>
    rw [selector_settle_blocked hp, ite_self]
    split
    · exact selector_settle_blocked hp
    · rfl
  | true =>
    -- The selector is asked between the slots and the pointer, so it matters which of them the refusal falls among.
    rw [plan_of_slotReport, if_pos hp, List.append_assoc] at refusal
    rcases refusal.append_cases with ⟨hslots, he⟩ | ⟨hslots, he⟩
    · rw [hslots, if_pos (isMultitouch_of_slotReport e he)]
      rfl
    · have hother : e.isMultitouch = false := by
        refine Event.isMultitouch_eq_false ?_
        rcases List.mem_append.1 he with he | he
        · exact Or.inl (Report.isPointer_of_pointer _ _ _ e he)
        · exact Or.inr (List.mem_singleton.1 he)
      rw [hslots, hother]
      rfl

/--
An update stops at its event number `n`, which is refused with a cause. The same update of the device `whole` is carried out.
-/
structure StopsAt (d : Touchscreen σ) (contacts : List Contact) (whole : Touchscreen τ) (n : Nat) (e : Event)
    (cause : Errno) : Prop where
  result : (serve (.update contacts) d).result = .error cause
  delivered : d.delivered (.update contacts) = (whole.delivered (.update contacts)).take n
  /-- Nothing is offered after the event that is refused. -/
  offered : (serve (.update contacts) d).journal.offers = (whole.delivered (.update contacts)).take (n + 1)
  sink : (d.after (.update contacts)).sink = Sink.offered d.sink ((whole.delivered (.update contacts)).take (n + 1))
  tracker : (d.after (.update contacts)).tracker = (whole.after (.update contacts)).tracker
  enabled : (d.after (.update contacts)).enabled = d.enabled
  phase : e.isMultitouch = true ∨ e.isPointer = true ∨ e = Event.report
  unmoved : e.isMultitouch = true → (d.after (.update contacts)).selector = d.selector
  moved : e.isPointer = true ∨ e = Event.report →
    (d.after (.update contacts)).selector = (whole.after (.update contacts)).selector

/--
An update over any sink is compared to the same update over a sink that refuses nothing. If the sink takes the first `n` of its
events and refuses the next, the update stops there, and it fails in no other way.
-/
theorem update_stops_at_refusal (d : Touchscreen σ) (contacts : List Contact) {unfailing : τ}
    (reliable : Sink.Reliable unfailing) :
    let whole : Touchscreen τ := { d with sink := unfailing }
    let events := whole.delivered (.update contacts)
    (∀ n e cause, Sink.RefusesAt d.sink events n e cause → d.StopsAt contacts whole n e cause) ∧
      ∀ cause, (serve (.update contacts) d).result = .error cause → ∃ n e, Sink.RefusesAt d.sink events n e cause := by
  intro whole events
  obtain ⟨hevents, hsettled, -⟩ := serve_of_reliable (d := whole) reliable (.update contacts)
  have hplan : whole.delivered (.update contacts) = d.plan (.update contacts) := hevents
  have hwhole : (whole.after (.update contacts)).core = d.settle (.update contacts) := hsettled
  refine ⟨fun n e cause refusal => ?_, fun cause failed => ?_⟩
  · have hrefusal : Sink.RefusesAt d.sink (d.plan (.update contacts)) n e cause := hplan ▸ refusal
    have hserve := offers_serve (.update contacts) d
    have hselector := selector_of_refusesAt hrefusal
    have hmoved : (whole.after (.update contacts)).selector = (d.settle (.update contacts)).selector :=
      congrArg selector hwhole
    refine ⟨?_, ?_, ?_, ?_, ?_, enabled_after_update d contacts, ?_, fun h => ?_, fun h => ?_⟩
    · have hresult := congrArg Outcome.result (effect_eq d (.update contacts))
      exact hresult.trans (congrArg Reception.result hrefusal.takeAll)
    · rw [delivered, ← Journal.events_output, hserve.entries, hrefusal.events, hplan]
    · rw [← Journal.offers_output, hserve.entries, hrefusal.offers, hplan]
    · rw [hplan]
      exact hserve.sink.trans (congrArg Reception.sink hrefusal.takeAll)
    · rw [tracker_after_update, tracker_after_update]
      rfl
    · exact phase_of_mem_plan (List.mem_of_getElem? hrefusal.next)
    · rw [hselector, if_pos h]
    · rw [hselector, hmoved, Event.isMultitouch_eq_false h]
      rfl
  · have hrefused := Sink.exists_refusesAt ((offers_serve (.update contacts) d).takeAll_of_error failed)
    rwa [← hplan] at hrefused

/--
A contact vanishes and the pointer would go over to the other. Refused as the vanished contact is lifted, the update leaves the
selector on it; refused one event later, as the pointer is released, it does not.
-/
theorem update_stops_before_and_after_handover :
    let touch (i : Nat) : Contact := { index := some i }
    let held := (start ({} : ScriptedSink) {} Profile.standard).after (.update [touch 0, touch 3])
    let whole : Touchscreen ScriptedSink := { held with sink := {} }
    let refusing (taken : Nat) : Touchscreen ScriptedSink := { held with sink := { taken, refused := 1 } }
    Sink.Reliable ({} : ScriptedSink) ∧
      (refusing 8).StopsAt [touch 3] whole 8 (.axis Event.mtTrackingId (-1)) Errno.inputOutput ∧
      ((refusing 8).after (.update [touch 3])).selector.index = 0 ∧
      (refusing 9).StopsAt [touch 3] whole 9 (.touch false) Errno.inputOutput ∧
      ((refusing 9).after (.update [touch 3])).selector.index = 3 := by
  intro touch held whole refusing
  have reliable : Sink.Reliable ({} : ScriptedSink) := ScriptedSink.reliable rfl
  have hstops : ∀ (held : Touchscreen ScriptedSink) n e,
      (delivered { held with sink := ({} : ScriptedSink) } (.update [touch 3]))[n]? = some e →
        StopsAt { held with sink := ({ taken := n, refused := 1 } : ScriptedSink) } [touch 3]
          { held with sink := ({} : ScriptedSink) } n e Errno.inputOutput :=
    fun held n e next => (update_stops_at_refusal { held with sink := ({ taken := n, refused := 1 } : ScriptedSink) }
      [touch 3] reliable).1 n e _ (ScriptedSink.refusesAt next)
  have hlift : (whole.delivered (.update [touch 3]))[8]? = some (.axis Event.mtTrackingId (-1)) := by decide +kernel
  have hrelease : (whole.delivered (.update [touch 3]))[9]? = some (.touch false) := by decide +kernel
  refine ⟨reliable, hstops held 8 _ hlift, ?_, hstops held 9 _ hrelease, ?_⟩ <;> decide +kernel

end Touchscreen
end Digitizer
