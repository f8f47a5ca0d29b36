import Digitizer.Journal
import Digitizer.Output.Sink
import Digitizer.Scripted.Sink

/-!
# Events that are offered to a sink

Events are offered to a sink one after another, up to the first that it refuses. `takeAll` is what becomes of them, and the
journal has an entry for each event that was offered.
-/
namespace Digitizer

/-! ## Entries about events -/

theorem Journal.events_cons (x : Entry) (j : Journal) : Journal.events (x :: j) = x.event?.toList ++ j.events := by
  simp only [Journal.events, List.filterMap_cons]
  cases x.event? <;> rfl

/-- Why the sink refused an event, if the entry is about that. -/
def Entry.refusal? : Entry → Option Errno
  | .refused _ cause => some cause
  | _ => none

/-- Why the sink refused events. -/
def Journal.refusals (j : Journal) : List Errno := j.filterMap Entry.refusal?

theorem Journal.refusals_append (j k : Journal) : Journal.refusals (j ++ k) = j.refusals ++ k.refusals :=
  List.filterMap_append

/-- The event that was offered to the sink, if the entry is about one. -/
def Entry.offer? : Entry → Option Event
  | .emitted e | .refused e _ => some e
  | _ => none

/-- The events that were offered to the sink, whether it took them or not. -/
def Journal.offers (j : Journal) : List Event := j.filterMap Entry.offer?

theorem Journal.offers_append (j k : Journal) : Journal.offers (j ++ k) = j.offers ++ k.offers := List.filterMap_append

/-- What arrived was offered. -/
theorem Journal.events_subset_offers (j : Journal) : j.events ⊆ j.offers := by
  intro e he
  obtain ⟨x, hx, hxe⟩ := List.mem_filterMap.1 he
  refine List.mem_filterMap.2 ⟨x, hx, ?_⟩
  cases x with
  | emitted e => exact hxe
  | _ => exact absurd hxe (by simp [Entry.event?])

theorem Journal.events_emitted (es : List Event) : Journal.events (es.map Entry.emitted) = es := by
  rw [Journal.events, List.filterMap_map]
  exact List.filterMap_some

theorem Journal.offers_emitted (es : List Event) : Journal.offers (es.map Entry.emitted) = es := by
  rw [Journal.offers, List.filterMap_map]
  exact List.filterMap_some

/-- The entries about events. -/
def Journal.output (j : Journal) : Journal := j.filter fun x => x.offer?.isSome

namespace Journal

@[simp] theorem output_append (j k : Journal) : Journal.output (j ++ k) = j.output ++ k.output := List.filter_append _ _
@[simp] theorem output_notices (ns : List Notice) : Journal.output (ns.map Entry.notice) = [] := by
  simp [output, Entry.offer?]

/-- What is read off the entries about events alone. -/
theorem filterMap_output {β : Type} {view : Entry → Option β} (h : ∀ x, x.offer? = none → view x = none) (j : Journal) :
    j.output.filterMap view = j.filterMap view := by
  rw [output, List.filterMap_filter]
  refine congrArg (fun view => j.filterMap view) (funext fun x => ?_)
  cases hx : x.offer? with
  | none => simp [h x hx]
  | some e => simp

theorem events_output (j : Journal) : j.output.events = j.events :=
  filterMap_output (fun x h => by cases x <;> simp_all [Entry.offer?, Entry.event?]) j

theorem refusals_output (j : Journal) : j.output.refusals = j.refusals :=
  filterMap_output (fun x h => by cases x <;> simp_all [Entry.offer?, Entry.refusal?]) j

theorem offers_output (j : Journal) : j.output.offers = j.offers := filterMap_output (fun _ h => h) j

end Journal

/-! ## Sinks that are offered events -/

/-- What becomes of events that are offered to a sink up to the first that it refuses. -/
structure Reception (σ : Type) where
  result : Except Errno Unit
  /-- The sink afterwards. -/
  sink : σ
  /-- What is written to the journal about each event that was offered. -/
  entries : Journal

namespace Sink
variable {σ : Type} [Sink σ]

/-- A sink after it was offered some events. -/
def offered (s : σ) (events : List Event) : σ := events.foldl (fun s e => (take s e).sink) s

/-- A sink never refuses an event, whatever it was offered before. -/
def Reliable (s : σ) : Prop := ∀ events e, (take (offered s events) e).result = .ok ()

theorem Reliable.result {s : σ} (h : Reliable s) (e : Event) : (take s e).result = .ok () := h [] e
theorem Reliable.next {s : σ} (h : Reliable s) (e : Event) : Reliable (take s e).sink := fun events => h (e :: events)

/-- Offer events up to the first that is refused. -/
def takeAll (s : σ) : List Event → Reception σ
  | [] => { result := .ok (), sink := s, entries := [] }
  | e :: es =>
    match (take s e).result with
    | .error cause => { result := .error cause, sink := (take s e).sink, entries := [.refused e cause] }
    | .ok () =>
      let rest := takeAll (take s e).sink es
      { rest with entries := .emitted e :: rest.entries }

@[simp] theorem takeAll_nil (s : σ) : takeAll s [] = { result := .ok (), sink := s, entries := [] } := rfl

theorem takeAll_cons_of_ok {s : σ} {e : Event} (h : (take s e).result = .ok ()) (es : List Event) :
    takeAll s (e :: es) =
      { takeAll (take s e).sink es with entries := .emitted e :: (takeAll (take s e).sink es).entries } := by
  rw [takeAll, h]

theorem takeAll_cons_of_error {s : σ} {e : Event} {cause : Errno} (h : (take s e).result = .error cause)
    (es : List Event) :
    takeAll s (e :: es) = { result := .error cause, sink := (take s e).sink, entries := [.refused e cause] } := by
  rw [takeAll, h]

theorem takeAll_append_of_ok {s : σ} {es : List Event} (h : (takeAll s es).result = .ok ()) (fs : List Event) :
    takeAll s (es ++ fs) =
      { takeAll (takeAll s es).sink fs with
        entries := (takeAll s es).entries ++ (takeAll (takeAll s es).sink fs).entries } := by
  induction es generalizing s with
  | nil => rfl
  | cons e es ih =>
    cases he : (take s e).result with
    | error cause => simp [takeAll_cons_of_error he] at h
    | ok a =>
      rw [takeAll_cons_of_ok he] at h
      rw [List.cons_append, takeAll_cons_of_ok he, takeAll_cons_of_ok he, ih h]
      rfl

theorem takeAll_append_of_error {s : σ} {es : List Event} {cause : Errno} (h : (takeAll s es).result = .error cause)
    (fs : List Event) : takeAll s (es ++ fs) = takeAll s es := by
  induction es generalizing s with
  | nil => simp at h
  | cons e es ih =>
    cases he : (take s e).result with
    | error cause => rw [List.cons_append, takeAll_cons_of_error he, takeAll_cons_of_error he]
    | ok a =>
      rw [takeAll_cons_of_ok he] at h
      rw [List.cons_append, takeAll_cons_of_ok he, takeAll_cons_of_ok he, ih h]

/-- Of the events that are offered a beginning is taken, and all of them if none is refused. -/
theorem events_takeAll (s : σ) (es : List Event) :
    (takeAll s es).entries.events <+: es ∧ ((takeAll s es).result = .ok () → (takeAll s es).entries.events = es) := by
  induction es generalizing s with
  | nil => exact ⟨List.prefix_rfl, fun _ => rfl⟩
  | cons e es ih =>
    cases he : (take s e).result with
    | error cause =>
      rw [takeAll_cons_of_error he]
      exact ⟨List.nil_prefix, fun h => absurd h (by simp)⟩
    | ok a =>
      obtain ⟨hsome, hall⟩ := ih (take s e).sink
      rw [takeAll_cons_of_ok he, Journal.events_cons]
      exact ⟨(List.prefix_cons_inj e).2 hsome, fun h => congrArg (e :: ·) (hall h)⟩

/-- No event is offered out of turn. -/
theorem offers_takeAll (s : σ) (es : List Event) : (takeAll s es).entries.offers <+: es := by
  induction es generalizing s with
  | nil => exact List.prefix_rfl
  | cons e es ih =>
    cases he : (take s e).result with
    | error cause =>
      rw [takeAll_cons_of_error he]
      exact ⟨es, rfl⟩
    | ok a =>
      rw [takeAll_cons_of_ok he]
      exact (List.prefix_cons_inj e).2 (ih _)

/-- At most one event is refused, and its cause is the result. -/
theorem refusals_takeAll (s : σ) (es : List Event) :
    (takeAll s es).entries.refusals = match (takeAll s es).result with
      | .ok _ => []
      | .error cause => [cause] := by
  induction es generalizing s with
  | nil => rfl
  | cons e es ih =>
    cases he : (take s e).result with
    | error cause => rw [takeAll_cons_of_error he]; rfl
    | ok a => rw [takeAll_cons_of_ok he]; exact ih _

/-! ## The event that is refused -/

/-- Of events that are offered in order a sink takes the first `n` and refuses the next one. -/
structure RefusesAt (s : σ) (events : List Event) (n : Nat) (e : Event) (cause : Errno) : Prop where
  taken : ∀ k < n, ∀ f, events[k]? = some f → (take (offered s (events.take k)) f).result = .ok ()
  next : events[n]? = some e
  refused : (take (offered s (events.take n)) e).result = .error cause

section
variable {s : σ} {e f : Event} {es fs : List Event} {n : Nat} {cause : Errno}

theorem RefusesAt.cons (h : RefusesAt (take s f).sink es n e cause) (ok : (take s f).result = .ok ()) :
    RefusesAt s (f :: es) (n + 1) e cause where
  taken := by
    intro k hk g hg
    cases k with
    | zero =>
      obtain rfl : f = g := Option.some.inj hg
      exact ok
    | succ k => exact h.taken k (Nat.lt_of_succ_lt_succ hk) g hg
  next := h.next
  refused := h.refused

/-- The first event is refused, or it is taken and one of the others is refused. -/
theorem RefusesAt.cons_cases (h : RefusesAt s (f :: es) n e cause) :
    (n = 0 ∧ f = e ∧ (take s f).result = .error cause) ∨
      ∃ m, n = m + 1 ∧ (take s f).result = .ok () ∧ RefusesAt (take s f).sink es m e cause := by
  cases n with
  | zero =>
    obtain rfl : f = e := Option.some.inj h.next
    exact Or.inl ⟨rfl, rfl, h.refused⟩
  | succ m =>
    have hfirst : (take s f).result = .ok () := h.taken 0 (Nat.zero_lt_succ m) f rfl
    exact Or.inr ⟨m, rfl, hfirst, fun k hk => h.taken (k + 1) (Nat.succ_lt_succ hk), h.next, h.refused⟩

/-- Nothing is offered after the event that is refused. -/
theorem RefusesAt.takeAll (h : RefusesAt s es n e cause) :
    Sink.takeAll s es =
      { result := .error cause, sink := offered s (es.take (n + 1)),
        entries := (es.take n).map Entry.emitted ++ [.refused e cause] } := by
  induction es generalizing s n with
  | nil => exact absurd h.next (by simp)
  | cons f es ih =>
    rcases h.cons_cases with ⟨rfl, rfl, hrefused⟩ | ⟨m, rfl, hfirst, hrest⟩
    · exact takeAll_cons_of_error hrefused es
    · rw [takeAll_cons_of_ok hfirst, ih hrest]
      rfl

/-- What arrives comes before the event that is refused. -/
theorem RefusesAt.events (h : RefusesAt s es n e cause) : (Sink.takeAll s es).entries.events = es.take n := by
  rw [h.takeAll, Journal.events_append, Journal.events_emitted]
  exact List.append_nil _

/-- The event that is refused is the last that is offered. -/
theorem RefusesAt.offers (h : RefusesAt s es n e cause) : (Sink.takeAll s es).entries.offers = es.take (n + 1) := by
  rw [h.takeAll, Journal.offers_append, Journal.offers_emitted, List.take_add_one, h.next]
  rfl

/-- Whatever is not taken whole is refused somewhere. -/
theorem exists_refusesAt (h : (Sink.takeAll s es).result = .error cause) : ∃ n e, RefusesAt s es n e cause := by
  induction es generalizing s with
  | nil => exact absurd h (by simp)
  | cons f es ih =>
    cases hf : (take s f).result with
    | error other =>
      rw [takeAll_cons_of_error hf] at h
      obtain rfl : other = cause := Except.error.inj h
      exact ⟨0, f, fun k hk => absurd hk (Nat.not_lt_zero k), rfl, hf⟩
    | ok a =>
      rw [takeAll_cons_of_ok hf] at h
      obtain ⟨n, e, hrest⟩ := ih h
      exact ⟨n + 1, e, hrest.cons hf⟩

/-- An event of two parts is refused in the first, or the first is taken whole and it is refused in the second. -/
theorem RefusesAt.append_cases (h : RefusesAt s (es ++ fs) n e cause) :
    ((Sink.takeAll s es).result = .error cause ∧ e ∈ es) ∨ ((Sink.takeAll s es).result = .ok () ∧ e ∈ fs) := by
  induction es generalizing s n with
  | nil => exact Or.inr ⟨rfl, List.mem_of_getElem? h.next⟩
  | cons f es ih =>
    rw [List.cons_append] at h
    rcases h.cons_cases with ⟨rfl, rfl, hrefused⟩ | ⟨m, rfl, hfirst, hrest⟩
    · rw [takeAll_cons_of_error hrefused]
      exact Or.inl ⟨rfl, List.mem_cons_self⟩
    · rw [takeAll_cons_of_ok hfirst]
      exact (ih hrest).imp_left (And.imp_right (List.mem_cons_of_mem f))

end

/-- A reliable sink takes all events, and stays reliable. -/
theorem Reliable.takeAll {s : σ} (h : Reliable s) (es : List Event) :
    (takeAll s es).result = .ok () ∧ Reliable (takeAll s es).sink := by
  induction es generalizing s with
  | nil => exact ⟨rfl, h⟩
  | cons e es ih =>
    rw [takeAll_cons_of_ok (h.result e)]
    exact ih (h.next e)

end Sink

/-- A sink is reliable when its script has no refusals left. -/
theorem ScriptedSink.reliable {s : ScriptedSink} (h : s.refused = 0) : Sink.Reliable s := by
  have htake : ∀ s : ScriptedSink, s.refused = 0 → ∀ e,
      (Sink.take s e).result = .ok () ∧ (Sink.take s e).sink.refused = 0 := by
    rintro ⟨taken, refused, cause⟩ rfl e
    cases taken <;> exact ⟨rfl, rfl⟩
  intro events
  induction events generalizing s with
  | nil => exact fun e => (htake s h e).1
  | cons e es ih => exact ih (htake s h e).2

/-- A script with refusals refuses the event after those that it takes first. -/
theorem ScriptedSink.refusesAt {taken refused : Nat} {cause : Errno} {events : List Event} {e : Event}
    (next : events[taken]? = some e) :
    Sink.RefusesAt ({ taken, refused := refused + 1, cause } : ScriptedSink) events taken e cause := by
  induction taken generalizing events with
  | zero => exact ⟨fun k hk => absurd hk (Nat.not_lt_zero k), next, rfl⟩
  | succ n ih =>
    cases events with
    | nil => exact absurd next (by simp)
    | cons f es => exact (ih next).cons rfl

end Digitizer
