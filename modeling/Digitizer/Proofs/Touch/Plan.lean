import Digitizer.Proofs.Output.Reception
import Digitizer.Proofs.Sequencing
import Digitizer.Touch.Run

/-!
# What a request sends

Every request to a touchscreen has a plan, the events that it sends if the sink refuses none of them, and settles the
device in a state that depends on the device alone. A request does to the sink what offering it the plan does
(`offers_serve`). So the events that arrive are a beginning of the plan, and a request that succeeds has sent all of it
(`sends_serve`). Over a sink that never refuses an event every request succeeds.
-/
namespace Digitizer

/-- The codes of the axes that reports are about. -/
def Report.codes : List UInt16 :=
  Event.mtSlot :: Event.mtTrackingId :: (Receiver.slotAxes ++ [Event.absX, Event.absY])

/-- An event of a report: a value of an axis, or a press or release of the pointer. -/
def Event.IsContent (e : Event) : Prop := (∃ code ∈ Report.codes, ∃ value, e = .axis code value) ∨ ∃ down, e = .touch down

/-- No report ends a frame. -/
theorem Event.IsContent.isReport {e : Event} (h : e.IsContent) : e.isReport = false := by
  rcases h with ⟨code, -, value, rfl⟩ | ⟨down, rfl⟩
  · rfl
  · rfl

namespace Report

/-- The codes of the axes that slots are reported on. -/
def slotCodes : List UInt16 := Event.mtSlot :: Event.mtTrackingId :: Receiver.slotAxes

section
variable {P : Event → Prop} (slot : ∀ code ∈ slotCodes, ∀ value, P (.axis code value))
include slot

theorem forall_release {i : Nat} : ∀ e ∈ release i, P e := by
  intro e he
  simp only [release, List.mem_cons, List.not_mem_nil, or_false] at he
  rcases he with rfl | rfl
  · exact slot _ (by decide) _
  · exact slot _ (by decide) _

theorem forall_contact (config : Config) (p : Profile) (c : Contact) : ∀ e ∈ contact config p c, P e := by
  have hdown : ∀ i, ∀ e ∈ down config p i c, P e := by
    intro i e he
    simp only [down, List.mem_cons, List.not_mem_nil, or_false] at he
    rcases he with rfl | rfl | rfl | rfl | rfl | rfl | rfl <;> exact slot _ (by decide) _
  intro e he
  rw [contact] at he
  split at he
  · exact absurd he List.not_mem_nil
  · split at he
    · exact absurd he List.not_mem_nil
    · split at he
      · exact hdown _ e he
      · exact forall_release slot e he

theorem forall_releases {is : List Nat} : ∀ e ∈ is.flatMap release, P e := by
  intro e he
  obtain ⟨i, -, he⟩ := List.mem_flatMap.1 he
  exact forall_release slot e he

/-- What holds of all events on these axes holds of what is reported in the slots. -/
theorem forall_multitouch (config : Config) (p : Profile) (frame : List Contact) (lifted : IndexSet) :
    ∀ e ∈ multitouch config p frame lifted, P e := by
  intro e he
  rcases List.mem_append.1 he with he | he
  · obtain ⟨c, -, he⟩ := List.mem_flatMap.1 he
    exact forall_contact slot config p c e he
  · exact forall_releases slot e he

end

theorem isContent_of_slotCode : ∀ code ∈ slotCodes, ∀ value, (Event.axis code value).IsContent := by
  intro code hcode value
  exact Or.inl ⟨code, List.mem_append_left [Event.absX, Event.absY] hcode, value, rfl⟩

theorem isContent_of_pointer (config : Config) (p : Profile) (pointer : Pointer) :
    ∀ e ∈ Report.pointer config p pointer, e.IsContent := by
  intro e he
  cases pointer with
  | down c =>
    simp only [Report.pointer, List.mem_cons, List.not_mem_nil, or_false] at he
    rcases he with rfl | rfl | rfl
    · exact Or.inr ⟨true, rfl⟩
    · exact Or.inl ⟨Event.absX, by decide, _, rfl⟩
    · exact Or.inl ⟨Event.absY, by decide, _, rfl⟩
  | hold => exact absurd he List.not_mem_nil
  | up => exact Or.inr ⟨false, List.mem_singleton.1 he⟩

/-- What holds of releases in any slot, of the pointer's release and of the end of a frame. -/
theorem forall_releaseAll {P : Event → Prop} (slot : ∀ s, P (.axis Event.mtSlot s)) (lift : P (.axis Event.mtTrackingId (-1)))
    (up : P (.touch false)) (report : P Event.report) (tracked : IndexSet) :
    ∀ e ∈ releaseAll tracked ++ [Event.report], P e := by
  have hrelease : ∀ i, ∀ e ∈ release i, P e := by
    intro i e he
    simp only [release, List.mem_cons, List.not_mem_nil, or_false] at he
    rcases he with rfl | rfl
    · exact slot _
    · exact lift
  intro e he
  simp only [releaseAll, List.mem_append, List.mem_flatMap, List.mem_singleton] at he
  rcases he with (⟨i, -, he⟩ | rfl) | rfl
  · exact hrelease i e he
  · exact up
  · exact report

theorem isContent_of_releaseAll (tracked : IndexSet) : ∀ e ∈ releaseAll tracked, e.IsContent := by
  intro e he
  rcases List.mem_append.1 he with he | he
  · exact forall_releases isContent_of_slotCode e he
  · exact Or.inr ⟨false, List.mem_singleton.1 he⟩

end Report

/-- An event, taken or refused, or a log record. -/
def Entry.isOutput : Entry → Bool
  | .emitted _ | .refused .. | .notice _ => true
  | _ => false

namespace Touchscreen
variable {σ ε α β : Type}

/-- The device without its sink. -/
def core (d : Touchscreen σ) : Touchscreen Unit := { d with sink := () }

theorem exists_sink_of_core {d t : Touchscreen σ} (h : t.core = d.core) : ∃ sink, t = { d with sink } := by
  refine ⟨t.sink, ?_⟩
  cases d; cases t
  simpa [core] using h

/-- The device without its sink and its selector. -/
def unpointed (d : Touchscreen σ) : Touchscreen Unit := { d.core with selector := {} }

/-- Whether a frame is reported. Otherwise everything is lifted. -/
def presents (d : Touchscreen σ) (frame : List Contact) : Bool := d.enabled && !d.palmBlocks frame

/-- What the pointer does in a frame that is reported, and the selector afterwards. -/
def selection (d : Touchscreen σ) (frame : List Contact) : Pointer × Selector :=
  d.selector.select frame (d.tracker.advance frame).gone d.enabled

/-- The events of a request that meets no refusal. -/
def plan (d : Touchscreen σ) : Request → List Event
  | .update contacts =>
    let frame := d.slotted contacts
    let tracker := d.tracker.advance frame
    (if d.presents frame then
      Report.multitouch d.config d.profile frame tracker.gone
        ++ Report.pointer d.config d.profile (d.selection frame).1
    else Report.releaseAll tracker.remembered) ++ [Event.report]
  | .disable => Report.releaseAll d.tracker.remembered ++ [Event.report]
  | .enable => []

/-- The device after a request that meets no refusal, as far as it does not depend on the sink. -/
def settle (d : Touchscreen σ) : Request → Touchscreen Unit
  | .update contacts =>
    let frame := d.slotted contacts
    { d.core with
      tracker := d.tracker.advance frame
      selector := if d.presents frame then (d.selection frame).2 else d.selector }
  | .disable => { d.core with enabled := false, tracker := {} }
  | .enable => { d.core with enabled := true }

variable [Sink σ]

/--
An action that means to send `plan` and to leave the device as `goal`: what arrives is a beginning of the plan, all of it and
the goal if the action succeeds, and over a reliable sink it does succeed.
-/
structure Sends (p : Action (Touchscreen σ) Errno α) (d : Touchscreen σ) (plan : List Event)
    (goal : Touchscreen Unit) : Prop where
  upTo : (p d).journal.events <+: plan
  all : ∀ a, (p d).result = .ok a → (p d).journal.events = plan
  settled : ∀ a, (p d).result = .ok a → (p d).state.core = goal
  reliable : Sink.Reliable d.sink → (∃ a, (p d).result = .ok a) ∧ Sink.Reliable (p d).state.sink

/--
An action that offers `plan` to the sink and means to leave the device as `goal`: its result, the sink and the entries about
events are those of offering the plan, and the goal is reached if the action succeeds.
-/
structure Offers (p : Action (Touchscreen σ) Errno α) (d : Touchscreen σ) (plan : List Event)
    (goal : Touchscreen Unit) : Prop where
  result : (p d).result.map (fun _ => ()) = (Sink.takeAll d.sink plan).result
  sink : (p d).state.sink = (Sink.takeAll d.sink plan).sink
  entries : (p d).journal.output = (Sink.takeAll d.sink plan).entries
  settled : ∀ a, (p d).result = .ok a → (p d).state.core = goal

section
variable {p : Action (Touchscreen σ) Errno α} {d : Touchscreen σ} {es : List Event} {goal goal' : Touchscreen Unit}

theorem Offers.to (h : Offers p d es goal) (same : goal = goal') : Offers p d es goal' := same ▸ h

theorem Offers.takeAll_of_ok (h : Offers p d es goal) {a : α} (ok : (p d).result = .ok a) :
    (Sink.takeAll d.sink es).result = .ok () := by
  rw [← h.result, ok]
  rfl

theorem Offers.takeAll_of_error (h : Offers p d es goal) {cause : Errno} (failed : (p d).result = .error cause) :
    (Sink.takeAll d.sink es).result = .error cause := by
  rw [← h.result, failed]
  rfl

theorem Offers.ok_of_takeAll (h : Offers p d es goal) (ok : (Sink.takeAll d.sink es).result = .ok ()) :
    ∃ a, (p d).result = .ok a := by
  cases hr : (p d).result with
  | ok a => exact ⟨a, rfl⟩
  | error cause =>
    rw [h.takeAll_of_error hr] at ok
    exact absurd ok (by simp)

/-- The sink alone decides how much of a plan is sent. -/
theorem Offers.sends (h : Offers p d es goal) : Sends p d es goal := by
  obtain ⟨hsome, hall⟩ := Sink.events_takeAll d.sink es
  rw [← h.entries, Journal.events_output] at hsome hall
  refine ⟨hsome, fun a ok => hall (h.takeAll_of_ok ok), h.settled, fun reliable => ?_⟩
  obtain ⟨ok, hnext⟩ := reliable.takeAll es
  exact ⟨h.ok_of_takeAll ok, h.sink ▸ hnext⟩

/-- An action that cannot fail and leaves the sink alone offers nothing. -/
theorem offers_silent {a : α} (result : (p d).result = .ok a) (output : (p d).journal.output = [])
    (sink : (p d).state.sink = d.sink) : Offers p d [] (p d).state.core where
  result := by rw [result]; rfl
  sink := sink
  entries := output
  settled := fun _ _ => rfl

end

theorem offers_get {f : Touchscreen σ → Action (Touchscreen σ) Errno β} {d : Touchscreen σ} {es : List Event}
    {goal : Touchscreen Unit} (h : Offers (f d) d es goal) : Offers (Action.get >>= f) d es goal :=
  ⟨h.result, h.sink, h.entries, h.settled⟩

theorem offers_modify {g : Touchscreen σ → Touchscreen σ} {f : Unit → Action (Touchscreen σ) Errno β} {d : Touchscreen σ}
    {es : List Event} {goal : Touchscreen Unit} (sink : (g d).sink = d.sink) (h : Offers (f ()) (g d) es goal) :
    Offers (Action.modify g >>= f) d es goal := by
  obtain ⟨hresult, hsink, hentries, hsettled⟩ := h
  rw [sink] at hresult hsink hentries
  exact ⟨hresult, hsink, hentries, hsettled⟩

/-- Plans of actions in sequence are appended. -/
theorem offers_bind {p : Action (Touchscreen σ) Errno α} {f : α → Action (Touchscreen σ) Errno β} {d : Touchscreen σ}
    {es fs : List Event} {between goal : Touchscreen Unit} (hp : Offers p d es between)
    (hf : ∀ a, (p d).result = .ok a → Offers (f a) (p d).state fs goal) : Offers (p >>= f) d (es ++ fs) goal := by
  cases h : (p d).result with
  | error cause =>
    have hbind := Action.bind_of_result_error h f
    have htake := Sink.takeAll_append_of_error (hp.takeAll_of_error h) fs
    refine ⟨?_, ?_, ?_, ?_⟩
    · rw [hbind, htake, hp.takeAll_of_error h]
      rfl
    · rw [hbind, htake]
      exact hp.sink
    · rw [hbind, htake]
      exact hp.entries
    · intro b hb
      simp [hbind] at hb
  | ok a =>
    have hbind := Action.bind_of_result_ok h f
    have htake := Sink.takeAll_append_of_ok (hp.takeAll_of_ok h) fs
    have hf := hf a h
    rw [← hp.sink, ← hp.entries] at htake
    refine ⟨?_, ?_, ?_, ?_⟩
    · rw [hbind, htake]
      exact hf.result
    · rw [hbind, htake]
      exact hf.sink
    · rw [hbind, htake, Journal.output_append, hf.entries]
    · intro b hb
      rw [hbind] at hb ⊢
      exact hf.settled b hb

theorem offers_after {p : Action (Touchscreen σ) Errno α} {f : α → Action (Touchscreen σ) Errno β} {d : Touchscreen σ}
    {es : List Event} {between goal : Touchscreen Unit} (hp : Offers p d [] between)
    (hf : ∀ a, (p d).result = .ok a → Offers (f a) (p d).state es goal) : Offers (p >>= f) d es goal :=
  offers_bind hp hf

theorem offers_emit (e : Event) (d : Touchscreen σ) : Offers (emit e) d [e] d.core := by
  cases h : (Sink.take d.sink e).result with
  | error cause =>
    rw [← List.append_nil [e]]
    refine ⟨?_, ?_, ?_, fun _ _ => rfl⟩ <;>
      simp [emit, h, Sink.takeAll_cons_of_error h, Except.map, Journal.output, Entry.offer?]
  | ok a =>
    refine ⟨?_, ?_, ?_, fun _ _ => rfl⟩ <;>
      simp [emit, h, Sink.takeAll_cons_of_ok h, Except.map, Journal.output, Entry.offer?]

theorem offers_emitAll (events : List Event) (d : Touchscreen σ) : Offers (emitAll events) d events d.core := by
  induction events generalizing d with
  | nil => exact offers_silent (a := ()) rfl rfl rfl
  | cons e es ih => exact offers_bind (offers_emit e d) fun a h => (ih _).to ((offers_emit e d).settled a h)

omit [Sink σ] in
theorem reportUnslotted_apply (contacts : List Contact) (d : Touchscreen σ) :
    ∃ notices : List Notice, (reportUnslotted contacts : Action (Touchscreen σ) ε Unit) d =
      ⟨.ok (), d, notices.map Entry.notice⟩ := by
  rw [reportUnslotted, Action.get_bind]
  exact ⟨_, Action.each_notify _ _ d⟩

theorem offers_reportUnslotted (contacts : List Contact) (d : Touchscreen σ) :
    Offers (reportUnslotted contacts) d [] d.core := by
  obtain ⟨notices, h⟩ := reportUnslotted_apply (ε := Errno) contacts d
  have hcore : ((reportUnslotted contacts : Action (Touchscreen σ) Errno Unit) d).state.core = d.core := by rw [h]
  rw [← hcore]
  refine offers_silent (a := ()) ?_ ?_ ?_ <;> simp [h]

theorem offers_releaseAll (d : Touchscreen σ) :
    Offers releaseAll d (Report.releaseAll d.tracker.remembered) d.core :=
  offers_get (offers_emitAll (Report.releaseAll d.tracker.remembered) d)

omit [Sink σ] in
/-- Choosing what the pointer does writes nothing but log records. -/
theorem journal_point (frame : List Contact) (d : Touchscreen σ) :
    ∃ notices : List Notice,
      ((point frame : Action (Touchscreen σ) ε Pointer) d).journal = notices.map Entry.notice := by
  simp only [point, Selector.choose, Action.get_bind, Action.within_apply]
  split
  · exact ⟨[], rfl⟩
  · exact ⟨[.pointerMoved _ _], rfl⟩

theorem offers_point (frame : List Contact) (d : Touchscreen σ) :
    Offers (point frame) d []
      { d.core with selector := (d.selector.select frame d.tracker.gone d.enabled).2 } := by
  refine offers_silent (a := (d.selector.select frame d.tracker.gone d.enabled).1) rfl ?_ rfl
  obtain ⟨notices, h⟩ := journal_point (ε := Errno) frame d
  rw [h, Journal.output_notices]

theorem offers_present (frame : List Contact) (d : Touchscreen σ) :
    let choice := d.selector.select frame d.tracker.gone d.enabled
    Offers (present frame) d
      (Report.multitouch d.config d.profile frame d.tracker.gone ++ Report.pointer d.config d.profile choice.1)
      { d.core with selector := choice.2 } := by
  intro choice
  refine offers_get (offers_bind (offers_emitAll _ d) fun a h => ?_)
  obtain ⟨sink, ht⟩ := exists_sink_of_core ((offers_emitAll _ d).settled a h)
  rw [ht]
  refine offers_after (offers_point frame _) fun pointer hp => ?_
  obtain rfl : choice.1 = pointer := Except.ok.inj hp
  exact offers_emitAll _ _

/-- A frame that has been tracked is reported, or everything is lifted. -/
theorem offers_presentUnlessBlocked (frame : List Contact) (d : Touchscreen σ) :
    let choice := d.selector.select frame d.tracker.gone d.enabled
    Offers (presentUnlessBlocked frame) d
      (if d.presents frame then
        Report.multitouch d.config d.profile frame d.tracker.gone ++ Report.pointer d.config d.profile choice.1
      else Report.releaseAll d.tracker.remembered)
      { d.core with selector := if d.presents frame then choice.2 else d.selector } := by
  intro choice
  refine offers_get ?_
  by_cases h : d.presents frame = true
  · have h' : (d.enabled && !d.palmBlocks frame) = true := h
    simp only [h, h', if_true]
    exact offers_present frame d
  · have h' : ¬(d.enabled && !d.palmBlocks frame) = true := h
    simp only [h, h']
    exact offers_releaseAll d

/-- An update up to the end of its frame. -/
def prepare (contacts : List Contact) : Action (Touchscreen σ) Errno Unit := do
  let d ← Action.get
  reportUnslotted contacts
  track (d.slotted contacts)
  presentUnlessBlocked (d.slotted contacts)

theorem update_eq_prepare (contacts : List Contact) :
    (update contacts : Action (Touchscreen σ) Errno Unit) = prepare contacts >>= fun _ => sync := by
  simp only [update, prepare, bind_assoc]

omit [Sink σ] in
/-- The events of an update before the end of its frame. -/
def content (d : Touchscreen σ) (contacts : List Contact) : List Event :=
  let frame := d.slotted contacts
  let tracker := d.tracker.advance frame
  if d.presents frame then
    Report.multitouch d.config d.profile frame tracker.gone ++ Report.pointer d.config d.profile (d.selection frame).1
  else Report.releaseAll tracker.remembered

omit [Sink σ] in
theorem plan_update (d : Touchscreen σ) (contacts : List Contact) :
    d.plan (.update contacts) = d.content contacts ++ [Event.report] := rfl

omit [Sink σ] in
theorem isContent_of_content (d : Touchscreen σ) (contacts : List Contact) : ∀ e ∈ d.content contacts, e.IsContent := by
  intro e he
  rw [content] at he
  split at he
  · rcases List.mem_append.1 he with he | he
    · exact Report.forall_multitouch Report.isContent_of_slotCode _ _ _ _ e he
    · exact Report.isContent_of_pointer _ _ _ e he
  · exact Report.isContent_of_releaseAll _ e he

/-- The device is settled before the frame is ended. -/
theorem offers_prepare (contacts : List Contact) (d : Touchscreen σ) :
    Offers (prepare contacts) d (d.content contacts) (d.settle (.update contacts)) := by
  refine offers_get (offers_after (offers_reportUnslotted contacts d) fun _ _ => ?_)
  obtain ⟨notices, h⟩ := reportUnslotted_apply (ε := Errno) contacts d
  rw [h]
  exact offers_modify rfl (offers_presentUnlessBlocked (d.slotted contacts)
    { d with tracker := d.tracker.advance (d.slotted contacts) })

/-- What a request offers to any sink. -/
theorem offers_serve (r : Request) (d : Touchscreen σ) : Offers (serve r) d (d.plan r) (d.settle r) := by
  cases r with
  | update contacts =>
    rw [serve, update_eq_prepare]
    have hp := offers_prepare contacts d
    exact offers_bind hp fun a ha => (offers_emit Event.report _).to (hp.settled a ha)
  | disable =>
    refine offers_modify rfl ?_
    have hp := offers_releaseAll { d with enabled := false }
    refine offers_bind hp fun a ha => ?_
    have hs := (offers_emit Event.report _).to (hp.settled a ha)
    refine (List.append_nil [Event.report]).symm ▸ offers_bind hs fun b hb => ?_
    have hcore := congrArg (fun c : Touchscreen Unit => { c with tracker := {} }) (hs.settled b hb)
    exact (offers_silent (a := ()) rfl rfl rfl).to hcore
  | enable => exact offers_silent (a := ()) rfl rfl rfl

/-- What a request sends over any sink. -/
theorem sends_serve (r : Request) (d : Touchscreen σ) : Sends (serve r) d (d.plan r) (d.settle r) :=
  (offers_serve r d).sends

/-- Whether it is refused any of them or not, a request offers its events in turn. -/
theorem offers_upTo (r : Request) (d : Touchscreen σ) : (serve r d).journal.offers <+: d.plan r := by
  rw [← Journal.offers_output, (offers_serve r d).entries]
  exact Sink.offers_takeAll d.sink (d.plan r)

/-- An update that fails only as its frame is ended settles the device nevertheless. -/
theorem core_update_of_content {d : Touchscreen σ} {contacts : List Contact}
    (taken : (Sink.takeAll d.sink (d.content contacts)).result = .ok ()) :
    (d.after (.update contacts)).core = d.settle (.update contacts) := by
  have hp := offers_prepare contacts d
  obtain ⟨a, ha⟩ := hp.ok_of_takeAll taken
  rw [after, serve, update_eq_prepare, Action.bind_of_result_ok ha]
  exact hp.settled a ha

/-- Over a reliable sink a request carries out its plan. -/
theorem serve_of_reliable {d : Touchscreen σ} (h : Sink.Reliable d.sink) (r : Request) :
    d.delivered r = d.plan r ∧ (d.after r).core = d.settle r ∧ Sink.Reliable (d.after r).sink := by
  have hs := sends_serve r d
  obtain ⟨⟨a, ha⟩, hsink⟩ := hs.reliable h
  exact ⟨hs.all a ha, hs.settled a ha, hsink⟩

/-! ## What is written to the journal -/

theorem logs_emit (e : Event) : Action.Logs (·.isOutput = true) (emit (σ := σ) e) := by
  intro d entry hentry
  rcases List.mem_cons.1 hentry with rfl | hentry
  · cases (Sink.take d.sink e).result <;> rfl
  · obtain ⟨notice, -, rfl⟩ := List.mem_map.1 hentry
    rfl

theorem logs_emitAll (events : List Event) : Action.Logs (·.isOutput = true) (emitAll (σ := σ) events) :=
  Action.logs_each logs_emit events

theorem logs_presentUnlessBlocked (frame : List Contact) :
    Action.Logs (·.isOutput = true) (presentUnlessBlocked (σ := σ) frame) := by
  have hpoint : Action.Logs (·.isOutput = true) (point frame : Action (Touchscreen σ) Errno Pointer) := by
    intro d entry hentry
    obtain ⟨notices, h⟩ := journal_point (ε := Errno) frame d
    rw [h] at hentry
    obtain ⟨notice, -, rfl⟩ := List.mem_map.1 hentry
    rfl
  refine Action.logs_bind Action.logs_get fun d => ?_
  split
  · exact Action.logs_bind Action.logs_get fun _ =>
      Action.logs_bind (logs_emitAll _) fun _ => Action.logs_bind hpoint fun _ => logs_emitAll _
  · exact Action.logs_bind Action.logs_get fun _ => logs_emitAll _

/-- An update writes nothing but events and log records. -/
theorem logs_update (contacts : List Contact) : Action.Logs (·.isOutput = true) (update (σ := σ) contacts) := by
  have hnotify : ∀ notice, Action.Logs (·.isOutput = true)
      (Action.notify notice : Action (Touchscreen σ) Errno Unit) := fun _ => Action.logs_notify rfl
  refine Action.logs_bind Action.logs_get fun d => Action.logs_bind ?_ fun _ =>
    Action.logs_bind (Action.logs_modify _) fun _ => Action.logs_bind (logs_presentUnlessBlocked _) fun _ => logs_emit _
  exact Action.logs_bind Action.logs_get fun d => Action.logs_each (fun _ => hnotify _) _

/-! ## When an update fails -/

/-- An action that fails exactly if the sink refuses an event, at that event and with its cause. -/
def FailsByRefusal (p : Action (Touchscreen σ) Errno α) : Prop :=
  ∀ d, (p d).journal.refusals = match (p d).result with
    | .ok _ => []
    | .error cause => [cause]

theorem failsByRefusal_serve (r : Request) : FailsByRefusal (serve (σ := σ) r) := by
  intro d
  have h := offers_serve r d
  have hrefusals := Sink.refusals_takeAll d.sink (d.plan r)
  rw [← h.entries, Journal.refusals_output] at hrefusals
  cases hr : (serve r d).result with
  | ok a => rwa [h.takeAll_of_ok hr] at hrefusals
  | error cause => rwa [h.takeAll_of_error hr] at hrefusals

theorem failsByRefusal_update (contacts : List Contact) : FailsByRefusal (update (σ := σ) contacts) :=
  failsByRefusal_serve (.update contacts)

/-! ## What is left of the device after a refusal -/

theorem keeps_emitAll (events : List Event) : Action.Keeps core (emitAll (σ := σ) events) :=
  Action.keeps_each (fun _ _ => rfl) events

theorem keeps_releaseAll : Action.Keeps core (releaseAll : Action (Touchscreen σ) Errno Unit) :=
  fun d => keeps_emitAll (Report.releaseAll d.tracker.remembered) d

/-- Whatever the sink refuses, the reporting of a frame changes nothing but the selector. -/
theorem keeps_presentUnlessBlocked (frame : List Contact) :
    Action.Keeps unpointed (presentUnlessBlocked (σ := σ) frame) := by
  have hemit : ∀ events, Action.Keeps unpointed (emitAll (σ := σ) events) := fun events d =>
    congrArg (fun c : Touchscreen Unit => { c with selector := {} }) (keeps_emitAll events d)
  have hpoint : Action.Keeps unpointed (point frame : Action (Touchscreen σ) Errno Pointer) := fun _ => rfl
  refine Action.keeps_bind Action.keeps_get fun d => ?_
  split
  · exact Action.keeps_bind Action.keeps_get fun _ =>
      Action.keeps_bind (hemit _) fun _ => Action.keeps_bind hpoint fun _ => hemit _
  · exact Action.keeps_bind Action.keeps_get fun _ => hemit _

/-- What an update leaves is what the reporting of its frame leaves once the tracker has been advanced. -/
theorem after_update (contacts : List Contact) (d : Touchscreen σ) :
    d.after (.update contacts) =
      ((presentUnlessBlocked (d.slotted contacts) >>= fun _ => sync)
        { d with tracker := d.tracker.advance (d.slotted contacts) }).state := by
  obtain ⟨notices, h⟩ := reportUnslotted_apply (ε := Errno) contacts d
  rw [after, serve, update, Action.get_bind, Action.bind_of_ok h]
  rfl

/-- An update advances the tracker even if it fails. -/
theorem unpointed_update (contacts : List Contact) (d : Touchscreen σ) :
    (d.after (.update contacts)).unpointed =
      { d.unpointed with tracker := d.tracker.advance (d.slotted contacts) } := by
  have hsync : Action.Keeps unpointed (sync : Action (Touchscreen σ) Errno Unit) := fun _ => rfl
  have hrest := Action.keeps_bind (keeps_presentUnlessBlocked (d.slotted contacts)) fun _ => hsync
  rw [after_update]
  exact hrest { d with tracker := d.tracker.advance (d.slotted contacts) }

/-- A frame that is not reported leaves the selector. -/
theorem selector_update_of_blocked {d : Touchscreen σ} {contacts : List Contact}
    (h : d.presents (d.slotted contacts) = false) : (d.after (.update contacts)).selector = d.selector := by
  let tracked : Touchscreen σ := { d with tracker := d.tracker.advance (d.slotted contacts) }
  have hsync : Action.Keeps core (sync : Action (Touchscreen σ) Errno Unit) := fun _ => rfl
  have hrest : (presentUnlessBlocked (d.slotted contacts) >>= fun _ => sync) tracked =
      (releaseAll >>= fun _ => sync) tracked := by
    have hblocked : ¬(tracked.enabled && !tracked.palmBlocks (d.slotted contacts)) = true := by
      rw [Bool.not_eq_true]
      exact h
    rw [presentUnlessBlocked, bind_assoc, Action.get_bind, if_neg hblocked]
  have hkeeps := (Action.keeps_bind keeps_releaseAll fun _ => hsync) tracked
  rw [← hrest] at hkeeps
  have hselector := congrArg selector hkeeps
  rw [after_update]
  exact hselector

/-- A disable that fails leaves the tracker and the selector. -/
theorem core_disable_of_error {d : Touchscreen σ} {cause : Errno} (h : (serve .disable d).result = .error cause) :
    (d.after .disable).core = { d.core with enabled := false } := by
  have hsync : Action.Keeps core (sync : Action (Touchscreen σ) Errno Unit) := fun _ => rfl
  have hkeeps : Action.Keeps core (releaseAll >>= fun _ => sync : Action (Touchscreen σ) Errno Unit) :=
    Action.keeps_bind keeps_releaseAll fun _ => hsync
  have hd := hkeeps { d with enabled := false }
  rw [after]
  rw [serve, disable, Action.modify_bind, ← bind_assoc] at h ⊢
  cases hr : ((releaseAll >>= fun _ => sync : Action (Touchscreen σ) Errno Unit) { d with enabled := false }).result with
  | error e => rw [Action.bind_of_result_error hr, hd]; rfl
  | ok a =>
    rw [Action.bind_of_result_ok hr] at h
    exact absurd h (by simp)

end Touchscreen
end Digitizer
