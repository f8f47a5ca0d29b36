import Digitizer.Proofs.Touch.Shown

/-!
# What a request does

Log records aside, what a request does depends on the device and on what becomes of its plan (`effect_eq`). A request that the
sink interrupts leaves the device where the refusal meets it: an update has advanced the tracker, and has moved the selector if
all its slots were reported; a disable has disabled the device, and that is all.
-/
namespace Digitizer.Touchscreen
variable {σ : Type}

/-- The events by which a reported frame fills and lifts its slots. They come before the selector is asked. -/
def slotReport (d : Touchscreen σ) (contacts : List Contact) : List Event :=
  let frame := d.slotted contacts
  Report.multitouch d.config d.profile frame (d.tracker.advance frame).gone

theorem plan_of_slotReport (d : Touchscreen σ) (contacts : List Contact) :
    d.plan (.update contacts) =
      (if d.presents (d.slotted contacts) then
        d.slotReport contacts ++ Report.pointer d.config d.profile (d.selection (d.slotted contacts)).1
      else Report.releaseAll (d.tracker.advance (d.slotted contacts)).remembered) ++ [Event.report] := rfl

variable [Sink σ]

/-- The device after a request, whether it meets a refusal or not, as far as the sink is not part of it. -/
def ending (d : Touchscreen σ) : Request → Touchscreen Unit
  | .update contacts =>
    if (Sink.takeAll d.sink (d.slotReport contacts)).result.isOk then d.settle (.update contacts)
    else { d.settle (.update contacts) with selector := d.selector }
  | .disable =>
    if (Sink.takeAll d.sink (d.plan .disable)).result.isOk then d.settle .disable
    else { d.core with enabled := false }
  | .enable => d.settle .enable

/-- What a request does, log records aside. -/
def effect (d : Touchscreen σ) (r : Request) : Outcome (Touchscreen σ) Errno Unit :=
  { serve r d with journal := (serve r d).journal.output }

@[simp] theorem state_effect (d : Touchscreen σ) (r : Request) : (d.effect r).state = d.after r := rfl

/-- What a run does, request by request. -/
def history (d : Touchscreen σ) : List Request → List (Outcome (Touchscreen σ) Errno Unit)
  | [] => []
  | r :: rs => d.effect r :: (d.after r).history rs

/-- The selector moves once the slots have been reported, whatever becomes of the pointer. -/
theorem selector_present (frame : List Contact) (d : Touchscreen σ) :
    let slots := Report.multitouch d.config d.profile frame d.tracker.gone
    (present frame d).state.selector =
      if (Sink.takeAll d.sink slots).result.isOk then (d.selector.select frame d.tracker.gone d.enabled).2
      else d.selector := by
  intro slots
  have hslots := offers_emitAll slots d
  have hkeeps : ∀ events, Action.Keeps selector (emitAll (σ := σ) events) := fun events e =>
    congrArg (fun c : Touchscreen Unit => c.selector) (keeps_emitAll events e)
  have hkept : (emitAll slots d).state.core = d.core := keeps_emitAll slots d
  rw [present, Action.get_bind]
  cases h : (emitAll slots d).result with
  | error cause =>
    rw [Action.bind_of_result_error h, hslots.takeAll_of_error h]
    exact hkeeps slots d
  | ok a =>
    rw [Action.bind_of_result_ok h, hslots.takeAll_of_ok h]
    obtain ⟨sink, ht⟩ := exists_sink_of_core hkept
    rw [ht]
    have hpoint : ((point frame : Action (Touchscreen σ) Errno Pointer) { d with sink }).state.selector =
      (d.selector.select frame d.tracker.gone d.enabled).2 := rfl
    exact (Action.view_bind (fun _ => hkeeps _) _).trans hpoint

theorem selector_update_of_presents {d : Touchscreen σ} {contacts : List Contact}
    (h : d.presents (d.slotted contacts) = true) :
    (d.after (.update contacts)).selector =
      if (Sink.takeAll d.sink (d.slotReport contacts)).result.isOk then (d.selection (d.slotted contacts)).2
      else d.selector := by
  let tracked : Touchscreen σ := { d with tracker := d.tracker.advance (d.slotted contacts) }
  have hsync : Action.Keeps selector (sync : Action (Touchscreen σ) Errno Unit) := fun _ => rfl
  have hpresents : (tracked.enabled && !tracked.palmBlocks (d.slotted contacts)) = true := h
  have hselector : (presentUnlessBlocked (d.slotted contacts) tracked).state.selector =
      (present (d.slotted contacts) tracked).state.selector := by
    rw [presentUnlessBlocked, Action.get_bind, if_pos hpresents]
  rw [selector_present] at hselector
  rw [after_update]
  exact (Action.view_bind (fun _ => hsync) tracked).trans hselector

/-- How a request leaves the device. -/
theorem core_after (d : Touchscreen σ) (r : Request) : (d.after r).core = d.ending r := by
  cases r with
  | update contacts =>
    have hrest := unpointed_update contacts d
    have hselector : (d.after (.update contacts)).selector = (d.ending (.update contacts)).selector := by
      cases hp : d.presents (d.slotted contacts) with
      | true =>
        rw [selector_update_of_presents hp, ending]
        split <;> simp [settle, hp]
      | false =>
        rw [selector_update_of_blocked hp, ending]
        split <;> simp [settle, hp]
    have hcore : (d.after (.update contacts)).core =
        { (d.after (.update contacts)).unpointed with selector := (d.after (.update contacts)).selector } := rfl
    rw [hcore, hselector, hrest, ending]
    split <;> rfl
  | disable =>
    have hserve := offers_serve .disable d
    rw [ending]
    cases h : (serve .disable d).result with
    | ok a =>
      rw [hserve.takeAll_of_ok h]
      exact hserve.settled a h
    | error cause =>
      rw [hserve.takeAll_of_error h]
      exact core_disable_of_error h
  | enable => rfl

/-- What a request does is what becomes of its plan. -/
theorem effect_eq (d : Touchscreen σ) (r : Request) :
    let taken := Sink.takeAll d.sink (d.plan r)
    d.effect r = { result := taken.result, state := { d.ending r with sink := taken.sink }, journal := taken.entries } := by
  intro taken
  have hserve := offers_serve r d
  have hresult : (serve r d).result = taken.result := by
    rw [← hserve.result]
    cases (serve r d).result <;> rfl
  have hstate : (serve r d).state = { d.ending r with sink := taken.sink } := by
    rw [← core_after, ← hserve.sink]
    rfl
  rw [effect, hresult, hstate, hserve.entries]

end Digitizer.Touchscreen
