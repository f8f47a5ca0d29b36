import Digitizer.Proofs.Touch.Disappearances
import Digitizer.Proofs.Touch.Effects
import Digitizer.Proofs.Touch.PointerAgreement
import Digitizer.Scripted.Sink

/-!
# When the selector is asked

An update asks the selector at most once, after it has reported the slots (`update_eq_approach`). By then the tracker has been
advanced by the very frame that the selector is asked about, and the device is known to be enabled. So neither of the guards
of the selector is ever of use there: the selector is asked as it would be if nothing had been lifted, and what it answers
depends on the frame and on its index alone (`selector_guards_redundant`).
-/
namespace Digitizer

namespace Selector

/-- Lifted indices matter only if they are in the frame. -/
theorem select_of_absent (s : Selector) {frame : List Contact} {lifted : IndexSet} (absent : ∀ i, Occurs i frame → i ∉ lifted) :
    s.select frame lifted true = s.select frame ∅ true := by
  cases h : s.followed? frame with
  | none => simp only [select, h, ite_self]
  | some c =>
    obtain ⟨hc, hi, -⟩ := of_followed? h
    have hlifted := absent s.index ⟨c, hc, hi⟩
    simp only [select, if_neg hlifted, if_neg (IndexSet.not_mem_empty s.index)]

end Selector

namespace Touchscreen
variable {σ ε : Type}

/-- Ask the selector about a frame, as if nothing had been lifted and the device were enabled. -/
def pointFreely (frame : List Contact) : Action (Touchscreen σ) ε Pointer :=
  Action.within selector (fun d selector => { d with selector }) (Selector.choose frame ∅ true)

variable [Sink σ]

/-- Report the slots of a frame that has been tracked, and give the frame; or lift everything where input is not wanted. -/
def fillSlots (frame : List Contact) : Action (Touchscreen σ) Errno (Option (List Contact)) := do
  let d ← Action.get
  if d.enabled && !d.palmBlocks frame then
    emitAll (Report.multitouch d.config d.profile frame d.tracker.gone)
    pure (some frame)
  else
    releaseAll
    pure none

/-- An update up to where the selector is asked. Gives the frame to ask about, unless everything was lifted instead. -/
def approach (contacts : List Contact) : Action (Touchscreen σ) Errno (Option (List Contact)) := do
  let d ← Action.get
  let frame := d.slotted contacts
  reportUnslotted contacts
  track frame
  fillSlots frame

/-- The rest of an update, in which the selector is asked by a given action. -/
def conclude (ask : List Contact → Action (Touchscreen σ) Errno Pointer) :
    Option (List Contact) → Action (Touchscreen σ) Errno Unit
  | none => sync
  | some frame => do
    let d ← Action.get
    let pointer ← ask frame
    emitAll (Report.pointer d.config d.profile pointer)
    sync

/-! ## Where the selector is asked -/

theorem fillSlots_of_presents {frame : List Contact} {d : Touchscreen σ} (h : d.presents frame = true) :
    fillSlots frame d =
      (emitAll (Report.multitouch d.config d.profile frame d.tracker.gone) >>= fun _ => pure (some frame)) d := by
  have hpresents : (d.enabled && !d.palmBlocks frame) = true := h
  rw [fillSlots, Action.get_bind, if_pos hpresents]

theorem fillSlots_of_not_presents {frame : List Contact} {d : Touchscreen σ} (h : ¬d.presents frame = true) :
    fillSlots frame d = (releaseAll >>= fun _ => pure none) d := by
  have hblocked : ¬(d.enabled && !d.palmBlocks frame) = true := h
  rw [fillSlots, Action.get_bind, if_neg hblocked]

theorem present_eq_fillSlots (frame : List Contact) (d : Touchscreen σ) :
    (presentUnlessBlocked frame >>= fun _ => sync) d = (fillSlots frame >>= conclude point) d := by
  by_cases h : d.presents frame = true
  · have hpresents : (d.enabled && !d.palmBlocks frame) = true := h
    rw [presentUnlessBlocked, bind_assoc, Action.get_bind, if_pos hpresents, present, bind_assoc, Action.get_bind,
      Action.bind_congr_left (fillSlots_of_presents h)]
    simp only [bind_assoc, pure_bind]
    refine Action.bind_congr_right fun _ _ => ?_
    -- Whatever the sink makes of the slots, the settings are those that the pointer is reported with.
    obtain ⟨sink, hsink⟩ := exists_sink_of_core (keeps_emitAll
      (Report.multitouch d.config d.profile frame d.tracker.gone) d)
    rw [hsink]
    rfl
  · have hblocked : ¬(d.enabled && !d.palmBlocks frame) = true := h
    rw [presentUnlessBlocked, bind_assoc, Action.get_bind, if_neg hblocked,
      Action.bind_congr_left (fillSlots_of_not_presents h), bind_assoc]
    rfl

theorem update_eq_approach (contacts : List Contact) (d : Touchscreen σ) :
    update contacts d = (approach contacts >>= conclude point) d := by
  simp only [update, approach, bind_assoc, Action.get_bind]
  exact Action.bind_congr_right fun _ _ => Action.bind_congr_right fun _ _ => present_eq_fillSlots _ _

/-- Up to where the selector is asked, an update is the reporting of its slots once the tracker has been advanced. -/
theorem approach_apply (contacts : List Contact) (d : Touchscreen σ) :
    let o := fillSlots (d.slotted contacts) { d with tracker := d.tracker.advance (d.slotted contacts) }
    (approach contacts d).result = o.result ∧ (approach contacts d).state = o.state := by
  intro o
  obtain ⟨notices, h⟩ := reportUnslotted_apply (ε := Errno) contacts d
  rw [approach, Action.get_bind, Action.bind_of_ok h]
  exact ⟨rfl, rfl⟩

theorem keeps_fillSlots (frame : List Contact) : Action.Keeps core (fillSlots (σ := σ) frame) := by
  refine Action.keeps_bind Action.keeps_get fun d => ?_
  split
  · exact Action.keeps_bind (keeps_emitAll _) fun _ => Action.keeps_pure _
  · exact Action.keeps_bind keeps_releaseAll fun _ => Action.keeps_pure _

/-- Where the selector is asked, the tracker has been advanced, and that is all that has changed. -/
theorem core_approach (contacts : List Contact) (d : Touchscreen σ) :
    (approach contacts d).state.core = { d.core with tracker := d.tracker.advance (d.slotted contacts) } := by
  rw [(approach_apply contacts d).2]
  exact keeps_fillSlots _ _

theorem tracker_approach (contacts : List Contact) (d : Touchscreen σ) :
    (approach contacts d).state.tracker = d.tracker.advance (d.slotted contacts) := by
  have htracker := congrArg tracker (core_approach contacts d)
  exact htracker

theorem fillSlots_eq_some_iff {frame asked : List Contact} {d : Touchscreen σ} :
    (fillSlots frame d).result = .ok (some asked) ↔
      d.presents frame = true ∧
        (Sink.takeAll d.sink (Report.multitouch d.config d.profile frame d.tracker.gone)).result = .ok () ∧
        frame = asked := by
  have hslots := offers_emitAll (Report.multitouch d.config d.profile frame d.tracker.gone) d
  by_cases h : d.presents frame = true
  · rw [fillSlots_of_presents h, Action.bind_const]
    cases hr : (emitAll (Report.multitouch d.config d.profile frame d.tracker.gone) d).result with
    | ok a => simp [h, hslots.takeAll_of_ok hr, Except.map]
    | error cause => simp [hslots.takeAll_of_error hr, Except.map]
  · rw [fillSlots_of_not_presents h, Action.bind_const]
    cases (releaseAll d : Outcome (Touchscreen σ) Errno Unit).result <;> simp [h, Except.map]

/-- The selector is asked if the frame is reported and all its slots are taken, and then about the frame. -/
theorem approach_eq_some_iff {contacts frame : List Contact} {d : Touchscreen σ} :
    (approach contacts d).result = .ok (some frame) ↔
      d.presents (d.slotted contacts) = true ∧ (Sink.takeAll d.sink (d.slotReport contacts)).result = .ok () ∧
        d.slotted contacts = frame := by
  rw [(approach_apply contacts d).1, fillSlots_eq_some_iff]
  rfl

/-! ## What it is asked -/

/-- Where an update asks the selector, its guards are of no use. -/
theorem unguarded_of_approach {contacts frame : List Contact} {d : Touchscreen σ}
    (asked : (approach contacts d).result = .ok (some frame)) :
    let s := (approach contacts d).state
    s.selector = d.selector ∧ s.enabled = true ∧ ∀ i, Occurs i frame → i ∉ s.tracker.gone := by
  intro s
  obtain ⟨hpresents, -, rfl⟩ := approach_eq_some_iff.1 asked
  have hcore := core_approach contacts d
  have hselector := congrArg selector hcore
  have henabled := congrArg enabled hcore
  refine ⟨hselector, henabled.trans (Bool.and_eq_true_iff.1 hpresents).1, fun i hi => ?_⟩
  rw [tracker_approach]
  exact d.tracker.not_mem_gone_advance hi

/-- Ways of asking that come to the same where the selector is asked come to the same update. -/
theorem conclude_congr {ask ask' : List Contact → Action (Touchscreen σ) Errno Pointer} {frame : List Contact}
    {s : Touchscreen σ} (h : ask frame s = ask' frame s) : conclude ask (some frame) s = conclude ask' (some frame) s :=
  Action.bind_congr_left h _

omit [Sink σ] in
theorem point_eq_pointFreely {frame : List Contact} {s : Touchscreen σ} (enabled : s.enabled = true)
    (absent : ∀ i, Occurs i frame → i ∉ s.tracker.gone) :
    (point frame s : Outcome (Touchscreen σ) ε Pointer) = pointFreely frame s := by
  simp only [point, pointFreely, Action.get_bind, Action.within_apply, Selector.choose, enabled,
    s.selector.select_of_absent absent]

omit [Sink σ] in
theorem pointFreely_apply (frame : List Contact) (s : Touchscreen σ) :
    let choice := s.selector.select frame ∅ true
    (pointFreely frame s : Outcome (Touchscreen σ) ε Pointer).result = .ok choice.1 ∧
      (pointFreely frame s : Outcome (Touchscreen σ) ε Pointer).state = { s with selector := choice.2 } :=
  ⟨rfl, rfl⟩

/--
A device whose selector is asked about a frame, after an update that found the selector at `before`: none of the guards of the
selector holds it back, and its choice is what the frame and `before` alone decide.
-/
structure AsksFreely (s : Touchscreen σ) (before : Selector) (frame : List Contact) : Prop where
  absent : ∀ i, Occurs i frame → i ∉ s.tracker.gone
  enabled : s.enabled = true
  selector : s.selector = before
  choice : s.selector.select frame s.tracker.gone s.enabled = before.select frame ∅ true
  result : (point frame s : Outcome (Touchscreen σ) Errno Pointer).result = .ok (before.select frame ∅ true).1
  next : (point frame s : Outcome (Touchscreen σ) Errno Pointer).state.selector = (before.select frame ∅ true).2

theorem asksFreely_of_approach {contacts frame : List Contact} {d : Touchscreen σ}
    (asked : (approach contacts d).result = .ok (some frame)) : (approach contacts d).state.AsksFreely d.selector frame := by
  obtain ⟨hselector, henabled, habsent⟩ := unguarded_of_approach asked
  obtain ⟨hresult, hstate⟩ := pointFreely_apply (ε := Errno) frame (approach contacts d).state
  rw [← point_eq_pointFreely henabled habsent, hselector] at hresult hstate
  refine ⟨habsent, henabled, hselector, ?_, hresult, congrArg Touchscreen.selector hstate⟩
  rw [henabled, Selector.select_of_absent _ habsent, hselector]

/--
Whatever state a device is in and whatever its sink refuses, an update goes up to where it asks the selector, asks it about the
frame, and goes on. Where it asks, the device is enabled and no index of the frame is gone, so that the answer and the selector
afterwards depend on the frame and the selector before alone. A selector without guards would make it do the same.
-/
theorem selector_guards_redundant (d : Touchscreen σ) (contacts : List Contact) :
    update contacts d = (approach contacts >>= conclude point) d ∧
      (∀ frame, (approach contacts d).result = .ok (some frame) →
        (approach contacts d).state.AsksFreely d.selector frame) ∧
      update contacts d = (approach contacts >>= conclude pointFreely) d := by
  refine ⟨update_eq_approach contacts d, fun _ => asksFreely_of_approach, ?_⟩
  rw [update_eq_approach]
  refine Action.bind_congr_right fun asked hasked => ?_
  cases asked with
  | none => rfl
  | some frame =>
    obtain ⟨-, henabled, habsent⟩ := unguarded_of_approach hasked
    exact conclude_congr (point_eq_pointFreely henabled habsent)

/--
After a refusal, a palm and a disable the selector is asked about a frame without its contact, which has just been lifted. It
goes over to the first contact.
-/
theorem selector_asked_after_refusal_and_palm :
    let touch (i : Nat) : Contact := { index := some i }
    let palm : Contact := { index := some 2, valid := some false }
    let rs : List Request := [.update [touch 5], .update [touch 5, touch 2], .update [palm, touch 5], .disable, .enable,
      .update [touch 2, touch 9]]
    let d := (start ({ taken := 20, refused := 1 } : ScriptedSink) { disableOnPalm := true } Profile.standard).afterAll rs
    let s := (approach [touch 9, touch 5] d).state
    (approach [touch 9, touch 5] d).result = .ok (some [touch 9, touch 5]) ∧ d.selector.index = 2 ∧ 2 ∈ s.tracker.gone ∧
      s.AsksFreely d.selector [touch 9, touch 5] ∧
      (point [touch 9, touch 5] s : Outcome (Touchscreen ScriptedSink) Errno Pointer).result = .ok .up ∧
      (point [touch 9, touch 5] s : Outcome (Touchscreen ScriptedSink) Errno Pointer).state.selector.index = 9 := by
  intro touch palm rs d s
  have hpresents : d.presents (d.slotted [touch 9, touch 5]) = true := by decide +kernel
  have htaken : (Sink.takeAll d.sink (d.slotReport [touch 9, touch 5])).result = .ok () :=
    Action.ok_of_isOk (by decide +kernel)
  have hslotted : d.slotted [touch 9, touch 5] = [touch 9, touch 5] := slotted_afterAll _ rs _
  have hasked : (approach [touch 9, touch 5] d).result = .ok (some [touch 9, touch 5]) :=
    approach_eq_some_iff.2 ⟨hpresents, htaken, hslotted⟩
  have hselector : d.selector = ⟨2⟩ := by decide +kernel
  have hasks := (selector_guards_redundant d [touch 9, touch 5]).2.1 _ hasked
  have hgone : 2 ∈ s.tracker.gone := by
    rw [tracker_approach]
    decide +kernel
  refine ⟨hasked, congrArg Selector.index hselector, hgone, hasks, ?_, ?_⟩
  · rw [hasks.result, hselector]
    rfl
  · rw [hasks.next, hselector]
    rfl

end Touchscreen
end Digitizer
