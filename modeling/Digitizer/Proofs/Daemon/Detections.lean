import Digitizer.Proofs.Daemon.Milestones
import Digitizer.Proofs.Touch.Shown
import Digitizer.Scripted.Detector
import Digitizer.Scripted.Ring

/-!
# The daemon runs the screen over the detections

The daemon reuses one frame buffer and one list of contacts for all frames, and goes on after every kind of failure. What the
detector is given nevertheless depends on nothing but the read before it (`Fed`), and the screen is where a screen of its own
would be after an update with every list that was found (`Mirrors`). Contacts of a detection that failed go nowhere.
-/
namespace Digitizer

/-- Reads deliver no more than there is room for. -/
def Ring.WithinRoom (ρ : Type) [Ring ρ] : Prop :=
  ∀ (ring : ρ) slot room bytes, (Ring.read ring slot room).1 = .ok bytes → bytes.length ≤ room

/-- A scripted controller cuts its frames. -/
theorem ScriptedRing.withinRoom : Ring.WithinRoom ScriptedRing := by
  intro ring slot room bytes h
  have hread : (unlessRefused ring.readRefusals.next.1 { ring with readRefusals := ring.readRefusals.next.2 }
      ((ring.frames.headD []).take room,
        { ring with readRefusals := ring.readRefusals.next.2, frames := ring.frames.tail })).1 = .ok bytes := h
  rw [unlessRefused] at hread
  split at hread
  · rw [← Except.ok.inj hread]
    exact List.length_take_le room _
  · exact absurd hread (by simp)

/-- What the daemon takes in for a frame: the answer to a read, and what the detector is given and makes of it. -/
inductive Intake where
  | read (answer : Except Errno Bytes)
  | detection (frame : Bytes) (before : List Contact) (outcome : Except String (List Contact))

/-- The intake that an entry is, if any. -/
def Entry.intake? : Entry → Option Intake
  | .call _ (.read _ answer) => some (.read answer)
  | .detection frame before outcome => some (.detection frame before outcome)
  | _ => none

/-- The intakes of a journal in order. -/
def Journal.intakes (j : Journal) : List Intake := j.filterMap Entry.intake?

/-- The update that an intake asks for: that of a detection that succeeded. -/
def Intake.update? : Intake → Option Touchscreen.Request
  | .detection _ _ (.ok contacts) => some (.update contacts)
  | _ => none

/-- The updates for the detections that succeeded. -/
def Journal.updates (j : Journal) : List Touchscreen.Request := j.intakes.filterMap Intake.update?

/-- Every detection comes right after a read, and is given the bytes that the read delivered and no contacts. -/
inductive Fed : List Intake → Prop
  | nil : Fed []
  | unread (cause : Errno) {rest : List Intake} (h : Fed rest) : Fed (.read (.error cause) :: rest)
  | detected (bytes : Bytes) (outcome : Except String (List Contact)) {rest : List Intake} (h : Fed rest) :
    Fed (.read (.ok bytes) :: .detection bytes [] outcome :: rest)

theorem Fed.append {is js : List Intake} (hi : Fed is) (hj : Fed js) : Fed (is ++ js) := by
  induction hi with
  | nil => exact hj
  | unread cause _ ih => exact .unread cause ih
  | detected bytes outcome _ ih => exact .detected bytes outcome ih

/-- A log record or a call that is no read. -/
def Entry.isAside : Entry → Bool
  | .notice _ => true
  | .call _ (.read ..) => false
  | .call .. => true
  | _ => false

theorem Entry.isAside_of_isWait : ∀ e : Entry, e.isWait = true → e.isAside = true
  | .notice _, _ | .call _ (.ready _), _ => rfl

theorem Entry.isAside_of_isUpkeep : ∀ e : Entry, e.isUpkeep = true → e.isAside = true
  | .notice _, _ | .call _ (.ready _), _ | .call _ (.reset _), _ => rfl

namespace Journal

@[simp] theorem intakes_append (j k : Journal) : Journal.intakes (j ++ k) = j.intakes ++ k.intakes := List.filterMap_append

@[simp] theorem updates_append (j k : Journal) : Journal.updates (j ++ k) = j.updates ++ k.updates := by
  rw [updates, intakes_append, List.filterMap_append]
  rfl

/-- Waiting takes nothing in. -/
theorem intakes_deeds (j : Journal) : j.deeds.intakes = j.intakes :=
  filterMap_deeds (fun _ => rfl) (fun _ _ => rfl) j

/-- Waiting emits nothing. -/
theorem events_deeds (j : Journal) : j.deeds.events = j.events :=
  filterMap_deeds (fun _ => rfl) (fun _ _ => rfl) j

theorem intakes_of_output {j : Journal} (h : ∀ e ∈ j, e.isOutput = true) : j.intakes = [] := by
  refine List.filterMap_eq_nil_iff.2 fun e he => ?_
  have houtput := h e he
  cases e with
  | notice | emitted | refused => rfl
  | call | detection => exact absurd houtput Bool.false_ne_true

/-- What is aside takes nothing in and emits nothing. -/
theorem of_aside {j : Journal} (h : ∀ e ∈ j, e.isAside = true) : j.intakes = [] ∧ j.events = [] := by
  have hentry : ∀ e ∈ j, e.intake? = none ∧ e.event? = none := by
    intro e he
    have haside := h e he
    cases e with
    | notice => exact ⟨rfl, rfl⟩
    | call slot c =>
      cases c with
      | read => exact absurd haside Bool.false_ne_true
      | ready | info | doorbell | feedback | reset => exact ⟨rfl, rfl⟩
    | detection | emitted | refused => exact absurd haside Bool.false_ne_true
  exact ⟨List.filterMap_eq_nil_iff.2 fun e he => (hentry e he).1, List.filterMap_eq_nil_iff.2 fun e he => (hentry e he).2⟩

end Journal

namespace Transport
variable {n : Nat} {ρ : Type}

/-- A doorbell call reads nothing. -/
theorem Polled.aside {t : Transport n ρ} {result : Except TransportError UInt32} {next : UInt32} {deeds : Journal}
    (h : Polled t result next deeds) : ∀ e ∈ deeds, e.isAside = true := by
  have hback : ∀ slots : List Nat, ∀ e ∈ slots.map Entry.takenBack, e.isAside = true := by
    intro slots e he
    obtain ⟨slot, -, rfl⟩ := List.mem_map.1 he
    rfl
  intro e he
  cases h with
  | refused | ahead =>
    rw [List.mem_singleton.1 he]
    rfl
  | behind =>
    rcases List.mem_cons.1 he with rfl | he
    · rfl
    · exact hback _ e he
  | interrupted =>
    rcases List.mem_cons.1 he with rfl | he
    · rfl
    · rcases List.mem_append.1 he with he | he
      · exact hback _ e he
      · rw [List.mem_singleton.1 he]
        rfl

/-- A read that succeeds delivers no more than there is room for. -/
theorem length_read_le [Ring ρ] (within : Ring.WithinRoom ρ) {room : Nat} {t : Transport n ρ} {bytes : Bytes}
    (h : (read room t).result = .ok bytes) : bytes.length ≤ room := by
  obtain ⟨a, ha⟩ := (waits_awaitReady (ε := TransportError)).total t
  rw [read, Action.bind_of_result_ok ha, Action.get_bind] at h
  generalize (awaitReady t : Outcome _ TransportError _).state = u at h
  have hanswer : (Ring.read u.ring u.slot room).1.mapError (⟨.read, ·⟩ : Errno → TransportError) = .ok bytes := h
  cases hread : (Ring.read u.ring u.slot room).1 with
  | ok frame =>
    rw [hread] at hanswer
    rw [← Except.ok.inj hanswer]
    exact within u.ring u.slot room frame hread
  | error cause =>
    rw [hread] at hanswer
    exact nomatch hanswer

end Transport

namespace Daemon
variable {n : Nat} {ρ σ δ ε α β : Type}

/-! ## Beside the way of a frame -/

/-- An action that touches neither the screen nor the frame buffer, and takes nothing in and emits nothing. -/
structure Aside (p : Action (Daemon n ρ σ δ) ε α) : Prop where
  keeps : Action.Keeps (fun d => (d.screen, d.frame)) p
  logs : Action.Logs (fun e => e.isAside = true) p

theorem Upkeep.aside {p : Action (Daemon n ρ σ δ) ε α} (h : Upkeep p) : Aside p :=
  ⟨fun d => congrArg Prod.snd (h.keeps d), fun d e he => e.isAside_of_isUpkeep (h.logs d e he)⟩

theorem Aside.intakes {p : Action (Daemon n ρ σ δ) ε α} (h : Aside p) (d : Daemon n ρ σ δ) :
    (p d).journal.intakes = [] := (Journal.of_aside (h.logs d)).1

theorem aside_onTransport {p : Action (Transport n ρ) ε α} (h : ∀ t, ∀ e ∈ (p t).journal.deeds, e.isAside = true) :
    Aside (onTransport p : Action (Daemon n ρ σ δ) ε α) :=
  ⟨fun _ => rfl, fun d => Journal.forall_of_deeds Entry.isAside_of_isWait (h d.transport)⟩

section
variable [Ring ρ]

theorem aside_pollDoorbell : Aside (onTransport Transport.pollDoorbell : Action (Daemon n ρ σ δ) TransportError UInt32) :=
  aside_onTransport fun t => (Transport.polled t).aside

theorem aside_acknowledge : Aside (onTransport Transport.acknowledge : Action (Daemon n ρ σ δ) TransportError Unit) := by
  refine aside_onTransport fun t e he => ?_
  rcases Transport.acknowledge_spec t with ⟨-, -, hdeeds⟩ | ⟨cause, -, -, hdeeds⟩
  · rw [hdeeds, List.mem_singleton] at he
    rw [he]
    rfl
  · rw [hdeeds, List.mem_singleton] at he
    rw [he]
    rfl

end

/-! ## How the screen follows -/

section
variable [Sink σ]

/-- A screen goes over into the one after the updates that a journal asks for, and the journal has their events. -/
structure Carried (before after : Touchscreen σ) (j : Journal) : Prop where
  screen : after = before.afterAll j.updates
  events : j.events = before.transcript j.updates

theorem Carried.append {s t u : Touchscreen σ} {j k : Journal} (hj : Carried s t j) (hk : Carried t u k) :
    Carried s u (j ++ k) where
  screen := by rw [hk.screen, hj.screen, Journal.updates_append, Touchscreen.afterAll_append]
  events := by
    rw [Journal.events_append, hj.events, hk.events, hj.screen, Journal.updates_append, Touchscreen.transcript_append]

theorem carried_of_nil (s : Touchscreen σ) {j : Journal} (updates : j.updates = []) (events : j.events = []) :
    Carried s s j where
  screen := by rw [updates, Touchscreen.afterAll_nil]
  events := by rw [updates, events, Touchscreen.transcript_nil]

/-- After a detection that succeeded, the update with its list carries the screen over. -/
theorem carried_update (frame : Bytes) (contacts : List Contact) (s : Touchscreen σ) :
    let j := [Entry.detection frame [] (.ok contacts)] ++ (Touchscreen.serve (.update contacts) s).journal
    Journal.intakes j = [.detection frame [] (.ok contacts)] ∧ Carried s (s.after (.update contacts)) j := by
  intro j
  have hintakes : Journal.intakes j = [.detection frame [] (.ok contacts)] := by
    have hupdate : (Touchscreen.serve (.update contacts) s).journal.intakes = [] :=
      Journal.intakes_of_output (Touchscreen.logs_update contacts s)
    rw [Journal.intakes_append, hupdate, List.append_nil]
    rfl
  have hupdates : Journal.updates j = [.update contacts] := by
    rw [Journal.updates, hintakes]
    rfl
  refine ⟨hintakes, ?_, ?_⟩
  · rw [hupdates, Touchscreen.afterAll_cons, Touchscreen.afterAll_nil]
  · rw [hupdates, Touchscreen.transcript_cons, Touchscreen.transcript_nil, List.append_nil]
    rfl

theorem Aside.carried {p : Action (Daemon n ρ σ δ) ε α} (h : Aside p) (d : Daemon n ρ σ δ) :
    Carried d.screen (p d).state.screen (p d).journal := by
  have hscreen : (p d).state.screen = d.screen := congrArg Prod.fst (h.keeps d)
  obtain ⟨hintakes, hevents⟩ := Journal.of_aside (h.logs d)
  rw [hscreen]
  exact carried_of_nil d.screen (by rw [Journal.updates, hintakes, List.filterMap_nil]) hevents

/-- An action that feeds the detector what it reads, and leaves the screen where the updates alone would have brought it. -/
def Mirrors (p : Action (Daemon n ρ σ δ) ε α) : Prop :=
  ∀ d, Fed (p d).journal.intakes ∧ Carried d.screen (p d).state.screen (p d).journal

theorem Aside.mirrors {p : Action (Daemon n ρ σ δ) ε α} (h : Aside p) : Mirrors p := by
  intro d
  refine ⟨?_, h.carried d⟩
  rw [h.intakes d]
  exact .nil

theorem Mirrors.attempt {p : Action (Daemon n ρ σ δ) ε α} (h : Mirrors p) {η : Type} :
    Mirrors (Action.attempt p : Action (Daemon n ρ σ δ) η (Except ε α)) := h

theorem Mirrors.bind {p : Action (Daemon n ρ σ δ) ε α} {f : α → Action (Daemon n ρ σ δ) ε β} (hp : Mirrors p)
    (hf : ∀ a, Mirrors (f a)) : Mirrors (p >>= f) := by
  intro d
  obtain ⟨hfed, hcarried⟩ := hp d
  cases h : (p d).result with
  | ok a =>
    obtain ⟨hfed', hcarried'⟩ := hf a (p d).state
    rw [Action.bind_of_result_ok h, Journal.intakes_append]
    exact ⟨hfed.append hfed', hcarried.append hcarried'⟩
  | error e =>
    rw [Action.bind_of_result_error h]
    exact ⟨hfed, hcarried⟩

/-! ## One frame -/

/-- The detector gets the beginning of the frame buffer and no contacts. If it succeeds, the screen is updated with its list. -/
theorem report_spec [Detector δ] (bytes : Nat) (d : Daemon n ρ σ δ) :
    let o := (report bytes d : Outcome (Daemon n ρ σ δ) ε (Option FrameFault))
    (∃ outcome, o.journal.intakes = [.detection (d.frame.view bytes) [] outcome]) ∧
      Carried d.screen o.state.screen o.journal := by
  intro o
  obtain ⟨outcome, next, hdetect, hscreen⟩ : ∃ outcome next,
      (detect bytes { d with contacts := [] } : Outcome (Daemon n ρ σ δ) ε (Except String (List Contact))) =
        ⟨.ok outcome, next, [.detection (d.frame.view bytes) [] outcome]⟩ ∧ next.screen = d.screen := ⟨_, _, rfl, rfl⟩
  have ho : o = report bytes d := rfl
  rw [ho, report, clearContacts, Action.modify_bind, Action.bind_of_ok hdetect]
  cases outcome with
  | error reason => exact ⟨⟨.error reason, rfl⟩, hscreen, rfl⟩
  | ok contacts =>
    have hupdate : (Action.attempt (onScreen (Touchscreen.update contacts)) next :
        Outcome (Daemon n ρ σ δ) ε (Except Errno Unit)) = ⟨.ok (Touchscreen.serve (.update contacts) next.screen).result,
          { next with screen := next.screen.after (.update contacts) },
          (Touchscreen.serve (.update contacts) next.screen).journal⟩ := rfl
    obtain ⟨hintakes, hcarried⟩ := carried_update (d.frame.view bytes) contacts d.screen
    simp only [Action.bind_of_ok hupdate, hscreen]
    -- Whether the sink has refused an event shows in the result only.
    cases (Touchscreen.serve (.update contacts) d.screen).result <;>
    · simp only [Action.pure_apply, List.append_nil]
      exact ⟨⟨.ok contacts, hintakes⟩, hcarried⟩

variable [Ring ρ] [Detector δ]

/-- So it is for a frame that is handled, since all else is upkeep. -/
theorem handle_spec (bytes : Nat) (d : Daemon n ρ σ δ) :
    let o := (handle bytes d : Outcome (Daemon n ρ σ δ) ε Unit)
    (∃ outcome, o.journal.intakes = [.detection (d.frame.view bytes) [] outcome]) ∧
      Carried d.screen o.state.screen o.journal := by
  intro o
  have ho : o = handle bytes d := rfl
  have hcount : Upkeep (countFrame bytes : Action (Daemon n ρ σ δ) ε Unit) := upkeep_countFrame bytes
  obtain ⟨a, ha⟩ := hcount.total d
  have hframe : (countFrame bytes d : Outcome _ ε Unit).state.frame = d.frame := congrArg Prod.snd (hcount.aside.keeps d)
  obtain ⟨fault, hfault⟩ := (passes_report bytes).total (countFrame bytes d : Outcome _ ε Unit).state
  obtain ⟨⟨outcome, hintakes⟩, hcarried⟩ := report_spec (ε := ε) bytes (countFrame bytes d : Outcome _ ε Unit).state
  have hsettle := (upkeep_settle (n := n) (ρ := ρ) (σ := σ) (δ := δ) (ε := ε) fault).aside
  rw [ho, handle, Action.bind_of_result_ok ha, Action.bind_of_result_ok hfault]
  constructor
  · refine ⟨outcome, ?_⟩
    rw [Journal.intakes_append, Journal.intakes_append, hcount.aside.intakes, hintakes, hframe, List.nil_append]
    exact congrArg (_ :: ·) (hsettle.intakes _)
  · exact (hcount.aside.carried d).append (hcarried.append (hsettle.carried _))

/-- The frame buffer begins with the bytes of the read just before, whatever it held, so the detector gets these. -/
theorem mirrors_consume (within : Ring.WithinRoom ρ) :
    Mirrors (consume : Action (Daemon n ρ σ δ) TransportError Unit) := by
  intro d
  obtain ⟨answer, h, hread⟩ := readFrame_cases d
  have hintakes : (Transport.read d.frame.room d.transport).journal.intakes = [.read answer] := by
    rw [← Journal.intakes_deeds, h.deeds]
    rfl
  have hevents : (Transport.read d.frame.room d.transport).journal.events = [] := by
    rw [← Journal.events_deeds, h.deeds]
    rfl
  have hcarried := carried_of_nil d.screen (by rw [Journal.updates, hintakes]; rfl) hevents
  rcases hread with ⟨bytes, rfl, hread⟩ | ⟨cause, rfl, hread⟩
  · have hview : (d.frame.fill bytes).view bytes.length = bytes :=
      FrameBuffer.view_fill (Transport.length_read_le within h.result)
    obtain ⟨next, hread, hscreen, hframe⟩ : ∃ next, readFrame d = ⟨.ok bytes.length, next, _⟩ ∧
        next.screen = d.screen ∧ next.frame = d.frame.fill bytes := ⟨_, hread, rfl, rfl⟩
    obtain ⟨a, ha⟩ := (passes_handle (ε := TransportError) bytes.length).total next
    obtain ⟨⟨outcome, hdetected⟩, hhandled⟩ := handle_spec (ε := TransportError) bytes.length next
    rw [hscreen] at hhandled
    rw [hframe, hview] at hdetected
    rw [consume, Action.bind_of_ok hread, Action.bind_of_result_ok ha]
    constructor
    · rw [Journal.intakes_append, Journal.intakes_append, hintakes, hdetected, aside_acknowledge.intakes]
      exact .detected bytes outcome .nil
    · exact hcarried.append (hhandled.append (aside_acknowledge.carried _))
  · rw [consume, Action.bind_of_error hread, hintakes]
    exact ⟨.unread cause .nil, hcarried⟩

/-! ## Any number of steps -/

theorem mirrors_consumeAll (within : Ring.WithinRoom ρ) (count : Nat) :
    Mirrors (consumeAll count : Action (Daemon n ρ σ δ) TransportError Unit) := by
  induction count with
  | zero => exact (upkeep_pure ()).aside.mirrors
  | succ count ih => exact (mirrors_consume within).bind fun _ => ih

theorem mirrors_step (within : Ring.WithinRoom ρ) :
    Mirrors (step : Action (Daemon n ρ σ δ) TransportError Bool) :=
  aside_pollDoorbell.mirrors.bind fun _ => upkeep_get.aside.mirrors.bind fun _ =>
    (mirrors_consumeAll within _).bind fun _ => (upkeep_pure _).aside.mirrors

/-- Step so many times, each time whether or not the steps before have failed. Gives the results. -/
def steps : Nat → Action (Daemon n ρ σ δ) ε (List (Except TransportError Bool))
  | 0 => pure []
  | count + 1 => do
    let result ← Action.attempt step
    let results ← steps count
    pure (result :: results)

theorem mirrors_steps (within : Ring.WithinRoom ρ) (count : Nat) :
    Mirrors (steps count : Action (Daemon n ρ σ δ) ε (List (Except TransportError Bool))) := by
  induction count with
  | zero => exact (upkeep_pure []).aside.mirrors
  | succ count ih =>
    exact (mirrors_step within).attempt.bind fun _ => ih.bind fun _ => (upkeep_pure _).aside.mirrors

/--
Over any number of steps, whatever the ring, the detector and the sink refuse, and as long as reads keep to the room they are
given: every detection gets exactly the bytes of the read before it and no contacts, and the screen ends as it would after an
update with the list of every detection that succeeded, and nothing else, having emitted the same events.
-/
theorem screen_follows_detections (within : Ring.WithinRoom ρ) (count : Nat) (d : Daemon n ρ σ δ) :
    let o := (steps count d : Outcome (Daemon n ρ σ δ) ε (List (Except TransportError Bool)))
    Fed o.journal.intakes ∧ o.state.screen = d.screen.afterAll o.journal.updates ∧
      o.journal.events = d.screen.transcript o.journal.updates := by
  intro o
  obtain ⟨hfed, hscreen, hevents⟩ := mirrors_steps (ε := ε) within count d
  exact ⟨hfed, hscreen, hevents⟩

end

/-- A short frame after a long one, a detection that fails with a contact in its list, a read and an event that are refused. -/
theorem screen_follows_two_detections_of_three :
    let touch (i : Nat) : Contact := { index := some i }
    let ring : ScriptedRing :=
      { doorbellQueue := [2, 3], frames := [[1, 2, 3, 4], [5], [6, 7]], readRefusals := { queue := [0, 5], final := 0 } }
    let detector : ScriptedDetector :=
      { script := [{ contacts := [touch 1] }, { contacts := [touch 2], failure := some "noise" }, { contacts := [touch 3] }] }
    let d := ofParts (n := 2) { ring, info := { bufferSize := 4 } }
      { sink := ({ taken := 12, refused := 1 } : ScriptedSink) } detector
    let o : Outcome _ TransportError _ := steps 2 d
    Ring.WithinRoom ScriptedRing ∧
      (o.journal.intakes.filterMap fun | .detection frame _ _ => some frame | _ => none) = [[1, 2, 3, 4], [5], [6, 7]] ∧
      o.journal.updates.length = 2 ∧ o.journal.events.length = 12 ∧
      Fed o.journal.intakes ∧ o.state.screen = d.screen.afterAll o.journal.updates ∧
      o.journal.events = d.screen.transcript o.journal.updates := by
  intro touch ring detector d o
  have hfollows := screen_follows_detections (ε := TransportError) ScriptedRing.withinRoom 2 d
  refine ⟨ScriptedRing.withinRoom, ?_, ?_, ?_, hfollows⟩ <;> decide +kernel

end Daemon
end Digitizer
