import Digitizer.Proofs.Daemon.Detections
import Digitizer.Proofs.Daemon.FrameOrder
import Mathlib.Data.List.Basic

/-!
# When the controller is reset

The journal of a run falls into stretches: doorbell calls with the buffers that they give back, reads that are refused, and
frames that are read and handled. A frame fails if it cannot be detected or if the sink refuses one of its events. The
daemon's counter is the length of the block of failed frames so far, modulo the limit, whatever else happens between the frames
(`Accounts`). So the controller is reset exactly after the frames that make the length of that block a multiple of the limit.
-/
namespace Digitizer

/-- What is seen of the doorbell, of frames and of what goes wrong with them. -/
inductive Station where
  | doorbell (answer : Except Errno UInt32)
  | read (slot : Nat) (answer : Except Errno Unit)
  | detected
  | undetected (reason : String)
  | refused (cause : Errno)
  | reset (slot : Nat) (answer : Except Errno Unit)
  | feedback (slot : Nat) (answer : Except Errno Unit)

/-- The station that an entry is, if any. -/
def Entry.station? : Entry → Option Station
  | .call _ (.doorbell answer) => some (.doorbell answer)
  | .call slot (.read _ answer) => some (.read slot (answer.map fun _ => ()))
  | .call slot (.reset answer) => some (.reset slot answer)
  | .call slot (.feedback answer) => some (.feedback slot answer)
  | .detection _ _ (.ok _) => some .detected
  | .detection _ _ (.error reason) => some (.undetected reason)
  | .refused _ cause => some (.refused cause)
  | _ => none

/-- The stations of a journal in order. -/
def Journal.stations (j : Journal) : List Station := j.filterMap Entry.station?

/-- The stations of a frame from its detection on, by what goes wrong with it. -/
def FrameFault.stations : Option FrameFault → List Station
  | none => [.detected]
  | some (.detection reason) => [.undetected reason]
  | some (.output cause) => [.detected, .refused cause]

/-- A frame that was read from a slot: what went wrong with it, the reset after it, if any, and what became of its buffer. -/
structure Handling where
  slot : Nat
  fault : Option FrameFault
  reset : Option (Except Errno Unit)
  feedback : Except Errno Unit

namespace Handling

/-- Whether the frame could not be detected or not be reported. -/
def failed (h : Handling) : Bool := h.fault.isSome

/-- The reset, which is tried once, comes right after the failure, and the buffer is given back whatever becomes of it. -/
def stations (h : Handling) : List Station :=
  .read h.slot (.ok ()) ::
    (FrameFault.stations h.fault ++ (h.reset.toList.map (.reset h.slot) ++ [.feedback h.slot h.feedback]))

/-- How many frames in a row have failed at the end. -/
def failuresAtEnd (hs : List Handling) : Nat := (hs.reverse.takeWhile failed).length

/-- The controller is reset after a frame exactly if it ends a block of failures whose length is a multiple of fifty. -/
def ResetEveryFifty (hs : List Handling) : Prop :=
  ∀ before h after, hs = before ++ h :: after →
    (h.reset.isSome = true ↔ 0 < failuresAtEnd (before ++ [h]) ∧ 50 ∣ failuresAtEnd (before ++ [h]))

theorem failuresAtEnd_snoc (hs : List Handling) (h : Handling) :
    failuresAtEnd (hs ++ [h]) = if h.failed then failuresAtEnd hs + 1 else 0 := by
  rw [failuresAtEnd, List.reverse_append, List.reverse_singleton, List.singleton_append, List.takeWhile_cons]
  split <;> simp [failuresAtEnd]

theorem ResetEveryFifty.snoc {hs : List Handling} (regular : ResetEveryFifty hs) {h : Handling}
    (last : h.reset.isSome = true ↔ 0 < failuresAtEnd (hs ++ [h]) ∧ 50 ∣ failuresAtEnd (hs ++ [h])) :
    ResetEveryFifty (hs ++ [h]) := by
  intro before g after hsplit
  rcases List.eq_nil_or_concat after with rfl | ⟨after, g', rfl⟩
  · obtain ⟨rfl, hg⟩ := List.append_inj' hsplit rfl
    rw [← List.singleton_inj.1 hg]
    exact last
  · rw [List.concat_eq_append, ← List.cons_append, ← List.append_assoc] at hsplit
    obtain ⟨hs', -⟩ := List.append_inj' hsplit rfl
    exact regular before g after hs'

end Handling

/-- A part of a journal: a doorbell call and what it gives back, a read that is refused, or a frame. -/
inductive Stretch where
  | poll (answer : Except Errno UInt32) (returned : List (Nat × Except Errno Unit))
  | unread (slot : Nat) (cause : Errno)
  | frame (h : Handling)

namespace Stretch

/-- The stations of a stretch. Only frames have resets. -/
def stations : Stretch → List Station
  | poll answer returned => .doorbell answer :: returned.map fun buffer => .feedback buffer.1 buffer.2
  | unread slot cause => [.read slot (.error cause)]
  | frame h => h.stations

/-- The frame that a stretch is, if it is one. -/
def handling? : Stretch → Option Handling
  | frame h => some h
  | _ => none

end Stretch

namespace Journal

theorem stations_append (j k : Journal) : Journal.stations (j ++ k) = j.stations ++ k.stations := List.filterMap_append

theorem stations_deeds (j : Journal) : j.deeds.stations = j.stations := filterMap_deeds (fun _ => rfl) (fun _ _ => rfl) j

theorem stations_of_deeds {j k : Journal} (h : j.deeds = k) : j.stations = k.stations := by
  rw [← stations_deeds, h]

/-- Of the output only refusals are seen. -/
theorem stations_of_output {j : Journal} (h : ∀ e ∈ j, e.isOutput = true) : j.stations = j.refusals.map .refused := by
  rw [stations, refusals, List.map_filterMap]
  refine List.filterMap_congr fun e he => ?_
  have houtput := h e he
  cases e with
  | notice | emitted | refused => rfl
  | call | detection => exact absurd houtput Bool.false_ne_true

theorem stations_takenBack (slots : List Nat) :
    Journal.stations (slots.map Entry.takenBack) = slots.map fun slot => .feedback slot (.ok ()) := by
  induction slots with
  | nil => rfl
  | cons slot slots ih => exact congrArg (Station.feedback slot (.ok ()) :: ·) ih

end Journal

/-- A doorbell call is one stretch, however it ends. -/
theorem Transport.Polled.stretch {n : Nat} {ρ : Type} {t : Transport n ρ} {result : Except TransportError UInt32}
    {next : UInt32} {deeds : Journal} (h : Polled t result next deeds) :
    ∃ answer returned, deeds.stations = (Stretch.poll answer returned).stations := by
  cases h with
  | refused cause => exact ⟨.error cause, [], rfl⟩
  | @ahead found => exact ⟨.ok found, [], rfl⟩
  | behind =>
    refine ⟨.ok next, (List.range n).map fun slot => (slot, .ok ()), ?_⟩
    refine congrArg (Station.doorbell (.ok next) :: ·) ?_
    rw [List.map_map]
    exact Journal.stations_takenBack (List.range n)
  | @interrupted found _ k _ cause =>
    refine ⟨.ok found, (List.range k).map (fun slot => (slot, .ok ())) ++ [(k, .error cause)], ?_⟩
    refine congrArg (Station.doorbell (.ok found) :: ·) ?_
    rw [List.map_append, List.map_map]
    exact (Journal.stations_append _ _).trans (congrArg (· ++ _) (Journal.stations_takenBack (List.range k)))

namespace Daemon
variable {n : Nat} {ρ σ δ ε α β : Type}

/-! ## One frame -/

section
variable [Detector δ] [Sink σ]

/-- The fault that a report gives is what is seen of the detection and of the events, and the failures are not counted yet. -/
theorem stations_report (bytes : Nat) (d : Daemon n ρ σ δ) :
    let o := (report bytes d : Outcome (Daemon n ρ σ δ) ε (Option FrameFault))
    ∃ fault, o.result = .ok fault ∧ o.journal.stations = FrameFault.stations fault ∧
      o.state.transport = d.transport ∧ o.state.failures = d.failures := by
  intro o
  obtain ⟨outcome, next, hdetect, htransport, hfailures⟩ : ∃ outcome next,
      (detect bytes { d with contacts := [] } : Outcome (Daemon n ρ σ δ) ε (Except String (List Contact))) =
        ⟨.ok outcome, next, [.detection (d.frame.view bytes) [] outcome]⟩ ∧
      next.transport = d.transport ∧ next.failures = d.failures := ⟨_, _, rfl, rfl, rfl⟩
  have ho : o = report bytes d := rfl
  rw [ho, report, clearContacts, Action.modify_bind, Action.bind_of_ok hdetect]
  cases outcome with
  | error reason => exact ⟨_, rfl, rfl, htransport, hfailures⟩
  | ok contacts =>
    have hoffered := Journal.stations_of_output (Touchscreen.logs_update contacts next.screen)
    rw [Touchscreen.failsByRefusal_update contacts next.screen] at hoffered
    have hupdate : (Action.attempt (onScreen (Touchscreen.update contacts)) next :
        Outcome (Daemon n ρ σ δ) ε (Except Errno Unit)) = ⟨.ok (Touchscreen.update contacts next.screen).result,
          { next with screen := (Touchscreen.update contacts next.screen).state },
          (Touchscreen.update contacts next.screen).journal⟩ := rfl
    simp only [Action.bind_of_ok hupdate]
    -- The update fails with the refusal that is seen.
    cases hresult : (Touchscreen.update contacts next.screen).result <;>
    · rw [hresult] at hoffered
      simp only [Action.pure_apply, List.append_nil]
      exact ⟨_, rfl, congrArg (Station.detected :: ·) hoffered, htransport, hfailures⟩

end

theorem countFrame_spec (bytes : Nat) (d : Daemon n ρ σ δ) :
    let o := (countFrame bytes d : Outcome (Daemon n ρ σ δ) ε Unit)
    o.result = .ok () ∧ o.journal.stations = [] ∧ o.state.transport = d.transport ∧ o.state.failures = d.failures := by
  intro o
  have ho : o = countFrame bytes d := rfl
  rw [ho, countFrame, Action.modify_bind, Action.get_bind]
  split
  · exact ⟨rfl, rfl, rfl, rfl⟩
  · split <;> exact ⟨rfl, rfl, rfl, rfl⟩

variable [Ring ρ]

/-- One reset is tried, and whether or not it fails, counting starts again. -/
theorem recover_spec (d : Daemon n ρ σ δ) :
    let o := (recover d : Outcome (Daemon n ρ σ δ) ε Unit)
    ∃ answer, o.journal.stations = [.reset d.transport.slot answer] ∧ o.state.failures = 0 := by
  intro o
  obtain ⟨answer, h⟩ := Transport.commands_reset d.transport
  have hreset : (Action.attempt (onTransport Transport.reset) { d with failures := 0 } :
      Outcome (Daemon n ρ σ δ) ε (Except TransportError Unit)) =
        ⟨.ok (answer.mapError (⟨.reset, ·⟩)), { d with failures := 0, transport := (Transport.reset d.transport).state },
          (Transport.reset d.transport).journal⟩ := by
    rw [← h.result]
    rfl
  have hstations : (Transport.reset d.transport).journal.stations = [.reset d.transport.slot answer] :=
    Journal.stations_of_deeds h.deeds
  have ho : o = recover d := rfl
  rw [ho, recover, Action.get_bind, Action.notify_bind, Action.modify_bind, Action.bind_of_ok hreset]
  refine ⟨answer, ?_, ?_⟩
  · cases answer with
    | ok a => exact (congrArg Journal.stations (List.append_nil _)).trans hstations
    | error cause => exact (Journal.stations_append _ _).trans ((List.append_nil _).trans hstations)
  · cases answer <;> rfl

/-- A failure is counted, and the one that reaches the limit brings a reset. -/
theorem countFailure_spec (fault : FrameFault) (d : Daemon n ρ σ δ) :
    let o := (countFailure fault d : Outcome (Daemon n ρ σ δ) ε Unit)
    let due := failureLimit ≤ d.failures + 1
    ∃ reset : Option (Except Errno Unit), o.journal.stations = reset.toList.map (.reset d.transport.slot) ∧
      (reset.isSome = true ↔ due) ∧ o.state.failures = if due then 0 else d.failures + 1 := by
  intro o due
  have ho : o = countFailure fault d := rfl
  rw [ho, countFailure, Action.modify_bind, Action.notify_bind, Action.get_bind]
  by_cases hdue : failureLimit ≤ d.failures + 1
  · obtain ⟨answer, hstations, hfailures⟩ := recover_spec (ε := ε) { d with failures := d.failures + 1 }
    refine ⟨some answer, ?_, ⟨fun _ => hdue, fun _ => rfl⟩, ?_⟩
    · rw [if_pos hdue]
      exact hstations
    · rw [if_pos hdue, if_pos hdue]
      exact hfailures
  · refine ⟨none, ?_, ⟨fun h => absurd h Bool.false_ne_true, fun h => absurd h hdue⟩, ?_⟩
    · rw [if_neg hdue]
      rfl
    · rw [if_neg hdue, if_neg hdue]
      rfl

variable [Detector δ] [Sink σ]

/-- A frame that fails moves the counter up or brings a reset, any other one sets it back. -/
theorem stations_handle (bytes : Nat) (d : Daemon n ρ σ δ) :
    let o := (handle bytes d : Outcome (Daemon n ρ σ δ) ε Unit)
    let due := failureLimit ≤ d.failures + 1
    ∃ (fault : Option FrameFault) (reset : Option (Except Errno Unit)),
      o.journal.stations = FrameFault.stations fault ++ reset.toList.map (.reset d.transport.slot) ∧
      (reset.isSome = true ↔ fault.isSome = true ∧ due) ∧
      o.state.failures = if fault.isSome = true ∧ ¬due then d.failures + 1 else 0 := by
  intro o due
  obtain ⟨hcount, hcounted, htransport, hfailures⟩ := countFrame_spec (ε := ε) bytes d
  obtain ⟨fault, hreport, hreported, htransport', hfailures'⟩ :=
    stations_report (ε := ε) bytes (countFrame bytes d : Outcome _ ε Unit).state
  rw [htransport] at htransport'
  rw [hfailures] at hfailures'
  have ho : o = handle bytes d := rfl
  rw [ho, handle, Action.bind_of_result_ok hcount, Action.bind_of_result_ok hreport]
  simp only [Journal.stations_append, hcounted, hreported, List.nil_append]
  generalize (report bytes (countFrame bytes d : Outcome _ ε Unit).state : Outcome _ ε _).state = e at htransport' hfailures'
  cases fault with
  | none => exact ⟨none, none, rfl, by simp, rfl⟩
  | some fault =>
    obtain ⟨reset, hstations, hdue, hnext⟩ := countFailure_spec (ε := ε) fault e
    rw [htransport'] at hstations
    rw [hfailures'] at hdue hnext
    refine ⟨some fault, reset, congrArg (FrameFault.stations (some fault) ++ ·) hstations, by simpa using hdue, ?_⟩
    refine hnext.trans ?_
    by_cases h : failureLimit ≤ d.failures + 1 <;> simp [due, h]

/-! ## The account of the failures -/

/-- After some frames the counter is the length of the block of failures at their end, modulo the limit. -/
structure Accounts (d : Daemon n ρ σ δ) (hs : List Handling) : Prop where
  regular : Handling.ResetEveryFifty hs
  failures : d.failures = Handling.failuresAtEnd hs % failureLimit

omit [Ring ρ] [Detector δ] [Sink σ] in
/-- A frame whose reset and whose count follow the counter goes into the account. -/
theorem Accounts.snoc {d e : Daemon n ρ σ δ} {hs : List Handling} (account : Accounts d hs) {h : Handling}
    (reset : h.reset.isSome = true ↔ h.failed = true ∧ failureLimit ≤ d.failures + 1)
    (next : e.failures = if h.failed = true ∧ ¬failureLimit ≤ d.failures + 1 then d.failures + 1 else 0) :
    Accounts e (hs ++ [h]) := by
  have hcount := account.failures
  have hend := Handling.failuresAtEnd_snoc hs h
  simp only [failureLimit] at hcount reset next
  refine ⟨account.regular.snoc ?_, ?_⟩
  · rw [reset, hend]
    cases h.failed with
    | false => simp
    | true =>
      simp only [true_and, if_true]
      omega
  · change e.failures = _ % 50
    rw [next, hend]
    cases h.failed with
    | false => simp
    | true =>
      simp only [true_and, if_true]
      split <;> omega

/-- An action that goes on, stretch by stretch, with any account of the frames before it. -/
def Continues (p : Action (Daemon n ρ σ δ) ε α) : Prop :=
  ∀ d hs, Accounts d hs → ∃ stretches : List Stretch,
    (p d).journal.stations = stretches.flatMap Stretch.stations ∧
      Accounts (p d).state (hs ++ stretches.filterMap Stretch.handling?)

omit [Ring ρ] [Detector δ] [Sink σ] in
theorem continues_pure (a : α) : Continues (pure a : Action (Daemon n ρ σ δ) ε α) := fun _ hs account =>
  ⟨[], rfl, by simpa using account⟩

omit [Ring ρ] [Detector δ] [Sink σ] in
theorem continues_get : Continues (Action.get : Action (Daemon n ρ σ δ) ε _) := fun _ hs account =>
  ⟨[], rfl, by simpa using account⟩

omit [Ring ρ] [Detector δ] [Sink σ] in
theorem Continues.attempt {p : Action (Daemon n ρ σ δ) ε α} (h : Continues p) {η : Type} :
    Continues (Action.attempt p : Action (Daemon n ρ σ δ) η (Except ε α)) := h

omit [Ring ρ] [Detector δ] [Sink σ] in
theorem Continues.bind {p : Action (Daemon n ρ σ δ) ε α} {f : α → Action (Daemon n ρ σ δ) ε β} (hp : Continues p)
    (hf : ∀ a, Continues (f a)) : Continues (p >>= f) := by
  intro d hs account
  obtain ⟨first, hstations, haccount⟩ := hp d hs account
  cases h : (p d).result with
  | error e =>
    rw [Action.bind_of_result_error h]
    exact ⟨first, hstations, haccount⟩
  | ok a =>
    obtain ⟨rest, hstations', haccount'⟩ := hf a (p d).state _ haccount
    rw [Action.bind_of_result_ok h]
    refine ⟨first ++ rest, ?_, ?_⟩
    · rw [Journal.stations_append, hstations, hstations', List.flatMap_append]
    · rw [List.filterMap_append, ← List.append_assoc]
      exact haccount'

omit [Detector δ] [Sink σ] in
/-- A doorbell call does not touch the counter, even if the controller has started over. -/
theorem continues_pollDoorbell :
    Continues (onTransport Transport.pollDoorbell : Action (Daemon n ρ σ δ) TransportError UInt32) := by
  intro d hs account
  obtain ⟨answer, returned, hstations⟩ := (Transport.polled d.transport).stretch
  rw [Journal.stations_deeds] at hstations
  refine ⟨[.poll answer returned], ?_, ?_⟩
  · rw [List.flatMap_singleton]
    exact hstations
  · rw [List.filterMap_cons_none rfl, List.filterMap_nil, List.append_nil]
    exact ⟨account.regular, account.failures⟩

/-- A frame that is read is one stretch, and one that is not read leaves the counter. -/
theorem continues_consume : Continues (consume : Action (Daemon n ρ σ δ) TransportError Unit) := by
  intro d hs account
  obtain ⟨answer, h, hread⟩ := readFrame_cases d
  have hstations := Journal.stations_of_deeds h.deeds
  rcases hread with ⟨bytes, rfl, hread⟩ | ⟨cause, rfl, hread⟩
  · obtain ⟨next, hread, hdoorbell, hfailures⟩ : ∃ next, readFrame d = ⟨.ok bytes.length, next, _⟩ ∧
        next.transport.doorbell = d.transport.doorbell ∧ next.failures = d.failures :=
      ⟨_, hread, Transport.doorbell_of_core h.core, rfl⟩
    have hhandle := passes_handle (ε := TransportError) (n := n) (ρ := ρ) (σ := σ) (δ := δ) bytes.length
    obtain ⟨a, ha⟩ := hhandle.total next
    have hkept : (handle bytes.length next).state.transport.doorbell = d.transport.doorbell :=
      (hhandle.keeps next).trans hdoorbell
    obtain ⟨fault, reset, hhandled, hdue, hnext⟩ := stations_handle (ε := TransportError) bytes.length next
    rw [consume, Action.bind_of_ok hread, Action.bind_of_result_ok ha]
    generalize (handle bytes.length next).state = e at hkept hnext
    have hslot : next.transport.slot = d.transport.slot := by rw [Transport.slot, Transport.slot, hdoorbell]
    have hslot' : e.transport.slot = d.transport.slot := by rw [Transport.slot, Transport.slot, hkept]
    obtain ⟨answer, hgiven⟩ : ∃ answer,
        (onTransport Transport.acknowledge e).journal.stations = [.feedback d.transport.slot answer] := by
      rw [← hslot']
      rcases Transport.acknowledge_spec e.transport with ⟨-, -, hdeeds⟩ | ⟨cause, -, -, hdeeds⟩
      · exact ⟨.ok (), Journal.stations_of_deeds hdeeds⟩
      · exact ⟨.error cause, Journal.stations_of_deeds hdeeds⟩
    refine ⟨[.frame ⟨d.transport.slot, fault, reset, answer⟩], ?_, ?_⟩
    · rw [List.flatMap_singleton, Journal.stations_append, Journal.stations_append, hstations, hhandled, hslot,
        List.append_assoc, hgiven]
      rfl
    · rw [hfailures] at hdue hnext
      exact account.snoc hdue hnext
  · rw [consume, Action.bind_of_error hread]
    refine ⟨[.unread d.transport.slot cause], hstations, ?_⟩
    rw [List.filterMap_cons_none rfl, List.filterMap_nil, List.append_nil]
    exact ⟨account.regular, account.failures⟩

/-! ## Any number of steps -/

theorem continues_consumeAll (count : Nat) :
    Continues (consumeAll count : Action (Daemon n ρ σ δ) TransportError Unit) := by
  induction count with
  | zero => exact continues_pure ()
  | succ count ih => exact continues_consume.bind fun _ => ih

theorem continues_step : Continues (step : Action (Daemon n ρ σ δ) TransportError Bool) :=
  continues_pollDoorbell.bind fun _ => continues_get.bind fun _ => (continues_consumeAll _).bind fun _ => continues_pure _

theorem continues_stepUpTo (count : Nat) :
    Continues (stepUpTo count : Action (Daemon n ρ σ δ) TransportError UInt32) :=
  continues_pollDoorbell.bind fun _ => (continues_consumeAll count).bind fun _ => continues_pure _

theorem continues_steps (count : Nat) :
    Continues (steps count : Action (Daemon n ρ σ δ) ε (List (Except TransportError Bool))) := by
  induction count with
  | zero => exact continues_pure []
  | succ count ih => exact continues_step.attempt.bind fun _ => ih.bind fun _ => continues_pure _

/-- Only a doorbell call, a read or a buffer that is refused ends a step. -/
theorem Stepped.command_of_error {depth first next : Nat} {result : Except TransportError Bool} {ms : List Milestone}
    (h : Stepped depth first result next ms) {e : TransportError} (failed : result = .error e) :
    e.command ∈ [Command.doorbell, .read, .feedback] := by
  cases h with
  | unanswered | interrupted =>
    obtain rfl := Except.error.inj failed
    simp
  | restarted | completed => exact absurd failed (by simp)
  | stopped _ h =>
    obtain rfl := Except.error.inj failed
    cases h <;> simp

theorem results_steps (count : Nat) (d : Daemon n ρ σ δ) :
    ∃ results, (steps count d : Outcome (Daemon n ρ σ δ) ε (List (Except TransportError Bool))).result = .ok results ∧
      ∀ e, .error e ∈ results → e.command ∈ [Command.doorbell, .read, .feedback] := by
  induction count generalizing d with
  | zero => exact ⟨[], rfl, fun e he => absurd he List.not_mem_nil⟩
  | succ count ih =>
    obtain ⟨results, hresults, hcommands⟩ := ih (step d).state
    have hstep : (Action.attempt step d : Outcome (Daemon n ρ σ δ) ε (Except TransportError Bool)).result =
        .ok (step d).result := rfl
    refine ⟨(step d).result :: results, ?_, fun e he => ?_⟩
    · rw [steps, Action.bind_of_result_ok hstep]
      simp only [Action.attempt_apply, Action.bind_of_result_ok hresults, Action.pure_apply]
    · rcases List.mem_cons.1 he with he | he
      · exact (stepped d).command_of_error he.symm
      · exact hcommands e he

/--
Over any number of steps of a new daemon, whatever the ring, the detector and the sink refuse: resets are tried only between a
failed frame and the return of its buffer, once each, and exactly after the frames that end a block of failed frames whose
length is a multiple of fifty. A reset that fails ends no step, and between frames the counter of failures is below fifty.
-/
theorem resets_follow_failures (transport : Transport n ρ) (screen : Touchscreen σ) (detector : δ) (count : Nat) :
    let o : Outcome _ ε (List (Except TransportError Bool)) := steps count (ofParts transport screen detector)
    (∃ stretches : List Stretch, o.journal.stations = stretches.flatMap Stretch.stations ∧
      Handling.ResetEveryFifty (stretches.filterMap Stretch.handling?)) ∧
    (∃ results, o.result = .ok results ∧
      ∀ e, .error e ∈ results → e.command ∈ [Command.doorbell, .read, .feedback]) ∧
    o.state.failures < 50 ∧ ∀ frames, (stepUpTo frames o.state).state.failures < 50 := by
  intro o
  have hnew : Accounts (ofParts transport screen detector) [] :=
    ⟨fun before h after hs => absurd hs (by simp), rfl⟩
  have hbelow : ∀ {d : Daemon n ρ σ δ} {hs : List Handling}, Accounts d hs → d.failures < 50 := by
    intro d hs account
    rw [account.failures]
    exact Nat.mod_lt _ (by decide)
  obtain ⟨stretches, hstations, haccount⟩ := continues_steps (ε := ε) count _ _ hnew
  refine ⟨⟨stretches, hstations, haccount.regular⟩, results_steps count _, hbelow haccount, fun frames => ?_⟩
  obtain ⟨rest, -, hlater⟩ := continues_stepUpTo frames _ _ haccount
  exact hbelow hlater

/-- Forty-nine failures bring no reset. The fiftieth does, in the slot of its frame, and its refusal does not end the step. -/
example :
    let ring : ScriptedRing := { doorbellQueue := [49, 50], resetRefusals := { queue := [5], final := 0 } }
    let detector : ScriptedDetector := { script := [{ failure := some "noise", more := 49 }] }
    let d := ofParts (n := 3) { ring } { sink := ({} : ScriptedSink) } detector
    let resets (polls : Nat) := (run polls d).journal.calls.filterMap fun
      | (slot, .reset answer) => some (slot, answer.isOk)
      | _ => none
    resets 1 = [] ∧ resets 2 = [(1, false)] ∧ (run 2 d).result.isOk = true := by
  decide +kernel

end Daemon
end Digitizer
