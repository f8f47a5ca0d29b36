import Digitizer.Daemon
import Digitizer.Proofs.Ring.Commands
import Digitizer.Proofs.Touch.Plan

/-!
# Milestones of a frame

The milestones of a journal are the doorbell calls, the reads, the detections and the buffers that are given back. Whatever
happens to a frame between its read and its acknowledgement, it passes one detection and does not touch the count. The rest is
upkeep, which leaves the local doorbell, the screen and the frame buffer alone.
-/
namespace Digitizer

/-- What can be seen of the way of a frame through the daemon. -/
inductive Milestone where
  | doorbell (answer : Except Errno UInt32)
  | read (slot : Nat) (answer : Except Errno Unit)
  | detection
  | feedback (slot : Nat) (answer : Except Errno Unit)

/-- The milestone that an entry is, if any. -/
def Entry.milestone? : Entry → Option Milestone
  | .call _ (.doorbell answer) => some (.doorbell answer)
  | .call slot (.read _ answer) => some (.read slot (answer.map fun _ => ()))
  | .call slot (.feedback answer) => some (.feedback slot answer)
  | .detection .. => some .detection
  | _ => none

/-- A log record, a probe or a reset. -/
def Entry.isUpkeep : Entry → Bool
  | .notice _ | .call _ (.ready _) | .call _ (.reset _) => true
  | _ => false

theorem Entry.isUpkeep_of_isWait : ∀ e : Entry, e.isWait = true → e.isUpkeep = true
  | .notice _, _ | .call _ (.ready _), _ => rfl

/-- The milestones of a journal in order. -/
def Journal.milestones (j : Journal) : List Milestone := j.filterMap Entry.milestone?

namespace Journal

@[simp] theorem milestones_append (j k : Journal) : Journal.milestones (j ++ k) = j.milestones ++ k.milestones :=
  List.filterMap_append

@[simp] theorem milestones_nil : Journal.milestones [] = [] := rfl

theorem milestones_cons (e : Entry) (j : Journal) :
    Journal.milestones (e :: j) = e.milestone?.toList ++ j.milestones := by
  rw [milestones, List.filterMap_cons]
  cases e.milestone? <;> rfl

/-- Waiting is no milestone. -/
theorem milestones_deeds (j : Journal) : j.deeds.milestones = j.milestones :=
  filterMap_deeds (fun _ => rfl) (fun _ _ => rfl) j

theorem milestones_of_deeds {j k : Journal} (h : j.deeds = k) : j.milestones = k.milestones := by
  rw [← milestones_deeds, h]

theorem milestones_of_output {j : Journal} (h : ∀ e ∈ j, e.isOutput = true) : j.milestones = [] := by
  refine List.filterMap_eq_nil_iff.2 fun e he => ?_
  have houtput := h e he
  cases e with
  | notice | emitted | refused => rfl
  | call | detection => exact absurd houtput Bool.false_ne_true

/-- Upkeep passes no milestone. -/
theorem milestones_of_upkeep {j : Journal} (h : ∀ e ∈ j, e.isUpkeep = true) : j.milestones = [] := by
  have hnone : ∀ e : Entry, e.isUpkeep = true → e.milestone? = none
    | .notice _, _ | .call _ (.ready _), _ | .call _ (.reset _), _ => rfl
  exact List.filterMap_eq_nil_iff.2 fun e he => hnone e (h e he)

@[simp] theorem milestones_takenBack (slots : List Nat) :
    Journal.milestones (slots.map Entry.takenBack) = slots.map fun slot => .feedback slot (.ok ()) := by
  induction slots with
  | nil => rfl
  | cons slot slots ih => exact congrArg (Milestone.feedback slot (.ok ()) :: ·) ih

end Journal

/-- A command passes the milestone of its call. -/
theorem Transport.Commands.milestones {n : Nat} {ρ α : Type} {p : Action (Transport n ρ) TransportError α}
    {t : Transport n ρ} {command : Command} {answer : Except Errno α} {entry : Entry}
    (h : Commands p t command answer entry) : (p t).journal.milestones = entry.milestone?.toList := by
  rw [Journal.milestones_of_deeds h.deeds, Journal.milestones_cons, Journal.milestones_nil, List.append_nil]

namespace Daemon
variable {n : Nat} {ρ σ δ ε α β : Type}

/-! ## Upkeep -/

/-- An action that succeeds and keeps to counting, to the log and to resets: nothing that a frame goes through changes. -/
structure Upkeep (p : Action (Daemon n ρ σ δ) ε α) : Prop where
  total : Action.Total p
  keeps : Action.Keeps (fun d => (d.transport.doorbell, d.screen, d.frame)) p
  logs : Action.Logs (fun e => e.isUpkeep = true) p

theorem upkeep_pure (a : α) : Upkeep (pure a : Action (Daemon n ρ σ δ) ε α) :=
  ⟨Action.total_pure a, Action.keeps_pure a, Action.logs_pure a⟩

theorem upkeep_get : Upkeep (Action.get : Action (Daemon n ρ σ δ) ε _) :=
  ⟨Action.total_get, Action.keeps_get, Action.logs_get⟩

theorem upkeep_notify (m : Notice) : Upkeep (Action.notify m : Action (Daemon n ρ σ δ) ε Unit) :=
  ⟨Action.total_notify m, Action.keeps_notify m, Action.logs_notify rfl⟩

theorem upkeep_modify {f : Daemon n ρ σ δ → Daemon n ρ σ δ}
    (h : ∀ d, ((f d).transport, (f d).screen, (f d).frame) = (d.transport, d.screen, d.frame)) :
    Upkeep (Action.modify f : Action (Daemon n ρ σ δ) ε Unit) where
  total := Action.total_modify f
  keeps := fun d => congrArg (fun parts => (parts.1.doorbell, parts.2)) (h d)
  logs := Action.logs_modify f

theorem Upkeep.bind {p : Action (Daemon n ρ σ δ) ε α} {f : α → Action (Daemon n ρ σ δ) ε β} (hp : Upkeep p)
    (hf : ∀ a, Upkeep (f a)) : Upkeep (p >>= f) :=
  ⟨Action.total_bind hp.total fun a => (hf a).total, Action.keeps_bind hp.keeps fun a => (hf a).keeps,
    Action.logs_bind hp.logs fun a => (hf a).logs⟩

theorem upkeep_countFrame (bytes : Nat) : Upkeep (countFrame bytes : Action (Daemon n ρ σ δ) ε Unit) := by
  refine Upkeep.bind (upkeep_modify fun _ => rfl) fun _ => upkeep_get.bind fun d => ?_
  split
  · exact upkeep_notify _
  · split
    · exact upkeep_notify _
    · exact upkeep_pure ()

section
variable [Ring ρ]

/-- A reset comes and goes without a change of the count. -/
theorem upkeep_attempt_reset :
    Upkeep (Action.attempt (onTransport Transport.reset) : Action (Daemon n ρ σ δ) ε (Except TransportError Unit)) where
  total := Action.total_attempt _
  keeps := by
    intro d
    obtain ⟨answer, h⟩ := Transport.commands_reset d.transport
    exact congrArg (fun doorbell => (doorbell, d.screen, d.frame)) (Transport.doorbell_of_core h.core)
  logs := by
    intro d
    obtain ⟨answer, h⟩ := Transport.commands_reset d.transport
    refine Journal.forall_of_deeds Entry.isUpkeep_of_isWait fun e he => ?_
    have hreset : e ∈ [Entry.call d.transport.slot (.reset answer)] := h.deeds ▸ he
    rw [List.mem_singleton.1 hreset]
    rfl

theorem upkeep_recover : Upkeep (recover : Action (Daemon n ρ σ δ) ε Unit) := by
  refine upkeep_get.bind fun d => (upkeep_notify _).bind fun _ => Upkeep.bind (upkeep_modify fun _ => rfl) fun _ =>
    upkeep_attempt_reset.bind fun result => ?_
  cases result with
  | ok a => exact upkeep_pure ()
  | error e => exact upkeep_notify _

theorem upkeep_countFailure (fault : FrameFault) : Upkeep (countFailure fault : Action (Daemon n ρ σ δ) ε Unit) := by
  refine Upkeep.bind (upkeep_modify fun _ => rfl) fun _ => (upkeep_notify _).bind fun _ => upkeep_get.bind fun d => ?_
  split
  · exact upkeep_recover
  · exact upkeep_pure ()

/-- After the detection, the failures are counted. -/
theorem upkeep_settle (fault : Option FrameFault) :
    Upkeep (match fault with
      | none => Action.modify fun d => { d with failures := 0 }
      | some fault => countFailure fault : Action (Daemon n ρ σ δ) ε Unit) := by
  cases fault with
  | none => exact upkeep_modify fun _ => rfl
  | some fault => exact upkeep_countFailure fault

end

/-! ## The read of a frame -/

/-- A frame that is read fills the frame buffer. Otherwise nothing but the transport changes. -/
theorem readFrame_cases [Ring ρ] (d : Daemon n ρ σ δ) :
    let room := d.frame.room
    let read : Outcome (Transport n ρ) TransportError Bytes := Transport.read room d.transport
    ∃ answer, Transport.Commands (Transport.read room) d.transport .read answer
        (.call d.transport.slot (.read room answer)) ∧
      ((∃ bytes, answer = .ok bytes ∧
          readFrame d = ⟨.ok bytes.length, { d with transport := read.state, frame := d.frame.fill bytes }, read.journal⟩) ∨
        ∃ cause, answer = .error cause ∧
          readFrame d = ⟨.error ⟨.read, cause⟩, { d with transport := read.state }, read.journal⟩) := by
  intro room read
  obtain ⟨answer, h⟩ := Transport.commands_read room d.transport
  refine ⟨answer, h, ?_⟩
  have hd : readFrame d = (onTransport (Transport.read room) >>= fun bytes => do
      Action.modify fun d => { d with frame := d.frame.fill bytes }
      pure bytes.length) d := rfl
  rw [hd]
  cases answer with
  | ok bytes =>
    have hread : (onTransport (Transport.read room) d).result = .ok bytes := h.result
    rw [Action.bind_of_result_ok hread]
    refine Or.inl ⟨bytes, rfl, ?_⟩
    rw [Action.modify_bind, Action.pure_apply, List.append_nil]
    rfl
  | error cause =>
    have hread : (onTransport (Transport.read room) d).result = .error ⟨.read, cause⟩ := h.result
    rw [Action.bind_of_result_error hread]
    exact Or.inr ⟨cause, rfl, rfl⟩

/-! ## Between the read of a frame and its acknowledgement -/

/-- An action that succeeds, stays at the same frame and passes certain milestones. -/
structure Passes (p : Action (Daemon n ρ σ δ) ε α) (milestones : List Milestone) : Prop where
  total : Action.Total p
  keeps : Action.Keeps (fun d => d.transport.doorbell) p
  milestones : ∀ d, (p d).journal.milestones = milestones

theorem Upkeep.passes {p : Action (Daemon n ρ σ δ) ε α} (h : Upkeep p) : Passes p [] where
  total := h.total
  keeps := fun d => congrArg Prod.fst (h.keeps d)
  milestones := fun d => Journal.milestones_of_upkeep (h.logs d)

theorem passes_pure (a : α) : Passes (pure a : Action (Daemon n ρ σ δ) ε α) [] := (upkeep_pure a).passes

theorem Passes.bind {p : Action (Daemon n ρ σ δ) ε α} {f : α → Action (Daemon n ρ σ δ) ε β} {ms ks : List Milestone}
    (hp : Passes p ms) (hf : ∀ a, Passes (f a) ks) : Passes (p >>= f) (ms ++ ks) where
  total := Action.total_bind hp.total fun a => (hf a).total
  keeps := Action.keeps_bind hp.keeps fun a => (hf a).keeps
  milestones := by
    intro d
    obtain ⟨a, ha⟩ := hp.total d
    rw [Action.bind_of_result_ok ha, Journal.milestones_append, hp.milestones, (hf a).milestones]

theorem Passes.after {p : Action (Daemon n ρ σ δ) ε α} {f : α → Action (Daemon n ρ σ δ) ε β} {ms : List Milestone}
    (hp : Passes p []) (hf : ∀ a, Passes (f a) ms) : Passes (p >>= f) ms := hp.bind hf

theorem upkeep_clearContacts : Upkeep (clearContacts : Action (Daemon n ρ σ δ) ε Unit) := upkeep_modify fun _ => rfl

theorem passes_detect [Detector δ] (bytes : Nat) :
    Passes (detect bytes : Action (Daemon n ρ σ δ) ε _) [.detection] :=
  ⟨fun _ => ⟨_, rfl⟩, fun _ => rfl, fun _ => rfl⟩

theorem passes_attempt_update [Sink σ] (contacts : List Contact) :
    Passes (Action.attempt (onScreen (Touchscreen.update contacts)) : Action (Daemon n ρ σ δ) ε (Except Errno Unit)) [] where
  total := Action.total_attempt _
  keeps := fun _ => rfl
  milestones := fun d => Journal.milestones_of_output (Touchscreen.logs_update contacts d.screen)

theorem passes_report [Detector δ] [Sink σ] (bytes : Nat) :
    Passes (report bytes : Action (Daemon n ρ σ δ) ε (Option FrameFault)) [.detection] := by
  refine upkeep_clearContacts.passes.after fun _ => Passes.bind (passes_detect bytes) fun found => ?_
  cases found with
  | error reason => exact passes_pure _
  | ok contacts =>
    refine (passes_attempt_update contacts).after fun result => ?_
    cases result <;> exact passes_pure _

variable [Ring ρ] [Detector δ] [Sink σ]

/-- Whether detection or the sink fails, a frame that was read is detected once and nothing else is asked of the ring. -/
theorem passes_handle (bytes : Nat) : Passes (handle bytes : Action (Daemon n ρ σ δ) ε Unit) [.detection] := by
  refine (upkeep_countFrame bytes).passes.after fun _ => ?_
  exact (List.append_nil [Milestone.detection]) ▸ (passes_report bytes).bind fun fault => (upkeep_settle fault).passes

end Daemon
end Digitizer
