import Digitizer.Proofs.Ring.Recovery
import Digitizer.Proofs.Ring.Waiting

/-!
# Taking over a ring

A ring is taken over by a fixed plan of commands: every buffer is given back, then the controller tells its properties and its
doorbell. The first command that the ring refuses ends the plan. The doorbell call could give the buffers back once more, but
not here: a new transport counts from 0, and no hardware doorbell is below that.
-/
namespace Digitizer

/-- Why the ring has refused, if it has. -/
def refusal? {α : Type} : Except Errno α → Option Errno
  | .ok _ => none
  | .error cause => some cause

/-- The command of a call, and why the ring has refused it, if it has. Probes are not commands. -/
def Call.attempt? : Call → Option (Command × Option Errno)
  | .ready _ => none
  | .info answer => some (.info, refusal? answer)
  | .doorbell answer => some (.doorbell, refusal? answer)
  | .feedback answer => some (.feedback, refusal? answer)
  | .reset answer => some (.reset, refusal? answer)
  | .read _ answer => some (.read, refusal? answer)

/-- A command on a slot, and why the ring has refused it, if it has. -/
abbrev Attempt : Type := (Nat × Command) × Option Errno

/-- The attempt that an entry records, if it does. -/
def Entry.attempt? : Entry → Option Attempt
  | .call slot c => c.attempt?.map fun attempt => ((slot, attempt.1), attempt.2)
  | _ => none

/-- The commands of a journal, in order. -/
def Journal.attempts (j : Journal) : List Attempt := j.filterMap Entry.attempt?

namespace Journal

theorem attempts_deeds (j : Journal) : j.deeds.attempts = j.attempts := filterMap_deeds (fun _ => rfl) (fun _ _ => rfl) j

theorem attempts_append (j k : Journal) : attempts (j ++ k) = j.attempts ++ k.attempts := List.filterMap_append

theorem attempts_takenBack (slots : List Nat) :
    attempts (slots.map Entry.takenBack) = (slots.map (·, Command.feedback)).map (·, none) := by
  rw [attempts, List.filterMap_map, List.map_map, ← List.filterMap_eq_map]
  rfl

end Journal

/-- An entry does not tell that the controller has started over. -/
def Entry.IsSteady (e : Entry) : Prop := ∀ expected found, e ≠ .notice (.doorbellRegressed expected found)

/-- A plan of commands is carried out: all of them are served, or those up to the first that the ring refuses. -/
inductive CarriedOut (plan : List (Nat × Command)) : Except TransportError Unit → List Attempt → Prop
  | through : CarriedOut plan (.ok ()) (plan.map (·, none))
  | cut {served : List (Nat × Command)} {refused : Nat × Command} (h : served ++ [refused] <+: plan) (cause : Errno) :
    CarriedOut plan (.error ⟨refused.2, cause⟩) (served.map (·, none) ++ [(refused, some cause)])

namespace Transport
variable {n : Nat} {ρ ε α : Type}

/-- The plan by which a ring is taken over. -/
def startup (n : Nat) : List (Nat × Command) :=
  (List.range n).map (·, .feedback) ++ [(0, .info), (0, .doorbell)]

theorem prefix_startup {k : Nat} (h : k < n) :
    (List.range k).map (·, Command.feedback) ++ [(k, .feedback)] <+: startup n := by
  have hrange : List.range (k + 1) <+: List.range n := range_prefix h
  have hflush := hrange.map (·, Command.feedback)
  rw [List.range_succ, List.map_append] at hflush
  exact hflush.trans (List.prefix_append _ _)

theorem Started.carriedOut {t : Transport n ρ} {result : Except TransportError Unit} {left : Transport n Unit}
    {deeds : Journal} (h : Started t result left deeds) : CarriedOut (startup n) result deeds.attempts := by
  cases h with
  | unflushed hk cause =>
    rw [Journal.attempts_append, Journal.attempts_takenBack]
    exact .cut (prefix_startup hk) cause
  | unknown cause =>
    have hprefix : (List.range n).map (·, Command.feedback) ++ [(0, .info)] <+: startup n :=
      (List.prefix_append_right_inj _).2 ⟨[(0, .doorbell)], rfl⟩
    rw [Journal.attempts_append, Journal.attempts_takenBack]
    exact .cut hprefix cause
  | unanswered info cause =>
    have hprefix : ((List.range n).map (·, Command.feedback) ++ [(0, .info)]) ++ [(0, .doorbell)] <+: startup n := by
      rw [List.append_assoc]
      exact List.prefix_rfl
    have hcut := CarriedOut.cut hprefix cause
    rw [List.map_append, List.append_assoc] at hcut
    rw [Journal.attempts_append, Journal.attempts_takenBack]
    exact hcut
  | latched info found =>
    have hplan : (startup n).map (·, (none : Option Errno)) =
        ((List.range n).map (·, Command.feedback)).map (·, none) ++ [((0, .info), none), ((0, .doorbell), none)] :=
      List.map_append
    have hthrough : CarriedOut (startup n) (.ok ()) ((startup n).map (·, none)) := .through
    rw [hplan] at hthrough
    rw [Journal.attempts_append, Journal.attempts_takenBack]
    exact hthrough

theorem Started.deeds_of_ok {t : Transport n ρ} {result : Except TransportError Unit} {left : Transport n Unit}
    {deeds : Journal} (h : Started t result left deeds) (ok : result = .ok ()) :
    deeds = (List.range n).map Entry.takenBack ++
      [.call 0 (.info (.ok left.info)), .call 0 (.doorbell (.ok left.doorbell))] := by
  cases h with
  | unflushed | unknown | unanswered => exact absurd ok (by simp)
  | latched info found => rfl

/-! ## No second flush -/

section
variable [Ring ρ]

/-- What taking over a ring comes to: the doorbell is asked for, and no more. -/
def takeOver : Action (Transport n ρ) TransportError Unit := do
  returnAll
  let info ← queryInfo
  Action.modify fun t => { t with info }
  Action.notify (.connected info)
  let found ← queryDoorbell
  Action.modify fun t => { t with doorbell := found }

theorem start_eq_takeOver {t : Transport n ρ} (new : t.doorbell = 0) : start t = takeOver t := by
  rw [start, takeOver]
  refine Action.bind_congr_right fun _ _ => Action.bind_congr_right fun info _ => ?_
  have hcore : (queryInfo (returnAll t).state).state.core = t.core :=
    (keeps_of_commands commands_queryInfo _).trans (returnAll_spec t).1
  have hnew : (queryInfo (returnAll t).state).state.doorbell = 0 := (doorbell_of_core hcore).trans new
  rw [Action.modify_bind, Action.modify_bind]
  refine Action.bind_congr_right fun _ _ => Action.bind_congr_left (pollDoorbell_of_new ?_) _
  exact hnew

omit [Ring ρ] in
theorem steady_issue (command : Command) (slot : Nat) (call : ρ → Except Errno α × ρ) (record : Except Errno α → Call) :
    Action.Logs Entry.IsSteady (issue command slot call record : Action (Transport n ρ) TransportError α) := by
  intro t e he
  obtain rfl := List.mem_singleton.1 he
  exact fun _ _ => Entry.noConfusion

theorem steady_awaitReady : Action.Logs Entry.IsSteady (awaitReady : Action (Transport n ρ) ε Unit) := by
  intro t e he expected found heq
  subst heq
  rcases awaitReady_spec (ε := ε) t with ⟨misses, -, hjournal⟩ | hjournal
  · simp [hjournal] at he
  · simp [hjournal] at he

theorem steady_takeOver : Action.Logs Entry.IsSteady (takeOver : Action (Transport n ρ) TransportError Unit) := by
  have hgive : ∀ slot, Action.Logs Entry.IsSteady (giveBack slot : Action (Transport n ρ) TransportError Unit) :=
    fun slot => Action.logs_bind steady_awaitReady fun _ => steady_issue _ _ _ _
  have hinfo : Action.Logs Entry.IsSteady (queryInfo : Action (Transport n ρ) TransportError ControllerInfo) :=
    Action.logs_bind steady_awaitReady fun _ => Action.logs_bind Action.logs_get fun _ => steady_issue _ _ _ _
  have hdoorbell : Action.Logs Entry.IsSteady (queryDoorbell : Action (Transport n ρ) TransportError UInt32) :=
    Action.logs_bind steady_awaitReady fun _ => Action.logs_bind Action.logs_get fun _ => steady_issue _ _ _ _
  have hconnected : ∀ info, Entry.IsSteady (.notice (.connected info)) := fun _ _ _ => by simp
  refine Action.logs_bind (Action.logs_each hgive _) fun _ => Action.logs_bind hinfo fun info => ?_
  refine Action.logs_bind (Action.logs_modify _) fun _ => Action.logs_bind (Action.logs_notify (hconnected info)) fun _ => ?_
  exact Action.logs_bind hdoorbell fun _ => Action.logs_modify _

/--
The commands that take over a ring are those of the plan: every buffer once, in the order of the slots, then the properties and
the doorbell from the first slot. They end right after the first that is refused, and that command and the cause are
returned. If none is refused, the transport has the properties and the doorbell that were answered, however large that is.
It is never found that the controller has started over.
-/
theorem startup_flushes_once_then_latches (ring : ρ) (policy : ProbePolicy) :
    let o := start ({ ring, policy } : Transport n ρ)
    CarriedOut (startup n) o.result o.journal.attempts ∧
      (o.result = .ok () → o.journal.deeds = (List.range n).map Entry.takenBack ++
        [.call 0 (.info (.ok o.state.info)), .call 0 (.doorbell (.ok o.state.doorbell))]) ∧
      ∀ e ∈ o.journal, e.IsSteady := by
  intro o
  have hstarted : Started _ o.result o.state.core o.journal.deeds := started (t := ({ ring, policy } : Transport n ρ)) rfl
  refine ⟨?_, hstarted.deeds_of_ok, ?_⟩
  · rw [← Journal.attempts_deeds]
    exact hstarted.carriedOut
  · have ho : o = takeOver ({ ring, policy } : Transport n ρ) := start_eq_takeOver rfl
    rw [ho]
    exact steady_takeOver _

/-- The largest doorbell is latched by a controller that is never ready, and no buffer is given back for it. -/
theorem startup_latches_the_largest_doorbell :
    let ring : ScriptedRing := { ready := ⟨[], false⟩, doorbell := 4294967295 }
    let o := start ({ ring } : Transport 2 ScriptedRing)
    o.result = .ok () ∧ o.state.doorbell = 4294967295 ∧
      o.journal.deeds = [Entry.takenBack 0, Entry.takenBack 1, .call 0 (.info (.ok {})),
        .call 0 (.doorbell (.ok 4294967295))] := by
  intro ring o
  have ok : o.result = .ok () := Action.ok_of_isOk (by decide +kernel)
  have hinfo : o.state.info = {} := by decide +kernel
  have hdoorbell : o.state.doorbell = 4294967295 := by decide +kernel
  obtain ⟨-, hdeeds, -⟩ := startup_flushes_once_then_latches (n := 2) ring {}
  refine ⟨ok, hdoorbell, (hdeeds ok).trans ?_⟩
  rw [hinfo, hdoorbell]
  rfl

end

end Transport
end Digitizer
