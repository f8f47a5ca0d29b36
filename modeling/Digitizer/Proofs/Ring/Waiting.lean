import Digitizer.Proofs.Ring.Requests

/-!
# Waiting for the controller

Before a command the controller is asked whether it is ready, again and again until it is, but at most as often as the policy
says. `awaitReady_spec` lists all that this can do. So the calls of every request are commands, each right after its own probes
of the slot that was current when the request came, wherever the command itself goes (`paces_serve`).
-/
namespace Digitizer

/-- Whether a call only asks for readiness. -/
def Call.isProbe : Call → Bool
  | .ready _ => true
  | _ => false

/--
Probes of a slot, at most so many. All but the last find the controller not ready, and fewer than all end with one that does.
-/
inductive Awaited (slot attempts : Nat) : List (Nat × Call) → Prop
  | ready {misses : Nat} (h : misses < attempts) :
    Awaited slot attempts (List.replicate misses (slot, .ready false) ++ [(slot, .ready true)])
  | never : Awaited slot attempts (List.replicate attempts (slot, .ready false))

/-- Commands on any slots, each right after its own probes of one slot. -/
inductive Paced (slot attempts : Nat) : List (Nat × Call) → Prop
  | nil : Paced slot attempts []
  | cons {probes : List (Nat × Call)} (waited : Awaited slot attempts probes) (target : Nat) {c : Call}
    (command : c.isProbe = false) {rest : List (Nat × Call)} (h : Paced slot attempts rest) :
    Paced slot attempts (probes ++ (target, c) :: rest)

theorem Paced.append {slot attempts : Nat} {calls rest : List (Nat × Call)} (h : Paced slot attempts calls)
    (hrest : Paced slot attempts rest) : Paced slot attempts (calls ++ rest) := by
  induction h with
  | nil => exact hrest
  | cons waited target command _ ih =>
    rw [List.append_assoc, List.cons_append]
    exact .cons waited target command ih

/-- Only the one slot is probed. -/
theorem Paced.slot_eq {slot attempts : Nat} {calls : List (Nat × Call)} (h : Paced slot attempts calls) {target : Nat}
    {answer : Bool} (hprobe : (target, .ready answer) ∈ calls) : target = slot := by
  induction h with
  | nil => exact absurd hprobe List.not_mem_nil
  | cons waited other command _ ih =>
    rcases List.mem_append.1 hprobe with hprobe | hprobe
    · cases waited with
      | ready =>
        rcases List.mem_append.1 hprobe with hprobe | hprobe
        · exact (Prod.mk.inj (List.eq_of_mem_replicate hprobe)).1
        · exact (Prod.mk.inj (List.mem_singleton.1 hprobe)).1
      | never => exact (Prod.mk.inj (List.eq_of_mem_replicate hprobe)).1
    · rcases List.mem_cons.1 hprobe with heq | hprobe
      · rw [← (Prod.mk.inj heq).2] at command
        exact absurd command (by simp [Call.isProbe])
      · exact ih hprobe

namespace Transport
variable {n : Nat} {ρ ε α β : Type}

/-- What decides how a transport waits: its policy, and the local doorbell. -/
def pace (t : Transport n ρ) : ProbePolicy × UInt32 := (t.policy, t.doorbell)

theorem pace_of_core {t u : Transport n ρ} (h : u.core = t.core) : u.pace = t.pace :=
  congrArg (fun c : Transport n Unit => c.pace) h

/-- An action whose commands are each preceded by probes of the slot that was current before the action. -/
def Paces (p : Action (Transport n ρ) ε α) : Prop := ∀ t, Paced t.slot t.policy.attempts (p t).journal.calls

/-- An action that makes no calls. -/
def Silent (p : Action (Transport n ρ) ε α) : Prop := ∀ t, (p t).journal.calls = []

theorem silent_pure (a : α) : Silent (pure a : Action (Transport n ρ) ε α) := fun _ => rfl
theorem silent_get : Silent (Action.get : Action (Transport n ρ) ε (Transport n ρ)) := fun _ => rfl
theorem silent_modify (f : Transport n ρ → Transport n ρ) : Silent (Action.modify f : Action (Transport n ρ) ε Unit) :=
  fun _ => rfl
theorem silent_notify (m : Notice) : Silent (Action.notify m : Action (Transport n ρ) ε Unit) := fun _ => rfl

theorem Silent.paces {p : Action (Transport n ρ) ε α} (h : Silent p) : Paces p := by
  intro t
  rw [h t]
  exact .nil

/-- What comes next goes on with the same slot, if the first part leaves the local doorbell. -/
theorem Paces.bind {p : Action (Transport n ρ) ε α} {f : α → Action (Transport n ρ) ε β} (hp : Paces p)
    (keeps : Action.Keeps pace p) (hf : ∀ a, Paces (f a)) : Paces (p >>= f) := by
  intro t
  cases h : (p t).result with
  | error e =>
    rw [Action.bind_of_result_error h]
    exact hp t
  | ok a =>
    obtain ⟨hpolicy, hdoorbell⟩ := Prod.mk.inj (keeps t)
    have hrest := hf a (p t).state
    rw [slot, hpolicy, hdoorbell, ← slot] at hrest
    rw [Action.bind_of_result_ok h, Journal.calls_append]
    exact (hp t).append hrest

/-- The local doorbell may change as long as no calls follow. -/
theorem Paces.bind_silent {p : Action (Transport n ρ) ε α} {f : α → Action (Transport n ρ) ε β} (hp : Paces p)
    (hf : ∀ a, Silent (f a)) : Paces (p >>= f) := by
  intro t
  cases h : (p t).result with
  | error e =>
    rw [Action.bind_of_result_error h]
    exact hp t
  | ok a =>
    rw [Action.bind_of_result_ok h, Journal.calls_append, hf a, List.append_nil]
    exact hp t

theorem paces_each {f : β → Action (Transport n ρ) ε Unit} (hf : ∀ b, Paces (f b)) (keeps : ∀ b, Action.Keeps pace (f b))
    (bs : List β) : Paces (Action.each f bs) := by
  induction bs with
  | nil => exact (silent_pure ()).paces
  | cons b bs ih => exact (hf b).bind (keeps b) fun _ => ih

variable [Ring ρ]

/-- So many probes at most, up to the first that finds the controller ready. -/
theorem probeUpTo_spec (attempts : Nat) (t : Transport n ρ) :
    let o := (probeUpTo attempts : Action (Transport n ρ) ε Bool) t
    (∃ misses < attempts, o.result = .ok true ∧
        o.journal = List.replicate misses (.call t.slot (.ready false)) ++ [.call t.slot (.ready true)]) ∨
      o.result = .ok false ∧ o.journal = List.replicate attempts (.call t.slot (.ready false)) := by
  intro o
  induction attempts generalizing t with
  | zero => exact Or.inr ⟨rfl, rfl⟩
  | succ attempts ih =>
    have hprobe : (probe t : Outcome (Transport n ρ) ε Bool) = ⟨.ok (Ring.ready t.ring t.slot).1,
        { t with ring := (Ring.ready t.ring t.slot).2 }, [.call t.slot (.ready (Ring.ready t.ring t.slot).1)]⟩ := rfl
    have ho : o = _ := Action.bind_of_ok hprobe fun ready => if ready then pure true else probeUpTo attempts
    rw [ho]
    cases hready : (Ring.ready t.ring t.slot).1 with
    | true => exact Or.inl ⟨0, Nat.succ_pos attempts, rfl, rfl⟩
    | false =>
      rcases ih { t with ring := (Ring.ready t.ring t.slot).2 } with ⟨misses, hlt, hresult, hjournal⟩ | ⟨hresult, hjournal⟩
      · exact Or.inl ⟨misses + 1, Nat.succ_lt_succ hlt, hresult, congrArg (_ :: ·) hjournal⟩
      · exact Or.inr ⟨hresult, congrArg (_ :: ·) hjournal⟩

/-- Waiting ends with the first probe that finds the controller ready, or with all probes and a log record that says so. -/
theorem awaitReady_spec (t : Transport n ρ) :
    let o := (awaitReady : Action (Transport n ρ) ε Unit) t
    (∃ misses < t.policy.attempts,
        o.journal = List.replicate misses (.call t.slot (.ready false)) ++ [.call t.slot (.ready true)]) ∨
      o.journal = List.replicate t.policy.attempts (.call t.slot (.ready false)) ++ [.notice (.notReady t.policy.attempts)] := by
  intro o
  have ho : o = (probeUpTo t.policy.attempts >>= fun ready =>
      if ready then pure () else Action.notify (.notReady t.policy.attempts)) t := rfl
  rw [ho]
  rcases probeUpTo_spec (ε := ε) t.policy.attempts t with ⟨misses, hlt, hresult, hjournal⟩ | ⟨hresult, hjournal⟩
  · refine Or.inl ⟨misses, hlt, ?_⟩
    simp [Action.bind_of_result_ok hresult, hjournal]
  · refine Or.inr ?_
    simp [Action.bind_of_result_ok hresult, hjournal]

theorem awaited_awaitReady (t : Transport n ρ) :
    Awaited t.slot t.policy.attempts ((awaitReady : Action (Transport n ρ) ε Unit) t).journal.calls := by
  have hcalls : ∀ count answer, Journal.calls (List.replicate count (.call t.slot (.ready answer))) =
      List.replicate count (t.slot, .ready answer) := by
    intro count answer
    induction count with
    | zero => rfl
    | succ count ih => exact congrArg ((t.slot, .ready answer) :: ·) ih
  rcases awaitReady_spec (ε := ε) t with ⟨misses, hlt, hjournal⟩ | hjournal
  · rw [hjournal, Journal.calls_append, hcalls]
    exact .ready hlt
  · have hnotice : Journal.calls [.notice (.notReady t.policy.attempts)] = [] := rfl
    rw [hjournal, Journal.calls_append, hcalls, hnotice, List.append_nil]
    exact .never

/-- A command that waits first and then makes its one call. -/
theorem paces_command {f : Unit → Action (Transport n ρ) ε α}
    (hf : ∀ t, ∃ target c, c.isProbe = false ∧ (f () t).journal.calls = [(target, c)]) : Paces (awaitReady >>= f) := by
  intro t
  obtain ⟨a, ha⟩ := (waits_awaitReady (ε := ε)).total t
  obtain ⟨target, c, command, hcalls⟩ := hf ((awaitReady : Action (Transport n ρ) ε Unit) t).state
  rw [Action.bind_of_result_ok ha, Journal.calls_append, hcalls]
  exact .cons (awaited_awaitReady t) target command .nil

theorem paces_giveBack (slot : Nat) : Paces (giveBack slot : Action (Transport n ρ) TransportError Unit) :=
  paces_command fun _ => ⟨slot, _, rfl, rfl⟩

theorem paces_queryDoorbell : Paces (queryDoorbell : Action (Transport n ρ) TransportError UInt32) :=
  paces_command fun t => ⟨t.slot, _, rfl, rfl⟩

theorem paces_queryInfo : Paces (queryInfo : Action (Transport n ρ) TransportError ControllerInfo) :=
  paces_command fun t => ⟨t.slot, _, rfl, rfl⟩

theorem paces_read (room : Nat) : Paces (read room : Action (Transport n ρ) TransportError Bytes) :=
  paces_command fun t => ⟨t.slot, _, rfl, rfl⟩

theorem paces_reset : Paces (reset : Action (Transport n ρ) TransportError Unit) :=
  paces_command fun t => ⟨t.slot, _, rfl, rfl⟩

theorem pace_giveBack (slot : Nat) : Action.Keeps pace (giveBack slot : Action (Transport n ρ) TransportError Unit) :=
  fun t => pace_of_core (keeps_giveBack slot t)

theorem pace_returnAll : Action.Keeps pace (returnAll : Action (Transport n ρ) TransportError Unit) :=
  Action.keeps_each pace_giveBack _

theorem paces_returnAll : Paces (returnAll : Action (Transport n ρ) TransportError Unit) :=
  paces_each paces_giveBack pace_giveBack _

/-- The local doorbell follows a regression only after every buffer was given back. -/
theorem paces_pollDoorbell : Paces (pollDoorbell : Action (Transport n ρ) TransportError UInt32) := by
  have hquery : Action.Keeps pace (queryDoorbell : Action (Transport n ρ) TransportError UInt32) := fun t =>
    pace_of_core (keeps_of_commands commands_queryDoorbell t)
  have hresynchronise : ∀ found, Paces (resynchronise found : Action (Transport n ρ) TransportError Unit) := fun found =>
    silent_get.paces.bind Action.keeps_get fun t => (silent_notify _).paces.bind (Action.keeps_notify _) fun _ =>
      paces_returnAll.bind_silent fun _ => silent_modify _
  refine paces_queryDoorbell.bind hquery fun found => silent_get.paces.bind Action.keeps_get fun t => ?_
  split
  · exact (hresynchronise found).bind_silent fun _ => silent_pure found
  · exact (silent_pure found).paces

/-- Every request waits for the slot that is current before it. -/
theorem paces_serve (r : Request) : Paces (serve r : Action (Transport n ρ) TransportError Answer) := by
  cases r with
  | doorbell => exact paces_pollDoorbell.bind_silent fun _ => silent_pure _
  | read room => exact (paces_read room).bind_silent fun _ => silent_pure _
  | feedback =>
    have hacknowledge : Paces (acknowledge : Action (Transport n ρ) TransportError Unit) :=
      silent_get.paces.bind Action.keeps_get fun t => (paces_giveBack t.slot).bind_silent fun _ => silent_modify _
    exact hacknowledge.bind_silent fun _ => silent_pure _
  | reset => exact paces_reset.bind_silent fun _ => silent_pure _

/-- So does taking over a ring. -/
theorem paces_start : Paces (start : Action (Transport n ρ) TransportError Unit) := by
  have hinfo : Action.Keeps pace (queryInfo : Action (Transport n ρ) TransportError ControllerInfo) := fun t =>
    pace_of_core (keeps_of_commands commands_queryInfo t)
  have hlearn : ∀ info, Action.Keeps pace
      (Action.modify (fun t => { t with info }) : Action (Transport n ρ) TransportError Unit) := fun _ _ => rfl
  refine paces_returnAll.bind pace_returnAll fun _ => paces_queryInfo.bind hinfo fun info => ?_
  refine (silent_modify _).paces.bind (hlearn info) fun _ => (silent_notify _).paces.bind (Action.keeps_notify _) fun _ => ?_
  exact paces_pollDoorbell.bind_silent fun _ => silent_modify _

end Transport
end Digitizer
