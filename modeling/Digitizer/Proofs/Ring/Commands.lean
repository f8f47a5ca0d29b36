import Digitizer.Proofs.Sequencing
import Digitizer.Ring.Transport

/-!
# What commands do to the ring

Every command waits for the controller and then makes one call, whose answer it passes on. The deeds of a journal are what
is left when probes and log records are taken out. `polled` says what the doorbell call does: it gives all buffers back
exactly when the hardware counts from an earlier number than the transport.
-/
namespace Digitizer

/-- A probe or a log record. -/
def Entry.isWait : Entry → Bool
  | .notice _ | .call _ (.ready _) => true
  | _ => false

/-- The entries of a journal that are neither probes nor log records. -/
def Journal.deeds (j : Journal) : Journal := j.filter (!·.isWait)

@[simp] theorem Journal.deeds_append (j k : Journal) : Journal.deeds (j ++ k) = j.deeds ++ k.deeds :=
  List.filter_append j k

@[simp] theorem Journal.deeds_notice (n : Notice) (j : Journal) : Journal.deeds (.notice n :: j) = j.deeds := rfl

theorem Journal.deeds_of_waits {j : Journal} (h : ∀ e ∈ j, e.isWait = true) : j.deeds = [] := by
  refine List.filter_eq_nil_iff.2 fun e he => ?_
  simp [h e he]

/-- What holds of probes, log records and deeds holds of every entry. -/
theorem Journal.forall_of_deeds {kind : Entry → Prop} (waits : ∀ e : Entry, e.isWait = true → kind e) {j : Journal}
    (h : ∀ e ∈ j.deeds, kind e) : ∀ e ∈ j, kind e := by
  intro e he
  cases hwait : e.isWait with
  | true => exact waits e hwait
  | false => exact h e (List.mem_filter.2 ⟨he, by simp [hwait]⟩)

/-- A view that shows neither probes nor log records is the same without them. -/
theorem Journal.filterMap_deeds {α : Type} {view : Entry → Option α} (notice : ∀ n, view (.notice n) = none)
    (ready : ∀ slot answer, view (.call slot (.ready answer)) = none) (j : Journal) :
    j.deeds.filterMap view = j.filterMap view := by
  have hwait : ∀ e : Entry, e.isWait = true → view e = none := by
    intro e he
    cases e with
    | notice n => exact notice n
    | call slot c =>
      cases c with
      | ready answer => exact ready slot answer
      | info | doorbell | feedback | reset | read => exact absurd he Bool.false_ne_true
    | detection | emitted | refused => exact absurd he Bool.false_ne_true
  have hview : (fun e => if (!e.isWait) = true then view e else none) = view := by
    funext e
    cases he : e.isWait with
    | true => exact (hwait e he).symm
    | false => rfl
  rw [deeds, List.filterMap_filter, hview]

/-- A buffer is given back, and the ring takes it. -/
def Entry.takenBack (slot : Nat) : Entry := .call slot (.feedback (.ok ()))

namespace Transport
variable {n : Nat} {ρ ε α β : Type}

/-- The transport without its ring. -/
def core (t : Transport n ρ) : Transport n Unit := { t with ring := () }

theorem doorbell_of_core {t u : Transport n ρ} (h : u.core = t.core) : u.doorbell = t.doorbell :=
  congrArg (fun c : Transport n Unit => c.doorbell) h

theorem slot_of_core {t u : Transport n ρ} (h : u.core = t.core) : u.slot = t.slot := by
  rw [slot, slot, doorbell_of_core h]

/-! ## Waiting -/

/-- An action that only probes and tells the log. -/
structure Waits (p : Action (Transport n ρ) ε α) : Prop where
  total : Action.Total p
  keeps : Action.Keeps core p
  logs : Action.Logs (fun e => e.isWait = true) p

theorem waits_pure (a : α) : Waits (pure a : Action (Transport n ρ) ε α) :=
  ⟨Action.total_pure a, Action.keeps_pure a, Action.logs_pure a⟩

theorem waits_get : Waits (Action.get : Action (Transport n ρ) ε (Transport n ρ)) :=
  ⟨Action.total_get, Action.keeps_get, Action.logs_get⟩

theorem waits_notify (m : Notice) : Waits (Action.notify m : Action (Transport n ρ) ε Unit) :=
  ⟨Action.total_notify m, Action.keeps_notify m, Action.logs_notify rfl⟩

theorem Waits.bind {p : Action (Transport n ρ) ε α} {f : α → Action (Transport n ρ) ε β} (hp : Waits p)
    (hf : ∀ a, Waits (f a)) : Waits (p >>= f) :=
  ⟨Action.total_bind hp.total fun a => (hf a).total, Action.keeps_bind hp.keeps fun a => (hf a).keeps,
    Action.logs_bind hp.logs fun a => (hf a).logs⟩

/-! ## Commands -/

/-- One command that makes one call, whose answer it passes on. Nothing but the ring changes. -/
structure Commands (p : Action (Transport n ρ) TransportError α) (t : Transport n ρ) (command : Command)
    (answer : Except Errno α) (entry : Entry) : Prop where
  result : (p t).result = answer.mapError (⟨command, ·⟩)
  core : (p t).state.core = t.core
  deeds : (p t).journal.deeds = [entry]

theorem Commands.get {f : Transport n ρ → Action (Transport n ρ) TransportError α} {t : Transport n ρ}
    {command : Command} {answer : Except Errno α} {entry : Entry} (h : Commands (f t) t command answer entry) :
    Commands (Action.get >>= f) t command answer entry := ⟨h.result, h.core, h.deeds⟩

/-- A command leaves everything but the ring. -/
theorem keeps_of_commands {p : Action (Transport n ρ) TransportError α} {command : Command}
    {entry : Transport n ρ → Except Errno α → Entry}
    (h : ∀ t, ∃ answer, Commands p t command answer (entry t answer)) : Action.Keeps Transport.core p := by
  intro t
  obtain ⟨answer, h⟩ := h t
  exact h.core

/-- A command may wait before its call. -/
theorem Waits.commands {p : Action (Transport n ρ) TransportError β}
    {f : β → Action (Transport n ρ) TransportError α} (hp : Waits p) {t : Transport n ρ} {command : Command}
    {entry : Except Errno α → Entry}
    (hf : ∀ b u, u.core = t.core → ∃ answer, Commands (f b) u command answer (entry answer)) :
    ∃ answer, Commands (p >>= f) t command answer (entry answer) := by
  obtain ⟨b, hb⟩ := hp.total t
  have hcore := hp.keeps t
  obtain ⟨answer, h⟩ := hf b (p t).state hcore
  have hbind := Action.bind_of_result_ok hb f
  refine ⟨answer, ?_, ?_, ?_⟩
  · rw [hbind]
    exact h.result
  · rw [hbind]
    exact h.core.trans hcore
  · rw [hbind, Journal.deeds_append, Journal.deeds_of_waits (hp.logs t)]
    exact h.deeds

theorem commands_issue (command : Command) (slot : Nat) (call : ρ → Except Errno α × ρ) (record : Except Errno α → Call)
    (deed : ∀ answer, (Entry.call slot (record answer)).isWait = false) (t : Transport n ρ) :
    ∃ answer, Commands (issue command slot call record) t command answer (.call slot (record answer)) := by
  refine ⟨(call t.ring).1, rfl, rfl, ?_⟩
  simp [issue, Journal.deeds, deed]

variable [Ring ρ]

theorem waits_probe : Waits (probe : Action (Transport n ρ) ε Bool) where
  total := fun _ => ⟨_, rfl⟩
  keeps := fun _ => rfl
  logs := by
    intro t e he
    obtain rfl := List.mem_singleton.1 he
    rfl

theorem waits_probeUpTo (attempts : Nat) : Waits (probeUpTo attempts : Action (Transport n ρ) ε Bool) := by
  induction attempts with
  | zero => exact waits_pure false
  | succ attempts ih =>
    refine waits_probe.bind fun ready => ?_
    split
    · exact waits_pure true
    · exact ih

theorem waits_awaitReady : Waits (awaitReady : Action (Transport n ρ) ε Unit) := by
  refine waits_get.bind fun t => (waits_probeUpTo t.policy.attempts).bind fun ready => ?_
  split
  · exact waits_pure ()
  · exact waits_notify _

theorem commands_giveBack (slot : Nat) (t : Transport n ρ) :
    ∃ answer, Commands (giveBack slot) t .feedback answer (.call slot (.feedback answer)) :=
  waits_awaitReady.commands fun _ u _ => commands_issue .feedback slot _ .feedback (fun _ => rfl) u

theorem keeps_giveBack (slot : Nat) : Action.Keeps core (giveBack slot : Action (Transport n ρ) TransportError Unit) :=
  keeps_of_commands (commands_giveBack slot)

theorem commands_queryDoorbell (t : Transport n ρ) :
    ∃ answer, Commands queryDoorbell t .doorbell answer (.call t.slot (.doorbell answer)) := by
  refine waits_awaitReady.commands fun _ u hu => ?_
  rw [← slot_of_core hu]
  obtain ⟨answer, h⟩ := commands_issue .doorbell u.slot (Ring.doorbell · u.slot) .doorbell (fun _ => rfl) u
  exact ⟨answer, h.get⟩

theorem commands_read (room : Nat) (t : Transport n ρ) :
    ∃ answer, Commands (read room) t .read answer (.call t.slot (.read room answer)) := by
  refine waits_awaitReady.commands fun _ u hu => ?_
  rw [← slot_of_core hu]
  obtain ⟨answer, h⟩ := commands_issue .read u.slot (Ring.read · u.slot room) (.read room) (fun _ => rfl) u
  exact ⟨answer, h.get⟩

theorem commands_queryInfo (t : Transport n ρ) :
    ∃ answer, Commands queryInfo t .info answer (.call t.slot (.info answer)) := by
  refine waits_awaitReady.commands fun _ u hu => ?_
  rw [← slot_of_core hu]
  obtain ⟨answer, h⟩ := commands_issue .info u.slot (Ring.info · u.slot) .info (fun _ => rfl) u
  exact ⟨answer, h.get⟩

theorem commands_reset (t : Transport n ρ) :
    ∃ answer, Commands reset t .reset answer (.call t.slot (.reset answer)) := by
  refine waits_awaitReady.commands fun _ u hu => (waits_notify _).commands fun _ v hv => ?_
  rw [← slot_of_core (hv.trans hu)]
  obtain ⟨answer, h⟩ := commands_issue .reset v.slot (Ring.reset · v.slot) .reset (fun _ => rfl) v
  exact ⟨answer, h.get⟩

/-! ## Giving buffers back -/

/-- The current buffer is given back, and only then the transport moves on. -/
theorem acknowledge_spec (t : Transport n ρ) :
    let o := acknowledge t
    (o.result = .ok () ∧ o.state.doorbell = t.doorbell + 1 ∧ o.journal.deeds = [Entry.takenBack t.slot]) ∨
      ∃ cause, o.result = .error ⟨.feedback, cause⟩ ∧ o.state.doorbell = t.doorbell ∧
        o.journal.deeds = [.call t.slot (.feedback (.error cause))] := by
  intro o
  obtain ⟨answer, h⟩ := commands_giveBack t.slot t
  have ho : o = (giveBack t.slot >>= fun _ => Action.modify fun t => { t with doorbell := t.doorbell + 1 }) t := rfl
  rw [ho]
  have hdoorbell := doorbell_of_core h.core
  cases answer with
  | ok a =>
    left
    rw [Action.bind_of_result_ok h.result, Journal.deeds_append, h.deeds]
    exact ⟨rfl, congrArg (· + 1) hdoorbell, rfl⟩
  | error cause =>
    right
    rw [Action.bind_of_result_error h.result]
    exact ⟨cause, rfl, hdoorbell, h.deeds⟩

/-- Buffers are given back in order, up to the first that the ring refuses. -/
inductive GivenBack : List Nat → Except TransportError Unit → Journal → Prop
  | all (slots : List Nat) : GivenBack slots (.ok ()) (slots.map Entry.takenBack)
  | refused (before : List Nat) (slot : Nat) (after : List Nat) (cause : Errno) :
    GivenBack (before ++ slot :: after) (.error ⟨.feedback, cause⟩)
      (before.map Entry.takenBack ++ [.call slot (.feedback (.error cause))])

theorem givenBack_each (slots : List Nat) (t : Transport n ρ) :
    GivenBack slots (Action.each giveBack slots t).result (Action.each giveBack slots t).journal.deeds ∧
      (Action.each giveBack slots t).state.core = t.core := by
  induction slots generalizing t with
  | nil => exact ⟨.all [], rfl⟩
  | cons slot slots ih =>
    obtain ⟨answer, h⟩ := commands_giveBack slot t
    rw [Action.each_cons]
    cases answer with
    | error cause =>
      rw [Action.bind_of_result_error h.result, h.deeds]
      exact ⟨.refused [] slot slots cause, h.core⟩
    | ok a =>
      obtain ⟨hrest, hcore⟩ := ih (giveBack slot t).state
      rw [Action.bind_of_result_ok h.result, Journal.deeds_append, h.deeds]
      refine ⟨?_, hcore.trans h.core⟩
      generalize (Action.each giveBack slots (giveBack slot t).state).result = result at hrest ⊢
      generalize (Action.each giveBack slots (giveBack slot t).state).journal.deeds = deeds at hrest ⊢
      cases hrest with
      | all => exact .all (slot :: slots)
      | refused before last after cause => exact .refused (slot :: before) last after cause

/-- Giving all buffers back stops at the first slot that the ring refuses. -/
theorem GivenBack.range {result : Except TransportError Unit} {deeds : Journal}
    (h : GivenBack (List.range n) result deeds) :
    (result = .ok () ∧ deeds = (List.range n).map Entry.takenBack) ∨
      ∃ k < n, ∃ cause, result = .error ⟨.feedback, cause⟩ ∧
        deeds = (List.range k).map Entry.takenBack ++ [.call k (.feedback (.error cause))] := by
  generalize hslots : List.range n = slots at h
  cases h with
  | all => exact Or.inl ⟨rfl, rfl⟩
  | refused before slot after cause =>
    have hlen : before.length < n := by
      have hlength := congrArg List.length hslots
      rw [List.length_range, List.length_append, List.length_cons] at hlength
      omega
    have hbefore : before = List.range before.length := by
      have htake := congrArg (List.take before.length) hslots
      rw [List.take_left', List.take_range, Nat.min_eq_left (Nat.le_of_lt hlen)] at htake
      · exact htake.symm
      · rfl
    have hslot : slot = before.length := by
      have hget := congrArg (·[before.length]?) hslots
      simpa [hlen] using hget.symm
    rw [hslot, hbefore, List.length_range]
    exact Or.inr ⟨before.length, hlen, cause, rfl, rfl⟩

theorem returnAll_spec (t : Transport n ρ) :
    let o := returnAll t
    o.state.core = t.core ∧
      ((o.result = .ok () ∧ o.journal.deeds = (List.range n).map Entry.takenBack) ∨
        ∃ k < n, ∃ cause, o.result = .error ⟨.feedback, cause⟩ ∧
          o.journal.deeds = (List.range k).map Entry.takenBack ++ [.call k (.feedback (.error cause))]) := by
  intro o
  obtain ⟨hgiven, hcore⟩ := givenBack_each (List.range n) t
  exact ⟨hcore, hgiven.range⟩

/-! ## The doorbell call -/

/-- What the doorbell call answers, the local doorbell after it, and what it does. -/
inductive Polled (t : Transport n ρ) : Except TransportError UInt32 → UInt32 → Journal → Prop
  | refused (cause : Errno) :
    Polled t (.error ⟨.doorbell, cause⟩) t.doorbell [.call t.slot (.doorbell (.error cause))]
  | ahead {found : UInt32} (h : t.doorbell ≤ found) :
    Polled t (.ok found) t.doorbell [.call t.slot (.doorbell (.ok found))]
  | behind {found : UInt32} (h : found < t.doorbell) :
    Polled t (.ok found) found (.call t.slot (.doorbell (.ok found)) :: (List.range n).map Entry.takenBack)
  | interrupted {found : UInt32} (h : found < t.doorbell) {k : Nat} (hk : k < n) (cause : Errno) :
    Polled t (.error ⟨.feedback, cause⟩) t.doorbell
      (.call t.slot (.doorbell (.ok found)) ::
        ((List.range k).map Entry.takenBack ++ [.call k (.feedback (.error cause))]))

theorem resynchronise_spec (found : UInt32) (t : Transport n ρ) :
    let o := resynchronise found t
    (o.result = .ok () ∧ o.state.doorbell = found ∧ o.journal.deeds = (List.range n).map Entry.takenBack) ∨
      ∃ k < n, ∃ cause, o.result = .error ⟨.feedback, cause⟩ ∧ o.state.doorbell = t.doorbell ∧
        o.journal.deeds = (List.range k).map Entry.takenBack ++ [.call k (.feedback (.error cause))] := by
  intro o
  have ho : o = (Action.notify (.doorbellRegressed t.doorbell found) >>= fun _ => returnAll >>= fun _ =>
      Action.modify fun t => { t with doorbell := found }) t := rfl
  rw [ho, Action.notify_bind, Journal.deeds_notice]
  obtain ⟨hcore, ⟨hok, hdeeds⟩ | ⟨k, hk, cause, herror, hdeeds⟩⟩ := returnAll_spec t
  · left
    rw [Action.bind_of_result_ok hok, Journal.deeds_append, hdeeds]
    exact ⟨rfl, rfl, List.append_nil _⟩
  · right
    rw [Action.bind_of_result_error herror]
    exact ⟨k, hk, cause, rfl, doorbell_of_core hcore, hdeeds⟩

theorem polled (t : Transport n ρ) :
    Polled t (pollDoorbell t).result (pollDoorbell t).state.doorbell (pollDoorbell t).journal.deeds := by
  obtain ⟨answer, h⟩ := commands_queryDoorbell t
  have hdoorbell := doorbell_of_core h.core
  rw [pollDoorbell]
  cases answer with
  | error cause =>
    rw [Action.bind_of_result_error h.result, h.deeds, hdoorbell]
    exact .refused cause
  | ok found =>
    rw [Action.bind_of_result_ok h.result, Action.get_bind, hdoorbell, Journal.deeds_append, h.deeds]
    by_cases hfound : found < t.doorbell
    · rw [if_pos hfound]
      rcases resynchronise_spec found (queryDoorbell t).state with
        ⟨hok, hlocal, hdeeds⟩ | ⟨k, hk, cause, herror, hlocal, hdeeds⟩
      · rw [Action.bind_of_result_ok hok, Action.pure_apply, List.append_nil, hlocal, hdeeds]
        exact .behind hfound
      · rw [Action.bind_of_result_error herror]
        simp only [hlocal, hdoorbell, hdeeds]
        exact .interrupted hfound hk cause
    · rw [if_neg hfound, Action.pure_apply, hdoorbell]
      exact .ahead (UInt32.not_lt.1 hfound)

end Transport
end Digitizer
