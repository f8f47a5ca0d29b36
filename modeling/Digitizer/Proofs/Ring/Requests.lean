import Digitizer.Proofs.Ring.Commands

/-!
# Requests to the transport

`Started` and `Served` list once what can become of taking over a ring and of a request to it: the result, what is left of
the transport and what is done to the ring. Everything about runs of requests follows from these lists.
-/
namespace Digitizer.Transport
variable {n : Nat} {ρ : Type}

/-- What no request changes. -/
def settings (t : Transport n ρ) : ProbePolicy × ControllerInfo := (t.policy, t.info)

theorem settings_of_core {t u : Transport n ρ} (h : u.core = t.core) : u.settings = t.settings :=
  congrArg (fun c : Transport n Unit => c.settings) h

/-- With the same settings two transports differ in nothing but the doorbell. -/
theorem core_of_settings {t u : Transport n ρ} (h : u.settings = t.settings) :
    u.core = { t.core with doorbell := u.doorbell } := by
  obtain ⟨hpolicy, hinfo⟩ := Prod.mk.inj h
  rw [core, core, hpolicy, hinfo]

variable [Ring ρ]

theorem keeps_pollDoorbell : Action.Keeps settings (pollDoorbell : Action (Transport n ρ) TransportError UInt32) := by
  have hquery : Action.Keeps settings (queryDoorbell : Action (Transport n ρ) TransportError UInt32) := fun t =>
    settings_of_core (keeps_of_commands commands_queryDoorbell t)
  have hreturn : Action.Keeps settings (returnAll : Action (Transport n ρ) TransportError Unit) := fun t =>
    settings_of_core (returnAll_spec t).1
  have hlatch : ∀ found, Action.Keeps settings
      (Action.modify (fun t => { t with doorbell := found }) : Action (Transport n ρ) TransportError Unit) :=
    fun _ _ => rfl
  refine Action.keeps_bind hquery fun found => Action.keeps_bind Action.keeps_get fun t => ?_
  split
  · refine Action.keeps_bind ?_ fun _ => Action.keeps_pure found
    exact Action.keeps_bind Action.keeps_get fun t => Action.keeps_bind (Action.keeps_notify _) fun _ =>
      Action.keeps_bind hreturn fun _ => hlatch found
  · exact Action.keeps_pure found

theorem keeps_acknowledge : Action.Keeps settings (acknowledge : Action (Transport n ρ) TransportError Unit) := by
  have hgive : ∀ slot, Action.Keeps settings (giveBack slot : Action (Transport n ρ) TransportError Unit) :=
    fun slot t => settings_of_core (keeps_giveBack slot t)
  have hadvance : Action.Keeps settings
      (Action.modify (fun t => { t with doorbell := t.doorbell + 1 }) : Action (Transport n ρ) TransportError Unit) :=
    fun _ => rfl
  exact Action.keeps_bind Action.keeps_get fun t => Action.keeps_bind (hgive t.slot) fun _ => hadvance

/-! ## Taking over a ring -/

/-- What becomes of taking over a ring: the result, what is left of the transport, and what is done to the ring. -/
inductive Started (t : Transport n ρ) : Except TransportError Unit → Transport n Unit → Journal → Prop
  /-- A buffer is refused. -/
  | unflushed {k : Nat} (hk : k < n) (cause : Errno) :
    Started t (.error ⟨.feedback, cause⟩) t.core
      ((List.range k).map Entry.takenBack ++ [.call k (.feedback (.error cause))])
  /-- The controller does not tell its properties. -/
  | unknown (cause : Errno) :
    Started t (.error ⟨.info, cause⟩) t.core ((List.range n).map Entry.takenBack ++ [.call 0 (.info (.error cause))])
  /-- The hardware doorbell is refused. -/
  | unanswered (info : ControllerInfo) (cause : Errno) :
    Started t (.error ⟨.doorbell, cause⟩) { t.core with info }
      ((List.range n).map Entry.takenBack ++ [.call 0 (.info (.ok info)), .call 0 (.doorbell (.error cause))])
  /-- Counting starts at the hardware doorbell. -/
  | latched (info : ControllerInfo) (found : UInt32) :
    Started t (.ok ()) { t.core with info, doorbell := found }
      ((List.range n).map Entry.takenBack ++ [.call 0 (.info (.ok info)), .call 0 (.doorbell (.ok found))])

omit [Ring ρ] in
/-- Where a ring was taken over, the last that was done is the doorbell call whose answer is the local doorbell now. -/
theorem Started.getLast?_of_ok {t : Transport n ρ} {result : Except TransportError Unit} {left : Transport n Unit}
    {deeds : Journal} (h : Started t result left deeds) (ok : result = .ok ()) :
    deeds.getLast? = some (.call 0 (.doorbell (.ok left.doorbell))) := by
  cases h with
  | unflushed | unknown | unanswered => exact absurd ok (by simp)
  | latched info found => rw [List.getLast?_append]; rfl

omit [Ring ρ] in
theorem Started.policy {t : Transport n ρ} {result : Except TransportError Unit} {left : Transport n Unit}
    {deeds : Journal} (h : Started t result left deeds) : left.policy = t.policy := by
  cases h with
  | unflushed | unknown | unanswered | latched => rfl

omit [Ring ρ] in
theorem slot_of_new {t : Transport n ρ} (new : t.doorbell = 0) : t.slot = 0 := by
  rw [slot, new, UInt32.toNat_zero, Nat.zero_mod]

/-- A transport that counts from 0 does not find that the controller has started over. -/
theorem pollDoorbell_of_new {t : Transport n ρ} (new : t.doorbell = 0) : pollDoorbell t = queryDoorbell t := by
  have hnew : (queryDoorbell t).state.doorbell = 0 :=
    (doorbell_of_core (keeps_of_commands commands_queryDoorbell t)).trans new
  have hask : pollDoorbell t = (queryDoorbell >>= pure) t := by
    refine Action.bind_congr_right fun found _ => ?_
    rw [Action.get_bind, hnew, if_neg UInt32.not_lt_zero]
  rw [hask, bind_pure]

theorem latch_spec {t : Transport n ρ} (new : t.doorbell = 0) :
    let o := (pollDoorbell >>= fun found => Action.modify fun t => { t with doorbell := found }) t
    (∃ found, o.result = .ok () ∧ o.state.core = { t.core with doorbell := found } ∧
        o.journal.deeds = [.call 0 (.doorbell (.ok found))]) ∨
      ∃ cause, o.result = .error ⟨.doorbell, cause⟩ ∧ o.state.core = t.core ∧
        o.journal.deeds = [.call 0 (.doorbell (.error cause))] := by
  intro o
  have ho : o = (queryDoorbell >>= fun found => Action.modify fun t => { t with doorbell := found }) t :=
    Action.bind_congr_left (pollDoorbell_of_new new) _
  obtain ⟨answer, h⟩ := commands_queryDoorbell t
  rw [slot_of_new new] at h
  rw [ho]
  cases answer with
  | error cause =>
    rw [Action.bind_of_result_error h.result]
    exact Or.inr ⟨cause, rfl, h.core, h.deeds⟩
  | ok found =>
    rw [Action.bind_of_result_ok h.result, Journal.deeds_append, h.deeds]
    refine Or.inl ⟨found, rfl, ?_, rfl⟩
    exact congrArg (fun c : Transport n Unit => { c with doorbell := found }) h.core

theorem started {t : Transport n ρ} (new : t.doorbell = 0) :
    Started t (start t).result (start t).state.core (start t).journal.deeds := by
  rw [start]
  obtain ⟨hcore, ⟨hok, hgiven⟩ | ⟨k, hk, cause, herror, hgiven⟩⟩ := returnAll_spec t
  · obtain ⟨answer, h⟩ := commands_queryInfo (returnAll t).state
    rw [slot_of_core hcore, slot_of_new new] at h
    have hinfo := h.core.trans hcore
    rw [Action.bind_of_result_ok hok, Journal.deeds_append, hgiven]
    cases answer with
    | error cause =>
      rw [Action.bind_of_result_error h.result, hinfo, h.deeds]
      exact .unknown cause
    | ok info =>
      rw [Action.bind_of_result_ok h.result, Action.modify_bind, Journal.deeds_append, h.deeds]
      generalize (queryInfo (returnAll t).state).state = u at hinfo
      have hnew : u.doorbell = 0 := (doorbell_of_core hinfo).trans new
      have hconnected : ({ u with info } : Transport n ρ).core = { t.core with info } :=
        congrArg (fun c : Transport n Unit => ({ c with info } : Transport n Unit)) hinfo
      rw [Action.notify_bind, Journal.deeds_notice]
      rcases latch_spec (t := { u with info }) hnew with ⟨found, hok, hcore, hdeeds⟩ | ⟨cause, herror, hcore, hdeeds⟩
      · rw [hok, hcore, hdeeds, hconnected]
        exact .latched info found
      · rw [herror, hcore, hdeeds, hconnected]
        exact .unanswered info cause
  · rw [Action.bind_of_result_error herror, hcore, hgiven]
    exact .unflushed hk cause

/-! ## One request -/

/-- What becomes of a request: the result, the local doorbell after it, and what is done to the ring. -/
inductive Served (t : Transport n ρ) : Request → Except TransportError Answer → UInt32 → Journal → Prop
  | doorbell {result : Except TransportError UInt32} {next : UInt32} {deeds : Journal}
      (h : Polled t result next deeds) : Served t .doorbell (result.map .doorbell) next deeds
  | read (room : Nat) (answer : Except Errno Bytes) :
    Served t (.read room) ((answer.mapError (⟨.read, ·⟩)).map .read) t.doorbell [.call t.slot (.read room answer)]
  | acknowledged : Served t .feedback (.ok .done) (t.doorbell + 1) [Entry.takenBack t.slot]
  | unacknowledged (cause : Errno) :
    Served t .feedback (.error ⟨.feedback, cause⟩) t.doorbell [.call t.slot (.feedback (.error cause))]
  | reset (answer : Except Errno Unit) :
    Served t .reset ((answer.mapError (⟨.reset, ·⟩)).map fun _ => .done) t.doorbell [.call t.slot (.reset answer)]

theorem served (r : Request) (t : Transport n ρ) :
    Served t r (serve r t).result (serve r t).state.doorbell (serve r t).journal.deeds := by
  cases r with
  | doorbell =>
    rw [serve, Action.bind_pure_of]
    exact .doorbell (polled t)
  | read room =>
    obtain ⟨answer, h⟩ := commands_read room t
    rw [serve, Action.bind_pure_of, h.result, h.deeds, doorbell_of_core h.core]
    exact .read room answer
  | feedback =>
    rw [serve, Action.bind_const]
    rcases acknowledge_spec t with ⟨hok, hnext, hdeeds⟩ | ⟨cause, herror, hnext, hdeeds⟩
    · rw [hok, hnext, hdeeds]
      exact .acknowledged
    · rw [herror, hnext, hdeeds]
      exact .unacknowledged cause
  | reset =>
    obtain ⟨answer, h⟩ := commands_reset t
    rw [serve, Action.bind_const, h.result, h.deeds, doorbell_of_core h.core]
    exact .reset answer

/-! ## Runs of requests -/

/-- The transport after a request. -/
def after (t : Transport n ρ) (r : Request) : Transport n ρ := (serve r t).state

/-- The transport after requests one after another, each whether or not the ones before it have failed. -/
def afterAll (t : Transport n ρ) (rs : List Request) : Transport n ρ := rs.foldl after t

@[simp] theorem afterAll_nil (t : Transport n ρ) : t.afterAll [] = t := rfl
@[simp] theorem afterAll_cons (t : Transport n ρ) (r : Request) (rs : List Request) :
    t.afterAll (r :: rs) = (t.after r).afterAll rs := rfl

theorem settings_after (t : Transport n ρ) (r : Request) : (t.after r).settings = t.settings := by
  rw [after]
  cases r with
  | doorbell =>
    rw [serve, Action.bind_pure_of]
    exact keeps_pollDoorbell t
  | read room =>
    rw [serve, Action.bind_pure_of]
    exact settings_of_core (keeps_of_commands (commands_read room) t)
  | feedback =>
    rw [serve, Action.bind_const]
    exact keeps_acknowledge t
  | reset =>
    rw [serve, Action.bind_const]
    exact settings_of_core (keeps_of_commands commands_reset t)

theorem settings_afterAll (t : Transport n ρ) (rs : List Request) : (t.afterAll rs).settings = t.settings := by
  induction rs generalizing t with
  | nil => rfl
  | cons r rs ih => exact (ih (t.after r)).trans (settings_after t r)

/-- The journal of a run. -/
def transcript (t : Transport n ρ) : List Request → Journal
  | [] => []
  | r :: rs => (serve r t).journal ++ (t.after r).transcript rs

@[simp] theorem transcript_nil (t : Transport n ρ) : t.transcript [] = [] := rfl
@[simp] theorem transcript_cons (t : Transport n ρ) (r : Request) (rs : List Request) :
    t.transcript (r :: rs) = (serve r t).journal ++ (t.after r).transcript rs := rfl

end Digitizer.Transport
