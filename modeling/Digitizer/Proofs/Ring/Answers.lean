import Digitizer.Proofs.Ring.Accounting
import Digitizer.Proofs.Ring.Waiting
import Mathlib.Control.Monad.Basic

/-!
# What the answers to commands decide

Two transports over two rings do the same as long as the rings answer the commands alike, whatever they answer to probes and
however often they are probed. `Determined` says so of one action on both sides. It is closed under the ways of building
actions, so it holds of every request, and from that of every run.
-/
namespace Digitizer

deriving instance DecidableEq for Call

/-- Two calls of one command, with any answers. Probes are not commands. -/
inductive Call.SameCommand : Call → Call → Prop
  | info (a b : Except Errno ControllerInfo) : SameCommand (.info a) (.info b)
  | doorbell (a b : Except Errno UInt32) : SameCommand (.doorbell a) (.doorbell b)
  | feedback (a b : Except Errno Unit) : SameCommand (.feedback a) (.feedback b)
  | reset (a b : Except Errno Unit) : SameCommand (.reset a) (.reset b)
  | read (room : Nat) (a b : Except Errno Bytes) : SameCommand (.read room a) (.read room b)

namespace Journal

/-- Where two runs have done the same so far and go on with one command, they get the same answer. -/
def AnsweredAlike (j k : Journal) : Prop :=
  ∀ before slot c d, before ++ [.call slot c] <+: j.deeds → before ++ [.call slot d] <+: k.deeds → c.SameCommand d → c = d

theorem prefix_deeds {j k : Journal} (h : j <+: k) : j.deeds <+: k.deeds := h.filter _

theorem AnsweredAlike.of_prefix {j k j' k' : Journal} (h : AnsweredAlike j' k') (hj : j <+: j') (hk : k <+: k') :
    AnsweredAlike j k :=
  fun before slot c d hc hd => h before slot c d (hc.trans (prefix_deeds hj)) (hd.trans (prefix_deeds hk))

/-- After the same deeds, what follows is answered alike. -/
theorem AnsweredAlike.rest {j k j' k' : Journal} (h : AnsweredAlike (j ++ j') (k ++ k')) (same : j.deeds = k.deeds) :
    AnsweredAlike j' k' := by
  intro before slot c d hc hd
  refine h (j.deeds ++ before) slot c d ?_ ?_
  · rw [deeds_append, List.append_assoc]
    exact (List.prefix_append_right_inj j.deeds).2 hc
  · rw [deeds_append, same, List.append_assoc]
    exact (List.prefix_append_right_inj k.deeds).2 hd

/-- Runs that make the same commands, with the same answers, were answered alike. -/
theorem AnsweredAlike.of_calls {j k : Journal} (same : j.deeds.calls = k.deeds.calls) : AnsweredAlike j k := by
  intro before slot c d hc hd _
  have hprefix : ∀ {last : Call} {deeds : Journal}, before ++ [.call slot last] <+: deeds →
      Journal.calls before ++ [(slot, last)] <+: deeds.calls := by
    intro last deeds h
    have hcalls := h.filterMap Entry.call?
    rw [List.filterMap_append] at hcalls
    exact hcalls
  have hc := hprefix hc
  have hd := hprefix hd
  rw [← same] at hd
  have heq := (List.prefix_of_prefix_length_le hc hd (by simp)).eq_of_length (by simp)
  exact (Prod.mk.inj (List.singleton_inj.1 (List.append_cancel_left heq))).2

end Journal

namespace Transport
variable {n : Nat} {ρ ρ' ε α β : Type}

/-- What a transport knows of the controller: its properties, and the local doorbell. -/
def standing (t : Transport n ρ) : ControllerInfo × UInt32 := (t.info, t.doorbell)

theorem standing_of_core {t u : Transport n ρ} (h : u.core = t.core) : u.standing = t.standing :=
  congrArg (fun c : Transport n Unit => c.standing) h

theorem doorbell_of_standing {t : Transport n ρ} {u : Transport n ρ'} (h : t.standing = u.standing) :
    t.doorbell = u.doorbell :=
  congrArg Prod.snd h

theorem slot_of_standing {t : Transport n ρ} {u : Transport n ρ'} (h : t.standing = u.standing) : t.slot = u.slot := by
  rw [slot, slot, doorbell_of_standing h]

/-- Two outcomes that differ in nothing but probes, log records, the rings and the policies. -/
structure Matches (o : Outcome (Transport n ρ) ε α) (o' : Outcome (Transport n ρ') ε α) : Prop where
  result : o.result = o'.result
  standing : o.state.standing = o'.state.standing
  deeds : o.journal.deeds = o'.journal.deeds

/-- As long as two rings answer alike, two actions come to the same. -/
def Determined (p : Action (Transport n ρ) ε α) (q : Action (Transport n ρ') ε α) : Prop :=
  ∀ t u, t.standing = u.standing → Journal.AnsweredAlike (p t).journal (q u).journal → Matches (p t) (q u)

theorem determined_pure (a : α) :
    Determined (pure a : Action (Transport n ρ) ε α) (pure a : Action (Transport n ρ') ε α) :=
  fun _ _ h _ => ⟨rfl, h, rfl⟩

theorem determined_notify (m : Notice) :
    Determined (Action.notify m : Action (Transport n ρ) ε Unit) (Action.notify m : Action (Transport n ρ') ε Unit) :=
  fun _ _ h _ => ⟨rfl, h, rfl⟩

theorem determined_modify {f : Transport n ρ → Transport n ρ} {g : Transport n ρ' → Transport n ρ'}
    (h : ∀ t u, t.standing = u.standing → (f t).standing = (g u).standing) :
    Determined (Action.modify f : Action (Transport n ρ) ε Unit) (Action.modify g : Action (Transport n ρ') ε Unit) :=
  fun t u hstanding _ => ⟨rfl, h t u hstanding, rfl⟩

/-- Both local doorbells are set to one number. -/
theorem determined_latch (found : UInt32) :
    Determined (Action.modify fun t => { t with doorbell := found } : Action (Transport n ρ) ε Unit)
      (Action.modify fun t => { t with doorbell := found } : Action (Transport n ρ') ε Unit) :=
  determined_modify fun _ _ h => congrArg (fun known => (known.1, found)) h

/-- Waiting comes to nothing on either side. -/
theorem Waits.determined {p : Action (Transport n ρ) ε Unit} {q : Action (Transport n ρ') ε Unit} (hp : Waits p)
    (hq : Waits q) : Determined p q := by
  intro t u hstanding _
  obtain ⟨_, ht⟩ := hp.total t
  obtain ⟨_, hu⟩ := hq.total u
  refine ⟨ht.trans hu.symm, ?_, ?_⟩
  · rw [standing_of_core (hp.keeps t), standing_of_core (hq.keeps u), hstanding]
  · rw [Journal.deeds_of_waits (hp.logs t), Journal.deeds_of_waits (hq.logs u)]

theorem Determined.get_bind {f : Transport n ρ → Action (Transport n ρ) ε β}
    {g : Transport n ρ' → Action (Transport n ρ') ε β}
    (h : ∀ t u, t.standing = u.standing → Determined (f t) (g u)) : Determined (Action.get >>= f) (Action.get >>= g) :=
  fun t u hstanding alike => h t u hstanding t u hstanding alike

theorem Determined.bind {p : Action (Transport n ρ) ε α} {q : Action (Transport n ρ') ε α}
    {f : α → Action (Transport n ρ) ε β} {g : α → Action (Transport n ρ') ε β} (h : Determined p q)
    (hrest : ∀ a, Determined (f a) (g a)) : Determined (p >>= f) (q >>= g) := by
  intro t u hstanding alike
  have hfirst := h t u hstanding (alike.of_prefix (Action.journal_prefix_bind p f t) (Action.journal_prefix_bind q g u))
  cases hresult : (p t).result with
  | error e =>
    rw [Action.bind_of_result_error hresult, Action.bind_of_result_error (hfirst.result.symm.trans hresult)]
    exact ⟨rfl, hfirst.standing, hfirst.deeds⟩
  | ok a =>
    rw [Action.bind_of_result_ok hresult, Action.bind_of_result_ok (hfirst.result.symm.trans hresult)] at alike ⊢
    obtain ⟨hlast, hafter, hdeeds⟩ := hrest a _ _ hfirst.standing (alike.rest hfirst.deeds)
    refine ⟨hlast, hafter, ?_⟩
    rw [Journal.deeds_append, Journal.deeds_append, hfirst.deeds, hdeeds]

theorem determined_each {f : β → Action (Transport n ρ) ε Unit} {g : β → Action (Transport n ρ') ε Unit}
    (h : ∀ b, Determined (f b) (g b)) (bs : List β) : Determined (Action.each f bs) (Action.each g bs) := by
  induction bs with
  | nil => exact determined_pure ()
  | cons b bs ih => exact (h b).bind fun _ => ih

/-- One call on the same slot of both rings. -/
theorem determined_issue (command : Command) {slot slot' : Nat} (here : slot = slot') (call : ρ → Except Errno α × ρ)
    (call' : ρ' → Except Errno α × ρ') {record : Except Errno α → Call} (injective : ∀ a b, record a = record b → a = b)
    (same : ∀ a b, (record a).SameCommand (record b)) :
    Determined (issue command slot call record : Action (Transport n ρ) TransportError α)
      (issue command slot' call' record : Action (Transport n ρ') TransportError α) := by
  subst here
  intro t u hstanding alike
  have hdeed : ∀ a, [.call slot (record a)] <+: Journal.deeds [.call slot (record a)] := by
    intro a
    have hcommand := same a a
    generalize record a = c at hcommand
    cases hcommand <;> exact List.prefix_rfl
  -- Both journals are one call, so they are answered alike only if the answers are equal.
  have hanswer : (call t.ring).1 = (call' u.ring).1 :=
    injective _ _ (alike [] slot _ _ (hdeed _) (hdeed _) (same _ _))
  refine ⟨?_, hstanding, ?_⟩
  · exact congrArg (fun a => a.mapError (⟨command, ·⟩ : Errno → TransportError)) hanswer
  · exact congrArg (fun a => Journal.deeds [.call slot (record a)]) hanswer

/-! ## The requests -/

variable [Ring ρ] [Ring ρ']

theorem determined_awaitReady :
    Determined (awaitReady : Action (Transport n ρ) ε Unit) (awaitReady : Action (Transport n ρ') ε Unit) :=
  waits_awaitReady.determined waits_awaitReady

theorem determined_giveBack {slot slot' : Nat} (here : slot = slot') :
    Determined (giveBack slot : Action (Transport n ρ) TransportError Unit)
      (giveBack slot' : Action (Transport n ρ') TransportError Unit) :=
  determined_awaitReady.bind fun _ => determined_issue .feedback here _ _ (fun _ _ => Call.feedback.inj) .feedback

theorem determined_returnAll :
    Determined (returnAll : Action (Transport n ρ) TransportError Unit)
      (returnAll : Action (Transport n ρ') TransportError Unit) :=
  determined_each (fun _ => determined_giveBack rfl) _

theorem determined_queryInfo :
    Determined (queryInfo : Action (Transport n ρ) TransportError ControllerInfo)
      (queryInfo : Action (Transport n ρ') TransportError ControllerInfo) :=
  determined_awaitReady.bind fun _ => .get_bind fun _ _ h =>
    determined_issue .info (slot_of_standing h) _ _ (fun _ _ => Call.info.inj) .info

theorem determined_resynchronise (found : UInt32) :
    Determined (resynchronise found : Action (Transport n ρ) TransportError Unit)
      (resynchronise found : Action (Transport n ρ') TransportError Unit) := by
  refine .get_bind fun t u h => ?_
  rw [doorbell_of_standing h]
  exact (determined_notify _).bind fun _ => determined_returnAll.bind fun _ => determined_latch found

theorem determined_pollDoorbell :
    Determined (pollDoorbell : Action (Transport n ρ) TransportError UInt32)
      (pollDoorbell : Action (Transport n ρ') TransportError UInt32) := by
  have hquery : Determined (queryDoorbell : Action (Transport n ρ) TransportError UInt32)
      (queryDoorbell : Action (Transport n ρ') TransportError UInt32) :=
    determined_awaitReady.bind fun _ => .get_bind fun _ _ h =>
      determined_issue .doorbell (slot_of_standing h) _ _ (fun _ _ => Call.doorbell.inj) .doorbell
  refine hquery.bind fun found => .get_bind fun t u h => ?_
  -- The local doorbells are equal, so both go the same way.
  rw [doorbell_of_standing h]
  split
  · exact (determined_resynchronise found).bind fun _ => determined_pure found
  · exact determined_pure found

theorem determined_serve (r : Request) :
    Determined (serve r : Action (Transport n ρ) TransportError Answer)
      (serve r : Action (Transport n ρ') TransportError Answer) := by
  cases r with
  | doorbell => exact determined_pollDoorbell.bind fun found => determined_pure (Answer.doorbell found)
  | read room =>
    refine .bind (determined_awaitReady.bind fun _ => .get_bind fun _ _ h => ?_)
      fun frame => determined_pure (Answer.read frame)
    exact determined_issue .read (slot_of_standing h) _ _ (fun _ _ heq => (Call.read.inj heq).2) (.read room)
  | feedback =>
    refine .bind (.get_bind fun _ _ h => (determined_giveBack (slot_of_standing h)).bind fun _ => ?_)
      fun _ => determined_pure Answer.done
    exact determined_modify fun _ _ h => congrArg (fun known => (known.1, known.2 + 1)) h
  | reset =>
    refine .bind (determined_awaitReady.bind fun _ => (determined_notify _).bind fun _ => .get_bind fun _ _ h => ?_)
      fun _ => determined_pure Answer.done
    exact determined_issue .reset (slot_of_standing h) _ _ (fun _ _ => Call.reset.inj) .reset

theorem determined_start :
    Determined (start : Action (Transport n ρ) TransportError Unit)
      (start : Action (Transport n ρ') TransportError Unit) := by
  refine determined_returnAll.bind fun _ => determined_queryInfo.bind fun info => ?_
  refine .bind (determined_modify fun _ _ h => congrArg (fun known => (info, known.2)) h) fun _ => ?_
  exact (determined_notify _).bind fun _ => determined_pollDoorbell.bind determined_latch

/-! ## Runs of requests -/

/-- As long as two rings answer alike, every request of a run has the same result and leaves the same local doorbell. -/
theorem history_of_answeredAlike {t : Transport n ρ} {u : Transport n ρ'} (h : t.standing = u.standing) {rs : List Request}
    (alike : Journal.AnsweredAlike (t.transcript rs) (u.transcript rs)) :
    t.history rs = u.history rs ∧ (t.afterAll rs).standing = (u.afterAll rs).standing := by
  induction rs generalizing t u with
  | nil => exact ⟨rfl, h⟩
  | cons r rs ih =>
    rw [transcript_cons, transcript_cons] at alike
    obtain ⟨hresult, hafter, hdeeds⟩ := determined_serve r t u h
      (alike.of_prefix (List.prefix_append _ _) (List.prefix_append _ _))
    obtain ⟨hhistory, hlast⟩ := ih hafter (alike.rest hdeeds)
    refine ⟨?_, hlast⟩
    rw [history, history, doorbell_of_standing h, hresult]
    exact congrArg (_ :: ·) hhistory

/--
Every command that a transport makes while it takes over a ring, and in every request of every run after that, comes right
after its own probes of the slot that is current then, at most as many as the policy allows and no fewer unless one finds
the controller ready. And probes decide nothing: over another ring with another policy, as long as the commands are answered
alike, taking over has the same result, and every request finds the same local doorbell, has the same result and leaves the
same local doorbell.
-/
theorem waiting_is_bounded_and_harmless (ring : ρ) (ring' : ρ') (policy policy' : ProbePolicy) (rs : List Request) :
    let o := start ({ ring, policy } : Transport n ρ)
    let o' := start ({ ring := ring', policy := policy' } : Transport n ρ')
    let t := o.state.afterAll rs
    let t' := o'.state.afterAll rs
    Paced 0 policy.attempts o.journal.calls ∧
      (∀ r, Paced (t.doorbell.toNat % n) policy.attempts (serve r t).journal.calls) ∧
      (Journal.AnsweredAlike (o.journal ++ o.state.transcript rs) (o'.journal ++ o'.state.transcript rs) →
        o.result = o'.result ∧ o.state.history rs = o'.state.history rs ∧ t.standing = t'.standing) := by
  intro o o' t t'
  refine ⟨?_, fun r => ?_, fun alike => ?_⟩
  · have hpaced := paces_start ({ ring, policy } : Transport n ρ)
    rw [slot_of_new rfl] at hpaced
    exact hpaced
  · have hpolicy : t.policy = policy := by
      have hsettings := congrArg Prod.fst (settings_afterAll o.state rs)
      exact hsettings.trans (started (t := ({ ring, policy } : Transport n ρ)) rfl).policy
    rw [← hpolicy]
    exact paces_serve r t
  · obtain ⟨hresult, hstanding, hdeeds⟩ := determined_start ({ ring, policy } : Transport n ρ)
      ({ ring := ring', policy := policy' } : Transport n ρ') rfl
      (alike.of_prefix (List.prefix_append _ _) (List.prefix_append _ _))
    exact ⟨hresult, history_of_answeredAlike hstanding (alike.rest hdeeds)⟩

/--
Two rings that differ in what they answer to probes, under two policies. The controller starts over twice, and the ring
refuses a buffer the first time. One run makes 30 calls, the other 44, and both come to the same.
-/
theorem waiting_is_harmless_in_two_recoveries :
    let ring : ScriptedRing := { doorbellQueue := [10, 3, 2], feedbackRefusals := ⟨[0, 0, 0, 0, 5], 0⟩ }
    let ring' := { ring with ready := ⟨[false, true, false, false, true], false⟩ }
    let rs : List Request := [.reset, .doorbell, .read 8, .doorbell, .feedback]
    let o := start ({ ring } : Transport 3 ScriptedRing)
    let o' := start ({ ring := ring', policy := { attempts := 2 } } : Transport 3 ScriptedRing)
    let j := o.journal ++ o.state.transcript rs
    let j' := o'.journal ++ o'.state.transcript rs
    j.calls.length = 30 ∧ j'.calls.length = 44 ∧ j.AnsweredAlike j' ∧ o.result = o'.result ∧
      o.state.history rs = o'.state.history rs ∧ (o'.state.afterAll rs).standing = ({}, 3) := by
  intro ring ring' rs o o' j j'
  have alike : j.AnsweredAlike j' := .of_calls (by decide +kernel)
  obtain ⟨-, -, harmless⟩ := waiting_is_bounded_and_harmless (n := 3) ring ring' {} { attempts := 2 } rs
  obtain ⟨hresult, hhistory, hstanding⟩ := harmless alike
  have hlast : (o.state.afterAll rs).standing = ({}, 3) := by decide +kernel
  exact ⟨by decide +kernel, by decide +kernel, alike, hresult, hhistory, hstanding.symm.trans hlast⟩

end Transport
end Digitizer
