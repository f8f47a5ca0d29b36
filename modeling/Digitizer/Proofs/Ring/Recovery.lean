import Digitizer.Proofs.Ring.Accounting
import Digitizer.Proofs.Ring.Waiting
import Mathlib.Control.Monad.Basic

/-!
# Recovery from a controller that has started over

A doorbell call that finds the hardware below the local doorbell gives every buffer back and only then follows the hardware.
If the ring refuses a buffer, nothing but that has happened: the local doorbell stays, so the next call that finds a
regression starts again with the first slot.
-/
namespace Digitizer

/-- The answer to a doorbell query, if the entry is one. -/
def Entry.query? : Entry → Option (Except Errno UInt32)
  | .call _ (.doorbell answer) => some answer
  | _ => none

/-- The slot of a buffer that is given back and what the ring answers, if the entry is about one. -/
def Entry.feedback? : Entry → Option (Nat × Except Errno Unit)
  | .call slot (.feedback answer) => some (slot, answer)
  | _ => none

namespace Journal

/-- The answers to the doorbell queries. -/
def queries (j : Journal) : List (Except Errno UInt32) := j.filterMap Entry.query?

/-- The buffers that are given back, each with its slot and the answer of the ring. -/
def feedbacks (j : Journal) : List (Nat × Except Errno Unit) := j.filterMap Entry.feedback?

theorem feedbacks_append (j k : Journal) : feedbacks (j ++ k) = j.feedbacks ++ k.feedbacks := List.filterMap_append

theorem queries_deeds (j : Journal) : j.deeds.queries = j.queries := filterMap_deeds (fun _ => rfl) (fun _ _ => rfl) j
theorem feedbacks_deeds (j : Journal) : j.deeds.feedbacks = j.feedbacks :=
  filterMap_deeds (fun _ => rfl) (fun _ _ => rfl) j

theorem feedbacks_takenBack (slots : List Nat) :
    feedbacks (slots.map Entry.takenBack) = slots.map fun slot => (slot, .ok ()) := by
  rw [feedbacks, List.filterMap_map, ← List.filterMap_eq_map]
  rfl

theorem queries_of_isFeedback {j : Journal} (h : ∀ e ∈ j, e.IsFeedback) : j.queries = [] := by
  refine List.filterMap_eq_nil_iff.2 fun e he => ?_
  obtain ⟨slot, answer, rfl⟩ := h e he
  rfl

end Journal

namespace Transport
variable {n : Nat} {ρ ε α β : Type}

/-! ## Which slot is probed -/

/-- An action that probes no slot but the current one. -/
def ProbesHere (p : Action (Transport n ρ) ε α) : Prop :=
  ∀ t slot answer, .call slot (.ready answer) ∈ (p t).journal → slot = t.slot

theorem Paces.probesHere {p : Action (Transport n ρ) ε α} (h : Paces p) : ProbesHere p := fun t _ _ hprobe =>
  (h t).slot_eq (List.mem_filterMap.2 ⟨_, hprobe, rfl⟩)

/-- The doorbell call moves the local doorbell only after its last probe. -/
theorem probesHere_pollDoorbell [Ring ρ] : ProbesHere (pollDoorbell : Action (Transport n ρ) TransportError UInt32) :=
  paces_pollDoorbell.probesHere

/-! ## What a doorbell call does -/

/-- The ring takes every buffer back, in the order of the slots. -/
def flushed (n : Nat) : List (Nat × Except Errno Unit) := (List.range n).map fun slot => (slot, .ok ())

/-- How a doorbell call goes on when its query was answered. -/
structure Follows (t : Transport n ρ) (found : UInt32) (o : Outcome (Transport n ρ) TransportError UInt32) : Prop where
  /-- Buffers are given back exactly if the controller has started over. -/
  regression : o.journal.feedbacks ≠ [] ↔ found < t.doorbell
  inOrder : o.journal.feedbacks.map Prod.fst <+: List.range n
  complete : found < t.doorbell → ((∃ a, o.result = .ok a) ↔ o.journal.feedbacks = flushed n)
  /-- A call that succeeds passes the answer on, and follows it after a regression. -/
  succeeded : ∀ a, o.result = .ok a → a = found ∧ o.state.doorbell = if found < t.doorbell then found else t.doorbell
  /-- A buffer that is refused ends the call, and all that has happened is that the buffers before it were given back. -/
  refused : ∀ k cause, (k, .error cause) ∈ o.journal.feedbacks →
    o.result = .error ⟨.feedback, cause⟩ ∧ o.journal.feedbacks = flushed k ++ [(k, .error cause)] ∧ o.state.core = t.core
  /-- Nothing else ends the call. -/
  failed : ∀ e, o.result = .error e → ∃ k cause, (k, .error cause) ∈ o.journal.feedbacks

theorem ok_of_mem_flushed {k slot : Nat} {answer : Except Errno Unit} (h : (slot, answer) ∈ flushed k) :
    answer = .ok () := by
  obtain ⟨_, -, hslot⟩ := List.mem_map.1 h
  exact (Prod.mk.inj hslot).2.symm

theorem map_fst_flushed (k : Nat) : (flushed k).map Prod.fst = List.range k := by
  rw [flushed, List.map_map]
  exact List.map_id _

theorem range_prefix {k : Nat} (h : k ≤ n) : List.range k <+: List.range n := by
  rw [← Nat.min_eq_left h, ← List.take_range]
  exact List.take_prefix k _

namespace Follows
variable {t : Transport n ρ} {found : UInt32} {o : Outcome (Transport n ρ) TransportError UInt32}

theorem of_ahead (h : t.doorbell ≤ found) (result : o.result = .ok found) (doorbell : o.state.doorbell = t.doorbell)
    (feedbacks : o.journal.feedbacks = []) : Follows t found o where
  regression := ⟨fun hne => absurd feedbacks hne, fun hlt => absurd h (UInt32.not_le.2 hlt)⟩
  inOrder := by
    rw [feedbacks]
    exact List.nil_prefix
  complete := fun hlt => absurd h (UInt32.not_le.2 hlt)
  succeeded := by
    intro a ha
    obtain rfl := Except.ok.inj (result.symm.trans ha)
    exact ⟨rfl, doorbell.trans (if_neg (UInt32.not_lt.2 h)).symm⟩
  refused := by
    intro k cause hk
    rw [feedbacks] at hk
    exact absurd hk List.not_mem_nil
  failed := by
    intro e he
    exact absurd (result.symm.trans he) (by simp)

theorem of_behind (hn : 0 < n) (h : found < t.doorbell) (result : o.result = .ok found)
    (doorbell : o.state.doorbell = found) (feedbacks : o.journal.feedbacks = flushed n) : Follows t found o where
  regression := by
    refine ⟨fun _ => h, fun _ hnil => ?_⟩
    have hrange := congrArg (List.map Prod.fst) (feedbacks.symm.trans hnil)
    rw [map_fst_flushed] at hrange
    exact absurd (List.range_eq_nil.1 hrange) (Nat.ne_of_gt hn)
  inOrder := by
    have hall : o.journal.feedbacks.map Prod.fst = List.range n := by rw [feedbacks, map_fst_flushed]
    exact hall ▸ List.prefix_rfl
  complete := fun _ => ⟨fun _ => feedbacks, fun _ => ⟨found, result⟩⟩
  succeeded := by
    intro a ha
    obtain rfl := Except.ok.inj (result.symm.trans ha)
    exact ⟨rfl, doorbell.trans (if_pos h).symm⟩
  refused := by
    intro k cause hk
    rw [feedbacks] at hk
    exact absurd (ok_of_mem_flushed hk) (by simp)
  failed := by
    intro e he
    exact absurd (result.symm.trans he) (by simp)

theorem of_interrupted {k : Nat} (hk : k < n) (h : found < t.doorbell) {cause : Errno}
    (result : o.result = .error ⟨.feedback, cause⟩) (core : o.state.core = t.core)
    (feedbacks : o.journal.feedbacks = flushed k ++ [(k, .error cause)]) : Follows t found o where
  regression := by
    refine ⟨fun _ => h, fun _ hnil => ?_⟩
    rw [feedbacks] at hnil
    exact absurd (List.append_eq_nil_iff.1 hnil).2 (List.cons_ne_nil _ _)
  inOrder := by
    rw [feedbacks, List.map_append, map_fst_flushed, List.map_singleton, ← List.range_succ]
    exact range_prefix hk
  complete := by
    refine fun _ => ⟨fun ⟨a, ha⟩ => absurd (result.symm.trans ha) (by simp), fun hall => ?_⟩
    have hlast : (k, .error cause) ∈ flushed n := by
      rw [← hall, feedbacks]
      exact List.mem_append_right _ (List.mem_singleton_self _)
    exact absurd (ok_of_mem_flushed hlast) (by simp)
  succeeded := by
    intro a ha
    exact absurd (result.symm.trans ha) (by simp)
  refused := by
    intro slot reason hslot
    have hmem := hslot
    rw [feedbacks, List.mem_append, List.mem_singleton] at hmem
    rcases hmem with hmem | hmem
    · exact absurd (ok_of_mem_flushed hmem) (by simp)
    · obtain ⟨rfl, hreason⟩ := Prod.mk.inj hmem
      obtain rfl := Except.error.inj hreason
      exact ⟨result, feedbacks, core⟩
  failed := by
    intro e he
    refine ⟨k, cause, ?_⟩
    rw [feedbacks]
    exact List.mem_append_right _ (List.mem_singleton_self _)

end Follows

/-- A call that has found a regression and whose buffers are all taken has given back every buffer and follows. -/
theorem Follows.flush {t : Transport n ρ} {found : UInt32} {o : Outcome (Transport n ρ) TransportError UInt32}
    (h : Follows t found o) (below : found < t.doorbell) (taken : ∀ f ∈ o.journal.feedbacks, f.2 = .ok ()) :
    o.journal.feedbacks = flushed n ∧ o.result = .ok found ∧ o.state.doorbell = found := by
  cases hresult : o.result with
  | error e =>
    obtain ⟨k, cause, hk⟩ := h.failed e hresult
    exact absurd (taken _ hk) (by simp)
  | ok a =>
    obtain ⟨rfl, hdoorbell⟩ := h.succeeded a hresult
    rw [if_pos below] at hdoorbell
    exact ⟨(h.complete below).1 ⟨a, hresult⟩, rfl, hdoorbell⟩

/-- Whether an exchange has neither acknowledged a buffer nor followed a regression. -/
def Exchange.isIdle (e : Exchange) : Bool :=
  match e.request, e.result with
  | .doorbell, .ok (.doorbell found) => decide (e.doorbell ≤ found)
  | .feedback, .ok _ => false
  | _, _ => true

theorem Exchange.enter_of_isIdle {e : Exchange} (h : e.isIdle = true) (a : Tally) : a.enter e = a := by
  obtain ⟨number, request, result⟩ := e
  cases request with
  | doorbell =>
    rcases result with cause | ⟨found | _ | _⟩
    · rfl
    · exact (a.enter_doorbell number found).trans (if_neg (UInt32.not_lt.2 (of_decide_eq_true h)))
    · rfl
    · rfl
  | feedback =>
    cases result with
    | error cause => rfl
    | ok answer => exact absurd h Bool.false_ne_true
  | read | reset => rfl

variable [Ring ρ]

/-- A run without acknowledged buffers and recoveries leaves the local doorbell. -/
theorem doorbell_of_idle {t : Transport n ρ} {rs : List Request} (idle : ∀ e ∈ t.history rs, e.isIdle = true) :
    (t.afterAll rs).doorbell = t.doorbell := by
  have htally : t.tally rs = { latched := t.doorbell } := by
    rw [tally]
    generalize t.history rs = es at idle
    induction es with
    | nil => rfl
    | cons e es ih =>
      rw [List.foldl_cons, Exchange.enter_of_isIdle (idle e List.mem_cons_self)]
      exact ih fun x hx => idle x (List.mem_cons_of_mem e hx)
  have haccount := account_afterAll (Tally.total_latched t.doorbell).symm rs
  rw [← tally, htally, Tally.total_latched] at haccount
  exact UInt32.toNat_inj.1 haccount

/-- Every doorbell call makes one query. Either that is refused and nothing else happens, or the call goes on. -/
theorem poll_cases (hn : 0 < n) (t : Transport n ρ) :
    let o := pollDoorbell t
    (∃ cause, o.journal.queries = [.error cause] ∧ o.result = .error ⟨.doorbell, cause⟩ ∧ o.journal.feedbacks = [] ∧
        o.state.core = t.core) ∨
      ∃ found, o.journal.queries = [.ok found] ∧ Follows t found o := by
  intro o
  have ho : o = pollDoorbell t := rfl
  have hpoll := polled t
  have hcore := core_of_settings (keeps_pollDoorbell t)
  have hqueries := Journal.queries_deeds (pollDoorbell t).journal
  have hfeedbacks := Journal.feedbacks_deeds (pollDoorbell t).journal
  rw [← ho] at hpoll hcore hqueries hfeedbacks
  rw [← hqueries]
  generalize hresult : o.result = result at hpoll
  generalize hnext : o.state.doorbell = next at hpoll hcore
  generalize o.journal.deeds = deeds at hpoll hfeedbacks
  cases hpoll with
  | refused cause => exact Or.inl ⟨cause, rfl, rfl, hfeedbacks.symm, hcore⟩
  | @ahead found h => exact Or.inr ⟨found, rfl, .of_ahead h hresult hnext hfeedbacks.symm⟩
  | behind h =>
    have hall := hfeedbacks.symm.trans (Journal.feedbacks_takenBack (List.range n))
    refine Or.inr ⟨next, ?_, .of_behind hn h hresult hnext hall⟩
    exact congrArg (Except.ok next :: ·) (Journal.queries_of_isFeedback (Journal.isFeedback_takenBack _))
  | @interrupted found h k hk cause =>
    have hall : o.journal.feedbacks = flushed k ++ [(k, .error cause)] := by
      refine hfeedbacks.symm.trans ((Journal.feedbacks_append _ _).trans ?_)
      rw [Journal.feedbacks_takenBack]
      rfl
    refine Or.inr ⟨found, ?_, .of_interrupted hk h hresult hcore hall⟩
    exact congrArg (Except.ok found :: ·) (Journal.queries_of_isFeedback (Journal.isFeedback_interrupted _ _ _))

/--
A doorbell call whose query is refused does nothing else. One whose query is answered gives buffers back exactly if the
answer is below the local doorbell, in the order of the slots, and follows the answer exactly if every buffer is taken; a
refused buffer leaves everything as it was. All probes on the way are of the slot that was current before the call. So after any
requests that neither acknowledge a buffer nor follow a regression, a call that finds one and whose buffers are taken gives
back all of them, from the first, and then follows.
-/
theorem recovery_is_complete_and_atomic (hn : 0 < n) (t : Transport n ρ) :
    let o := pollDoorbell t
    ((∃ cause, o.journal.queries = [.error cause] ∧ o.result = .error ⟨.doorbell, cause⟩ ∧ o.journal.feedbacks = [] ∧
        o.state.core = t.core) ∨
      ∃ found, o.journal.queries = [.ok found] ∧ Follows t found o) ∧
    (∀ slot answer, .call slot (.ready answer) ∈ o.journal → slot = t.slot) ∧
    ∀ rs, (∀ e ∈ t.history rs, e.isIdle = true) →
      let o := pollDoorbell (t.afterAll rs)
      (t.afterAll rs).doorbell = t.doorbell ∧
        ∀ found, o.journal.queries = [.ok found] → found < t.doorbell → (∀ f ∈ o.journal.feedbacks, f.2 = .ok ()) →
          o.journal.feedbacks = flushed n ∧ o.result = .ok found ∧ o.state.doorbell = found := by
  intro o
  refine ⟨poll_cases hn t, probesHere_pollDoorbell t, fun rs idle => ?_⟩
  have hdoorbell := doorbell_of_idle idle
  refine ⟨hdoorbell, fun found hfound below taken => ?_⟩
  rw [← hdoorbell] at below
  rcases poll_cases hn (t.afterAll rs) with ⟨cause, hcause, -⟩ | ⟨other, hother, hfollows⟩
  · exact absurd (hcause.symm.trans hfound) (by simp)
  · obtain rfl := Except.ok.inj (List.singleton_inj.1 (hother.symm.trans hfound))
    exact hfollows.flush below taken

/-- Two recoveries are interrupted, at the third and at the first slot. The doorbell call after them gives all buffers back. -/
theorem recovery_is_complete_after_two_refusals :
    let ring : ScriptedRing := { doorbellQueue := [3, 2, 1], feedbackRefusals := ⟨[0, 0, 5, 5], 0⟩ }
    let t : Transport 4 ScriptedRing := { ring, doorbell := 10 }
    let rs : List Request := [.doorbell, .doorbell]
    0 < 4 ∧ (∀ e ∈ t.history rs, e.isIdle = true) ∧
      (pollDoorbell t).journal.feedbacks = [(0, .ok ()), (1, .ok ()), (2, .error ⟨5⟩)] ∧
      (pollDoorbell (t.afterAll rs)).journal.queries = [.ok 1] ∧
      (pollDoorbell (t.afterAll rs)).journal.feedbacks = flushed 4 ∧
      (pollDoorbell (t.afterAll rs)).result = .ok 1 ∧ (pollDoorbell (t.afterAll rs)).state.doorbell = 1 := by
  intro ring t rs
  have deep : 0 < 4 := by decide
  have idle : ∀ e ∈ t.history rs, e.isIdle = true := by decide +kernel
  have found : (pollDoorbell (t.afterAll rs)).journal.queries = [.ok 1] := by decide +kernel
  have taken : ∀ f ∈ (pollDoorbell (t.afterAll rs)).journal.feedbacks, f.2 = .ok () := by decide +kernel
  obtain ⟨-, hrecovered⟩ := (recovery_is_complete_and_atomic deep t).2.2 rs idle
  exact ⟨deep, idle, by decide +kernel, found, hrecovered 1 found (by decide) taken⟩

end Transport
end Digitizer
