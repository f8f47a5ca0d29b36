import Digitizer.Proofs.Ring.Requests
import Digitizer.Scripted.Ring

/-!
# The account of the local doorbell

Over any run of requests the local doorbell is the number at which counting began last plus the number of buffers
acknowledged since then, in 32 bits. A run begins to count when the ring is taken over, and again whenever the hardware
doorbell is found below the local one.
-/
namespace Digitizer

/-- A buffer is given back, whether or not the ring takes it. -/
def Entry.IsFeedback (e : Entry) : Prop := ∃ slot answer, e = .call slot (.feedback answer)

theorem Journal.isFeedback_takenBack (slots : List Nat) : ∀ e ∈ slots.map Entry.takenBack, e.IsFeedback := by
  intro e he
  obtain ⟨slot, -, rfl⟩ := List.mem_map.1 he
  exact ⟨slot, .ok (), rfl⟩

theorem Journal.isFeedback_interrupted (slots : List Nat) (slot : Nat) (cause : Errno) :
    ∀ e ∈ slots.map Entry.takenBack ++ [.call slot (.feedback (.error cause))], e.IsFeedback := by
  intro e he
  rcases List.mem_append.1 he with he | he
  · exact isFeedback_takenBack slots e he
  · exact ⟨slot, .error cause, List.mem_singleton.1 he⟩

namespace Transport
variable {n : Nat} {ρ : Type}

/-- A request that was served, with the local doorbell before it and the result. -/
structure Exchange where
  doorbell : UInt32
  request : Request
  result : Except TransportError Answer

/-- The number that was latched last, and how many buffers have been acknowledged since then. -/
structure Tally where
  latched : UInt32
  acknowledged : Nat := 0
  deriving DecidableEq, Repr

namespace Tally

/-- The number of the next frame. It goes round after the largest number. -/
def total (a : Tally) : Nat := (a.latched.toNat + a.acknowledged) % UInt32.size

/-- A hardware doorbell below the local one is latched, and an acknowledged buffer is counted. -/
def enter (a : Tally) (e : Exchange) : Tally :=
  match e.request, e.result with
  | .doorbell, .ok (.doorbell found) => if found < e.doorbell then { latched := found } else a
  | .feedback, .ok _ => { a with acknowledged := a.acknowledged + 1 }
  | _, _ => a

theorem enter_doorbell (a : Tally) (number found : UInt32) :
    a.enter ⟨number, .doorbell, .ok (.doorbell found)⟩ = if found < number then { latched := found } else a := rfl

theorem total_latched (number : UInt32) : total { latched := number } = number.toNat :=
  Nat.mod_eq_of_lt number.toNat_lt_size

theorem total_acknowledged (a : Tally) :
    total { a with acknowledged := a.acknowledged + 1 } = (a.total + 1) % UInt32.size := by
  rw [total, total, Nat.mod_add_mod, Nat.add_assoc]

end Tally

/-! ## One request -/

/-- The call of the command that a request stands for, with any answer. -/
inductive Asks : Request → Call → Prop
  | doorbell (answer : Except Errno UInt32) : Asks .doorbell (.doorbell answer)
  | read (room : Nat) (answer : Except Errno Bytes) : Asks (.read room) (.read room answer)
  | feedback (answer : Except Errno Unit) : Asks .feedback (.feedback answer)
  | reset (answer : Except Errno Unit) : Asks .reset (.reset answer)

/--
A request starts with its own command on a slot. Only the doorbell call may go on, and only with buffers that it gives back.
-/
def Aims (slot : Nat) (r : Request) (deeds : Journal) : Prop :=
  ∃ c flush, deeds = .call slot c :: flush ∧ Asks r c ∧ (flush ≠ [] → r = .doorbell) ∧
    ∀ e ∈ flush, e.IsFeedback

namespace Served
variable {t : Transport n ρ} {r : Request} {result : Except TransportError Answer} {next : UInt32} {deeds : Journal}

/-- The account stays right. -/
theorem account (h : Served t r result next deeds) {a : Tally} (right : t.doorbell.toNat = a.total) :
    next.toNat = (a.enter ⟨t.doorbell, r, result⟩).total := by
  cases h with
  | doorbell h =>
    cases h with
    | refused | interrupted => exact right
    | @ahead found h =>
      have henter := a.enter_doorbell t.doorbell found
      rw [if_neg (UInt32.not_lt.2 h)] at henter
      exact right.trans (congrArg Tally.total henter).symm
    | behind h =>
      have henter := a.enter_doorbell t.doorbell next
      rw [if_pos h] at henter
      exact (Tally.total_latched next).symm.trans (congrArg Tally.total henter).symm
  | read room answer => cases answer <;> exact right
  | acknowledged =>
    rw [UInt32.toNat_add, right]
    exact a.total_acknowledged.symm
  | unacknowledged => exact right
  | reset answer => cases answer <;> exact right

theorem stays_of_error (h : Served t r result next deeds) {e : TransportError} (failed : result = .error e) :
    next = t.doorbell := by
  cases h with
  | doorbell h =>
    cases h with
    | refused | ahead | interrupted => rfl
    | behind => exact absurd failed (by simp [Except.map])
  | read | unacknowledged | reset => rfl
  | acknowledged => exact absurd failed (by simp)

theorem le_of_answer (h : Served t r result next deeds) {found : UInt32} (ok : result = .ok (.doorbell found)) :
    next ≤ found := by
  cases h with
  | doorbell h =>
    cases h with
    | refused | interrupted => exact absurd ok (by simp [Except.map])
    | ahead h =>
      obtain rfl := Answer.doorbell.inj (Except.ok.inj ok)
      exact h
    | behind =>
      obtain rfl := Answer.doorbell.inj (Except.ok.inj ok)
      exact UInt32.le_refl _
  | read room answer => cases answer <;> exact nomatch ok
  | acknowledged | unacknowledged => exact absurd ok (by simp)
  | reset answer => cases answer <;> exact nomatch ok

theorem aims (h : Served t r result next deeds) : Aims t.slot r deeds := by
  have halone : ∀ {c}, Asks r c → Aims t.slot r [.call t.slot c] := fun hc =>
    ⟨_, [], rfl, hc, fun h => absurd rfl h, fun _ he => absurd he List.not_mem_nil⟩
  cases h with
  | doorbell h =>
    cases h with
    | refused | ahead => exact halone (.doorbell _)
    | behind => exact ⟨_, _, rfl, .doorbell _, fun _ => rfl, Journal.isFeedback_takenBack _⟩
    | interrupted => exact ⟨_, _, rfl, .doorbell _, fun _ => rfl, Journal.isFeedback_interrupted _ _ _⟩
  | read room answer => exact halone (.read room answer)
  | acknowledged | unacknowledged => exact halone (.feedback _)
  | reset answer => exact halone (.reset answer)

end Served

/-! ## A run of requests -/

variable [Ring ρ]

/-- The exchanges of a run. -/
def history (t : Transport n ρ) : List Request → List Exchange
  | [] => []
  | r :: rs => ⟨t.doorbell, r, (serve r t).result⟩ :: (t.after r).history rs

/-- The account of a run that begins to count at the local doorbell. -/
def tally (t : Transport n ρ) (rs : List Request) : Tally := (t.history rs).foldl Tally.enter { latched := t.doorbell }

theorem account_afterAll {t : Transport n ρ} {a : Tally} (right : t.doorbell.toNat = a.total) (rs : List Request) :
    (t.afterAll rs).doorbell.toNat = ((t.history rs).foldl Tally.enter a).total := by
  induction rs generalizing t a with
  | nil => exact right
  | cons r rs ih => exact ih ((served r t).account right)

/--
After a ring was taken over, and after any run of requests: the local doorbell is the number of the account. The next request,
whatever it is, goes to the slot of that number, leaves the number if it fails, and if it answers with a hardware doorbell then
the number is at most that.
-/
theorem doorbell_accounted {ring : ρ} {policy : ProbePolicy}
    (ok : (start ({ ring, policy } : Transport n ρ)).result = .ok ()) (rs : List Request) :
    let o := start ({ ring, policy } : Transport n ρ)
    let t := o.state.afterAll rs
    o.journal.deeds.getLast? = some (.call 0 (.doorbell (.ok o.state.doorbell))) ∧
      t.doorbell.toNat = (o.state.tally rs).total ∧
      ∀ r, Aims (t.doorbell.toNat % n) r (serve r t).journal.deeds ∧
        (∀ e, (serve r t).result = .error e → (t.after r).doorbell = t.doorbell) ∧
        ∀ found, (serve r t).result = .ok (.doorbell found) → (t.after r).doorbell ≤ found := by
  intro o t
  refine ⟨?_, account_afterAll (Tally.total_latched _).symm rs, fun r => ?_⟩
  · exact (started (t := ({ ring, policy } : Transport n ρ)) rfl).getLast?_of_ok ok
  · have h := served r t
    exact ⟨h.aims, fun e => h.stays_of_error, fun found => h.le_of_answer⟩

/--
Counting starts at the largest number and goes round with the first buffer. Later a doorbell call finds that the controller has
started over, and the ring refuses one of the two buffers after that.
-/
theorem doorbell_accounted_across_the_wrap :
    let ring : ScriptedRing := { doorbellQueue := [4294967295, 7, 0], feedbackRefusals := ⟨[0, 0, 0, 0, 0, 0, 0, 0, 0, 5], 0⟩ }
    let o := start ({ ring, policy := {} } : Transport 3 ScriptedRing)
    let rs : List Request := [.feedback, .doorbell, .feedback, .read 8, .doorbell, .feedback, .feedback, .reset]
    o.result = .ok () ∧ o.state.doorbell = 4294967295 ∧
      o.state.tally (rs.take 1) = ⟨4294967295, 1⟩ ∧ (o.state.afterAll (rs.take 1)).doorbell.toNat = 0 ∧
      o.state.tally rs = ⟨0, 1⟩ ∧ (o.state.afterAll rs).doorbell.toNat = 1 := by
  intro ring o rs
  have ok : o.result = .ok () := Action.ok_of_isOk (by decide +kernel)
  have hround : o.state.tally (rs.take 1) = ⟨4294967295, 1⟩ := by decide +kernel
  have hagain : o.state.tally rs = ⟨0, 1⟩ := by decide +kernel
  refine ⟨ok, by decide +kernel, hround, ?_, hagain, ?_⟩
  · rw [(doorbell_accounted ok (rs.take 1)).2.1, hround]
    rfl
  · rw [(doorbell_accounted ok rs).2.1, hagain]
    rfl

end Transport
end Digitizer
