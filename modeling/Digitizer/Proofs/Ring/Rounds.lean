import Digitizer.Proofs.Ring.Recovery
import Mathlib.Algebra.Group.Nat.Defs
import Mathlib.Data.List.Rotate
import Mathlib.Tactic.TFAE

/-!
# Round the ring

Buffers are acknowledged in the slots of consecutive frame numbers. The numbers go round after 32 bits and the slots after the
last buffer, so the slots follow each other without a break exactly if a whole number of rounds fits into 32 bits.
-/
namespace Digitizer.Transport
open scoped List
variable {n : Nat} {ρ : Type}

/-! ## Slots in a row -/

/-- So many slots from a slot on, of which the first follows the last. -/
def slotsFrom (n slot count : Nat) : List Nat := (List.range count).map fun i => (slot + i) % n

/-- The slots of so many numbers of 32 bits from a number on. -/
def slotsOfNumbers (n number count : Nat) : List Nat :=
  (List.range count).map fun i => (number + i) % UInt32.size % n

/-- A whole round is every slot once. -/
theorem slotsFrom_perm (n slot : Nat) : (slotsFrom n slot n).Perm (List.range n) := by
  have hrotate : slotsFrom n slot n = (List.range n).rotate slot := by
    refine List.ext_getElem (by simp [slotsFrom]) fun i hi _ => ?_
    simp [slotsFrom, List.getElem_rotate, Nat.add_comm]
  rw [hrotate]
  exact List.rotate_perm _ _

theorem slotsOfNumbers_cons {number : Nat} (fits : number < UInt32.size) (n count : Nat) :
    slotsOfNumbers n number (count + 1) = number % n :: slotsOfNumbers n ((number + 1) % UInt32.size) count := by
  rw [slotsOfNumbers, List.range_succ_eq_map, List.map_cons, List.map_map, Nat.add_zero, Nat.mod_eq_of_lt fits]
  refine congrArg _ (List.map_congr_left fun i _ => ?_)
  rw [Function.comp_apply, Nat.mod_add_mod, Nat.succ_eq_add_one, Nat.add_right_comm, Nat.add_assoc]

theorem slotsOfNumbers_snoc (n number count : Nat) :
    slotsOfNumbers n number (count + 1) = slotsOfNumbers n number count ++ [(number + count) % UInt32.size % n] := by
  rw [slotsOfNumbers, List.range_succ, List.map_append, List.map_singleton, slotsOfNumbers]

/-- If whole rounds fit into 32 bits, the numbers go round where the slots do. -/
theorem slotsOfNumbers_of_dvd (h : n ∣ UInt32.size) (number count : Nat) :
    slotsOfNumbers n number count = slotsFrom n (number % n) count := by
  refine List.map_congr_left fun i _ => ?_
  rw [Nat.mod_mod_of_dvd _ h, Nat.mod_add_mod]

/-- If all rounds cover the ring, every buffer comes again after a round, and so does that of the number 0. -/
theorem dvd_of_rounds (deep : 0 < n) (h : ∀ number < UInt32.size, (slotsOfNumbers n number n).Perm (List.range n)) :
    n ∣ UInt32.size := by
  have hagain : ∀ number < UInt32.size, number % n = (number + n) % UInt32.size % n := by
    intro number fits
    have hnext : (number + 1) % UInt32.size < UInt32.size := Nat.mod_lt _ (by decide)
    have hround : ([number % n] ++ List.range n).Perm ([(number + n) % UInt32.size % n] ++ List.range n) :=
      calc [number % n] ++ List.range n
        _ ~ number % n :: slotsOfNumbers n ((number + 1) % UInt32.size) n := (h _ hnext).symm.cons _
        _ = slotsOfNumbers n number n ++ [(number + n) % UInt32.size % n] := by
          rw [← slotsOfNumbers_cons fits, slotsOfNumbers_snoc]
        _ ~ List.range n ++ [(number + n) % UInt32.size % n] := (h _ fits).append_right _
        _ ~ [(number + n) % UInt32.size % n] ++ List.range n := List.perm_append_comm
    exact List.singleton_perm_singleton.1 ((List.perm_append_right_iff _).1 hround)
  by_cases hsize : n ≤ UInt32.size
  · have hzero := hagain (UInt32.size - n) (by omega)
    rw [Nat.sub_add_cancel hsize, Nat.mod_self, Nat.zero_mod] at hzero
    exact (Nat.dvd_sub_iff_left hsize (Nat.dvd_refl n)).1 (Nat.dvd_of_mod_eq_zero hzero)
  · -- A deeper ring has slots that no number reaches.
    have hlast : n - 1 ∈ slotsOfNumbers n 0 n := (h 0 (by decide)).mem_iff.2 (List.mem_range.2 (by omega))
    obtain ⟨i, -, hi⟩ := List.mem_map.1 hlast
    have hle := Nat.mod_le ((0 + i) % UInt32.size) n
    have hlt : (0 + i) % UInt32.size < UInt32.size := Nat.mod_lt _ (by decide)
    omega

/-! ## Acknowledgements in a row -/

section
variable [Ring ρ]

/-- The ring takes back so many buffers in a row. -/
def Acknowledges (t : Transport n ρ) (count : Nat) : Prop :=
  ∀ e ∈ t.history (List.replicate count .feedback), e.result.isOk = true

/-- The slots of the buffers that are given back over so many acknowledgements. -/
def acknowledgedSlots (t : Transport n ρ) (count : Nat) : List Nat :=
  (t.transcript (List.replicate count .feedback)).feedbacks.map Prod.fst

theorem acknowledges_succ {t : Transport n ρ} {count : Nat} :
    t.Acknowledges (count + 1) ↔ (serve .feedback t).result.isOk = true ∧ (t.after .feedback).Acknowledges count := by
  simp [Acknowledges, List.replicate_succ, history]

theorem acknowledgedSlots_succ (t : Transport n ρ) (count : Nat) :
    t.acknowledgedSlots (count + 1) =
      (serve .feedback t).journal.feedbacks.map Prod.fst ++ (t.after .feedback).acknowledgedSlots count := by
  simp [acknowledgedSlots, List.replicate_succ, Journal.feedbacks_append]

/-- A buffer that is taken back is that of the local doorbell, which moves on by one. -/
theorem acknowledge_of_ok {t : Transport n ρ} (ok : (serve .feedback t).result.isOk = true) :
    (t.after .feedback).doorbell = t.doorbell + 1 ∧
      (serve .feedback t).journal.feedbacks.map Prod.fst = [t.doorbell.toNat % n] := by
  have hserved := served .feedback t
  rw [after, ← Journal.feedbacks_deeds]
  generalize (serve .feedback t).result = result at ok hserved
  generalize (serve .feedback t).state.doorbell = next at hserved
  generalize (serve .feedback t).journal.deeds = deeds at hserved
  cases hserved with
  | acknowledged => exact ⟨rfl, rfl⟩
  | unacknowledged cause => exact absurd ok Bool.false_ne_true

/-- Acknowledgements go to the slots of the numbers from the local doorbell on. -/
theorem acknowledgedSlots_eq {t : Transport n ρ} {count : Nat} (h : t.Acknowledges count) :
    t.acknowledgedSlots count = slotsOfNumbers n t.doorbell.toNat count := by
  induction count generalizing t with
  | zero => rfl
  | succ count ih =>
    obtain ⟨ok, hrest⟩ := acknowledges_succ.1 h
    obtain ⟨hnext, hslot⟩ := acknowledge_of_ok ok
    have hnumber : (t.after .feedback).doorbell.toNat = (t.doorbell.toNat + 1) % UInt32.size := by
      rw [hnext]
      exact UInt32.toNat_add t.doorbell 1
    rw [acknowledgedSlots_succ, hslot, ih hrest, hnumber, slotsOfNumbers_cons t.doorbell.toNat_lt_size]
    rfl

end

/-- A transport at a number, over a ring that takes everything. -/
def unhindered (n : Nat) (number : UInt32) : Transport n ScriptedRing :=
  { ring := {}, policy := { attempts := 0 }, doorbell := number }

theorem acknowledges_unhindered (n : Nat) (number : UInt32) (count : Nat) : (unhindered n number).Acknowledges count := by
  induction count generalizing number with
  | zero => exact fun e he => absurd he List.not_mem_nil
  | succ count ih => exact acknowledges_succ.2 ⟨rfl, ih (number + 1)⟩

/-- Whatever the local doorbell, acknowledgements go to one slot after the other, and from the last slot to the first. -/
def GoesRound (n : Nat) : Prop :=
  ∀ (ρ : Type) [Ring ρ] (t : Transport n ρ) (count : Nat), t.Acknowledges count →
    t.acknowledgedSlots count = slotsFrom n (t.doorbell.toNat % n) count

/-- Whatever the local doorbell, as many acknowledgements as there are buffers give every buffer back once. -/
def CoversRing (n : Nat) : Prop :=
  ∀ (ρ : Type) [Ring ρ] (t : Transport n ρ), t.Acknowledges n → (t.acknowledgedSlots n).Perm (List.range n)

theorem CoversRing.perm (h : CoversRing n) {number : Nat} (fits : number < UInt32.size) :
    (slotsOfNumbers n number n).Perm (List.range n) := by
  have hacknowledges := acknowledges_unhindered n (UInt32.ofNat number) n
  have hslots := acknowledgedSlots_eq hacknowledges
  have hnumber : (unhindered n (UInt32.ofNat number)).doorbell.toNat = number := UInt32.toNat_ofNat_of_lt' fits
  rw [hnumber] at hslots
  exact hslots ▸ h ScriptedRing _ hacknowledges

/--
Acknowledgements go round the ring from every number, also across the largest one, exactly if the depth of the ring divides the
count of numbers. Just then every round gives every buffer back once.
-/
theorem goesRound_tfae (deep : 0 < n) : List.TFAE [n ∣ 2 ^ 32, GoesRound n, CoversRing n] := by
  tfae_have 1 → 2 := by
    intro h ρ _ t count acknowledges
    rw [acknowledgedSlots_eq acknowledges, slotsOfNumbers_of_dvd h]
  tfae_have 2 → 3 := by
    intro h ρ _ t acknowledges
    rw [h ρ t n acknowledges]
    exact slotsFrom_perm n _
  tfae_have 3 → 1 := fun h => dvd_of_rounds deep fun _ fits => h.perm fits
  tfae_finish

/-- The ring of a real controller goes round where the numbers do. One of three buffers skips a slot there. -/
theorem goesRound_standardDepth :
    0 < Ring.standardDepth ∧ GoesRound Ring.standardDepth ∧ CoversRing Ring.standardDepth ∧
      (unhindered Ring.standardDepth 4294967294).acknowledgedSlots 4 = [14, 15, 0, 1] ∧
      0 < 3 ∧ ¬GoesRound 3 ∧ ¬CoversRing 3 ∧ (unhindered 3 4294967294).acknowledgedSlots 4 = [2, 0, 0, 1] := by
  have deep : 0 < Ring.standardDepth := by decide
  have divides : Ring.standardDepth ∣ 2 ^ 32 := by decide
  have leaves : ¬3 ∣ 2 ^ 32 := by decide
  have hround := (goesRound_tfae deep).out 0 1
  have hcovers := (goesRound_tfae deep).out 0 2
  have hround' := (goesRound_tfae (n := 3) (by decide)).out 0 1
  have hcovers' := (goesRound_tfae (n := 3) (by decide)).out 0 2
  refine ⟨deep, hround.1 divides, hcovers.1 divides, ?_, by decide, fun h => leaves (hround'.2 h),
    fun h => leaves (hcovers'.2 h), ?_⟩
  · decide +kernel
  · decide +kernel

end Digitizer.Transport
