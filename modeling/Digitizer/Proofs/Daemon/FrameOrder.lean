import Digitizer.Proofs.Daemon.Milestones
import Digitizer.Scripted.Detector
import Digitizer.Scripted.Ring

/-!
# The order of frames

A step takes the frames from the local doorbell up to the hardware doorbell one after another, each in the slot of its
number, and stops at the first refusal. It is a loop that compares the two doorbells before every frame (`WhileBelow`), and the
progress of the frames is by induction on that loop. So over a run without refusals and regressions every frame is taken
exactly once and in order.
-/
namespace Digitizer

/-- A frame is read from a slot, detected, and its buffer is given back. -/
def roundTrip (slot : Nat) : List Milestone := [.read slot (.ok ()), .detection, .feedback slot (.ok ())]

/-- So many frames in a row, each in the slot of its number. -/
def roundTrips (depth first count : Nat) : List Milestone :=
  (List.range' first count).flatMap fun frame => roundTrip (frame % depth)

theorem roundTrips_succ (depth first count : Nat) :
    roundTrips depth first (count + 1) = roundTrip (first % depth) ++ roundTrips depth (first + 1) count := by
  rw [roundTrips, List.range'_succ, List.flatMap_cons]
  rfl

/-- Frames up to a number, followed by the frames from that number on. -/
theorem roundTrips_append {depth first middle last : Nat} (h : first ≤ middle) (h' : middle ≤ last) :
    roundTrips depth first (middle - first) ++ roundTrips depth middle (last - middle) =
      roundTrips depth first (last - first) := by
  have hstart : first + (middle - first) = middle := by omega
  have hcount : middle - first + (last - middle) = last - first := by omega
  have hrange : List.range' first (middle - first) ++ List.range' middle (last - middle) =
      List.range' first (last - first) := by
    rw [← hcount, ← List.range'_append_1, hstart]
  rw [roundTrips, roundTrips, roundTrips, ← List.flatMap_append, hrange]

/-- The hardware doorbell that was answered, if the milestone is such an answer. -/
def Milestone.answer? : Milestone → Option UInt32
  | .doorbell (.ok found) => some found
  | _ => none

/-- Whether a milestone is a doorbell call. -/
def Milestone.isDoorbell : Milestone → Bool
  | .doorbell _ => true
  | _ => false

namespace Daemon
variable {n : Nat} {ρ σ δ : Type} [Ring ρ] [Detector δ] [Sink σ]

/-- The number of the next frame to read. -/
def counter (d : Daemon n ρ σ δ) : Nat := d.transport.doorbell.toNat

/-! ## One frame -/

/-- How the ring stops a frame in a slot: the error and the milestones up to it. -/
inductive Stopped (slot : Nat) : TransportError → List Milestone → Prop
  | unread (cause : Errno) : Stopped slot ⟨.read, cause⟩ [.read slot (.error cause)]
  | unacknowledged (cause : Errno) :
    Stopped slot ⟨.feedback, cause⟩ [.read slot (.ok ()), .detection, .feedback slot (.error cause)]

/-- What becomes of one frame in a slot: the result, the local doorbell after it and the milestones. -/
inductive Consumed (slot : Nat) (doorbell : UInt32) : Except TransportError Unit → UInt32 → List Milestone → Prop
  | stopped {e : TransportError} {ms : List Milestone} (h : Stopped slot e ms) :
    Consumed slot doorbell (.error e) doorbell ms
  | acknowledged : Consumed slot doorbell (.ok ()) (doorbell + 1) (roundTrip slot)

theorem Consumed.of_ok {slot : Nat} {doorbell next : UInt32} {a : Unit} {ms : List Milestone}
    (h : Consumed slot doorbell (.ok a) next ms) : next = doorbell + 1 ∧ ms = roundTrip slot := by
  cases h
  exact ⟨rfl, rfl⟩

theorem Consumed.of_error {slot : Nat} {doorbell next : UInt32} {e : TransportError} {ms : List Milestone}
    (h : Consumed slot doorbell (.error e) next ms) : next = doorbell ∧ Stopped slot e ms := by
  cases h with
  | stopped h => exact ⟨rfl, h⟩

omit [Detector δ] [Sink σ] in
theorem readFrame_spec (d : Daemon n ρ σ δ) :
    let o := readFrame d
    o.state.transport.doorbell = d.transport.doorbell ∧
      ((∃ bytes, o.result = .ok bytes ∧ o.journal.milestones = [.read d.transport.slot (.ok ())]) ∨
        ∃ cause, o.result = .error ⟨.read, cause⟩ ∧
          o.journal.milestones = [.read d.transport.slot (.error cause)]) := by
  intro o
  obtain ⟨answer, h, ⟨bytes, rfl, hread⟩ | ⟨cause, rfl, hread⟩⟩ := readFrame_cases d
  · have ho : o = _ := hread
    rw [ho]
    exact ⟨Transport.doorbell_of_core h.core, Or.inl ⟨bytes.length, rfl, h.milestones⟩⟩
  · have ho : o = _ := hread
    rw [ho]
    exact ⟨Transport.doorbell_of_core h.core, Or.inr ⟨cause, rfl, h.milestones⟩⟩

/-- Every frame is read first, detected next and acknowledged last, as far as the ring does not refuse. -/
theorem consumed (d : Daemon n ρ σ δ) :
    Consumed d.transport.slot d.transport.doorbell (consume d).result (consume d).state.transport.doorbell
      (consume d).journal.milestones := by
  obtain ⟨hdoorbell, ⟨bytes, hread, hmilestones⟩ | ⟨cause, hread, hmilestones⟩⟩ := readFrame_spec d
  · have hhandle := passes_handle (ε := TransportError) (n := n) (ρ := ρ) (σ := σ) (δ := δ) bytes
    obtain ⟨a, ha⟩ := hhandle.total (readFrame d).state
    have hkept : (handle bytes (readFrame d).state).state.transport.doorbell = d.transport.doorbell :=
      (hhandle.keeps (readFrame d).state).trans hdoorbell
    have hdetected := hhandle.milestones (readFrame d).state
    rw [consume, Action.bind_of_result_ok hread, Action.bind_of_result_ok ha]
    simp only [Journal.milestones_append, hmilestones, hdetected]
    generalize (handle bytes (readFrame d).state).state = e at hkept
    have hslot : e.transport.slot = d.transport.slot := by rw [Transport.slot, Transport.slot, hkept]
    rw [← hslot, ← hkept]
    change Consumed _ _ (Transport.acknowledge e.transport).result (Transport.acknowledge e.transport).state.doorbell
      (_ ++ (_ ++ (Transport.acknowledge e.transport).journal.milestones))
    rcases Transport.acknowledge_spec e.transport with ⟨hok, hnext, hdeeds⟩ | ⟨cause, herror, hnext, hdeeds⟩
    · rw [hok, hnext, Journal.milestones_of_deeds hdeeds]
      exact .acknowledged
    · rw [herror, hnext, Journal.milestones_of_deeds hdeeds]
      exact .stopped (.unacknowledged cause)
  · rw [consume, Action.bind_of_result_error hread, hdoorbell, hmilestones]
    exact .stopped (.unread cause)

/-- Below the largest number, a frame that is taken moves the count up by one. -/
theorem counter_consume {d : Daemon n ρ σ δ} {a : Unit} (h : (consume d).result = .ok a)
    (fits : d.counter + 1 < UInt32.size) : (consume d).state.counter = d.counter + 1 := by
  have hframe := consumed d
  rw [h] at hframe
  rw [counter, hframe.of_ok.1, UInt32.toNat_add]
  exact Nat.mod_eq_of_lt fits

/-! ## Frames in a row -/

/-- How far a number of frames gets: the result, the number of the next frame and the milestones. -/
inductive Progress (depth first count : Nat) : Except TransportError Unit → Nat → List Milestone → Prop
  | complete : Progress depth first count (.ok ()) (first + count) (roundTrips depth first count)
  | stopped {k : Nat} (hk : k < count) {e : TransportError} {ms : List Milestone}
      (h : Stopped ((first + k) % depth) e ms) :
    Progress depth first count (.error e) (first + k) (roundTrips depth first k ++ ms)

/-- A frame that was taken comes before the others. -/
theorem Progress.cons {depth first count : Nat} {result : Except TransportError Unit} {next : Nat} {ms : List Milestone}
    (h : Progress depth (first + 1) count result next ms) :
    Progress depth first (count + 1) result next (roundTrip (first % depth) ++ ms) := by
  cases h with
  | complete =>
    rw [← roundTrips_succ, Nat.add_assoc, Nat.add_comm 1 count]
    exact .complete
  | @stopped k hk e ms h =>
    rw [Nat.add_assoc, Nat.add_comm 1 k] at h ⊢
    rw [← List.append_assoc, ← roundTrips_succ]
    exact .stopped (Nat.succ_lt_succ hk) h

theorem Progress.of_ok {depth first count next : Nat} {a : Unit} {ms : List Milestone}
    (h : Progress depth first count (.ok a) next ms) : next = first + count := by
  cases h
  rfl

/-- A loop that takes frames as long as the local doorbell is below a bound. -/
inductive WhileBelow (bound : UInt32) : Daemon n ρ σ δ → Outcome (Daemon n ρ σ δ) TransportError Unit → Prop
  | done {d : Daemon n ρ σ δ} (h : ¬d.transport.doorbell < bound) : WhileBelow bound d ⟨.ok (), d, []⟩
  | failed {d : Daemon n ρ σ δ} {cause : TransportError} (h : d.transport.doorbell < bound)
      (hc : (consume d).result = .error cause) :
    WhileBelow bound d ⟨.error cause, (consume d).state, (consume d).journal⟩
  | next {d : Daemon n ρ σ δ} {o : Outcome (Daemon n ρ σ δ) TransportError Unit} (h : d.transport.doorbell < bound)
      (hc : (consume d).result = .ok ()) (rest : WhileBelow bound (consume d).state o) :
    WhileBelow bound d ⟨o.result, o.state, (consume d).journal ++ o.journal⟩

/-- Taking as many frames as are pending is the loop that compares the doorbells before every frame. -/
theorem whileBelow_consumeAll (bound : UInt32) (d : Daemon n ρ σ δ) :
    WhileBelow bound d (consumeAll (bound.toNat - d.counter) d) := by
  generalize hcount : bound.toNat - d.counter = count
  induction count generalizing d with
  | zero =>
    refine .done fun h => ?_
    rw [UInt32.lt_iff_toNat_lt] at h
    rw [counter] at hcount
    omega
  | succ count ih =>
    have hbelow : d.transport.doorbell < bound := by
      rw [UInt32.lt_iff_toNat_lt]
      rw [counter] at hcount
      omega
    rw [consumeAll]
    cases hresult : (consume d).result with
    | error cause =>
      rw [Action.bind_of_result_error hresult]
      exact .failed hbelow hresult
    | ok a =>
      have hbound := bound.toNat_lt_size
      have hcounter : (consume d).state.counter = d.counter + 1 := counter_consume hresult (by omega)
      rw [Action.bind_of_result_ok hresult]
      exact .next hbelow hresult (ih _ (by omega))

/-- The loop takes the frames below its bound in order, up to the first refusal. -/
theorem WhileBelow.progress {bound : UInt32} {d : Daemon n ρ σ δ} {o : Outcome (Daemon n ρ σ δ) TransportError Unit}
    (h : WhileBelow bound d o) (below : d.counter ≤ bound.toNat) :
    Progress n d.counter (bound.toNat - d.counter) o.result o.state.counter o.journal.milestones := by
  induction h with
  | @done d h =>
    have hnone : bound.toNat - d.counter = 0 := Nat.sub_eq_zero_of_le (Nat.not_lt.1 h)
    rw [hnone]
    exact .complete
  | @failed d cause h hc =>
    have hframe := consumed d
    rw [hc] at hframe
    obtain ⟨hnext, hstopped⟩ := hframe.of_error
    have hcounter : (consume d).state.counter = d.counter := congrArg UInt32.toNat hnext
    rw [hcounter]
    exact .stopped (Nat.sub_pos_of_lt h) hstopped
  | @next d o h hc rest ih =>
    have hframe := consumed d
    have hlt : d.counter < bound.toNat := h
    have hbound := bound.toNat_lt_size
    have hcounter : (consume d).state.counter = d.counter + 1 := counter_consume hc (by omega)
    have hrest := ih (by omega)
    have hpending : bound.toNat - d.counter = bound.toNat - (d.counter + 1) + 1 := by omega
    rw [hc] at hframe
    rw [hcounter] at hrest
    rw [hpending, Journal.milestones_append, hframe.of_ok.2]
    exact hrest.cons

/-- The same for a given number of frames, if their numbers fit. -/
theorem progress_consumeAll {count : Nat} {d : Daemon n ρ σ δ} (fits : d.counter + count < UInt32.size) :
    Progress n d.counter count (consumeAll count d).result (consumeAll count d).state.counter
      (consumeAll count d).journal.milestones := by
  obtain ⟨bound, hbound⟩ : ∃ bound : UInt32, bound.toNat = d.counter + count := ⟨.ofNat _, Nat.mod_eq_of_lt fits⟩
  have hpending : bound.toNat - d.counter = count := by omega
  have hprogress := (whileBelow_consumeAll bound d).progress (by omega)
  rw [hpending] at hprogress
  exact hprogress

/-! ## One step -/

/-- What a step does from a local doorbell on: the result, the number of the next frame and the milestones. -/
inductive Stepped (depth first : Nat) : Except TransportError Bool → Nat → List Milestone → Prop
  /-- The hardware doorbell is refused. -/
  | unanswered (cause : Errno) :
    Stepped depth first (.error ⟨.doorbell, cause⟩) first [.doorbell (.error cause)]
  /-- The hardware counts from an earlier number: every buffer is given back and nothing is read. -/
  | restarted {found : UInt32} (h : found.toNat < first) :
    Stepped depth first (.ok false) found.toNat
      (.doorbell (.ok found) :: (List.range depth).map fun slot => .feedback slot (.ok ()))
  /-- The same, but a buffer is refused: the local doorbell stays. -/
  | interrupted {found : UInt32} (h : found.toNat < first) {k : Nat} (hk : k < depth) (cause : Errno) :
    Stepped depth first (.error ⟨.feedback, cause⟩) first
      (.doorbell (.ok found) ::
        (((List.range k).map fun slot => .feedback slot (.ok ())) ++ [.feedback k (.error cause)]))
  /-- All frames up to the hardware doorbell are taken. -/
  | completed {found : UInt32} (h : first ≤ found.toNat) :
    Stepped depth first (.ok (decide (first < found.toNat))) found.toNat
      (.doorbell (.ok found) :: roundTrips depth first (found.toNat - first))
  /-- All frames before a certain one are taken, and the ring stops that one. -/
  | stopped {found : UInt32} {k : Nat} (hk : first + k < found.toNat) {e : TransportError} {ms : List Milestone}
      (h : Stopped ((first + k) % depth) e ms) :
    Stepped depth first (.error e) (first + k) (.doorbell (.ok found) :: (roundTrips depth first k ++ ms))

/-- A step gets as far as its frames. -/
theorem Progress.stepped {depth first next : Nat} {found : UInt32} {result : Except TransportError Unit}
    {ms : List Milestone} (h : first ≤ found.toNat) (progress : Progress depth first (found.toNat - first) result next ms) :
    Stepped depth first (result.map fun _ => decide (0 < found.toNat - first)) next (.doorbell (.ok found) :: ms) := by
  cases progress with
  | complete =>
    have hnext : first + (found.toNat - first) = found.toNat := by omega
    have hsome : decide (0 < found.toNat - first) = decide (first < found.toNat) :=
      decide_eq_decide.2 (by omega)
    rw [hnext, hsome]
    exact .completed h
  | stopped hk h => exact .stopped (by omega) h

theorem stepped (d : Daemon n ρ σ δ) :
    Stepped n d.counter (step d).result (step d).state.counter (step d).journal.milestones := by
  have hpoll := Transport.polled d.transport
  have hmilestones := Journal.milestones_deeds (Transport.pollDoorbell d.transport).journal
  rw [step]
  generalize hresult : (Transport.pollDoorbell d.transport).result = result at hpoll
  generalize hlocal : (Transport.pollDoorbell d.transport).state.doorbell = next at hpoll
  generalize (Transport.pollDoorbell d.transport).journal.deeds = deeds at hpoll hmilestones
  have hresult : (onTransport Transport.pollDoorbell d).result = result := hresult
  have hcounter : (onTransport Transport.pollDoorbell d).state.counter = next.toNat := congrArg UInt32.toNat hlocal
  have hmilestones : (onTransport Transport.pollDoorbell d).journal.milestones = deeds.milestones := hmilestones.symm
  generalize hpolled : (onTransport Transport.pollDoorbell d).state = e at hcounter
  cases hpoll with
  | refused cause =>
    rw [Action.bind_of_result_error hresult]
    simp only [hpolled, hcounter, hmilestones]
    exact .unanswered cause
  | @interrupted found h k hk cause =>
    rw [UInt32.lt_iff_toNat_lt] at h
    rw [Action.bind_of_result_error hresult]
    simp only [hpolled, hcounter, hmilestones, Journal.milestones_cons, Journal.milestones_append,
      Journal.milestones_takenBack]
    exact .interrupted h hk cause
  | behind h =>
    rw [UInt32.lt_iff_toNat_lt] at h
    have hnone : next.toNat - e.transport.doorbell.toNat = 0 := Nat.sub_eq_zero_of_le (Nat.le_of_eq hcounter.symm)
    rw [Action.bind_of_result_ok hresult, hpolled, Action.get_bind, Action.bind_const, hnone]
    simp only [Journal.milestones_append, hmilestones, Journal.milestones_cons, Journal.milestones_takenBack]
    have hempty : (consumeAll 0 e).journal.milestones = [] := rfl
    have hstays : (consumeAll 0 e).state.counter = next.toNat := hcounter
    rw [hempty, hstays, List.append_nil]
    exact .restarted h
  | @ahead found h =>
    rw [UInt32.le_iff_toNat_le] at h
    have hcounter : e.counter = d.counter := hcounter
    have hprogress := (whileBelow_consumeAll found e).progress (hcounter ▸ h)
    rw [hcounter] at hprogress
    have hpending : found.toNat - e.transport.doorbell.toNat = found.toNat - d.counter := congrArg (found.toNat - ·) hcounter
    rw [Action.bind_of_result_ok hresult, hpolled, Action.get_bind, Action.bind_const, hpending]
    simp only [Journal.milestones_append, hmilestones]
    exact hprogress.stepped h

omit [Detector δ] [Sink σ] in
/-- After the doorbell call the local doorbell is not above the hardware doorbell, and otherwise as before. -/
theorem counter_poll {d : Daemon n ρ σ δ} {found : UInt32} (h : (onTransport Transport.pollDoorbell d).result = .ok found) :
    (onTransport Transport.pollDoorbell d : Outcome _ TransportError _).state.counter = min d.counter found.toNat := by
  have hpoll := Transport.polled d.transport
  have hanswer : (Transport.pollDoorbell d.transport).result = .ok found := h
  rw [hanswer] at hpoll
  change (Transport.pollDoorbell d.transport).state.doorbell.toNat = min d.transport.doorbell.toNat found.toNat
  generalize (Transport.pollDoorbell d.transport).state.doorbell = next at hpoll ⊢
  generalize (Transport.pollDoorbell d.transport).journal.deeds = deeds at hpoll
  cases hpoll with
  | ahead hle =>
    rw [UInt32.le_iff_toNat_le] at hle
    exact (Nat.min_eq_left hle).symm
  | behind hlt =>
    rw [UInt32.lt_iff_toNat_lt] at hlt
    exact (Nat.min_eq_right (Nat.le_of_lt hlt)).symm

/-- A step up to the point where so many frames are taken. Gives the hardware doorbell. -/
def stepUpTo (count : Nat) : Action (Daemon n ρ σ δ) TransportError UInt32 := do
  let found ← onTransport Transport.pollDoorbell
  consumeAll count
  pure found

/-- Up to the hardware doorbell the local doorbell counts without going round. -/
theorem counter_stepUpTo {d : Daemon n ρ σ δ} {count : Nat} {found : UInt32}
    (h : (stepUpTo count d).result = .ok found) (pending : d.counter + count ≤ found.toNat) :
    (stepUpTo count d).state.counter = d.counter + count := by
  rw [stepUpTo] at h ⊢
  cases hresult : (onTransport Transport.pollDoorbell d).result with
  | error cause =>
    rw [Action.bind_of_result_error hresult] at h
    exact absurd h (by simp)
  | ok answer =>
    have hpolled := counter_poll hresult
    rw [Action.bind_of_result_ok hresult] at h ⊢
    generalize (onTransport Transport.pollDoorbell d).state = e at hpolled h ⊢
    obtain ⟨rfl, a, ha⟩ := Action.of_bind_const_ok h
    have hsame : e.counter = d.counter := by omega
    have hfits : e.counter + count < UInt32.size := by
      rw [hsame]
      exact Nat.lt_of_le_of_lt pending answer.toNat_lt_size
    have hprogress := progress_consumeAll hfits
    rw [ha, hsame] at hprogress
    rw [Action.bind_const]
    exact hprogress.of_ok

/-! ## A run -/

/-- The hardware doorbells that were answered. -/
def answers (ms : List Milestone) : List UInt32 := ms.filterMap Milestone.answer?

/-- What was done for frames. -/
def passages (ms : List Milestone) : List Milestone := ms.filter (!·.isDoorbell)

theorem answers_append (ms ks : List Milestone) : answers (ms ++ ks) = answers ms ++ answers ks := List.filterMap_append
theorem passages_append (ms ks : List Milestone) : passages (ms ++ ks) = passages ms ++ passages ks :=
  List.filter_append ms ks

theorem not_isDoorbell_of_mem_roundTrips {depth first count : Nat} {m : Milestone}
    (h : m ∈ roundTrips depth first count) : m.isDoorbell = false := by
  obtain ⟨frame, -, hm⟩ := List.mem_flatMap.1 h
  simp only [roundTrip, List.mem_cons, List.not_mem_nil, or_false] at hm
  rcases hm with rfl | rfl | rfl <;> rfl

theorem answers_eq_nil {ms : List Milestone} (h : ∀ m ∈ ms, m.isDoorbell = false) : answers ms = [] := by
  refine List.filterMap_eq_nil_iff.2 fun m hm => ?_
  have hm := h m hm
  cases m with
  | doorbell => exact absurd hm (by simp [Milestone.isDoorbell])
  | read | detection | feedback => rfl

theorem passages_eq_self {ms : List Milestone} (h : ∀ m ∈ ms, m.isDoorbell = false) : passages ms = ms :=
  List.filter_eq_self.2 fun m hm => by simp [h m hm]

/-- A step that succeeds ends at the hardware doorbell, and has taken the frames up to it if there are any. -/
theorem Stepped.of_ok {depth first next : Nat} {busy : Bool} {ms : List Milestone}
    (h : Stepped depth first (.ok busy) next ms) :
    ∃ found : UInt32, next = found.toNat ∧ answers ms = [found] ∧
      (first ≤ found.toNat → passages ms = roundTrips depth first (found.toNat - first)) := by
  cases h with
  | @restarted found h =>
    have hfeedback : ∀ m ∈ (List.range depth).map fun slot => Milestone.feedback slot (.ok ()), m.isDoorbell = false := by
      intro m hm
      obtain ⟨slot, -, rfl⟩ := List.mem_map.1 hm
      rfl
    refine ⟨found, rfl, ?_, fun hle => absurd h (Nat.not_lt.2 hle)⟩
    exact congrArg (found :: ·) (answers_eq_nil hfeedback)
  | @completed found h =>
    have htrips : ∀ m ∈ roundTrips depth first (found.toNat - first), m.isDoorbell = false :=
      fun _ => not_isDoorbell_of_mem_roundTrips
    exact ⟨found, rfl, congrArg (found :: ·) (answers_eq_nil htrips), fun _ => passages_eq_self htrips⟩

/-- The first of some steps whose hardware doorbells do not go down ends at its hardware doorbell, and the others go on there. -/
theorem run_succ_of_rising {polls : Nat} {d : Daemon n ρ σ δ} (ok : (run (polls + 1) d).result = .ok ())
    (rising : (d.transport.doorbell :: answers (run (polls + 1) d).journal.milestones).Pairwise (· ≤ ·)) :
    let next := (step d).state
    (∃ busy, (step d).result = .ok busy) ∧ answers (step d).journal.milestones = [next.transport.doorbell] ∧
      d.transport.doorbell ≤ next.transport.doorbell ∧ (run polls next).result = .ok () ∧
      (next.transport.doorbell :: answers (run polls next).journal.milestones).Pairwise (· ≤ ·) := by
  intro next
  have hstep := stepped d
  cases hresult : (step d).result with
  | error cause =>
    rw [run, Action.bind_of_result_error hresult] at ok
    exact absurd ok (by simp)
  | ok busy =>
    rw [hresult] at hstep
    obtain ⟨found, hcounter, hanswers, -⟩ := hstep.of_ok
    have hlocal : next.transport.doorbell = found := UInt32.toNat_inj.1 hcounter
    rw [run, Action.bind_of_result_ok hresult] at ok rising
    simp only [Journal.milestones_append, answers_append, hanswers, List.singleton_append] at rising
    obtain ⟨hfirst, hrest⟩ := List.pairwise_cons.1 rising
    rw [hlocal]
    exact ⟨⟨busy, rfl⟩, hanswers, hfirst found List.mem_cons_self, ok, hrest⟩

/-- Over a run without refusals and regressions every frame is taken once and in order. -/
theorem passages_run {polls : Nat} {d : Daemon n ρ σ δ} (ok : (run polls d).result = .ok ())
    (rising : (d.transport.doorbell :: answers (run polls d).journal.milestones).Pairwise (· ≤ ·)) :
    let last := (answers (run polls d).journal.milestones).getLastD d.transport.doorbell
    d.transport.doorbell ≤ last ∧ (run polls d).state.transport.doorbell = last ∧
      passages (run polls d).journal.milestones = roundTrips n d.counter (last.toNat - d.counter) := by
  induction polls generalizing d with
  | zero =>
    intro last
    have hnone : last.toNat - d.counter = 0 := Nat.sub_self _
    rw [hnone]
    exact ⟨UInt32.le_refl _, rfl, rfl⟩
  | succ polls ih =>
    obtain ⟨⟨busy, hresult⟩, hanswers, hle, hok, hrest⟩ := run_succ_of_rising ok rising
    obtain ⟨hlast, hend, hpass⟩ := ih hok hrest
    have hstep := stepped d
    rw [hresult] at hstep
    obtain ⟨found, hcounter, -, hpassages⟩ := hstep.of_ok
    rw [← hcounter] at hpassages
    rw [run, Action.bind_of_result_ok hresult]
    simp only [Journal.milestones_append, answers_append, passages_append, hanswers, List.singleton_append,
      List.getLastD_cons]
    refine ⟨UInt32.le_trans hle hlast, hend, ?_⟩
    rw [UInt32.le_iff_toNat_le] at hle hlast
    rw [hpassages hle, hpass]
    exact roundTrips_append hle hlast

/--
Every step takes the frames from the local doorbell up to the hardware doorbell in order, each in the slot of its number, up
to the first refusal (`Stepped`). In between the local doorbell never goes round. So over any number of steps whose hardware
doorbells do not go down and that meet no refusal, every frame is read, detected and acknowledged once and in order.
-/
theorem frames_taken_in_order (d : Daemon n ρ σ δ) :
    Stepped n d.counter (step d).result (step d).state.counter (step d).journal.milestones ∧
      (∀ count found, (stepUpTo count d).result = .ok found → d.counter + count ≤ found.toNat →
        (stepUpTo count d).state.counter = d.counter + count) ∧
      ∀ polls, (run polls d).result = .ok () →
        (d.transport.doorbell :: answers (run polls d).journal.milestones).Pairwise (· ≤ ·) →
        let last := (answers (run polls d).journal.milestones).getLastD d.transport.doorbell
        (run polls d).state.transport.doorbell = last ∧
          passages (run polls d).journal.milestones = roundTrips n d.counter (last.toNat - d.counter) := by
  refine ⟨stepped d, fun count found => counter_stepUpTo, fun polls ok rising => ?_⟩
  exact (passages_run ok rising).2

/-- Five frames in a ring of three buffers, one of which cannot be detected and one of which cannot be reported. -/
theorem five_frames_taken_in_order :
    let ring : ScriptedRing := { doorbellQueue := [2, 2, 5], frames := [[1], [2], [3], [4], [5]] }
    let detector : ScriptedDetector := { script := [{ failure := some "noise" }, { contacts := [{ index := some 1 }] }] }
    let d := ofParts (n := 3) { ring } { sink := ({ refused := 1 } : ScriptedSink) } detector
    (run 3 d).result = .ok () ∧ answers (run 3 d).journal.milestones = [2, 2, 5] ∧
      (run 3 d).state.transport.doorbell = 5 ∧ passages (run 3 d).journal.milestones = roundTrips 3 0 5 := by
  intro ring detector d
  have ok : (run 3 d).result = .ok () := Action.ok_of_isOk (by decide +kernel)
  have hanswers : answers (run 3 d).journal.milestones = [2, 2, 5] := by decide +kernel
  have rising : (d.transport.doorbell :: answers (run 3 d).journal.milestones).Pairwise (· ≤ ·) := by
    rw [hanswers]
    decide
  obtain ⟨hend, hpassages⟩ := (frames_taken_in_order d).2.2 3 ok rising
  rw [hanswers] at hend hpassages
  exact ⟨ok, hanswers, hend, hpassages⟩

end Daemon
end Digitizer
