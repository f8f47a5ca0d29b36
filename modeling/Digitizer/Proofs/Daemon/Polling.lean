import Digitizer.Proofs.Daemon.FrameOrder
import Digitizer.Proofs.Ring.Recovery

/-!
# How often the daemon polls

The frames between two doorbells may be taken in one step or in many. What the daemon does for a frame depends on the daemon
apart from its ring and on the bytes that are read (`alike_consume`), and a step that finds no regression only adds frames. So
runs that find the same frames up to the same doorbell do the same (`Course.unique`), however they are divided into steps.
-/
namespace Digitizer

/-- What is done for frames. How a reset is answered is left out. -/
inductive Act where
  | read (slot room : Nat) (answer : Except Errno Bytes)
  | detection (frame : Bytes) (before : List Contact) (outcome : Except String (List Contact))
  | emitted (e : Event)
  | refused (e : Event) (cause : Errno)
  | reset (slot : Nat)
  | feedback (slot : Nat) (answer : Except Errno Unit)

/-- The act that an entry is, if any. Probes, doorbell calls and log records are none. -/
def Entry.act? : Entry → Option Act
  | .call slot (.read room answer) => some (.read slot room answer)
  | .call slot (.reset _) => some (.reset slot)
  | .call slot (.feedback answer) => some (.feedback slot answer)
  | .detection frame before outcome => some (.detection frame before outcome)
  | .emitted e => some (.emitted e)
  | .refused e cause => some (.refused e cause)
  | _ => none

/-- The bytes that were read, if the entry is a read that succeeded. -/
def Entry.frame? : Entry → Option Bytes
  | .call _ (.read _ (.ok bytes)) => some bytes
  | _ => none

namespace Journal

/-- What is done for frames, in order. -/
def acts (j : Journal) : List Act := j.filterMap Entry.act?

/-- The frames that were read, in order. -/
def frames (j : Journal) : List Bytes := j.filterMap Entry.frame?

theorem acts_append (j k : Journal) : acts (j ++ k) = j.acts ++ k.acts := List.filterMap_append
theorem frames_append (j k : Journal) : frames (j ++ k) = j.frames ++ k.frames := List.filterMap_append

theorem acts_of_deeds {j k : Journal} (h : j.deeds = k) : j.acts = k.acts := by
  rw [← h]
  exact (filterMap_deeds (fun _ => rfl) (fun _ _ => rfl) j).symm

theorem frames_of_deeds {j k : Journal} (h : j.deeds = k) : j.frames = k.frames := by
  rw [← h]
  exact (filterMap_deeds (fun _ => rfl) (fun _ _ => rfl) j).symm

/-- Every frame that was read is a milestone. -/
theorem frames_of_milestones {j : Journal} (h : ∀ slot, .read slot (.ok ()) ∉ j.milestones) : j.frames = [] := by
  refine List.filterMap_eq_nil_iff.2 fun e he => ?_
  match e with
  | .call slot (.read room (.ok bytes)) =>
    have hmem : Milestone.read slot (.ok ()) ∈ j.milestones := List.mem_filterMap.2 ⟨_, he, rfl⟩
    exact absurd hmem (h slot)
  | .call _ (.read _ (.error _)) | .call _ (.ready _) | .call _ (.info _) | .call _ (.doorbell _) => rfl
  | .call _ (.feedback _) | .call _ (.reset _) => rfl
  | .notice _ | .detection .. | .emitted _ | .refused .. => rfl

end Journal

namespace Transport
variable {n : Nat} {ρ : Type} [Ring ρ]

/-- A buffer that is taken back moves the doorbell on, and nothing else changes. -/
theorem core_acknowledge {t : Transport n ρ} {a : Unit} (ok : (acknowledge t).result = .ok a) :
    (acknowledge t).state.core = { t.core with doorbell := t.doorbell + 1 } ∧
      (acknowledge t).journal.deeds = [Entry.takenBack t.slot] := by
  rcases acknowledge_spec t with ⟨-, hdoorbell, hdeeds⟩ | ⟨cause, herror, -⟩
  · rw [core_of_settings (keeps_acknowledge t), hdoorbell]
    exact ⟨rfl, hdeeds⟩
  · exact absurd (ok.symm.trans herror) (by simp)

end Transport

namespace Daemon
variable {n : Nat} {ρ σ δ ε α β : Type}

/-- The daemon without its ring. -/
def core (d : Daemon n ρ σ δ) : Daemon n Unit σ δ := { d with transport := d.transport.core }

theorem exists_transport_of_core {d e : Daemon n ρ σ δ} (h : d.core = e.core) :
    ∃ t, t.core = d.transport.core ∧ e = { d with transport := t } := by
  refine ⟨e.transport, (congrArg transport h).symm, ?_⟩
  cases d; cases e
  simp only [core, mk.injEq] at h ⊢
  simp [h]

/-! ## Actions that go the same way over every ring -/

/-- Two outcomes that differ in nothing but the ring, probes, log records and the answers to resets. -/
structure Alike (o p : Outcome (Daemon n ρ σ δ) ε α) : Prop where
  result : o.result = p.result
  core : o.state.core = p.state.core
  acts : o.journal.acts = p.journal.acts

/-- An action that goes the same way on daemons that differ in their rings alone. -/
def Uniform (p : Action (Daemon n ρ σ δ) ε α) : Prop := ∀ d e : Daemon n ρ σ δ, d.core = e.core → Alike (p d) (p e)

theorem uniform_pure (a : α) : Uniform (pure a : Action (Daemon n ρ σ δ) ε α) := fun _ _ h => ⟨rfl, h, rfl⟩

theorem uniform_notify (m : Notice) : Uniform (Action.notify m : Action (Daemon n ρ σ δ) ε Unit) :=
  fun _ _ h => ⟨rfl, h, rfl⟩

theorem uniform_modify {f : Daemon n ρ σ δ → Daemon n ρ σ δ} {g : Daemon n Unit σ δ → Daemon n Unit σ δ}
    (h : ∀ d, (f d).core = g d.core) : Uniform (Action.modify f : Action (Daemon n ρ σ δ) ε Unit) := by
  intro d e same
  refine ⟨rfl, ?_, rfl⟩
  change (f d).core = (f e).core
  rw [h, h, same]

theorem Alike.bind {p q : Action (Daemon n ρ σ δ) ε α} {d e : Daemon n ρ σ δ} (h : Alike (p d) (q e))
    {f : α → Action (Daemon n ρ σ δ) ε β}
    (hf : ∀ a, (p d).result = .ok a → Alike (f a (p d).state) (f a (q e).state)) :
    Alike ((p >>= f) d) ((q >>= f) e) := by
  have hresult := h.result
  cases ha : (p d).result with
  | ok a =>
    rw [ha] at hresult
    have hrest := hf a ha
    rw [Action.bind_of_result_ok ha, Action.bind_of_result_ok hresult.symm]
    exact ⟨hrest.result, hrest.core, by rw [Journal.acts_append, Journal.acts_append, h.acts, hrest.acts]⟩
  | error cause =>
    rw [ha] at hresult
    rw [Action.bind_of_result_error ha, Action.bind_of_result_error hresult.symm]
    exact ⟨rfl, h.core, h.acts⟩

theorem Uniform.bind {p : Action (Daemon n ρ σ δ) ε α} {f : α → Action (Daemon n ρ σ δ) ε β} (hp : Uniform p)
    (hf : ∀ a, Uniform (f a)) : Uniform (p >>= f) := fun d e same =>
  (hp d e same).bind fun a _ => hf a _ _ (hp d e same).core

/-- What an action looks at must not be the ring. -/
theorem uniform_get_bind {f : Daemon n ρ σ δ → Action (Daemon n ρ σ δ) ε β}
    (h : ∀ d e : Daemon n ρ σ δ, d.core = e.core → f d = f e) (hf : ∀ d, Uniform (f d)) : Uniform (Action.get >>= f) := by
  intro d e same
  rw [Action.get_bind, Action.get_bind, h d e same]
  exact hf e d e same

theorem uniform_countFrame (bytes : Nat) : Uniform (countFrame bytes : Action (Daemon n ρ σ δ) ε Unit) := by
  refine (uniform_modify (g := fun c => { c with frames := c.frames + 1 }) fun _ => rfl).bind fun _ =>
    uniform_get_bind (fun d e same => ?_) fun d => ?_
  · obtain ⟨t, -, rfl⟩ := exists_transport_of_core same
    rfl
  · split
    · exact uniform_notify _
    · split
      · exact uniform_notify _
      · exact uniform_pure ()

theorem uniform_report [Detector δ] [Sink σ] (bytes : Nat) :
    Uniform (report bytes : Action (Daemon n ρ σ δ) ε (Option FrameFault)) := by
  have hdetect : Uniform (detect bytes : Action (Daemon n ρ σ δ) ε (Except String (List Contact))) := by
    intro d e same
    obtain ⟨t, ht, rfl⟩ := exists_transport_of_core same
    refine ⟨rfl, ?_, rfl⟩
    exact congrArg (fun c : Transport n Unit => { (detect bytes d : Outcome _ ε _).state with transport := c }) ht.symm
  have hupdate : ∀ contacts, Uniform (Action.attempt (onScreen (Touchscreen.update contacts)) :
      Action (Daemon n ρ σ δ) ε (Except Errno Unit)) := by
    intro contacts d e same
    obtain ⟨t, ht, rfl⟩ := exists_transport_of_core same
    refine ⟨rfl, ?_, rfl⟩
    exact congrArg (fun c : Transport n Unit =>
      { d with transport := c, screen := (Touchscreen.update contacts d.screen).state }) ht.symm
  refine (uniform_modify (g := fun c => { c with contacts := [] }) fun _ => rfl).bind fun _ => hdetect.bind fun found => ?_
  cases found with
  | error reason => exact uniform_pure _
  | ok contacts =>
    refine (hupdate contacts).bind fun result => ?_
    cases result <;> exact uniform_pure _

section
variable [Ring ρ]

/-- A reset goes the same way whatever the answer to it, if the answer goes to the log alone. -/
theorem uniform_reset {log : Except TransportError Unit → Action (Daemon n ρ σ δ) ε Unit}
    (hlog : ∀ answer d, (log answer d).result = .ok () ∧ (log answer d).state = d ∧ (log answer d).journal.acts = []) :
    Uniform (Action.attempt (onTransport Transport.reset) >>= log) := by
  have htry : ∀ d : Daemon n ρ σ δ,
      let o := (Action.attempt (onTransport Transport.reset) >>= log) d
      o.result = .ok () ∧ o.state.core = d.core ∧ o.journal.acts = [.reset d.transport.slot] := by
    intro d o
    obtain ⟨answer, h⟩ := Transport.commands_reset d.transport
    have hreset : (Action.attempt (onTransport Transport.reset) d : Outcome _ ε (Except TransportError Unit)) =
        ⟨.ok (answer.mapError (⟨.reset, ·⟩)), { d with transport := (Transport.reset d.transport).state },
          (Transport.reset d.transport).journal⟩ := by
      rw [← h.result]
      rfl
    have hcore := congrArg (fun c : Transport n Unit => ({ d with transport := c } : Daemon n Unit σ δ)) h.core
    have hacts : (Transport.reset d.transport).journal.acts = [.reset d.transport.slot] := Journal.acts_of_deeds h.deeds
    obtain ⟨hresult, hstate, hquiet⟩ := hlog (answer.mapError (⟨.reset, ·⟩))
      { d with transport := (Transport.reset d.transport).state }
    have ho : o = _ := Action.bind_of_ok hreset log
    rw [ho, Journal.acts_append, hacts, hquiet]
    exact ⟨hresult, (congrArg core hstate).trans hcore, rfl⟩
  intro d e same
  obtain ⟨hd, hdcore, hdacts⟩ := htry d
  obtain ⟨he, hecore, heacts⟩ := htry e
  have hslot : d.transport.slot = e.transport.slot := Transport.slot_of_core (congrArg transport same)
  have hacts := hdacts.trans (congrArg (fun slot => [Act.reset slot]) hslot)
  exact ⟨hd.trans he.symm, hdcore.trans (same.trans hecore.symm), hacts.trans heacts.symm⟩

theorem uniform_recover : Uniform (recover : Action (Daemon n ρ σ δ) ε Unit) := by
  refine uniform_get_bind (fun d e same => ?_) fun d => (uniform_notify _).bind fun _ =>
    (uniform_modify (g := fun c => { c with failures := 0 }) fun _ => rfl).bind fun _ => uniform_reset fun answer s => ?_
  · obtain ⟨t, -, rfl⟩ := exists_transport_of_core same
    rfl
  · cases answer <;> exact ⟨rfl, rfl, rfl⟩

variable [Detector δ] [Sink σ]

theorem uniform_handle (bytes : Nat) : Uniform (handle bytes : Action (Daemon n ρ σ δ) ε Unit) := by
  refine (uniform_countFrame bytes).bind fun _ => (uniform_report bytes).bind fun fault => ?_
  cases fault with
  | none => exact uniform_modify (g := fun c => { c with failures := 0 }) fun _ => rfl
  | some fault =>
    refine (uniform_modify (g := fun c => { c with failures := c.failures + 1 }) fun _ => rfl).bind fun _ =>
      (uniform_notify _).bind fun _ => uniform_get_bind (fun d e same => ?_) fun d => ?_
    · obtain ⟨t, -, rfl⟩ := exists_transport_of_core same
      rfl
    · split
      · exact uniform_recover
      · exact uniform_pure ()

/-! ## One frame -/

/-- A frame that is taken reads one frame of bytes. -/
theorem frames_consume {d : Daemon n ρ σ δ} {a : Unit} (ok : (consume d).result = .ok a) :
    ∃ bytes, (consume d).journal.frames = [bytes] ∧ (Transport.read d.frame.room d.transport).result = .ok bytes := by
  obtain ⟨answer, h, ⟨bytes, rfl, hread⟩ | ⟨cause, rfl, hread⟩⟩ := readFrame_cases d
  · obtain ⟨next, hread⟩ : ∃ next, readFrame d = ⟨.ok bytes.length, next, _⟩ := ⟨_, hread⟩
    have hhandle := passes_handle (ε := TransportError) (n := n) (ρ := ρ) (σ := σ) (δ := δ) bytes.length
    obtain ⟨u, hu⟩ := hhandle.total next
    have hhandled : (handle bytes.length next : Outcome _ TransportError Unit).journal.frames = [] :=
      Journal.frames_of_milestones fun slot hmem => by simp [hhandle.milestones next] at hmem
    rw [consume, Action.bind_of_ok hread, Action.bind_of_result_ok hu] at ok ⊢
    obtain ⟨-, hgiven⟩ := Transport.core_acknowledge (t := (handle bytes.length next).state.transport) ok
    have hgiven : (onTransport Transport.acknowledge (handle bytes.length next).state).journal.frames = [] :=
      Journal.frames_of_deeds hgiven
    refine ⟨bytes, ?_, h.result⟩
    rw [Journal.frames_append, Journal.frames_append, Journal.frames_of_deeds h.deeds, hhandled, hgiven]
    rfl
  · rw [consume, Action.bind_of_error hread] at ok
    exact absurd ok (by simp)

omit [Detector δ] [Sink σ] in
/-- The same bytes fill the frame buffers in the same way. -/
theorem alike_readFrame {d e : Daemon n ρ σ δ} (same : d.core = e.core) {bytes : Bytes}
    (hd : (Transport.read d.frame.room d.transport).result = .ok bytes)
    (he : (Transport.read e.frame.room e.transport).result = .ok bytes) : Alike (readFrame d) (readFrame e) := by
  have hspec : ∀ {d : Daemon n ρ σ δ}, (Transport.read d.frame.room d.transport).result = .ok bytes →
      (readFrame d).result = .ok bytes.length ∧ (readFrame d).state.core = { d.core with frame := d.frame.fill bytes } ∧
        (readFrame d).journal.acts = [.read d.transport.slot d.frame.room (.ok bytes)] := by
    intro d ok
    obtain ⟨answer, h, ⟨found, rfl, hread⟩ | ⟨cause, rfl, -⟩⟩ := readFrame_cases d
    · obtain rfl : found = bytes := Except.ok.inj (h.result.symm.trans ok)
      have hcore := congrArg
        (fun c : Transport n Unit => ({ d with transport := c, frame := d.frame.fill found } : Daemon n Unit σ δ)) h.core
      rw [hread]
      exact ⟨rfl, hcore, Journal.acts_of_deeds h.deeds⟩
    · exact absurd (h.result.symm.trans ok) (by simp [Except.mapError])
  obtain ⟨hdresult, hdcore, hdacts⟩ := hspec hd
  obtain ⟨heresult, hecore, heacts⟩ := hspec he
  obtain ⟨t, ht, rfl⟩ := exists_transport_of_core same
  refine ⟨hdresult.trans heresult.symm, ?_, ?_⟩
  · rw [hdcore, hecore, same]
  · rw [hdacts, heacts, Transport.slot_of_core ht]

omit [Detector δ] [Sink σ] in
theorem alike_acknowledge {d e : Daemon n ρ σ δ} (same : d.core = e.core) {a b : Unit}
    (hd : (onTransport Transport.acknowledge d).result = .ok a)
    (he : (onTransport Transport.acknowledge e).result = .ok b) :
    Alike (onTransport Transport.acknowledge d) (onTransport Transport.acknowledge e) := by
  obtain ⟨hdcore, hddeeds⟩ := Transport.core_acknowledge (t := d.transport) hd
  obtain ⟨hecore, hedeeds⟩ := Transport.core_acknowledge (t := e.transport) he
  obtain ⟨t, ht, rfl⟩ := exists_transport_of_core same
  have htransport : (Transport.acknowledge d.transport).state.core = (Transport.acknowledge t).state.core := by
    rw [hdcore, hecore, ht, Transport.doorbell_of_core ht]
  have hacts : (Transport.acknowledge d.transport).journal.acts = (Transport.acknowledge t).journal.acts := by
    rw [Journal.acts_of_deeds hddeeds, Journal.acts_of_deeds hedeeds, Transport.slot_of_core ht]
  exact ⟨hd.trans he.symm, congrArg (fun c : Transport n Unit => ({ d with transport := c } : Daemon n Unit σ δ)) htransport,
    hacts⟩

/-- Two daemons that differ in their rings alone still do after the same frame, and have done the same for it. -/
theorem alike_consume {d e : Daemon n ρ σ δ} (same : d.core = e.core) {a b : Unit} (hd : (consume d).result = .ok a)
    (he : (consume e).result = .ok b) (frames : (consume d).journal.frames = (consume e).journal.frames) :
    Alike (consume d) (consume e) := by
  obtain ⟨bytes, hdframes, hdread⟩ := frames_consume hd
  obtain ⟨bytes', heframes, heread⟩ := frames_consume he
  obtain rfl : bytes = bytes' := List.singleton_inj.1 (hdframes.symm.trans (frames.trans heframes))
  have hread := alike_readFrame same hdread heread
  refine hread.bind fun count hcount => ?_
  have hcount' := hread.result.symm.trans hcount
  have hhandle := uniform_handle (ε := TransportError) count _ _ hread.core
  refine hhandle.bind fun u hu => ?_
  have hu' := hhandle.result.symm.trans hu
  rw [consume, Action.bind_of_result_ok hcount, Action.bind_of_result_ok hu] at hd
  rw [consume, Action.bind_of_result_ok hcount', Action.bind_of_result_ok hu'] at he
  dsimp only at hd he
  exact alike_acknowledge hhandle.core hd he

/-! ## Frames in a row -/

variable (ρ) in
/--
Frames that are taken one after another, and what is done for them. Between two frames the ring may change, and nothing else.
-/
inductive Course : Daemon n Unit σ δ → List Bytes → List Act → Daemon n Unit σ δ → Prop
  | nil (c : Daemon n Unit σ δ) : Course c [] [] c
  | cons {c last : Daemon n Unit σ δ} {d : Daemon n ρ σ δ} {bytes : Bytes} {frames : List Bytes} {acts : List Act}
      (same : d.core = c) (taken : (consume d).result = .ok ()) (read : (consume d).journal.frames = [bytes])
      (rest : Course (consume d).state.core frames acts last) :
    Course c (bytes :: frames) ((consume d).journal.acts ++ acts) last

theorem Course.append {c mid last : Daemon n Unit σ δ} {fs gs : List Bytes} {as bs : List Act}
    (first : Course ρ c fs as mid) (second : Course ρ mid gs bs last) : Course ρ c (fs ++ gs) (as ++ bs) last := by
  induction first with
  | nil => exact second
  | cons same taken read _ ih =>
    rw [List.append_assoc]
    exact .cons same taken read (ih second)

/-- The frames decide what is done and where it leads. -/
theorem Course.unique {c last last' : Daemon n Unit σ δ} {frames : List Bytes} {acts acts' : List Act}
    (h : Course ρ c frames acts last) (h' : Course ρ c frames acts' last') : acts = acts' ∧ last = last' := by
  induction h generalizing acts' with
  | nil =>
    cases h'
    exact ⟨rfl, rfl⟩
  | cons same taken read _ ih =>
    cases h' with
    | cons same' taken' read' rest' =>
      have hframe := alike_consume (same.trans same'.symm) taken taken' (read.trans read'.symm)
      rw [← hframe.core] at rest'
      obtain ⟨hacts, hlast⟩ := ih rest'
      exact ⟨by rw [hframe.acts, hacts], hlast⟩

/-- Frames that are taken one after another are a course, whatever their number. -/
theorem course_consumeAll {count : Nat} {d : Daemon n ρ σ δ} {a : Unit} (ok : (consumeAll count d).result = .ok a) :
    let o := consumeAll count d
    Course ρ d.core o.journal.frames o.journal.acts o.state.core ∧ o.journal.frames.length = count := by
  induction count generalizing d with
  | zero => exact ⟨.nil d.core, rfl⟩
  | succ count ih =>
    rw [consumeAll] at ok ⊢
    cases hframe : (consume d).result with
    | error cause =>
      rw [Action.bind_of_result_error hframe] at ok
      exact absurd ok (by simp)
    | ok u =>
      obtain ⟨bytes, hread, -⟩ := frames_consume hframe
      rw [Action.bind_of_result_ok hframe] at ok ⊢
      obtain ⟨hrest, hlength⟩ := ih ok
      simp only [Journal.frames_append, Journal.acts_append, hread]
      exact ⟨.cons rfl hframe hread hrest, congrArg (· + 1) hlength⟩

/-! ## Steps in a row -/

omit [Detector δ] [Sink σ] in
/-- A doorbell call that finds no regression does nothing for frames. -/
theorem idle_pollDoorbell {d : Daemon n ρ σ δ} {found : UInt32}
    (ok : (onTransport Transport.pollDoorbell d).result = .ok found) (ahead : d.counter ≤ found.toNat) :
    (onTransport Transport.pollDoorbell d).state.core = d.core ∧
      (onTransport Transport.pollDoorbell d).journal.acts = [] ∧
      (onTransport Transport.pollDoorbell d).journal.frames = [] := by
  have hpoll := Transport.polled d.transport
  have hcore := Transport.core_of_settings (Transport.keeps_pollDoorbell d.transport)
  have hanswer : (Transport.pollDoorbell d.transport).result = .ok found := ok
  rw [hanswer] at hpoll
  generalize hnext : (Transport.pollDoorbell d.transport).state.doorbell = next at hpoll hcore
  generalize hdeeds : (Transport.pollDoorbell d.transport).journal.deeds = deeds at hpoll
  cases hpoll with
  | ahead =>
    refine ⟨?_, Journal.acts_of_deeds hdeeds, Journal.frames_of_deeds hdeeds⟩
    exact congrArg (fun c : Transport n Unit => ({ d with transport := c } : Daemon n Unit σ δ)) hcore
  | behind below =>
    rw [UInt32.lt_iff_toNat_lt] at below
    exact absurd ahead (Nat.not_le.2 below)

/-- A step that succeeds and does not move the local doorbell down takes the frames in between. -/
theorem course_step {d : Daemon n ρ σ δ} {busy : Bool} (ok : (step d).result = .ok busy)
    (rising : d.counter ≤ (step d).state.counter) :
    let o := step d
    Course ρ d.core o.journal.frames o.journal.acts o.state.core ∧ o.journal.frames.length = o.state.counter - d.counter := by
  rw [step] at ok rising ⊢
  cases hpoll : (onTransport Transport.pollDoorbell d).result with
  | error cause =>
    rw [Action.bind_of_result_error hpoll] at ok
    exact absurd ok (by simp)
  | ok found =>
    have hcounter := counter_poll hpoll
    have hidle := idle_pollDoorbell hpoll
    rw [Action.bind_of_result_ok hpoll, Action.get_bind] at ok rising ⊢
    generalize (onTransport Transport.pollDoorbell d).state = e at hcounter hidle ok rising ⊢
    obtain ⟨-, u, hu⟩ := Action.of_bind_const_ok ok
    rw [Action.bind_const] at rising ⊢
    have hfits : e.counter + (found.toNat - e.counter) < UInt32.size := by
      have hlt := found.toNat_lt_size
      omega
    have hprogress := progress_consumeAll hfits
    change (consumeAll (found.toNat - e.counter) e).result = .ok u at hu
    rw [hu] at hprogress
    have hend : (consumeAll (found.toNat - e.counter) e).state.counter = e.counter + (found.toNat - e.counter) :=
      hprogress.of_ok
    have hrising : d.counter ≤ (consumeAll (found.toNat - e.counter) e).state.counter := rising
    obtain ⟨hcore, hacts, hframes⟩ := hidle (by omega)
    obtain ⟨hcourse, hlength⟩ := course_consumeAll hu
    rw [hcore] at hcourse
    simp only [Journal.frames_append, Journal.acts_append, hacts, hframes, List.nil_append]
    refine ⟨hcourse, hlength.trans ?_⟩
    change _ = (consumeAll (found.toNat - e.counter) e).state.counter - d.counter
    omega

/-- So do steps whose hardware doorbells do not go down, and their frames are those from the first doorbell to the last. -/
theorem course_run {polls : Nat} {d : Daemon n ρ σ δ} (ok : (run polls d).result = .ok ())
    (rising : (d.transport.doorbell :: answers (run polls d).journal.milestones).Pairwise (· ≤ ·)) :
    let o := run polls d
    Course ρ d.core o.journal.frames o.journal.acts o.state.core ∧ o.journal.frames.length = o.state.counter - d.counter := by
  induction polls generalizing d with
  | zero => exact ⟨.nil d.core, (Nat.sub_self d.counter).symm⟩
  | succ polls ih =>
    obtain ⟨⟨busy, hresult⟩, -, hle, hok, hrest⟩ := run_succ_of_rising ok rising
    obtain ⟨hlast, hend, -⟩ := passages_run hok hrest
    rw [← hend, UInt32.le_iff_toNat_le] at hlast
    rw [UInt32.le_iff_toNat_le] at hle
    obtain ⟨hfirst, hcount⟩ := course_step hresult hle
    obtain ⟨hcourse, hcount'⟩ := ih hok hrest
    rw [run, Action.bind_of_result_ok hresult]
    simp only [Journal.frames_append, Journal.acts_append, List.length_append, hcount, hcount']
    refine ⟨hfirst.append hcourse, ?_⟩
    simp only [counter]
    omega

/--
So many steps succeed, find hardware doorbells that do not go down, end at the doorbell `last`, and read the frames that
`content` gives to the numbers from the local doorbell on.
-/
structure Reaches (d : Daemon n ρ σ δ) (polls : Nat) (content : Nat → Bytes) (last : UInt32) : Prop where
  ok : (run polls d).result = .ok ()
  rising : (d.transport.doorbell :: answers (run polls d).journal.milestones).Pairwise (· ≤ ·)
  ends : (answers (run polls d).journal.milestones).getLastD d.transport.doorbell = last
  content : ∀ k bytes, (run polls d).journal.frames[k]? = some bytes → bytes = content (d.counter + k)

/-- Two runs from the same local doorbell to the same last one read the same frames. -/
theorem Reaches.frames {d e : Daemon n ρ σ δ} {polls polls' : Nat} {content : Nat → Bytes} {last : UInt32}
    (hd : d.Reaches polls content last) (he : e.Reaches polls' content last) (same : d.counter = e.counter) :
    (run polls d).journal.frames = (run polls' e).journal.frames := by
  have hlength : ∀ {d : Daemon n ρ σ δ} {polls : Nat}, d.Reaches polls content last →
      (run polls d).journal.frames.length = last.toNat - d.counter := by
    intro d polls h
    obtain ⟨-, hend, -⟩ := passages_run h.ok h.rising
    rw [(course_run h.ok h.rising).2, counter, hend, h.ends]
  refine List.ext_getElem (by rw [hlength hd, hlength he, same]) fun k hk hk' => ?_
  rw [hd.content k _ (List.getElem?_eq_getElem hk), he.content k _ (List.getElem?_eq_getElem hk'), same]

/--
How the way to a hardware doorbell is divided into steps does not matter: from daemons that differ in their rings alone, any two
runs that reach it over the same frames do the same for them, and leave daemons that differ in their rings alone. The detector
and the sink may fail on the way, and resets too.
-/
theorem work_independent_of_polls {d e : Daemon n ρ σ δ} (same : d.core = e.core) {polls polls' : Nat}
    {content : Nat → Bytes} {last : UInt32} (hd : d.Reaches polls content last) (he : e.Reaches polls' content last) :
    (run polls d).journal.acts = (run polls' e).journal.acts ∧ (run polls d).state.core = (run polls' e).state.core := by
  have hcounter : d.counter = e.counter := congrArg (fun c : Daemon n Unit σ δ => c.transport.doorbell.toNat) same
  have hcourse := (course_run hd.ok hd.rising).1
  have hcourse' := (course_run he.ok he.rising).1
  rw [hd.frames he hcounter, same] at hcourse
  exact hcourse.unique hcourse'

/--
Three frames in one step and in one step each. The second cannot be detected, and the sink refuses an event of the third. The
controllers are ready at different times.
-/
theorem one_step_does_what_three_steps_do :
    let frames : List Bytes := [[1], [2, 3], [4]]
    let content (number : Nat) : Bytes := frames.getD number []
    let detector : ScriptedDetector :=
      { script := [{ contacts := [{ index := some 1 }] }, { failure := some "noise" }, { contacts := [{ index := some 2 }] }] }
    let daemon (ring : ScriptedRing) : Daemon 2 ScriptedRing ScriptedSink ScriptedDetector :=
      ofParts { ring, info := { bufferSize := 4 } } { sink := { taken := 12, refused := 1 } } detector
    let d := daemon { doorbellQueue := [3], frames }
    let e := daemon { doorbellQueue := [1, 2, 3], frames, ready := { queue := [false, false, true], final := true } }
    d.core = e.core ∧ d.Reaches 1 content 3 ∧ e.Reaches 3 content 3 ∧
      (run 1 d).journal.acts = (run 3 e).journal.acts ∧ (run 1 d).state.core = (run 3 e).state.core := by
  intro frames content detector daemon d e
  have hcontent : ∀ k bytes, frames[k]? = some bytes → bytes = content (0 + k) := by
    intro k bytes h
    simp [content, h]
  have hdframes : (run 1 d).journal.frames = frames := by decide +kernel
  have heframes : (run 3 e).journal.frames = frames := by decide +kernel
  have hd : d.Reaches 1 content 3 := by
    refine ⟨Action.ok_of_isOk (by decide +kernel), by decide +kernel, by decide +kernel, ?_⟩
    rw [hdframes]
    exact hcontent
  have he : e.Reaches 3 content 3 := by
    refine ⟨Action.ok_of_isOk (by decide +kernel), by decide +kernel, by decide +kernel, ?_⟩
    rw [heframes]
    exact hcontent
  have same : d.core = e.core := rfl
  exact ⟨same, hd, he, work_independent_of_polls same hd he⟩

end

end Daemon
end Digitizer
