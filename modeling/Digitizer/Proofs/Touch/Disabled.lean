import Digitizer.Proofs.Touch.PalmBlock

/-!
# A disabled device presses nothing

From a disable until the next enable every request lifts, even if some of them fail: what arrives is a beginning of releases.
Contacts that are touched meanwhile get into the tracker and no further. They are released with the others, so that nothing is
left down if nothing was refused.
-/
namespace Digitizer

/-- Whether an event says where a contact or the pointer is. -/
def Event.isPosition (e : Event) : Bool :=
  e.type == abs && [mtPositionX, mtPositionY, absX, absY].contains e.code

/-- Releasing moves nothing. -/
theorem isPosition_releaseAll (tracked : IndexSet) :
    ∀ e ∈ Report.releaseAll tracked ++ [Event.report], e.isPosition = false :=
  Report.forall_releaseAll (P := (·.isPosition = false)) (fun _ => rfl) rfl rfl rfl tracked

namespace Touchscreen
variable {σ : Type}

/-- A request that disables the device or finds it disabled. -/
def Silences (d : Touchscreen σ) : Request → Prop
  | .update _ => d.enabled = false
  | .disable => True
  | .enable => False

theorem silences_of_disabled {d : Touchscreen σ} (disabled : d.enabled = false) {r : Request} (idle : r ≠ .enable) :
    d.Silences r := by
  cases r with
  | update contacts => exact disabled
  | disable => trivial
  | enable => exact absurd rfl idle

variable {d : Touchscreen σ} {r : Request}

theorem Silences.blocked {contacts : List Contact} (h : d.Silences (.update contacts)) (frame : List Contact) :
    d.presents frame = false := by
  have disabled : d.enabled = false := h
  simp [presents, disabled]

/-- Such a request means to release a set of indices and nothing else. -/
theorem Silences.plan (h : d.Silences r) : ∃ tracked, d.plan r = Report.releaseAll tracked ++ [Event.report] := by
  cases r with
  | update contacts => exact ⟨_, plan_blocked (h.blocked _)⟩
  | disable => exact ⟨_, rfl⟩
  | enable => exact absurd h id

/-- It lifts everything if it gets so far. -/
theorem Silences.lifted {known : Receiver} (h : d.Silences r) (tracked : Tracked d known) :
    (known.replay (d.plan r)).AllLifted ∧ (known.replay (d.plan r)).pressed = false := by
  refine ⟨?_, ?_⟩
  · cases r with
    | update contacts => exact tracked.blocked (h.blocked _)
    | disable => exact tracked.disabled
    | enable => exact absurd h id
  · obtain ⟨tracked, hplan⟩ := h.plan
    rw [hplan]
    exact pressed_releaseAll tracked known

variable [Sink σ]

/-- What arrives of it neither presses nor moves anything. -/
theorem Silences.delivered (h : d.Silences r) :
    ∀ e ∈ d.delivered r, e.presses = false ∧ e.isPosition = false := by
  obtain ⟨tracked, hplan⟩ := h.plan
  intro e he
  have hmem := (sends_serve r d).upTo.mem he
  rw [hplan] at hmem
  exact ⟨presses_releaseAll tracked e hmem, isPosition_releaseAll tracked e hmem⟩

theorem enabled_after_disable (d : Touchscreen σ) : (d.after .disable).enabled = false := by
  cases hr : (serve .disable d).result with
  | ok a =>
    have henabled := congrArg enabled ((sends_serve .disable d).settled a hr)
    exact henabled
  | error cause =>
    have henabled := congrArg enabled (core_disable_of_error hr)
    exact henabled

theorem selector_after_disable (d : Touchscreen σ) : (d.after .disable).selector = d.selector := by
  cases hr : (serve .disable d).result with
  | ok a =>
    have hselector := congrArg selector ((sends_serve .disable d).settled a hr)
    exact hselector
  | error cause =>
    have hselector := congrArg selector (core_disable_of_error hr)
    exact hselector

/-- Whether it fails or not, it leaves the device disabled and the selector where it is. -/
theorem Silences.after (h : d.Silences r) : (d.after r).enabled = false ∧ (d.after r).selector = d.selector := by
  cases r with
  | update contacts => exact ⟨(enabled_after_update d contacts).trans h, selector_update_of_blocked (h.blocked _)⟩
  | disable => exact ⟨enabled_after_disable d, selector_after_disable d⟩
  | enable => exact absurd h id

/-- Requests of which the first disables the device, or finds it disabled, and none enables it. -/
structure Silence (d : Touchscreen σ) (r : Request) (rs : List Request) : Prop where
  first : d.Silences r
  idle : .enable ∉ rs

theorem Silence.next {r' : Request} {rs : List Request} (h : d.Silence r (r' :: rs)) : (d.after r).Silence r' rs where
  first := silences_of_disabled h.first.after.1 fun hr => h.idle (hr ▸ List.mem_cons_self)
  idle := fun hmem => h.idle (List.mem_cons_of_mem _ hmem)

theorem Silence.run {rs : List Request} (h : d.Silence r rs) :
    (∀ e ∈ d.transcript (r :: rs), e.presses = false ∧ e.isPosition = false) ∧
      (d.afterAll (r :: rs)).selector = d.selector := by
  induction rs generalizing d r with
  | nil =>
    refine ⟨fun e he => h.first.delivered e ?_, h.first.after.2⟩
    simpa using he
  | cons r' rs ih =>
    obtain ⟨hrest, hselector⟩ := ih h.next
    refine ⟨fun e he => ?_, hselector.trans h.first.after.2⟩
    rw [transcript_cons] at he
    rcases List.mem_append.1 he with he | he
    · exact h.first.delivered e he
    · exact hrest e he

/-- The last of these requests lifts everything if it succeeds as all before it. -/
theorem Silence.lifted {rs : List Request} (h : d.Silence r rs) {known : Receiver} (tracked : Tracked d known)
    (succeeds : d.Succeeds (r :: rs)) :
    (known.replay (d.transcript (r :: rs))).AllLifted ∧ (known.replay (d.transcript (r :: rs))).pressed = false := by
  induction rs generalizing d r known with
  | nil =>
    obtain ⟨ok, -⟩ := succeeds_cons.1 succeeds
    have hplan : d.transcript [r] = d.plan r := by
      rw [transcript_cons, transcript_nil, List.append_nil]
      exact (sends_serve r d).all () ok
    rw [hplan]
    exact h.first.lifted tracked
  | cons r' rs ih =>
    obtain ⟨ok, hrest⟩ := succeeds_cons.1 succeeds
    rw [transcript_cons, Receiver.replay_append]
    exact ih h.next (tracked.step_of_delivered ((sends_serve r d).all () ok)) hrest

/--
Over any sink, from the start of a disable up to any later request before the next enable: no slot and no pointer is pressed or
moved, and the selector stays. If the sink has refused no event of the run so far, then no slot is down and the pointer is up.
-/
theorem nothing_pressed_while_disabled (sink : σ) (config : Config) (p : Profile) (before : List Request)
    {rs : List Request} (idle : .enable ∉ rs) :
    let d := start sink config p
    let run := before ++ .disable :: rs
    (∀ e ∈ (d.afterAll before).transcript (.disable :: rs), e.presses = false ∧ e.isPosition = false) ∧
      (d.afterAll run).selector = (d.afterAll before).selector ∧
      (d.refusals run = [] → (d.shown run).AllLifted ∧ (d.shown run).pressed = false) := by
  intro d run
  have h : (d.afterAll before).Silence .disable rs := ⟨trivial, idle⟩
  obtain ⟨hevents, hselector⟩ := h.run
  refine ⟨hevents, ?_, fun unrefused => ?_⟩
  · rw [afterAll_append]
    exact hselector
  · obtain ⟨hbefore, hrest⟩ := succeeds_append.1 (succeeds_of_refusals unrefused)
    rw [shown_append]
    exact h.lifted ((tracked_start sink config p).run hbefore) hrest

/--
A disable is refused after it has lifted one of two touches, and so is the update after it. Nothing is pressed until a disable
succeeds. Where nothing is refused all is lifted, also a touch that came meanwhile.
-/
theorem nothing_pressed_after_refused_disable :
    let touch (i : Nat) : Contact := { index := some i }
    let before := [.update [touch 0, touch 1]]
    let rs := [.update [touch 1, touch 2], .disable, .update [touch 2]]
    let d := start { taken := 20, refused := 2 : ScriptedSink } {} Profile.standard
    let e := start ({} : ScriptedSink) {} Profile.standard
    .enable ∉ rs ∧
      d.refusals (before ++ [.disable]) = [Errno.inputOutput] ∧
      (∀ x ∈ (d.afterAll before).transcript (.disable :: rs), x.presses = false ∧ x.isPosition = false) ∧
      (d.afterAll (before ++ .disable :: rs)).selector = (d.afterAll before).selector ∧
      ((e.shown before).slot 1).down = true ∧ e.refusals (before ++ .disable :: rs) = [] ∧
      (e.shown (before ++ .disable :: rs)).AllLifted ∧ (e.shown (before ++ .disable :: rs)).pressed = false := by
  intro touch before rs d e
  have idle : .enable ∉ rs := by simp [rs]
  have unrefused : e.refusals (before ++ .disable :: rs) = [] := by decide +kernel
  obtain ⟨hevents, hselector, -⟩ :=
    nothing_pressed_while_disabled { taken := 20, refused := 2 : ScriptedSink } {} Profile.standard before idle
  obtain ⟨-, -, hlifted⟩ := nothing_pressed_while_disabled ({} : ScriptedSink) {} Profile.standard before idle
  obtain ⟨hslots, hpointer⟩ := hlifted unrefused
  refine ⟨idle, ?_, hevents, hselector, ?_, unrefused, hslots, hpointer⟩ <;> decide +kernel

end Touchscreen
end Digitizer
