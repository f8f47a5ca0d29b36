import Digitizer.Proofs.Touch.Disabled
import Digitizer.Proofs.Touch.Effects
import Digitizer.Proofs.Touch.RecentFrames

/-!
# Disabling again

A disable releases what the tracker holds. The tracker forgets it only when all releases were taken, so each attempt after a
refusal starts from the first release again, until one succeeds. A device that was disabled holds nothing: disabled again it
releases the pointer and nothing else, and enabled again it is new but for its selector (`disable_repeated_until_taken`).
-/
namespace Digitizer.Touchscreen
variable {σ : Type}

theorem plan_disable (d : Touchscreen σ) :
    d.plan .disable = d.tracker.remembered.toList.flatMap Report.release ++ [.touch false, Event.report] := by
  rw [plan, Report.releaseAll, List.append_assoc]
  rfl

/-- A new device with the sink, the settings and the selector of another. -/
def renewed (d : Touchscreen σ) : Touchscreen σ := { start d.sink d.config d.profile with selector := d.selector }

/-- A device that is disabled and has forgotten its contacts. -/
structure AtRest (off : Touchscreen σ) : Prop where
  disabled : off.enabled = false
  tracker : off.tracker = {}

section
variable {off : Touchscreen σ}

theorem AtRest.core_eq (h : off.AtRest) : { off.core with enabled := false, tracker := {} } = off.core := by
  obtain ⟨hdisabled, htracker⟩ := h
  rw [← hdisabled, ← htracker]
  rfl

theorem AtRest.plan (h : off.AtRest) : off.plan .disable = [.touch false, Event.report] := by
  rw [plan_disable, h.tracker]
  rfl

variable [Sink σ]

/-- To disable it again changes nothing, whether the sink refuses an event or not. -/
theorem AtRest.core_disable (h : off.AtRest) : (off.after .disable).core = off.core := by
  rw [core_after, ending]
  split
  · exact h.core_eq
  · have hcore := congrArg (fun c : Touchscreen Unit => { c with tracker := off.tracker }) h.core_eq
    exact hcore

/-- To enable it again gives a new device, apart from the selector. -/
theorem AtRest.enable (h : off.AtRest) : off.after .enable = off.renewed := by
  have hafter : off.after .enable = { off with enabled := true } := rfl
  rw [hafter, h.tracker]
  rfl

end

variable [Sink σ]

/-- The device after some attempts to disable it, one after another. -/
def attempted (d : Touchscreen σ) : Nat → Touchscreen σ
  | 0 => d
  | n + 1 => (d.attempted n).after .disable

theorem selector_attempted (d : Touchscreen σ) (n : Nat) : (d.attempted n).selector = d.selector := by
  induction n with
  | zero => rfl
  | succ n ih => exact (selector_after_disable (d.attempted n)).trans ih

/-- As long as attempts fail, the next one finds the same tracker. -/
theorem tracker_attempted {d : Touchscreen σ} {n : Nat}
    (refused : ∀ k < n, (serve .disable (d.attempted k)).result ≠ .ok ()) : (d.attempted n).tracker = d.tracker := by
  induction n with
  | zero => rfl
  | succ n ih =>
    have hbefore := ih fun k hk => refused k (Nat.lt_succ_of_lt hk)
    cases hr : (serve .disable (d.attempted n)).result with
    | ok a => exact absurd hr (refused n (Nat.lt_succ_self n))
    | error cause => exact (tracker_of_disable_error hr).trans hbefore

/--
A disable that succeeds releases the indices `held` and the pointer. To disable the device once more releases the pointer and
changes nothing. To enable it gives a new device that has only kept the selector, as all later requests show.
-/
structure Releases (d : Touchscreen σ) (held : List Nat) : Prop where
  delivered : d.delivered .disable = held.flatMap Report.release ++ [.touch false, Event.report]
  offeredAgain : (serve .disable (d.after .disable)).journal.offers <+: [.touch false, Event.report]
  deliveredAgain : (serve .disable (d.after .disable)).result = .ok () →
    (d.after .disable).delivered .disable = [.touch false, Event.report]
  unchanged : ((d.after .disable).after .disable).core = (d.after .disable).core
  enabled : (d.after .disable).after .enable = (d.after .disable).renewed
  selector : (d.after .disable).selector = d.selector
  later : ∀ later, (serveAll later : Action (Touchscreen σ) Errno _) ((d.after .disable).after .enable) =
    serveAll later (d.after .disable).renewed

theorem releases_of_ok {d : Touchscreen σ} (ok : (serve .disable d).result = .ok ()) :
    d.Releases d.tracker.remembered.toList := by
  have hrest : (d.after .disable).AtRest := ⟨enabled_after_disable d, tracker_of_disable_ok ok⟩
  refine ⟨?_, ?_, fun again => ?_, hrest.core_disable, hrest.enable, selector_after_disable d, fun later => ?_⟩
  · rw [← plan_disable]
    exact (sends_serve .disable d).all () ok
  · rw [← hrest.plan]
    exact offers_upTo .disable _
  · rw [← hrest.plan]
    exact (sends_serve .disable _).all () again
  · rw [hrest.enable]

/--
After any run over any sink: the indices of the last two frames are held. Disables are attempted one after another, and as long
as they fail the device is disabled and keeps its tracker and its selector. Each attempt offers the releases of all that is held
in ascending order, and the first that succeeds has sent all of them.
-/
theorem disable_repeated_until_taken (sink : σ) (config : Config) (p : Profile) (rs : List Request) :
    let d := (start sink config p).afterAll rs
    let frames := (start sink config p).recentFrames [] rs
    ∃ held : List Nat, held.Pairwise (· < ·) ∧
      (∀ i, i ∈ held ↔ i ∈ indices (frames.headD []) ∨ i ∈ indices (frames.tail.headD [])) ∧
      (∀ i ∈ held, (slotNumber i).toInt = i) ∧
      ∀ n, (∀ k < n, (serve .disable (d.attempted k)).result ≠ .ok ()) →
        (0 < n → (d.attempted n).enabled = false) ∧
        (d.attempted n).tracker = d.tracker ∧ (d.attempted n).selector = d.selector ∧
        (serve .disable (d.attempted n)).journal.offers <+:
          held.flatMap Report.release ++ [.touch false, Event.report] ∧
        ((serve .disable (d.attempted n)).result = .ok () → (d.attempted n).Releases held) := by
  intro d frames
  obtain ⟨hcurrent, hprevious⟩ := remembers sink config p rs
  refine ⟨d.tracker.remembered.toList, d.tracker.remembered.ascending, fun i => ?_, fun i hi => ?_, fun n refused => ?_⟩
  · rw [IndexSet.mem_toList, Tracker.mem_remembered, hcurrent, hprevious]
  · have hslot := lt_slots_afterAll sink config p rs i (IndexSet.mem_toList.1 hi)
    exact toInt_slotNumber (Profile.lt_of_lt_slots hslot)
  · have htracker := tracker_attempted refused
    refine ⟨fun hn => ?_, htracker, selector_attempted d n, ?_, fun ok => ?_⟩
    · obtain ⟨m, rfl⟩ := Nat.exists_eq_succ_of_ne_zero (Nat.ne_of_gt hn)
      exact enabled_after_disable _
    · rw [← htracker, ← plan_disable]
      exact offers_upTo .disable _
    · rw [← htracker]
      exact releases_of_ok ok

/-- The first disable is refused at its fourth event and the second at its first. The third releases all three contacts. -/
theorem disable_repeated_after_two_refusals :
    let touch (i : Nat) : Contact := { index := some i }
    let rs := [.update [touch 5, touch 0], .update [touch 3, touch 5]]
    let d := (start ({ taken := 39, refused := 2 } : ScriptedSink) {} Profile.standard).afterAll rs
    (∀ k < 2, (serve .disable (d.attempted k)).result ≠ .ok ()) ∧ (d.attempted 2).enabled = false ∧
      (d.delivered .disable).length = 3 ∧ (serve .disable (d.attempted 2)).result = .ok () ∧
      (d.attempted 2).Releases [0, 3, 5] := by
  intro touch rs d
  let frames := (start ({ taken := 39, refused := 2 } : ScriptedSink) {} Profile.standard).recentFrames [] rs
  obtain ⟨held, ascending, members, -, hattempts⟩ :=
    disable_repeated_until_taken ({ taken := 39, refused := 2 } : ScriptedSink) {} Profile.standard rs
  have hheld : held = [0, 3, 5] := by
    have hlast : indices (frames.headD []) = .ofList [3, 5] := by decide +kernel
    have hbefore : indices (frames.tail.headD []) = .ofList [5, 0] := by decide +kernel
    refine eq_of_ascending ascending (by decide) fun i => ?_
    rw [members, hlast, hbefore]
    simp only [IndexSet.mem_ofList, List.mem_cons, List.not_mem_nil, or_false]
    omega
  have hfailed : ∀ k < 2, (serve .disable (d.attempted k)).result.isOk = false := by decide +kernel
  have hrefused : ∀ k < 2, (serve .disable (d.attempted k)).result ≠ .ok () := by
    intro k hk ok
    have hk := hfailed k hk
    rw [ok] at hk
    exact absurd hk Bool.false_ne_true.symm
  have hok : (serve .disable (d.attempted 2)).result = .ok () := Action.ok_of_isOk (by decide +kernel)
  obtain ⟨hdisabled, -, -, -, hreleases⟩ := hattempts 2 hrefused
  exact ⟨hrefused, hdisabled Nat.two_pos, by decide +kernel, hok, hheld ▸ hreleases hok⟩

end Digitizer.Touchscreen
