import Digitizer.Proofs.Touch.Shown

/-!
# The frames that a device remembers

A tracker holds the indices of two frames. They are the last two frames that the device was given since a disable last
succeeded, whether these updates were carried out or not (`Remembers.run`).
-/
namespace Digitizer.Touchscreen
variable {σ : Type}

/-- A device holds the indices of the last two of some frames, of which the latest comes first. -/
structure Remembers (d : Touchscreen σ) (frames : List (List Contact)) : Prop where
  current : d.tracker.current = indices (frames.headD [])
  previous : d.tracker.previous = indices (frames.tail.headD [])

theorem remembers_start (sink : σ) (config : Config) (p : Profile) : Remembers (start sink config p) [] := ⟨rfl, rfl⟩

variable [Sink σ]

/--
The frames that a device has been given since a disable last succeeded, the latest first, as a run adds them to those given
before it. Of a frame only the contacts count that can be reported.
-/
def recentFrames (d : Touchscreen σ) (given : List (List Contact)) : List Request → List (List Contact)
  | [] => given
  | .update contacts :: rs => (d.after (.update contacts)).recentFrames (d.slotted contacts :: given) rs
  | .disable :: rs => (d.after .disable).recentFrames (if (serve .disable d).result.isOk then [] else given) rs
  | .enable :: rs => (d.after .enable).recentFrames given rs

variable {d : Touchscreen σ} {frames : List (List Contact)}

/-- An update makes its frame the latest, even if it fails. -/
theorem Remembers.update (h : d.Remembers frames) (contacts : List Contact) :
    (d.after (.update contacts)).Remembers (d.slotted contacts :: frames) := by
  have htracker := tracker_after_update d contacts
  constructor
  · rw [htracker, Tracker.current_advance, List.headD_cons]
  · rw [htracker, Tracker.previous_advance, List.tail_cons, h.current]

/-- A disable forgets all frames if it succeeds, and none if it fails. -/
theorem Remembers.disable (h : d.Remembers frames) :
    (d.after .disable).Remembers (if (serve .disable d).result.isOk then [] else frames) := by
  cases hr : (serve .disable d).result with
  | ok a =>
    have htracker := tracker_of_disable_ok hr
    constructor <;> rw [htracker] <;> rfl
  | error cause =>
    have htracker := tracker_of_disable_error hr
    constructor
    · rw [htracker, h.current]
      rfl
    · rw [htracker, h.previous]
      rfl

theorem Remembers.run (h : d.Remembers frames) (rs : List Request) :
    (d.afterAll rs).Remembers (d.recentFrames frames rs) := by
  induction rs generalizing d frames with
  | nil => exact h
  | cons r rs ih =>
    cases r with
    | update contacts => exact ih (h.update contacts)
    | disable => exact ih h.disable
    | enable => exact ih ⟨h.current, h.previous⟩

/-- After any run from the start, the tracker holds the last two frames. -/
theorem remembers (sink : σ) (config : Config) (p : Profile) (rs : List Request) :
    let d := start sink config p
    (d.afterAll rs).Remembers (d.recentFrames [] rs) := (remembers_start sink config p).run rs

/-- The tracker of a device that was started holds no index without a slot. -/
theorem lt_slots_afterAll (sink : σ) (config : Config) (p : Profile) (rs : List Request) :
    ∀ i ∈ ((start sink config p).afterAll rs).tracker.remembered, i < p.slots :=
  lt_slots_of_remembered (d := start sink config p) (fun i hi => by simp [start] at hi) rs

end Digitizer.Touchscreen
