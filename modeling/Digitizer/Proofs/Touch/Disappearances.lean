import Digitizer.Touch.Tracker

/-!
# How often contacts disappear

Clears divide what a tracker is asked into episodes, and each episode is a list of frames. Of every frame the tracker knows
its indices, those of the frame before it in the episode, and which of these are gone (`Chronicle`). So over an episode an index
is gone as often as it is in a frame and not in the next (`every_disappearance_counted`), whatever else is said of the contacts.
-/
namespace Digitizer

/-- An index occurs in a frame, at a contact of whatever kind. -/
def Occurs (i : Nat) (frame : List Contact) : Prop := ∃ c ∈ frame, c.index = some i

instance (i : Nat) (frame : List Contact) : Decidable (Occurs i frame) := List.decidableBEx _ _

theorem not_occurs_nil (i : Nat) : ¬Occurs i [] := fun ⟨_, hc, _⟩ => absurd hc List.not_mem_nil

/-- How many times an index is in a frame and not in the next. -/
def disappearances (i : Nat) (frames : List (List Contact)) : Nat :=
  (frames.zip frames.tail).countP fun (frame, next) => Occurs i frame ∧ ¬Occurs i next

theorem disappearances_cons (i : Nat) (before frame : List Contact) (frames : List (List Contact)) :
    disappearances i (before :: frame :: frames) =
      disappearances i (frame :: frames) + if Occurs i before ∧ ¬Occurs i frame then 1 else 0 := by
  simp [disappearances, List.countP_cons]

/-- Nothing disappears from a frame without contacts. -/
theorem disappearances_nil_cons (i : Nat) (frames : List (List Contact)) :
    disappearances i ([] :: frames) = disappearances i frames := by
  cases frames with
  | nil => rfl
  | cons frame frames => rw [disappearances_cons, if_neg fun h => not_occurs_nil i h.1, Nat.add_zero]

namespace Tracker

/-- What can be asked of a tracker. -/
inductive Request where
  | advance (frame : List Contact)
  | clear

/-- The tracker after a request. -/
def after (t : Tracker) : Request → Tracker
  | .advance frame => t.advance frame
  | .clear => t.clear

/-- A frame and the tracker right after it. -/
abbrev Record : Type := List Contact × Tracker

/-- The frames of a run with the tracker after each of them, in one list for each time between clears. -/
def episodes (t : Tracker) : List Request → List (List Record)
  | [] => [[]]
  | .advance frame :: rs =>
    let next := t.after (.advance frame)
    (next.episodes rs).modifyHead ((frame, next) :: ·)
  | .clear :: rs => [] :: (t.after .clear).episodes rs

/-- What a tracker tells after a frame, if another came before it. -/
structure Tells (t : Tracker) (before frame : List Contact) : Prop where
  current : ∀ i, i ∈ t.current ↔ Occurs i frame
  remembered : ∀ i, i ∈ t.remembered ↔ Occurs i frame ∨ Occurs i before
  gone : ∀ i, i ∈ t.gone ↔ Occurs i before ∧ ¬Occurs i frame
  ascending : t.gone.toList.Pairwise (· < ·)
  apart : ∀ i ∈ t.gone, i ∉ t.current

/-- Of every frame of an episode the tracker tells the right thing, the first one coming after a given frame. -/
inductive Chronicle : (before : List Contact) → List Record → Prop
  | nil (before : List Contact) : Chronicle before []
  | cons {before frame : List Contact} {t : Tracker} {rest : List Record} (tells : t.Tells before frame)
    (h : Chronicle frame rest) : Chronicle before ((frame, t) :: rest)

theorem tells_advance {t : Tracker} {before : List Contact} (known : t.current = indices before) (frame : List Contact) :
    (t.advance frame).Tells before frame where
  current := by
    intro i
    rw [current_advance, mem_indices, Occurs]
  remembered := by
    intro i
    rw [mem_remembered_advance, known, mem_indices, mem_indices, Occurs, Occurs]
  gone := by
    intro i
    rw [mem_gone_advance, known, mem_indices, mem_indices, Occurs, Occurs]
  ascending := (t.advance frame).gone.ascending
  apart := by
    intro i h
    rw [current_advance]
    exact (mem_gone_advance.1 h).2

/-- The first episode of a run goes on after the frame that the tracker has seen last, all others start anew. -/
theorem chronicle_episodes {t : Tracker} {before : List Contact} (known : t.current = indices before) (rs : List Request) :
    ∃ first rest, t.episodes rs = first :: rest ∧ Chronicle before first ∧ ∀ e ∈ rest, Chronicle [] e := by
  induction rs generalizing t before with
  | nil => exact ⟨[], [], rfl, .nil before, fun _ he => absurd he List.not_mem_nil⟩
  | cons r rs ih =>
    cases r with
    | advance frame =>
      obtain ⟨first, rest, heq, hfirst, hrest⟩ := ih (t.current_advance frame)
      refine ⟨(frame, t.advance frame) :: first, rest, ?_, .cons (tells_advance known frame) hfirst, hrest⟩
      rw [episodes, after, heq, List.modifyHead_cons]
    | clear =>
      obtain ⟨first, rest, heq, hfirst, hrest⟩ := ih (show t.clear.current = indices [] from rfl)
      refine ⟨[], first :: rest, ?_, .nil before, fun e he => ?_⟩
      · rw [episodes, after, heq]
      · rcases List.mem_cons.1 he with rfl | he
        · exact hfirst
        · exact hrest e he

/-- An index is gone as often as it disappears. -/
theorem Chronicle.count_gone {before : List Contact} {episode : List Record} (h : Chronicle before episode) (i : Nat) :
    episode.countP (fun record => i ∈ record.2.gone) = disappearances i (before :: episode.map (·.1)) := by
  induction h with
  | nil before => rfl
  | @cons before frame t rest tells h ih =>
    rw [List.countP_cons, ih, List.map_cons, disappearances_cons]
    simp only [tells.gone, decide_eq_true_eq]

/--
In every run of a new tracker and between any two clears: after each frame the tracker tells its indices, those of the frame
before and, in ascending order, those that are gone; and each index is gone after as many frames as it disappears in.
-/
theorem every_disappearance_counted (rs : List Request) :
    ∀ episode ∈ episodes {} rs, Chronicle [] episode ∧
      ∀ i, episode.countP (fun record => i ∈ record.2.gone) = disappearances i (episode.map (·.1)) := by
  intro episode hepisode
  obtain ⟨first, rest, heq, hfirst, hrest⟩ := chronicle_episodes (show ({} : Tracker).current = indices [] from rfl) rs
  have hchronicle : Chronicle [] episode := by
    rw [heq] at hepisode
    rcases List.mem_cons.1 hepisode with rfl | he
    · exact hfirst
    · exact hrest episode he
  refine ⟨hchronicle, fun i => ?_⟩
  rw [hchronicle.count_gone, disappearances_nil_cons]

/-- An index disappears twice after a clear, as a palm and while it is unstable, and comes back in between. -/
theorem two_disappearances_after_clear :
    let palm : Contact := { index := some 7, valid := some false }
    let unstable : Contact := { index := some 7, stable := some false }
    let other : Contact := { index := some 3 }
    let rs : List Request := [.advance [palm], .clear, .advance [palm, {}, other, palm], .advance [other], .advance [unstable],
      .advance [other, {}]]
    ∃ episode ∈ episodes {} rs, Chronicle [] episode ∧ episode.length = 4 ∧
      episode.countP (fun record => 7 ∈ record.2.gone) = 2 := by
  intro palm unstable other rs
  have hepisode : (episodes {} rs)[1] ∈ episodes {} rs := List.getElem_mem _
  obtain ⟨hchronicle, hcount⟩ := every_disappearance_counted rs _ hepisode
  exact ⟨_, hepisode, hchronicle, rfl, (hcount 7).trans (by decide +kernel)⟩

end Tracker
end Digitizer
