import Digitizer.Proofs.Touch.Effects
import Digitizer.Proofs.Touch.Handover
import Mathlib.Data.List.Forall2

/-!
# Contacts without a slot go unnoticed

A contact without an index, or with an index for which there is no slot, is part of no report and never gets the pointer. Unless
it is a palm where palms block, a run does not notice whether it is there: frames from which such contacts are deleted, wherever
they stood, have the same effects (`slotless_contacts_unnoticed`).
-/
namespace Digitizer

/-! ## Lists with elements deleted -/

/-- The second list is what is left of the first when some of the elements that have a property are deleted. -/
inductive Thinned {α : Type} (P : α → Prop) : List α → List α → Prop
  | nil : Thinned P [] []
  | keep {a : α} {l k : List α} : Thinned P l k → Thinned P (a :: l) (a :: k)
  | drop {a : α} {l k : List α} : P a → Thinned P l k → Thinned P (a :: l) k

namespace Thinned
variable {α β : Type} {P Q : α → Prop} {l k : List α}

theorem flatMap_eq (h : Thinned P l k) {f : α → List β} (hf : ∀ a, P a → f a = []) : l.flatMap f = k.flatMap f := by
  induction h with
  | nil => rfl
  | keep _ ih => simp [ih]
  | drop ha _ ih => simp [hf _ ha, ih]

theorem filterMap_eq (h : Thinned P l k) {f : α → Option β} (hf : ∀ a, P a → f a = none) :
    l.filterMap f = k.filterMap f := by
  rw [List.filterMap_eq_flatMap_toList, List.filterMap_eq_flatMap_toList]
  exact h.flatMap_eq fun a ha => by rw [hf a ha]; rfl

theorem findSome?_eq (h : Thinned P l k) {f : α → Option β} (hf : ∀ a, P a → f a = none) :
    l.findSome? f = k.findSome? f := by
  rw [← List.head?_filterMap, ← List.head?_filterMap, h.filterMap_eq hf]

theorem filter_eq (h : Thinned P l k) {p : α → Bool} (hp : ∀ a, P a → p a = false) : l.filter p = k.filter p := by
  rw [← List.filterMap_eq_filter]
  exact h.filterMap_eq fun a ha => by simp [Option.guard, hp a ha]

theorem find?_eq (h : Thinned P l k) {p : α → Bool} (hp : ∀ a, P a → p a = false) : l.find? p = k.find? p := by
  rw [← List.head?_filter, ← List.head?_filter, h.filter_eq hp]

theorem any_eq (h : Thinned P l k) {p : α → Bool} (hp : ∀ a, P a → p a = false) : l.any p = k.any p := by
  induction h with
  | nil => rfl
  | keep _ ih => simp [ih]
  | drop ha _ ih => simp [hp _ ha, ih]

/-- Deletions before a filter are deletions after it. -/
theorem filter (h : Thinned P l k) {p : α → Bool} (hQ : ∀ a, P a → p a = true → Q a) :
    Thinned Q (l.filter p) (k.filter p) := by
  induction h with
  | nil => exact .nil
  | @keep a _ _ _ ih =>
    cases hp : p a with
    | true => simpa [hp] using ih.keep
    | false => simpa [hp] using ih
  | @drop a _ _ ha _ ih =>
    cases hp : p a with
    | true => simpa [hp] using ih.drop (hQ a ha hp)
    | false => simpa [hp] using ih

end Thinned

/-! ## Contacts that go unnoticed -/

/-- A contact has no index, or one that the profile has no slot for. -/
def Contact.Slotless (p : Profile) (c : Contact) : Prop := ∀ i, c.index = some i → p.maxContacts.toInt ≤ i

/-- A contact without a slot that is no palm, or is one where palms do not block. -/
def Contact.Inert (config : Config) (p : Profile) (c : Contact) : Prop :=
  c.Slotless p ∧ (c.isValid = true ∨ config.disableOnPalm = false)

theorem Profile.slots_le_iff {p : Profile} {i : Nat} : p.slots ≤ i ↔ p.maxContacts.toInt ≤ i := Int.toNat_le

/-- Of the contacts without a slot those that have an index are dropped. -/
theorem Contact.Slotless.index_of_fits {p : Profile} {c : Contact} (h : c.Slotless p) (fits : c.fits p.slots = true) :
    c.index = none := by
  cases hi : c.index with
  | none => rfl
  | some i =>
    have hlt : i < p.slots := by simpa [Contact.fits, hi] using fits
    exact absurd (Profile.slots_le_iff.2 (h i hi)) (Nat.not_le.2 hlt)

theorem Contact.not_slotless {p : Profile} {c : Contact} {i : Nat} (hi : c.index = some i) (fits : c.fits p.slots = true) :
    ¬c.Slotless p := fun h => Option.some_ne_none i (hi.symm.trans (h.index_of_fits fits))

/-- A selector that moves takes the index of a contact in the frame. -/
theorem Selector.select_index (s : Selector) (frame : List Contact) (lifted : IndexSet) (enabled : Bool) :
    (s.select frame lifted enabled).2 = s ∨
      ∃ c ∈ frame, c.index = some (s.select frame lifted enabled).2.index := by
  have hsuccessor : ∀ i, s.successor? frame = some i → ∃ c ∈ frame, c.index = some i := by
    intro i h
    obtain ⟨c, hc, hi⟩ := List.exists_of_findSome?_eq_some h
    exact ⟨c, hc, (Option.filter_eq_some_iff.1 hi).1⟩
  rw [select]
  split
  · exact Or.inl rfl
  · split
    · exact Or.inl rfl
    · cases h : s.successor? frame with
      | none => exact Or.inl rfl
      | some i => exact Or.inr (hsuccessor i h)

namespace Touchscreen
variable {σ : Type}

/-- Two requests, the same but for contacts of an update that are deleted from the second. -/
inductive Request.Thinned (P : Contact → Prop) : Request → Request → Prop
  | update {contacts contacts' : List Contact} :
    Digitizer.Thinned P contacts contacts' → Thinned P (.update contacts) (.update contacts')
  | disable : Thinned P .disable .disable
  | enable : Thinned P .enable .enable

section
variable {d : Touchscreen σ} {contacts contacts' : List Contact}

/-- What inert contacts are left in the frame have no index. -/
theorem thinned_slotted (h : Thinned (Contact.Inert d.config d.profile) contacts contacts') :
    Thinned (fun c => c.index = none ∧ (c.isValid = true ∨ d.config.disableOnPalm = false))
      (d.slotted contacts) (d.slotted contacts') :=
  h.filter fun _ inert fits => ⟨inert.1.index_of_fits fits, inert.2⟩

variable (h : Thinned (Contact.Inert d.config d.profile) contacts contacts')
include h

theorem advance_thinned : d.tracker.advance (d.slotted contacts) = d.tracker.advance (d.slotted contacts') := by
  have hindices := (thinned_slotted h).filterMap_eq (f := fun c => c.index) fun c hc => hc.1
  exact d.tracker.advance_congr (congrArg IndexSet.ofList hindices)

theorem presents_thinned : d.presents (d.slotted contacts) = d.presents (d.slotted contacts') := by
  rw [presents, presents, palmBlocks, palmBlocks]
  cases hb : d.config.disableOnPalm with
  | false => rfl
  | true =>
    rw [(thinned_slotted h).any_eq]
    rintro c ⟨-, valid | off⟩
    · simp [valid]
    · exact absurd (hb.symm.trans off) (by decide)

theorem selection_thinned : d.selection (d.slotted contacts) = d.selection (d.slotted contacts') := by
  have hframe := thinned_slotted h
  have hfollowed : d.selector.followed? (d.slotted contacts) = d.selector.followed? (d.slotted contacts') := by
    rw [Selector.followed?, Selector.followed?, hframe.find?_eq fun c hc => by simp [hc.1]]
  have hsuccessor : d.selector.successor? (d.slotted contacts) = d.selector.successor? (d.slotted contacts') :=
    hframe.findSome?_eq fun c hc => by simp [hc.1]
  rw [selection, selection, advance_thinned h, Selector.select, Selector.select, hfollowed, hsuccessor]

theorem slotReport_thinned : d.slotReport contacts = d.slotReport contacts' := by
  have hcontacts := (thinned_slotted h).flatMap_eq (f := Report.contact d.config d.profile) fun c hc => by
    simp [Report.contact, hc.1]
  simp only [slotReport, Report.multitouch, hcontacts, advance_thinned h]

theorem plan_thinned : d.plan (.update contacts) = d.plan (.update contacts') := by
  rw [plan_of_slotReport, plan_of_slotReport, slotReport_thinned h, presents_thinned h, selection_thinned h,
    advance_thinned h]

theorem settle_thinned : d.settle (.update contacts) = d.settle (.update contacts') := by
  simp only [settle, presents_thinned h, selection_thinned h, advance_thinned h]

end

variable [Sink σ]

/-- A request does not notice inert contacts, whatever the sink refuses. -/
theorem effect_thinned {d : Touchscreen σ} {r r' : Request}
    (h : Request.Thinned (Contact.Inert d.config d.profile) r r') : d.effect r = d.effect r' := by
  cases h with
  | update h =>
    rw [effect_eq, effect_eq, plan_thinned h, ending, ending, slotReport_thinned h, settle_thinned h]
  | disable => rfl
  | enable => rfl

/-- Nor does a run. -/
theorem history_eq_of_thinned {d : Touchscreen σ} {rs rs' : List Request}
    (h : List.Forall₂ (Request.Thinned (Contact.Inert d.config d.profile)) rs rs') : d.history rs = d.history rs' := by
  induction rs generalizing d rs' with
  | nil =>
    cases h
    rfl
  | cons r rs ih =>
    cases h with
    | @cons _ r' _ rs' hr hrs =>
      have heffect := effect_thinned hr
      have hafter : d.after r = d.after r' := by rw [← state_effect, heffect, state_effect]
      rw [← (settings_after d r).1, ← (settings_after d r).2] at hrs
      rw [history, history, heffect, ih hrs, hafter]

/-- The pointer is pressed only on a contact that has a slot. -/
theorem pressed_has_slot {d : Touchscreen σ} {contacts : List Contact}
    (pressed : .touch true ∈ (serve (.update contacts) d).journal.offers) :
    ∃ c ∈ contacts, ¬c.Slotless d.profile ∧ d.choice contacts = .down c := by
  have hplan := (offers_upTo (.update contacts) d).subset pressed
  have hmem := List.mem_filter.2 ⟨hplan, (rfl : (Event.touch true).isPointer = true)⟩
  rw [filter_plan] at hmem
  obtain ⟨c, hc⟩ := Report.down_of_touch hmem
  rcases d.choice_cases contacts with hup | ⟨b, hfollowed, hchoice, -⟩
  · exact absurd (hc.symm.trans hup) (by simp)
  · obtain ⟨hb, hindex, -⟩ := Selector.of_followed? hfollowed
    obtain rfl : c = b := by
      rw [hc] at hchoice
      split at hchoice
      · exact Pointer.down.inj hchoice
      · exact absurd hchoice (by simp)
    exact ⟨c, (mem_slotted.1 hb).1, Contact.not_slotless hindex (mem_slotted.1 hb).2, hc⟩

/-- The selector moves only to the index of a contact that has a slot. -/
theorem selector_has_slot (d : Touchscreen σ) (contacts : List Contact) :
    (d.after (.update contacts)).selector = d.selector ∨
      ∃ c ∈ contacts, ¬c.Slotless d.profile ∧ c.index = some (d.after (.update contacts)).selector.index := by
  have hafter := congrArg selector (core_after d (.update contacts))
  change (d.after (.update contacts)).selector = _ at hafter
  rw [hafter, ending]
  split
  · cases hp : d.presents (d.slotted contacts) with
    | false => exact Or.inl (by simp [settle, hp])
    | true =>
      have hsettle : (d.settle (.update contacts)).selector = (d.selection (d.slotted contacts)).2 := by simp [settle, hp]
      rw [hsettle]
      refine (d.selector.select_index _ _ _).imp_right ?_
      rintro ⟨c, hc, hi⟩
      exact ⟨c, (mem_slotted.1 hc).1, Contact.not_slotless hi (mem_slotted.1 hc).2, hi⟩
  · exact Or.inl rfl

/--
Contacts without a slot go unnoticed, unless they are palms where palms block: whatever state the device is in and whatever the
sink refuses, a run has the same results, offers the same events, of which the same are taken, and passes through the same
states when such contacts are deleted from its frames. The pointer is pressed only on contacts with a slot, and the selector
moves only to their indices.
-/
theorem slotless_contacts_unnoticed {d : Touchscreen σ} {rs rs' : List Request}
    (h : List.Forall₂ (Request.Thinned (Contact.Inert d.config d.profile)) rs rs') :
    d.history rs = d.history rs' ∧
    ∀ contacts,
      let next := d.afterAll rs
      (.touch true ∈ (serve (.update contacts) next).journal.offers →
        ∃ c ∈ contacts, ¬c.Slotless d.profile ∧ next.choice contacts = .down c) ∧
      ((next.after (.update contacts)).selector = next.selector ∨
        ∃ c ∈ contacts, ¬c.Slotless d.profile ∧ c.index = some (next.after (.update contacts)).selector.index) := by
  refine ⟨history_eq_of_thinned h, ?_⟩
  intro contacts next
  have hprofile : next.profile = d.profile := (settings_afterAll d rs).2
  rw [← hprofile]
  exact ⟨pressed_has_slot, next.selector_has_slot contacts⟩

/--
Contacts without an index, with the first index that has no slot, and a palm with a higher one: a run in which an update fails
does not notice them, and the next press is that of the touch beside them.
-/
theorem refused_run_without_slotless_contacts :
    let touch (i : Nat) : Contact := { index := some i }
    let loose : Contact := { stable := some false }
    let palm : Contact := { index := some 40, valid := some false }
    let d := start ({ taken := 12, refused := 1 } : ScriptedSink) {} Profile.standard
    let rs := [.update [loose, touch 0, touch 16], .update [touch 2, palm, touch 0, loose]]
    let rs' := [.update [touch 0], .update [touch 2, touch 0]]
    List.Forall₂ (Request.Thinned (Contact.Inert d.config d.profile)) rs rs' ∧ d.history rs = d.history rs' ∧
      (d.history rs).map (·.result) = [.ok (), .error Errno.inputOutput] ∧
      .touch true ∈ (serve (.update [touch 16, touch 0]) (d.afterAll rs)).journal.offers ∧
      ∃ c ∈ [touch 16, touch 0], ¬c.Slotless Profile.standard := by
  intro touch loose palm d rs rs'
  have hloose : loose.Inert d.config d.profile := ⟨fun i hi => absurd hi (by simp [loose]), Or.inl rfl⟩
  have hlast : (touch 16).Inert d.config d.profile := by
    refine ⟨fun i hi => ?_, Or.inl rfl⟩
    obtain rfl : 16 = i := Option.some.inj hi
    decide
  have hpalm : palm.Inert d.config d.profile := by
    refine ⟨fun i hi => ?_, Or.inr rfl⟩
    obtain rfl : 40 = i := Option.some.inj hi
    decide
  have h : List.Forall₂ (Request.Thinned (Contact.Inert d.config d.profile)) rs rs' :=
    .cons (.update (.drop hloose (.keep (.drop hlast .nil))))
      (.cons (.update (.keep (.drop hpalm (.keep (.drop hloose .nil))))) .nil)
  have pressed : .touch true ∈ (serve (.update [touch 16, touch 0]) (d.afterAll rs)).journal.offers := by decide +kernel
  obtain ⟨hhistory, hpointer⟩ := slotless_contacts_unnoticed h
  obtain ⟨c, hc, hslot, -⟩ := (hpointer [touch 16, touch 0]).1 pressed
  refine ⟨h, hhistory, ?_, pressed, c, hc, hslot⟩
  decide +kernel

end Touchscreen
end Digitizer
