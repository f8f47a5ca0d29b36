import Digitizer.Proofs.Touch.PointerAgreement
import Digitizer.Proofs.Touch.RecentFrames
import Mathlib.Data.List.Nodup

/-!
# Every slot is addressed once

An update speaks of a slot by naming it and giving it an identity. Its contacts come first, in the order of the frame, and then
the indices that are gone. No index is both in the frame and gone, so an update that brings no index twice names no slot twice
(`each_slot_addressed_once`).
-/
namespace Digitizer

/-! ## What events say of slots -/

/-- The slot that an event names, if it names one. -/
def Event.slot? (e : Event) : Option Int :=
  if e.type = abs ∧ e.code = mtSlot then some e.value.toInt else none

/-- The identity that an event gives, if it gives one. -/
def Event.identity? (e : Event) : Option Int :=
  if e.type = abs ∧ e.code = mtTrackingId then some e.value.toInt else none

/-- The slots that events name, in their order. -/
def slotsNamed (events : List Event) : List Int := events.filterMap Event.slot?

/-- The identities that events give, each after the slot that it is given to. A slot is current before the first event. -/
def identities (current : Int) : List Event → List (Int × Int)
  | [] => []
  | e :: es =>
    match e.slot?, e.identity? with
    | some slot, _ => identities slot es
    | none, some identity => (current, identity) :: identities current es
    | none, none => identities current es

/-- Whatever slot is current before, events name just the slots that they give these identities to, in this order. -/
structure Addresses (events : List Event) (given : List (Int × Int)) : Prop where
  slots : slotsNamed events = given.map Prod.fst
  identities : ∀ current rest, ∃ next, identities current (events ++ rest) = given ++ Digitizer.identities next rest

/-- An index is lifted. -/
def liftedAt (i : Nat) : Int × Int := (i, -1)

/--
What a contact does to its slot: it is down under its index, or lifted if it was rejected. A contact that is unstable or has no
index does nothing.
-/
def Contact.address? (c : Contact) : Option (Int × Int) :=
  if c.isStable then c.index.map fun i => (↑i, if c.isValid then ↑i else -1) else none

namespace Addresses
variable {es fs : List Event} {xs ys : List (Int × Int)} {α : Type}

/-- Read from any slot, events give these identities and no more. -/
theorem identities_eq (h : Addresses es xs) (current : Int) : Digitizer.identities current es = xs := by
  obtain ⟨next, hnext⟩ := h.identities current []
  rwa [List.append_nil, Digitizer.identities, List.append_nil] at hnext

theorem append (h : Addresses es xs) (h' : Addresses fs ys) : Addresses (es ++ fs) (xs ++ ys) where
  slots := by
    have hslots := h.slots
    have hslots' := h'.slots
    rw [slotsNamed] at hslots hslots'
    rw [slotsNamed, List.filterMap_append, hslots, hslots', List.map_append]
  identities := by
    intro current rest
    obtain ⟨between, hbetween⟩ := h.identities current (fs ++ rest)
    obtain ⟨next, hnext⟩ := h'.identities between rest
    exact ⟨next, by rw [List.append_assoc, hbetween, hnext, List.append_assoc]⟩

/-- Events that are about no slot. -/
theorem silent (h : ∀ e ∈ es, e.slot? = none ∧ e.identity? = none) : Addresses es [] where
  slots := by
    rw [slotsNamed, List.map_nil]
    exact List.filterMap_eq_nil_iff.2 fun e he => (h e he).1
  identities := by
    intro current rest
    refine ⟨current, ?_⟩
    induction es with
    | nil => rfl
    | cons e es ih =>
      obtain ⟨⟨hslot, hidentity⟩, hes⟩ := List.forall_mem_cons.1 h
      rw [List.cons_append, Digitizer.identities, hslot, hidentity]
      exact ih hes

theorem nil : Addresses [] [] := silent fun _ he => absurd he List.not_mem_nil

/-- A group of events names a slot and gives it an identity. -/
theorem group {s v : Int32} {axes : List Event} (h : ∀ e ∈ axes, e.slot? = none ∧ e.identity? = none) :
    Addresses (.axis Event.mtSlot s :: .axis Event.mtTrackingId v :: axes) [(s.toInt, v.toInt)] := by
  have hpair : Addresses [.axis Event.mtSlot s, .axis Event.mtTrackingId v] [(s.toInt, v.toInt)] :=
    ⟨rfl, fun _ _ => ⟨s.toInt, rfl⟩⟩
  exact hpair.append (silent h)

theorem flatMap {f : α → List Event} {g : α → List (Int × Int)} {as : List α} (h : ∀ a ∈ as, Addresses (f a) (g a)) :
    Addresses (as.flatMap f) (as.flatMap g) := by
  induction as with
  | nil => exact nil
  | cons a as ih =>
    obtain ⟨ha, has⟩ := List.forall_mem_cons.1 h
    exact ha.append (ih has)

/-- Events that address no slot twice give no slot two identities. -/
theorem apart (h : Addresses es xs) (once : (xs.map Prod.fst).Nodup) {current slot v w : Int}
    (hv : (slot, v) ∈ Digitizer.identities current es) (hw : (slot, w) ∈ Digitizer.identities current es) : v = w := by
  rw [h.identities_eq] at hv hw
  exact congrArg Prod.snd (List.inj_on_of_nodup_map once hv hw rfl)

end Addresses

/-! ## What reports say of slots -/

/-- Only two axes are about the slots themselves. -/
theorem silent_axis {code : UInt16} (h : code ≠ Event.mtSlot ∧ code ≠ Event.mtTrackingId) (v : Int32) :
    (Event.axis code v).slot? = none ∧ (Event.axis code v).identity? = none := by
  simp [Event.slot?, Event.identity?, Event.axis, h]

theorem silent_of_type {e : Event} (h : e.type ≠ Event.abs) : e.slot? = none ∧ e.identity? = none := by
  simp [Event.slot?, Event.identity?, h]

section
variable (config : Config) (p : Profile)

theorem addresses_release {i : Nat} (h : i < 2147483648) : Addresses (Report.release i) [liftedAt i] := by
  have hgroup : Addresses (Report.release i) [((slotNumber i).toInt, (-1 : Int32).toInt)] := .group (by simp)
  rwa [toInt_slotNumber h] at hgroup

theorem addresses_down {i : Nat} (h : i < 2147483648) (c : Contact) :
    Addresses (Report.down config p i c) [((i : Int), (i : Int))] := by
  have hgroup : Addresses (Report.down config p i c) [((slotNumber i).toInt, (slotNumber i).toInt)] := by
    rw [Report.down_eq]
    refine .group fun e he => ?_
    obtain ⟨a, ha, rfl⟩ := List.mem_map.1 he
    have hcode := Contact.mem_slotAxes ha
    refine silent_axis ⟨?_, ?_⟩ a.2
    · rintro heq
      exact absurd (heq ▸ hcode) (by decide)
    · rintro heq
      exact absurd (heq ▸ hcode) (by decide)
  rwa [toInt_slotNumber h] at hgroup

theorem addresses_contact {c : Contact} (fits : ∀ i, c.index = some i → i < 2147483648) :
    Addresses (Report.contact config p c) c.address?.toList := by
  cases hi : c.index with
  | none => simpa [Report.contact, Contact.address?, hi] using Addresses.nil
  | some i =>
    by_cases hs : c.isStable = true
    · by_cases hv : c.isValid = true
      · simpa [Report.contact, Contact.address?, hi, hs, hv] using addresses_down config p (fits i hi) c
      · simpa [Report.contact, Contact.address?, hi, hs, hv, liftedAt] using addresses_release (fits i hi)
    · simpa [Report.contact, Contact.address?, hi, hs] using Addresses.nil

theorem addresses_releases {is : List Nat} (h : ∀ i ∈ is, i < 2147483648) :
    Addresses (is.flatMap Report.release) (is.map liftedAt) := by
  rw [List.map_eq_flatMap]
  exact .flatMap fun i hi => addresses_release (h i hi)

theorem addresses_contacts {frame : List Contact} (fits : ∀ c ∈ frame, ∀ i, c.index = some i → i < 2147483648) :
    Addresses (frame.flatMap (Report.contact config p)) (frame.filterMap Contact.address?) := by
  rw [List.filterMap_eq_flatMap_toList]
  exact .flatMap fun c hc => addresses_contact config p (fits c hc)

theorem addresses_pointer (pointer : Pointer) : Addresses (Report.pointer config p pointer) [] := by
  refine .silent fun e he => ?_
  cases pointer with
  | down c =>
    simp only [Report.pointer, List.mem_cons, List.not_mem_nil, or_false] at he
    rcases he with rfl | rfl | rfl
    · exact silent_of_type (by decide)
    · exact silent_axis (by decide) _
    · exact silent_axis (by decide) _
  | hold => exact absurd he List.not_mem_nil
  | up => exact List.mem_singleton.1 he ▸ silent_of_type (by decide)

end

theorem addresses_releaseAll {tracked : IndexSet} (h : ∀ i ∈ tracked, i < 2147483648) :
    Addresses (Report.releaseAll tracked) (tracked.toList.map liftedAt) := by
  have htouch : Addresses [.touch false] [] :=
    .silent fun e he => List.mem_singleton.1 he ▸ silent_of_type (by decide)
  have hreleases := (addresses_releases h).append htouch
  rwa [List.append_nil] at hreleases

/-! ## No slot twice -/

/-- Contacts address the slots of their indices, in the order of the frame. -/
theorem map_fst_address (frame : List Contact) :
    (frame.filterMap Contact.address?).map Prod.fst =
      ((frame.filter Contact.isStable).filterMap (·.index)).map Int.ofNat := by
  rw [List.map_filterMap, List.map_filterMap, List.filterMap_filter]
  refine List.filterMap_congr fun c _ => ?_
  by_cases hs : c.isStable = true
  · cases hi : c.index <;> simp [Contact.address?, hs, hi]
  · simp [Contact.address?, hs]

theorem map_fst_liftedAt (is : List Nat) : (is.map liftedAt).map Prod.fst = is.map Int.ofNat := by
  rw [List.map_map]
  rfl

theorem IndexSet.nodup_toList (s : IndexSet) : s.toList.Nodup := s.ascending.imp Nat.ne_of_lt

theorem nodup_releases (tracked : IndexSet) : ((tracked.toList.map liftedAt).map Prod.fst).Nodup := by
  rw [map_fst_liftedAt]
  exact tracked.nodup_toList.map fun _ _ => Int.ofNat.inj

/-- What is released after a frame is not in the frame. -/
theorem nodup_contacts_releases {frame : List Contact} (distinct : Contact.Distinct frame) {gone : IndexSet}
    (absent : ∀ i ∈ gone, i ∉ indices frame) :
    ((frame.filterMap Contact.address? ++ gone.toList.map liftedAt).map Prod.fst).Nodup := by
  have hstable : ((frame.filter Contact.isStable).filterMap (·.index)).Sublist (frame.filterMap (·.index)) :=
    (List.filter_sublist).filterMap _
  have hapart : ∀ i ∈ (frame.filter Contact.isStable).filterMap (·.index), i ∉ gone.toList := by
    intro i hi hgone
    obtain ⟨c, hc, hci⟩ := List.mem_filterMap.1 (hstable.subset hi)
    exact absent i hgone (mem_indices.2 ⟨c, hc, hci⟩)
  rw [List.map_append, map_fst_address, map_fst_liftedAt, ← List.map_append]
  refine List.Nodup.map (fun _ _ => Int.ofNat.inj) (List.nodup_append'.2 ⟨hstable.nodup distinct, gone.nodup_toList, ?_⟩)
  exact fun i hi hgone => hapart i hi hgone

/-! ## One update -/

theorem Event.IsContent.type_ne_syn {e : Event} (h : e.IsContent) : e.type ≠ Event.syn := by
  rcases h with ⟨code, -, value, rfl⟩ | ⟨down, rfl⟩
  · exact (by decide : Event.abs ≠ Event.syn)
  · exact (by decide : Event.key ≠ Event.syn)

/--
How the events of an update address the slots. Of its contacts those with a slot are the `frame`, and the update before it
brought `last`. The frame is reported, or everything is lifted.
-/
structure AddressedOnce (frame last : List Contact) (reported : Bool) (events : List Event) : Prop where
  once : (slotsNamed events).Nodup
  /-- Every slot that is named gets one identity. -/
  named : ∀ current, (identities current events).map Prod.fst = slotsNamed events
  /-- No slot is both down and lifted. -/
  apart : ∀ current slot v w, (slot, v) ∈ identities current events → (slot, w) ∈ identities current events → v = w
  /-- The slots of contacts come in the order of the frame, and those of vanished contacts after them in ascending order. -/
  presented : reported = true → ∃ gone : List Nat, gone.Pairwise (· < ·) ∧
    (∀ i, i ∈ gone ↔ i ∈ indices last ∧ i ∉ indices frame) ∧
    ∀ current, identities current events = frame.filterMap Contact.address? ++ gone.map liftedAt
  /-- A frame that is not reported lifts all slots in ascending order. -/
  lifted : reported = false → ∃ all : List Nat, all.Pairwise (· < ·) ∧
    (∀ i, i ∈ all ↔ i ∈ indices last ∨ i ∈ indices frame) ∧ ∀ current, identities current events = all.map liftedAt
  /-- The only end of a frame is the last event. -/
  ended : ∃ body, events = body ++ [Event.report] ∧ ∀ e ∈ body, e.type ≠ Event.syn

namespace Touchscreen
variable {σ : Type}

theorem addresses_report : Addresses [Event.report] [] :=
  .silent fun _ he => List.mem_singleton.1 he ▸ silent_of_type (by decide)

theorem addresses_presented {d : Touchscreen σ} {contacts : List Contact}
    (fits : ∀ i ∈ d.tracker.remembered, i < d.profile.slots) (h : d.presents (d.slotted contacts) = true) :
    Addresses (d.plan (.update contacts)) ((d.slotted contacts).filterMap Contact.address? ++
      (d.tracker.advance (d.slotted contacts)).gone.toList.map liftedAt) := by
  have hgone : ∀ i ∈ (d.tracker.advance (d.slotted contacts)).gone.toList, i < 2147483648 := fun i hi =>
    Profile.lt_of_lt_slots (fits i (Tracker.mem_remembered.2 (Or.inl (Tracker.mem_gone_advance.1 (IndexSet.mem_toList.1 hi)).1)))
  have hslots := (addresses_contacts d.config d.profile (fits_slotted d contacts)).append (addresses_releases hgone)
  have hframe := (hslots.append (addresses_pointer d.config d.profile (d.selection (d.slotted contacts)).1)).append
    addresses_report
  rw [List.append_nil, List.append_nil] at hframe
  simp only [plan, h, if_true, Report.multitouch]
  exact hframe

theorem addresses_blocked {d : Touchscreen σ} {contacts : List Contact}
    (fits : ∀ i ∈ d.tracker.remembered, i < d.profile.slots) (h : d.presents (d.slotted contacts) = false) :
    Addresses (d.plan (.update contacts))
      ((d.tracker.advance (d.slotted contacts)).remembered.toList.map liftedAt) := by
  have hall : ∀ i ∈ (d.tracker.advance (d.slotted contacts)).remembered, i < 2147483648 := by
    intro i hi
    rcases Tracker.mem_remembered_advance.1 hi with hi | hi
    · obtain ⟨c, hc, hci⟩ := mem_indices.1 hi
      exact fits_slotted d contacts c hc i hci
    · exact Profile.lt_of_lt_slots (fits i (Tracker.mem_remembered.2 (Or.inl hi)))
  have hframe := (addresses_releaseAll hall).append addresses_report
  rw [List.append_nil] at hframe
  rw [plan_blocked h]
  exact hframe

variable [Sink σ]

/-- What an update sends addresses no slot twice if its plan does not, and ends the frame once. -/
theorem addressedOnce {d : Touchscreen σ} (reliable : Sink.Reliable d.sink) {last contacts : List Contact}
    (remembered : d.tracker.current = indices last) (fits : ∀ i ∈ d.tracker.remembered, i < d.profile.slots)
    (distinct : Contact.Distinct (d.slotted contacts)) :
    AddressedOnce (d.slotted contacts) last (d.presents (d.slotted contacts)) (d.delivered (.update contacts)) := by
  let next := d.tracker.advance (d.slotted contacts)
  have hgone : ∀ i, i ∈ next.gone ↔ i ∈ indices last ∧ i ∉ indices (d.slotted contacts) := by
    intro i
    rw [Tracker.mem_gone_advance, remembered]
  have hall : ∀ i, i ∈ next.remembered ↔ i ∈ indices last ∨ i ∈ indices (d.slotted contacts) := by
    intro i
    rw [Tracker.mem_remembered_advance, remembered, or_comm]
  have hended : ∃ body, d.plan (.update contacts) = body ++ [Event.report] ∧ ∀ e ∈ body, e.type ≠ Event.syn :=
    ⟨d.content contacts, plan_update d contacts, fun e he => (isContent_of_content d contacts e he).type_ne_syn⟩
  rw [(serve_of_reliable reliable (.update contacts)).1]
  cases hp : d.presents (d.slotted contacts) with
  | true =>
    have haddresses := addresses_presented fits hp
    have honce := nodup_contacts_releases distinct fun i hi => ((hgone i).1 hi).2
    refine ⟨haddresses.slots ▸ honce, fun current => ?_, fun _ _ _ _ => haddresses.apart honce, fun _ => ?_, ?_, hended⟩
    · rw [haddresses.identities_eq, haddresses.slots]
    · exact ⟨next.gone.toList, next.gone.ascending, fun i => IndexSet.mem_toList.trans (hgone i), haddresses.identities_eq⟩
    · exact fun h => absurd h (by simp)
  | false =>
    have haddresses := addresses_blocked fits hp
    have honce := nodup_releases next.remembered
    refine ⟨haddresses.slots ▸ honce, fun current => ?_, fun _ _ _ _ => haddresses.apart honce, ?_, fun _ => ?_, hended⟩
    · rw [haddresses.identities_eq, haddresses.slots]
    · exact fun h => absurd h (by simp)
    · exact ⟨next.remembered.toList, next.remembered.ascending, fun i => IndexSet.mem_toList.trans (hall i),
        haddresses.identities_eq⟩

/--
After any run, an update over a sink that refuses none of its events names each slot at most once, if the indices of its
contacts with a slot are distinct. Whether the frame is reported depends on the device being enabled and on its palms.
-/
theorem each_slot_addressed_once {sink : σ} {config : Config} {p : Profile} {rs : List Request}
    (reliable : Sink.Reliable ((start sink config p).afterAll rs).sink) {contacts : List Contact}
    (distinct : Contact.Distinct (contacts.filter (Contact.fits p.slots))) :
    let d := (start sink config p).afterAll rs
    let frame := contacts.filter (Contact.fits p.slots)
    AddressedOnce frame (((start sink config p).recentFrames [] rs).headD [])
      (d.enabled && !(config.disableOnPalm && frame.any (!·.isValid))) (d.delivered (.update contacts)) := by
  intro d frame
  have hslotted : d.slotted contacts = frame := slotted_afterAll (start sink config p) rs contacts
  have hpresents : d.presents (d.slotted contacts) =
      (d.enabled && !(config.disableOnPalm && frame.any (!·.isValid))) := by
    rw [presents, palmBlocks, hslotted, (settings_afterAll (start sink config p) rs).1]
    rfl
  have hfits : ∀ i ∈ d.tracker.remembered, i < d.profile.slots := by
    rw [(settings_afterAll (start sink config p) rs).2]
    exact lt_slots_afterAll sink config p rs
  have hdistinct : Contact.Distinct (d.slotted contacts) := by rwa [hslotted]
  have honce := addressedOnce reliable (remembers sink config p rs).current hfits hdistinct
  rwa [hpresents, hslotted] at honce

/--
A device that was refused its second frame reports a third: an unstable contact is left alone, a rejected one is lifted in its
turn, and the vanished ones are lifted after the contacts.
-/
theorem each_slot_addressed_once_of_four_contacts :
    let touch (i : Nat) : Contact := { index := some i }
    let palm (i : Nat) : Contact := { index := some i, valid := some false }
    let unstable (i : Nat) : Contact := { index := some i, stable := some false }
    let rs := [.update [touch 5], .update [touch 9, touch 2, touch 7, touch 1]]
    let contacts := [palm 7, touch 3, unstable 1, palm 16, {}, touch 0]
    let d := (start ({ taken := 20, refused := 1 } : ScriptedSink) {} Profile.standard).afterAll rs
    Sink.Reliable d.sink ∧ Contact.Distinct (contacts.filter (Contact.fits Profile.standard.slots)) ∧
      slotsNamed (d.delivered (.update contacts)) = [7, 3, 0, 2, 9] ∧
      (slotsNamed (d.delivered (.update contacts))).Nodup := by
  intro touch palm unstable rs contacts d
  have reliable : Sink.Reliable d.sink := ScriptedSink.reliable (by decide +kernel)
  have distinct : Contact.Distinct (contacts.filter (Contact.fits Profile.standard.slots)) := by decide
  have honce := @each_slot_addressed_once ScriptedSink _ { taken := 20, refused := 1 } {} Profile.standard rs reliable contacts
    distinct
  exact ⟨reliable, distinct, by decide +kernel, honce.once⟩

end Touchscreen
end Digitizer
