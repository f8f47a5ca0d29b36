import Digitizer.Output.VirtualDevice
import Digitizer.Proofs.Touch.Slots

/-!
# The stream of events is well formed

Multitouch events come in groups. A group names the slot of a contact first, then the identity, then the axes of the contact. A
sink may break a request off anywhere, but the next request begins with a group of its own or with the pointer, so that every
event still stands in its place (`Placed`). Only contacts with a slot come so far. That is why a number of a slot is never
truncated, and lies in the range that the virtual device is created with.
-/
namespace Digitizer

theorem Event.axis_inj {code code' : UInt16} {v w : Int32} :
    Event.axis code v = .axis code' w ↔ code = code' ∧ v = w := by
  simp [axis]

/-- No axis has two codes. -/
theorem Report.nodup_codes : Report.codes.Nodup := by decide

/-! ## What was declared -/

namespace VirtualDevice
variable {p : Profile} {c : Config}

/-- Whether an event is about an axis or a key that the device is created with. -/
def Declares (p : Profile) (c : Config) (e : Event) : Prop :=
  (e.type = Event.abs ∧ ∃ a ∈ axes p c, a.code = e.code) ∨ (e.type = Event.key ∧ e.code ∈ keys)

/-- The axes of the device are those that reports are about. -/
theorem map_code_axes (p : Profile) (c : Config) : (axes p c).map AxisSetup.code = Report.codes := rfl

/-- All that reports consist of is declared. -/
theorem declares_of_isContent {e : Event} (h : e.IsContent) : Declares p c e := by
  rcases h with ⟨code, hcode, value, rfl⟩ | ⟨down, rfl⟩
  · rw [← map_code_axes p c] at hcode
    obtain ⟨a, ha, rfl⟩ := List.mem_map.1 hcode
    exact Or.inl ⟨rfl, a, ha, rfl⟩
  · exact Or.inr ⟨rfl, List.mem_singleton_self _⟩

/-- A value lies in the range of the slots, and this range is declared for an axis. -/
def InSlotRange (p : Profile) (c : Config) (code : UInt16) (v : Int32) : Prop :=
  ∀ a ∈ axes p c, a.code = code →
    a.minimum = 0 ∧ a.maximum.toInt = p.maxContacts.toInt - 1 ∧ a.minimum ≤ v ∧ v ≤ a.maximum

/-- Slots and identities have the same range. -/
theorem range_of_slotCode {a : AxisSetup} (h : a ∈ axes p c) (hcode : a.code ∈ [Event.mtSlot, Event.mtTrackingId]) :
    a.minimum = 0 ∧ a.maximum = p.maxContacts - 1 := by
  have hapart : ([Event.mtSlot, Event.mtTrackingId] ++ (Receiver.slotAxes ++ [Event.absX, Event.absY])).Nodup :=
    Report.nodup_codes
  rcases h with _ | ⟨_, _ | ⟨_, ha⟩⟩
  · exact ⟨rfl, rfl⟩
  · exact ⟨rfl, rfl⟩
  · exact absurd rfl ((List.nodup_append.1 hapart).2.2 _ hcode _ (List.mem_map_of_mem ha))

end VirtualDevice

/-! ## Numbers of slots -/

/-- A number is that of a slot, and is the index of a contact without any change. -/
structure Profile.Names (p : Profile) (seen : List Contact) (s : Int32) : Prop where
  nonneg : 0 ≤ s
  lt : s < p.maxContacts
  index : ∃ c ∈ seen, ∃ i, c.index = some i ∧ s.toInt = i

theorem Profile.Names.mono {p : Profile} {seen later : List Contact} {s : Int32} (h : p.Names seen s)
    (more : ∀ c ∈ seen, c ∈ later) : p.Names later s := by
  obtain ⟨c, hc, i, hi⟩ := h.index
  exact ⟨h.nonneg, h.lt, c, more c hc, i, hi⟩

theorem Profile.names_slotNumber {p : Profile} {seen : List Contact} {i : Nat} (slot : i < p.slots)
    (index : ∃ c ∈ seen, c.index = some i) : p.Names seen (slotNumber i) := by
  have hi := Profile.lt_of_lt_slots slot
  have hint : (slotNumber i).toInt = i := toInt_slotNumber hi
  have hslots : (i : Int) < p.maxContacts.toInt := Int.lt_toNat.1 slot
  obtain ⟨c, hc, hci⟩ := index
  refine ⟨slotNumber_nonneg hi, ?_, c, hc, i, hci, hint⟩
  rw [Int32.lt_iff_toInt_lt, hint]
  exact hslots

/-- Where there are slots, one less than their number is no overflow. -/
theorem Profile.toInt_lastSlot {p : Profile} (h : 0 < p.maxContacts.toInt) :
    (p.maxContacts - 1).toInt = p.maxContacts.toInt - 1 := by
  have hupper := Int32.toInt_lt p.maxContacts
  have hone : (1 : Int32).toInt = 1 := rfl
  rw [Int32.toInt_sub, hone]
  exact Int.bmod_eq_of_le (by omega) (by omega)

/-- A number of a slot lies in the range that is declared for slots and for identities. -/
theorem Profile.Names.inSlotRange {p : Profile} {seen : List Contact} {s : Int32} (h : p.Names seen s) (config : Config)
    {code : UInt16} (hcode : code ∈ [Event.mtSlot, Event.mtTrackingId]) :
    VirtualDevice.InSlotRange p config code s := by
  intro a ha hac
  obtain ⟨hminimum, hmaximum⟩ := VirtualDevice.range_of_slotCode ha (hac ▸ hcode)
  have hnonneg : 0 ≤ s.toInt := Int32.le_iff_toInt_le.1 h.nonneg
  have hlt : s.toInt < p.maxContacts.toInt := Int32.lt_iff_toInt_lt.1 h.lt
  have hlast := Profile.toInt_lastSlot (Int.lt_of_le_of_lt hnonneg hlt)
  refine ⟨hminimum, by rw [hmaximum, hlast], hminimum ▸ h.nonneg, ?_⟩
  rw [hmaximum, Int32.le_iff_toInt_le, hlast]
  omega

/-! ## Events in their places -/

/-- Every event of a list stands in its place, which depends on the events before it. -/
def Places (P : List Event → Event → Prop) (es : List Event) : Prop := ∀ own e, own ++ [e] <+: es → P own e

/-- An event of a concatenation is one of the first part, or comes after all of it. -/
theorem snoc_prefix_append {own es fs : List Event} {e : Event} (h : own ++ [e] <+: es ++ fs) :
    own ++ [e] <+: es ∨ ∃ rest, own = es ++ rest ∧ rest ++ [e] <+: fs := by
  rcases List.prefix_or_prefix_of_prefix h (List.prefix_append es fs) with h' | ⟨rest, hrest⟩
  · exact Or.inl h'
  · rcases List.eq_nil_or_concat rest with rfl | ⟨init, last, rfl⟩
    · rw [List.append_nil] at hrest
      exact Or.inl (hrest ▸ List.prefix_rfl)
    · rw [List.concat_eq_append, ← List.append_assoc] at hrest
      obtain ⟨rfl, hlast⟩ := List.append_inj' hrest rfl
      obtain rfl := List.singleton_inj.1 hlast
      rw [List.append_assoc] at h
      exact Or.inr ⟨init, rfl, (List.prefix_append_right_inj es).1 h⟩

section
variable {P : List Event → Event → Prop} {es fs : List Event} {α : Type}

theorem Places.mono (h : Places P es) (some : fs <+: es) : Places P fs := fun own e he => h own e (he.trans some)

theorem places_of_forall (h : ∀ own, ∀ e ∈ es, P own e) : Places P es := fun own e he =>
  h own e (he.subset (List.mem_append_right own (List.mem_singleton_self e)))

/-- Places that more events before them do not spoil. -/
def Extends (P : List Event → Event → Prop) : Prop := ∀ before own e, P own e → P (before ++ own) e

theorem places_append (ext : Extends P) (hes : Places P es) (hfs : Places P fs) : Places P (es ++ fs) := by
  intro own e h
  rcases snoc_prefix_append h with hown | ⟨rest, rfl, hrest⟩
  · exact hes own e hown
  · exact ext es rest e (hfs rest e hrest)

theorem places_flatMap (ext : Extends P) {f : α → List Event} {as : List α} (h : ∀ a ∈ as, Places P (f a)) :
    Places P (as.flatMap f) := by
  induction as with
  | nil => exact places_of_forall fun _ _ he => absurd he List.not_mem_nil
  | cons a as ih =>
    rw [List.flatMap_cons]
    exact places_append ext (h a List.mem_cons_self) (ih fun b hb => h b (List.mem_cons_of_mem a hb))

end

/-- The place of an event after the events of its request before it. -/
structure Placed (config : Config) (p : Profile) (seen frame : List Contact) (own : List Event) (e : Event) : Prop where
  slot : ∀ s, e = .axis Event.mtSlot s → p.Names seen s
  /-- The slot is named right before the identity. -/
  trackingId : ∀ v, e = .axis Event.mtTrackingId v →
    ∃ s, own.getLast? = some (.axis Event.mtSlot s) ∧ p.Names seen s ∧ (v = s ∨ v = -1)
  /-- The group of the contact has begun with the slot and the identity, and this is its next event. -/
  axis : ∀ code ∈ Receiver.slotAxes, ∀ v, e = .axis code v →
    ∃ c ∈ frame, ∃ i, c.index = some i ∧ ∃ axes : List Event,
      let group := .axis Event.mtSlot (slotNumber i) :: .axis Event.mtTrackingId (slotNumber i) :: axes
      group <:+ own ∧ group ++ [e] <+: Report.down config p i c

section
variable {config : Config} {p : Profile} {seen frame : List Contact}

/-- Slots and identities are numbers of slots, except for the identity that lifts. -/
theorem Placed.inSlotRange {own : List Event} {e : Event} (h : Placed config p seen frame own e) {code : UInt16}
    (hcode : code ∈ [Event.mtSlot, Event.mtTrackingId]) {v : Int32} (hv : e = .axis code v) (nonneg : 0 ≤ v) :
    VirtualDevice.InSlotRange p config code v := by
  have hcases := hcode
  simp only [List.mem_cons, List.not_mem_nil, or_false] at hcases
  rcases hcases with rfl | rfl
  · exact (h.slot v hv).inSlotRange config hcode
  · obtain ⟨s, -, hs, rfl | rfl⟩ := h.trackingId v hv
    · exact hs.inSlotRange config hcode
    · exact absurd nonneg (by decide)

theorem extends_placed : Extends (Placed config p seen frame) := by
  intro before own e h
  refine ⟨h.slot, fun v hv => ?_, fun code hcode v hv => ?_⟩
  · obtain ⟨s, hlast, hs⟩ := h.trackingId v hv
    exact ⟨s, by rw [List.getLast?_append, hlast, Option.some_or], hs⟩
  · obtain ⟨c, hc, i, hi, axes, hgroup, hnext⟩ := h.axis code hcode v hv
    exact ⟨c, hc, i, hi, axes, hgroup.trans (List.suffix_append before own), hnext⟩

/-- An event that is not about a slot may stand anywhere. -/
theorem placed_of_unslotted {e : Event}
    (h : ∀ code ∈ Event.mtSlot :: Event.mtTrackingId :: Receiver.slotAxes, ∀ v, e ≠ .axis code v) (own : List Event) :
    Placed config p seen frame own e where
  slot s hs := absurd hs (h _ List.mem_cons_self s)
  trackingId v hv := absurd hv (h _ (List.mem_cons_of_mem _ List.mem_cons_self) v)
  axis code hcode v hv := absurd hv (h code (List.mem_cons_of_mem _ (List.mem_cons_of_mem _ hcode)) v)

theorem placed_of_type {e : Event} (h : e.type ≠ Event.abs) (own : List Event) : Placed config p seen frame own e :=
  placed_of_unslotted (fun _ _ _ heq => h (congrArg Event.type heq)) own

theorem placed_pointerAxis {code : UInt16} (h : code ∈ [Event.absX, Event.absY]) (v : Int32) (own : List Event) :
    Placed config p seen frame own (.axis code v) := by
  refine placed_of_unslotted (fun code' hcode' w heq => ?_) own
  obtain rfl := (Event.axis_inj.1 heq).1
  have hapart : ((Event.mtSlot :: Event.mtTrackingId :: Receiver.slotAxes) ++ [Event.absX, Event.absY]).Nodup :=
    Report.nodup_codes
  exact absurd rfl ((List.nodup_append.1 hapart).2.2 _ hcode' _ h)

/-- A group names a slot, then the identity; its axes have places after these two. -/
theorem places_group {s v : Int32} (hs : p.Names seen s) (hv : v = s ∨ v = -1) {axes : List Event}
    (haxes : ∀ own e, own ++ [e] <+: axes →
      Placed config p seen frame (.axis Event.mtSlot s :: .axis Event.mtTrackingId v :: own) e) :
    Places (Placed config p seen frame) (.axis Event.mtSlot s :: .axis Event.mtTrackingId v :: axes) := by
  intro own e h
  match own with
  | [] =>
    obtain ⟨rfl, -⟩ := List.cons_prefix_cons.1 h
    refine ⟨fun t ht => ?_, fun w hw => ?_, fun code hcode w hw => ?_⟩
    · exact (Event.axis_inj.1 ht).2 ▸ hs
    · exact absurd (Event.axis_inj.1 hw).1 (by decide)
    · exact absurd ((Event.axis_inj.1 hw).1 ▸ hcode) (by decide)
  | [x] =>
    obtain ⟨rfl, hrest⟩ := List.cons_prefix_cons.1 h
    obtain ⟨rfl, -⟩ := List.cons_prefix_cons.1 hrest
    refine ⟨fun t ht => ?_, fun w hw => ?_, fun code hcode w hw => ?_⟩
    · exact absurd (Event.axis_inj.1 ht).1 (by decide)
    · exact ⟨s, rfl, hs, (Event.axis_inj.1 hw).2 ▸ hv⟩
    · exact absurd ((Event.axis_inj.1 hw).1 ▸ hcode) (by decide)
  | x :: y :: own =>
    obtain ⟨rfl, hrest⟩ := List.cons_prefix_cons.1 h
    obtain ⟨rfl, hnext⟩ := List.cons_prefix_cons.1 hrest
    exact haxes own e hnext

theorem places_release {i : Nat} (hi : p.Names seen (slotNumber i)) :
    Places (Placed config p seen frame) (Report.release i) :=
  places_group hi (Or.inr rfl) fun own e h => absurd (List.prefix_nil.1 h) (by simp)

theorem places_down {c : Contact} {i : Nat} (hc : c ∈ frame) (hci : c.index = some i) (hi : p.Names seen (slotNumber i)) :
    Places (Placed config p seen frame) (Report.down config p i c) := by
  rw [Report.down_eq]
  refine places_group hi (Or.inl rfl) fun own e h => ?_
  obtain ⟨a, ha, rfl⟩ := List.mem_map.1 (h.subset (List.mem_append_right own (List.mem_singleton_self e)))
  have hcode := Contact.mem_slotAxes ha
  refine ⟨fun t ht => ?_, fun w hw => ?_, fun code _ w hw => ⟨c, hc, i, hci, own, List.suffix_rfl, ?_⟩⟩
  · exact absurd ((Event.axis_inj.1 ht).1 ▸ hcode) (by decide)
  · exact absurd ((Event.axis_inj.1 hw).1 ▸ hcode) (by decide)
  · rw [Report.down_eq, List.cons_append, List.cons_append, List.prefix_cons_inj, List.prefix_cons_inj]
    exact h

theorem places_contact {c : Contact} (hc : c ∈ frame) (hi : ∀ i, c.index = some i → p.Names seen (slotNumber i)) :
    Places (Placed config p seen frame) (Report.contact config p c) := by
  have hnil : Places (Placed config p seen frame) [] := places_of_forall fun _ _ he => absurd he List.not_mem_nil
  rw [Report.contact]
  split
  · exact hnil
  · next i hci =>
    split
    · exact hnil
    · split
      · exact places_down hc hci (hi i hci)
      · exact places_release (hi i hci)

theorem places_releases {is : List Nat} (h : ∀ i ∈ is, p.Names seen (slotNumber i)) :
    Places (Placed config p seen frame) (is.flatMap Report.release) :=
  places_flatMap extends_placed fun i hi => places_release (h i hi)

theorem places_pointer (pointer : Pointer) :
    Places (Placed config p seen frame) (Report.pointer config p pointer) := by
  refine places_of_forall fun own e he => ?_
  cases pointer with
  | down c =>
    simp only [Report.pointer, List.mem_cons, List.not_mem_nil, or_false] at he
    rcases he with rfl | rfl | rfl
    · exact placed_of_type (by decide : Event.key ≠ Event.abs) own
    · exact placed_pointerAxis (by decide) _ own
    · exact placed_pointerAxis (by decide) _ own
  | hold => exact absurd he List.not_mem_nil
  | up => exact List.mem_singleton.1 he ▸ placed_of_type (by decide : Event.key ≠ Event.abs) own

theorem places_report : Places (Placed config p seen frame) [Event.report] :=
  places_of_forall fun own _ he => List.mem_singleton.1 he ▸ placed_of_type (by decide : Event.syn ≠ Event.abs) own

theorem places_releaseAll {tracked : IndexSet} (h : ∀ i ∈ tracked, p.Names seen (slotNumber i)) :
    Places (Placed config p seen frame) (Report.releaseAll tracked ++ [Event.report]) := by
  have htouch : Places (Placed config p seen frame) [.touch false] :=
    places_of_forall fun own _ he => List.mem_singleton.1 he ▸ placed_of_type (by decide : Event.key ≠ Event.abs) own
  have hreleases : Places (Placed config p seen frame) (tracked.toList.flatMap Report.release) :=
    places_releases fun i hi => h i (IndexSet.mem_toList.1 hi)
  exact places_append extends_placed (places_append extends_placed hreleases htouch) places_report

end

namespace Touchscreen
variable {σ : Type}

/-! ## The plan of a request -/

/-- The contacts that a request brings. -/
def Request.contacts : Request → List Contact
  | .update contacts => contacts
  | .disable | .enable => []

/-- The contacts that a run brings. -/
def contactsOf (rs : List Request) : List Contact := rs.flatMap Request.contacts

theorem declares_of_mem_plan {d : Touchscreen σ} {r : Request} {e : Event} (h : e ∈ d.plan r) :
    e = Event.report ∨ VirtualDevice.Declares d.profile d.config e := by
  have hframe : ∀ {body : List Event}, (∀ e ∈ body, e.IsContent) → e ∈ body ++ [Event.report] →
      e = Event.report ∨ VirtualDevice.Declares d.profile d.config e := by
    intro body hbody he
    rcases List.mem_append.1 he with he | he
    · exact Or.inr (VirtualDevice.declares_of_isContent (hbody e he))
    · exact Or.inl (List.mem_singleton.1 he)
  cases r with
  | update contacts => exact hframe (d.isContent_of_content contacts) h
  | disable => exact hframe (Report.isContent_of_releaseAll _) h
  | enable => exact absurd h List.not_mem_nil

/-- Every event of a plan stands in its place, if the device remembers only indices of contacts with a slot. -/
theorem places_plan {d : Touchscreen σ} {r : Request} {seen : List Contact}
    (remembered : ∀ i ∈ d.tracker.remembered, d.profile.Names seen (slotNumber i)) (new : ∀ c ∈ r.contacts, c ∈ seen) :
    Places (Placed d.config d.profile seen r.contacts) (d.plan r) := by
  cases r with
  | update contacts =>
    have hframe : ∀ c ∈ d.slotted contacts, ∀ i, c.index = some i → d.profile.Names seen (slotNumber i) :=
      fun c hc i hi => Profile.names_slotNumber (lt_slots_of_mem_slotted hc hi) ⟨c, new c (mem_slotted.1 hc).1, hi⟩
    have hprevious : ∀ i ∈ d.tracker.current, d.profile.Names seen (slotNumber i) := fun i hi =>
      remembered i (Tracker.mem_remembered.2 (Or.inl hi))
    rw [plan_update, content]
    -- Contacts bring their own indices. What is lifted was remembered, and may stem from an earlier request.
    split
    · refine places_append extends_placed (places_append extends_placed (places_append extends_placed
        (places_flatMap extends_placed fun c hc => places_contact (mem_slotted.1 hc).1 (hframe c hc))
        (places_releases fun i hi => ?_)) (places_pointer _)) places_report
      exact hprevious i (Tracker.mem_gone_advance.1 (IndexSet.mem_toList.1 hi)).1
    · refine places_releaseAll fun i hi => ?_
      rcases Tracker.mem_remembered_advance.1 hi with hi | hi
      · obtain ⟨c, hc, hci⟩ := mem_indices.1 hi
        exact hframe c hc i hci
      · exact hprevious i hi
  | disable => exact places_releaseAll remembered
  | enable => exact places_of_forall fun _ _ he => absurd he List.not_mem_nil

/-! ## The stream of a run -/

variable [Sink σ]

/-- Every event of a run arrives during some request, after the events of the requests before it. -/
theorem exists_request_of_transcript {d : Touchscreen σ} {rs : List Request} {es : List Event} {e : Event}
    (h : es ++ [e] <+: d.transcript rs) :
    ∃ before r rest own, rs = before ++ r :: rest ∧ es = d.transcript before ++ own ∧
      own ++ [e] <+: (d.afterAll before).delivered r := by
  induction rs generalizing d es with
  | nil => exact absurd (List.prefix_nil.1 h) (by simp)
  | cons r rs ih =>
    rw [transcript_cons] at h
    rcases snoc_prefix_append h with hown | ⟨later, rfl, hlater⟩
    · exact ⟨[], r, rs, es, rfl, rfl, hown⟩
    · obtain ⟨before, s, rest, own, rfl, rfl, hown⟩ := ih hlater
      exact ⟨r :: before, s, rest, own, rfl, by rw [transcript_cons, List.append_assoc], hown⟩

/-- Every index that is remembered is that of a contact of the run, and has a slot. -/
theorem names_of_remembered (sink : σ) (config : Config) (p : Profile) (rs : List Request) :
    ∀ i ∈ ((start sink config p).afterAll rs).tracker.remembered, p.Names (contactsOf rs) (slotNumber i) := by
  refine forall_remembered (fun i hi => ?_) fun contacts hr c hc i hi => ?_
  · simp [start] at hi
  · have hmem : c ∈ contactsOf rs := List.mem_flatMap.2 ⟨_, hr, (mem_slotted.1 hc).1⟩
    exact Profile.names_slotNumber (lt_slots_of_mem_slotted hc hi) ⟨c, hmem, hi⟩

/-- The events that are offered to the sink over a run, whether it takes them or not. -/
def offers (d : Touchscreen σ) (rs : List Request) : List Event :=
  ((serveAll rs : Action (Touchscreen σ) Errno (List (Except Errno Unit))) d).journal.offers

theorem transcript_subset_offers (d : Touchscreen σ) (rs : List Request) : d.transcript rs ⊆ d.offers rs :=
  Journal.events_subset_offers _

theorem declares_of_mem_offers {d : Touchscreen σ} {rs : List Request} {e : Event} (h : e ∈ d.offers rs) :
    e = Event.report ∨ VirtualDevice.Declares d.profile d.config e := by
  induction rs generalizing d with
  | nil => exact absurd h List.not_mem_nil
  | cons r rs ih =>
    rw [offers, serveAll_cons, Journal.offers_append] at h
    rcases List.mem_append.1 h with h | h
    · exact declares_of_mem_plan ((offers_upTo r d).subset h)
    · obtain ⟨hconfig, hprofile⟩ := settings_after d r
      rw [← hconfig, ← hprofile]
      exact ih h

/--
Over any sink, the type and the code of every event that a run offers are declared. Every event that arrives stands in its
place among the events of its request. There slots are named by the indices of contacts of this or an earlier request, and the
slots and the identities that are not negative lie in the range that is declared for them.
-/
theorem stream_well_formed (sink : σ) (config : Config) (p : Profile) (rs : List Request) :
    let d := start sink config p
    (∀ e ∈ d.offers rs, e = Event.report ∨ VirtualDevice.Declares p config e) ∧
      d.transcript rs ⊆ d.offers rs ∧
      ∀ es e, es ++ [e] <+: d.transcript rs →
        ∃ before r rest own, rs = before ++ r :: rest ∧ es = d.transcript before ++ own ∧
          own ++ [e] <+: (d.afterAll before).delivered r ∧
          Placed config p (contactsOf (before ++ [r])) r.contacts own e ∧
          ∀ code ∈ [Event.mtSlot, Event.mtTrackingId], ∀ v, e = .axis code v → 0 ≤ v →
            VirtualDevice.InSlotRange p config code v := by
  intro d
  refine ⟨fun e he => declares_of_mem_offers (d := d) he, transcript_subset_offers d rs, fun es e h => ?_⟩
  obtain ⟨before, r, rest, own, hrs, hes, hown⟩ := exists_request_of_transcript h
  have hseen : ∀ c ∈ contactsOf before ++ r.contacts, c ∈ contactsOf (before ++ [r]) := by
    intro c hc
    simpa [contactsOf] using hc
  obtain ⟨hconfig, hprofile⟩ := settings_afterAll d before
  have hplaces : Places (Placed (d.afterAll before).config (d.afterAll before).profile
      (contactsOf (before ++ [r])) r.contacts) ((d.afterAll before).plan r) := by
    refine places_plan (fun i hi => ?_) fun c hc => hseen c (List.mem_append_right _ hc)
    rw [hprofile]
    exact (names_of_remembered sink config p before i hi).mono fun c hc => hseen c (List.mem_append_left _ hc)
  rw [hconfig, hprofile] at hplaces
  -- What arrives of a request is a beginning of its plan, wherever the sink breaks it off.
  have hplaced := hplaces.mono (sends_serve r _).upTo own e hown
  exact ⟨before, r, rest, own, hrs, hes, hown, hplaced, fun _ hcode _ hv hnonneg => hplaced.inSlotRange hcode hv hnonneg⟩

/--
An update is refused after it has named a slot and given it an identity; its other contact has an index that 32 bits would turn
into this slot. The next update begins with the slot again, and its identity stands right after that.
-/
theorem stream_well_formed_past_refusal :
    let touch (i : Nat) : Contact := { index := some i }
    let d := start { taken := 2, refused := 1 : ScriptedSink } {} Profile.standard
    let rs := [.update [touch 4294967297, touch 1], .update [touch 1]]
    let es := [.axis Event.mtSlot 1, .axis Event.mtTrackingId 1, .axis Event.mtSlot 1]
    let e := .axis Event.mtTrackingId 1
    d.refusals rs = [Errno.inputOutput] ∧ es ++ [e] <+: d.transcript rs ∧
      ∃ before r rest own, rs = before ++ r :: rest ∧ es = d.transcript before ++ own ∧
        own ++ [e] <+: (d.afterAll before).delivered r ∧
        Placed {} Profile.standard (contactsOf (before ++ [r])) r.contacts own e ∧
        ∀ code ∈ [Event.mtSlot, Event.mtTrackingId], ∀ v, e = .axis code v → 0 ≤ v →
          VirtualDevice.InSlotRange Profile.standard {} code v := by
  intro touch d rs es e
  have hprefix : es ++ [e] <+: d.transcript rs := by decide +kernel
  have hstream := stream_well_formed { taken := 2, refused := 1 : ScriptedSink } {} Profile.standard rs
  exact ⟨by decide +kernel, hprefix, hstream.2.2 es e hprefix⟩

end Touchscreen
end Digitizer
