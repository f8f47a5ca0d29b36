import Digitizer.Proofs.Touch.Interrupted
import Mathlib.Data.List.Induction

/-!
# Lost releases

The tracker advances before anything is sent and remembers two frames. So a contact that disappears in an update that fails
can be lifted only by the requests up to the next update: that update forgets the index. This is the only way in which a
slot stays down without a contact after a request that succeeds.
-/
namespace Digitizer.Touchscreen
variable {σ : Type}

/-- A request is not an update with a contact in the slot of an index. -/
def Request.Skips (slots i : Nat) : Request → Prop
  | .update contacts => i ∉ indices (contacts.filter (Contact.fits slots))
  | .disable | .enable => True

/-! ## Complete plans -/

/-- A complete update lifts what disappears in it. -/
theorem up_of_plan_update {d : Touchscreen σ} {contacts : List Contact} {i : Nat} (held : i ∈ d.tracker.current)
    (skips : (Request.update contacts).Skips d.profile.slots i) (known : Receiver) :
    ((known.replay (d.plan (.update contacts))).slot (slotNumber i)).down = false := by
  cases hp : d.presents (d.slotted contacts) with
  | true =>
    rw [slot_plan_presented hp, if_pos ⟨i, Tracker.mem_gone_advance.2 ⟨held, skips⟩, rfl⟩, SlotState.down_lift]
  | false =>
    rw [plan_blocked hp, slot_releaseAll, if_pos ⟨i, Tracker.mem_remembered_advance.2 (Or.inr held), rfl⟩,
      SlotState.down_lift]

theorem up_of_plan_disable {d : Touchscreen σ} {i : Nat} (h : i ∈ d.tracker.remembered) (known : Receiver) :
    ((known.replay (d.plan .disable)).slot (slotNumber i)).down = false := by
  rw [plan, slot_releaseAll, if_pos ⟨i, h, rfl⟩, SlotState.down_lift]

/-! ## What is forgotten stays down -/

/-- The slot of an index is down, and the tracker does not remember the index. -/
structure Forgotten (d : Touchscreen σ) (known : Receiver) (i : Nat) : Prop where
  slot : i < d.profile.slots
  fits : ∀ j ∈ d.tracker.remembered, j < d.profile.slots
  unknown : i ∉ d.tracker.remembered
  down : (known.slot (slotNumber i)).down = true

/-- No contact of an update that skips an index is in the slot of the index. -/
theorem Request.Skips.isFor {d : Touchscreen σ} {contacts : List Contact} {i : Nat} (hi : i < d.profile.slots)
    (skips : (Request.update contacts).Skips d.profile.slots i) :
    ∀ c ∈ d.slotted contacts, c.isFor (slotNumber i) = false := by
  intro c hc
  cases hj : c.index with
  | none => simp [Contact.isFor, hj]
  | some j =>
    have hne : slotNumber j ≠ slotNumber i := by
      intro hs
      rw [slotNumber_inj (fits_slotted d contacts c hc j hj) (Profile.lt_of_lt_slots hi)] at hs
      exact skips (mem_indices.2 ⟨c, hc, hs ▸ hj⟩)
    simp [Contact.isFor, hj, hne]

variable [Sink σ]

/-- The tracker remembers indices with a slot only, before and after a request. -/
theorem fits_after {d : Touchscreen σ} (fits : ∀ j ∈ d.tracker.remembered, j < d.profile.slots) (r : Request) :
    ∀ j ∈ (d.after r).tracker.remembered, j < (d.after r).profile.slots := by
  rw [(settings_after d r).2]
  exact lt_slots_of_remembered fits [r]

/-- An update that skips an index of no contact on the screen leaves its slot down and forgets it. -/
theorem forgotten_of_update {d : Touchscreen σ} {known : Receiver} {contacts : List Contact} {i : Nat}
    (hi : i < d.profile.slots) (fits : ∀ j ∈ d.tracker.remembered, j < d.profile.slots)
    (absent : i ∉ d.tracker.current) (down : (known.slot (slotNumber i)).down = true)
    (skips : (Request.update contacts).Skips d.profile.slots i) :
    Forgotten (d.after (.update contacts)) (known.replay (d.delivered (.update contacts))) i := by
  have hprofile := (settings_after d (.update contacts)).2
  have hunknown : i ∉ (d.after (.update contacts)).tracker.remembered := by
    rw [tracker_after_update, Tracker.mem_remembered_advance]
    exact fun h => h.elim skips absent
  have hfits := fits_after fits (.update contacts)
  refine ⟨hprofile.symm ▸ hi, hfits, hunknown, ?_⟩
  refine maintained (P := (·.down = true)) (maintains_plan_update (skips.isFor hi) fun j hj hs => ?_) down
  rw [← tracker_after_update] at hj
  have hjlt := hfits j hj
  rw [hprofile] at hjlt
  rw [slotNumber_inj (Profile.lt_of_lt_slots hjlt) (Profile.lt_of_lt_slots hi)] at hs
  exact absurd (hs ▸ hj) hunknown

/-- What is forgotten stays down until an update has a contact in its slot. -/
theorem Forgotten.step {d : Touchscreen σ} {known : Receiver} {i : Nat} (h : Forgotten d known i) {r : Request}
    (skips : r.Skips d.profile.slots i) : Forgotten (d.after r) (known.replay (d.delivered r)) i := by
  cases r with
  | update contacts =>
    have habsent : i ∉ d.tracker.current := fun hi => h.unknown (Tracker.mem_remembered.2 (Or.inl hi))
    exact forgotten_of_update h.slot h.fits habsent h.down skips
  | disable =>
    have hunknown : i ∉ (d.after .disable).tracker.remembered := by
      cases hr : (serve .disable d).result with
      | ok a => simp [tracker_of_disable_ok hr]
      | error cause =>
        rw [tracker_of_disable_error hr]
        exact h.unknown
    refine ⟨(settings_after d .disable).2.symm ▸ h.slot, fits_after h.fits .disable, hunknown, ?_⟩
    refine maintained (P := (·.down = true)) (Receiver.maintains_releaseAll fun j hj hs => ?_) h.down
    rw [slotNumber_inj (Profile.lt_of_lt_slots (h.fits j hj)) (Profile.lt_of_lt_slots h.slot)] at hs
    exact absurd (hs ▸ hj) h.unknown
  | enable => exact ⟨h.slot, h.fits, h.unknown, h.down⟩

theorem Forgotten.run {d : Touchscreen σ} {known : Receiver} {i : Nat} (h : Forgotten d known i) {rs : List Request}
    (skips : ∀ r ∈ rs, r.Skips d.profile.slots i) :
    Forgotten (d.afterAll rs) (known.replay (d.transcript rs)) i := by
  have hinv := run_invariant (fun e known => e.profile = d.profile ∧ Forgotten e known i)
    (fun r => r.Skips d.profile.slots i) ?_ ⟨rfl, h⟩ skips
  · exact hinv.2
  · rintro e known r hr ⟨hprofile, he⟩
    exact ⟨(settings_after e r).2.trans hprofile, he.step (hprofile ▸ hr)⟩

/-! ## How an index is stranded -/

/--
The contact with an index disappears in an update that fails. No update has come since, and the slot of the index is still
down.
-/
structure Abandons (d : Touchscreen σ) (before : List Request) (contacts : List Contact) (waits : List Request)
    (i : Nat) : Prop where
  slot : i < d.profile.slots
  held : i ∈ (d.afterAll before).tracker.current
  failed : ∃ cause, (serve (.update contacts) (d.afterAll before)).result = .error cause
  skips : (Request.update contacts).Skips d.profile.slots i
  idle : ∀ frame, .update frame ∉ waits
  down : ((d.shown (before ++ .update contacts :: waits)).slot (slotNumber i)).down = true

/-- After an index was abandoned, all updates skip it, and there is at least one. -/
def Stranded (d : Touchscreen σ) (run : List Request) (i : Nat) : Prop :=
  ∃ before contacts waits next rest, run = before ++ .update contacts :: waits ++ .update next :: rest ∧
    d.Abandons before contacts waits i ∧ ∀ r ∈ .update next :: rest, r.Skips d.profile.slots i

/-- Why the slot of an index is down. -/
inductive Fate (d : Touchscreen σ) (run : List Request) (i : Nat) : Prop
  | current (h : i ∈ (d.afterAll run).tracker.current)
  | abandoned {before : List Request} {contacts : List Contact} {waits : List Request}
      (h : run = before ++ .update contacts :: waits) (abandons : d.Abandons before contacts waits i)
      (remembered : i ∈ (d.afterAll run).tracker.remembered)
  | stranded (h : d.Stranded run i)

variable {d : Touchscreen σ} {rs : List Request} {r : Request} {i : Nat}

theorem Stranded.snoc (h : d.Stranded rs i) (skips : r.Skips d.profile.slots i) : d.Stranded (rs ++ [r]) i := by
  obtain ⟨before, contacts, waits, next, rest, rfl, habandons, hskips⟩ := h
  refine ⟨before, contacts, waits, next, rest ++ [r], by simp, habandons, fun q hq => ?_⟩
  rw [← List.cons_append, List.mem_append, List.mem_singleton] at hq
  rcases hq with hq | rfl
  · exact hskips q hq
  · exact skips

/-- An abandoned index waits through requests that are no updates. -/
theorem Abandons.snoc {before : List Request} {contacts : List Contact} {waits : List Request}
    (h : d.Abandons before contacts waits i) (idle : ∀ frame, r ≠ .update frame)
    (down : ((d.shown (before ++ .update contacts :: waits ++ [r])).slot (slotNumber i)).down = true) :
    d.Abandons before contacts (waits ++ [r]) i where
  slot := h.slot
  held := h.held
  failed := h.failed
  skips := h.skips
  idle := by
    intro frame hmem
    rcases List.mem_append.1 hmem with hmem | hmem
    · exact h.idle frame hmem
    · exact idle frame (List.mem_singleton.1 hmem).symm
  down := by simpa using down

/-- A request that brings no contact for a slot that stays down leaves a reason for it. -/
theorem Fate.snoc (h : Fate d rs i) (hi : i < d.profile.slots) (skips : r.Skips d.profile.slots i)
    (down : ((d.shown (rs ++ [r])).slot (slotNumber i)).down = true) : Fate d (rs ++ [r]) i := by
  have hprofile := (settings_afterAll d rs).2
  have hafter : d.afterAll (rs ++ [r]) = (d.afterAll rs).after r := by simp
  have hdelivered := down
  rw [shown_snoc] at hdelivered
  cases h with
  | stranded h => exact .stranded (h.snoc skips)
  | current h =>
    cases r with
    | update contacts =>
      have hfailed := error_of_down (up_of_plan_update h (hprofile.symm ▸ skips) (d.shown rs)) hdelivered
      have habandons : d.Abandons rs contacts [] i := ⟨hi, h, hfailed, skips, fun _ => List.not_mem_nil, down⟩
      refine .abandoned rfl habandons ?_
      rw [hafter, tracker_after_update, Tracker.mem_remembered_advance]
      exact Or.inr h
    | disable =>
      have hremembered := Tracker.mem_remembered.2 (Or.inl h)
      obtain ⟨cause, hr⟩ := error_of_down (up_of_plan_disable hremembered (d.shown rs)) hdelivered
      refine .current ?_
      rw [hafter, tracker_of_disable_error hr]
      exact h
    | enable =>
      refine .current ?_
      rw [hafter]
      exact h
  | @abandoned before contacts waits h habandons hremembered =>
    subst h
    cases r with
    | update next =>
      refine .stranded ⟨before, contacts, waits, next, [], rfl, habandons, fun q hq => ?_⟩
      rw [List.mem_singleton.1 hq]
      exact skips
    | disable =>
      obtain ⟨cause, hr⟩ := error_of_down (up_of_plan_disable hremembered (d.shown _)) hdelivered
      refine .abandoned (by simp) (habandons.snoc (fun _ => Request.noConfusion) down) ?_
      rw [hafter, tracker_of_disable_error hr]
      exact hremembered
    | enable =>
      refine .abandoned (by simp) (habandons.snoc (fun _ => Request.noConfusion) down) ?_
      rw [hafter]
      exact hremembered

/-- Every slot that is down belongs to an index, for one of three reasons. -/
theorem fate (sink : σ) (config : Config) (p : Profile) (rs : List Request) :
    let d := start sink config p
    ∀ s, ((d.shown rs).slot s).down = true → ∃ i < p.slots, slotNumber i = s ∧ Fate d rs i := by
  intro d
  induction rs using List.reverseRecOn with
  | nil => exact fun s hdown => absurd hdown Bool.false_ne_true
  | append_singleton rs r ih =>
    intro s hdown
    have hframe := slotted_afterAll d rs
    by_cases hcontact : ∃ contacts, r = .update contacts ∧ ∃ c ∈ (d.afterAll rs).slotted contacts, c.isFor s = true
    · obtain ⟨contacts, rfl, c, hc, hfor⟩ := hcontact
      obtain ⟨i, hi, rfl⟩ : ∃ i, c.index = some i ∧ slotNumber i = s := by
        cases hi : c.index with
        | none => simp [Contact.isFor, hi] at hfor
        | some i => exact ⟨i, rfl, by simpa [Contact.isFor, hi] using hfor⟩
      have hslots := lt_slots_of_mem_slotted hc hi
      rw [(settings_afterAll d rs).2] at hslots
      refine ⟨i, hslots, rfl, .current ?_⟩
      rw [afterAll_append, afterAll_cons, afterAll_nil, tracker_after_update, Tracker.current_advance]
      exact mem_indices.2 ⟨c, hc, hi⟩
    · have hbefore : ((d.shown rs).slot s).down = true := by
        rw [shown_snoc] at hdown
        refine down_before (fun contacts hr c hc => ?_) hdown
        rw [← Bool.not_eq_true]
        exact fun hfor => hcontact ⟨contacts, hr, c, hc, hfor⟩
      obtain ⟨i, hi, rfl, hfate⟩ := ih s hbefore
      refine ⟨i, hi, rfl, hfate.snoc hi ?_ hdown⟩
      cases r with
      | update contacts =>
        intro hmem
        obtain ⟨c, hc, hci⟩ := mem_indices.1 hmem
        refine hcontact ⟨contacts, rfl, c, ?_, by simp [Contact.isFor, hci]⟩
        rw [hframe contacts]
        exact hc
      | disable => trivial
      | enable => trivial

/-- After an update or a disable that succeeds nothing is left abandoned. -/
theorem Fate.settled (h : Fate d (rs ++ [r]) i) (ok : (serve r (d.afterAll rs)).result = .ok ())
    (lifts : r ≠ .enable) : i ∈ (d.afterAll (rs ++ [r])).tracker.current ∨ d.Stranded (rs ++ [r]) i := by
  cases h with
  | current h => exact Or.inl h
  | stranded h => exact Or.inr h
  | @abandoned before contacts waits h habandons hremembered =>
    rcases List.eq_nil_or_concat waits with rfl | ⟨waits, last, rfl⟩
    · obtain ⟨rfl, hr⟩ := List.append_inj' h rfl
      obtain ⟨cause, hfailed⟩ := habandons.failed
      rw [← List.singleton_inj.1 hr, ok] at hfailed
      exact absurd hfailed (by simp)
    · rw [List.concat_eq_append] at h habandons
      rw [← List.cons_append, ← List.append_assoc] at h
      obtain ⟨-, hr⟩ := List.append_inj' h rfl
      obtain rfl := List.singleton_inj.1 hr
      cases r with
      | update frame => exact absurd (by simp) (habandons.idle frame)
      | disable =>
        simp [tracker_of_disable_ok ok] at hremembered
      | enable => exact absurd rfl lifts

/-- Without an update no contact appears. -/
theorem absent_of_idle {d : Touchscreen σ} (absent : i ∉ d.tracker.current) {waits : List Request}
    (idle : ∀ frame, .update frame ∉ waits) : i ∉ (d.afterAll waits).tracker.current := by
  induction waits generalizing d with
  | nil => exact absent
  | cons r rs ih =>
    refine ih ?_ fun frame hmem => idle frame (List.mem_cons_of_mem r hmem)
    cases r with
    | update frame => exact absurd List.mem_cons_self (idle frame)
    | disable =>
      cases hr : (serve .disable d).result with
      | ok a => simp [tracker_of_disable_ok hr]
      | error cause =>
        rw [tracker_of_disable_error hr]
        exact absent
    | enable => exact absent

/-- A stranded index is forgotten, and its slot is down. -/
theorem Stranded.forgotten (fits : ∀ j ∈ d.tracker.remembered, j < d.profile.slots) (h : d.Stranded rs i) :
    Forgotten (d.afterAll rs) (d.shown rs) i := by
  obtain ⟨before, contacts, waits, next, rest, rfl, habandons, hskips⟩ := h
  have hprofile := (settings_afterAll d (before ++ .update contacts :: waits)).2
  have hfits := lt_slots_of_remembered fits (before ++ .update contacts :: waits)
  have habsent : i ∉ (d.afterAll (before ++ .update contacts :: waits)).tracker.current := by
    rw [afterAll_append, afterAll_cons]
    refine absent_of_idle ?_ habandons.idle
    rw [tracker_after_update, Tracker.current_advance, slotted_afterAll]
    exact habandons.skips
  rw [← hprofile] at hfits hskips
  have hfirst := forgotten_of_update (hprofile.symm ▸ habandons.slot) hfits habsent habandons.down
    (hskips _ List.mem_cons_self)
  have hlater : ∀ r ∈ rest, r.Skips ((d.afterAll (before ++ .update contacts :: waits)).after
      (.update next)).profile.slots i := by
    intro r hr
    rw [(settings_after _ _).2]
    exact hskips r (List.mem_cons_of_mem _ hr)
  have hrest := hfirst.run hlater
  rw [afterAll_append, shown_append, afterAll_cons, transcript_cons, Receiver.replay_append]
  exact hrest

/--
After a run whose last request is an update or a disable that succeeds, every slot that is down belongs to a contact of the
current frame if and only if no index is stranded.
-/
theorem down_slots_are_current_iff (sink : σ) (config : Config) (p : Profile) {rs : List Request} {r : Request}
    (ok : (serve r ((start sink config p).afterAll rs)).result = .ok ()) (lifts : r ≠ .enable) :
    let d := start sink config p
    (∀ s, ((d.shown (rs ++ [r])).slot s).down = true →
      ∃ i ∈ (d.afterAll (rs ++ [r])).tracker.current, slotNumber i = s) ↔ ¬∃ i, d.Stranded (rs ++ [r]) i := by
  intro d
  have hprofile : (d.afterAll (rs ++ [r])).profile = p := (settings_afterAll d (rs ++ [r])).2
  constructor
  · rintro hcurrent ⟨i, hi⟩
    have hforgotten := hi.forgotten (tracked_start sink config p).fits
    obtain ⟨j, hj, hs⟩ := hcurrent _ hforgotten.down
    have hremembered := Tracker.mem_remembered.2 (Or.inl hj)
    rw [slotNumber_inj (Profile.lt_of_lt_slots (hforgotten.fits j hremembered))
      (Profile.lt_of_lt_slots hforgotten.slot)] at hs
    exact hforgotten.unknown (hs ▸ hremembered)
  · intro hnone s hdown
    obtain ⟨i, hi, hs, hfate⟩ := fate sink config p (rs ++ [r]) s hdown
    rcases hfate.settled ok lifts with hcurrent | hstranded
    · exact ⟨i, hcurrent, hs⟩
    · exact absurd ⟨i, hstranded⟩ hnone

/-- A contact disappears, the sink refuses its release, and the next frame succeeds: the slot stays down. -/
theorem down_slot_without_contact :
    let d := start { taken := 9, refused := 1 : ScriptedSink } {} Profile.standard
    let rs := [.update [{ index := some 1 }], .update []]
    (serve (.update []) (d.afterAll rs)).result = .ok () ∧
      ((d.shown (rs ++ [.update []])).slot 1).down = true ∧
      (d.afterAll (rs ++ [.update []])).tracker.current = ∅ := by
  intro d rs
  refine ⟨?_, ?_, ?_⟩ <;> decide +kernel

/-- The contact whose release was refused is stranded. -/
theorem stranded_of_refused_release :
    let d := start { taken := 9, refused := 1 : ScriptedSink } {} Profile.standard
    let rs := [.update [{ index := some 1 }], .update []]
    (serve (.update []) (d.afterAll rs)).result = .ok () ∧ Request.update [] ≠ .enable ∧
      ∃ i, d.Stranded (rs ++ [.update []]) i := by
  intro d rs
  have ok : (serve (.update []) (d.afterAll rs)).result = .ok () := by decide +kernel
  have lifts : Request.update [] ≠ .enable := Request.noConfusion
  have hdown : ((d.shown (rs ++ [.update []])).slot 1).down = true := by decide +kernel
  have hcurrent : (d.afterAll (rs ++ [.update []])).tracker.current = ∅ := by decide +kernel
  simp only [d] at ok hdown hcurrent ⊢
  have hiff := down_slots_are_current_iff _ _ _ ok lifts
  refine ⟨ok, lifts, Classical.byContradiction fun hnone => ?_⟩
  obtain ⟨i, hi, -⟩ := hiff.2 hnone 1 hdown
  rw [hcurrent] at hi
  exact IndexSet.not_mem_empty i hi

end Digitizer.Touchscreen
