import Digitizer.Output.Receiver
import Digitizer.Proofs.Touch.Plan

/-!
# What a run shows

The receiver of the events knows a device only through what was delivered to it. `shown` is its knowledge after a run. An
invariant of the device and the receiver that every request keeps holds after every run (`run_invariant`).
-/
namespace Digitizer.Touchscreen
variable {σ : Type}

/-- A device that has served nothing yet. -/
def start (sink : σ) (config : Config) (profile : Profile) : Touchscreen σ := { sink, config, profile }

variable [Sink σ]

/-- The device after a run. -/
def afterAll (d : Touchscreen σ) (rs : List Request) : Touchscreen σ := rs.foldl after d

/-- The events that reach the sink over a run. -/
def transcript (d : Touchscreen σ) (rs : List Request) : List Event :=
  ((serveAll rs : Action (Touchscreen σ) Errno (List (Except Errno Unit))) d).journal.events

/-- The events that reach the sink, request by request. -/
def deliveries (d : Touchscreen σ) : List Request → List (List Event)
  | [] => []
  | r :: rs => d.delivered r :: (d.after r).deliveries rs

/-- What the receiver knows after a run. -/
def shown (d : Touchscreen σ) (rs : List Request) : Receiver := Receiver.replay {} (d.transcript rs)

@[simp] theorem afterAll_nil (d : Touchscreen σ) : d.afterAll [] = d := rfl
@[simp] theorem afterAll_cons (d : Touchscreen σ) (r : Request) (rs : List Request) :
    d.afterAll (r :: rs) = (d.after r).afterAll rs := rfl
@[simp] theorem afterAll_append (d : Touchscreen σ) (rs ss : List Request) :
    d.afterAll (rs ++ ss) = (d.afterAll rs).afterAll ss := List.foldl_append

@[simp] theorem transcript_nil (d : Touchscreen σ) : d.transcript [] = [] := rfl
@[simp] theorem transcript_cons (d : Touchscreen σ) (r : Request) (rs : List Request) :
    d.transcript (r :: rs) = d.delivered r ++ (d.after r).transcript rs := by
  simp [transcript, delivered]

theorem transcript_append (d : Touchscreen σ) (rs ss : List Request) :
    d.transcript (rs ++ ss) = d.transcript rs ++ (d.afterAll rs).transcript ss := by
  induction rs generalizing d with
  | nil => simp
  | cons r rs ih => simp [ih]

@[simp] theorem shown_nil (d : Touchscreen σ) : d.shown [] = {} := rfl

/-- Later requests are replayed on top of what was known. -/
theorem shown_append (d : Touchscreen σ) (rs ss : List Request) :
    d.shown (rs ++ ss) = (d.shown rs).replay ((d.afterAll rs).transcript ss) := by
  simp [shown, transcript_append]

theorem shown_snoc (d : Touchscreen σ) (rs : List Request) (r : Request) :
    d.shown (rs ++ [r]) = (d.shown rs).replay ((d.afterAll rs).delivered r) := by
  simp [shown_append]

/-- What every allowed request keeps is kept by every run of allowed requests. -/
theorem run_invariant (Inv : Touchscreen σ → Receiver → Prop) (Allowed : Request → Prop)
    (step : ∀ d known r, Allowed r → Inv d known → Inv (d.after r) (known.replay (d.delivered r)))
    {d : Touchscreen σ} {known : Receiver} (base : Inv d known) {rs : List Request} (allowed : ∀ r ∈ rs, Allowed r) :
    Inv (d.afterAll rs) (known.replay (d.transcript rs)) := by
  induction rs generalizing d known with
  | nil => exact base
  | cons r rs ih =>
    have hnext := step d known r (allowed r List.mem_cons_self) base
    have hrest := ih hnext fun s hs => allowed s (List.mem_cons_of_mem r hs)
    simpa using hrest

/-- No request touches the settings. -/
theorem settings_after (d : Touchscreen σ) (r : Request) :
    (d.after r).config = d.config ∧ (d.after r).profile = d.profile := by
  cases r with
  | update contacts =>
    have h := unpointed_update contacts d
    have hc := congrArg config h
    have hp := congrArg profile h
    exact ⟨hc, hp⟩
  | disable =>
    cases hr : (serve .disable d).result with
    | ok a =>
      have h := (sends_serve .disable d).settled a hr
      have hc := congrArg config h
      have hp := congrArg profile h
      exact ⟨hc, hp⟩
    | error cause =>
      have h := core_disable_of_error hr
      have hc := congrArg config h
      have hp := congrArg profile h
      exact ⟨hc, hp⟩
  | enable => exact ⟨rfl, rfl⟩

theorem settings_afterAll (d : Touchscreen σ) (rs : List Request) :
    (d.afterAll rs).config = d.config ∧ (d.afterAll rs).profile = d.profile := by
  induction rs generalizing d with
  | nil => exact ⟨rfl, rfl⟩
  | cons r rs ih =>
    obtain ⟨hc, hp⟩ := settings_after d r
    rw [afterAll_cons, (ih _).1, (ih _).2, hc, hp]
    exact ⟨rfl, rfl⟩

/-! ## Runs that succeed -/

/-- Every request of a run succeeds. -/
def Succeeds (d : Touchscreen σ) (rs : List Request) : Prop :=
  ((serveAll rs : Action (Touchscreen σ) Errno (List (Except Errno Unit))) d).result = .ok (rs.map fun _ => .ok ())

theorem succeeds_cons {d : Touchscreen σ} {r : Request} {rs : List Request} :
    d.Succeeds (r :: rs) ↔ (serve r d).result = .ok () ∧ (d.after r).Succeeds rs := by
  rw [Succeeds, Succeeds, serveAll_cons]
  cases hrest : ((serveAll rs : Action (Touchscreen σ) Errno (List (Except Errno Unit))) (d.after r)).result <;>
    simp [hrest, Except.map]

theorem succeeds_append {d : Touchscreen σ} {rs ss : List Request} :
    d.Succeeds (rs ++ ss) ↔ d.Succeeds rs ∧ (d.afterAll rs).Succeeds ss := by
  induction rs generalizing d with
  | nil => simp [Succeeds]
  | cons r rs ih => rw [List.cons_append, succeeds_cons, succeeds_cons, ih, and_assoc, afterAll_cons]

/-- Over a sink that never refuses an event every run succeeds. -/
theorem succeeds_of_reliable {d : Touchscreen σ} (reliable : Sink.Reliable d.sink) (rs : List Request) : d.Succeeds rs := by
  induction rs generalizing d with
  | nil => rfl
  | cons r rs ih =>
    obtain ⟨⟨a, ha⟩, hnext⟩ := (sends_serve r d).reliable reliable
    exact succeeds_cons.2 ⟨ha, ih hnext⟩

/-- Why the sink refused events over a run. -/
def refusals (d : Touchscreen σ) (rs : List Request) : List Errno :=
  ((serveAll rs : Action (Touchscreen σ) Errno (List (Except Errno Unit))) d).journal.refusals

/-- A run succeeds if the sink refuses none of its events. -/
theorem succeeds_of_refusals {d : Touchscreen σ} {rs : List Request} (h : d.refusals rs = []) : d.Succeeds rs := by
  induction rs generalizing d with
  | nil => rfl
  | cons r rs ih =>
    have hjournal : (serve r d).journal.refusals ++ (d.after r).refusals rs = [] := by
      rw [← h, refusals, refusals, serveAll_cons, Journal.refusals_append]
    obtain ⟨hfirst, hrest⟩ := List.append_eq_nil_iff.1 hjournal
    have hresult := failsByRefusal_serve r d
    rw [hfirst] at hresult
    refine succeeds_cons.2 ⟨?_, ih hrest⟩
    cases hr : (serve r d).result with
    | ok a => rfl
    | error cause =>
      rw [hr] at hresult
      exact absurd hresult (by simp)

theorem reliable_afterAll {d : Touchscreen σ} (reliable : Sink.Reliable d.sink) (rs : List Request) :
    Sink.Reliable (d.afterAll rs).sink := by
  induction rs generalizing d with
  | nil => exact reliable
  | cons r rs ih => exact ih (serve_of_reliable reliable r).2.2

/-! ## Indices and slots -/

/-- At every time the same contacts can be reported. -/
theorem slotted_afterAll (d : Touchscreen σ) (rs : List Request) (contacts : List Contact) :
    (d.afterAll rs).slotted contacts = contacts.filter (Contact.fits d.profile.slots) := by
  rw [slotted, (settings_afterAll d rs).2]

omit [Sink σ] in
theorem mem_slotted {d : Touchscreen σ} {contacts : List Contact} {c : Contact} :
    c ∈ d.slotted contacts ↔ c ∈ contacts ∧ c.fits d.profile.slots = true := List.mem_filter

omit [Sink σ] in
theorem lt_slots_of_mem_slotted {d : Touchscreen σ} {contacts : List Contact} {c : Contact} {i : Nat}
    (h : c ∈ d.slotted contacts) (hi : c.index = some i) : i < d.profile.slots := by
  have hfits := (mem_slotted.1 h).2
  simpa [Contact.fits, hi] using hfits

theorem tracker_after_update (d : Touchscreen σ) (contacts : List Contact) :
    (d.after (.update contacts)).tracker = d.tracker.advance (d.slotted contacts) := by
  have h := unpointed_update contacts d
  exact congrArg tracker h

theorem enabled_after_update (d : Touchscreen σ) (contacts : List Contact) :
    (d.after (.update contacts)).enabled = d.enabled := by
  have h := congrArg enabled (unpointed_update contacts d)
  exact h

theorem tracker_of_disable_ok {d : Touchscreen σ} {a : Unit} (h : (serve .disable d).result = .ok a) :
    (d.after .disable).tracker = {} := by
  have hsettled := (sends_serve .disable d).settled a h
  exact congrArg tracker hsettled

theorem tracker_of_disable_error {d : Touchscreen σ} {cause : Errno} (h : (serve .disable d).result = .error cause) :
    (d.after .disable).tracker = d.tracker := by
  have hcore := core_disable_of_error h
  have htracker := congrArg tracker hcore
  exact htracker

/-- What holds of the indices of all contacts that could be reported holds of every index that is remembered. -/
theorem forall_remembered {Q : Nat → Prop} {d : Touchscreen σ} {rs : List Request} (base : ∀ i ∈ d.tracker.remembered, Q i)
    (step : ∀ contacts, .update contacts ∈ rs → ∀ c ∈ d.slotted contacts, ∀ i, c.index = some i → Q i) :
    ∀ i ∈ (d.afterAll rs).tracker.remembered, Q i := by
  induction rs generalizing d with
  | nil => exact base
  | cons r rs ih =>
    refine ih (d := d.after r) ?_ fun contacts hr => ?_
    · cases r with
      | update contacts =>
        intro i hi
        rw [tracker_after_update, Tracker.mem_remembered_advance] at hi
        rcases hi with hi | hi
        · obtain ⟨c, hc, hci⟩ := mem_indices.1 hi
          exact step contacts List.mem_cons_self c hc i hci
        · exact base i (Tracker.mem_remembered.2 (Or.inl hi))
      | disable =>
        cases hr : (serve .disable d).result with
        | ok a =>
          intro i hi
          simp [tracker_of_disable_ok hr] at hi
        | error cause => rwa [tracker_of_disable_error hr]
      | enable => exact base
    · rw [slotted, (settings_after d r).2]
      exact step contacts (List.mem_cons_of_mem r hr)

/-- The tracker never remembers an index without a slot. -/
theorem lt_slots_of_remembered {d : Touchscreen σ} (base : ∀ i ∈ d.tracker.remembered, i < d.profile.slots)
    (rs : List Request) : ∀ i ∈ (d.afterAll rs).tracker.remembered, i < d.profile.slots :=
  forall_remembered base fun _ _ _ hc _ hi => lt_slots_of_mem_slotted hc hi

end Digitizer.Touchscreen
