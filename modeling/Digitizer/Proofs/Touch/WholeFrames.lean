import Digitizer.Proofs.Output.Batches
import Digitizer.Proofs.Touch.Shown

/-!
# Frames are written whole or not at all

Over a batch sink nothing that a request sends can be refused before the end of its frame. So each request makes one write, and
the device is settled before that write is answered. A failed write is forgotten: devices whose targets answer differently to
updates stay twins, which differ in nothing else.
-/
namespace Digitizer

namespace BatchSink
variable {τ : Type} [BatchTarget τ]

/-- Events that end no frame are all taken. -/
theorem takeAll_unfinished (s : BatchSink τ) {events : List Event} (h : ∀ e ∈ events, e.isReport = false) :
    Sink.takeAll s events =
      { result := .ok (), sink := { s with batch := s.batch ++ events }, entries := events.map Entry.emitted } := by
  induction events generalizing s with
  | nil => simp
  | cons e es ih =>
    have he := take_of_unfinished s (h e List.mem_cons_self)
    have hrest := ih { s with batch := s.batch ++ [e] } fun x hx => h x (List.mem_cons_of_mem e hx)
    rw [Sink.takeAll_cons_of_ok (by rw [he]), he, hrest]
    simp

/-- The end of a frame makes one write of all that was kept before it, and decides the result. -/
theorem takeAll_frame (s : BatchSink (Recorded τ)) {body : List Event} (h : ∀ e ∈ body, e.isReport = false) :
    let reception := Sink.takeAll s (body ++ [Event.report])
    reception.entries.offers = body ++ [Event.report] ∧ reception.sink.batch = [] ∧
      reception.sink.target.writes = s.target.writes ++ [(s.batch ++ body ++ [Event.report], reception.result)] := by
  intro reception
  have hbody := takeAll_unfinished s h
  have hok : (Sink.takeAll s body).result = .ok () := by rw [hbody]
  have happend := Sink.takeAll_append_of_ok hok [Event.report]
  rw [hbody] at happend
  let kept : BatchSink (Recorded τ) := { s with batch := s.batch ++ body }
  have hreception : reception = { Sink.takeAll kept [Event.report] with
      entries := body.map Entry.emitted ++ (Sink.takeAll kept [Event.report]).entries } := happend
  obtain ⟨hbatch, hwrites⟩ := take_of_report kept (e := Event.report) rfl
  have hoffers : Journal.offers (body.map Entry.emitted) = body := by
    simp [Journal.offers, List.filterMap_map, Function.comp_def, Entry.offer?]
  cases hr : (Sink.take kept Event.report).result with
  | error cause =>
    rw [Sink.takeAll_cons_of_error hr] at hreception
    rw [hr] at hwrites
    rw [hreception]
    refine ⟨?_, hbatch, hwrites⟩
    rw [Journal.offers_append, hoffers]
    rfl
  | ok a =>
    rw [Sink.takeAll_cons_of_ok hr] at hreception
    rw [hr] at hwrites
    rw [hreception]
    refine ⟨?_, hbatch, hwrites⟩
    rw [Journal.offers_append, hoffers]
    rfl

end BatchSink

namespace Touchscreen
variable {σ τ τ' : Type}

/-- The plan of an update or a disable is one frame. -/
theorem exists_body_of_plan (d : Touchscreen σ) {r : Request} (lifts : r ≠ .enable) :
    ∃ body, d.plan r = body ++ [Event.report] ∧ ∀ e ∈ body, e.isReport = false := by
  cases r with
  | update contacts => exact ⟨_, d.plan_update contacts, fun e he => (d.isContent_of_content contacts e he).isReport⟩
  | disable => exact ⟨_, rfl, fun e he => (Report.isContent_of_releaseAll _ e he).isReport⟩
  | enable => exact absurd rfl lifts

theorem plan_core (d : Touchscreen σ) (r : Request) : d.core.plan r = d.plan r := by
  cases r <;> rfl

theorem settle_core (d : Touchscreen σ) (r : Request) : d.core.settle r = d.settle r := by
  cases r <;> rfl

/-! ## One request -/

variable [BatchTarget τ] [BatchTarget τ']

/-- Over a batch sink an update settles the device whether its frame is written or not. -/
theorem core_update (d : Touchscreen (BatchSink τ)) (contacts : List Contact) :
    (d.after (.update contacts)).core = d.settle (.update contacts) := by
  have hcontent := BatchSink.takeAll_unfinished d.sink fun e he => (d.isContent_of_content contacts e he).isReport
  exact core_update_of_content (by rw [hcontent])

/-- A request makes one write of all the events that it offers, which are one frame, and ends as this write does. -/
structure WritesFrame (d : Touchscreen (BatchSink (Recorded τ))) (r : Request) : Prop where
  frame : ∃ body, (serve r d).journal.offers = body ++ [Event.report] ∧ ∀ e ∈ body, e.isReport = false
  write : (d.after r).sink.target.writes =
    d.sink.target.writes ++ [((serve r d).journal.offers, (serve r d).result)]
  emptied : (d.after r).sink.batch = []

/-- What a request writes with an empty batch. -/
theorem written {d : Touchscreen (BatchSink (Recorded τ))} (empty : d.sink.batch = []) {r : Request}
    (lifts : r ≠ .enable) :
    (serve r d).journal.offers = d.plan r ∧ (d.after r).sink.batch = [] ∧
      (d.after r).sink.target.writes = d.sink.target.writes ++ [(d.plan r, (serve r d).result)] := by
  have h := offers_serve r d
  obtain ⟨body, hplan, hbody⟩ := d.exists_body_of_plan lifts
  obtain ⟨hoffers, hbatch, hwrites⟩ := BatchSink.takeAll_frame d.sink hbody
  have hresult : (serve r d).result = (Sink.takeAll d.sink (d.plan r)).result := by
    rw [← h.result]
    cases (serve r d).result <;> rfl
  rw [empty, List.nil_append] at hwrites
  rw [← hplan] at hoffers hbatch hwrites
  rw [after, h.sink, hresult, ← Journal.offers_output, h.entries]
  exact ⟨hoffers, hbatch, hwrites⟩

theorem writesFrame {d : Touchscreen (BatchSink (Recorded τ))} (empty : d.sink.batch = []) {r : Request}
    (lifts : r ≠ .enable) : d.WritesFrame r := by
  obtain ⟨hoffers, hbatch, hwrites⟩ := written empty lifts
  refine ⟨?_, ?_, hbatch⟩
  · rw [hoffers]
    exact d.exists_body_of_plan lifts
  · rw [hoffers]
    exact hwrites

theorem batch_after {d : Touchscreen (BatchSink (Recorded τ))} (empty : d.sink.batch = []) (r : Request) :
    (d.after r).sink.batch = [] := by
  cases r with
  | update contacts => exact (writesFrame empty (r := .update contacts) Request.noConfusion).emptied
  | disable => exact (writesFrame empty (r := .disable) Request.noConfusion).emptied
  | enable => exact empty

theorem batch_afterAll {d : Touchscreen (BatchSink (Recorded τ))} (empty : d.sink.batch = []) (rs : List Request) :
    (d.afterAll rs).sink.batch = [] := by
  induction rs generalizing d with
  | nil => exact empty
  | cons r rs ih => exact ih (batch_after empty r)

/-! ## Two runs -/

/-- Two devices with empty batches that differ in nothing but how their targets take the batches that both were handed. -/
structure Twins (d : Touchscreen (BatchSink (Recorded τ))) (d' : Touchscreen (BatchSink (Recorded τ'))) : Prop where
  core : d.core = d'.core
  empty : d.sink.batch = []
  empty' : d'.sink.batch = []
  batches : d.sink.target.batches = d'.sink.target.batches

omit [BatchTarget τ] [BatchTarget τ'] in
theorem twins_start (target : τ) (target' : τ') (config : Config) (p : Profile) :
    Twins (start ({ target := { target } } : BatchSink (Recorded τ)) config p)
      (start ({ target := { target := target' } } : BatchSink (Recorded τ')) config p) :=
  ⟨rfl, rfl, rfl, rfl⟩

/-- A request that settles both of two twins leaves them twins. -/
theorem Twins.of_settle {d : Touchscreen (BatchSink (Recorded τ))} {d' : Touchscreen (BatchSink (Recorded τ'))}
    (h : Twins d d') {r : Request} (lifts : r ≠ .enable) (settled : (d.after r).core = d.settle r)
    (settled' : (d'.after r).core = d'.settle r) : Twins (d.after r) (d'.after r) where
  core := by rw [settled, settled', ← settle_core d, ← settle_core d', h.core]
  empty := (written h.empty lifts).2.1
  empty' := (written h.empty' lifts).2.1
  batches := by
    have hplan : d.plan r = d'.plan r := by rw [← plan_core d, ← plan_core d', h.core]
    have hbatches := h.batches
    rw [Recorded.batches, Recorded.batches] at hbatches
    rw [Recorded.batches, (written h.empty lifts).2.2, Recorded.batches, (written h.empty' lifts).2.2, List.map_append,
      List.map_append, hbatches]
    simp [hplan]

/-- Twins stay twins, however their targets answer to an update. -/
theorem Twins.step {d : Touchscreen (BatchSink (Recorded τ))} {d' : Touchscreen (BatchSink (Recorded τ'))}
    (h : Twins d d') (r : Request)
    (disables : r = .disable → (serve .disable d).result = .ok () ∧ (serve .disable d').result = .ok ()) :
    Twins (d.after r) (d'.after r) := by
  cases r with
  | update contacts => exact h.of_settle Request.noConfusion (core_update d contacts) (core_update d' contacts)
  | disable =>
    obtain ⟨ok, ok'⟩ := disables rfl
    exact h.of_settle Request.noConfusion ((offers_serve .disable d).settled () ok)
      ((offers_serve .disable d').settled () ok')
  | enable => exact ⟨congrArg (fun c : Touchscreen Unit => { c with enabled := true }) h.core, h.empty, h.empty', h.batches⟩

/-- Requests whose disables are written over both devices keep them twins after every request. -/
theorem Twins.run {d : Touchscreen (BatchSink (Recorded τ))} {d' : Touchscreen (BatchSink (Recorded τ'))}
    (h : Twins d d') {rs : List Request}
    (disables : ∀ n, rs[n]? = some .disable → (serve .disable (d.afterAll (rs.take n))).result = .ok () ∧
      (serve .disable (d'.afterAll (rs.take n))).result = .ok ()) (n : Nat) :
    Twins (d.afterAll (rs.take n)) (d'.afterAll (rs.take n)) := by
  induction rs generalizing d d' n with
  | nil =>
    rw [List.take_nil]
    exact h
  | cons r rs ih =>
    cases n with
    | zero => exact h
    | succ n =>
      have hnext := h.step r fun hr => disables 0 (congrArg some hr)
      exact ih hnext (fun n hn => disables (n + 1) hn) n

/--
A device over a batch sink with an empty batch makes one write for each update and each disable, of just the events that this
request offers, ended by the one end of a frame among them. The request fails exactly if the write does, and leaves the batch
empty. Over any other target that takes the disables as well, the same run hands over the same batches and takes the device
through the same states.
-/
theorem frames_written_whole {d : Touchscreen (BatchSink (Recorded τ))} (empty : d.sink.batch = []) (rs : List Request) :
    (∀ r, r ≠ .enable → (d.afterAll rs).WritesFrame r) ∧
    ((d.afterAll rs).after .enable).sink = (d.afterAll rs).sink ∧ (d.afterAll rs).sink.batch = [] ∧
    ∀ d' : Touchscreen (BatchSink (Recorded τ')), Twins d d' →
      (∀ n, rs[n]? = some .disable → (serve .disable (d.afterAll (rs.take n))).result = .ok () ∧
        (serve .disable (d'.afterAll (rs.take n))).result = .ok ()) →
      ∀ n, Twins (d.afterAll (rs.take n)) (d'.afterAll (rs.take n)) := by
  have hempty := batch_afterAll empty rs
  exact ⟨fun r lifts => writesFrame hempty lifts, rfl, hempty, fun d' twins disables => twins.run disables⟩

/-- One device loses its first frame and the other the second. They hand over the same three batches, and then agree. -/
theorem frames_written_whole_past_refusals :
    let touch (i : Nat) : Contact := { index := some i }
    let device (answers : List (Except Errno Unit)) :=
      start ({ target := { target := { answers } } } : BatchSink (Recorded ListedTarget)) {} Profile.standard
    let d := device [.error Errno.noSpace]
    let d' := device [.ok (), .error Errno.noSpace]
    let rs := [.update [touch 0, touch 3], .update [touch 3], .disable]
    d.sink.batch = [] ∧ Twins d d' ∧
      (∀ n, rs[n]? = some .disable → (serve .disable (d.afterAll (rs.take n))).result = .ok () ∧
        (serve .disable (d'.afterAll (rs.take n))).result = .ok ()) ∧
      (d.afterAll rs).WritesFrame (.update [touch 3]) ∧
      (d.afterAll rs).sink.target.writes.map Prod.snd = [.error Errno.noSpace, .ok (), .ok ()] ∧
      (d'.afterAll rs).sink.target.writes.map Prod.snd = [.ok (), .error Errno.noSpace, .ok ()] ∧
      (d.afterAll rs).sink.target.batches = (d'.afterAll rs).sink.target.batches ∧
      (d.afterAll rs).core = (d'.afterAll rs).core := by
  intro touch device d d' rs
  have twins : Twins d d' := twins_start _ _ _ _
  have disables : ∀ n, rs[n]? = some .disable → (serve .disable (d.afterAll (rs.take n))).result = .ok () ∧
      (serve .disable (d'.afterAll (rs.take n))).result = .ok () := by
    intro n hn
    match n with
    | 0 => exact absurd hn (by simp [rs])
    | 1 => exact absurd hn (by simp [rs])
    | 2 => exact ⟨by decide +kernel, by decide +kernel⟩
    | n + 3 => exact absurd hn (by simp [rs])
  have hwhole : (∀ r, r ≠ .enable → (d.afterAll rs).WritesFrame r) ∧ _ ∧ _ ∧
      ∀ d' : Touchscreen (BatchSink (Recorded ListedTarget)), _ := frames_written_whole twins.empty rs
  have hframe := hwhole.1 (.update [touch 3]) Request.noConfusion
  have hrun := hwhole.2.2.2 d' twins disables rs.length
  rw [List.take_length] at hrun
  refine ⟨twins.empty, twins, disables, hframe, ?_, ?_, hrun.batches, hrun.core⟩ <;> decide +kernel

end Touchscreen
end Digitizer
