import Digitizer.Output.Receiver
import Digitizer.Touch.Screen

/-!
# Runs of a touchscreen

A run serves requests one after another, each whether or not the ones before it have failed.
-/
namespace Digitizer.Touchscreen
variable {σ ε : Type} [Sink σ]

/-- Serve requests in order. Gives the result of each. -/
def serveAll : List Request → Action (Touchscreen σ) ε (List (Except Errno Unit))
  | [] => pure []
  | r :: rs => do
    let result ← Action.attempt (serve r)
    let results ← serveAll rs
    pure (result :: results)

/-- The state of the device after a request. -/
def after (d : Touchscreen σ) (r : Request) : Touchscreen σ := (serve r d).state

/-- The events that reach the sink while a request is served. -/
def delivered (d : Touchscreen σ) (r : Request) : List Event := (serve r d).journal.events

@[simp] theorem serveAll_nil (d : Touchscreen σ) :
    (serveAll [] : Action (Touchscreen σ) ε _) d = ⟨.ok [], d, []⟩ := rfl

@[simp] theorem serveAll_cons (r : Request) (rs : List Request) (d : Touchscreen σ) :
    (serveAll (r :: rs) : Action (Touchscreen σ) ε _) d =
      let rest := (serveAll rs : Action (Touchscreen σ) ε _) (d.after r)
      ⟨rest.result.map ((serve r d).result :: ·), rest.state, (serve r d).journal ++ rest.journal⟩ := by
  rw [serveAll, Action.bind_apply]
  simp only [Action.attempt_apply, Action.bind_apply, after]
  cases h : (serveAll rs : Action (Touchscreen σ) ε _) (serve r d).state with
  | mk result state journal => cases result <;> simp [Except.map]

end Digitizer.Touchscreen
