import Digitizer.Journal

/-!
# Actions

An action works on a state, may fail, and keeps a journal. A failure keeps the state and the journal as they were at the
point of failure: what has been done stays done. The lemmas say what each way of building actions does to the outcome.
-/
namespace Digitizer

/-- How an action ended. -/
structure Outcome (σ ε α : Type) where
  result : Except ε α
  state : σ
  journal : Journal

/-- A computation on a state `σ` that may fail with an `ε` and keeps a journal. -/
def Action (σ ε α : Type) : Type := σ → Outcome σ ε α

namespace Action
variable {σ τ ε δ α β γ : Type}

/-- Give a value and do nothing. -/
protected def pure (a : α) : Action σ ε α := fun s => ⟨.ok a, s, []⟩

/-- Run one action after another, unless the first fails. -/
protected def bind (p : Action σ ε α) (f : α → Action σ ε β) : Action σ ε β := fun s =>
  match p s with
  | ⟨.ok a, t, j⟩ => let o := f a t; ⟨o.result, o.state, j ++ o.journal⟩
  | ⟨.error e, t, j⟩ => ⟨.error e, t, j⟩

instance : Monad (Action σ ε) where
  pure := Action.pure
  bind := Action.bind

/-- The state. -/
def get : Action σ ε σ := fun s => ⟨.ok s, s, []⟩

/-- Change the state. -/
def modify (f : σ → σ) : Action σ ε Unit := fun s => ⟨.ok (), f s, []⟩

/-- Fail. -/
def fail (e : ε) : Action σ ε α := fun s => ⟨.error e, s, []⟩

/-- Give the value or the failure at hand. -/
def ofExcept (r : Except ε α) : Action σ ε α := fun s => ⟨r, s, []⟩

/-- Tell the log. -/
def notify (n : Notice) : Action σ ε Unit := fun s => ⟨.ok (), s, [.notice n]⟩

/-- Run an action and give its failure as a value. -/
def attempt (p : Action σ ε α) : Action σ δ (Except ε α) := fun s =>
  let o := p s
  ⟨.ok o.result, o.state, o.journal⟩

/-- Restate the failures of an action. -/
def mapError (f : ε → δ) (p : Action σ ε α) : Action σ δ α := fun s =>
  let o := p s
  ⟨o.result.mapError f, o.state, o.journal⟩

/-- Run an action on a part of the state: `part` takes it out, and `put` puts it back. -/
def within (part : σ → τ) (put : σ → τ → σ) (p : Action τ ε α) : Action σ ε α := fun s =>
  let o := p (part s)
  ⟨o.result, put s o.state, o.journal⟩

/-- Run an action for each element of a list, in order, until one fails. -/
def each (f : β → Action σ ε Unit) : List β → Action σ ε Unit
  | [] => pure ()
  | b :: bs => do f b; each f bs

@[simp] theorem pure_apply (a : α) (s : σ) : (pure a : Action σ ε α) s = ⟨.ok a, s, []⟩ := rfl

theorem bind_apply (p : Action σ ε α) (f : α → Action σ ε β) (s : σ) :
    (p >>= f) s =
      match p s with
      | ⟨.ok a, t, j⟩ => ⟨(f a t).result, (f a t).state, j ++ (f a t).journal⟩
      | ⟨.error e, t, j⟩ => ⟨.error e, t, j⟩ := rfl

private theorem bind_assoc_apply (p : Action σ ε α) (f : α → Action σ ε β) (g : β → Action σ ε γ) (s : σ) :
    (p >>= f >>= g) s = (p >>= fun a => f a >>= g) s := by
  simp only [bind_apply]
  match p s with
  | ⟨.error e, t, j⟩ => rfl
  | ⟨.ok a, t, j⟩ =>
    match h : f a t with
    | ⟨.error e, u, k⟩ => simp [h]
    | ⟨.ok b, u, k⟩ => simp [h]

private theorem bind_pure_apply (p : Action σ ε α) (s : σ) : (p >>= fun a => pure a) s = p s := by
  rw [bind_apply]
  match p s with
  | ⟨.ok a, t, j⟩ => simp
  | ⟨.error e, t, j⟩ => rfl

instance : LawfulMonad (Action σ ε) := LawfulMonad.mk' _
  (fun p => funext (bind_pure_apply p))
  (fun a f => funext fun s => by simp [bind_apply])
  (fun p f g => funext (bind_assoc_apply p f g))

theorem bind_of_ok {p : Action σ ε α} {s t : σ} {a : α} {j : Journal} (h : p s = ⟨.ok a, t, j⟩)
    (f : α → Action σ ε β) :
    (p >>= f) s = ⟨(f a t).result, (f a t).state, j ++ (f a t).journal⟩ := by
  rw [bind_apply, h]

theorem bind_of_error {p : Action σ ε α} {s t : σ} {e : ε} {j : Journal} (h : p s = ⟨.error e, t, j⟩)
    (f : α → Action σ ε β) : (p >>= f) s = ⟨.error e, t, j⟩ := by
  rw [bind_apply, h]

@[simp] theorem get_apply (s : σ) : (get : Action σ ε σ) s = ⟨.ok s, s, []⟩ := rfl
@[simp] theorem modify_apply (f : σ → σ) (s : σ) : (modify f : Action σ ε Unit) s = ⟨.ok (), f s, []⟩ := rfl
@[simp] theorem fail_apply (e : ε) (s : σ) : (fail e : Action σ ε α) s = ⟨.error e, s, []⟩ := rfl
@[simp] theorem ofExcept_apply (r : Except ε α) (s : σ) : (ofExcept r : Action σ ε α) s = ⟨r, s, []⟩ := rfl
@[simp] theorem notify_apply (n : Notice) (s : σ) :
    (notify n : Action σ ε Unit) s = ⟨.ok (), s, [.notice n]⟩ := rfl
@[simp] theorem attempt_apply (p : Action σ ε α) (s : σ) :
    (attempt p : Action σ δ (Except ε α)) s = ⟨.ok (p s).result, (p s).state, (p s).journal⟩ := rfl
@[simp] theorem mapError_apply (f : ε → δ) (p : Action σ ε α) (s : σ) :
    mapError f p s = ⟨(p s).result.mapError f, (p s).state, (p s).journal⟩ := rfl
@[simp] theorem within_apply (part : σ → τ) (put : σ → τ → σ) (p : Action τ ε α) (s : σ) :
    within part put p s = ⟨(p (part s)).result, put s (p (part s)).state, (p (part s)).journal⟩ := rfl
@[simp] theorem each_nil (f : β → Action σ ε Unit) : each f [] = pure () := rfl
@[simp] theorem each_cons (f : β → Action σ ε Unit) (b : β) (bs : List β) :
    each f (b :: bs) = f b >>= fun _ => each f bs := rfl

end Action

end Digitizer
