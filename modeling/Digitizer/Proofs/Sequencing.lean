import Digitizer.Action

/-!
# Sequences of actions

How the outcome of a sequence comes from the outcomes of its parts, and which part of the state a sequence keeps. Proofs
about longer actions cite these lemmas and do not open `bind`.
-/
namespace Digitizer.Action
variable {σ τ ε δ α β γ : Type}

@[simp] theorem get_bind (f : σ → Action σ ε β) (s : σ) : (get >>= f) s = f s s := rfl
@[simp] theorem modify_bind (g : σ → σ) (f : Unit → Action σ ε β) (s : σ) : (modify g >>= f) s = f () (g s) := rfl

theorem notify_bind (n : Notice) (f : Unit → Action σ ε β) (s : σ) :
    (notify n >>= f) s = ⟨(f () s).result, (f () s).state, .notice n :: (f () s).journal⟩ := rfl

/-- What is told to the log in turn is written to the journal in turn. -/
theorem each_notify (f : β → Notice) (bs : List β) (s : σ) :
    (each (fun b => notify (f b)) bs : Action σ ε Unit) s = ⟨.ok (), s, (bs.map f).map Entry.notice⟩ := by
  induction bs with
  | nil => rfl
  | cons b bs ih => rw [each_cons, notify_bind, ih]; rfl

theorem bind_of_result_ok {p : Action σ ε α} {s : σ} {a : α} (h : (p s).result = .ok a) (f : α → Action σ ε β) :
    (p >>= f) s =
      ⟨(f a (p s).state).result, (f a (p s).state).state, (p s).journal ++ (f a (p s).state).journal⟩ :=
  bind_of_ok (by rw [← h]) f

theorem bind_of_result_error {p : Action σ ε α} {s : σ} {e : ε} (h : (p s).result = .error e) (f : α → Action σ ε β) :
    (p >>= f) s = ⟨.error e, (p s).state, (p s).journal⟩ :=
  bind_of_error (by rw [← h]) f

theorem bind_congr_left {p q : Action σ ε α} {s : σ} (h : p s = q s) (f : α → Action σ ε β) :
    (p >>= f) s = (q >>= f) s := by rw [bind_apply, bind_apply, h]

/-- The rest of a sequence matters only where the first part leads. -/
theorem bind_congr_right {p : Action σ ε α} {f g : α → Action σ ε β} {s : σ}
    (h : ∀ a, (p s).result = .ok a → f a (p s).state = g a (p s).state) : (p >>= f) s = (p >>= g) s := by
  cases hp : (p s).result with
  | ok a => rw [bind_of_result_ok hp, bind_of_result_ok hp, h a hp]
  | error e => rw [bind_of_result_error hp, bind_of_result_error hp]

/-- The journal of a sequence begins with that of its first part. -/
theorem journal_prefix_bind (p : Action σ ε α) (f : α → Action σ ε β) (s : σ) : (p s).journal <+: ((p >>= f) s).journal := by
  cases h : (p s).result with
  | ok a =>
    rw [bind_of_result_ok h]
    exact List.prefix_append _ _
  | error e =>
    have hjournal : ((p >>= f) s).journal = (p s).journal := congrArg Outcome.journal (bind_of_result_error h f)
    exact hjournal ▸ List.prefix_rfl

/-- An action whose value goes through a function. -/
theorem bind_pure_of (p : Action σ ε α) (f : α → β) (s : σ) :
    (p >>= fun a => pure (f a)) s = ⟨(p s).result.map f, (p s).state, (p s).journal⟩ := by
  cases h : (p s).result with
  | ok a => rw [bind_of_result_ok h, pure_apply, List.append_nil]; rfl
  | error e => rw [bind_of_result_error h]; rfl

/-- An action whose value is replaced. -/
theorem bind_const (p : Action σ ε α) (b : β) (s : σ) :
    (p >>= fun _ => pure b) s = ⟨(p s).result.map fun _ => b, (p s).state, (p s).journal⟩ :=
  bind_pure_of p (fun _ => b) s

theorem of_bind_const_ok {p : Action σ ε α} {b c : β} {s : σ} (h : ((p >>= fun _ => pure b) s).result = .ok c) :
    b = c ∧ ∃ a, (p s).result = .ok a := by
  cases hp : (p s).result with
  | ok a =>
    rw [bind_of_result_ok hp] at h
    exact ⟨Except.ok.inj h, a, rfl⟩
  | error e =>
    rw [bind_of_result_error hp] at h
    exact absurd h (by simp)

/-- A sequence succeeds only if both parts do. -/
theorem of_bind_ok {p : Action σ ε α} {f : α → Action σ ε β} {s : σ} {b : β} (h : ((p >>= f) s).result = .ok b) :
    ∃ a, (p s).result = .ok a ∧ (f a (p s).state).result = .ok b ∧ ((p >>= f) s).state = (f a (p s).state).state := by
  cases hp : (p s).result with
  | ok a =>
    rw [bind_of_result_ok hp] at h ⊢
    exact ⟨a, rfl, h, rfl⟩
  | error e =>
    rw [bind_of_result_error hp] at h
    exact absurd h (by simp)

theorem each_congr {f g : β → Action σ ε Unit} {bs : List β} (h : ∀ b ∈ bs, f b = g b) : each f bs = each g bs := by
  induction bs with
  | nil => rfl
  | cons b bs ih => rw [each_cons, each_cons, h b List.mem_cons_self, ih fun c hc => h c (List.mem_cons_of_mem b hc)]

theorem ok_of_isOk {r : Except ε Unit} (h : r.isOk = true) : r = .ok () := by
  cases r with
  | ok a => rfl
  | error e => exact absurd h Bool.false_ne_true

/-! ## What an action keeps -/

/-- Whether it fails or not, an action keeps a view of the state. -/
def Keeps (view : σ → γ) (p : Action σ ε α) : Prop := ∀ s, view (p s).state = view s

variable {view : σ → γ}

theorem keeps_pure (a : α) : Keeps view (pure a : Action σ ε α) := fun _ => rfl
theorem keeps_get : Keeps view (get : Action σ ε σ) := fun _ => rfl
theorem keeps_notify (n : Notice) : Keeps view (notify n : Action σ ε Unit) := fun _ => rfl

/-- What the rest of a sequence keeps is as the first part left it. -/
theorem view_bind {p : Action σ ε α} {f : α → Action σ ε β} (hf : ∀ a, Keeps view (f a)) (s : σ) :
    view ((p >>= f) s).state = view (p s).state := by
  cases h : (p s).result with
  | ok a => rw [bind_of_result_ok h, hf a]
  | error e => rw [bind_of_result_error h]

theorem keeps_bind {p : Action σ ε α} {f : α → Action σ ε β} (hp : Keeps view p) (hf : ∀ a, Keeps view (f a)) :
    Keeps view (p >>= f) := fun s => (view_bind hf s).trans (hp s)

theorem keeps_each {f : β → Action σ ε Unit} (hf : ∀ b, Keeps view (f b)) (bs : List β) : Keeps view (each f bs) := by
  induction bs with
  | nil => exact keeps_pure ()
  | cons b bs ih => exact keeps_bind (hf b) fun _ => ih

/-! ## What an action writes to its journal -/

/-- Whether it fails or not, an action writes only entries of one kind. -/
def Logs (kind : Entry → Prop) (p : Action σ ε α) : Prop := ∀ s, ∀ e ∈ (p s).journal, kind e

variable {kind : Entry → Prop}

theorem logs_pure (a : α) : Logs kind (pure a : Action σ ε α) := fun _ _ he => absurd he List.not_mem_nil
theorem logs_get : Logs kind (get : Action σ ε σ) := fun _ _ he => absurd he List.not_mem_nil
theorem logs_modify (f : σ → σ) : Logs kind (modify f : Action σ ε Unit) := fun _ _ he => absurd he List.not_mem_nil

theorem logs_notify {n : Notice} (h : kind (.notice n)) : Logs kind (notify n : Action σ ε Unit) := by
  intro s e he
  rw [notify_apply, List.mem_singleton] at he
  rw [he]
  exact h

theorem logs_bind {p : Action σ ε α} {f : α → Action σ ε β} (hp : Logs kind p) (hf : ∀ a, Logs kind (f a)) :
    Logs kind (p >>= f) := by
  intro s e he
  cases h : (p s).result with
  | ok a =>
    rw [bind_of_result_ok h, List.mem_append] at he
    rcases he with he | he
    · exact hp s e he
    · exact hf a _ e he
  | error cause =>
    rw [bind_of_result_error h] at he
    exact hp s e he

theorem logs_each {f : β → Action σ ε Unit} (hf : ∀ b, Logs kind (f b)) (bs : List β) : Logs kind (each f bs) := by
  induction bs with
  | nil => exact logs_pure ()
  | cons b bs ih => exact logs_bind (hf b) fun _ => ih

/-! ## Actions that cannot fail -/

/-- An action succeeds in every state. -/
def Total (p : Action σ ε α) : Prop := ∀ s, ∃ a, (p s).result = .ok a

theorem total_pure (a : α) : Total (pure a : Action σ ε α) := fun _ => ⟨a, rfl⟩
theorem total_get : Total (get : Action σ ε σ) := fun s => ⟨s, rfl⟩
theorem total_modify (f : σ → σ) : Total (modify f : Action σ ε Unit) := fun _ => ⟨(), rfl⟩
theorem total_notify (n : Notice) : Total (notify n : Action σ ε Unit) := fun _ => ⟨(), rfl⟩
theorem total_attempt (p : Action σ ε α) : Total (attempt p : Action σ δ (Except ε α)) := fun s => ⟨(p s).result, rfl⟩

theorem total_bind {p : Action σ ε α} {f : α → Action σ ε β} (hp : Total p) (hf : ∀ a, Total (f a)) :
    Total (p >>= f) := by
  intro s
  obtain ⟨a, ha⟩ := hp s
  rw [bind_of_result_ok ha]
  exact hf a _

end Digitizer.Action
