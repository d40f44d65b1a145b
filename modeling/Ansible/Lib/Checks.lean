/-!
# Chains of checks

A chain of checks ends with the first one that fails.  What passes has passed each.  A check
may also write the state, whether it passes or fails.

## Main definitions

* `ensure b e` — go on when `b` holds, else fail with `e`.
* `Checked σ ε α` — a check that reads and writes a state.
* `Checked.Keeps R x` — the states before and after `x` are related by `R`.

## Main results

* `bind_eq_ok`, `bind_eq_error` — when a chain of two passes and when it fails.
* `Checked.bind_eq_ok` — the same with a state.
* `Checked.Keeps.bind` — what both checks keep, their chain keeps.
-/

namespace Ansible

variable {ε α β : Type}

/-- Go on when `b` holds, else fail with `e`. -/
def ensure (b : Bool) (e : ε) : Except ε Unit := if b then .ok () else .error e

theorem ensure_eq_ok {b : Bool} {e : ε} {u : Unit} : ensure b e = .ok u ↔ b = true := by
  cases b <;> simp [ensure]

theorem ensure_eq_error {b : Bool} {e e' : ε} : ensure b e = .error e' ↔ b = false ∧ e = e' := by
  cases b <;> simp [ensure]

/-- A chain of two passes when both pass. -/
theorem bind_eq_ok {x : Except ε α} {f : α → Except ε β} {b : β} :
    (x >>= f) = .ok b ↔ ∃ a, x = .ok a ∧ f a = .ok b := by
  cases x with
  | error e =>
    constructor
    · intro h
      cases h
    · rintro ⟨_, h, _⟩
      cases h
  | ok a =>
    constructor
    · intro h
      exact ⟨a, rfl, h⟩
    · rintro ⟨_, ha, h⟩
      cases ha
      exact h

/-- A chain of two fails when the first does, or the second after it. -/
theorem bind_eq_error {x : Except ε α} {f : α → Except ε β} {e : ε} :
    (x >>= f) = .error e ↔ x = .error e ∨ ∃ a, x = .ok a ∧ f a = .error e := by
  cases x with
  | error e' =>
    constructor
    · intro h
      cases h
      exact .inl rfl
    · rintro (h | ⟨_, h, _⟩)
      · cases h
        rfl
      · cases h
  | ok a =>
    constructor
    · intro h
      exact .inr ⟨a, rfl, h⟩
    · rintro (h | ⟨_, ha, h⟩)
      · cases h
      · cases ha
        exact h

theorem ok_of_toOption {x : Except ε α} {a : α} (h : x.toOption = some a) : x = .ok a := by
  cases x with
  | error e => cases h
  | ok b => rw [Option.some.inj h]

/-! ### Checks with a state -/

/-- A check that reads and writes a state, and keeps what it wrote when it fails. -/
def Checked (σ ε α : Type) : Type := σ → Except ε α × σ

namespace Checked

variable {σ : Type}

/-- The second check runs in the state that the first one leaves. -/
def andThen (x : Checked σ ε α) (f : α → Checked σ ε β) : Checked σ ε β := fun s =>
  match x s with
  | (.ok a, t) => f a t
  | (.error e, t) => (.error e, t)

instance : Monad (Checked σ ε) where
  pure a := fun s => (.ok a, s)
  bind := andThen

/-- A check that does not look at the state. -/
def lift (x : Except ε α) : Checked σ ε α := fun s => (x, s)

/-- A check of what the state holds. -/
def look (f : σ → Except ε α) : Checked σ ε α := fun s => (f s, s)

@[simp] theorem pure_apply (a : α) (s : σ) : (pure a : Checked σ ε α) s = (.ok a, s) := rfl

@[simp] theorem lift_apply (x : Except ε α) (s : σ) : lift x s = (x, s) := rfl

@[simp] theorem look_apply (f : σ → Except ε α) (s : σ) : look f s = (f s, s) := rfl

theorem bind_apply {x : Checked σ ε α} {f : α → Checked σ ε β} {s : σ} :
    (x >>= f) s = match x s with
      | (.ok a, t) => f a t
      | (.error e, t) => (.error e, t) := by
  rfl

/-- A chain of two passes when both pass, one after the other. -/
theorem bind_eq_ok {x : Checked σ ε α} {f : α → Checked σ ε β} {s u : σ} {b : β} :
    (x >>= f) s = (.ok b, u) ↔ ∃ a t, x s = (.ok a, t) ∧ f a t = (.ok b, u) := by
  rw [bind_apply]
  cases hx : x s with
  | mk r t =>
    cases r with
    | error e =>
      constructor
      · intro h
        cases h
      · rintro ⟨_, _, h, _⟩
        cases h
    | ok a =>
      constructor
      · intro h
        exact ⟨a, t, rfl, h⟩
      · rintro ⟨_, _, ha, h⟩
        cases ha
        exact h

theorem lift_eq_ok {x : Except ε α} {s t : σ} {a : α} :
    lift x s = (.ok a, t) ↔ x = .ok a ∧ t = s := by
  rw [lift_apply, Prod.mk.injEq, eq_comm (a := s)]

theorem look_eq_ok {f : σ → Except ε α} {s t : σ} {a : α} :
    look f s = (.ok a, t) ↔ f s = .ok a ∧ t = s := by
  rw [look_apply, Prod.mk.injEq, eq_comm (a := s)]

/-- The states before and after the check are related. -/
def Keeps (R : σ → σ → Prop) (x : Checked σ ε α) : Prop := ∀ s, R s (x s).2

theorem Keeps.lift {R : σ → σ → Prop} (hrefl : ∀ s, R s s) (x : Except ε α) :
    Keeps R (Checked.lift x) := fun s => hrefl s

theorem Keeps.look {R : σ → σ → Prop} (hrefl : ∀ s, R s s) (f : σ → Except ε α) :
    Keeps R (Checked.look f) := fun s => hrefl s

/-- What both checks keep, their chain keeps. -/
theorem Keeps.bind {R : σ → σ → Prop} (htrans : ∀ s t u, R s t → R t u → R s u)
    {x : Checked σ ε α} {f : α → Checked σ ε β} (hx : Keeps R x) (hf : ∀ a, Keeps R (f a)) :
    Keeps R (x >>= f) := by
  intro s
  have hs := hx s
  rw [bind_apply]
  generalize x s = r at hs
  obtain ⟨_ | a, t⟩ := r
  · exact hs
  · exact htrans _ _ _ hs (hf a t)

end Checked

end Ansible
