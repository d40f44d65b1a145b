import Mathlib.Data.List.Basic

/-!
# Runs of a machine

A machine is a function `step : σ → α → σ` from a state and a label to the next
state; a label that is not enabled leaves the state as it is.  Properties of all
runs are proved from what one step preserves.

## Main definitions

* `exec step s as` — the state after the labels `as`, from `s`.
* `Along step ok s as` — `ok` holds of every label at the state it is taken in.

## Main results

* `exec_invariant`, `Along.invariant` — what every (permitted) step preserves,
  every (permitted) run preserves.
* `along_iff_kept`, `along_iff_reached` — the states of a run have a property exactly when each
  label keeps it.
* `along_iff_split` — a run is permitted when every label is at its place.
* `exists_step_of_not` — what holds at the end of a run and not at its start
  became true at some step.
-/

namespace Ansible

variable {σ α : Type*} (step : σ → α → σ)

/-- The state after the labels `as`, taken in order from `s`. -/
def exec (s : σ) (as : List α) : σ := as.foldl step s

/-- Every label of the run satisfies `ok` at the state in which it is taken. -/
def Along (ok : σ → α → Prop) : σ → List α → Prop
  | _, [] => True
  | s, a :: as => ok s a ∧ Along ok (step s a) as

@[simp] theorem exec_nil (s : σ) : exec step s [] = s := rfl

@[simp] theorem exec_cons (s : σ) (a : α) (as : List α) :
    exec step s (a :: as) = exec step (step s a) as := rfl

theorem exec_append (s : σ) (as bs : List α) :
    exec step s (as ++ bs) = exec step (exec step s as) bs := List.foldl_append

variable {step} {ok : σ → α → Prop}

@[simp] theorem along_nil (s : σ) : Along step ok s [] := trivial

@[simp] theorem along_cons {s : σ} {a : α} {as : List α} :
    Along step ok s (a :: as) ↔ ok s a ∧ Along step ok (step s a) as := Iff.rfl

theorem along_append {s : σ} {as bs : List α} :
    Along step ok s (as ++ bs) ↔ Along step ok s as ∧ Along step ok (exec step s as) bs := by
  induction as generalizing s with
  | nil => simp
  | cons a as ih => simp [ih, and_assoc]

theorem along_and {ok' : σ → α → Prop} {s : σ} {as : List α} :
    Along step (fun s a => ok s a ∧ ok' s a) s as ↔ Along step ok s as ∧ Along step ok' s as := by
  induction as generalizing s with
  | nil => simp
  | cons a as ih => simp only [along_cons, ih, and_and_and_comm]

theorem along_congr {ok' : σ → α → Prop} (h : ∀ s a, ok s a ↔ ok' s a) {s : σ} {as : List α} :
    Along step ok s as ↔ Along step ok' s as := by
  induction as generalizing s with
  | nil => exact Iff.rfl
  | cons a as ih => rw [along_cons, along_cons, h, ih]

instance [∀ s a, Decidable (ok s a)] : ∀ s as, Decidable (Along step ok s as)
  | _, [] => instDecidableTrue
  | s, a :: as =>
    have := instDecidableAlong (step s a) as
    inferInstanceAs (Decidable (ok s a ∧ Along step ok (step s a) as))

/-- **What every permitted step preserves, every permitted run preserves.** -/
theorem Along.invariant {I : σ → Prop} (hstep : ∀ s a, I s → ok s a → I (step s a)) {s : σ}
    {as : List α} (h : Along step ok s as) (hs : I s) : I (exec step s as) := by
  induction as generalizing s with
  | nil => exact hs
  | cons a as ih => exact ih h.2 (hstep s a hs h.1)

/-- What every step preserves, every run preserves. -/
theorem exec_invariant {I : σ → Prop} (hstep : ∀ s a, I s → I (step s a)) {s : σ} (hs : I s)
    (as : List α) : I (exec step s as) := by
  induction as generalizing s with
  | nil => exact hs
  | cons a as ih => exact ih (hstep s a hs)

/-- Two conditions that agree in the states with an invariant, which the permitted labels keep,
permit the same runs. -/
theorem along_congr_of_invariant {I : σ → Prop} {ok' : σ → α → Prop}
    (hI : ∀ s a, I s → ok s a → I (step s a)) (h : ∀ s a, I s → (ok s a ↔ ok' s a))
      {s : σ} (hs : I s)
    {as : List α} : Along step ok s as ↔ Along step ok' s as := by
  induction as generalizing s with
  | nil => exact Iff.rfl
  | cons a as ih =>
    rw [along_cons, along_cons, ← h s a hs]
    exact and_congr_right fun hok => ih (hI s a hs hok)

/-- The states of a run have a property exactly when each label is permitted, where a permitted
label is one that keeps the property. -/
theorem along_iff_kept {I P : σ → Prop} (hI : ∀ s a, I s → I (step s a))
    (hP : ∀ s a, I s → P s → (P (step s a) ↔ ok s a)) {s : σ} (hs : I s) (hPs : P s)
    {as : List α} :
    Along step ok s as ↔ ∀ bs cs, as = bs ++ cs → P (exec step s bs) := by
  induction as generalizing s with
  | nil =>
    constructor
    · intro _ bs cs hsplit
      rw [(List.append_eq_nil_iff.1 hsplit.symm).1]
      exact hPs
    · intro _
      trivial
  | cons a as ih =>
    rw [along_cons]
    constructor
    · rintro ⟨hok, halong⟩ bs cs hsplit
      have hnext : P (step s a) := (hP s a hs hPs).2 hok
      cases bs with
      | nil => exact hPs
      | cons b bs =>
        obtain ⟨rfl, hrest⟩ := List.cons.inj hsplit
        exact (ih (hI s a hs) hnext).1 halong bs cs hrest
    · intro hall
      have hnext : P (step s a) := hall [a] as rfl
      refine ⟨(hP s a hs hPs).1 hnext, (ih (hI s a hs) hnext).2 fun bs cs hsplit => ?_⟩
      exact hall (a :: bs) cs (congrArg (a :: ·) hsplit)

/-- The same, where a state without the property has no way back to it. -/
theorem along_iff_reached {I P : σ → Prop} (hI : ∀ s a, I s → I (step s a))
    (hP : ∀ s a, I s → (P (step s a) ↔ P s ∧ ok s a)) {s : σ} (hs : I s) (hPs : P s)
    {as : List α} :
    Along step ok s as ↔ ∀ bs cs, as = bs ++ cs → P (exec step s bs) :=
  along_iff_kept hI (fun s a hs hPs => (hP s a hs).trans (and_iff_right hPs)) hs hPs

/-- A run is permitted when every label is, after those before it. -/
theorem along_iff_split {s : σ} {as : List α} :
    Along step ok s as ↔ ∀ bs a cs, as = bs ++ a :: cs → ok (exec step s bs) a := by
  constructor
  · rintro h bs a cs rfl
    exact (along_append.1 h).2.1
  · intro h
    induction as generalizing s with
    | nil => trivial
    | cons a as ih =>
      refine ⟨h [] a as rfl, ih fun bs b cs hsplit => ?_⟩
      exact h (a :: bs) b cs (congrArg (a :: ·) hsplit)

/-- What holds at the end of a run and not at its start became true at some step. -/
theorem exists_step_of_not {P : σ → Prop} {s : σ} {as : List α} (hs : ¬ P s)
    (h : P (exec step s as)) : ∃ pre a post, as = pre ++ a :: post ∧ ¬ P (exec step s pre) ∧
      P (step (exec step s pre) a) := by
  induction as generalizing s with
  | nil => exact absurd h hs
  | cons a as ih =>
    by_cases ha : P (step s a)
    · exact ⟨[], a, as, rfl, hs, ha⟩
    · obtain ⟨pre, b, post, rfl, hpre, hb⟩ := ih ha h
      exact ⟨a :: pre, b, post, rfl, hpre, hb⟩

end Ansible
