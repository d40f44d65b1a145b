import Mathlib.Logic.Function.Basic

/-!
# Secondary indexes over live cells

A store keeps its records in cells and finds them through indexes, each a map
from a key to the cell of the record with that key.  Which cells are live, and
with which record, is a relation; an index agrees with it when the keys it maps
are exactly those of the live records.

## Main definitions

* `Indexes live key index` — `index` maps the keys of the live records to their cells.
* `enter`, `drop` — what an index does when a record is stored and when it is removed.

## Main results

* `Indexes.unique` — two live records with one key are in one cell.
* `Indexes.insert`, `Indexes.remove` — an index that is entered, or dropped from,
  agrees with the live cells after the write.
-/

namespace Ansible

variable {α ρ κ : Type*}

/-- The index maps a key to a cell exactly when the cell holds a live record with that key. -/
def Indexes (live : α → ρ → Prop) (key : ρ → Option κ) (index : κ → Option α) : Prop :=
  ∀ h p, index h = some p ↔ ∃ r, live p r ∧ key r = some h

/-- Map the key, when there is one, to the cell `p`. -/
def enter [DecidableEq κ] (index : κ → Option α) (k : Option κ) (p : α) : κ → Option α :=
  match k with
  | none => index
  | some h => Function.update index h (some p)

/-- Forget the key, when it is mapped to the cell `p`. -/
def drop [DecidableEq α] [DecidableEq κ] (index : κ → Option α) (k : Option κ) (p : α) :
    κ → Option α :=
  match k with
  | none => index
  | some h => if index h = some p then Function.update index h none else index

theorem enter_eq_some [DecidableEq κ] {index : κ → Option α} {k : Option κ} {p q : α} {h : κ} :
    enter index k p h = some q ↔ k = some h ∧ q = p ∨ k ≠ some h ∧ index h = some q := by
  cases k with
  | none => simp [enter]
  | some k =>
    by_cases hk : k = h
    · subst hk
      simp [enter, eq_comm]
    · have hne : h ≠ k := fun he => hk he.symm
      simp [enter, Function.update_of_ne hne, hk]

theorem drop_eq_some [DecidableEq α] [DecidableEq κ] {index : κ → Option α} {k : Option κ}
    {p q : α} {h : κ} :
    drop index k p h = some q ↔ index h = some q ∧ (k = some h → q ≠ p) := by
  cases k with
  | none => simp [drop]
  | some k =>
    by_cases hp : index k = some p
    · by_cases hk : k = h
      · subst hk
        simp [drop, hp, eq_comm]
      · have hne : h ≠ k := fun he => hk he.symm
        simp [drop, hp, Function.update_of_ne hne, hk]
    · simp only [drop, if_neg hp, Option.some.injEq]
      constructor
      · intro hq
        refine ⟨hq, ?_⟩
        rintro rfl rfl
        exact hp hq
      · exact And.left

variable {live live' : α → ρ → Prop} {key : ρ → Option κ} {index : κ → Option α}

theorem indexes_empty (hlive : ∀ p r, ¬ live p r) : Indexes live key (fun _ => none) := by
  intro h p
  simp [hlive]

/-- **Two live records with one key are in one cell.** -/
theorem Indexes.unique (hix : Indexes live key index) {p q : α} {r r' : ρ} {h : κ}
    (hr : live p r) (hr' : live q r') (hk : key r = some h) (hk' : key r' = some h) : p = q := by
  have hp := (hix h p).2 ⟨r, hr, hk⟩
  have hq := (hix h q).2 ⟨r', hr', hk'⟩
  rw [hp] at hq
  exact Option.some.inj hq

/-- **Storing a record whose key no live record has.** -/
theorem Indexes.insert [DecidableEq κ] (hix : Indexes live key index) {p : α} {r : ρ}
    (hlive : ∀ q r', live' q r' ↔ live q r' ∨ (q = p ∧ r' = r))
    (hfree : ∀ h, key r = some h → ∀ q r', live q r' → key r' ≠ some h) :
    Indexes live' key (enter index (key r) p) := by
  intro h q
  rw [enter_eq_some]
  constructor
  · rintro (⟨hk, rfl⟩ | ⟨-, hq⟩)
    · exact ⟨r, (hlive q r).2 (.inr ⟨rfl, rfl⟩), hk⟩
    · obtain ⟨r', hr', hk'⟩ := (hix h q).1 hq
      exact ⟨r', (hlive q r').2 (.inl hr'), hk'⟩
  · rintro ⟨r', hr', hk'⟩
    rcases (hlive q r').1 hr' with hr' | ⟨rfl, rfl⟩
    · exact .inr ⟨fun hk => hfree h hk q r' hr' hk', (hix h q).2 ⟨r', hr', hk'⟩⟩
    · exact .inl ⟨hk', rfl⟩

/-- **Removing the record of a cell.**  It may be looked for under a key it is not
indexed by: the index is then left as it is. -/
theorem Indexes.remove [DecidableEq α] [DecidableEq κ] (hix : Indexes live key index) {p : α}
    {r : ρ} {k : Option κ} (hlive : ∀ q r', live' q r' ↔ live q r' ∧ q ≠ p)
    (hp : ∀ r', live p r' → r' = r) (hk : ∀ h, key r = some h → k = some h) :
    Indexes live' key (drop index k p) := by
  intro h q
  rw [drop_eq_some, hix h q]
  constructor
  · rintro ⟨⟨r', hr', hk'⟩, hne⟩
    refine ⟨r', (hlive q r').2 ⟨hr', ?_⟩, hk'⟩
    -- an entry that points at `p` is the one under the key of the removed record
    rintro rfl
    rw [hp r' hr'] at hk'
    exact hne (hk h hk') rfl
  · rintro ⟨r', hr', hk'⟩
    obtain ⟨hr', hq⟩ := (hlive q r').1 hr'
    exact ⟨⟨r', hr', hk'⟩, fun _ => hq⟩

end Ansible
