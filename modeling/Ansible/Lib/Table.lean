import Mathlib.Data.List.Nodup

/-!
# Relations with constraints

A table is a list of rows that satisfies the constraints declared for it, unique
indexes among them.  A write is carried out as a whole or, when its result would
break a constraint, refused.

## Main definitions

* `Table α C` — rows of type `α` that satisfy `C`.
* `UniqueOn k p` — a unique index on `k`, partial to the rows with `p`.
* `Table.insert`, `Table.update`, `Table.upsert` — the writes.

## Main results

* `UniqueOn.eq` — two indexed rows with one key are one row.
* `UniqueOn.map`, `UniqueOn.map_insert` — updates that keep an index.
* `uniqueOn_append` — when an index takes in a row.
* `filter_map_of_outside` — what an update leaves as it is.
* `Table.find_eq_some_iff` — a lookup by a unique key finds the row with that key.
* `nodup_insertOrReplace` — such a write keeps a key unique.
-/

namespace Ansible

variable {α κ : Type*}

/-! ### Unique indexes -/

/-- A unique index on `k` over the rows that satisfy `p`. -/
def UniqueOn (k : α → κ) (p : α → Bool) (rows : List α) : Prop := ((rows.filter p).map k).Nodup

instance [DecidableEq κ] (k : α → κ) (p : α → Bool) (rows : List α) :
    Decidable (UniqueOn k p rows) := inferInstanceAs (Decidable (List.Nodup _))

/-- Two indexed rows with one key are one row. -/
theorem UniqueOn.eq {k : α → κ} {p : α → Bool} {rows : List α} (h : UniqueOn k p rows) {r r' : α}
    (hr : r ∈ rows) (hr' : r' ∈ rows) (hp : p r = true) (hp' : p r' = true) (hk : k r = k r') :
    r = r' :=
  List.inj_on_of_nodup_map h (List.mem_filter.2 ⟨hr, hp⟩) (List.mem_filter.2 ⟨hr', hp'⟩) hk

theorem UniqueOn.nodup {k : α → κ} {rows : List α} (h : UniqueOn k (fun _ => true) rows) :
    rows.Nodup := by
  rw [UniqueOn, List.filter_true] at h
  exact h.of_map

/-- An index is kept by an update that keeps the keys and indexes no further row. -/
theorem UniqueOn.map {k : α → κ} {p : α → Bool} {rows : List α} (h : UniqueOn k p rows)
    {f : α → α} (hk : ∀ x, k (f x) = k x) (hp : ∀ x, p (f x) = true → p x = true) :
    UniqueOn k p (rows.map f) := by
  have hsub : (rows.filter (p ∘ f)).Sublist (rows.filter p) :=
    List.monotone_filter_right rows hp
  rw [UniqueOn, List.filter_map, List.map_map, show k ∘ f = k from funext hk]
  exact (hsub.map k).nodup h

theorem UniqueOn.sublist {k : α → κ} {p : α → Bool} {rows rows' : List α} (h : UniqueOn k p rows)
    (hsub : rows'.Sublist rows) : UniqueOn k p rows' :=
  ((hsub.filter p).map k).nodup h

theorem UniqueOn.append_new {k : α → κ} {rows : List α} (h : UniqueOn k (fun _ => true) rows)
    {r : α} (hr : ∀ x ∈ rows, k x ≠ k r) : UniqueOn k (fun _ => true) (rows ++ [r]) := by
  unfold UniqueOn at h ⊢
  rw [List.filter_true] at h ⊢
  rw [List.map_append, List.nodup_append]
  refine ⟨h, List.nodup_singleton _, ?_⟩
  intro a ha b hb
  obtain ⟨x, hx, rfl⟩ := List.mem_map.1 ha
  obtain ⟨y, hy, rfl⟩ := List.mem_map.1 hb
  rw [List.mem_singleton.1 hy]
  exact hr x hx

/-- An index takes a row in when it does not index the row, or the key of the row is new. -/
theorem uniqueOn_append {k : α → κ} {p : α → Bool} {rows : List α} {r : α} :
    UniqueOn k p (rows ++ [r]) ↔
      UniqueOn k p rows ∧ (p r = true → ∀ x ∈ rows, p x = true → k x ≠ k r) := by
  unfold UniqueOn
  rw [List.filter_append, List.map_append, List.nodup_append]
  refine and_congr_right fun _ => ?_
  cases hp : p r with
  | false => simp [hp]
  | true =>
    rw [List.filter_cons, if_pos hp, List.filter_nil, List.map_singleton]
    constructor
    · rintro ⟨-, hne⟩ _ x hx hpx
      exact hne _ (List.mem_map_of_mem (List.mem_filter.2 ⟨hx, hpx⟩)) _ List.mem_cons_self
    · intro h
      refine ⟨List.nodup_singleton _, fun a ha b hb => ?_⟩
      obtain ⟨x, hx, rfl⟩ := List.mem_map.1 ha
      obtain ⟨hx, hpx⟩ := List.mem_filter.1 hx
      rw [List.mem_singleton.1 hb]
      exact h rfl x hx hpx

theorem UniqueOn.ne_of_append {k : α → κ} {rows : List α} {r : α}
    (h : UniqueOn k (fun _ => true) (rows ++ [r])) : ∀ x ∈ rows, k x ≠ k r := by
  intro x hx hkey
  rw [UniqueOn, List.filter_true, List.map_append, List.nodup_append] at h
  exact h.2.2 (k x) (List.mem_map_of_mem hx) (k r) (List.mem_map_of_mem List.mem_cons_self) hkey

/-- An index is kept by an update that keeps the keys and indexes one further row, whose key
no other row has. -/
theorem UniqueOn.map_insert {k : α → κ} {p : α → Bool} {rows : List α} (h : UniqueOn k p rows)
    (hnodup : rows.Nodup) {f : α → α} {a : α} (hk : ∀ x, k (f x) = k x)
    (hp : ∀ x ∈ rows, p (f x) = true → x = a ∨ p x = true)
    (hfree : ∀ x ∈ rows, x ≠ a → p x = true → k x ≠ k a) : UniqueOn k p (rows.map f) := by
  unfold UniqueOn at h ⊢
  rw [List.Nodup, List.pairwise_map, List.pairwise_filter] at h ⊢
  refine List.pairwise_map.2 ((h.and hnodup).imp_of_mem ?_)
  rintro x y hx hy ⟨hxy, hne⟩ hpx hpy
  rw [hk, hk]
  rcases hp x hx hpx with rfl | hpx
  · rcases hp y hy hpy with rfl | hpy
    · exact absurd rfl hne
    · exact (hfree y hy (Ne.symm hne) hpy).symm
  · rcases hp y hy hpy with rfl | hpy
    · exact hfree x hx hne hpx
    · exact hxy hpx hpy

/-- An update leaves the rows outside of it as they are. -/
theorem filter_map_of_outside {p q : α → Bool} {f : α → α}
    (h : ∀ x, p x = true → q x = false ∧ q (f x) = false) (rows : List α) :
    (rows.map fun x => if p x then f x else x).filter q = rows.filter q := by
  induction rows with
  | nil => rfl
  | cons x rows ih =>
    rw [List.map_cons, List.filter_cons, List.filter_cons, ih]
    by_cases hp : p x = true
    · obtain ⟨hx, hfx⟩ := h x hp
      rw [if_pos hp, hx, hfx]
      rfl
    · rw [if_neg hp]

/-! ### Tables -/

/-- Rows that satisfy the constraints `C`. -/
structure Table (α : Type*) (C : List α → Prop) where
  rows : List α
  valid : C rows

namespace Table

variable {C : List α → Prop}

@[ext] theorem ext {t t' : Table α C} (h : t.rows = t'.rows) : t = t' := by
  cases t
  cases t'
  simpa using h

/-- The first row that satisfies `p`. -/
def find (t : Table α C) (p : α → Bool) : Option α := t.rows.find? p

theorem mem_of_find {t : Table α C} {p : α → Bool} {r : α} (h : t.find p = some r) :
    r ∈ t.rows := List.mem_of_find?_eq_some h

theorem prop_of_find {t : Table α C} {p : α → Bool} {r : α} (h : t.find p = some r) :
    p r = true := List.find?_some h

theorem key_of_find [BEq κ] [LawfulBEq κ] {t : Table α C} {k : α → κ} {x : κ} {r : α}
    (h : t.find (fun a => k a == x) = some r) : k r = x := by
  have hkey := prop_of_find h
  exact beq_iff_eq.1 hkey

theorem find_eq_none {t : Table α C} {p : α → Bool} :
    t.find p = none ↔ ∀ r ∈ t.rows, p r = false := by
  simp [find]

/-- When one row at most satisfies `p`, it is the one a lookup finds. -/
theorem find_eq_some_iff {t : Table α C} {p : α → Bool} {r : α}
    (huniq : ∀ a ∈ t.rows, ∀ b ∈ t.rows, p a = true → p b = true → a = b) :
    t.find p = some r ↔ r ∈ t.rows ∧ p r = true := by
  constructor
  · intro h
    exact ⟨mem_of_find h, prop_of_find h⟩
  · rintro ⟨hr, hp⟩
    cases hf : t.find p with
    | none => exact absurd hp (by simp [find_eq_none.1 hf r hr])
    | some a => rw [huniq a (mem_of_find hf) r hr (prop_of_find hf) hp]

variable [DecidablePred C]

/-- The rows as a table, when they satisfy the constraints. -/
def commit (rows : List α) : Option (Table α C) :=
  if h : C rows then some ⟨rows, h⟩ else none

theorem rows_of_commit {rows : List α} {t : Table α C} (h : commit rows = some t) :
    t.rows = rows := by
  unfold commit at h
  split at h
  · cases h
    rfl
  · cases h

theorem commit_isSome {rows : List α} : (commit (C := C) rows).isSome = true ↔ C rows := by
  unfold commit
  split <;> simp_all

/-- Add a row. -/
def insert (t : Table α C) (r : α) : Option (Table α C) := commit (t.rows ++ [r])

/-- Apply `f` to the rows that satisfy `p`. -/
def update (t : Table α C) (p : α → Bool) (f : α → α) : Option (Table α C) :=
  commit (t.rows.map fun r => if p r then f r else r)

/-- Add `r`, or apply `f` to the row that conflicts with it. -/
def upsert (t : Table α C) (conflicts : α → Bool) (r : α) (f : α → α) : Option (Table α C) :=
  if t.rows.any conflicts then t.update conflicts f else t.insert r

/-- Drop the rows that satisfy `p` from a table whose constraint is an index. -/
def remove {k : α → κ} {q : α → Bool} (t : Table α (UniqueOn k q)) (p : α → Bool) :
    Table α (UniqueOn k q) where
  rows := t.rows.filter fun r => !p r
  valid := t.valid.sublist List.filter_sublist

theorem mem_insert {t t' : Table α C} {r : α} (h : t.insert r = some t') {x : α} :
    x ∈ t'.rows ↔ x ∈ t.rows ∨ x = r := by
  rw [rows_of_commit h, List.mem_append, List.mem_singleton]

theorem mem_update {t t' : Table α C} {p : α → Bool} {f : α → α} (h : t.update p f = some t')
    {x : α} : x ∈ t'.rows ↔ ∃ r ∈ t.rows, (if p r then f r else r) = x := by
  rw [rows_of_commit h, List.mem_map]

end Table

/-! ### Rows that replace others -/

/-- An insertion of `row` that first deletes the rows it is in conflict with. -/
def insertOrReplace (conflicts : α → Bool) (row : α) (rows : List α) : List α :=
  rows.filter (fun r => !conflicts r) ++ [row]

theorem mem_insertOrReplace {conflicts : α → Bool} {row r : α} {rows : List α} :
    r ∈ insertOrReplace conflicts row rows ↔ (r ∈ rows ∧ conflicts r = false) ∨ r = row := by
  rw [insertOrReplace, List.mem_append, List.mem_filter, List.mem_singleton, Bool.not_eq_true']

theorem insertOrReplace_eq {conflicts : α → Bool} {row : α} {rows : List α}
    (h : ∀ r ∈ rows, conflicts r = false) : insertOrReplace conflicts row rows = rows ++ [row] := by
  rw [insertOrReplace, List.filter_eq_self.2]
  intro r hr
  rw [h r hr]
  rfl

/-- A key stays unique if the rows that have it are in conflict with the new one. -/
theorem nodup_insertOrReplace {k : α → κ} {conflicts : α → Bool} {row : α} {rows : List α}
    (h : (rows.map k).Nodup) (hk : ∀ r ∈ rows, conflicts r = false → k r ≠ k row) :
    ((insertOrReplace conflicts row rows).map k).Nodup := by
  rw [insertOrReplace, List.map_append, List.nodup_append]
  refine ⟨(List.filter_sublist.map k).nodup h, List.nodup_singleton _, ?_⟩
  intro a ha b hb
  obtain ⟨r, hr, rfl⟩ := List.mem_map.1 ha
  obtain ⟨hr, hconflict⟩ := List.mem_filter.1 hr
  rw [List.mem_singleton.1 hb]
  rw [Bool.not_eq_true'] at hconflict
  exact hk r hr hconflict

end Ansible
