import Mathlib.Data.List.AList

/-!
# Finite maps

A finite map is a list of entries with distinct keys.  The library's `AList` is
that, for values whose type may depend on the key; the maps of programs do not
need the dependency, but loops over their entries.

## Main definitions

* `Assoc κ α` — maps from `κ` to `α`.
* `Assoc.values`, `Assoc.mapValues`, `Assoc.filterValues` — what a loop reads, and what a
  loop that writes every entry, or deletes some, leaves.

## Main results

* `Assoc.mem_values` — the values are what the lookups find.
* `Assoc.lookup_mapValues` — a lookup after such a loop.
* `Assoc.lookup_insert'` — a lookup after a write.
* `Assoc.perm_values` — maps with the same lookups have the same values.
* `Assoc.exists_mem_of_countP_lt` — fewer entries than distinct keys.
-/

namespace Ansible

/-- A finite map. -/
abbrev Assoc (κ α : Type*) := AList fun _ : κ => α

namespace Assoc

variable {κ α β : Type*}

def values (m : Assoc κ α) : List α := m.entries.map Sigma.snd

@[simp] theorem values_empty : (∅ : Assoc κ α).values = [] := rfl

/-- The map with `f` applied to every entry. -/
def mapValues (f : κ → α → β) (m : Assoc κ α) : Assoc κ β :=
  ⟨m.entries.map fun e => ⟨e.1, f e.1 e.2⟩, List.NodupKeys.map₂ f m.entries m.nodupKeys⟩

/-- The entries whose values satisfy `p`. -/
def filterValues (p : α → Bool) (m : Assoc κ α) : Assoc κ α :=
  ⟨m.entries.filter fun e => p e.2, List.NodupKeys.sublist List.filter_sublist m.nodupKeys⟩

variable [DecidableEq κ]

theorem lookup_of_filterValues {p : α → Bool} {m : Assoc κ α} {k : κ} {a : α}
    (h : (m.filterValues p).lookup k = some a) : m.lookup k = some a :=
  AList.mem_lookup_iff.2 (List.mem_of_mem_filter (AList.mem_lookup_iff.1 h))

theorem lookup_filterValues (p : α → Bool) (m : Assoc κ α) (k : κ) :
    (m.filterValues p).lookup k = (m.lookup k).filter p := by
  refine Option.ext fun a => ?_
  rw [Option.filter_eq_some_iff, ← Option.mem_def, AList.mem_lookup_iff]
  exact List.mem_filter.trans (and_congr_left fun _ => AList.mem_lookup_iff.symm)

omit [DecidableEq κ] in
theorem values_filterValues (p : α → Bool) (m : Assoc κ α) :
    (m.filterValues p).values = m.values.filter p := by
  rw [values, filterValues, values, List.filter_map]
  rfl

omit [DecidableEq κ] in
theorem values_mapValues (f : α → β) (m : Assoc κ α) :
    (m.mapValues fun _ a => f a).values = m.values.map f := by
  simp only [values, mapValues, List.map_map]
  rfl

/-- **Maps with the same lookups have the same values**, in some order. -/
theorem perm_values {m m' : Assoc κ α} (h : ∀ k, m.lookup k = m'.lookup k) :
    m.values.Perm m'.values := by
  refine List.Perm.map _ (List.lookup_ext m.nodupKeys m'.nodupKeys fun k a => ?_)
  exact (congrArg (a ∈ ·) (h k)).to_iff

omit [DecidableEq κ] in
theorem nodup_values {m : Assoc κ α} (f : α → κ) (hf : ∀ e ∈ m.entries, f e.2 = e.1) :
    m.values.Nodup := by
  refine List.Nodup.of_map f ?_
  have hkeys : m.values.map f = m.keys := by
    rw [values, List.map_map, AList.keys, List.keys]
    exact List.map_congr_left hf
  rw [hkeys]
  exact m.keys_nodup

theorem lookup_mapValues (f : κ → α → β) (m : Assoc κ α) (k : κ) :
    (m.mapValues f).lookup k = (m.lookup k).map (f k) := List.dlookup_map₂ k

/-- **The values are what the lookups find.** -/
theorem mem_values {m : Assoc κ α} {a : α} : a ∈ m.values ↔ ∃ k, m.lookup k = some a := by
  simp only [values, List.mem_map]
  constructor
  · rintro ⟨⟨k, b⟩, he, rfl⟩
    exact ⟨k, AList.mem_lookup_iff.2 he⟩
  · rintro ⟨k, hk⟩
    exact ⟨⟨k, a⟩, AList.mem_lookup_iff.1 hk, rfl⟩

theorem mem_keys_iff {m : Assoc κ α} {k : κ} : k ∈ m.keys ↔ ∃ a, m.lookup k = some a := by
  rw [← AList.mem_keys, ← AList.lookup_isSome, Option.isSome_iff_exists]

/-- A lookup after a write. -/
theorem lookup_insert' (m : Assoc κ α) (k k' : κ) (a : α) :
    (m.insert k a).lookup k' = if k' = k then some a else m.lookup k' := by
  split
  · rename_i h
    subst h
    exact AList.lookup_insert m
  · rename_i h
    exact AList.lookup_insert_ne h

theorem lookup_of_erase {m : Assoc κ α} {k k' : κ} {a : α} (h : (m.erase k).lookup k' = some a) :
    k' ≠ k ∧ m.lookup k' = some a := by
  by_cases hk : k' = k
  · rw [hk, AList.lookup_erase] at h
    cases h
  · rw [AList.lookup_erase_ne hk] at h
    exact ⟨hk, h⟩

theorem length_keys_insert_le (m : Assoc κ α) (k : κ) (a : α) :
    m.keys.length ≤ (m.insert k a).keys.length := by
  rw [AList.keys_insert, List.length_cons]
  by_cases hk : k ∈ m.keys
  · rw [List.length_erase_of_mem hk]
    omega
  · rw [List.erase_of_not_mem hk]
    omega

/-! ### Counting entries -/

/-- The keys whose values satisfy `p`. -/
def keysWhere (p : α → Bool) (m : Assoc κ α) : List κ :=
  (m.entries.filter fun e => p e.2).map Sigma.fst

omit [DecidableEq κ] in
theorem length_keysWhere (p : α → Bool) (m : Assoc κ α) :
    (m.keysWhere p).length = m.values.countP p := by
  rw [keysWhere, List.length_map, values, List.countP_map, List.countP_eq_length_filter]
  rfl

omit [DecidableEq κ] in
theorem nodup_keysWhere (p : α → Bool) (m : Assoc κ α) : (m.keysWhere p).Nodup :=
  m.keys_nodup.sublist (List.filter_sublist.map Sigma.fst)

theorem mem_keysWhere {p : α → Bool} {m : Assoc κ α} {k : κ} :
    k ∈ m.keysWhere p ↔ ∃ a, m.lookup k = some a ∧ p a = true := by
  simp only [keysWhere, List.mem_map, List.mem_filter]
  constructor
  · intro ⟨⟨k', a⟩, ⟨he, hp⟩, hk⟩
    obtain rfl : k' = k := hk
    exact ⟨a, AList.mem_lookup_iff.2 he, hp⟩
  · intro ⟨a, ha, hp⟩
    exact ⟨⟨k, a⟩, ⟨AList.mem_lookup_iff.1 ha, hp⟩, rfl⟩

/-- **Fewer entries than distinct keys**: one of the keys has no such entry. -/
theorem exists_mem_of_countP_lt {p : α → Bool} {m : Assoc κ α} {l : List κ} (hl : l.Nodup)
    (h : m.values.countP p < l.length) : ∃ k ∈ l, ∀ a, m.lookup k = some a → p a = false := by
  by_contra hall
  have hsub : l ⊆ m.keysWhere p := by
    intro k hk
    by_contra hno
    refine hall ⟨k, hk, ?_⟩
    intro a ha
    by_contra hp
    exact hno (mem_keysWhere.2 ⟨a, ha, Bool.not_eq_false _ ▸ hp⟩)
  have := (List.subperm_of_subset hl hsub).length_le
  rw [length_keysWhere] at this
  omega

end Assoc

end Ansible
