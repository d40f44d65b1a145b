import Mathlib.Data.List.Basic

/-!
# Lists of processes

Processes that are under way are kept in a list and known by their place in it: a new one comes
at the end, and one that moves on is replaced in its place.

## Main results

* `of_getElem?_set`, `of_mem_set` — the members after one is replaced.
* `of_getElem?_append_singleton` — the members after one is added.
-/

namespace Ansible

variable {α : Type*} {l : List α} {n i : ℕ} {a x : α}

/-- The members of a list after the one at `n` is replaced, by their place. -/
theorem of_getElem?_set (h : (l.set n a)[i]? = some x) :
    (i = n ∧ x = a) ∨ (i ≠ n ∧ l[i]? = some x) := by
  rw [List.getElem?_set] at h
  split at h
  · next heq =>
    obtain rfl := heq
    split at h
    · exact .inl ⟨rfl, (Option.some.inj h).symm⟩
    · cases h
  · next hne => exact .inr ⟨fun h => hne h.symm, h⟩

theorem of_mem_set (h : x ∈ l.set n a) : x = a ∨ x ∈ l := (List.mem_or_eq_of_mem_set h).symm

/-- The members of a list after one is added at the end. -/
theorem of_getElem?_append_singleton (h : (l ++ [a])[i]? = some x) :
    l[i]? = some x ∨ i = l.length ∧ x = a := by
  rw [List.getElem?_append] at h
  split at h
  · exact .inl h
  · next hlt =>
    right
    rw [List.getElem?_singleton] at h
    split at h
    · next hzero => exact ⟨by omega, (Option.some.inj h).symm⟩
    · cases h

end Ansible
