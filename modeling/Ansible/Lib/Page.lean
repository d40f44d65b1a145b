import Mathlib.Data.List.Sort

/-!
# Pages of a keyed log

The first records in the order of their keys.  A page that reaches a key holds every
record up to that key, so a cursor on its last key has skipped nothing that was there.

## Main definitions

* `page key limit l` — the first `limit` records of `l` in key order.

## Main results

* `mem_page_of_le` — **a page holds every record up to its last key.**
* `pairwise_page` — its keys rise strictly.
-/

namespace Ansible

variable {α : Type*} (key : α → ℕ)

/-- The first `limit` records in the order of their keys. -/
def page (limit : ℕ) (l : List α) : List α :=
  (l.insertionSort (fun a b => key a ≤ key b)).take limit

variable {key}

theorem mem_of_mem_page {limit : ℕ} {l : List α} {x : α} (h : x ∈ page key limit l) : x ∈ l :=
  (List.mem_insertionSort _).1 (List.mem_of_mem_take h)

/-- **A page holds every record up to its last key.** -/
theorem mem_page_of_le {limit : ℕ} {l : List α} {x y : α} (hx : x ∈ l) (hy : y ∈ page key limit l)
    (hkey : ∀ a ∈ l, ∀ b ∈ l, key a = key b → a = b) (hle : key x ≤ key y) :
    x ∈ page key limit l := by
  have hsorted := List.pairwise_insertionSort (fun a b : α => key a ≤ key b) l
  rw [← List.take_append_drop limit (l.insertionSort _), List.pairwise_append] at hsorted
  have hx' : x ∈ l.insertionSort (fun a b => key a ≤ key b) := (List.mem_insertionSort _).2 hx
  rw [← List.take_append_drop limit (l.insertionSort _), List.mem_append] at hx'
  rcases hx' with hx' | hx'
  · exact hx'
  · -- a record behind the page that is not above its end is the end itself
    have hge := hsorted.2.2 y hy x hx'
    rwa [hkey x hx y (mem_of_mem_page hy) (le_antisymm hle hge)]

/-- The keys of a page rise strictly when the keys of the log are distinct. -/
theorem pairwise_page (limit : ℕ) {l : List α} (h : l.Pairwise (key · ≠ key ·)) :
    (page key limit l).Pairwise (key · < key ·) := by
  have hne := h.perm (List.perm_insertionSort (fun a b => key a ≤ key b) l).symm Ne.symm
  exact (((List.pairwise_insertionSort _ l).and hne).imp fun h => lt_of_le_of_ne h.1 h.2).take

end Ansible
