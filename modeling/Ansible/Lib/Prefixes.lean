import Mathlib.Data.List.Infix

/-!
# Lists that extend one another

Copies of one growing list, taken at different times, are prefixes of one another.  A loop that
keeps the longest copy so far and compares each further one with it finds the longest of all, or
notices that two of them differ.

## Main definitions

* `longest?` — the longest of lists that extend one another, `none` when two of them differ.

## Main results

* `longest?_eq_some_iff` — **the longest list is the one that has all of them as prefixes.**
* `longest?_eq_of_perm` — it does not depend on the order of the lists.
-/

namespace Ansible

variable {α : Type*}

variable [BEq α] [LawfulBEq α]

/-- The longest list, where `best` is that of the ones before. -/
def longestFrom (best : List α) : List (List α) → Option (List α)
  | [] => some best
  | c :: l =>
    if best.isPrefixOf c then
      if best.length < c.length then longestFrom c l else longestFrom best l
    else if c.isPrefixOf best then longestFrom best l
    else none

/-- The longest of lists that extend one another. -/
def longest? : List (List α) → Option (List α)
  | [] => none
  | c :: l => longestFrom c l

theorem longestFrom_eq_some_iff {best m : List α} {l : List (List α)} :
    longestFrom best l = some m ↔ m ∈ best :: l ∧ ∀ c ∈ best :: l, c <+: m := by
  induction l generalizing best with
  | nil =>
    rw [longestFrom, Option.some.injEq, List.mem_singleton, eq_comm (a := best)]
    refine ⟨fun h => ⟨h, ?_⟩, fun h => h.1⟩
    rw [h]
    simp
  | cons c l ih =>
    rw [longestFrom]
    -- the new list extends the best one so far, or is a prefix of it, or they fork
    by_cases hbest : best <+: c
    · rw [if_pos (List.isPrefixOf_iff_prefix.2 hbest)]
      split
      · next hlt =>
        rw [ih]
        constructor
        · rintro ⟨hm, hall⟩
          refine ⟨List.mem_cons_of_mem _ hm, List.forall_mem_cons.2 ⟨?_, hall⟩⟩
          exact hbest.trans (hall c List.mem_cons_self)
        · rintro ⟨hm, hall⟩
          rw [List.forall_mem_cons] at hall
          refine ⟨(List.mem_cons.1 hm).resolve_left ?_, hall.2⟩
          rintro rfl
          have := (hall.2 c List.mem_cons_self).length_le
          omega
      · next hlt =>
        obtain rfl : best = c := hbest.eq_of_length_le (Nat.not_lt.1 hlt)
        rw [ih]
        simp
    · rw [if_neg (mt List.isPrefixOf_iff_prefix.1 hbest)]
      by_cases hc : c <+: best
      · rw [if_pos (List.isPrefixOf_iff_prefix.2 hc), ih]
        constructor
        · rintro ⟨hm, hall⟩
          rw [List.forall_mem_cons] at hall
          refine ⟨?_, List.forall_mem_cons.2 ⟨hall.1, List.forall_mem_cons.2 ⟨?_, hall.2⟩⟩⟩
          · rcases List.mem_cons.1 hm with rfl | hm
            · exact List.mem_cons_self
            · exact List.mem_cons_of_mem _ (List.mem_cons_of_mem _ hm)
          · exact hc.trans hall.1
        · rintro ⟨hm, hall⟩
          simp only [List.forall_mem_cons] at hall
          refine ⟨?_, List.forall_mem_cons.2 ⟨hall.1, hall.2.2⟩⟩
          rcases List.mem_cons.1 hm with rfl | hm
          · exact List.mem_cons_self
          rcases List.mem_cons.1 hm with rfl | hm
          · exact absurd hall.1 hbest
          · exact List.mem_cons_of_mem _ hm
      · rw [if_neg (mt List.isPrefixOf_iff_prefix.1 hc)]
        refine iff_of_false (by simp) fun h => ?_
        simp only [List.forall_mem_cons] at h
        rcases List.prefix_or_prefix_of_prefix h.2.1 h.2.2.1 with h | h
        · exact hbest h
        · exact hc h

/-- **The longest list is the one of them that has all of them as prefixes.** -/
theorem longest?_eq_some_iff {l : List (List α)} {m : List α} :
    longest? l = some m ↔ m ∈ l ∧ ∀ c ∈ l, c <+: m := by
  cases l with
  | nil => simp [longest?]
  | cons c l => exact longestFrom_eq_some_iff

/-- The order of the lists does not matter. -/
theorem longest?_eq_of_perm {l l' : List (List α)} (h : l.Perm l') : longest? l = longest? l' := by
  ext m
  rw [longest?_eq_some_iff, longest?_eq_some_iff, h.mem_iff]
  simp only [h.mem_iff]

theorem comparable_of_longest? {l : List (List α)} {m : List α} (h : longest? l = some m)
    {a b : List α} (ha : a ∈ l) (hb : b ∈ l) : a <+: b ∨ b <+: a := by
  have hall := (longest?_eq_some_iff.1 h).2
  exact List.prefix_or_prefix_of_prefix (hall a ha) (hall b hb)

end Ansible
