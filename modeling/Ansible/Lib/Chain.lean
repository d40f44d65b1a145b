import Mathlib.Data.List.Chain
import Mathlib.Data.List.Nodup

/-!
# Linked records

Records that name the key of their predecessor.  A list of them is linked when each
names the next one and the last one names none, which is what a walk along the
predecessors from the first record to a root produces.

## Main definitions

* `Linked key prev l` — `l` is such a walk.

## Main results

* `Linked.unique` — **the walk from a record is determined** when a key names one
  record.
* `Linked.nodup` — such a walk visits no record twice.
-/

namespace Ansible

variable {α κ : Type*} {key : α → κ} {prev : α → Option κ}

/-- Each record of `l` names the next one, and the last one names none. -/
structure Linked (key : α → κ) (prev : α → Option κ) (l : List α) : Prop where
  names : l.IsChain fun a b => prev a = some (key b)
  root : ∀ a ∈ l.getLast?, prev a = none

theorem linked_nil : Linked key prev [] := ⟨.nil, by simp⟩

theorem linked_singleton {a : α} (h : prev a = none) : Linked key prev [a] :=
  ⟨.singleton a, by simpa using h⟩

theorem linked_cons_cons {a b : α} {l : List α} :
    Linked key prev (a :: b :: l) ↔ prev a = some (key b) ∧ Linked key prev (b :: l) := by
  constructor
  · rintro ⟨hn, hr⟩
    rw [List.isChain_cons_cons] at hn
    exact ⟨hn.1, hn.2, by simpa [List.getLast?_cons_cons] using hr⟩
  · rintro ⟨h, hn, hr⟩
    exact ⟨List.isChain_cons_cons.2 ⟨h, hn⟩, by simpa [List.getLast?_cons_cons] using hr⟩

theorem Linked.tail {a : α} {l : List α} (h : Linked key prev (a :: l)) : Linked key prev l := by
  cases l with
  | nil => exact linked_nil
  | cons b l => exact (linked_cons_cons.1 h).2

theorem Linked.suffix {l m : List α} (h : Linked key prev (l ++ m)) : Linked key prev m := by
  induction l with
  | nil => exact h
  | cons a l ih => exact ih h.tail

theorem Linked.named {a x : α} {l : List α} (h : Linked key prev (a :: l)) (hx : x ∈ l) :
    ∃ y ∈ a :: l, prev y = some (key x) := by
  induction l generalizing a with
  | nil => cases hx
  | cons b l ih =>
    obtain ⟨hab, h⟩ := linked_cons_cons.1 h
    rcases List.mem_cons.1 hx with rfl | hx
    · exact ⟨a, by simp, hab⟩
    · obtain ⟨y, hy, hprev⟩ := ih h hx
      exact ⟨y, List.mem_cons_of_mem a hy, hprev⟩

/-- **The walk from a record is determined** when a key names one record. -/
theorem Linked.unique {a : α} {l m : List α} (hl : Linked key prev (a :: l))
    (hm : Linked key prev (a :: m)) (hkey : ∀ b ∈ l, ∀ c ∈ m, key b = key c → b = c) : l = m := by
  induction l generalizing a m with
  | nil =>
    have ha : prev a = none := hl.root a (by simp)
    cases m with
    | nil => rfl
    | cons c m => simp [linked_cons_cons, ha] at hm
  | cons b l ih =>
    cases m with
    | nil =>
      have ha : prev a = none := hm.root a (by simp)
      simp [linked_cons_cons, ha] at hl
    | cons c m =>
      rw [linked_cons_cons] at hl hm
      have hbc : b = c := hkey b (by simp) c (by simp) (Option.some.inj (hl.1.symm.trans hm.1))
      subst hbc
      rw [ih hl.2 hm.2 fun x hx y hy => hkey x (by simp [hx]) y (by simp [hy])]

/-- Such a walk visits no record twice. -/
theorem Linked.nodup {l : List α} (h : Linked key prev l)
    (hkey : ∀ b ∈ l, ∀ c ∈ l, key b = key c → b = c) : l.Nodup := by
  induction l with
  | nil => exact .nil
  | cons a l ih =>
    refine List.nodup_cons.2 ⟨?_, ih h.tail fun b hb c hc => hkey b (by simp [hb]) c (by simp [hc])⟩
    -- a second visit would make the walk from `a` a proper part of itself
    intro ha
    obtain ⟨u, v, rfl⟩ := List.append_of_mem ha
    have hv : Linked key prev (a :: v) := h.tail.suffix
    have := h.unique hv fun b hb c hc => hkey b (by simp [hb]) c (by simp [hc])
    have := congrArg List.length this
    simp at this
    omega

end Ansible
