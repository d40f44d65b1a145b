import Ansible.Lib.Text
import Mathlib.Tactic.IntervalCases

/-!
# Slugs

The slug of a text: its letters and digits of ASCII in lower case, with one hyphen for every run
of other characters between them.

## Main definitions

* `slugOr` — the slug of a text, or a word that stands for an empty one.

## Main results

* `slugOr_eq_iff` — **the plain texts are those that are their own slugs.**
-/

namespace Ansible

/-- A lower-case letter or a digit of ASCII. -/
def isSlugLetter (c : Char) : Bool :=
  decide ('a' ≤ c ∧ c ≤ 'z') || decide ('0' ≤ c ∧ c ≤ '9')

/-- What is left of a character in a slug: a letter or digit in lower case, or a separator.
Two characters outside of ASCII have a lower case that starts with a letter of ASCII. -/
def slugChar (c : Char) : Text :=
  if 'A' ≤ c ∧ c ≤ 'Z' then [Char.ofNat (c.toNat + 32)]
  else if ('a' ≤ c ∧ c ≤ 'z') ∨ ('0' ≤ c ∧ c ≤ '9') then [c]
  else if c.toNat = 0x212A then ['k']
  else if c.toNat = 0x130 then ['i', '-']
  else ['-']

/-- The letters and digits between separators. -/
def slugWords (value : String) : List Text :=
  (((chars value).flatMap slugChar).splitOn '-').filter (· ≠ [])

def slugOr (dflt value : String) : Text :=
  if slugWords value = [] then dflt.toList else List.intercalate ['-'] (slugWords value)

/-- Words of lower-case letters and digits, with single hyphens between them. -/
def Plain (text : Text) : Prop :=
  ∀ word ∈ text.splitOn '-', word ≠ [] ∧ ∀ c ∈ word, isSlugLetter c = true

instance (text : Text) : Decidable (Plain text) :=
  have (word : Text) : Decidable (∀ c ∈ word, isSlugLetter c = true) := List.decidableBAll _ word
  inferInstanceAs (Decidable (∀ word ∈ text.splitOn '-', word ≠ [] ∧
    ∀ c ∈ word, isSlugLetter c = true))

/-! ### Characters -/

variable {c : Char} {value dflt : String}

theorem slugChar_of_letter (h : isSlugLetter c = true) : slugChar c = [c] := by
  rw [isSlugLetter, Bool.or_eq_true, decide_eq_true_eq, decide_eq_true_eq] at h
  have hnot : ¬ ('A' ≤ c ∧ c ≤ 'Z') := by
    rintro ⟨hA, hZ⟩
    rcases h with ⟨ha, -⟩ | ⟨-, h9⟩
    · exact absurd (Char.le_trans ha hZ) (by decide)
    · exact absurd (Char.le_trans hA h9) (by decide)
  rw [slugChar, if_neg hnot, if_pos h]

theorem mem_slugChar {x : Char} (h : x ∈ slugChar c) : x = '-' ∨ isSlugLetter x = true := by
  unfold slugChar at h
  split at h
  · next hupper =>
    obtain rfl := List.mem_singleton.1 h
    right
    obtain ⟨hA, hZ⟩ := hupper
    have hn : 65 ≤ c.toNat ∧ c.toNat ≤ 90 := ⟨hA, hZ⟩
    obtain ⟨hlo, hhi⟩ := hn
    generalize c.toNat = n at hlo hhi
    interval_cases n <;> decide
  split at h
  · next hletter =>
    obtain rfl := List.mem_singleton.1 h
    right
    rw [isSlugLetter, Bool.or_eq_true, decide_eq_true_eq, decide_eq_true_eq]
    exact hletter
  split at h
  · obtain rfl := List.mem_singleton.1 h
    exact .inr (by decide)
  split at h
  · rcases List.mem_cons.1 h with rfl | h
    · exact .inr (by decide)
    · exact .inl (List.mem_singleton.1 h)
  · exact .inl (List.mem_singleton.1 h)

/-! ### Words -/

theorem mem_of_mem_splitOn {sep : Char} {l w : Text} (hw : w ∈ l.splitOn sep) (hc : c ∈ w) :
    c ∈ l ∧ c ≠ sep := by
  induction l generalizing w with
  | nil =>
    rw [List.splitOn_nil, List.mem_singleton] at hw
    subst hw
    cases hc
  | cons x l ih =>
    rw [List.splitOn_cons_eq_if_modifyHead] at hw
    split at hw
    · rcases List.mem_cons.1 hw with rfl | hw
      · cases hc
      · obtain ⟨hmem, hne⟩ := ih hw hc
        exact ⟨List.mem_cons_of_mem _ hmem, hne⟩
    · next hx =>
      obtain ⟨head, tail, hsplit⟩ := List.exists_cons_of_ne_nil (List.splitOn_ne_nil sep l)
      rw [hsplit, List.modifyHead_cons] at hw
      rcases List.mem_cons.1 hw with rfl | hw
      · rcases List.mem_cons.1 hc with rfl | hc
        · exact ⟨List.mem_cons_self, fun h => hx (beq_iff_eq.2 h)⟩
        · obtain ⟨hmem, hne⟩ := ih (hsplit ▸ List.mem_cons_self) hc
          exact ⟨List.mem_cons_of_mem _ hmem, hne⟩
      · obtain ⟨hmem, hne⟩ := ih (hsplit ▸ List.mem_cons_of_mem _ hw) hc
        exact ⟨List.mem_cons_of_mem _ hmem, hne⟩

theorem exists_mem_splitOn {sep : Char} (hsep : c ≠ sep) {l : Text} (hc : c ∈ l) :
    ∃ w ∈ l.splitOn sep, c ∈ w := by
  induction l with
  | nil => cases hc
  | cons x l ih =>
    rw [List.splitOn_cons_eq_if_modifyHead]
    split
    · next hx =>
      rcases List.mem_cons.1 hc with rfl | hc
      · exact absurd (beq_iff_eq.1 hx) hsep
      · obtain ⟨w, hw, hcw⟩ := ih hc
        exact ⟨w, List.mem_cons_of_mem _ hw, hcw⟩
    · obtain ⟨head, tail, hsplit⟩ := List.exists_cons_of_ne_nil (List.splitOn_ne_nil sep l)
      rw [hsplit, List.modifyHead_cons]
      rcases List.mem_cons.1 hc with rfl | hc
      · exact ⟨c :: head, List.mem_cons_self, List.mem_cons_self⟩
      · obtain ⟨w, hw, hcw⟩ := ih hc
        rw [hsplit] at hw
        rcases List.mem_cons.1 hw with rfl | hw
        · exact ⟨x :: w, List.mem_cons_self, List.mem_cons_of_mem _ hcw⟩
        · exact ⟨w, List.mem_cons_of_mem _ hw, hcw⟩

theorem slugWords_spec {word : Text} (h : word ∈ slugWords value) :
    word ≠ [] ∧ ∀ c ∈ word, isSlugLetter c = true := by
  obtain ⟨hword, hne⟩ := List.mem_filter.1 h
  refine ⟨of_decide_eq_true hne, fun c hc => ?_⟩
  obtain ⟨hmem, hsep⟩ := mem_of_mem_splitOn hword hc
  obtain ⟨x, -, hx⟩ := List.mem_flatMap.1 hmem
  exact (mem_slugChar hx).resolve_left hsep

theorem slug_not_letter : isSlugLetter '-' = false := by decide

theorem plain_slugOr (hdflt : Plain dflt.toList) : Plain (slugOr dflt value) := by
  unfold slugOr
  split
  · exact hdflt
  · next hne =>
    have hsep : ∀ word ∈ slugWords value, '-' ∉ word := by
      intro word hword hmem
      have hletter := (slugWords_spec hword).2 _ hmem
      rw [slug_not_letter] at hletter
      cases hletter
    intro word hword
    rw [List.splitOn_intercalate '-' hsep hne] at hword
    exact slugWords_spec hword

theorem slugOr_of_plain (h : Plain (chars value)) : slugOr dflt value = chars value := by
  have hchars : (chars value).flatMap slugChar = chars value := by
    have hone : ∀ c ∈ chars value, slugChar c = [c] := by
      intro c hc
      by_cases hsep : c = '-'
      · rw [hsep]
        decide
      · obtain ⟨word, hword, hmem⟩ := exists_mem_splitOn hsep hc
        exact slugChar_of_letter ((h word hword).2 c hmem)
    rw [List.flatMap_congr hone, List.flatMap_singleton']
  have hwords : slugWords value = (chars value).splitOn '-' := by
    rw [slugWords, hchars, List.filter_eq_self]
    exact fun word hword => decide_eq_true (h word hword).1
  unfold slugOr
  rw [hwords, if_neg (List.splitOn_ne_nil '-' _), List.intercalate_splitOn]

/-- **The plain texts are those that are their own slugs.** -/
theorem slugOr_eq_iff (hdflt : Plain dflt.toList) :
    slugOr dflt value = chars value ↔ Plain (chars value) :=
  ⟨fun h => h ▸ plain_slugOr hdflt, slugOr_of_plain⟩

end Ansible
