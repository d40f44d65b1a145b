import Ansible.Lib.JsonParse

/-!
# Texts that are integers

A number is read from a text as a whole, with nothing after its digits.

## Main definitions

* `parseWhole` — the integer that a text denotes.

## Main results

* `parseWhole_toDigits` — decimal digits are read back.
-/

namespace Ansible

/-- `Integer.parse` with nothing left: digits, after a sign perhaps. -/
def parseWhole (text : Text) : Option ℤ :=
  let (negative, cs) := match text with
    | '-' :: r => (true, r)
    | '+' :: r => (false, r)
    | r => (false, r)
  if cs ≠ [] ∧ cs.all Char.isDigit then
    let n : ℤ := Nat.ofDigitChars 10 cs 0
    some (if negative then -n else n)
  else none

example : parseWhole "-12".toList = some (-12) := by decide

example : parseWhole "5.0".toList = none := by decide

theorem parseWhole_toDigits (n : ℕ) : parseWhole (Nat.toDigits 10 n) = some (n : ℤ) := by
  obtain ⟨c, l, hcl, hd⟩ := Json.toDigits_head n
  have hminus : c ≠ '-' := by
    rintro rfl
    exact absurd hd (by decide)
  have hplus : c ≠ '+' := by
    rintro rfl
    exact absurd hd (by decide)
  have hall : ∀ c ∈ Nat.toDigits 10 n, c.isDigit = true := fun c hc =>
    Nat.isDigit_of_mem_toDigits (by omega) (by omega) hc
  have hvalue : (Nat.ofDigitChars 10 (c :: l) 0 : ℤ) = n := by
    rw [← hcl, Nat.ofDigitChars_ten_toDigits]
  rw [hcl] at hall ⊢
  have hpos : c :: l ≠ [] ∧ (c :: l).all Char.isDigit = true :=
    ⟨List.cons_ne_nil _ _, List.all_eq_true.2 hall⟩
  unfold parseWhole
  split
  next negative cs hsign =>
  split at hsign
  · next hcons => exact absurd (List.cons.inj hcons).1 hminus
  · next hcons => exact absurd (List.cons.inj hcons).1 hplus
  · cases hsign
    rw [if_pos hpos]
    dsimp only
    rw [if_neg Bool.false_ne_true, hvalue]

end Ansible
