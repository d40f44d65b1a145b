import Mathlib.Data.Nat.Bitwise
import Ansible.Lib.Text

/-!
# Strings of bits

Bits are packed into bytes from the left: the first bit of a byte is its highest one.

## Main definitions

* `Bitstring.setBit` — the string with a bit set.

## Main results

* `Bitstring.bit_setBit` — setting a bit changes no other one.
-/

namespace Ansible

namespace Bitstring

/-- The bit of an index, which is clear outside of the string. -/
def bit (b : Binary) (i : ℕ) : Bool := (b.getD (i / 8) 0).toNat.testBit (7 - i % 8)

/-- The byte with one bit set. -/
def mask (i : ℕ) : UInt8 := UInt8.ofNat (1 <<< (7 - i % 8))

def setBit (b : Binary) (i : ℕ) : Binary := b.modify (i / 8) (· ||| mask i)

@[simp] theorem length_setBit (b : Binary) (i : ℕ) : (setBit b i).length = b.length :=
  List.length_modify ..

theorem toNat_mask (i : ℕ) : (mask i).toNat = 2 ^ (7 - i % 8) := by
  have hpow : 2 ^ (7 - i % 8) ≤ 2 ^ 7 := Nat.pow_le_pow_right (by decide) (by omega)
  rw [mask, UInt8.toNat_ofNat', Nat.one_shiftLeft]
  exact Nat.mod_eq_of_lt (Nat.lt_of_le_of_lt hpow (by decide))

/-- **Setting a bit changes no other one.** -/
theorem bit_setBit {b : Binary} {i : ℕ} (hi : i < 8 * b.length) (j : ℕ) :
    bit (setBit b i) j = (bit b j || decide (i = j)) := by
  have hbyte : i / 8 < b.length := by omega
  unfold bit setBit
  rw [List.getD_eq_getElem?_getD, List.getD_eq_getElem?_getD, List.getElem?_modify]
  by_cases hsame : i / 8 = j / 8
  · have hj : b[j / 8]? = some b[i / 8] := by
      rw [← hsame]
      exact List.getElem?_eq_getElem hbyte
    rw [hj, Option.map_eq_map, Option.map_some, if_pos hsame, Option.getD_some, Option.getD_some,
      UInt8.toNat_or, Nat.testBit_or, toNat_mask, Nat.testBit_two_pow]
    congr 1
    rw [decide_eq_decide]
    constructor <;> intro h <;> omega
  · have hne : i ≠ j := by
      rintro rfl
      exact hsame rfl
    have hid : (fun a => if i / 8 = j / 8 then a ||| mask i else a) = id :=
      funext fun a => if_neg hsame
    rw [hid, id_map, decide_eq_false hne, Bool.or_false]

theorem bit_replicate (n i : ℕ) : bit (List.replicate n 0) i = false := by
  have hzero : (List.replicate n (0 : UInt8)).getD (i / 8) 0 = 0 := by
    rw [List.getD_eq_getElem?_getD, List.getElem?_replicate]
    split <;> rfl
  rw [bit, hzero]
  exact Nat.zero_testBit _

end Bitstring

end Ansible
