import Ansible.Lib.Base

/-!
# Pairs of integers in DER

Two non-negative integers are written as a sequence.  An integer is big-endian, in as few bytes as
its sign bit allows, and a reader takes no other form.

## Main definitions

* `Der.Minimal` — the contents of a non-negative integer.
* `Der.integer`, `Der.pair` — writing.
* `Der.readInteger`, `Der.readPair` — reading.

## Main results

* `Der.readPair_pair` — what is written is read back.
* `Der.exists_of_readPair` — what is read was written so.
* `Der.length_le_of_minimal` — the contents of a small integer are short.
-/

namespace Ansible

/-! ### Big-endian numbers -/

/-- The number in a fixed number of bytes. -/
def toBytesBE : ℕ → ℕ → Binary
  | 0, _ => []
  | k + 1, n => toBytesBE k (n / 256) ++ [UInt8.ofNat (n % 256)]

theorem length_toBytesBE (k n : ℕ) : (toBytesBE k n).length = k := by
  induction k generalizing n with
  | zero => rfl
  | succ k ih => rw [toBytesBE, List.length_append, ih, List.length_singleton]

theorem toNatBE_append_singleton (b : Binary) (x : UInt8) :
    toNatBE (b ++ [x]) = toNatBE b * 256 + x.toNat := by
  rw [toNatBE, List.foldl_append]
  rfl

theorem toNatBE_toBytesBE {k n : ℕ} (h : n < 256 ^ k) : toNatBE (toBytesBE k n) = n := by
  induction k generalizing n with
  | zero =>
    rw [Nat.pow_zero, Nat.lt_one_iff] at h
    rw [h]
    rfl
  | succ k ih =>
    have hdiv : n / 256 < 256 ^ k := by
      rw [Nat.div_lt_iff_lt_mul (by decide), ← Nat.pow_succ]
      exact h
    rw [toBytesBE, toNatBE_append_singleton, ih hdiv, UInt8.toNat_ofNat']
    omega

theorem foldl_toNatBE (b : Binary) (n : ℕ) :
    b.foldl (fun n x => n * 256 + x.toNat) n = n * 256 ^ b.length + toNatBE b := by
  induction b generalizing n with
  | nil => simp [toNatBE]
  | cons x b ih =>
    rw [toNatBE, List.foldl_cons, List.foldl_cons, ih, ih (0 * 256 + x.toNat), List.length_cons,
      Nat.pow_succ']
    rw [Nat.zero_mul, Nat.zero_add, Nat.add_mul, Nat.mul_assoc, Nat.add_assoc]

theorem toNatBE_cons (x : UInt8) (b : Binary) :
    toNatBE (x :: b) = x.toNat * 256 ^ b.length + toNatBE b := by
  rw [toNatBE, List.foldl_cons, foldl_toNatBE, Nat.zero_mul, Nat.zero_add]

@[simp] theorem toNatBE_zero_cons (b : Binary) : toNatBE (0 :: b) = toNatBE b := by
  rw [toNatBE_cons]
  simp

theorem toNatBE_dropWhile (b : Binary) : toNatBE (b.dropWhile (· == 0)) = toNatBE b := by
  induction b with
  | nil => rfl
  | cons x b ih =>
    rw [List.dropWhile_cons]
    by_cases hx : x = 0
    · rw [if_pos (by simpa using hx), ih, hx, toNatBE_zero_cons]
    · rw [if_neg (by simpa using hx)]

namespace Der

/-! ### Integers -/

/-- No byte can be left out: the first one is zero only to keep the sign bit clear. -/
def Minimal : Binary → Bool
  | [] => false
  | [a] => decide (a < 128)
  | a :: b :: _ => decide (a < 128) && (a != 0 || decide (128 ≤ b))

def integer (value : Binary) : Binary := 2 :: UInt8.ofNat value.length :: value

def readInteger : Binary → Option (ℕ × Binary)
  | tag :: len :: rest =>
    let value := rest.take len.toNat
    if tag = 2 ∧ len.toNat < 128 ∧ value.length = len.toNat ∧ Minimal value then
      some (toNatBE value, rest.drop len.toNat)
    else none
  | _ => none

theorem readInteger_integer {value : Binary} (h : Minimal value = true)
    (hlength : value.length < 128) (rest : Binary) :
    readInteger (integer value ++ rest) = some (toNatBE value, rest) := by
  have hlen : (UInt8.ofNat value.length).toNat = value.length := by
    rw [UInt8.toNat_ofNat']
    omega
  rw [integer, List.cons_append, List.cons_append, readInteger, hlen]
  rw [List.take_left, List.drop_left, if_pos ⟨rfl, hlength, rfl, h⟩]

theorem exists_of_readInteger {b rest : Binary} {n : ℕ} (h : readInteger b = some (n, rest)) :
    ∃ value, Minimal value = true ∧ toNatBE value = n ∧ b = integer value ++ rest := by
  unfold readInteger at h
  split at h
  · next tag len tail =>
    dsimp only at h
    split at h
    · next hvalid =>
      obtain ⟨rfl, -, hlength, hminimal⟩ := hvalid
      cases h
      refine ⟨_, hminimal, rfl, ?_⟩
      rw [integer, hlength, UInt8.ofNat_toNat, List.cons_append, List.cons_append,
        List.take_append_drop]
    · cases h
  · cases h

/-- The contents of a small integer are short. -/
theorem length_le_of_minimal {value : Binary} {k : ℕ} (h : Minimal value = true)
    (hlt : toNatBE value < 256 ^ k) : value.length ≤ k + 1 := by
  match value, h with
  | [a], _ => exact Nat.succ_le_succ (Nat.zero_le k)
  | a :: b :: l, h =>
    rw [Minimal, Bool.and_eq_true, Bool.or_eq_true, bne_iff_ne, decide_eq_true_eq] at h
    have hpos : 0 < 256 ^ l.length := Nat.pow_pos (by decide)
    rw [toNatBE_cons, toNatBE_cons, List.length_cons, Nat.pow_succ] at hlt
    by_contra hlong
    -- the first byte, or else the second one, is worth more than the bound
    have hbound : 256 ^ k ≤ 256 ^ l.length :=
      Nat.pow_le_pow_right (by decide) (by simp only [List.length_cons] at hlong; omega)
    rcases h.2 with ha | hb
    · have hone : 1 ≤ a.toNat := by
        rw [Nat.one_le_iff_ne_zero]
        intro hzero
        exact ha (UInt8.toNat_inj.1 hzero)
      have := Nat.mul_le_mul_right (256 ^ l.length * 256) hone
      omega
    · have hb' : 128 ≤ b.toNat := UInt8.le_iff_toNat_le.1 (of_decide_eq_true hb)
      have := Nat.mul_le_mul_right (256 ^ l.length) hb'
      omega

/-! ### Pairs -/

def pair (r s : Binary) : Binary :=
  48 :: UInt8.ofNat (integer r ++ integer s).length :: (integer r ++ integer s)

def readPair : Binary → Option (ℕ × ℕ)
  | tag :: len :: rest =>
    if tag = 48 ∧ len.toNat < 128 ∧ rest.length = len.toNat then do
      let (r, rest) ← readInteger rest
      let (s, rest) ← readInteger rest
      if rest = [] then some (r, s) else none
    else none
  | _ => none

@[simp] theorem length_integer (value : Binary) : (integer value).length = value.length + 2 := rfl

theorem length_pair (r s : Binary) : (pair r s).length = r.length + s.length + 6 := by
  rw [pair, List.length_cons, List.length_cons, List.length_append, length_integer, length_integer]
  omega

/-- **What is written is read back.** -/
theorem readPair_pair {r s : Binary} (hr : Minimal r = true) (hs : Minimal s = true)
    (hlength : r.length + s.length < 124) : readPair (pair r s) = some (toNatBE r, toNatBE s) := by
  have hsum : (integer r ++ integer s).length = r.length + s.length + 4 := by
    rw [List.length_append, length_integer, length_integer]
    omega
  have hlen : (UInt8.ofNat (integer r ++ integer s).length).toNat
      = (integer r ++ integer s).length := by
    rw [UInt8.toNat_ofNat']
    omega
  have hsecond := readInteger_integer hs (by omega) []
  rw [List.append_nil] at hsecond
  rw [pair, readPair, hlen, if_pos ⟨rfl, by omega, rfl⟩, readInteger_integer hr (by omega)]
  dsimp only [Option.bind_eq_bind, Option.bind_some]
  rw [hsecond]
  rfl

/-- **What is read was written so.** -/
theorem exists_of_readPair {b : Binary} {m n : ℕ} (h : readPair b = some (m, n)) :
    ∃ r s, Minimal r = true ∧ Minimal s = true ∧ toNatBE r = m ∧ toNatBE s = n ∧
      b = pair r s := by
  unfold readPair at h
  split at h
  swap
  · cases h
  next tag len tail =>
  split at h
  swap
  · cases h
  next hvalid =>
  obtain ⟨rfl, -, hlength⟩ := hvalid
  obtain ⟨⟨m', tail'⟩, hm, h⟩ := Option.bind_eq_some_iff.1 h
  obtain ⟨⟨n', tail''⟩, hn, h⟩ := Option.bind_eq_some_iff.1 h
  dsimp only at h hn
  split at h
  swap
  · cases h
  next hnil =>
  cases h
  obtain ⟨r, hr, rfl, rfl⟩ := exists_of_readInteger hm
  obtain ⟨s, hs, rfl, rfl⟩ := exists_of_readInteger hn
  rw [hnil, List.append_nil] at hlength ⊢
  exact ⟨r, s, hr, hs, rfl, rfl, by rw [pair, hlength, UInt8.ofNat_toNat]⟩

end Der

end Ansible
