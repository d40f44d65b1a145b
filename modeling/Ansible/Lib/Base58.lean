import Ansible.Lib.Base
import Mathlib.Data.List.GetD
import Mathlib.Data.List.TakeWhile
import Mathlib.Data.Nat.Digits.Lemmas

/-!
# Base 58

The Bitcoin alphabet: a byte string is written as one number in base 58, most significant
digit first, with a `1` for every byte that is zero at its beginning.

## Main definitions

* `Base58.alphabet` — the digits.
* `Base58.encode` — the text of a byte string.
* `Base58.toInteger`, `Base58.decode` — the number of a text, and its byte string.
* `Base58.appendDigits` — the loop that divides a number for its digits.

## Main results

* `Base58.decode_encode` — **what is written is read back.**
* `Base58.encode_of_decode` — **no two texts are read as the same byte string**: what is read
  is written back.
* `Base58.reverse_appendDigits` — the loop writes what `encode` writes, in reverse.
-/

namespace Ansible

namespace Base58

def alphabet : List Char := "123456789ABCDEFGHJKLMNPQRSTUVWXYZabcdefghijkmnopqrstuvwxyz".toList

/-- The number of a byte string, most significant byte first. -/
def ofBytes (input : Binary) : ℕ := input.foldl (fun n b => n * 256 + b.toNat) 0

def encode (input : Binary) : Text :=
  List.replicate (input.takeWhile (· == 0)).length '1' ++
    ((Nat.digits 58 (ofBytes input)).map fun d => alphabet.getD d '1').reverse

/-- The number of a text, `none` for another character. -/
def toInteger (encoded : Text) : Option ℕ :=
  encoded.foldlM (fun value c =>
    if c ∈ alphabet then some (value * 58 + alphabet.idxOf c) else none) 0

/-- The bytes of a number, none for zero. -/
def toBytes (n : ℕ) : Binary := ((Nat.digits 256 n).map UInt8.ofNat).reverse

def decode (encoded : Text) : Option Binary := do
  let number ← toInteger encoded
  return List.replicate (encoded.takeWhile (· == '1')).length 0 ++ toBytes number

/-- The loop of an encoder: `encoded`, and then the digits of `n` from the least significant. -/
def appendDigits (encoded : Text) (n : ℕ) : Text :=
  if 0 < n then appendDigits (encoded ++ [alphabet.getD (n % 58) '1']) (n / 58) else encoded
termination_by n

/-! ### Digits -/

theorem length_alphabet : alphabet.length = 58 := by decide +kernel

theorem nodup_alphabet : alphabet.Nodup := by decide +kernel

theorem getD_alphabet {d : ℕ} (h : d < 58) :
    alphabet.getD d '1' ∈ alphabet ∧ alphabet.idxOf (alphabet.getD d '1') = d := by
  have hd : d < alphabet.length := by rwa [length_alphabet]
  rw [List.getD_eq_getElem _ _ hd]
  exact ⟨List.getElem_mem hd, nodup_alphabet.idxOf_getElem d hd⟩

theorem getD_alphabet_eq_one {d : ℕ} (h : d < 58) : alphabet.getD d '1' = '1' ↔ d = 0 := by
  constructor
  · intro hone
    have := (getD_alphabet h).2
    rw [hone] at this
    exact this.symm
  · rintro rfl
    rfl

theorem appendDigits_eq (encoded : Text) (n : ℕ) :
    appendDigits encoded n = encoded ++ (Nat.digits 58 n).map fun d => alphabet.getD d '1' := by
  induction n using Nat.strong_induction_on generalizing encoded with
  | _ n ih =>
    rw [appendDigits]
    rcases Nat.eq_zero_or_pos n with rfl | hn
    · simp
    · rw [if_pos hn, ih (n / 58) (by omega), Nat.digits_def' (by decide) hn, List.map_cons,
        List.append_assoc, List.singleton_append]

theorem toInteger_digits {ds : List ℕ} (h : ∀ d ∈ ds, d < 58) :
    toInteger (ds.map fun d => alphabet.getD d '1').reverse = some (Nat.ofDigits 58 ds) := by
  unfold toInteger
  induction ds with
  | nil => rfl
  | cons d ds ih =>
    obtain ⟨hmem, hidx⟩ := getD_alphabet (h d List.mem_cons_self)
    have ih := ih fun x hx => h x (List.mem_cons_of_mem _ hx)
    rw [List.map_cons, List.reverse_cons, List.foldlM_append, ih, Nat.ofDigits_cons]
    simp only [List.foldlM_cons, List.foldlM_nil, Option.bind_eq_bind,
      Option.bind_some, if_pos hmem,
      hidx, Option.pure_def]
    rw [add_comm, mul_comm]

/-! ### Leading zeros -/

theorem toInteger_replicate (k : ℕ) (encoded : Text) :
    toInteger (List.replicate k '1' ++ encoded) = toInteger encoded := by
  induction k with
  | zero => rfl
  | succ k ih =>
    rw [List.replicate_succ, List.cons_append, ← ih]
    rfl

theorem ofBytes_replicate (k : ℕ) (input : Binary) :
    ofBytes (List.replicate k 0 ++ input) = ofBytes input := by
  induction k with
  | zero => rfl
  | succ k ih =>
    rw [List.replicate_succ, List.cons_append, ← ih]
    rfl

variable (n : ℕ) (input : Binary)

/-- The number of a byte string in Mathlib's digits, which begin with the least significant. -/
theorem ofBytes_eq_ofDigits : ofBytes input = Nat.ofDigits 256 (input.map UInt8.toNat).reverse := by
  unfold ofBytes
  induction input using List.reverseRecOn with
  | nil => rfl
  | append_singleton input b ih =>
    rw [List.foldl_append, ih, List.map_append, List.reverse_append]
    simp [Nat.ofDigits_cons, mul_comm, add_comm]

theorem toBytes_ofBytes {input : Binary} (h : input.head? ≠ some 0) :
    toBytes (ofBytes input) = input := by
  rw [toBytes, ofBytes_eq_ofDigits, Nat.digits_ofDigits 256 (by decide)]
  · rw [List.map_reverse, List.reverse_reverse, List.map_map]
    simp [Function.comp_def]
  · intro d hd
    obtain ⟨b, -, rfl⟩ := List.mem_map.1 (List.mem_reverse.1 hd)
    exact b.toNat_lt
  · intro hne hlast
    rw [List.getLast_reverse] at hlast
    cases input with
    | nil => exact hne rfl
    | cons b input =>
      refine h (congrArg some ?_)
      exact UInt8.toNat_inj.1 hlast

theorem takeWhile_digits :
    ((Nat.digits 58 n).map fun d => alphabet.getD d '1').reverse.takeWhile (· == '1') = [] := by
  rcases Nat.eq_zero_or_pos n with rfl | hn
  · rfl
  have hne : Nat.digits 58 n ≠ [] := Nat.digits_ne_nil_iff_ne_zero.2 hn.ne'
  have hlast := Nat.getLast_digit_ne_zero 58 hn.ne'
  rw [← List.dropLast_append_getLast hne, List.map_append, List.reverse_append]
  simp only [List.map_cons, List.map_nil, List.reverse_cons, List.reverse_nil, List.nil_append,
    List.singleton_append]
  rw [List.takeWhile_cons_of_neg]
  rw [beq_iff_eq, getD_alphabet_eq_one (Nat.digits_lt_base (by decide) (List.getLast_mem hne))]
  exact hlast

/-- **What is written is read back.** -/
theorem decode_encode : decode (encode input) = some input := by
  have hzeros : input.takeWhile (· == 0)
      = List.replicate (input.takeWhile (· == 0)).length 0 :=
    List.eq_replicate_iff.2 ⟨rfl, fun b hb => by simpa using List.mem_takeWhile_imp hb⟩
  have hhead : (input.dropWhile (· == 0)).head? ≠ some 0 := by
    intro h
    have := List.head?_dropWhile_not (· == 0) input
    rw [h] at this
    cases this
  have hnumber : ofBytes input = ofBytes (input.dropWhile (· == 0)) := by
    conv_lhs => rw [← List.takeWhile_append_dropWhile (p := (· == 0)) (l := input), hzeros]
    exact ofBytes_replicate _ _
  have hinteger : toInteger (encode input) = some (ofBytes input) := by
    rw [encode, toInteger_replicate,
      toInteger_digits fun d hd => Nat.digits_lt_base (by decide) hd, Nat.ofDigits_digits]
  have hones : (encode input).takeWhile (· == '1')
      = List.replicate (input.takeWhile (· == 0)).length '1' := by
    rw [encode, List.takeWhile_append_of_pos (by simp), takeWhile_digits, List.append_nil]
  simp only [decode, hinteger, Option.bind_eq_bind, Option.bind_some, Option.pure_def, hones,
    List.length_replicate, hnumber, toBytes_ofBytes hhead, ← hzeros,
    List.takeWhile_append_dropWhile]

/-- The loop writes the text of the bytes in reverse. -/
theorem reverse_appendDigits :
    (appendDigits [] (ofBytes input) ++
      List.replicate (input.takeWhile (· == 0)).length '1').reverse = encode input := by
  rw [appendDigits_eq, List.nil_append, List.reverse_append, List.reverse_replicate, encode]

/-! ### Reading -/

/-- A text that is read consists of digits, and its number is theirs. -/
theorem toInteger_eq_some_iff {encoded : Text} {n : ℕ} :
    toInteger encoded = some n ↔ (∀ c ∈ encoded, c ∈ alphabet) ∧
      n = Nat.ofDigits 58 (encoded.map alphabet.idxOf).reverse := by
  unfold toInteger
  induction encoded using List.reverseRecOn generalizing n with
  | nil => simp [eq_comm]
  | append_singleton encoded c ih =>
    rw [List.foldlM_append, Option.bind_eq_bind, Option.bind_eq_some_iff]
    simp only [List.foldlM_cons, List.foldlM_nil, ih, List.mem_append, List.mem_singleton,
      List.map_append, List.reverse_append, List.map_cons, List.map_nil, List.reverse_cons,
      List.reverse_nil, List.nil_append, List.singleton_append, Nat.ofDigits_cons]
    constructor
    · rintro ⟨m, ⟨hall, rfl⟩, h⟩
      split_ifs at h with hc
      · refine ⟨fun x hx => hx.elim (hall x) fun hx => hx ▸ hc, ?_⟩
        have h := Option.some.inj h
        rw [← h]
        ring
      · cases h
    · rintro ⟨hall, rfl⟩
      refine ⟨_, ⟨fun x hx => hall x (.inl hx), rfl⟩, ?_⟩
      rw [if_pos (hall c (.inr rfl))]
      refine congrArg some ?_
      ring

/-- The digits that were read are those of their number, unless the first of them is a zero. -/
theorem digits_of_toInteger {encoded : Text} {n : ℕ} (h : toInteger encoded = some n)
    (hone : encoded.head? ≠ some '1') :
    ((Nat.digits 58 n).map fun d => alphabet.getD d '1').reverse = encoded := by
  obtain ⟨hall, rfl⟩ := toInteger_eq_some_iff.1 h
  have hread : ∀ c ∈ encoded, alphabet.getD (alphabet.idxOf c) '1' = c := by
    intro c hc
    rw [List.getD_eq_getElem _ _ (List.idxOf_lt_length_of_mem (hall c hc)), List.getElem_idxOf]
  rw [Nat.digits_ofDigits 58 (by decide)]
  · rw [List.map_reverse, List.reverse_reverse, List.map_map]
    exact (List.map_congr_left hread).trans (List.map_id' encoded)
  · intro d hd
    obtain ⟨c, hc, rfl⟩ := List.mem_map.1 (List.mem_reverse.1 hd)
    rw [← length_alphabet]
    exact List.idxOf_lt_length_of_mem (hall c hc)
  · intro hne hlast
    rw [List.getLast_reverse] at hlast
    cases encoded with
    | nil => exact hne rfl
    | cons c encoded =>
      have hc := hread c List.mem_cons_self
      rw [show alphabet.idxOf c = 0 from hlast] at hc
      exact hone (congrArg some hc.symm)

theorem ofBytes_toBytes : ofBytes (toBytes n) = n := by
  rw [ofBytes_eq_ofDigits, toBytes, List.map_reverse, List.reverse_reverse, List.map_map]
  have hbyte : ∀ d ∈ Nat.digits 256 n, (UInt8.toNat ∘ UInt8.ofNat) d = d := by
    intro d hd
    have := Nat.digits_lt_base (by decide) hd
    rw [Function.comp_apply, UInt8.toNat_ofNat']
    omega
  rw [(List.map_congr_left hbyte).trans (List.map_id' _), Nat.ofDigits_digits]

theorem takeWhile_toBytes : (toBytes n).takeWhile (· == 0) = [] := by
  rcases Nat.eq_zero_or_pos n with rfl | hn
  · rfl
  have hne : Nat.digits 256 n ≠ [] := Nat.digits_ne_nil_iff_ne_zero.2 hn.ne'
  have hlast := Nat.getLast_digit_ne_zero 256 hn.ne'
  have hlt := Nat.digits_lt_base (by decide) (List.getLast_mem hne)
  rw [toBytes, ← List.dropLast_append_getLast hne, List.map_append, List.reverse_append]
  simp only [List.map_cons, List.map_nil, List.reverse_cons, List.reverse_nil, List.nil_append,
    List.singleton_append]
  rw [List.takeWhile_cons_of_neg]
  rw [beq_iff_eq]
  intro hzero
  have := congrArg UInt8.toNat hzero
  rw [UInt8.toNat_ofNat', Nat.mod_eq_of_lt (by omega)] at this
  exact hlast this

/-- **What is read is written back**, so that no two texts are read as the same bytes. -/
theorem encode_of_decode {encoded : Text} {input : Binary} (h : decode encoded = some input) :
    encode input = encoded := by
  obtain ⟨number, hnumber, h⟩ := Option.bind_eq_some_iff.1 h
  cases h
  have hones : encoded.takeWhile (· == '1')
      = List.replicate (encoded.takeWhile (· == '1')).length '1' :=
    List.eq_replicate_iff.2 ⟨rfl, fun b hb => by simpa using List.mem_takeWhile_imp hb⟩
  have hhead : (encoded.dropWhile (· == '1')).head? ≠ some '1' := by
    intro h
    have := List.head?_dropWhile_not (· == '1') encoded
    rw [h] at this
    cases this
  have hrest : toInteger (encoded.dropWhile (· == '1')) = some number := by
    rw [← hnumber]
    conv_rhs => rw [← List.takeWhile_append_dropWhile (p := (· == '1')) (l := encoded), hones]
    exact (toInteger_replicate _ _).symm
  rw [encode, List.takeWhile_append_of_pos (by simp), takeWhile_toBytes, List.append_nil,
    List.length_replicate, ofBytes_replicate, ofBytes_toBytes, digits_of_toInteger hrest hhead,
    ← hones, List.takeWhile_append_dropWhile]

end Base58

end Ansible
