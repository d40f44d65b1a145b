import Ansible.Issuer.HumanityCredential
import Ansible.Relay.VpVerifier

/-!
# The radix codecs of the three languages

The app writes the suffix of an identifier in base 32, with an accumulator of 64 bits that is
never masked; the app, the relay and the issuer each write and read base 58 with loops of their
own.  The accumulator keeps the last bits of all bytes read, of which at most twelve are still
to be written, so that what it loses is never asked for.

## Main definitions

* `base32NoPad` — base 32 in the app, `writeDigits` its inner loop.
* `base58btc`, `base58BtcEncode` — the two writers of base 58 in the app.
* `DidElix.base58btc` — that of the relay.
* `Vc.base58BTCEncode`, `Vc.base58BTCDecode` — writer and reader of the issuer.

## Main results

* `base32NoPad_eq` — **the app writes base 32**, whatever the length.
* `codecs_agree` — **the codecs agree.**
-/

namespace Ansible

/-! ### The relay -/

namespace DidElix

/-- `encode_base58_integer`: the digits of the number before `encoded`. -/
def encodeBase58Integer (number : ℕ) (encoded : Text) : Text :=
  if number = 0 then encoded
  else encodeBase58Integer (number / 58) (Base58.alphabet.getD (number % 58) '1' :: encoded)
termination_by number

/-- The text of bytes in the relay. -/
def base58btc (bytes : Binary) : Text :=
  let leadingZeroes := (bytes.takeWhile (· == 0)).length
  List.replicate leadingZeroes '1' ++ encodeBase58Integer (Base58.ofBytes bytes) []

theorem encodeBase58Integer_eq (number : ℕ) (encoded : Text) :
    encodeBase58Integer number encoded =
      ((Nat.digits 58 number).map fun d => Base58.alphabet.getD d '1').reverse ++ encoded := by
  induction number using Nat.strong_induction_on generalizing encoded with
  | _ number ih =>
    rw [encodeBase58Integer]
    rcases Nat.eq_zero_or_pos number with rfl | hn
    · simp
    · rw [if_neg hn.ne', ih (number / 58) (by omega), Nat.digits_def' (by decide) hn, List.map_cons,
        List.reverse_cons, List.append_assoc, List.singleton_append]

theorem base58btc_eq (bytes : Binary) : base58btc bytes = Base58.encode bytes := by
  rw [base58btc, encodeBase58Integer_eq, List.append_nil, Base58.encode]

end DidElix

/-! ### The issuer -/

namespace Vc

/-- The text of bytes in the issuer: the digits are appended from the least significant, then
the leading zeros, and the text is reversed at the end. -/
def base58BTCEncode (data : Binary) : Text :=
  if data = [] then []
  else
    let zeroes := (data.takeWhile (· == 0)).length
    let encoded := Base58.appendDigits [] (Base58.ofBytes data)
    (encoded ++ List.replicate zeroes '1').reverse

/-- The bytes of a text in the issuer, `none` for an error. -/
def base58BTCDecode (encoded : Text) : Option Binary :=
  if encoded = [] then some []
  else do
    let n ← Base58.toInteger encoded
    let decoded := Base58.toBytes n
    let zeroes := (encoded.takeWhile (· == '1')).length
    if zeroes > 0 then some (List.replicate zeroes 0 ++ decoded) else some decoded

theorem base58BTCEncode_eq (data : Binary) : base58BTCEncode data = Base58.encode data := by
  rw [base58BTCEncode]
  split_ifs with h
  · rw [h]
    rfl
  · exact Base58.reverse_appendDigits data

theorem base58BTCDecode_eq (encoded : Text) : base58BTCDecode encoded = Base58.decode encoded := by
  rw [base58BTCDecode, Base58.decode]
  split_ifs with h
  · rw [h]
    rfl
  · refine congrArg _ (funext fun n => ?_)
    dsimp only
    split_ifs with hzeroes
    · rfl
    · rw [Nat.eq_zero_of_not_pos hzeroes]
      rfl

end Vc

/-! ### The reader of the relay -/

namespace VpVerifier

theorem base58btcToInteger_eq (encoded : Text) :
    base58btcToInteger encoded = Base58.toInteger encoded := rfl

/-- The relay reads what base 58 reads, if it is a signature. -/
theorem decodeBase58btcSignature_cons (c : Char) (cs : Text) :
    decodeBase58btcSignature (.str (String.ofList ('z' :: c :: cs))) =
      (Base58.decode (c :: cs)).bind fun signature =>
        if signature.length = 64 then some (String.ofList (encode16 signature)) else none := by
  rw [decodeBase58btcSignature, chars_ofList]
  simp only [base58btcToInteger_eq, Base58.decode]
  cases Base58.toInteger (c :: cs) <;> rfl

/-- **The relay reads the texts of 64 bytes back**, and no others. -/
theorem decodeBase58btcSignature_encode (data : Binary) :
    decodeBase58btcSignature (.str (String.ofList ('z' :: Base58.encode data))) =
      if data.length = 64 then some (String.ofList (encode16 data)) else none := by
  have hdecode := Base58.decode_encode data
  cases hencoded : Base58.encode data with
  | nil =>
    rw [hencoded] at hdecode
    obtain rfl : [] = data := Option.some.inj hdecode
    rw [decodeBase58btcSignature, chars_ofList]
    rfl
  | cons c cs =>
    rw [hencoded] at hdecode
    rw [decodeBase58btcSignature_cons, hdecode, Option.bind_some]

/-- What the relay reads is the text of the signature that it gives. -/
theorem encode_of_decodeBase58btcSignature {v signatureHex : String}
    (h : decodeBase58btcSignature (.str v) = some signatureHex) :
    ∃ signature : Binary, signature.length = 64 ∧
      signatureHex = String.ofList (encode16 signature) ∧
      v = String.ofList ('z' :: Base58.encode signature) := by
  have hv : v = String.ofList (chars v) := (ofList_chars v).symm
  rw [hv] at h
  generalize chars v = t at hv h
  subst hv
  match t, h with
  | [], h => rw [decodeBase58btcSignature, chars_ofList] at h; cases h
  | [c], h =>
    rw [decodeBase58btcSignature, chars_ofList] at h
    split at h
    · next heq => cases heq
    · cases h
  | a :: c :: cs, h =>
    obtain rfl | ha := eq_or_ne a 'z'
    · rw [decodeBase58btcSignature_cons] at h
      obtain ⟨signature, hdecode, h⟩ := Option.bind_eq_some_iff.1 h
      split_ifs at h with hlength
      refine ⟨signature, hlength, (Option.some.inj h).symm, ?_⟩
      rw [Base58.encode_of_decode hdecode]
    · rw [decodeBase58btcSignature, chars_ofList] at h
      split at h
      · next heq => exact absurd (List.cons.inj heq).1 ha
      · cases h

end VpVerifier

namespace Client

/-! ### Base 58 in the app -/

/-- The text of bytes in an anchor. -/
def base58btc (input : Binary) : Text :=
  let zeros := (input.takeWhile (· == 0)).length
  let out := Base58.appendDigits [] (Base58.ofBytes input)
  List.replicate zeros '1' ++ out.reverse

/-- The text of bytes in a presentation. -/
def base58BtcEncode (data : Binary) : Text :=
  if data = [] then []
  else
    let zeroes := (data.takeWhile (· == 0)).length
    let chars := Base58.appendDigits [] (Base58.ofBytes data)
    (chars ++ List.replicate zeroes '1').reverse

theorem base58btc_eq (input : Binary) : base58btc input = Base58.encode input := by
  rw [← Base58.reverse_appendDigits, List.reverse_append, List.reverse_replicate]
  rfl

theorem base58BtcEncode_eq (data : Binary) : base58BtcEncode data = Base58.encode data :=
  Vc.base58BTCEncode_eq data

/-! ### Base 32 in the app -/

/-- `abcdefghijklmnopqrstuvwxyz234567` -/
def base32Alpha : List Char := "abcdefghijklmnopqrstuvwxyz234567".toList

/-- The digit of five bits, `codeUnitAt`. -/
def base32CodeUnitAt (five : BitVec 64) : Char := base32Alpha.getD five.toNat 'a'

/-- `while (bitCount >= 5)`: the digits of the count's bits, and the count that is left. -/
def writeDigits (out : Text) (bits : BitVec 64) : ℕ → Text × ℕ
  | bitCount + 5 =>
    writeDigits (out ++ [base32CodeUnitAt (bits.sshiftRight bitCount &&& 0x1f)]) bits bitCount
  | bitCount => (out, bitCount)

/-- The variables of the loop: integers have 64 bits and wrap. -/
structure Base32State where
  out : Text := []
  bits : BitVec 64 := 0
  bitCount : ℕ := 0

def base32Step (s : Base32State) (byte : UInt8) : Base32State :=
  let bits := (s.bits <<< 8) ||| BitVec.ofNat 64 byte.toNat
  let written := writeDigits s.out bits (s.bitCount + 8)
  { out := written.1, bits := bits, bitCount := written.2 }

/-- `_base32NoPad` -/
def base32NoPad (data : Binary) : Text :=
  let s := data.foldl base32Step {}
  if s.bitCount > 0 then
    s.out ++ [base32CodeUnitAt ((s.bits <<< (5 - s.bitCount)) &&& 0x1f)]
  else s.out

/-! ### The bits that are kept -/

theorem getD_base32Alpha {n : ℕ} (h : n < 32) :
    base32Alpha.getD n 'a' = base32Digit n := by
  have hall : ∀ m < 32, base32Alpha.getD m 'a' = base32Digit m := by decide +kernel
  exact hall n h

theorem codeUnitAt_sshiftRight (bits : BitVec 64) {k : ℕ} (hk : k + 5 ≤ 64) :
    base32CodeUnitAt (bits.sshiftRight k &&& 0x1f) = base32Digit (bits.toNat / 2 ^ k % 32) := by
  have hvalue : (bits.sshiftRight k &&& 0x1f).toNat = bits.toNat / 2 ^ k % 32 := by
    apply Nat.eq_of_testBit_eq
    intro i
    rw [show (32 : ℕ) = 2 ^ 5 from rfl, Nat.testBit_mod_two_pow, Nat.testBit_div_two_pow,
      ← BitVec.getLsbD, BitVec.getLsbD_and, BitVec.getLsbD_sshiftRight]
    rcases Nat.lt_or_ge i 5 with hi | hi
    · have hmask : (0x1f : BitVec 64).getLsbD i = true := by
        interval_cases i <;> rfl
      rw [hmask, if_pos (show k + i < 64 by omega)]
      simp [hi, show ¬ 64 ≤ i by omega, BitVec.getLsbD, Nat.add_comm]
    · have hmask : (0x1f : BitVec 64).getLsbD i = false := by
        rw [BitVec.getLsbD]
        exact Nat.testBit_lt_two_pow (Nat.lt_of_lt_of_le (by decide : _ < 2 ^ 5)
          (Nat.pow_le_pow_right (by decide) hi))
      rw [hmask, Bool.and_false, decide_eq_false (by omega), Bool.false_and]
  rw [base32CodeUnitAt, hvalue]
  exact getD_base32Alpha (Nat.mod_lt _ (by decide))

theorem writeDigits_eq (out : Text) (bits : BitVec 64) (bitCount : ℕ) (h : bitCount ≤ 64) :
    writeDigits out bits bitCount = (out ++ (List.range (bitCount / 5)).map fun i =>
      base32Digit (bits.toNat / 2 ^ (bitCount - 5 * (i + 1)) % 32), bitCount % 5) := by
  induction out, bitCount using writeDigits.induct bits with
  | case1 out bitCount ih =>
    rw [show bitCount.succ.succ.succ.succ.succ = bitCount + 5 from rfl] at h ⊢
    rw [writeDigits, ih (by omega), codeUnitAt_sshiftRight bits h,
      show (bitCount + 5) / 5 = bitCount / 5 + 1 by omega, List.range_succ_eq_map, List.map_cons,
      List.map_map, List.append_assoc, List.singleton_append, Nat.add_mod_right]
    refine congrArg₂ Prod.mk (congrArg _ (congrArg₂ _ ?_ (List.map_congr_left fun i hi => ?_))) rfl
    · rw [show bitCount + 5 - 5 * (0 + 1) = bitCount by omega]
    · rw [Function.comp_apply,
        show bitCount + 5 - 5 * (i.succ + 1) = bitCount - 5 * (i + 1) by omega]
  | case2 out bitCount hdone =>
    have hlt : bitCount < 5 := by
      by_contra hge
      exact hdone (bitCount - 5) (by omega)
    rw [writeDigits, Nat.div_eq_of_lt hlt, Nat.mod_eq_of_lt hlt]
    · simp
    · exact hdone

theorem toNatBE_concat (p : Binary) (b : UInt8) :
    toNatBE (p ++ [b]) = toNatBE p * 256 + b.toNat := by
  rw [toNatBE, List.foldl_append]
  rfl

theorem toNat_accumulate {bits : BitVec 64} {v : ℕ} (h : bits.toNat = v % 2 ^ 64) (b : UInt8) :
    ((bits <<< 8) ||| BitVec.ofNat 64 b.toNat).toNat = (v * 256 + b.toNat) % 2 ^ 64 := by
  have hb : b.toNat < 2 ^ 8 := b.toNat_lt
  rw [BitVec.toNat_or, BitVec.toNat_shiftLeft, h, BitVec.toNat_ofNat, ← Nat.or_mod_two_pow,
    ← Nat.shiftLeft_add_eq_or_of_lt hb, Nat.shiftLeft_eq]
  omega

theorem div_mod_of_mod (v : ℕ) {k : ℕ} (hk : k + 5 ≤ 64) :
    v % 2 ^ 64 / 2 ^ k % 32 = v / 2 ^ k % 32 := by
  apply Nat.eq_of_testBit_eq
  intro i
  rw [show (32 : ℕ) = 2 ^ 5 from rfl]
  simp only [Nat.testBit_mod_two_pow, Nat.testBit_div_two_pow]
  rcases Nat.lt_or_ge i 5 with hi | hi
  · simp [hi, show i + k < 64 by omega]
  · simp [show ¬ i < 5 by omega]

/-- The state after the bytes `p`. -/
structure Read (p : Binary) (s : Base32State) : Prop where
  bits : s.bits.toNat = toNatBE p % 2 ^ 64
  bitCount : s.bitCount = 8 * p.length % 5
  out : s.out = (List.range (8 * p.length / 5)).map fun i =>
    base32Digit (toNatBE p / 2 ^ (8 * p.length - 5 * (i + 1)) % 32)

theorem Read.nil : Read [] {} where
  bits := rfl
  bitCount := rfl
  out := rfl

theorem Read.step {p : Binary} {s : Base32State} (h : Read p s) (b : UInt8) :
    Read (p ++ [b]) (base32Step s b) := by
  have hbits := toNat_accumulate h.bits b
  have hcount := h.bitCount
  have hwritten := writeDigits_eq s.out ((s.bits <<< 8) ||| BitVec.ofNat 64 b.toNat)
    (s.bitCount + 8) (by omega)
  refine ⟨?_, ?_, ?_⟩
  · rw [toNatBE_concat]
    exact hbits
  · show (writeDigits _ _ _).2 = _
    rw [hwritten, List.length_append, List.length_singleton]
    omega
  · show (writeDigits _ _ _).1 = _
    have hb : b.toNat < 256 := b.toNat_lt
    rw [hwritten, hbits, toNatBE_concat, List.length_append, List.length_singleton, h.out]
    dsimp only
    rw [show 8 * (p.length + 1) / 5 = 8 * p.length / 5 + (s.bitCount + 8) / 5 by omega,
      List.range_add, List.map_append, List.map_map]
    refine congrArg₂ _ (List.map_congr_left fun i hi => ?_) (List.map_congr_left fun i hi => ?_)
    · -- a digit written before stands 8 bits higher
      have hi := List.mem_range.1 hi
      rw [show 8 * (p.length + 1) - 5 * (i + 1)
        = 8 + (8 * p.length - 5 * (i + 1)) by omega, pow_add,
        ← Nat.div_div_eq_div_mul, show (toNatBE p * 256 + b.toNat) / 2 ^ 8 = toNatBE p by omega]
    · -- a new digit is among the last bits, which the accumulator has
      have hi := List.mem_range.1 hi
      rw [Function.comp_apply,
        show 8 * (p.length + 1) - 5 * (8 * p.length / 5 + i + 1) = s.bitCount + 8 - 5 * (i + 1)
          by omega]
      rw [div_mod_of_mod _ (by omega)]

theorem read_foldl (data : Binary) : Read data (data.foldl base32Step {}) := by
  induction data using List.reverseRecOn with
  | nil => exact Read.nil
  | append_singleton data b ih =>
    rw [List.foldl_append]
    exact ih.step b

theorem codeUnitAt_shiftLeft {bits : BitVec 64} {v : ℕ} (h : bits.toNat = v % 2 ^ 64) (k : ℕ) :
    base32CodeUnitAt ((bits <<< k) &&& 0x1f) = base32Digit (v * 2 ^ k % 32) := by
  have hshift := codeUnitAt_sshiftRight (bits <<< k) (k := 0) (by decide)
  rw [BitVec.sshiftRight_zero] at hshift
  rw [hshift, BitVec.toNat_shiftLeft, h, Nat.shiftLeft_eq, pow_zero, Nat.div_one,
    Nat.mod_mod_of_dvd _ (by decide : 32 ∣ 2 ^ 64), Nat.mul_mod, Nat.mod_mod_of_dvd _ (by decide),
    ← Nat.mul_mod]

/-- Base 32 with its digits divided by powers of two. -/
theorem encode32_eq (b : Binary) : encode32 b =
    (List.range ((8 * b.length + 4) / 5)).map fun i => base32Digit
      (toNatBE b * 2 ^ (5 * ((8 * b.length + 4) / 5) - 8 * b.length) /
        2 ^ (5 * ((8 * b.length + 4) / 5 - 1 - i)) % 32) := by
  refine List.map_congr_left fun i _ => ?_
  rw [show (32 : ℕ) = 2 ^ 5 from rfl, ← pow_mul]

/-- **The app writes base 32**: no bit is lost before it is written, whatever the length. -/
theorem base32NoPad_eq (data : Binary) : base32NoPad data = encode32 data := by
  have h := read_foldl data
  rw [base32NoPad, encode32_eq]
  generalize data.foldl base32Step {} = s at h ⊢
  have hcount := h.bitCount
  split_ifs with hpos
  · rw [show (8 * data.length + 4) / 5 = 8 * data.length / 5 + 1 by omega, List.range_succ,
      List.map_append, List.map_singleton, h.out, codeUnitAt_shiftLeft h.bits]
    refine congrArg₂ _ (List.map_congr_left fun i hi => ?_) ?_
    · -- the zero bits at the end are divided away
      have hi := List.mem_range.1 hi
      rw [show 5 * (8 * data.length / 5 + 1 - 1 - i) =
          5 * (8 * data.length / 5 + 1) - 8 * data.length +
            (8 * data.length - 5 * (i + 1)) by omega,
        pow_add, ← Nat.div_div_eq_div_mul, Nat.mul_div_cancel _ (Nat.two_pow_pos _)]
    · rw [show 5 * (8 * data.length / 5 + 1 - 1 - 8 * data.length / 5) = 0 by omega, pow_zero,
        Nat.div_one, show 5 * (8 * data.length / 5 + 1) - 8 * data.length = 5 - s.bitCount by omega]
  · rw [show (8 * data.length + 4) / 5 = 8 * data.length / 5 by omega, h.out,
      show 5 * (8 * data.length / 5) - 8 * data.length = 0 by omega, pow_zero, Nat.mul_one]
    refine List.map_congr_left fun i hi => ?_
    have hi := List.mem_range.1 hi
    rw [show 5 * (8 * data.length / 5 - 1 - i) = 8 * data.length - 5 * (i + 1) by omega]

/-! ### Agreement -/

/-- What the codecs of the three languages have to do with each other. -/
structure CodecsAgree : Prop where
  /-- The app's base 32 is that of RFC 4648, in lower case and without padding. -/
  base32 : ∀ data : Binary, base32NoPad data = encode32 data
  /-- All writers of base 58 write the same. -/
  writers : ∀ data : Binary, DidElix.base58btc data = base58btc data ∧
    base58BtcEncode data = base58btc data ∧ Vc.base58BTCEncode data = base58btc data
  /-- The issuer reads back what they write. -/
  issuerReads : ∀ data : Binary, Vc.base58BTCDecode (base58btc data) = some data
  /-- The relay, whose reader is one of signatures, reads back 64 bytes and refuses others. -/
  relayReads : ∀ data : Binary,
    VpVerifier.decodeBase58btcSignature (.str (String.ofList ('z' :: base58btc data))) =
      if data.length = 64 then some (String.ofList (encode16 data)) else none
  /-- Another text is refused by the issuer. -/
  issuerRefuses : ∀ encoded : Text, (∀ data, base58btc data ≠ encoded) →
    Vc.base58BTCDecode encoded = none
  /-- Another text is refused by the relay. -/
  relayRefuses : ∀ v : String, (∀ data, String.ofList ('z' :: base58btc data) ≠ v) →
    VpVerifier.decodeBase58btcSignature (.str v) = none

/-- **The codecs of the three languages agree.**  Each writer and reader is shown equal to one
conversion of numbers between bases, and for that reading inverts writing. -/
theorem codecs_agree : CodecsAgree where
  base32 := base32NoPad_eq
  writers data := by
    rw [DidElix.base58btc_eq, base58BtcEncode_eq, Vc.base58BTCEncode_eq, base58btc_eq]
    exact ⟨rfl, rfl, rfl⟩
  issuerReads data := by
    rw [base58btc_eq, Vc.base58BTCDecode_eq, Base58.decode_encode]
  relayReads data := by
    rw [base58btc_eq, VpVerifier.decodeBase58btcSignature_encode]
  issuerRefuses encoded h := by
    rw [Vc.base58BTCDecode_eq, Option.eq_none_iff_forall_ne_some]
    intro data hdecode
    refine h data ?_
    rw [base58btc_eq, Base58.encode_of_decode hdecode]
  relayRefuses v h := by
    rw [Option.eq_none_iff_forall_ne_some]
    intro signatureHex hdecode
    obtain ⟨data, -, -, hv⟩ := VpVerifier.encode_of_decodeBase58btcSignature hdecode
    refine h data ?_
    rw [base58btc_eq, hv]

/-- A text of one byte is no signature, and the relay does not read it. -/
theorem relay_refuses_byte : ¬ ∀ data : Binary,
    VpVerifier.decodeBase58btcSignature (.str (String.ofList ('z' :: DidElix.base58btc data))) =
      some (String.ofList (encode16 data)) := by
  intro h
  have h := h [1]
  rw [DidElix.base58btc_eq, VpVerifier.decodeBase58btcSignature_encode] at h
  cases h

end Client

end Ansible
