import Ansible.Lib.Der
import Ansible.Relay.SigVerifier

/-!
# Signatures of P-256 in two forms

A presentation carries its signature as two numbers of 32 bytes, which the relay turns into DER
before it verifies it.  Identities sign in DER, and the relay takes only signatures of some
lengths, while the length of a signature varies with its numbers.

## Main definitions

* `BoardVpVerifier.joseSignatureToDer` — the two numbers in DER.

## Main results

* `p256_signatures` — **so for all numbers, and a valid signature in DER is accepted exactly when
  it has at least 68 bytes.**
-/

namespace Ansible

namespace BoardVpVerifier

/-- The contents of an integer: no leading zeros, and one when the sign bit would be set. -/
def derValue (b : Binary) : Binary :=
  let stripped := b.dropWhile (· == 0)
  let unsigned := if stripped = [] then [0] else stripped
  if unsigned.headI &&& 0x80 ≠ 0 then 0 :: unsigned else unsigned

def derInteger (b : Binary) : Binary :=
  let value := derValue b
  2 :: UInt8.ofNat value.length :: value

def derSequence (value : Binary) : Binary := 48 :: UInt8.ofNat value.length :: value

/-- A signature of another length becomes the empty one. -/
def joseSignatureToDer (signature : Binary) : Binary :=
  if signature.length = 64 then
    derSequence (derInteger (signature.take 32) ++ derInteger (signature.drop 32))
  else []

/-! ### The contents of an integer -/

theorem and_0x80_ne_zero_iff (x : UInt8) : x &&& 0x80 ≠ 0 ↔ 128 ≤ x := by
  have hall : ∀ n < 256, (UInt8.ofNat n &&& 0x80 ≠ 0 ↔ 128 ≤ UInt8.ofNat n) := by decide +kernel
  have hx := hall x.toNat x.toNat_lt
  rwa [UInt8.ofNat_toNat] at hx

variable (b : Binary)

/-- What is left without the leading zeros is empty, or starts with a byte that is not zero. -/
theorem dropWhile_cases : b.dropWhile (· == 0) = [] ∨
    ∃ x l, b.dropWhile (· == 0) = x :: l ∧ x ≠ 0 := by
  induction b with
  | nil => exact .inl rfl
  | cons x b ih =>
    rw [List.dropWhile_cons]
    by_cases hx : x = 0
    · rw [if_pos (by simpa using hx)]
      exact ih
    · rw [if_neg (by simpa using hx)]
      exact .inr ⟨x, b, rfl, hx⟩

/-- The contents are those bytes, with a zero before a set sign bit; those of zero are one byte. -/
theorem derValue_cases : b.dropWhile (· == 0) = [] ∧ derValue b = [0] ∨
    ∃ x l, b.dropWhile (· == 0) = x :: l ∧ x ≠ 0 ∧
      (128 ≤ x ∧ derValue b = 0 :: x :: l ∨ x < 128 ∧ derValue b = x :: l) := by
  unfold derValue
  rcases dropWhile_cases b with hnil | ⟨x, l, hcons, hx⟩
  · rw [hnil]
    exact .inl ⟨rfl, rfl⟩
  · refine .inr ⟨x, l, hcons, hx, ?_⟩
    rw [hcons]
    dsimp only
    rw [if_neg (List.cons_ne_nil _ _)]
    by_cases hsign : 128 ≤ x
    · exact .inl ⟨hsign, if_pos ((and_0x80_ne_zero_iff x).2 hsign)⟩
    · exact .inr ⟨UInt8.not_le.1 hsign, if_neg (mt (and_0x80_ne_zero_iff x).1 hsign)⟩

theorem minimal_derValue : Der.Minimal (derValue b) = true := by
  rcases derValue_cases b with ⟨-, heq⟩ | ⟨x, l, -, hx, ⟨hsign, heq⟩ | ⟨hsign, heq⟩⟩
  · rw [heq]
    decide
  · rw [heq, Der.Minimal]
    simpa using hsign
  · rw [heq]
    cases l with
    | nil => simpa [Der.Minimal] using hsign
    | cons y l => simp [Der.Minimal, hsign, hx]

theorem toNatBE_derValue : toNatBE (derValue b) = toNatBE b := by
  rw [← toNatBE_dropWhile b]
  rcases derValue_cases b with ⟨hnil, heq⟩ | ⟨x, l, hcons, -, ⟨-, heq⟩ | ⟨-, heq⟩⟩
  · rw [heq, hnil]
    decide
  · rw [heq, hcons, toNatBE_zero_cons]
  · rw [heq, hcons]

theorem length_derValue_le : (derValue b).length ≤ b.length + 1 := by
  have hdrop : (b.dropWhile (· == 0)).length ≤ b.length := (List.dropWhile_sublist _).length_le
  rcases derValue_cases b with ⟨-, heq⟩ | ⟨x, l, hcons, -, ⟨-, heq⟩ | ⟨-, heq⟩⟩
  · rw [heq]
    exact Nat.succ_le_succ (Nat.zero_le _)
  · rw [heq, List.length_cons, ← hcons]
    exact Nat.succ_le_succ hdrop
  · rw [heq, ← hcons]
    exact Nat.le_succ_of_le hdrop

/-- **The numbers of a signature are read back as they were.** -/
theorem readPair_joseSignatureToDer {r s : Binary} (hr : r.length = 32) (hs : s.length = 32) :
    Der.readPair (joseSignatureToDer (r ++ s)) = some (toNatBE r, toNatBE s) := by
  have hlr := length_derValue_le r
  have hls := length_derValue_le s
  have htake : (r ++ s).take 32 = r := by rw [← hr, List.take_left]
  have hdrop : (r ++ s).drop 32 = s := by rw [← hr, List.drop_left]
  have hlength : (r ++ s).length = 64 := by rw [List.length_append, hr, hs]
  have hpair := Der.readPair_pair (minimal_derValue r) (minimal_derValue s) (by omega)
  rw [toNatBE_derValue, toNatBE_derValue] at hpair
  rw [joseSignatureToDer, if_pos hlength, htake, hdrop]
  exact hpair

end BoardVpVerifier

/-! ### Signatures in DER -/

theorem length_le_of_readPair {der : Binary} {r s : ℕ} (h : Der.readPair der = some (r, s))
    (hr : r < 2 ^ 256) (hs : s < 2 ^ 256) : der.length ≤ 72 := by
  obtain ⟨x, y, hx, hy, rfl, rfl, rfl⟩ := Der.exists_of_readPair h
  have hlx := Der.length_le_of_minimal (k := 32) hx (by omega)
  have hly := Der.length_le_of_minimal (k := 32) hy (by omega)
  rw [Der.length_pair]
  omega

/-- A valid signature is accepted when it is not too short. -/
theorem verifyIdentity_p256_iff {P : Platform} {publicKeyHex signatureHex : String}
    {key der : Binary} {message : Text} {r s : ℕ}
    (hkey : SigVerifier.decodeHex publicKeyHex 65 = some key) (hpoint : key.head? = some 4)
    (hhex : decode16 (bytes signatureHex) = some der) (hder : Der.readPair der = some (r, s))
    (hr : r < 2 ^ 256) (hs : s < 2 ^ 256) (hvalid : P.p256Verify key message.utf8 der = true) :
    SigVerifier.verifyIdentity P "p256-sha256" publicKeyHex message signatureHex = true ↔
      68 ≤ der.length := by
  have hshort := length_le_of_readPair hder hr hs
  rw [SigVerifier.verifyIdentity, if_neg (by decide), if_pos rfl, SigVerifier.verifyP256, hkey,
    hhex]
  dsimp only
  rw [hpoint, hvalid]
  simp only [beq_self_eq_true, Bool.true_and, Bool.and_true, Bool.and_eq_true, decide_eq_true_eq]
  exact and_iff_left hshort

/-- **All numbers become DER that decodes to them, and a valid signature in DER is accepted
exactly when it has at least 68 bytes.**  The least length is a check of the verifier of
identities, which short numbers fall below. -/
theorem p256_signatures {r s : ℕ} (hr : r < 2 ^ 256) (hs : s < 2 ^ 256) :
    Der.readPair (BoardVpVerifier.joseSignatureToDer (toBytesBE 32 r ++ toBytesBE 32 s))
        = some (r, s) ∧
      ∀ (P : Platform) (publicKeyHex signatureHex : String) (key der : Binary) (message : Text),
        SigVerifier.decodeHex publicKeyHex 65 = some key → key.head? = some 4 →
        decode16 (bytes signatureHex) = some der → Der.readPair der = some (r, s) →
        P.p256Verify key message.utf8 der = true →
        (SigVerifier.verifyIdentity P "p256-sha256" publicKeyHex message signatureHex = true ↔
          68 ≤ der.length) := by
  constructor
  · have hjose := BoardVpVerifier.readPair_joseSignatureToDer (length_toBytesBE 32 r)
      (length_toBytesBE 32 s)
    rwa [toNatBE_toBytesBE (by omega), toNatBE_toBytesBE (by omega)] at hjose
  · intro P publicKeyHex signatureHex key der message hkey hpoint hhex hder hvalid
    exact verifyIdentity_p256_iff hkey hpoint hhex hder hr hs hvalid

/-! ### Signatures of two lengths -/

/-- A platform on which one signature is valid. -/
def derOnly (der : Binary) : Platform :=
  { Platform.toy with p256Verify := fun _ _ signature => signature == der }

/-- The signature of two numbers. -/
def toyDer (r s : ℕ) : Binary :=
  BoardVpVerifier.joseSignatureToDer (toBytesBE 32 r ++ toBytesBE 32 s)

/-- Two numbers of 32 bytes. -/
theorem p256_signatures_toy :
    Der.readPair (BoardVpVerifier.joseSignatureToDer
        (toBytesBE 32 (256 ^ 31) ++ toBytesBE 32 (256 ^ 31))) = some (256 ^ 31, 256 ^ 31) ∧
      ∀ (P : Platform) (publicKeyHex signatureHex : String) (key der : Binary) (message : Text),
        SigVerifier.decodeHex publicKeyHex 65 = some key → key.head? = some 4 →
        decode16 (bytes signatureHex) = some der →
        Der.readPair der = some (256 ^ 31, 256 ^ 31) → P.p256Verify key message.utf8 der = true →
        (SigVerifier.verifyIdentity P "p256-sha256" publicKeyHex message signatureHex = true ↔
          68 ≤ der.length) :=
  p256_signatures (by decide) (by decide)

/-- A valid signature of numbers of 30 and 31 bytes is refused. -/
theorem short_signature_refused :
    Der.readPair (toyDer (256 ^ 29) (256 ^ 30)) = some (256 ^ 29, 256 ^ 30) ∧
      SigVerifier.decodeHex (toyKeyHex 1) 65 = some (toyKey 1) ∧
      (derOnly (toyDer (256 ^ 29) (256 ^ 30))).p256Verify (toyKey 1) (Text.utf8 [])
        (toyDer (256 ^ 29) (256 ^ 30)) = true ∧
      SigVerifier.verifyIdentity (derOnly (toyDer (256 ^ 29) (256 ^ 30))) "p256-sha256"
        (toyKeyHex 1) [] (String.ofList (encode16 (toyDer (256 ^ 29) (256 ^ 30)))) = false := by
  decide +kernel

end Ansible
