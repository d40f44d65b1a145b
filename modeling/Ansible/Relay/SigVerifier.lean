import Ansible.Lib.Base
import Ansible.Lib.Json

/-!
# Platform, configuration and signature verification

The cryptographic primitives are a parameter: a hash of 32 bytes and the two
verification functions.  The relay reads keys and signatures as hexadecimal text
and hands their bytes over.

## Main definitions

* `Platform` — the primitives of the runtime.
* `SigVerifier.verifyIdentity` — verification by a negotiated algorithm.
* `IdentityWritePolicy.allowed` — the algorithms accepted for identity writes.
* `Platform.toy` — a platform on which runs can be computed.

## Main results

* `SigVerifier.isBlank_of_verifyIdentity` — a signature that verifies is not blank.
-/

namespace Ansible

/-- The primitives the relay calls: `:crypto.hash/2`, the Ed25519 verifier and
`:crypto.verify/5` for ECDSA on P-256, each on raw bytes. -/
structure Platform where
  sha256 : Binary → Binary
  sha256_length : ∀ b, (sha256 b).length = 32
  /-- Public key, message, signature. -/
  ed25519Verify : Binary → Binary → Binary → Bool
  /-- Public key, message, signature. -/
  p256Verify : Binary → Binary → Binary → Bool

/-- The application environment of the relay, with the defaults of its readers. -/
structure Config where
  identityWriteAlgorithms : List String := ["p256-sha256"]
  identityRecoveryGraceSeconds : ℤ := 259200
  identityHandleDomain : String := "elix.cool"
  allowDevIdentitySignatures : Bool := false
  persistDidAccounts : Bool := true
  didAccountCacheTtlSeconds : ℤ := 7776000
  didCacheTtlSeconds : ℤ := 7776000

/-- The surroundings of a request: primitives and configuration. -/
structure Env extends Platform, Config

/-! ### A platform that computes -/

/-- The last bytes of a message, in reverse. -/
def toyHash (message : Binary) : Binary := (message.reverse ++ List.replicate 32 0).take 32

theorem length_toyHash (message : Binary) : (toyHash message).length = 32 := by simp [toyHash]

/-- A platform for worked examples: a signature repeats the key and the hash. -/
def Platform.toy : Platform where
  sha256 := toyHash
  sha256_length := length_toyHash
  ed25519Verify key message sig := sig == key ++ toyHash message
  p256Verify key message sig := sig == key.take 36 ++ toyHash message

/-- The toy platform under the default configuration. -/
def Env.toy : Env where
  toPlatform := .toy

def toyKey (n : UInt8) : Binary := 4 :: List.replicate 64 n

def toyKeyHex (n : UInt8) : String := String.ofList (encode16 (toyKey n))

/-- The signature of a message by a key of the toy platform. -/
def toySign (n : UInt8) (message : Text) : String :=
  String.ofList (encode16 ((toyKey n).take 36 ++ toyHash message.utf8))

/-- An instant, in microseconds since 1970. -/
abbrev Time := ℤ

/-- A number of seconds as a difference of instants. -/
def seconds (n : ℤ) : Time := n * 1000000

namespace SigVerifier

/-- Hexadecimal text of exactly `n` bytes. -/
def decodeHex (hex : String) (n : ℕ) : Option Binary :=
  if (bytes hex).length = 2 * n then decode16 (bytes hex) else none

def verifyEd25519 (P : Platform) (publicKeyHex : String) (message : Text)
    (signatureHex : String) : Bool :=
  match decodeHex publicKeyHex 32, decodeHex signatureHex 64 with
  | some key, some sig => P.ed25519Verify key message.utf8 sig
  | _, _ => false

/-- A P-256 key is an uncompressed point, a signature is DER of 68 to 72 bytes. -/
def verifyP256 (P : Platform) (publicKeyHex : String) (message : Text)
    (signatureHex : String) : Bool :=
  match decodeHex publicKeyHex 65, decode16 (bytes signatureHex) with
  | some key, some sig =>
    key.head? == some 4 && 68 ≤ sig.length && sig.length ≤ 72 &&
      P.p256Verify key message.utf8 sig
  | _, _ => false

def verifyIdentity (P : Platform) (algorithm publicKeyHex : String) (message : Text)
    (signatureHex : String) : Bool :=
  if algorithm = "ed25519" then verifyEd25519 P publicKeyHex message signatureHex
  else if algorithm = "p256-sha256" then verifyP256 P publicKeyHex message signatureHex
  else false

/-- A signature that verifies is not blank. -/
theorem isBlank_of_verifyIdentity {P : Platform} {algorithm key sig : String} {message : Text}
    (h : verifyIdentity P algorithm key message sig = true) : isBlank sig = false := by
  unfold verifyIdentity at h
  split at h
  · unfold verifyEd25519 decodeHex at h
    split at h
    · next k c hk hc =>
      split at hc
      · next hlen =>
        cases c with
        | nil =>
          have := length_decode16 hc
          rw [hlen, List.length_nil] at this
          cases this
        | cons x c => exact isBlank_of_decode16 hc
      · cases hc
    · cases h
  · split at h
    · unfold verifyP256 at h
      split at h
      · next k c hk hc =>
        cases c with
        | nil => simp at h
        | cons x c => exact isBlank_of_decode16 hc
      · cases h
    · cases h

end SigVerifier

namespace IdentityWritePolicy

def allowed (c : Config) : Json → Bool
  | .str algorithm => algorithm ∈ c.identityWriteAlgorithms
  | _ => false

end IdentityWritePolicy

end Ansible
