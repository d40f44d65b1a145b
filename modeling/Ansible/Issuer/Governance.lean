import Ansible.Issuer.HostedModel
import Ansible.Lib.Base

/-!
# Root signatures

Administrators approve with purpose-specific root keys in hardware.  Governance
is the boundary between the requests and the store: it looks the administrator up
and verifies a P-256 signature over the message that the request presents.

## Main definitions

* `Crypto` — the primitives of the Go runtime; `Crypto.toy` and `Crypto.tiny` compute.
* `verifyAdministratorSignature` — a signature by an administrator's root key.
* `Governance.approveDelegation` — an approval that is verified before it is stored.
-/

namespace Ansible.Hosted

/-- The primitives: SHA-256, the points of P-256 and ECDSA verification of a digest. -/
structure Crypto where
  sha256 : Binary → Binary
  /-- Whether an uncompressed point is on the curve. -/
  onCurve : Binary → Bool
  /-- Public key, digest, signature. -/
  verifyASN1 : Binary → Binary → Binary → Bool

/-- Primitives for worked examples: a signature repeats the key and the message. -/
def Crypto.toy : Crypto where
  sha256 := id
  onCurve _ := true
  verifyASN1 key digest signature := signature == key ++ digest

/-- Primitives for worked examples with long texts: every digest is one byte. -/
def Crypto.tiny : Crypto := { Crypto.toy with sha256 := fun _ => [0] }

/-- A root key of the worked examples. -/
def toyRoot (n : UInt8) : Binary := 4 :: List.replicate 64 n

/-- An administrator of the worked examples. -/
def toyAdministrator (did : String) (n : UInt8) : Administrator :=
  { did, role := "administrator", state := "active", signingAlgorithm := "p256-sha256",
    publicKeyHex := String.ofList (encode16 (toyRoot n)), custody := "hardware" }

/-- A signature over the message by the administrator's root key. -/
def verifyRootSignature (C : Crypto) (admin : Administrator) (message signature : Binary) :
    Except StoreError Unit :=
  if admin.signingAlgorithm ≠ "p256-sha256" then .error .other
  else match decode16 (bytes admin.publicKeyHex) with
    | none => .error .delegationInvalid
    | some key =>
      if key.length ≠ 65 ∨ key.head? ≠ some 4 ∨ ¬ C.onCurve key then .error .delegationInvalid
      else if C.verifyASN1 key (C.sha256 message) signature then .ok ()
      else .error .other

/-- Root keys count in hardware only. -/
def verifyAdministratorSignature (C : Crypto) (admin : Administrator)
    (message signature : Binary) : Except StoreError Unit :=
  if admin.custody ≠ "hardware" then .error .other
  else verifyRootSignature C admin message signature

/-- The enrolled administrator with the DID, when active. -/
def activeAdministrator (admins : List Administrator) (adminDID : String) :
    Option Administrator :=
  admins.find? fun a => a.did == adminDID && a.state == "active"

namespace Governance

variable {σ : Type} (C : Crypto) (S : StoreOps σ)

/-- The signature of an active administrator over an administrative intent. -/
def verifyAdministratorIntent (tenantID adminDID : String) (message signature : Binary) (s : σ) :
    Except StoreError Unit := do
  let admins ← S.administrators tenantID s
  match activeAdministrator admins adminDID with
  | none => .error .delegationInvalid
  | some admin => verifyAdministratorSignature C admin message signature

/-- Record an approval whose signature verifies over the payload that comes with it. -/
def approveDelegation (tenantID delegationID adminDID : String)
    (canonicalPayload signature : Binary) (s : σ) : Out σ Unit :=
  match S.administrators tenantID s with
  | .error e => (.error e, s)
  | .ok admins =>
    match activeAdministrator admins adminDID with
    | none => (.error .delegationInvalid, s)
    | some admin =>
      match verifyAdministratorSignature C admin canonicalPayload signature with
      | .error e => (.error e, s)
      | .ok () => S.approveDelegation tenantID delegationID adminDID signature s

variable {C S}

/-- An approval either leaves the store as it is or is one of the store's. -/
theorem approveDelegation_cases (C : Crypto) (S : StoreOps σ)
    (tenantID delegationID adminDID : String) (payload signature : Binary) (s : σ) :
    (approveDelegation C S tenantID delegationID adminDID payload signature s).2 = s ∨
    ∃ admins admin, S.administrators tenantID s = .ok admins ∧
      activeAdministrator admins adminDID = some admin ∧
      verifyAdministratorSignature C admin payload signature = .ok () ∧
      approveDelegation C S tenantID delegationID adminDID payload signature s =
        S.approveDelegation tenantID delegationID adminDID signature s := by
  unfold approveDelegation
  split
  · exact .inl rfl
  · rename_i admins hadmins
    split
    · exact .inl rfl
    · rename_i admin hadmin
      split
      · exact .inl rfl
      · rename_i hverify
        exact .inr ⟨admins, admin, hadmins, hadmin, hverify, rfl⟩

end Governance

theorem of_activeAdministrator {admins : List Administrator} {adminDID : String}
    {admin : Administrator} (h : activeAdministrator admins adminDID = some admin) :
    admin ∈ admins ∧ admin.did = adminDID ∧ admin.state = "active" := by
  have hp := List.find?_some h
  rw [Bool.and_eq_true, beq_iff_eq, beq_iff_eq] at hp
  exact ⟨List.mem_of_find?_eq_some h, hp.1, hp.2⟩

end Ansible.Hosted
