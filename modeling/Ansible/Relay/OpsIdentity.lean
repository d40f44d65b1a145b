import Ansible.Relay.IdentityCache

/-!
# The identity checks of ingestion

Before an op is stored its author must be a verified DID that has not expired, write under an
allowed algorithm, and have signed the op.  All three checks read the identity cache.

## Main definitions

* `OpsController.checkDidVerified`, `checkWriteAlgorithm`, `checkSignature` — the checks.
* `OpsController.checkIdentity` — the three of them, in order.

## Main results

* `OpsController.checkIdentity_eq_ok` — when the three checks pass.
-/

namespace Ansible

namespace OpsController

inductive IdentityRefusal
  | unverifiedDid
  | identityKeyUpgradeRequired
  | badSignature
  deriving DecidableEq, Repr

def checkDidVerified (now : Time) (did : String) (s : Relay) :
    Except IdentityRefusal Unit × Relay :=
  match IdentityCache.get now did s with
  | (some entry, s) => (if now < entry.expiresAt then .ok () else .error .unverifiedDid, s)
  | (none, s) => (.error .unverifiedDid, s)

def checkWriteAlgorithm (E : Env) (now : Time) (did : String) (s : Relay) :
    Except IdentityRefusal Unit × Relay :=
  match IdentityCache.get now did s with
  | (some entry, s) =>
    (if IdentityWritePolicy.allowed E.toConfig (.str entry.signingAlgorithm) then .ok ()
      else .error .identityKeyUpgradeRequired, s)
  | (none, s) => (.error .identityKeyUpgradeRequired, s)

def checkSignature (P : Platform) (now : Time) (did : String) (message : Text)
    (signatureHex : String) (s : Relay) : Except IdentityRefusal Unit × Relay :=
  match IdentityCache.verifySignature P now did message signatureHex s with
  | (true, s) => (.ok (), s)
  | (false, s) => (.error .badSignature, s)

/-- The checks in the order of `ingest`; those in between read other tables. -/
def checkIdentity (E : Env) (now : Time) (did : String) (message : Text) (signatureHex : String)
    (s : Relay) : Except IdentityRefusal Unit × Relay :=
  match checkDidVerified now did s with
  | (.error e, s) => (.error e, s)
  | (.ok (), s) =>
    match checkWriteAlgorithm E now did s with
    | (.error e, s) => (.error e, s)
    | (.ok (), s) => checkSignature E.toPlatform now did message signatureHex s

/-- The key by which an op would be verified. -/
def ingestKey (now : Time) (did : String) (s : Relay) : Option (String × String) :=
  (IdentityCache.get now did s).1.map fun e => (e.signingAlgorithm, e.publicKeyHex)

/-- **The checks pass when the DID has an entry that has not expired, of an allowed algorithm,
and its key verifies the signature.** -/
theorem checkIdentity_eq_ok {E : Env} {now : Time} {did : String} {message : Text} {sig : String}
    {s : Relay} : (checkIdentity E now did message sig s).1 = .ok () ↔
      ∃ e, (IdentityCache.get now did s).1 = some e ∧ now < e.expiresAt ∧
        IdentityWritePolicy.allowed E.toConfig (.str e.signingAlgorithm) = true ∧
        SigVerifier.verifyIdentity E.toPlatform e.signingAlgorithm e.publicKeyHex message sig
          = true := by
  unfold checkIdentity checkDidVerified checkWriteAlgorithm checkSignature
    IdentityCache.verifySignature
  have hget : ∀ {e}, (IdentityCache.get now did s).1 = some e →
      IdentityCache.get now did (IdentityCache.get now did s).2
        = (some e, (IdentityCache.get now did s).2) := fun h => IdentityCache.get_get h now
  generalize IdentityCache.get now did s = r at hget
  obtain ⟨_ | e, t⟩ := r
  · simp
  have hcached := hget rfl
  dsimp only at hcached ⊢
  by_cases hexp : now < e.expiresAt
  · by_cases halg : IdentityWritePolicy.allowed E.toConfig (.str e.signingAlgorithm) = true
    · cases hsig : SigVerifier.verifyIdentity E.toPlatform e.signingAlgorithm e.publicKeyHex
          message sig <;> simp [hexp, hcached, halg, hsig]
    · simp [hexp, hcached, halg]
  · simp [hexp]

end OpsController

end Ansible
