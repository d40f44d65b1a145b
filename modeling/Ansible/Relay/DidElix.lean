import Ansible.Relay.SigVerifier

/-!
# `did:elix` derivation

A legacy identifier commits to an identity key with its handle and custody class, a
v1 identifier to a genesis key with a nonce.  Each derivation hashes a fixed text;
every such text is the compact JSON of an object whose members stand in the
normative order.

## Main definitions

* `DidElix.derive`, `DidElix.deriveV1` — the two derivations.
* `DidElix.matchesV1` — a well-formed commitment derives the identifier.
* `DidElix.registrationPayload` — the text a v1 registration signs.

## Main results

* `DidElix.matchesV1_iff` — what a matching commitment establishes.
* `DidElix.fetch_of_validate` — a valid commitment names its key and nonce.
-/

namespace Ansible

namespace DidElix

/-- The stable fingerprint of a legacy identity. -/
def fingerprint (identityKey handle custodyClass algorithm : String) : Text :=
  if algorithm = "ed25519" then
    Json.encode (.obj [("method", .str "did:elix"), ("v", .int 1),
      ("identity_key", .str identityKey), ("handle", .str handle),
      ("custody_class", .str custodyClass)])
  else
    Json.encode (.obj [("method", .str "did:elix"), ("v", .int 2),
      ("identity_key", .str identityKey), ("identity_key_algorithm", .str algorithm),
      ("handle", .str handle), ("custody_class", .str custodyClass)])

def derive (P : Platform) (identityKey handle custodyClass algorithm : String) : String :=
  let suffix :=
    encode32 ((P.sha256 (fingerprint identityKey handle custodyClass algorithm).utf8).take 16)
  String.ofList (chars "did:elix:" ++ suffix)

/-- A v1 commitment with its members in the normative order. -/
def canonicalCommitment (commitment : Json) : Json :=
  .obj [("method", .str "did:elix"), ("method_version", .int 1),
    ("genesis_key", (commitment.fetch "genesis_key").orElse .null),
    ("genesis_nonce", (commitment.fetch "genesis_nonce").orElse .null)]

def canonicalV1Commitment (commitment : Json) : Text :=
  Json.encode (canonicalCommitment commitment)

/-- `\A(?:[0-9a-f]{64}|04[0-9a-f]{128})\z` -/
def isGenesisKey (key : String) : Bool :=
  let b := bytes key
  (b.length == 64 && b.all isLowerHex) ||
    (b.length == 130 && b.take 2 == bytes "04" && (b.drop 2).all isLowerHex)

/-- `\A[0-9a-f]{64}\z` -/
def isHex64 (s : String) : Bool := (bytes s).length == 64 && (bytes s).all isLowerHex

/-- All the fields of a v1 commitment and no others. -/
def validateV1Commitment (commitment : Json) : Bool :=
  let allowed := ["method", "method_version", "genesis_key", "genesis_nonce"]
  commitment.isObj &&
  (allowed.all (commitment.keys.contains ·) && commitment.keys.all (allowed.contains ·)) &&
  (commitment.fetch "method").eqv (.str "did:elix") &&
  (commitment.fetch "method_version").eqv (.int 1) &&
  (match commitment.fetch "genesis_key" with
    | .str key => isGenesisKey key
    | _ => false) &&
  (match commitment.fetch "genesis_nonce" with
    | .str nonce => isHex64 nonce
    | _ => false)

def deriveV1 (P : Platform) (commitment : Json) : Option String :=
  if validateV1Commitment commitment then
    some (String.ofList (chars "did:elix:z" ++
      encode32 (P.sha256 (canonicalV1Commitment commitment).utf8)))
  else none

def matchesV1 (P : Platform) (did : String) (commitment : Json) : Bool :=
  deriveV1 P commitment == some did

/-- The proof of a v1 registration, signed by the genesis key. -/
def registrationPayload (nonce did : Json) (commitment : Json) : Text :=
  Json.encode (.obj [("type", .str "io.trisaura.identity.registration"), ("version", .int 1),
    ("nonce", nonce), ("did", did), ("genesis_commitment", canonicalCommitment commitment)])

/-! ### What a valid commitment holds -/

theorem isObj_of_validate {c : Json} (h : validateV1Commitment c = true) : c.isObj = true := by
  simp only [validateV1Commitment, Bool.and_eq_true] at h
  exact h.1.1.1.1.1

/-- A valid commitment names its key and nonce as texts. -/
theorem fetch_of_validate {c : Json} (h : validateV1Commitment c = true) :
    ∃ key nonce, c.fetch "genesis_key" = .str key ∧ isGenesisKey key = true ∧
      c.fetch "genesis_nonce" = .str nonce ∧ isHex64 nonce = true := by
  simp only [validateV1Commitment, Bool.and_eq_true] at h
  obtain ⟨⟨-, hk⟩, hn⟩ := h
  split at hk
  · next key hkey =>
    split at hn
    · next nonce hnonce => exact ⟨key, nonce, hkey, hk, hnonce, hn⟩
    · cases hn
  · cases hk

theorem matchesV1_iff {P : Platform} {did : String} {c : Json} :
    matchesV1 P did c = true ↔ validateV1Commitment c = true ∧
      did = String.ofList (chars "did:elix:z" ++
        encode32 (P.sha256 (canonicalV1Commitment c).utf8)) := by
  rw [matchesV1, deriveV1, beq_iff_eq]
  split
  · next h => simp [h, eq_comm]
  · next h => simp [h]

end DidElix

end Ansible
