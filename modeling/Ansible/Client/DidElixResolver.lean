import Ansible.Client.IdentityAnchor
import Ansible.Lib.DartJson
import Ansible.Relay.FederatedResolver

/-!
# The resolver of the app

The app resolves a `did:elix` from the chain that a relay serves.  Every object is read into a
record, and everything is checked against the records: the derivation of the DID, the content
identifiers, the links, the signatures and the authority of each transition.

The primitives are those of the platform.  A `P-256` key goes to the native verifier of the
device, any other key to the Rust core, and Ed25519 to a package that throws on keys and
signatures of a wrong length.

## Main definitions

* `Client.verifySignature` — `_verifySignature`, `none` where it throws.
-/

namespace Ansible

namespace Client

/-- What `String.trim` removes: white space and the byte order mark. -/
def isTrimmed (c : Char) : Bool := isWhiteSpace c || c.toNat == 0xFEFF

/-! ### Signatures -/

/-- `Ed25519Keys.verify` -/
def ed25519KeysVerify (P : Platform) (publicKeyHex : String) (message : Text)
    (sigHex : String) : Option Bool := do
  let key ← unhexText publicKeyHex
  let sig ← unhexText sigHex
  if key.length = 32 ∧ sig.length = 64 then return P.ed25519Verify key message.utf8 sig else none

/-- `HardwareIdentityKey.verify`: the native verifier answers `false` to what it cannot read. -/
def hardwareIdentityKeyVerify (P : Platform) (publicKeyHex : String) (message : Text)
    (signatureHex : String) : Bool :=
  match decode16 (bytes publicKeyHex), decode16 (bytes signatureHex) with
  | some key, some sig => P.p256Verify key message.utf8 sig
  | _, _ => false

/-- `DidSigner.verify` -/
def didSignerVerify (P : Platform) (publicKeyHex : String) (message : Text)
    (signatureHex : String) : Bool :=
  if (chars publicKeyHex).length = 130 ∧ (chars publicKeyHex).take 2 = ['0', '4'] then
    hardwareIdentityKeyVerify P publicKeyHex message signatureHex
  else SigVerifier.verifyEd25519 P publicKeyHex message signatureHex

/-- `_verifySignature` -/
def verifySignature (P : Platform) (algorithm publicKeyHex : String) (message : Text)
    (signatureHex : String) : Option Bool :=
  if signatureHex = "" then some false
  else if algorithm = "ed25519" then ed25519KeysVerify P publicKeyHex message signatureHex
  else if algorithm = "p256-sha256" then
    some (didSignerVerify P publicKeyHex message signatureHex)
  else some false

/-! ### The structure of a chain -/

/-- `_sameCommitment` -/
def sameCommitment (expected actual : Json) : Bool :=
  ["method", "method_version", "genesis_key", "genesis_nonce"].all fun k =>
    (expected.fetch k).eqv (actual.fetch k)

/-- The commitment of an anchor of version 4 derives its DID; the genesis holds its key and a
successor repeats it.  What throws is invalid. -/
def commitmentValid (P : Platform) (v1Commitment : Option Json) (isGenesis : Bool)
    (anchor : IdentityAnchor) : Option Json := do
  let commitment ← anchor.genesisCommitment
  if ((commitment.fetch "method").eqv (.str "did:elix") &&
      (commitment.fetch "method_version").eqv (.int 1)) = true then
    let key ← asStringOrNull (commitment.fetch "genesis_key")
    let nonce ← asStringOrNull (commitment.fetch "genesis_nonce")
    let did ← deriveDidElixV1 P (key.getD "") (nonce.getD "")
    if did = anchor.did ∧ (isGenesis = true → key = some anchor.identityKey) ∧
        v1Commitment.all (sameCommitment · commitment) = true then
      return v1Commitment.getD commitment
    else none
  else none

/-- The link of an anchor to the one before it, in front of a genesis to nothing. -/
def linkValid (P : Platform) (previous : Option IdentityAnchor) (anchor : IdentityAnchor) :
    Option Bool :=
  match previous with
  | none => some (anchor.reason = .initial && anchor.prevAnchorCid.isNone)
  | some p =>
    match anchor.prevAnchorCid with
    | none => some false
    | some prev => (p.computeCid P).map fun cid => prev == cid

/-- `IdentityAnchorChain.verify` from an anchor on. -/
def chainValidFrom (P : Platform) : Option IdentityAnchor → Option Json → List IdentityAnchor →
    Option Bool
  | _, _, [] => some true
  | previous, v1Commitment, anchor :: rest => do
    if 4 < anchor.schemaVersion then return false
    let v1Commitment ←
      if 4 ≤ anchor.schemaVersion then
        some ((commitmentValid P v1Commitment previous.isNone anchor).map some)
      else if v1Commitment.isSome = true then some none
      else some (some none)
    match v1Commitment with
    | none => return false
    | some v1Commitment =>
      if (chars anchor.sig).all isTrimmed = true then return false
      if ← linkValid P previous anchor then chainValidFrom P (some anchor) v1Commitment rest
      else return false

/-- `IdentityAnchorChain.verify` -/
def chainValid (P : Platform) (anchors : List IdentityAnchor) : Option Bool :=
  if anchors = [] then some false else chainValidFrom P none none anchors

/-! ### The resolver -/

/-- `_genesisMatches` -/
def genesisMatches (P : Platform) (did : String) (genesis : IdentityAnchor) : Option Bool :=
  if 4 ≤ genesis.schemaVersion then
    match genesis.genesisCommitment with
    | none => some false
    | some commitment =>
      if ((commitment.fetch "method").eqv (.str "did:elix") &&
          (commitment.fetch "method_version").eqv (.int 1) &&
          (commitment.fetch "genesis_key").eqv (.str genesis.identityKey)) = true then do
        let key ← asStringOrNull (commitment.fetch "genesis_key")
        let nonce ← asStringOrNull (commitment.fetch "genesis_nonce")
        let derived ← deriveDidElixV1 P (key.getD "") (nonce.getD "")
        return derived == did
      else some false
  else
    some (DidElix.derive P genesis.identityKey genesis.handle genesis.custodyClass.storageValue
      genesis.identityKeyAlgorithm == did)

/-- The signatures of all devices verify. -/
def devicesAttested (P : Platform) (algorithm key : String) :
    List AnchorDeviceRecord → Option Bool
  | [] => some true
  | d :: ds => do
    if ← verifySignature P algorithm key d.attestationMessage d.attestationSig then
      devicesAttested P algorithm key ds
    else return false

/-- `_verifyAnchor` -/
def verifyAnchor (P : Platform) (anchor : IdentityAnchor) : Option Bool := do
  let body ← anchor.canonicalBodyJson
  if ← verifySignature P anchor.identityKeyAlgorithm anchor.identityKey body anchor.sig then
    devicesAttested P anchor.identityKeyAlgorithm anchor.identityKey anchor.devices
  else return false

/-- Some device signed the text. -/
def deviceSigned (P : Platform) (body : Text) (authorization : String) :
    List AnchorDeviceRecord → Option Bool
  | [] => some false
  | d :: ds => do
    if ← verifySignature P "ed25519" d.deviceKey body authorization then return true
    else deviceSigned P body authorization ds

def reasonMatches (previous current : IdentityAnchor) : Bool :=
  let sameKey := previous.identityKeyAlgorithm == current.identityKeyAlgorithm &&
    previous.identityKey == current.identityKey
  match current.reason with
  | .initial => false
  | .rotation => !sameKey
  | .recovery => decide (current.schemaVersion < 4) || !sameKey
  | .deviceChange => sameKey && previous.custodyClass == current.custodyClass

/-- `_verifyTransition` -/
def verifyTransition (P : Platform) (previous current : IdentityAnchor)
    (authorization : Option String) : Option Bool :=
  match authorization with
  | none => some false
  | some "" => some false
  | some authorization =>
    if reasonMatches previous current = false then some false
    else do
      let body ← current.canonicalBodyJson
      if ← verifySignature P previous.identityKeyAlgorithm previous.identityKey body
          authorization then return true
      else if current.reason = .rotation then return false
      else deviceSigned P body authorization previous.devices

/-- The identifier that a relay served with an anchor, where it is a text. -/
def cidMatches (P : Platform) (anchor : IdentityAnchor) (raw : Json) : Option Bool :=
  match raw.fetch "anchor_cid" with
  | .str servedCid => (anchor.computeCid P).map fun cid => servedCid == cid
  | _ => some true

/-- After a genesis with a commitment every anchor is of version 4 and repeats it. -/
def commitmentRepeated (commitment : Option Json) (anchor : IdentityAnchor) : Bool :=
  commitment.all fun c =>
    anchor.schemaVersion == 4 && anchor.genesisCommitment.any (sameCommitment c)

/-- The signature that authorises a successor. -/
def authorizationOf (anchor : IdentityAnchor) (raw : Json) : Option (Option String) :=
  if anchor.reason = .recovery then asStringOrNull (raw.fetch "recovery_proof")
  else some anchor.deviceSig

/-- The loop of `_verifiedChain` from an anchor on. -/
def verifiedFrom (P : Platform) (commitment : Option Json) :
    Option IdentityAnchor → List (IdentityAnchor × Json) → Option Bool
  | _, [] => some true
  | previous, (anchor, raw) :: rest => do
    if !(← cidMatches P anchor raw) then return false
    if !commitmentRepeated commitment anchor then return false
    if !(← verifyAnchor P anchor) then return false
    match previous with
    | none => verifiedFrom P commitment (some anchor) rest
    | some p =>
      if ← verifyTransition P p anchor (← authorizationOf anchor raw) then
        verifiedFrom P commitment (some anchor) rest
      else return false

/-- `_verifiedChain` -/
def verifiedChain (P : Platform) (did : String) (anchors : List IdentityAnchor)
    (rawAnchors : List Json) : Option Bool :=
  match anchors with
  | [] => some false
  | genesis :: _ => do
    if anchors.length ≠ rawAnchors.length then return false
    if !(← chainValid P anchors) then return false
    if anchors.any (fun anchor => anchor.did != did) = true then return false
    if !(← genesisMatches P did genesis) then return false
    verifiedFrom P genesis.genesisCommitment none (anchors.zip rawAnchors)

/-- The objects of a response are maps, are read and are verified. -/
def resolvesChain (P : Platform) (toUtc : ℤ → ℤ) (did : String) (objects : List Json) : Bool :=
  if objects.all Json.isObj = true then
    match objects.mapM (IdentityAnchor.fromMap toUtc) with
    | none => false
    | some anchors => verifiedChain P did anchors objects == some true
  else false

end Client

end Ansible
