import Ansible.Client.IdentityAnchor
import Ansible.Lib.Base58

/-!
# The anchor flows of the app

The app builds three anchors: the first one of an identity, the rotation of a restored
identity, and the removal of a device.  Each is signed by the identity key, which signs twice
where a second authority is asked for, and is posted to the relay.

A restored identity keeps its key.  The relay has a rotation only to another key, so it
refuses every rotation that the restore flow builds.

## Main definitions

* `Client.IdentityKey`, `Client.DeviceKey` — the keys of the app.
* `Client.publishInitialAnchor`, `Client.recoverFromBackupRotation`, `Client.revokeDevice` —
  the object that each flow posts, `none` where the flow throws before.

## Main results

* `Client.submit_publishInitialAnchor`, `Client.submit_revokeDevice` — what the relay takes in
  of the other flows is the active anchor, with the key of the app.
* `Client.submit_recoverFromBackupRotation` — **a restored identity is refused, and the relay
  is left as it was.**
-/

namespace Ansible

namespace AnchorStore

/-- `get_active/1`, with the signed text that the controller adds. -/
def getActive (did : String) (s : Relay) : Except ChainError Json :=
  if s.frozen did then .error .locked
  else
    match s.activeAnchor did with
    | none => .error .notFound
    | some anchor =>
      match toObject anchor with
      | none => .error .raised
      | some object =>
        .ok (object.merge [("canonical_body", .str (String.ofList (canonicalBody object)))])

/-- The relay takes an object in as an active anchor. -/
def MakesActive (E : Env) (now : Time) (object : Json) (s : Relay) : Prop :=
  ∃ row, (submit E now object {} s).1 = .ok row ∧ row.state = .active

end AnchorStore

namespace Client

open AnchorStore

/-! ### Keys -/

/-- An identity key of the app.  Hardware signatures are randomised: the number is that of the
draw. -/
structure IdentityKey where
  publicKeyHex : String
  algorithm : String
  custodyClass : CustodyClass
  sign : ℕ → Text → String

/-- The public half of the software key of a device. -/
structure DeviceKey where
  deviceId : String
  publicKeyHex : String

namespace IdentityKey

/-- The signatures of the key verify under its public half. -/
def Genuine (P : Platform) (key : IdentityKey) : Prop :=
  ∀ draw message, SigVerifier.verifyIdentity P key.algorithm key.publicKeyHex message
    (key.sign draw message) = true

/-- The key is the one that an anchor names. -/
structure Matches (P : Platform) (key : IdentityKey) (row : Ansible.IdentityAnchor) : Prop where
  publicKeyHex : key.publicKeyHex = row.identityKey
  algorithm : key.algorithm = row.identityKeyAlgorithm
  custodyClass : key.custodyClass.storageValue = row.custodyClass
  genuine : key.Genuine P

end IdentityKey

/-! ### Aliases -/

/-- An `ArgumentError` for a key that is not of 32 bytes. -/
def encodeDidKeyEd25519 (publicKeyHex : String) : Option String := do
  let key ← SigVerifier.decodeHex publicKeyHex 32
  return String.ofList (chars "did:key:z" ++ Base58.encode (0xed :: 0x01 :: key))

def atHandle (handle : String) : String := "at://" ++ handle

def buildAlsoKnownAs (handle identityKeyHex : String) : Option (List String) := do
  let didKey ← encodeDidKeyEd25519 identityKeyHex
  return [atHandle handle, didKey]

/-! ### Signed anchors -/

/-- The attestation of a device by the identity key. -/
def AnchorDeviceRecord.attestedBy (key : IdentityKey) (d : AnchorDeviceRecord) :
    AnchorDeviceRecord :=
  { d with attestationSig := key.sign 0 d.attestationMessage }

/-- `_attestDevice` -/
def attestDevice (key : IdentityKey) (device : DeviceKey) (enrolledAt : ℤ) :
    AnchorDeviceRecord :=
  AnchorDeviceRecord.attestedBy key {
    deviceId := device.deviceId
    deviceKey := device.publicKeyHex
    custodyClass := .software
    enrolledAt
    attestationSig := "" }

/-- The body with its signatures, as it is posted. -/
def IdentityAnchor.toCanonicalMap (a : IdentityAnchor) : Option Json :=
  a.toCanonicalBody.map fun body =>
    body.merge (("sig", .str a.sig) :: a.deviceSig.toList.map fun s => ("device_sig", .str s))

/-- `_signAnchor` -/
def signAnchor (key : IdentityKey) (unsigned : IdentityAnchor) : Option IdentityAnchor :=
  unsigned.canonicalBodyJson.map fun body => { unsigned with sig := key.sign 0 body }

/-- `_signRotationAnchor`: one signature stands for the new key and for the prior one. -/
def signRotationAnchor (key : IdentityKey) (unsigned : IdentityAnchor) : Option IdentityAnchor :=
  unsigned.canonicalBodyJson.map fun body =>
    { unsigned with sig := key.sign 0 body, deviceSig := some (key.sign 0 body) }

/-! ### The first anchor -/

/-- A `StateError` for a commitment to another DID or key. -/
def checkCommitment (P : Platform) (did identityKeyHex : String) (commitment : Json) :
    Option Unit := do
  let genesisKey ← asStringOrNull (commitment.fetch "genesis_key")
  let genesisNonce ← asStringOrNull (commitment.fetch "genesis_nonce")
  let expected ← deriveDidElixV1 P (genesisKey.getD "") (genesisNonce.getD "")
  if expected = did ∧ (commitment.fetch "method").eqv (.str "did:elix") = true ∧
      (commitment.fetch "method_version").eqv (.int 1) = true ∧
      (commitment.fetch "genesis_key").eqv (.str identityKeyHex) = true then some ()
  else none

/-- The aliases of a first anchor: only an Ed25519 key has a `did:key`. -/
def initialAliases (handle : String) (key : IdentityKey) : Option (List String) :=
  if key.algorithm = "ed25519" then buildAlsoKnownAs handle key.publicKeyHex
  else some [atHandle handle]

def publishInitialAnchor (P : Platform) (did handle : String) (key : IdentityKey)
    (genesisCommitment : Option Json) (device : DeviceKey) (now : ℤ) : Option Json := do
  match genesisCommitment with
  | none => some ()
  | some commitment => checkCommitment P did key.publicKeyHex commitment
  let alsoKnownAs ← initialAliases handle key
  let anchor ← signAnchor key {
    schemaVersion := if genesisCommitment.isNone then 3 else 4
    did, handle, genesisCommitment, alsoKnownAs
    identityKey := key.publicKeyHex
    identityKeyAlgorithm := key.algorithm
    custodyClass := key.custodyClass
    devices := [attestDevice key device now]
    prevAnchorCid := none
    reason := .initial
    createdAt := now
    sig := ""
    deviceSig := none }
  anchor.toCanonicalMap

/-! ### Restoring an identity -/

/-- The aliases stay; without any they are built anew. -/
def restoredAliases (handle : String) (key : IdentityKey) (previous : IdentityAnchor) :
    Option (List String) :=
  if previous.alsoKnownAs ≠ [] then some previous.alsoKnownAs
  else buildAlsoKnownAs handle key.publicKeyHex

/-- The rotation before it is signed. -/
def rotationOf (P : Platform) (did handle : String) (key : IdentityKey) (device : DeviceKey)
    (now : ℤ) (previous : IdentityAnchor) : Option IdentityAnchor := do
  let alsoKnownAs ← restoredAliases handle key previous
  let prevAnchorCid ← previous.computeCid P
  return {
    schemaVersion := previous.schemaVersion
    did, handle, alsoKnownAs
    identityKey := key.publicKeyHex
    identityKeyAlgorithm := key.algorithm
    genesisCommitment := previous.genesisCommitment
    custodyClass := key.custodyClass
    devices := [attestDevice key device now]
    prevAnchorCid := some prevAnchorCid
    reason := .rotation
    createdAt := now
    sig := ""
    deviceSig := none }

/-- `device` is generated for the restored identity. -/
def recoverFromBackupRotation (P : Platform) (did handle : String) (key : IdentityKey)
    (device : DeviceKey) (now : ℤ) (previous : IdentityAnchor) : Option Json := do
  let unsigned ← rotationOf P did handle key device now previous
  let anchor ← signRotationAnchor key unsigned
  anchor.toCanonicalMap

/-! ### Removing a device -/

/-- The devices that stay, `none` where a `StateError` is thrown. -/
def remainingDevices (deviceId : String) (localDevice : Option DeviceKey)
    (previous : IdentityAnchor) : Option (List AnchorDeviceRecord) := do
  let localDevice ← localDevice
  if localDevice.deviceId = deviceId then none
  else if ¬ previous.devices.any (·.deviceId == localDevice.deviceId) then none
  else
    let remaining := previous.devices.filter (·.deviceId != deviceId)
    if remaining.length = previous.devices.length then none else some remaining

/-- Every device that stays is attested anew. -/
def revokeDevice (P : Platform) (did deviceId : String) (key : IdentityKey)
    (localDevice : Option DeviceKey) (now : ℤ) (previous : IdentityAnchor) : Option Json := do
  let remaining ← remainingDevices deviceId localDevice previous
  let prevAnchorCid ← previous.computeCid P
  let unsigned : IdentityAnchor := {
    schemaVersion := previous.schemaVersion
    did
    handle := previous.handle
    identityKey := key.publicKeyHex
    identityKeyAlgorithm := key.algorithm
    genesisCommitment := previous.genesisCommitment
    alsoKnownAs := previous.alsoKnownAs
    custodyClass := key.custodyClass
    devices := remaining.map (AnchorDeviceRecord.attestedBy key)
    prevAnchorCid := some prevAnchorCid
    reason := .deviceChange
    createdAt := now
    sig := ""
    deviceSig := none }
  let body ← unsigned.canonicalBodyJson
  IdentityAnchor.toCanonicalMap
    { unsigned with sig := key.sign 0 body, deviceSig := some (key.sign 1 body) }

/-! ### Acceptance -/

/-- A DID that nobody holds, derived for a key that the relay admits. -/
structure Fresh (E : Env) (s : Relay) (did handle : String) (key : IdentityKey)
    (genesisCommitment : Option Json) : Prop where
  unused : ∀ row ∈ s.identityAnchors.rows, row.did ≠ did
  unfrozen : s.frozen did = false
  unmoved : s.canonicalDid did = did
  handle_not_blank : isBlank handle = false
  genuine : key.Genuine E.toPlatform
  admitted : IdentityWritePolicy.allowed E.toConfig (.str key.algorithm) = true
  derived : match genesisCommitment with
    | none => did = DidElix.derive E.toPlatform key.publicKeyHex handle
        key.custodyClass.storageValue key.algorithm
    | some commitment => ∃ nonce, buildCommitment key.publicKeyHex nonce = some commitment ∧
        deriveDidElixV1 E.toPlatform key.publicKeyHex nonce = some did

/-- The three flows of a device with an identity key end with an active anchor: the first
anchor of a fresh DID, the restored identity, and the removal of another device.  `clock` is
the time of the device, `now` that of the relay. -/
structure FlowsAccepted (E : Env) (toUtc : ℤ → ℤ) (s : Relay) (did handle : String)
    (key : IdentityKey) (device : DeviceKey) (clock : ℤ) (now : Time) : Prop where
  initial : ∀ fresh name newKey genesisCommitment, Fresh E s fresh name newKey genesisCommitment →
    ∃ object, publishInitialAnchor E.toPlatform fresh name newKey genesisCommitment device clock
      = some object ∧ MakesActive E now object s
  recovery : ∃ served previous object, getActive did s = .ok served ∧
    IdentityAnchor.fromMap toUtc served = some previous ∧
    recoverFromBackupRotation E.toPlatform did handle key device clock previous = some object ∧
    MakesActive E now object s
  revocation : ∀ served previous deviceId, getActive did s = .ok served →
    IdentityAnchor.fromMap toUtc served = some previous →
    (remainingDevices deviceId (some device) previous).isSome →
    ∃ object, revokeDevice E.toPlatform did deviceId key (some device) clock previous
      = some object ∧ MakesActive E now object s

/-! ### What the relay reads of a posted anchor -/

/-- The members of a posted object that decide a transition. -/
structure PostedAs (a : IdentityAnchor) (object : Json) : Prop where
  schemaVersion : schemaVersion object = a.schemaVersion
  did : object.fetch "did" = .str a.did
  identityKey : object.fetch "identity_key" = .str a.identityKey
  algorithm : object.fetch "identity_key_algorithm"
    = if 3 ≤ a.schemaVersion then .str a.identityKeyAlgorithm else .null
  reason : object.fetch "reason" = .str a.reason.storageValue

variable {object : Json} {P : Platform} {handle : String} {key : IdentityKey} {device : DeviceKey}
  {clock : ℤ} {previous : IdentityAnchor}

theorem postedAs_of_toCanonicalMap {a : IdentityAnchor} (h : a.toCanonicalMap = some object) :
    PostedAs a object := by
  obtain ⟨body, hbody, rfl⟩ := Option.map_eq_some_iff.1 h
  -- neither signature has the name of a member of the body
  have hnew : ∀ k ∈ ["schema_version", "did", "identity_key", "identity_key_algorithm",
      "reason"], k ∉ (("sig", Json.str a.sig) ::
        a.deviceSig.toList.map fun s => ("device_sig", Json.str s)).map Prod.fst := by
    cases a.deviceSig <;> simp
  have hfetch := fun k hk fields => Json.fetch_merge (f := fields) (hnew k hk)
  rw [IdentityAnchor.toCanonicalBody, Option.bind_eq_bind] at hbody
  split at hbody
  all_goals
    obtain ⟨commitment, -, hfields⟩ := Option.bind_eq_some_iff.1 hbody
    cases hfields
    refine ⟨?_, ?_, ?_, ?_, ?_⟩
    · rw [AnchorStore.schemaVersion, hfetch _ (by simp)]
      rfl
    · rw [hfetch _ (by simp)]
      rfl
    · rw [hfetch _ (by simp)]
      rfl
    · rw [hfetch _ (by simp)]
      by_cases hversion : 3 ≤ a.schemaVersion <;> cases commitment <;>
        simp [hversion, Json.fetch, List.lookup]
    · rw [hfetch _ (by simp)]
      by_cases hversion : 3 ≤ a.schemaVersion <;> cases commitment <;>
        simp [hversion, Json.fetch, List.lookup]

/-- The row of an object that the relay takes in holds what the app has posted. -/
theorem PostedAs.of_accepted {E : Env} {s : Relay} {a : IdentityAnchor} {opts : SubmitOpts}
    {row : Ansible.IdentityAnchor} (h : PostedAs a object)
    (haccepted : Accepted E object opts s row) :
    row.did = a.did ∧ some row.reason = reasonOf (.str a.reason.storageValue) ∧
      row.identityKey = a.identityKey := by
  refine ⟨?_, ?_, ?_⟩
  · exact (Json.str.inj (h.did.symm.trans haccepted.did)).symm
  · rw [← h.reason, haccepted.reason]
  · exact (Json.str.inj (h.identityKey.symm.trans haccepted.identityKey)).symm

/-! ### The first anchor and the removal of a device -/

/-- What the first flow posts: an initial anchor with the key of the identity. -/
theorem publishInitialAnchor_spec {did : String} {genesisCommitment : Option Json}
    (h : publishInitialAnchor P did handle key genesisCommitment device clock = some object) :
    ∃ a, PostedAs a object ∧ a.did = did ∧ a.reason = .initial ∧
      a.identityKey = key.publicKeyHex := by
  simp only [publishInitialAnchor, Option.bind_eq_bind] at h
  -- with a commitment the DID is checked against it first
  split at h
  all_goals
    obtain ⟨-, -, h⟩ := Option.bind_eq_some_iff.1 h
    obtain ⟨aliases, -, h⟩ := Option.bind_eq_some_iff.1 h
    obtain ⟨anchor, hanchor, hobject⟩ := Option.bind_eq_some_iff.1 h
    obtain ⟨body, -, rfl⟩ := Option.map_eq_some_iff.1 hanchor
    exact ⟨_, postedAs_of_toCanonicalMap hobject, rfl, rfl, rfl⟩

/-- What the removal of a device posts: a device change with the key of the identity. -/
theorem revokeDevice_spec {did deviceId : String} {localDevice : Option DeviceKey}
    (h : revokeDevice P did deviceId key localDevice clock previous = some object) :
    ∃ a, PostedAs a object ∧ a.did = did ∧ a.reason = .deviceChange ∧
      a.identityKey = key.publicKeyHex := by
  simp only [revokeDevice, Option.bind_eq_bind, Option.bind_eq_some_iff] at h
  obtain ⟨remaining, -, cid, -, body, -, hobject⟩ := h
  exact ⟨_, postedAs_of_toCanonicalMap hobject, rfl, rfl, rfl⟩

/-- The relay refuses an object and stays as it was, or the object is the active anchor of the
DID with the key of the app, in the place of `prior`. -/
def RefusedOrActive (E : Env) (now : Time) (object : Json) (s : Relay) (did : String)
    (key : IdentityKey) (prior : Option Ansible.IdentityAnchor → Prop) : Prop :=
  (∃ e, submit E now object {} s = (.error e, s)) ∨
    ∃ row, (submit E now object {} s).1 = .ok row ∧ row.state = .active ∧ row.did = did ∧
      row.identityKey = key.publicKeyHex ∧ prior (s.activeAnchor did)

/-- **A first anchor that is taken in starts the chain of its DID.** -/
theorem submit_publishInitialAnchor (E : Env) (s : Relay) (now : Time) {did : String}
    {genesisCommitment : Option Json}
    (h : publishInitialAnchor E.toPlatform did handle key genesisCommitment device
      clock = some object) : RefusedOrActive E now object s did key fun prior => prior = none := by
  obtain ⟨a, hposted, rfl, hreason, hidentity⟩ := publishInitialAnchor_spec h
  rcases submit_cases E now object {} s with ⟨e, he, hs⟩ | ⟨row, hok, -, -, haccepted, hentered⟩
  · exact .inl ⟨e, Prod.ext he hs⟩
  obtain ⟨hdid, hinitial, hkey⟩ := hposted.of_accepted haccepted
  rw [hreason] at hinitial
  generalize (submit E now object {} s).2.identityAnchors.rows = rows at hentered
  -- the reason of the row is that of the flow
  cases hentered with
  | initial _ _ _ hnone hstate =>
    exact .inr ⟨row, hok, hstate, hdid, hkey.trans hidentity, hdid ▸ hnone⟩
  | rotation hother => rw [hother] at hinitial; cases hinitial
  | deviceChange hother => rw [hother] at hinitial; cases hinitial
  | recovery hother => rw [hother] at hinitial; cases hinitial

/-- **A removal that is taken in follows an active anchor with the same key**, so that it is the
one change which the flows of the app can make to an identity that the relay knows. -/
theorem submit_revokeDevice (E : Env) (s : Relay) (now : Time) {did deviceId : String}
    {localDevice : Option DeviceKey}
    (h : revokeDevice E.toPlatform did deviceId key localDevice clock previous = some object) :
    RefusedOrActive E now object s did key fun prior =>
      ∃ row, prior = some row ∧ row.identityKey = key.publicKeyHex := by
  obtain ⟨a, hposted, rfl, hreason, hidentity⟩ := revokeDevice_spec h
  rcases submit_cases E now object {} s with ⟨e, he, hs⟩ | ⟨row, hok, -, -, haccepted, hentered⟩
  · exact .inl ⟨e, Prod.ext he hs⟩
  obtain ⟨hdid, hchange, hkey⟩ := hposted.of_accepted haccepted
  rw [hreason] at hchange
  generalize (submit E now object {} s).2.identityAnchors.rows = rows at hentered
  cases hentered with
  | deviceChange _ hactive _ hsame _ _ hstate =>
    rw [sameKey, hposted.identityKey, hidentity, Bool.and_eq_true] at hsame
    refine .inr ⟨row, hok, hstate, hdid, hkey.trans hidentity, _, hdid ▸ hactive, ?_⟩
    exact (beq_iff_eq.1 hsame.2).symm
  | initial hother => rw [hother] at hchange; cases hchange
  | rotation hother => rw [hother] at hchange; cases hchange
  | recovery hother => rw [hother] at hchange; cases hchange

/-! ### A restored identity -/

/-- What the restore flow posts: a rotation of the DID to the key of the identity. -/
theorem recoverFromBackupRotation_spec {did : String}
    (h : recoverFromBackupRotation P did handle key device clock previous = some object) :
    ∃ a, PostedAs a object ∧ a.did = did ∧ a.reason = .rotation ∧
      a.identityKey = key.publicKeyHex ∧ a.identityKeyAlgorithm = key.algorithm := by
  simp only [recoverFromBackupRotation, rotationOf, Option.bind_eq_bind,
    Option.bind_eq_some_iff] at h
  obtain ⟨unsigned, ⟨aliases, -, cid, -, hunsigned⟩, anchor, hanchor, hobject⟩ := h
  cases hunsigned
  obtain ⟨body, -, rfl⟩ := Option.map_eq_some_iff.1 hanchor
  exact ⟨_, postedAs_of_toCanonicalMap hobject, rfl, rfl, rfl, rfl⟩

/-- A key of one algorithm verifies nothing under another: their lengths differ. -/
theorem algorithm_eq_of_verifies (hkey : key.Genuine P) {message : Text} {sig : String}
    (h : SigVerifier.verifyIdentity P "ed25519" key.publicKeyHex message sig = true) :
    key.algorithm = "ed25519" := by
  by_contra halg
  have hgenuine := hkey 0 message
  have hp256 : key.algorithm = "p256-sha256" := by
    by_contra hother
    rw [SigVerifier.verifyIdentity, if_neg halg, if_neg hother] at hgenuine
    cases hgenuine
  rw [hp256, SigVerifier.verifyIdentity, if_neg (by decide), if_pos rfl] at hgenuine
  rw [SigVerifier.verifyIdentity, if_pos rfl] at h
  unfold SigVerifier.verifyP256 SigVerifier.decodeHex at hgenuine
  unfold SigVerifier.verifyEd25519 SigVerifier.decodeHex at h
  split at h
  · next hlong _ =>
    split at hgenuine
    · next hshort _ =>
      split at hlong
      · split at hshort
        · omega
        · cases hshort
      · cases hlong
    · cases hgenuine
  · cases h

/-- **A restored identity is refused, and the relay is left as it was.**  The key of a rotation
is another key than the active one, and the restored key is the active one. -/
theorem submit_recoverFromBackupRotation (E : Env) (s : Relay) {did : String}
    {row : Ansible.IdentityAnchor} (hactive : s.activeAnchor did = some row)
    (hkey : key.Matches E.toPlatform row)
    (h : recoverFromBackupRotation E.toPlatform did handle key device clock previous = some object)
    :
    ∀ now, ∃ e, submit E now object {} s = (.error e, s) := by
  intro now
  obtain ⟨a, hposted, hdid, hreason, hidentity, halgorithm⟩ := recoverFromBackupRotation_spec h
  rcases submit_cases E now object {} s with ⟨e, he, hs⟩ | ⟨row', -, -, -, haccepted, hentered⟩
  · exact ⟨e, Prod.ext he hs⟩
  exfalso
  obtain ⟨hdid', hrotation, -⟩ := hposted.of_accepted haccepted
  rw [hreason] at hrotation
  generalize (submit E now object {} s).2.identityAnchors.rows = rows at hentered
  cases hentered with
  | initial hinitial => rw [hinitial] at hrotation; cases hrotation
  | deviceChange hchange => rw [hchange] at hrotation; cases hrotation
  | recovery hrecovery => rw [hrecovery] at hrotation; cases hrotation
  | rotation _ hprev _ hother =>
    rw [hdid', hdid, hactive] at hprev
    cases hprev
    -- below version 3 the posted anchor names no algorithm and reads as Ed25519
    have halg : identityKeyAlgorithm object = .str key.algorithm := by
      rw [identityKeyAlgorithm, hposted.algorithm]
      split
      · rw [halgorithm, Json.orElse_str]
      · next hversion =>
        have hself := haccepted.selfSigned
        rw [selfSigned, identityKeyAlgorithm, hposted.algorithm, if_neg hversion,
          Json.orElse_null, hposted.identityKey, hidentity, haccepted.sig] at hself
        rw [Json.orElse_null, algorithm_eq_of_verifies hkey.genuine hself]
    rw [sameKey, halg, hposted.identityKey, hidentity, hkey.algorithm, hkey.publicKeyHex] at hother
    simp [Json.eqv] at hother

/-- **The anchor flows are not accepted.**  Whatever the relay holds for a DID, its matching
identity key cannot restore it. -/
theorem not_flowsAccepted (E : Env) (toUtc : ℤ → ℤ) (s : Relay) (did handle : String)
    (key : IdentityKey) (device : DeviceKey) (clock : ℤ) (now : Time)
    (row : Ansible.IdentityAnchor) (hactive : s.activeAnchor did = some row)
    (hkey : key.Matches E.toPlatform row) :
    ¬ FlowsAccepted E toUtc s did handle key device clock now := by
  rintro ⟨-, ⟨served, previous, object, -, -, hobject, row', hok, -⟩, -⟩
  obtain ⟨e, he⟩ := submit_recoverFromBackupRotation E s hactive hkey hobject now
  rw [he] at hok
  cases hok

/-! ### The flows on the toy platform -/

def toyIdentityKey : IdentityKey where
  publicKeyHex := toyKeyHex 1
  algorithm := "p256-sha256"
  custodyClass := .hardware
  sign _ message := toySign 1 message

theorem genuine_toyIdentityKey : toyIdentityKey.Genuine .toy := by
  intro draw message
  have hkey : SigVerifier.decodeHex (toyKeyHex 1) 65 = some (toyKey 1) := by decide +kernel
  generalize hsigned : (toyKey 1).take 36 ++ toyHash message.utf8 = signed
  have hlength : signed.length = 68 := by
    rw [← hsigned, List.length_append, length_toyHash]
    rfl
  have hsig : decode16 (bytes (toySign 1 message)) = some signed := by
    have hbytes : bytes (toySign 1 message) = (encode16 signed).utf8 := by
      rw [toySign, hsigned]
      exact bytes_ofList _
    rw [hbytes, decode16_encode16]
  have hhead : (toyKey 1).head? = some 4 := rfl
  have hverify : Platform.toy.p256Verify (toyKey 1) message.utf8 signed = true :=
    beq_iff_eq.2 hsigned.symm
  have hbounds : 68 ≤ signed.length ∧ signed.length ≤ 72 := by omega
  rw [SigVerifier.verifyIdentity, if_neg (by decide), if_pos (by decide), SigVerifier.verifyP256]
  simp only [toyIdentityKey, hkey, hsig, hhead, hverify, hbounds, beq_self_eq_true, decide_true,
    Bool.and_true]

def toyDevice (n : UInt8) : DeviceKey where
  deviceId := "phone"
  publicKeyHex := String.ofList (encode16 (List.replicate 32 n))

/-- The relay after the first anchor of the toy identity. -/
def toyPublished : Relay :=
  match publishInitialAnchor .toy "did:plc:a" "a" toyIdentityKey none (toyDevice 1) 0 with
  | some object => (submit .toy 0 object {} .empty).2
  | none => .empty

/-- What a new phone with the restored identity posts. -/
def toyRestored : Option Json := do
  let served ← (getActive "did:plc:a" toyPublished).toOption
  let previous ← IdentityAnchor.fromMap id served
  recoverFromBackupRotation .toy "did:plc:a" "a" toyIdentityKey (toyDevice 2) 1000000
    previous

/-- Both halves of the toy restore, evaluated together: the row of the first anchor, and the
answer to the rotation. -/
theorem toyRestored_run :
    (toyPublished.activeAnchor "did:plc:a").map
        (fun row => (row.identityKey, row.identityKeyAlgorithm, row.custodyClass))
      = some (toyKeyHex 1, "p256-sha256", "hardware") ∧
    toyRestored.any (fun object =>
      match (submit .toy 1000000 object {} toyPublished).1 with
      | .ok _ => false
      | .error e => e == .invalidTransition) = true := by
  decide +kernel

theorem matches_toyIdentityKey : ∃ row, toyPublished.activeAnchor "did:plc:a" = some row ∧
    toyIdentityKey.Matches .toy row := by
  obtain ⟨row, hrow, hfields⟩ := Option.map_eq_some_iff.1 toyRestored_run.1
  simp only [Prod.mk.injEq] at hfields
  obtain ⟨hkey, halgorithm, hcustody⟩ := hfields
  exact ⟨row, hrow, hkey.symm, halgorithm.symm, hcustody.symm, genuine_toyIdentityKey⟩

/-- The relay with a phone and a tablet of the toy identity. -/
def toyTwoDevices : Relay :=
  let anchor := signAnchor toyIdentityKey {
    schemaVersion := 3, did := "did:plc:a", handle := "a", genesisCommitment := none
    alsoKnownAs := ["at://a"], identityKey := toyIdentityKey.publicKeyHex
    identityKeyAlgorithm := toyIdentityKey.algorithm, custodyClass := .hardware
    devices := [attestDevice toyIdentityKey (toyDevice 1) 0,
      attestDevice toyIdentityKey { toyDevice 2 with deviceId := "tablet" } 0]
    prevAnchorCid := none, reason := .initial, createdAt := 0, sig := "", deviceSig := none }
  match anchor.bind IdentityAnchor.toCanonicalMap with
  | some object => (submit .toy 0 object {} .empty).2
  | none => .empty

/-- The phone removes the tablet. -/
example : ((getActive "did:plc:a" toyTwoDevices).toOption.bind fun served => do
    let previous ← IdentityAnchor.fromMap id served
    let object ← revokeDevice .toy "did:plc:a" "tablet" toyIdentityKey (some (toyDevice 1)) 1000000
      previous
    let row ← (submit .toy 1000000 object {} toyTwoDevices).1.toOption
    return (row.state, row.devices.length)) = some (.active, 1) := by
  decide +kernel

theorem not_flowsAccepted_toy : ¬ FlowsAccepted .toy id toyPublished "did:plc:a" "a"
    toyIdentityKey (toyDevice 2) 1000000 1000000 := by
  obtain ⟨row, hrow, hmatches⟩ := matches_toyIdentityKey
  exact not_flowsAccepted .toy id toyPublished _ _ _ _ _ _ row hrow hmatches

/-- The toy identity is published and restored from its backup; the new phone is answered with
`invalid_transition`. -/
theorem restored_toy_refused :
    (∃ row, toyPublished.activeAnchor "did:plc:a" = some row ∧
      toyIdentityKey.Matches .toy row) ∧
    (∃ object, toyRestored = some object ∧
      (submit .toy 1000000 object {} toyPublished).1 = .error .invalidTransition) ∧
    ¬ FlowsAccepted .toy id toyPublished "did:plc:a" "a" toyIdentityKey (toyDevice 2)
      1000000 1000000 := by
  refine ⟨matches_toyIdentityKey, ?_, ?_⟩
  · obtain ⟨object, hobject, h⟩ := (Option.any_eq_true _ _).1 toyRestored_run.2
    refine ⟨object, hobject, ?_⟩
    cases hsubmit : (submit .toy 1000000 object {} toyPublished).1 with
    | ok row => rw [hsubmit] at h; cases h
    | error e => rw [hsubmit] at h; rw [beq_iff_eq.1 h]
  · rintro ⟨-, ⟨served, previous, object, -, -, hobject, row, hok, -⟩, -⟩
    obtain ⟨row', hactive, hkey⟩ := matches_toyIdentityKey
    obtain ⟨e, he⟩ := submit_recoverFromBackupRotation .toy toyPublished hactive hkey hobject
      1000000
    rw [he] at hok
    cases hok

end Client

end Ansible
