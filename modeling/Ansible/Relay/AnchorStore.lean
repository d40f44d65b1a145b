import Ansible.Lib.DateTime
import Ansible.Lib.JsonParse
import Ansible.Relay.DidAccountCache
import Ansible.Relay.DidElix

/-!
# The anchor store

The chain-verifying store of self-certifying identity anchors: an anchor is accepted
when its signatures and its link to the active anchor hold, a recovery is held
pending for a grace window, promoted when the window has passed, or vetoed.

## Main definitions

* `AnchorStore.submit` — validation, dispatch on the reason and persistence.
* `AnchorStore.promoteDue`, `promoteOne` — promotion of due recoveries.
* `AnchorStore.veto`, `doVeto` — the veto that freezes the account.
-/

namespace Ansible

namespace AnchorStore

def anchorType : String := "io.trisaura.identity.anchor"

/-! ### Canonical encoding -/

def schemaVersion (anchor : Json) : ℤ :=
  match anchor.fetch "schema_version" with
  | .null => 1
  | .int v => v
  | _ => 0

def listOf : Json → List Json
  | .arr l => l
  | _ => []

def devices (anchor : Json) : List Json := listOf (anchor.fetch "devices")

def alsoKnownAs (anchor : Json) : List Json := listOf (anchor.fetch "also_known_as")

def canonicalDevice (device : Json) : Json :=
  .obj [("device_id", device.fetch "device_id"), ("device_key", device.fetch "device_key"),
    ("custody_class", device.fetch "custody_class"), ("enrolled_at", device.fetch "enrolled_at"),
    ("attestation_sig", device.fetch "attestation_sig")]

/-- A commitment that is a map is written in its normative order. -/
def commitmentValue (anchor : Json) : Json :=
  if (anchor.fetch "genesis_commitment").isObj then
    DidElix.canonicalCommitment (anchor.fetch "genesis_commitment")
  else anchor.fetch "genesis_commitment"

/-- The members of the signed body in their fixed order.  The algorithm enters with
schema version 3 and the genesis commitment with version 4. -/
def bodyObject (anchor : Json) : Json :=
  .obj ([("type", .str anchorType), ("schema_version", .int (schemaVersion anchor)),
      ("did", anchor.fetch "did"), ("handle", anchor.fetch "handle"),
      ("identity_key", anchor.fetch "identity_key")] ++
    (if 3 ≤ schemaVersion anchor then
      [("identity_key_algorithm", anchor.fetch "identity_key_algorithm")] else []) ++
    (if 4 ≤ schemaVersion anchor then
      [("genesis_commitment", commitmentValue anchor)] else []) ++
    [("also_known_as", .arr (alsoKnownAs anchor)), ("custody_class", anchor.fetch "custody_class"),
      ("devices", .arr ((devices anchor).map canonicalDevice)),
      ("prev_anchor_cid", anchor.fetch "prev_anchor_cid"), ("reason", anchor.fetch "reason"),
      ("created_at", anchor.fetch "created_at")])

/-- The text that is hashed and signed: the anchor without its signatures. -/
def canonicalBody (anchor : Json) : Text := (bodyObject anchor).encode

/-- What a device's `attestation_sig` covers: its record without that field. -/
def deviceAttestationMessage (device : Json) : Text :=
  Json.encode (.obj [("device_id", device.fetch "device_id"),
    ("device_key", device.fetch "device_key"), ("custody_class", device.fetch "custody_class"),
    ("enrolled_at", device.fetch "enrolled_at")])

def cidOfBody (P : Platform) (body : Text) : String :=
  String.ofList (chars "sha256:" ++ encode16 (P.sha256 body.utf8))

/-! ### Signatures -/

/-- A signature by anything but texts does not verify. -/
def verify (P : Platform) (algorithm key : Json) (message : Text) (sig : Json) : Bool :=
  match algorithm, key, sig with
  | .str a, .str k, .str s => SigVerifier.verifyIdentity P a k message s
  | _, _, _ => false

def identityKeyAlgorithm (anchor : Json) : Json :=
  (anchor.fetch "identity_key_algorithm").orElse (.str "ed25519")

def custodyClass (anchor : Json) : Json := (anchor.fetch "custody_class").orElse (.str "software")

def nonEmptyStr : Json → Bool
  | .str s => s != ""
  | _ => false

def deviceAttested (P : Platform) (algorithm identityKey device : Json) : Bool :=
  let sig := device.fetch "attestation_sig"
  device.isObj && nonEmptyStr sig &&
    verify P algorithm identityKey (deviceAttestationMessage device) sig

/-- Every enrolled device is attested by the anchor's own identity key. -/
def verifyDeviceAttestations (P : Platform) (anchor : Json) : Bool :=
  (devices anchor).all
    (deviceAttested P (identityKeyAlgorithm anchor) (anchor.fetch "identity_key"))

/-! ### Shape -/

inductive SubmitError
  | malformed
  | unknownReason
  | unsupportedSigningAlgorithm
  | unsupportedSchemaVersion
  | invalidGenesisCommitment
  | didMismatch
  | locked
  | migrated
  | invalidAttestation
  | chainMismatch
  | conflict
  | invalidSignature
  | invalidTransition
  | invalidRecoveryProof
  /-- The database raised; the transaction is rolled back. -/
  | raised
  deriving DecidableEq, Repr

def custodyClasses : List String := ["software", "hardware"]

/-- From version 4 on, times are canonical UTC times. -/
def validAnchorTimestamp (value : Json) (version : ℤ) : Bool :=
  match value with
  | .str s =>
    if 4 ≤ version then
      DateTime.isCanonical s && (DateTime.fromIso8601 s).any (·.2 == 0)
    else (DateTime.fromIso8601 s).isSome
  | _ => false

def validDevice (version : ℤ) (d : Json) : Bool :=
  d.isObj && nonEmptyStr (d.fetch "device_id") &&
  ((d.fetch "device_key").str?.any DidElix.isHex64) &&
  ((d.fetch "custody_class").str?.any (custodyClasses.contains ·)) &&
  validAnchorTimestamp (d.fetch "enrolled_at") version &&
  nonEmptyStr (d.fetch "attestation_sig")

/-- A list of valid devices with distinct identifiers, or nothing. -/
def validDevices (value : Json) (version : ℤ) : Bool :=
  match value with
  | .null => true
  | .arr l => l.all (validDevice version) &&
      decide ((l.map fun d => (d.fetch "device_id").str?).Nodup)
  | _ => false

def strOrNull : Json → Bool
  | .null => true
  | .str _ => true
  | _ => false

def intOrNull : Json → Bool
  | .null => true
  | .int _ => true
  | _ => false

/-- The checks of `validate_shape` that answer `:malformed`. -/
def wellShaped (anchor : Json) : Bool :=
  let version := schemaVersion anchor
  (anchor.fetch "type").str? == some anchorType &&
  nonEmptyStr (anchor.fetch "did") && nonEmptyStr (anchor.fetch "identity_key") &&
  nonEmptyStr (anchor.fetch "handle") && nonEmptyStr (anchor.fetch "sig") &&
  strOrNull (anchor.fetch "prev_anchor_cid") && intOrNull (anchor.fetch "schema_version") &&
  (match anchor.fetch "custody_class" with
    | .null => true
    | .str s => custodyClasses.contains s
    | _ => false) &&
  (match anchor.fetch "also_known_as" with
    | .null => true
    | .arr l => l.all fun a => a.str?.isSome
    | _ => false) &&
  validAnchorTimestamp (anchor.fetch "created_at") version &&
  validDevices (anchor.fetch "devices") version

def Reason.toText : Reason → String
  | .initial => "initial"
  | .rotation => "rotation"
  | .recovery => "recovery"
  | .deviceChange => "device_change"

def reasons : List Reason := [.initial, .rotation, .recovery, .deviceChange]

/-- The reason a text names. -/
def reasonOf (j : Json) : Option Reason := reasons.find? fun r => j.str? == some (Reason.toText r)

def validateShape (anchor : Json) : Except SubmitError (String × Reason) :=
  if wellShaped anchor then
    match (anchor.fetch "did").str?, reasonOf (anchor.fetch "reason") with
    | some did, some reason => .ok (did, reason)
    | _, _ => .error .unknownReason
  else .error .malformed

/-! ### Protocol version -/

/-- A v4 successor repeats the commitment of the active anchor, a v4 genesis commits to
its own key. -/
def v1TransitionOk (anchor : Json) (reason : Reason) (previous : Option IdentityAnchor)
    (commitment : Json) : Bool :=
  match reason, previous with
  | .initial, _ => (commitment.fetch "genesis_key").eqv (anchor.fetch "identity_key")
  | _, none => true
  | _, some p => p.schemaVersion == 4 && (p.genesisCommitment.getD .null).eqv commitment

def validateProtocol (P : Platform) (anchor : Json) (did : String) (reason : Reason) (s : Relay) :
    Except SubmitError Unit :=
  let version := schemaVersion anchor
  let commitment := anchor.fetch "genesis_commitment"
  let previous := if reason = .initial then none else s.activeAnchor did
  if version < 1 ∨ 4 < version then .error .unsupportedSchemaVersion
  else if version = 4 then
    if ¬ DidElix.validateV1Commitment commitment then .error .invalidGenesisCommitment
    else if ¬ DidElix.matchesV1 P did commitment then .error .didMismatch
    else if ¬ v1TransitionOk anchor reason previous commitment then
      .error .invalidGenesisCommitment
    else .ok ()
  else if previous.any (4 ≤ ·.schemaVersion) then .error .invalidGenesisCommitment
  else .ok ()

def ensureNotFrozen (did : String) (s : Relay) : Except SubmitError Unit :=
  if s.frozen did then .error .locked
  else if s.canonicalDid did = did then .ok ()
  else .error .migrated

/-! ### Authorisation -/

/-- A genesis of a `did:elix` must derive that identifier; other DIDs are not gated. -/
def genesisDidSelfCertifies (P : Platform) (anchor : Json) (did : String) : Bool :=
  if (afterPrefix (bytes "did:elix:") (bytes did)).isSome then
    if 4 ≤ schemaVersion anchor then
      let commitment := anchor.fetch "genesis_commitment"
      commitment.isObj &&
        (commitment.fetch "genesis_key").eqv (anchor.fetch "identity_key") &&
        DidElix.matchesV1 P did commitment
    else
      match anchor.fetch "identity_key", anchor.fetch "handle", custodyClass anchor,
          identityKeyAlgorithm anchor with
      | .str key, .str handle, .str custody, .str algorithm =>
        DidElix.derive P key handle custody algorithm == did
      | _, _, _, _ => false
  else true

def requireChainLink (anchor : Json) (did : String) (s : Relay) :
    Except SubmitError IdentityAnchor :=
  match s.activeAnchor did with
  | none => .error .conflict
  | some prev =>
    if (anchor.fetch "prev_anchor_cid").str? = some prev.anchorCid then .ok prev
    else .error .chainMismatch

def enrolledDeviceKeys (row : IdentityAnchor) : List String :=
  row.devices.filterMap fun d => (d.fetch "device_key").str?

def activeAuthoritySigned (P : Platform) (prev : IdentityAnchor) (body : Text) (sig : Json) :
    Bool :=
  match sig with
  | .null => false
  | .str "" => false
  | sig =>
    verify P (.str prev.identityKeyAlgorithm) (.str prev.identityKey) body sig ||
      (enrolledDeviceKeys prev).any fun key => verify P (.str "ed25519") (.str key) body sig

/-- The anchor names the key of `prev`, under the same algorithm. -/
def sameKey (anchor : Json) (prev : IdentityAnchor) : Bool :=
  (identityKeyAlgorithm anchor).eqv (.str prev.identityKeyAlgorithm) &&
    (anchor.fetch "identity_key").eqv (.str prev.identityKey)

/-- The anchor is signed by the identity key it names. -/
def selfSigned (P : Platform) (anchor : Json) (body : Text) : Bool :=
  verify P (identityKeyAlgorithm anchor) (anchor.fetch "identity_key") body (anchor.fetch "sig")

/-! ### Persistence -/

/-- `cast/3` of an optional text: blank becomes `nil`, anything but a text is an error. -/
def castText : Json → Except SubmitError (Option String)
  | .null => .ok none
  | .str s => .ok (if isBlank s then none else some s)
  | _ => .error .conflict

/-- `cast/3` of a required text. -/
def castRequired (j : Json) : Except SubmitError String :=
  match castText j with
  | .ok (some s) => .ok s
  | _ => .error .conflict

def castMap : Json → Except SubmitError (Option Json)
  | .null => .ok none
  | .obj f => .ok (some (.obj f))
  | _ => .error .conflict

/-- The changeset of a new row from `anchor_attrs`. -/
def anchorAttrs (anchor : Json) (did : String) (body : Text) (cid : String) (reason : Reason)
    (state : AnchorState)
    (graceUntil : Option Time) (authorizationSig : Json) :
    Except SubmitError IdentityAnchor := do
  let did ← castRequired (.str did)
  let prev ← castText (anchor.fetch "prev_anchor_cid")
  let identityKey ← castRequired (anchor.fetch "identity_key")
  let algorithm ← castRequired (identityKeyAlgorithm anchor)
  let genesisCommitment ← castMap (anchor.fetch "genesis_commitment")
  let handle ← castRequired (anchor.fetch "handle")
  let custody ← castRequired (custodyClass anchor)
  let sig ← castRequired (anchor.fetch "sig")
  let deviceSig ← castText (anchor.fetch "device_sig")
  let authorizationSig ← castText authorizationSig
  return {
    did := did
    anchorCid := cid
    prevAnchorCid := prev
    reason := reason
    identityKey := identityKey
    identityKeyAlgorithm := algorithm
    genesisCommitment := genesisCommitment
    handle := handle
    custodyClass := custody
    schemaVersion := schemaVersion anchor
    devices := devices anchor
    sig := sig
    deviceSig := deviceSig
    authorizationSig := authorizationSig
    canonicalBody := body
    state := state
    graceUntil := graceUntil }

/-- The texts of a row fit their columns and the algorithm passes its check. -/
def storable (a : IdentityAnchor) : Bool :=
  (a.identityKeyAlgorithm == "ed25519" || a.identityKeyAlgorithm == "p256-sha256") &&
    ([a.did, a.anchorCid, a.identityKey, a.handle, a.sig] ++ a.prevAnchorCid.toList ++
      a.deviceSig.toList).all fitsVarchar

/-- A repeated pair of DID and content identifier is an error of the changeset, any other
violation raises. -/
def insertAnchor (t : AnchorTable) (a : IdentityAnchor) : Except SubmitError AnchorTable :=
  if ¬ storable a then .error .raised
  else
    match t.insert a with
    | some t => .ok t
    | none =>
      if t.rows.any (IdentityAnchor.hasKey a.did a.anchorCid) then .error .conflict
      else .error .raised

/-- The cache row of an account follows its active anchor; an exception is rescued. -/
def syncCache (E : Env) (now : Time) (a : IdentityAnchor) (s : Relay) : Relay :=
  let (previous, s) := DidAccountCache.get a.did s
  let keyVersion := match previous with
    | some entry => entry.keyVersion
    | none => 1
  (DidAccountCache.put E now a.did a.identityKey a.handle
    { signingAlgorithm := a.identityKeyAlgorithm, keyVersion } s).2

abbrev SubmitResult := Except SubmitError IdentityAnchor

def insertActive (E : Env) (now : Time) (anchor : Json) (did : String) (body : Text) (cid : String)
    (reason : Reason)
    (s : Relay) : SubmitResult × Relay :=
  match anchorAttrs anchor did body cid reason .active none .null with
  | .error e => (.error e, s)
  | .ok row =>
    match insertAnchor s.identityAnchors row with
    | .error e => (.error e, s)
    | .ok t => (.ok row, syncCache E now row { s with identityAnchors := t })

/-- The prior active anchor is superseded and the new one inserted in one transaction. -/
def swapInActive (E : Env) (now : Time) (anchor : Json) (did : String) (body : Text) (cid : String)
    (reason : Reason)
    (prev : IdentityAnchor) (s : Relay) : SubmitResult × Relay :=
  match anchorAttrs anchor did body cid reason .active none .null with
  | .error e => (.error e, s)
  | .ok row =>
    match s.identityAnchors.update (IdentityAnchor.hasKey did prev.anchorCid)
        (IdentityAnchor.withState .superseded) with
    | none => (.error .raised, s)
    | some t =>
      match insertAnchor t row with
      | .error e => (.error e, s)
      | .ok t => (.ok row, syncCache E now row { s with identityAnchors := t })

def insertPendingRecovery (E : Env) (now : Time) (anchor : Json) (did : String) (body : Text)
    (cid : String)
    (recoveryProof : Json) (s : Relay) : SubmitResult × Relay :=
  let graceUntil := now + seconds E.identityRecoveryGraceSeconds
  match anchorAttrs anchor did body cid .recovery .pending (some graceUntil) recoveryProof with
  | .error e => (.error e, s)
  | .ok row =>
    match insertAnchor s.identityAnchors row with
    | .error e => (.error e, s)
    | .ok t => (.ok row, { s with identityAnchors := t })

/-! ### Dispatch -/

/-- The options of `submit/2`. -/
structure SubmitOpts where
  recoveryProof : Json := .null
  recoveryAuthorized : Bool := false

def dispatchInitial (E : Env) (now : Time) (anchor : Json) (did : String) (body : Text)
    (cid : String) (s : Relay) :
    SubmitResult × Relay :=
  if ¬ (anchor.fetch "prev_anchor_cid").isNull then (.error .chainMismatch, s)
  else if ¬ genesisDidSelfCertifies E.toPlatform anchor did then (.error .didMismatch, s)
  else if (s.activeAnchor did).isSome then (.error .conflict, s)
  else if ¬ selfSigned E.toPlatform anchor body then (.error .invalidSignature, s)
  else insertActive E now anchor did body cid .initial s

def dispatchRotation (E : Env) (now : Time) (anchor : Json) (did : String) (body : Text)
    (cid : String) (s : Relay) :
    SubmitResult × Relay :=
  match requireChainLink anchor did s with
  | .error e => (.error e, s)
  | .ok prev =>
    if sameKey anchor prev then (.error .invalidTransition, s)
    else if ¬ selfSigned E.toPlatform anchor body then (.error .invalidSignature, s)
    else if ¬ verify E.toPlatform (.str prev.identityKeyAlgorithm) (.str prev.identityKey) body
        (anchor.fetch "device_sig") then (.error .invalidSignature, s)
    else swapInActive E now anchor did body cid .rotation prev s

def dispatchDeviceChange (E : Env) (now : Time) (anchor : Json) (did : String) (body : Text)
    (cid : String)
    (s : Relay) : SubmitResult × Relay :=
  match requireChainLink anchor did s with
  | .error e => (.error e, s)
  | .ok prev =>
    if ¬ sameKey anchor prev then (.error .invalidTransition, s)
    else if ¬ (custodyClass anchor).eqv (.str prev.custodyClass) then
      (.error .invalidTransition, s)
    else if ¬ selfSigned E.toPlatform anchor body then (.error .invalidSignature, s)
    else if ¬ activeAuthoritySigned E.toPlatform prev body (anchor.fetch "device_sig") then
      (.error .invalidSignature, s)
    else swapInActive E now anchor did body cid .deviceChange prev s

def dispatchRecovery (E : Env) (now : Time) (anchor : Json) (did : String) (body : Text)
    (cid : String)
    (recoveryProof : Json) (recoveryAuthorized : Bool) (s : Relay) : SubmitResult × Relay :=
  match requireChainLink anchor did s with
  | .error e => (.error e, s)
  | .ok prev =>
    if 4 ≤ schemaVersion anchor ∧ sameKey anchor prev then (.error .invalidTransition, s)
    else if ¬ selfSigned E.toPlatform anchor body then (.error .invalidSignature, s)
    else if ¬ ((schemaVersion anchor < 4 ∧ recoveryAuthorized) ∨
        activeAuthoritySigned E.toPlatform prev body recoveryProof) then
      (.error .invalidRecoveryProof, s)
    else insertPendingRecovery E now anchor did body cid recoveryProof s

def dispatch (E : Env) (now : Time) (reason : Reason) (anchor : Json) (did : String) (body : Text)
    (cid : String) (recoveryProof : Json) (recoveryAuthorized : Bool) (s : Relay) :
    SubmitResult × Relay :=
  match reason with
  | .initial => dispatchInitial E now anchor did body cid s
  | .rotation => dispatchRotation E now anchor did body cid s
  | .deviceChange => dispatchDeviceChange E now anchor did body cid s
  | .recovery => dispatchRecovery E now anchor did body cid recoveryProof recoveryAuthorized s

/-- Submit an anchor object: the row it was stored as, or why it was refused. -/
def submit (E : Env) (now : Time) (anchor : Json) (opts : SubmitOpts) (s : Relay) :
    SubmitResult × Relay :=
  let recoveryProof := opts.recoveryProof.orElse (anchor.fetch "recovery_proof")
  match validateShape anchor with
  | .error e => (.error e, s)
  | .ok (did, reason) =>
    if ¬ IdentityWritePolicy.allowed E.toConfig (identityKeyAlgorithm anchor) then
      (.error .unsupportedSigningAlgorithm, s)
    else
      match validateProtocol E.toPlatform anchor did reason s with
      | .error e => (.error e, s)
      | .ok () =>
        match ensureNotFrozen did s with
        | .error e => (.error e, s)
        | .ok () =>
          if ¬ verifyDeviceAttestations E.toPlatform anchor then (.error .invalidAttestation, s)
          else
            let body := canonicalBody anchor
            let cid := cidOfBody E.toPlatform body
            dispatch E now reason anchor did body cid recoveryProof opts.recoveryAuthorized s

/-! ### Promotion -/

/-- The pending rows whose grace window has passed. -/
def dueRows (now : Time) (s : Relay) : List IdentityAnchor :=
  s.identityAnchors.rows.filter fun a => a.state == .pending && a.graceUntil.any (· ≤ now)

/-- The transaction of one promotion: it supersedes whatever row of the DID is active and
activates the row, both by key alone. -/
def promoteRow (pending : IdentityAnchor) (t : AnchorTable) :
    Option (AnchorTable × IdentityAnchor) := do
  let t ← t.update (fun a => a.did == pending.did && a.isActive)
    (IdentityAnchor.withState .superseded)
  let t ← t.update (IdentityAnchor.hasKey pending.did pending.anchorCid)
    (IdentityAnchor.settle .active)
  let row ← t.find (IdentityAnchor.hasKey pending.did pending.anchorCid)
  return (t, row)

/-- A promotion and the refresh of the cache; an exception leaves the state as it was. -/
def promoteOne (E : Env) (now : Time) (pending : IdentityAnchor) (s : Relay) : Relay :=
  match promoteRow pending s.identityAnchors with
  | none => s
  | some (t, row) => syncCache E now row { s with identityAnchors := t }

/-- The rows `promote_due` acts on: due, and of no frozen DID when they were read. -/
def promotable (now : Time) (s : Relay) : List IdentityAnchor :=
  (dueRows now s).filter fun a => !s.frozen a.did

def promoteDue (E : Env) (now : Time) (s : Relay) : Relay :=
  (promotable now s).foldl (fun s pending => promoteOne E now pending s) s

/-! ### Veto -/

/-- Every key the DID has ever enrolled, with its algorithm. -/
def previouslyEnrolledKeys (did : String) (s : Relay) : List (String × String) :=
  let anchors := s.identityAnchors.rows.filter fun a => a.did == did && !(a.state == .pending)
  anchors.map (fun a => (a.identityKeyAlgorithm, a.identityKey)) ++
    (anchors.flatMap enrolledDeviceKeys).map fun key => ("ed25519", key)

def vetoSigValid (P : Platform) (did : String) (body : Text) (vetoSig : String)
    (s : Relay) : Bool :=
  (previouslyEnrolledKeys did s).any fun k => SigVerifier.verifyIdentity P k.1 k.2 body vetoSig

inductive VetoError
  | locked
  | notFound
  | invalidSignature
  deriving DecidableEq, Repr

/-- What `veto` reads: the pending row, once its signature is accepted. -/
def readVeto (P : Platform) (did pendingAnchorCid vetoSig : String) (s : Relay) :
    Except VetoError IdentityAnchor :=
  if s.frozen did then .error .locked
  else
    match s.identityAnchors.find fun a =>
        a.hasKey did pendingAnchorCid && a.state == .pending with
    | none => .error .notFound
    | some pending =>
      if vetoSigValid P did pending.canonicalBody vetoSig s then .ok pending
      else .error .invalidSignature

/-- The transaction of a veto: the row by key alone becomes vetoed, the DID frozen. -/
def doVeto (pending : IdentityAnchor) (s : Relay) : Relay :=
  match s.identityAnchors.update (IdentityAnchor.hasKey pending.did pending.anchorCid)
      (IdentityAnchor.settle .vetoed) with
  | none => s
  | some t => { s with
      identityAnchors := t
      accountFreezes :=
        if s.frozen pending.did then s.accountFreezes
        else s.accountFreezes ++
          [{ did := pending.did, vetoedAnchorCid := pending.anchorCid }] }

def veto (P : Platform) (did pendingAnchorCid vetoSig : String) (s : Relay) :
    Except VetoError Unit × Relay :=
  match readVeto P did pendingAnchorCid vetoSig s with
  | .error e => (.error e, s)
  | .ok pending => (.ok (), doVeto pending s)

/-! ### The served chain -/

def AnchorState.toText : AnchorState → String
  | .active => "active"
  | .pending => "pending"
  | .vetoed => "vetoed"
  | .superseded => "superseded"

/-- The object map of a stored row, from the text that was signed; `none` when that text is
no JSON, which raises. -/
def toObject (a : IdentityAnchor) : Option Json :=
  (Json.decode a.canonicalBody).map fun base =>
    base.merge ([("anchor_cid", .str a.anchorCid), ("state", .str (AnchorState.toText a.state)),
        ("sig", .str a.sig)] ++
      a.deviceSig.toList.map (fun s => ("device_sig", .str s)) ++
      a.authorizationSig.toList.map fun s => ("recovery_proof", .str s))

inductive ChainError
  | locked
  | notFound
  | invalidChain
  /-- A stored body is no JSON. -/
  | raised
  deriving DecidableEq, Repr

/-- From `row` back along `prev_anchor_cid`, each body re-encoded and re-hashed; at most
`fuel` rows, which their number covers. -/
def walkChain (P : Platform) (byCid : String → Option IdentityAnchor) :
    ℕ → Option IdentityAnchor → List String → List IdentityAnchor →
      Except ChainError (List IdentityAnchor)
  | 0, _, _, _ => .error .invalidChain
  | _, none, _, _ => .error .invalidChain
  | fuel + 1, some row, seen, acc =>
    match toObject row with
    | none => .error .raised
    | some object =>
      if row.anchorCid ∈ seen then .error .invalidChain
      else if canonicalBody object ≠ row.canonicalBody then .error .invalidChain
      else if cidOfBody P row.canonicalBody ≠ row.anchorCid then .error .invalidChain
      else
        match row.prevAnchorCid with
        | none => if row.reason = .initial then .ok (row :: acc) else .error .invalidChain
        | some prev => walkChain P byCid fuel (byCid prev) (row.anchorCid :: seen) (row :: acc)

def servedReasonMatchesTransition (previous current : IdentityAnchor) : Bool :=
  let same := previous.identityKeyAlgorithm == current.identityKeyAlgorithm &&
    previous.identityKey == current.identityKey
  match current.reason with
  | .initial => false
  | .rotation => !same
  | .recovery => decide (current.schemaVersion < 4) || !same
  | .deviceChange => same && current.custodyClass == previous.custodyClass

/-- Once version 4 is reached the commitment stays; equality is symmetric, the earlier row
stands first as in the submission. -/
def v1CommitmentContinues (P : Platform) (previous current : IdentityAnchor) : Bool :=
  if 4 ≤ previous.schemaVersion then
    current.schemaVersion == 4 &&
      (previous.genesisCommitment.getD .null).eqv (current.genesisCommitment.getD .null) &&
      DidElix.matchesV1 P current.did (current.genesisCommitment.getD .null)
  else decide (current.schemaVersion < 4)

def textOrNull : Option String → Json
  | some s => .str s
  | none => .null

/-- A recovery of a lower schema version may rest on a recovery code, which leaves no
signature. -/
def servedTransitionAuthorized (P : Platform) (previous current : IdentityAnchor) : Bool :=
  let sig := if current.reason = .recovery then current.authorizationSig else current.deviceSig
  if sig = none ∧ current.schemaVersion < 4 ∧ current.reason = .recovery then true
  else activeAuthoritySigned P previous current.canonicalBody (textOrNull sig)

def verifyServedAnchor (P : Platform) (row : IdentityAnchor) : Bool :=
  match toObject row with
  | none => false
  | some object =>
    verifyDeviceAttestations P object &&
      verify P (.str row.identityKeyAlgorithm) (.str row.identityKey) row.canonicalBody
        (.str row.sig)

def verifyServedSuccessor (P : Platform) (previous current : IdentityAnchor) : Bool :=
  current.did == previous.did && current.prevAnchorCid == some previous.anchorCid &&
  servedReasonMatchesTransition previous current && v1CommitmentContinues P previous current &&
  verifyServedAnchor P current && servedTransitionAuthorized P previous current

def verifyServedSuccessors (P : Platform) : IdentityAnchor → List IdentityAnchor → Bool
  | _, [] => true
  | previous, current :: rest =>
    verifyServedSuccessor P previous current && verifyServedSuccessors P current rest

def verifyServedChain (P : Platform) : List IdentityAnchor → Bool
  | [] => false
  | genesis :: rest =>
    (toObject genesis).any (fun object => genesisDidSelfCertifies P object genesis.did) &&
      verifyServedAnchor P genesis && verifyServedSuccessors P genesis rest

/-- The rows of a DID that are or were active. -/
def servedRows (did : String) (s : Relay) : List IdentityAnchor :=
  s.identityAnchors.rows.filter fun a => a.did == did && a.isServed

/-- The public chain of a DID, genesis first. -/
def getChain (P : Platform) (did : String) (s : Relay) : Except ChainError (List Json) :=
  if s.frozen did then .error .locked
  else
    match s.activeAnchor did with
    | none => .error .notFound
    | some active =>
      let rows := servedRows did s
      let byCid := fun cid => rows.find? (·.anchorCid == cid)
      match walkChain P byCid (rows.length + 1) (some active) [] [] with
      | .error e => .error e
      | .ok ordered =>
        if ordered.length = (rows.map (·.anchorCid)).dedup.length ∧ verifyServedChain P ordered then
          match ordered.mapM toObject with
          | some objects => .ok objects
          | none => .error .raised
        else .error .invalidChain

/-! ### Anchors of the toy platform -/

/-- An anchor of version 3 for the key `n`. -/
def toyAnchor (n : UInt8) (prev : Json) (reason createdAt : String) : Json :=
  .obj [("type", .str anchorType), ("schema_version", .int 3), ("did", .str "did:plc:alicealice"),
    ("handle", .str "alice.elix.cool"), ("identity_key", .str (toyKeyHex n)),
    ("identity_key_algorithm", .str "p256-sha256"), ("prev_anchor_cid", prev),
    ("reason", .str reason), ("created_at", .str createdAt)]

/-- The anchor signed by its key `n`, and by the key `m` as the authority behind it. -/
def toySigned (n m : UInt8) (anchor : Json) : Json :=
  anchor.merge [("sig", .str (toySign n (canonicalBody anchor))),
    ("device_sig", .str (toySign m (canonicalBody anchor))),
    ("recovery_proof", .str (toySign m (canonicalBody anchor)))]

def toyCid (anchor : Json) : Json := .str (cidOfBody .toy (canonicalBody anchor))

def toyGenesis : Json := toySigned 1 1 (toyAnchor 1 .null "initial" "2026-01-01T00:00:00Z")

def toyRecovery : Json :=
  toySigned 2 1 (toyAnchor 2 (toyCid toyGenesis) "recovery" "2026-01-02T00:00:00Z")

def toyRotation : Json :=
  toySigned 3 1 (toyAnchor 3 (toyCid toyGenesis) "rotation" "2026-01-03T00:00:00Z")

end AnchorStore

end Ansible
