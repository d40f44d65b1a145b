import Ansible.Lib.Checks
import Ansible.Lib.DateTime
import Ansible.Relay.DidElix
import Ansible.Relay.IdentityCache

/-!
# Registration with passkeys

The endpoints of `IdentityV2Controller`: `register` issues a nonce for a key and a handle,
`anchor` consumes it and stores the account and the verified identity, `rotate_key` moves
both to another key.

## Main definitions

* `validateDid`, `validatePublicKey`, `validateHandle` — the checks of the fields.
* `validateRegistrationBinding` — what ties the DID to the key: a v1 commitment.
* `register`, `anchor`, `rotateKey` — the endpoints.
* `Admitted`, `Slot` — a registration whose proof and nonce are accepted, and what the
  account cache holds for it.

## Main results

* `admission_same` — the checks of a registration change only the nonces.
* `anchorFields_eq_ok` — what an accepted registration has passed.
* `slotOf_eq` — what the account cache holds is read by two lookups.
-/

namespace Ansible

namespace IdentityV2

/-- What an endpoint answers; `raised` stands for an exception. -/
inductive Reply
  | nonce (nonce : String) (expiresAt : Time) (handle : String)
  | anchored (did handle : String) (expiresAt : Time)
  | rotated (did : String) (entry : AccountEntry)
  | refused (status : ℕ) (body : Json)
  | raised

def refuse (status : ℕ) (error : String) : Reply := .refused status (.obj [("error", .str error)])

/-! ### Fields -/

def requireField (params : Json) (key : String) : Except Reply Json :=
  match params.fetch key with
  | .null | .str "" =>
    .error (.refused 422 (.obj [("error", .str "missing_fields"), ("field", .str key)]))
  | value => .ok value

/-- Go on when the check holds, else answer `r`. -/
def check (b : Bool) (r : Reply) : Except Reply Unit := if b then .ok () else .error r

def unsupportedSigningAlgorithm (E : Env) : Reply :=
  .refused 422 (.obj [("error", .str "unsupported_signing_algorithm"),
    ("expected", .arr (E.identityWriteAlgorithms.map .str))])

/-- `Map.get(params, "signing_algorithm", "ed25519")` -/
def signingAlgorithm (params : Json) : Json :=
  (params.get? "signing_algorithm").getD (.str "ed25519")

/-- A key of the algorithm, in hexadecimal. -/
def validPublicKey (algorithm key : String) : Bool :=
  let b := bytes key
  if algorithm = "ed25519" then b.length == 64 && b.all isHex
  else if algorithm = "p256-sha256" then
    b.length == 130 && b.take 2 == bytes "04" && b.all isHex
  else false

/-- The algorithm and the key, when they belong together. -/
def validatePublicKey (algorithm key : Json) (r : Reply) : Except Reply (String × String) :=
  match algorithm, key with
  | .str a, .str k => if validPublicKey a k then .ok (a, k) else .error r
  | _, _ => .error r

/-- `\A[a-zA-Z0-9]([a-zA-Z0-9-]{0,61}[a-zA-Z0-9])?\z` -/
def validHandleSuffix (b : Binary) : Bool :=
  decide (1 ≤ b.length) && decide (b.length ≤ 63) && b.all (fun x => isAlphanum x || x == 45) &&
    b.head?.any isAlphanum && b.getLast?.any isAlphanum

def validateHandleSuffix (suffix : Json) (r : Reply) : Except Reply String :=
  match suffix with
  | .str s => if validHandleSuffix (bytes s) then .ok s else .error r
  | _ => .error r

/-- A letter in lower case. -/
def lowerByte (b : UInt8) : UInt8 := if 65 ≤ b.toNat ∧ b.toNat ≤ 90 then b + 32 else b

/-- A label before the domain, which is read without regard to case. -/
def validHandle (E : Env) (handle : String) : Bool :=
  let b := bytes handle
  let domain := bytes E.identityHandleDomain
  let n := b.length - domain.length - 1
  (b.map lowerByte).drop n == 46 :: domain && validHandleSuffix (b.take n)

def validateHandle (E : Env) (handle : Json) : Except Reply String :=
  match handle with
  | .str s => if validHandle E s then .ok s else .error (refuse 422 "invalid_handle")
  | _ => .error (refuse 422 "invalid_handle")

/-- What follows `pre` consists of at least ten base-32 digits. -/
def hasBase32Suffix (pre did : String) : Bool :=
  (afterPrefix (bytes pre) (bytes did)).any fun rest =>
    decide (10 ≤ rest.length) && rest.all isBase32

/-- `\Adid:(elix|plc):[a-z2-7]{10,}\z` -/
def validDid (did : String) : Bool :=
  hasBase32Suffix "did:elix:" did || hasBase32Suffix "did:plc:" did

def validateDid (did : Json) : Except Reply String :=
  match did with
  | .str s => if validDid s then .ok s else .error (refuse 422 "invalid_did")
  | _ => .error (refuse 422 "invalid_did")

/-- `\Adid:elix:z[a-z2-7]{52}\z` -/
def isV1Did (did : String) : Bool :=
  (afterPrefix (bytes "did:elix:z") (bytes did)).any fun rest =>
    rest.length == 52 && rest.all isBase32

/-- A v1 identifier needs a commitment to the key; one of another kind may go without. -/
def validateRegistrationBinding (P : Platform) (did publicKeyHex : String) (commitment : Json) :
    Except Reply Unit :=
  match commitment with
  | .null => check (!isV1Did did) (refuse 422 "invalid_genesis_commitment")
  | .obj f => do
    check (DidElix.validateV1Commitment (.obj f)) (refuse 422 "invalid_genesis_commitment")
    check (((Json.obj f).fetch "genesis_key").eqv (.str publicKeyHex))
      (refuse 422 "invalid_genesis_commitment")
    check (DidElix.matchesV1 P did (.obj f)) (refuse 422 "did_mismatch")
  | _ => .error (refuse 422 "invalid_genesis_commitment")

/-! ### `register` -/

def issueRegistrationNonce (now : Time) (fresh publicKeyHex handle : String) (s : Relay) :
    Reply × Relay :=
  match DidAccountCache.issueNonce now fresh publicKeyHex handle s with
  | (some e, s) => (.nonce e.nonce e.expiresAt handle, s)
  | (none, s) => (refuse 409 "handle_pending", s)

def registerFields (E : Env) (params : Json) : Except Reply ((String × String) × String) := do
  let key ← requireField params "public_key_hex"
  let suffix ← requireField params "handle_suffix"
  check (IdentityWritePolicy.allowed E.toConfig (signingAlgorithm params))
    (unsupportedSigningAlgorithm E)
  let (algorithm, key) ← validatePublicKey (signingAlgorithm params) key
    (.refused 422 (.obj [("error", .str "missing_fields"),
      ("detail", .str "public_key_hex does not match signing_algorithm")]))
  let suffix ← validateHandleSuffix suffix
    (.refused 422 (.obj [("error", .str "missing_fields"),
      ("detail", .str "handle_suffix must be alphanumeric")]))
  return ((algorithm, key), suffix)

/-- The handle under the domain of the relay. -/
def handleOf (E : Env) (suffix : String) : String :=
  String.ofList (chars suffix ++ '.' :: chars E.identityHandleDomain)

/-- `fresh` is the random nonce that is issued when none is pending. -/
def register (E : Env) (now : Time) (fresh : String) (params : Json) (s : Relay) :
    Reply × Relay :=
  match registerFields E params with
  | .error r => (r, s)
  | .ok ((algorithm, key), suffix) =>
    let handle := handleOf E suffix
    match DidAccountCache.getByHandle handle s with
    | (none, s) => issueRegistrationNonce now fresh key handle s
    | (some did, s) =>
      -- the same key may register again
      match DidAccountCache.get did s with
      | (some entry, s) =>
        if entry.publicKeyHex = key ∧ entry.signingAlgorithm = algorithm then
          issueRegistrationNonce now fresh key handle s
        else (refuse 409 "handle_taken", s)
      | (none, s) => (refuse 409 "handle_taken", s)

/-! ### `anchor` -/

/-- A registration whose proof and nonce are accepted. -/
structure Admitted where
  did : String
  algorithm : String
  publicKeyHex : String
  handle : String
  commitment : Json

/-- The fields of a registration, with the nonce and the signature. -/
def anchorFields (E : Env) (params : Json) : Except Reply (Admitted × Json × Json) := do
  let did ← requireField params "did"
  let key ← requireField params "public_key_hex"
  let handle ← requireField params "handle"
  let sig ← requireField params "registration_sig"
  let nonce ← requireField params "nonce"
  let commitment := params.fetch "genesis_commitment"
  check (IdentityWritePolicy.allowed E.toConfig (signingAlgorithm params))
    (unsupportedSigningAlgorithm E)
  let did ← validateDid did
  let (algorithm, key) ← validatePublicKey (signingAlgorithm params) key
    (refuse 422 "invalid_public_key")
  let handle ← validateHandle E handle
  validateRegistrationBinding E.toPlatform did key commitment
  return (⟨did, algorithm, key, handle, commitment⟩, nonce, sig)

/-- The text that a registration signs: the nonce, or the v1 payload around it. -/
def registrationProof (nonce did : String) (commitment : Json) : Text :=
  if commitment.isNull then chars nonce
  else DidElix.registrationPayload (.str nonce) (.str did) commitment

/-- `allow_dev_identity_signatures` accepts any signature with a fixed prefix. -/
def devSignature (E : Env) (sig : Json) : Bool :=
  E.allowDevIdentitySignatures &&
    sig.str?.any fun s => (afterPrefix (bytes "dev-sig-") (bytes s)).isSome

def validRegistrationSignature (E : Env) (algorithm publicKeyHex : String) (proof : Text)
    (sig : Json) : Bool :=
  devSignature E sig ||
    sig.str?.any fun s => SigVerifier.verifyIdentity E.toPlatform algorithm publicKeyHex proof s

/-- The checks of a registration; an accepted proof consumes the nonce. -/
def admission (E : Env) (now : Time) (params : Json) (s : Relay) : Except Reply Admitted × Relay :=
  match anchorFields E params with
  | .error r => (.error r, s)
  | .ok (reg, nonce, sig) =>
    match nonce with
    | .str nonce =>
      if ¬ validRegistrationSignature E reg.algorithm reg.publicKeyHex
          (registrationProof nonce reg.did reg.commitment) sig then
        (.error (refuse 401 "invalid_sig"), s)
      else
        match DidAccountCache.consumeNonce now reg.publicKeyHex nonce reg.handle s with
        | (.ok, s) => (.ok reg, s)
        | (.handleMismatch, s) => (.error (refuse 401 "handle_mismatch"), s)
        | (.expiredNonce, s) => (.error (refuse 401 "expired_nonce"), s)
        | (.invalidNonce, s) => (.error (refuse 401 "invalid_nonce"), s)
    | _ =>
      -- a nonce that is no text signs nothing, and raises where a text is expected
      if reg.commitment.isNull && !devSignature E sig then (.error (refuse 401 "invalid_sig"), s)
      else (.error .raised, s)

/-- What the account cache holds for a registration. -/
inductive Slot
  | refresh (entry : AccountEntry)
  | fresh
  | duplicateDid
  | handleTaken

def slotOf (reg : Admitted) (s : Relay) : Slot × Relay :=
  match DidAccountCache.get reg.did s with
  | (account, s) =>
    match DidAccountCache.getByHandle reg.handle s with
    | (owner, s) =>
      (match account, owner with
        | some entry, some did =>
          if did = reg.did ∧ entry.publicKeyHex = reg.publicKeyHex ∧
              entry.signingAlgorithm = reg.algorithm then .refresh entry
          else .duplicateDid
        | some _, none => .duplicateDid
        | none, some did => if did ≠ reg.did then .handleTaken else .fresh
        | none, none => .fresh, s)

/-- `v2:#{did}` -/
def v2Nullifier (did : String) : String := String.ofList (chars "v2:" ++ chars did)

def putIdentity (E : Env) (now : Time) (reg : Admitted) (s : Relay) : WriteResult × Relay :=
  IdentityCache.put E now reg.did reg.publicKeyHex (some (v2Nullifier reg.did)) none
    reg.algorithm s

def anchorVerifiedDid (E : Env) (now : Time) (reg : Admitted) (s : Relay) : Reply × Relay :=
  match slotOf reg s with
  | (.refresh entry, s) =>
    match putIdentity E now reg s with
    | (.ok, s) => (.anchored reg.did reg.handle entry.expiresAt, s)
    | (.raised, s) => (.raised, s)
  | (.duplicateDid, s) => (refuse 409 "duplicate_did", s)
  | (.handleTaken, s) => (refuse 409 "handle_taken", s)
  | (.fresh, s) =>
    match DidAccountCache.put E now reg.did reg.publicKeyHex reg.handle
        { signingAlgorithm := reg.algorithm } s with
    | (.raised, s) => (.raised, s)
    | (.ok, s) =>
      match putIdentity E now reg s with
      | (.raised, s) => (.raised, s)
      | (.ok, s) =>
        match DidAccountCache.get reg.did s with
        | (some entry, s) => (.anchored reg.did reg.handle entry.expiresAt, s)
        | (none, s) => (.raised, s)

def anchor (E : Env) (now : Time) (params : Json) (s : Relay) : Reply × Relay :=
  match admission E now params s with
  | (.error r, s) => (r, s)
  | (.ok reg, s) => anchorVerifiedDid E now reg s

/-! ### `rotate_key` -/

/-- The text that the old and the new key sign. -/
def rotationPayload (params : Json) : Text :=
  Json.encode (.obj [("did", params.fetch "did"),
    ("expected_key_version", params.fetch "expected_key_version"),
    ("issued_at", params.fetch "issued_at"), ("new_custody", params.fetch "new_custody"),
    ("new_public_key_hex", params.fetch "new_public_key_hex"),
    ("new_signing_algorithm", params.fetch "new_signing_algorithm"),
    ("type", .str "io.trisaura.identity.keyRotation"), ("version", .int 1)])

/-- A UTC time within five minutes of now, both in whole seconds. -/
def validRotationTime (now : Time) (issuedAt : Json) : Bool :=
  match issuedAt.str?.bind DateTime.fromIso8601 with
  | some (t, offset) => offset == 0 && decide ((now / 1000000 - t / 1000000).natAbs ≤ 300)
  | none => false

/-- The fields of a rotation that the endpoint has checked. -/
structure Rotation where
  did : String
  algorithm : String
  publicKeyHex : String
  expectedVersion : ℤ
  oldSignature : Json
  newSignature : Json

def rotationFields (E : Env) (now : Time) (params : Json) : Except Reply Rotation := do
  let did ← requireField params "did"
  let key ← requireField params "new_public_key_hex"
  let algorithm ← requireField params "new_signing_algorithm"
  let oldSignature ← requireField params "old_signature"
  let newSignature ← requireField params "new_signature"
  let issuedAt ← requireField params "issued_at"
  let expectedVersion ← match params.fetch "expected_key_version" with
    | .int v => .ok v
    | _ => .error (refuse 401 "invalid_key_rotation")
  check ((params.fetch "new_custody").eqv (.str "hardware")) (refuse 401 "invalid_key_rotation")
  check (IdentityWritePolicy.allowed E.toConfig algorithm) (unsupportedSigningAlgorithm E)
  let (algorithm, key) ← validatePublicKey algorithm key (refuse 422 "invalid_public_key")
  check (validRotationTime now issuedAt) (refuse 422 "invalid_rotation_time")
  match did with
  | .str did => return ⟨did, algorithm, key, expectedVersion, oldSignature, newSignature⟩
  -- the lookup of anything but a text raises and is answered as an outage
  | _ => .error (.refused 503 (.obj [("error", .str "verification_unavailable"),
      ("retryable", .bool true)]))

/-- The signature of the rotation payload by a key. -/
def rotationSigned (P : Platform) (algorithm key : String) (params sig : Json) : Bool :=
  sig.str?.any fun s => SigVerifier.verifyIdentity P algorithm key (rotationPayload params) s

def rotationReply : DidAccountCache.RotateError → Reply
  | .staleKeyVersion => refuse 409 "stale_key_version"
  | .identityCacheMissing => refuse 401 "invalid_key_rotation"
  | .notFound => refuse 404 "did_not_found"
  | .unavailable => .refused 503 (.obj [("error", .str "verification_unavailable"),
      ("retryable", .bool true)])

def rotateKey (E : Env) (now : Time) (params : Json) (s : Relay) : Reply × Relay :=
  match rotationFields E now params with
  | .error r => (r, s)
  | .ok rot =>
    match DidAccountCache.get rot.did s with
    | (none, s) => (refuse 404 "did_not_found", s)
    | (some current, s) =>
      if current.keyVersion = rot.expectedVersion ∧
          rotationSigned E.toPlatform current.signingAlgorithm current.publicKeyHex params
            rot.oldSignature = true ∧
          rotationSigned E.toPlatform rot.algorithm rot.publicKeyHex params
            rot.newSignature = true then
        match DidAccountCache.rotateKey rot.did rot.expectedVersion rot.publicKeyHex
            rot.algorithm s with
        | (.ok entry, s) => (.rotated rot.did entry, s)
        | (.error e, s) => (rotationReply e, s)
      else (refuse 401 "invalid_key_rotation", s)

/-! ### What the checks of a registration establish -/

theorem check_eq_ok {b : Bool} {r : Reply} {u : Unit} : check b r = .ok u ↔ b = true := by
  cases b <;> simp [check]

theorem validatePublicKey_eq_ok {algorithm key : Json} {r : Reply} {a k : String}
    (h : validatePublicKey algorithm key r = .ok (a, k)) : validPublicKey a k = true := by
  unfold validatePublicKey at h
  split at h
  · split at h
    · next hk =>
      cases h
      exact hk
    · cases h
  · cases h

theorem validateHandle_eq_ok {E : Env} {handle : Json} {s : String}
    (h : validateHandle E handle = .ok s) : validHandle E s = true := by
  unfold validateHandle at h
  split at h
  · split at h
    · next hs =>
      cases h
      exact hs
    · cases h
  · cases h

theorem validateDid_eq_ok {did : Json} {s : String} (h : validateDid did = .ok s) :
    did = .str s ∧ validDid s = true := by
  unfold validateDid at h
  split at h
  · split at h
    · next hs =>
      cases h
      exact ⟨rfl, hs⟩
    · cases h
  · cases h

/-- What the fields of a registration have passed. -/
structure ValidFields (E : Env) (params : Json) (reg : Admitted) : Prop where
  did : validDid reg.did = true
  publicKey : validPublicKey reg.algorithm reg.publicKeyHex = true
  handle : validHandle E reg.handle = true
  commitment : reg.commitment = params.fetch "genesis_commitment"
  binding : validateRegistrationBinding E.toPlatform reg.did reg.publicKeyHex reg.commitment
    = .ok ()

theorem anchorFields_eq_ok {E : Env} {params nonce sig : Json} {reg : Admitted}
    (h : anchorFields E params = .ok (reg, nonce, sig)) : ValidFields E params reg := by
  simp only [anchorFields, bind_eq_ok] at h
  obtain ⟨_, -, _, -, _, -, _, -, _, -, _, -, did, hdid, ⟨algorithm, key⟩, hkey, handle, hhandle,
    _, hbinding, hreg⟩ := h
  cases hreg
  exact ⟨(validateDid_eq_ok hdid).2, validatePublicKey_eq_ok hkey, validateHandle_eq_ok hhandle,
    rfl, hbinding⟩

/-- The checks of a registration change only the nonces. -/
theorem admission_same (E : Env) (now : Time) (params : Json) (s : Relay) :
    s.SameButNonces (admission E now params s).2 := by
  unfold admission
  split
  · exact .refl s
  next reg nonce sig _ =>
  split
  · next n _ =>
    split
    · exact .refl s
    · have hconsume := DidAccountCache.consumeNonce_same now reg.publicKeyHex n reg.handle s
      generalize DidAccountCache.consumeNonce now reg.publicKeyHex n reg.handle s = r at hconsume
      obtain ⟨_ | _ | _ | _, t⟩ := r <;> exact hconsume
  · split <;> exact .refl s

/-- An admitted registration has valid fields, and its key signed the nonce. -/
theorem admission_eq_ok {E : Env} {now : Time} {params : Json} {s : Relay} {reg : Admitted}
    (h : (admission E now params s).1 = .ok reg) : ValidFields E params reg ∧
      ∃ nonce sig, validRegistrationSignature E reg.algorithm reg.publicKeyHex
        (registrationProof nonce reg.did reg.commitment) sig = true := by
  unfold admission at h
  split at h
  · cases h
  next reg' nonce sig _ =>
  split at h
  · next n hfields =>
    split at h
    · cases h
    next hsig =>
    generalize DidAccountCache.consumeNonce now reg'.publicKeyHex n reg'.handle s = r at h
    obtain ⟨_ | _ | _ | _, t⟩ := r
    · cases h
      exact ⟨anchorFields_eq_ok hfields, n, sig, by simpa using hsig⟩
    all_goals cases h
  · split at h <;> cases h

/-- What the account cache holds for a registration is read by two lookups. -/
theorem slotOf_eq (reg : Admitted) (s : Relay) :
    (slotOf reg s).2 =
      (DidAccountCache.getByHandle reg.handle (DidAccountCache.get reg.did s).2).2 := by
  unfold slotOf
  rfl

end IdentityV2

end Ansible
