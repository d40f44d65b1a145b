import Ansible.Lib.Checks
import Ansible.Lib.DateTime
import Ansible.Relay.DidAccountCache
import Mathlib.Data.List.Sort
import Mathlib.Data.Nat.Digits.Defs

/-!
# Verification of presentations

A presentation is signed by its holder and embeds credentials, each signed by an issuer.
The verifier goes through the credentials in the order of the presentation and accepts the
first one whose subject, type, expiry and issuer signature hold.

## Main definitions

* `deepSortKeys`, `canonicalJson` — the text that holders and issuers sign.
* `pickAcceptedVc` — the first credential that passes them.
* `verifyWithCredential`, `verify` — the verification of a presentation.

## Main results

* `pickAcceptedVc_eq_ok` — the accepted credential is the first that passes its checks.
* `issuer_of_validateVc` — an accepted credential is signed by a registered issuer.
-/

namespace Ansible

/-- An entry of `trusted_vc_issuers`. -/
structure TrustedIssuer where
  did : String
  publicKeyHex : String
  credentialTypes : Option (List String)

/-- The surroundings of a presentation: the registry of issuers, and the verification of a
Schnorr signature (key, hash, signature) on raw bytes. -/
structure VpEnv extends Env where
  trustedVcIssuers : List TrustedIssuer
  schnorrVerify : Binary → Binary → Binary → Bool

namespace VpVerifier

inductive VpError
  | holderNotFound
  | invalidVpProof
  | noCredentials
  | untrustedIssuer
  | invalidVcProof
  | vcSubjectMismatch
  | vcExpired
  | unknownCredentialType
  | invalidNostrBinding
  | nostrBindingMismatch
  | nostrBindingExpired
  /-- A value of an unexpected type raises. -/
  | raised
  deriving DecidableEq, Repr

/-! ### The signed text -/

mutual

/-- The members of every object in the order of their keys. -/
def deepSortKeys : Json → Json
  | .obj f => .obj ((sortFields f).insertionSort fun a b => bytes a.1 ≤ bytes b.1)
  | .arr l => .arr (sortElems l)
  | j => j

def sortElems : List Json → List Json
  | [] => []
  | v :: l => deepSortKeys v :: sortElems l

def sortFields : List (String × Json) → List (String × Json)
  | [] => []
  | (k, v) :: l => (k, deepSortKeys v) :: sortFields l

end

def canonicalJson (value : Json) : Text := (deepSortKeys value).encode

/-! ### Members -/

/-- `Map.get(j, key, default)`, which raises when `j` is no object. -/
def mapGet (j : Json) (key : String) (default : Json) : Except VpError Json :=
  match j with
  | .obj f => .ok ((f.lookup key).getD default)
  | _ => .error .raised

/-- The items that `Enum` goes through; those of an object are pairs, which equal no text. -/
def enumerate : Json → Except VpError (List Json)
  | .arr l => .ok l
  | .obj f => .ok (f.map fun kv => .arr [.str kv.1, kv.2])
  | _ => .error .raised

/-- Some item is one of the texts. -/
def anyIn (items : List Json) (texts : List String) : Bool :=
  items.any fun j => j.str?.any (texts.contains ·)

/-! ### The proof of the holder -/

def resolveHolderKey (did : String) (s : Relay) : Except VpError AccountEntry × Relay :=
  match DidAccountCache.get did s with
  | (some entry, s) => (.ok entry, s)
  | (none, s) => (.error .holderNotFound, s)

/-- The signature covers the presentation with its proof options, all but the value. -/
def verifyVpProof (P : Platform) (vp : Json) (key : AccountEntry) (expectedHolder : String) :
    Except VpError Unit := do
  let proof ← mapGet vp "proof" (.obj [])
  let proofValue ← mapGet proof "proofValue" (.str "")
  let actualHolder ← mapGet vp "holder" (.str "")
  ensure (actualHolder.eqv (.str expectedHolder)) .invalidVpProof
  let canonical := canonicalJson (vp.merge [("proof", proof.erase "proofValue")])
  ensure (proofValue.str?.any fun sig =>
    SigVerifier.verifyIdentity P key.signingAlgorithm key.publicKeyHex canonical sig)
    .invalidVpProof

def extractVcs (vp : Json) : Except VpError (List Json) :=
  match vp.fetch "verifiableCredential" with
  | .arr (vc :: vcs) => .ok (vc :: vcs)
  | _ => .error .noCredentials

/-! ### The checks of a credential -/

def recognisedCredentialTypes : List String :=
  ["TrisAuraHumanityCredential", "NationalityCredential", "TaiwanCitizenshipCredential",
    "AgeOver18Credential", "EmailCredential"]

def checkVcSubject (vc : Json) (holderDid : String) : Except VpError Unit := do
  let subject ← mapGet vc "credentialSubject" (.obj [])
  let subjectId ← mapGet subject "id" .null
  ensure (subjectId.eqv (.str holderDid)) .vcSubjectMismatch

def checkVcType (vc : Json) : Except VpError Unit := do
  let types ← enumerate (← mapGet vc "type" (.arr []))
  ensure (anyIn types recognisedCredentialTypes) .unknownCredentialType

/-- A text that is no date-time does not expire. -/
def checkVcExpiry (now : Time) (vc : Json) : Except VpError Unit := do
  let validUntil ← mapGet vc "validUntil" .null
  let expirationDate ← mapGet vc "expirationDate" .null
  match validUntil.orElse expirationDate with
  | .null | .bool false => .ok ()
  | .str s =>
    match DateTime.fromIso8601 s with
    | some (expiry, _) => ensure (decide (now < expiry)) .vcExpired
    | none => .ok ()
  | _ => .error .raised

/-! ### The proof of the issuer -/

def registryEntry (V : VpEnv) : Json → Except VpError TrustedIssuer
  | .str did =>
    match V.trustedVcIssuers.find? (·.did == did) with
    | some entry => .ok entry
    | none => .error .untrustedIssuer
  | _ => .error .untrustedIssuer

def issuerPermitsType (entry : TrustedIssuer) (vc : Json) : Except VpError Unit :=
  match entry.credentialTypes with
  | none => .ok ()
  | some allowed => do
    let types ← enumerate (← mapGet vc "type" (.arr []))
    ensure (anyIn types allowed) .untrustedIssuer

def base58btcAlphabet : List Char :=
  "123456789ABCDEFGHJKLMNPQRSTUVWXYZabcdefghijkmnopqrstuvwxyz".toList

def base58btcToInteger (encoded : List Char) : Option ℕ :=
  encoded.foldlM (fun value c =>
    if c ∈ base58btcAlphabet then some (value * 58 + base58btcAlphabet.idxOf c) else none) 0

/-- The big-endian bytes of a number, none for zero. -/
def encodeUnsigned (n : ℕ) : Binary := ((Nat.digits 256 n).map UInt8.ofNat).reverse

/-- A multibase signature of 64 bytes, in hexadecimal. -/
def decodeBase58btcSignature : Json → Option String
  | .str s =>
    match chars s with
    | 'z' :: c :: cs => do
      let number ← base58btcToInteger (c :: cs)
      let zeroes := ((c :: cs).takeWhile (· == '1')).length
      let signature := List.replicate zeroes 0 ++ encodeUnsigned number
      if signature.length = 64 then some (String.ofList (encode16 signature)) else none
    | _ => none
  | _ => none

def contextItems : Json → List Json
  | .str s => [.str s]
  | .arr l => l
  | _ => []

def contextPrefix (documentContext proofContext : Json) : Bool :=
  let documentItems := contextItems documentContext
  let proofItems := contextItems proofContext
  !proofItems.isEmpty && decide (proofItems.length ≤ documentItems.length) &&
    (proofItems.zip documentItems).all fun p => p.1.eqv p.2

def dataIntegrityDocument (vc proof : Json) : Option Json :=
  let document := vc.erase "proof"
  match (proof.erase "proofValue").get? "@context" with
  | none => some document
  | some context =>
    if contextPrefix (document.fetch "@context") context then
      some (document.merge [("@context", context)])
    else none

/-- A Data Integrity proof signs the hashes of its options and of the document, an older one
the document. -/
def verifyIssuerSignature (P : Platform) (publicKeyHex : String) (vc proof : Json) : Bool :=
  if (proof.fetch "type").eqv (.str "DataIntegrityProof") &&
      (proof.fetch "cryptosuite").eqv (.str "eddsa-jcs-2022") &&
      (proof.get? "proofValue").isSome then
    match decodeBase58btcSignature (proof.fetch "proofValue"), dataIntegrityDocument vc proof with
    | some signatureHex, some document =>
      let hashData := P.sha256 (canonicalJson (proof.erase "proofValue")).utf8 ++
        P.sha256 (canonicalJson document).utf8
      match SigVerifier.decodeHex publicKeyHex 32, SigVerifier.decodeHex signatureHex 64 with
      | some key, some sig => P.ed25519Verify key hashData sig
      | _, _ => false
    | _, _ => false
  else
    proof.isObj && ((proof.get? "proofValue").getD (.str "")).str?.any fun sig =>
      SigVerifier.verifyEd25519 P publicKeyHex (canonicalJson (vc.erase "proof")) sig

def verifyVcIssuerProof (V : VpEnv) (vc : Json) : Except VpError Unit := do
  let issuerDid ← mapGet vc "issuer" .null
  let proof ← mapGet vc "proof" (.obj [])
  let entry ← registryEntry V issuerDid
  issuerPermitsType entry vc
  ensure (verifyIssuerSignature V.toPlatform entry.publicKeyHex vc proof) .invalidVcProof

/-- The checks that a credential must pass to be accepted. -/
def validateVc (V : VpEnv) (now : Time) (holderDid : String) (vc : Json) :
    Except VpError Unit := do
  checkVcSubject vc holderDid
  checkVcType vc
  checkVcExpiry now vc
  verifyVcIssuerProof V vc

/-! ### The accepted credential -/

/-- The first credential that passes its checks, else the error `e` or that of the last one;
an exception ends the search. -/
def pickFrom (V : VpEnv) (now : Time) (holderDid : String) :
    VpError → List Json → Except VpError Json
  | e, [] => .error e
  | _, vc :: vcs =>
    match validateVc V now holderDid vc with
    | .ok () => .ok vc
    | .error .raised => .error .raised
    | .error e => pickFrom V now holderDid e vcs

def pickAcceptedVc (V : VpEnv) (now : Time) (holderDid : String) (vcs : List Json) :
    Except VpError Json :=
  pickFrom V now holderDid .noCredentials vcs

def vcCredentialType (vc : Json) : Except VpError String := do
  let types ← enumerate (← mapGet vc "type" (.arr []))
  return ((types.filterMap Json.str?).find? (recognisedCredentialTypes.contains ·)).getD
    "VerifiableCredential"

/-- The type and the credential that a presentation is accepted with. -/
def verifyWithCredential (V : VpEnv) (now : Time) (holderDid : String) (vp : Json) (s : Relay) :
    Except VpError (String × Json) × Relay :=
  match resolveHolderKey holderDid s with
  | (.error e, s) => (.error e, s)
  | (.ok key, s) =>
    (do
      verifyVpProof V.toPlatform vp key holderDid
      let vcs ← extractVcs vp
      let vc ← pickAcceptedVc V now holderDid vcs
      return (← vcCredentialType vc, vc), s)

/-- The type that a presentation is accepted with, without the credential. -/
def verify (V : VpEnv) (now : Time) (holderDid : String) (vp : Json) (s : Relay) :
    Except VpError String × Relay :=
  match verifyWithCredential V now holderDid vp s with
  | (r, s) => (r.map Prod.fst, s)

/-! ### Nostr bindings -/

def isHexOf (value : Json) (n : ℕ) : Bool :=
  value.str?.any fun s => (bytes s).all isHex && (bytes s).length == 2 * n && s != ""

/-- `String.downcase` of hexadecimal text. -/
def downcaseHex (s : String) : String := String.ofList ((chars s).map Char.toLower)

def sha256Hex (P : Platform) (t : Text) : String := String.ofList (encode16 (P.sha256 t.utf8))

/-- The event has the shape, the identifier and the signature of a binding. -/
def checkBindingEvent (V : VpEnv) (event : Json) : Except VpError Unit := do
  ensure ((event.fetch "kind").eqv (.int 27235)) .invalidNostrBinding
  ensure ((event.fetch "content").eqv (.str "")) .invalidNostrBinding
  ensure (isHexOf (event.fetch "id") 32) .invalidNostrBinding
  ensure (isHexOf (event.fetch "pubkey") 32) .invalidNostrBinding
  ensure (isHexOf (event.fetch "sig") 64) .invalidNostrBinding
  match event.fetch "created_at", event.fetch "tags", (event.fetch "id").str?,
      (event.fetch "pubkey").str?, (event.fetch "sig").str? with
  | .int createdAt, .arr tags, some id, some pubkey, some sig =>
    let expected := Json.encode (.arr [.int 0, .str (downcaseHex pubkey), .int createdAt,
      event.fetch "kind", .arr tags, event.fetch "content"])
    ensure (downcaseHex id == sha256Hex V.toPlatform expected) .invalidNostrBinding
    match SigVerifier.decodeHex pubkey 32, SigVerifier.decodeHex id 32,
        SigVerifier.decodeHex sig 64 with
    | some key, some hash, some sig => ensure (V.schnorrVerify key hash sig) .invalidNostrBinding
    | _, _, _ => .error .invalidNostrBinding
  | _, _, _, _, _ => .error .invalidNostrBinding

/-- Within five minutes of now, at most one minute ahead; only years up to 9999 are times. -/
def checkBindingEventFreshness (now : Time) (event : Json) : Except VpError Unit :=
  match event.fetch "created_at" with
  | .int createdAt =>
    if createdAt < -377705116800 ∨ 253402300799 < createdAt then .error .invalidNostrBinding
    else if 300 < now / 1000000 - createdAt ∨ 60 < createdAt - now / 1000000 then
      .error .nostrBindingExpired
    else .ok ()
  | _ => .error .invalidNostrBinding

/-- The text of the first tag of that name that has one. -/
def fetchStringTag (tags : List Json) (name : String) : Option String :=
  tags.findSome? fun
    | .arr (.str n :: .str value :: _) => if n = name then some value else none
    | _ => none

def checkBindingEventClaims (P : Platform) (holderDid : String) (vp event : Json) :
    Except VpError Unit := do
  let proof ← mapGet vp "proof" (.obj [])
  let tags := match event.fetch "tags" with
    | .arr l => l
    | _ => []
  match fetchStringTag tags "challenge", fetchStringTag tags "domain",
      fetchStringTag tags "holder", fetchStringTag tags "vp_sha256", fetchStringTag tags "d" with
  | some challenge, some domain, some holder, some vpHash, some marker =>
    ensure (marker == "io.trisaura.vc.nostr-binding.v1" && holder == holderDid &&
      (proof.fetch "challenge").eqv (.str challenge) && (proof.fetch "domain").eqv (.str domain) &&
      vpHash == sha256Hex P (canonicalJson vp)) .nostrBindingMismatch
  | _, _, _, _, _ => .error .nostrBindingMismatch

/-- The public key of a binding event for this holder and presentation. -/
def verifyBindingEvent (V : VpEnv) (now : Time) (holderDid : String) (vp binding : Json) :
    Except VpError String :=
  match binding.fetch "event" with
  | .obj f => do
    let event := Json.obj f
    checkBindingEvent V event
    checkBindingEventFreshness now event
    checkBindingEventClaims V.toPlatform holderDid vp event
    return downcaseHex ((event.fetch "pubkey").str?.getD "")
  | _ => .error .invalidNostrBinding

def verifyNostrBinding (V : VpEnv) (now : Time) (holderDid : String) (vp binding : Json)
    (s : Relay) : Except VpError (String × String) × Relay :=
  match verify V now holderDid vp s with
  | (r, s) => (do
      let credentialType ← r
      return (credentialType, ← verifyBindingEvent V now holderDid vp binding), s)

/-! ### What acceptance establishes -/

variable {V : VpEnv} {now : Time} {did : String} {vc : Json}

theorem pickFrom_eq_ok {e : VpError} {vcs : List Json} (h : pickFrom V now did e vcs = .ok vc) :
    ∃ pre post, vcs = pre ++ vc :: post ∧ validateVc V now did vc = .ok () ∧
      ∀ x ∈ pre, ∃ e, e ≠ .raised ∧ validateVc V now did x = .error e := by
  induction vcs generalizing e with
  | nil => cases h
  | cons x vcs ih =>
    rw [pickFrom] at h
    split at h
    · next hx =>
      cases h
      exact ⟨[], vcs, rfl, hx, by simp⟩
    · cases h
    · next e' hraised hx =>
      obtain ⟨pre, post, rfl, hok, hpre⟩ := ih h
      refine ⟨x :: pre, post, rfl, hok, fun y hy => ?_⟩
      rcases List.mem_cons.1 hy with rfl | hy
      · exact ⟨e', hraised, hx⟩
      · exact hpre y hy

/-- **The accepted credential is the first that passes its checks**; those before it fail
without an exception. -/
theorem pickAcceptedVc_eq_ok {vcs : List Json} (h : pickAcceptedVc V now did vcs = .ok vc) :
    ∃ pre post, vcs = pre ++ vc :: post ∧ validateVc V now did vc = .ok () ∧
      ∀ x ∈ pre, ∃ e, e ≠ .raised ∧ validateVc V now did x = .error e :=
  pickFrom_eq_ok h

/-- The issuer of an accepted credential is registered, and its key signed the credential. -/
theorem issuer_of_validateVc (h : validateVc V now did vc = .ok ()) :
    ∃ entry ∈ V.trustedVcIssuers, ∃ proof,
      vc.fetch "issuer" = .str entry.did ∧
        verifyIssuerSignature V.toPlatform entry.publicKeyHex vc proof = true := by
  simp only [validateVc, verifyVcIssuerProof, bind_eq_ok, ensure_eq_ok] at h
  obtain ⟨_, -, _, -, _, -, issuer, hissuer, proof, -, entry, hentry, _, -, hsig⟩ := h
  have hfetch : vc.fetch "issuer" = issuer := by
    unfold mapGet at hissuer
    split at hissuer
    · exact Except.ok.inj hissuer
    · cases hissuer
  unfold registryEntry at hentry
  split at hentry
  · split at hentry
    · next did e he =>
      obtain rfl := Except.ok.inj hentry
      have hdid := List.find?_some he
      exact ⟨e, List.mem_of_find?_eq_some he, proof, by rw [hfetch, beq_iff_eq.1 hdid], hsig⟩
    · cases hentry
  · cases hentry

end VpVerifier

end Ansible
