import Ansible.Client.DidElixResolver
import Ansible.Issuer.HumanityCredential
import Ansible.Lib.DartJson
import Ansible.Relay.Reputation

/-!
# Attestations in the app

A relay serves the credential that earned the tier of a DID.  The app trusts the issuer, not the
relay: it verifies the proof of the credential under the key of the issuer and derives the tier
itself.  It expects the signature in hexadecimal, over the document; the issuer signs hashes
and writes the signature in base 58.

## Main definitions

* `Client.HumanAssuranceProfile` — the assurance of a credential, and its tier.
* `Client.verifyEd25519` — signatures in hexadecimal, as Dart reads them.
* `Client.decodeEd25519Multibase` — the key in a DID document.
* `Client.AttestationService`, `Client.verifyVc`, `Client.verifiedTierFor` — the service.
* `IdentityController.attestation` — what the relay serves.

## Main results

* `Client.verifyVc_issued` — **no credential of the issuer is verified.**
-/

namespace Ansible

namespace Client

/-! ### Profiles -/

structure HumanAssuranceProfile where
  identityControl : String
  humanEvidence : String
  uniqueness : String
  methodClass : String
  deriving DecidableEq, Repr

def HumanAssuranceProfile.compatibilityTier (a : HumanAssuranceProfile) : String :=
  if a.humanEvidence = "natural_person" ∧ a.uniqueness = "strong" then "unique_human"
  else if a.humanEvidence = "natural_person" then "humanity_limited"
  else if a.humanEvidence = "liveness" then "humanity_limited"
  else if a.humanEvidence = "legacy_verified" then "verified_human"
  else "basic"

/-- `_assuranceForCredential`; a `TypeError` for a method class that is no text. -/
def assuranceForCredential (credentialType : String) (subject : Json) :
    Option HumanAssuranceProfile :=
  let nothing : HumanAssuranceProfile := ⟨"did_key", "none", "unknown", "none"⟩
  let methodClass := asStringOrNull (subject.fetch "verificationMethodClass")
  if credentialType ≠ "TrisAuraHumanityCredential" ∨
      (subject.fetch "humanVerified").eqv (.bool true) = false then some nothing
  else
    match subject.fetch "humanAssurance", subject.fetch "uniquenessAssurance" with
    | .str "verified", .str uniqueness =>
      if uniqueness ∈ ["strong", "limited", "unknown"] then
        methodClass.map fun m => ⟨"did_key", "natural_person", uniqueness, m.getD "unspecified"⟩
      else some nothing
    | .str "liveness", .str uniqueness =>
      if uniqueness ∈ ["limited", "unknown"] then
        methodClass.map fun m => ⟨"did_key", "liveness", uniqueness, m.getD "liveness"⟩
      else some nothing
    | .null, .null => some ⟨"did_key", "legacy_verified", "unknown", "legacy"⟩
    | _, _ => some nothing

/-! ### Signatures -/

/-- `Ed25519Keys.verify`, false where it throws. -/
def verifyEd25519 (P : Platform) (publicKeyHex : String) (message : Text) (sigHex : String) :
    Bool := (ed25519KeysVerify P publicKeyHex message sigHex).getD false

/-! ### The signed text -/

mutual

/-- `_canonicalValue`: the keys in the order of their code units. -/
def canonicalValue : Json → Json
  | .obj f => .obj ((canonicalFields f).insertionSort fun a b => codeUnits a.1 ≤ codeUnits b.1)
  | .arr l => .arr (canonicalElems l)
  | j => j

def canonicalElems : List Json → List Json
  | [] => []
  | v :: l => canonicalValue v :: canonicalElems l

def canonicalFields : List (String × Json) → List (String × Json)
  | [] => []
  | (k, v) :: l => (k, canonicalValue v) :: canonicalFields l

end

def canonicalPayload (unsigned : Json) : Text := DartJson.encode (canonicalValue unsigned)

/-! ### The key of the issuer -/

/-- The key of a multibase text, in hexadecimal. -/
def decodeEd25519Multibase (multibase : String) : Option String :=
  match chars multibase with
  | 'z' :: c :: cs =>
    match Base58.decode (c :: cs) with
    | some (0xed :: 0x01 :: key) =>
      if key.length = 32 then some (String.ofList (encode16 key)) else none
    | _ => none
  | _ => none

/-- A response: its status, and its body unless that is no JSON. -/
structure Response where
  statusCode : ℕ
  body : Option Json

/-- The settings of the service. -/
structure AttestationService where
  issuerHost : String
  pinnedIssuerKeyHex : Option String := none

/-- What the service keeps: the key it resolved, and its answers. -/
structure AttestationCache where
  issuerKeyHex : Option String := none
  assurances : String → Option (Option HumanAssuranceProfile) := fun _ => none

/-- The key in a DID document. -/
def keyOfDocument (response : Response) : Option String := do
  if response.statusCode = 200 then
    let document ← response.body
    match document.fetch "verificationMethod" with
    | .arr (method :: _) =>
      if method.isObj = true then
        decodeEd25519Multibase (← asString (method.fetch "publicKeyMultibase"))
      else none
    | _ => none
  else none

/-- `_issuerPublicKeyHex`: the pinned key, else that of the issuer's document, which is kept. -/
def issuerPublicKeyHex (S : AttestationService) (document : Option Response)
    (cache : AttestationCache) : Option String × AttestationCache :=
  match S.pinnedIssuerKeyHex.filter (· != ""), cache.issuerKeyHex with
  | some key, _ => (some key, cache)
  | none, some key => (some key, cache)
  | none, none =>
    let key := document.bind keyOfDocument
    (key, { cache with issuerKeyHex := key })

/-! ### Verification -/

def recognizedCredentialTypes : List String := ["TrisAuraHumanityCredential", "EmailCredential"]

/-- `validUntil` lies ahead, and `validFrom`, when it is a time, does not. -/
def withinValidity (toUtc : ℤ → ℤ) (now : ℤ) (vc : Json) : Option Bool := do
  let validUntil ← asStringOrNull (vc.fetch "validUntil")
  let validFrom ← asStringOrNull (vc.fetch "validFrom")
  let notAfter := DartDateTime.parseUtc toUtc (validUntil.getD "")
  let notBefore := DartDateTime.parseUtc toUtc (validFrom.getD "")
  return notAfter.any (now < ·) && notBefore.all (· ≤ now)

/-- The checks before the proof: the recognized type and the subject of the credential. -/
def checkedSubject (S : AttestationService) (toUtc : ℤ → ℤ) (now : ℤ) (did : String)
    (vc : Json) : Option (String × Json) := do
  let subject := vc.fetch "credentialSubject"
  if (subject.isObj && (subject.fetch "id").eqv (.str did) &&
      (vc.fetch "issuer").eqv (.str ("did:web:" ++ S.issuerHost))) = true then
    match vc.fetch "type" with
    | .arr types =>
      let credentialType ← (types.filterMap Json.str?).find? (recognizedCredentialTypes.contains ·)
      if (← withinValidity toUtc now vc) = true then some (credentialType, subject) else none
    | _ => none
  else none

/-- `_verifyVc`, and the key it resolved. -/
def verifyVc (P : Platform) (S : AttestationService) (toUtc : ℤ → ℤ) (now : ℤ) (did : String)
    (vc : Json) (document : Option Response) (cache : AttestationCache) :
    Option HumanAssuranceProfile × AttestationCache :=
  match checkedSubject S toUtc now did vc, ((vc.fetch "proof").fetch "proofValue").str? with
  | some (credentialType, subject), some proofValue =>
    if proofValue = "" then (none, cache)
    else
      match issuerPublicKeyHex S document cache with
      | (none, cache) => (none, cache)
      | (some issuerKeyHex, cache) =>
        if verifyEd25519 P issuerKeyHex (canonicalPayload (vc.erase "proof")) proofValue then
          (assuranceForCredential credentialType subject, cache)
        else (none, cache)
  | _, _ => (none, cache)

/-- `verifiedAssuranceFor`: the answer of the relay is verified once, and kept. -/
def verifiedAssuranceFor (P : Platform) (S : AttestationService) (toUtc : ℤ → ℤ) (now : ℤ)
    (did : String) (reply document : Option Response) (cache : AttestationCache) :
    Option HumanAssuranceProfile × AttestationCache :=
  match cache.assurances did, reply with
  | some assurance, _ => (assurance, cache)
  | none, none => (none, cache)
  | none, some response =>
    let vc := (response.body.getD .null).fetch "vc"
    match if response.statusCode = 200 ∧ vc.isObj then
        verifyVc P S toUtc now did vc document cache
      else (none, cache) with
    | (assurance, cache) =>
      (assurance, { cache with
        assurances := fun d => if d = did then some assurance else cache.assurances d })

def verifiedTierFor (P : Platform) (S : AttestationService) (toUtc : ℤ → ℤ) (now : ℤ)
    (did : String) (reply document : Option Response) (cache : AttestationCache) :
    Option String × AttestationCache :=
  match verifiedAssuranceFor P S toUtc now did reply document cache with
  | (assurance, cache) => (assurance.map HumanAssuranceProfile.compatibilityTier, cache)

end Client

/-! ### What the relay serves -/

namespace IdentityController

def assuranceObject (a : HumanAssurance) : Json :=
  .obj [("identity_control", .str "did_key"), ("human_evidence", .str a.humanEvidence),
    ("uniqueness", .str a.uniqueness), ("method_class", a.methodClass)]

/-- `GET /identity/attestation/:did` -/
def attestation (did : String) (t : AttestationTable) : Client.Response :=
  match t did with
  | none => ⟨404, some (.obj [("error", .str "attestation_not_found")])⟩
  | some row =>
    match HumanAssurance.fromCredential row.credentialType (some row.vc) with
    | .error _ => ⟨500, none⟩
    | .ok assurance => ⟨200, some (.obj [("did", .str did),
        ("credential_type", .str row.credentialType),
        ("reputation_tier", .str row.reputationTier), ("assurance", assuranceObject assurance),
        ("vc", row.vc),
        ("presented_at", .str (String.ofList (DateTime.toIso8601 row.presentedAt 6)))])⟩

/-- An attestation holds a credential that the relay accepted, with the tier it gives. -/
structure Attests (V : VpEnv) (did : String) (row : DidAttestation) : Prop where
  accepted : ∃ now, VpVerifier.validateVc V now did row.vc = .ok ()
  credentialType : VpVerifier.vcCredentialType row.vc = .ok row.credentialType
  tier : ∃ assurance, HumanAssurance.fromCredential row.credentialType (some row.vc)
    = .ok assurance ∧ row.reputationTier = assurance.compatibilityTier

end IdentityController

namespace Client

/-- The app's tier is that of the relay, an unverified author being `basic`, and a credential
that is revoked or about another subject raises nothing. -/
structure TierAgrees (store : Vc.Store) (did : String) (row : DidAttestation)
    (tier : Option String) : Prop where
  same : tier.getD "basic" = row.reputationTier
  not_elevated : (∃ id, row.vc.fetch "id" = .str id ∧ store.status id = some .revoked) ∨
    (row.vc.fetch "credentialSubject").fetch "id" ≠ .str did → tier.getD "basic" = "basic"

/-- The first answer about a DID is the tier of the served credential, when that verifies. -/
theorem verifiedTierFor_first {P : Platform} {S : AttestationService} {toUtc : ℤ → ℤ} {now : ℤ}
    {did : String} {response : Response} {document : Option Response} {cache : AttestationCache}
    (hfirst : cache.assurances did = none) :
    (verifiedTierFor P S toUtc now did (some response) document cache).1
      = (if response.statusCode = 200 ∧ ((response.body.getD .null).fetch "vc").isObj then
          (verifyVc P S toUtc now did ((response.body.getD .null).fetch "vc") document cache).1
        else none).map HumanAssuranceProfile.compatibilityTier := by
  unfold verifiedTierFor verifiedAssuranceFor
  rw [hfirst]
  dsimp only
  split <;> rfl

/-! ### The key of the issuer is read -/

/-- **The app reads the key of the issuer**, from the document that the issuer publishes. -/
theorem decodeEd25519Multibase_publicKeyMultibase {I : Vc.SigningIssuer}
    (h : I.signer.publicKey.length = 32) :
    decodeEd25519Multibase I.publicKeyMultibase
      = some (String.ofList (encode16 I.signer.publicKey)) := by
  have hdecode := Base58.decode_encode (0xed :: 0x01 :: I.signer.publicKey)
  rw [decodeEd25519Multibase, Vc.SigningIssuer.publicKeyMultibase, Vc.multibaseBase58BTCEncode,
    chars_ofList]
  cases hencoded : Base58.encode (0xed :: 0x01 :: I.signer.publicKey) with
  | nil => rw [hencoded] at hdecode; cases hdecode
  | cons c cs =>
    rw [hencoded] at hdecode
    simp only [hdecode, h, if_true]

def toySigningIssuer : Vc.SigningIssuer where
  issuerDID := "did:web:issuer.example"
  issuerURL := "https://issuer.example"
  signer := {
    publicKey := Reputation.toyIssuerKey
    sign := fun message => some (Reputation.toyIssuerKey ++ toyHash message) }
  ttlDays := 90

theorem decodeEd25519Multibase_toy : decodeEd25519Multibase toySigningIssuer.publicKeyMultibase
    = some (String.ofList (encode16 toySigningIssuer.signer.publicKey)) :=
  decodeEd25519Multibase_publicKeyMultibase (by decide)

/-! ### No signature of the issuer is verified -/

/-- A multibase text is no hexadecimal signature: its first character is no digit. -/
theorem verifyEd25519_multibase (P : Platform) (publicKeyHex : String) (message : Text)
    (data : Binary) :
    verifyEd25519 P publicKeyHex message (Vc.multibaseBase58BTCEncode data) = false := by
  have hunits : codeUnits (Vc.multibaseBase58BTCEncode data)
      = 0x7A :: (Base58.encode data).flatMap utf16 := by
    rw [codeUnits, Vc.multibaseBase58BTCEncode, chars_ofList]
    rfl
  have hbyte : ∀ b, parseByte 0x7A b = none := by
    intro b
    have hdigit : hexUnit 0x7A = none := by decide
    have hspace : isSpaceUnit 0x7A = false := by decide
    rw [parseByte, hdigit]
    cases hexUnit b with
    | none => rfl
    | some y => simp [hspace]
  unfold verifyEd25519 ed25519KeysVerify unhexText
  rw [hunits]
  cases (Base58.encode data).flatMap utf16 with
  | nil =>
    cases unhexUnits (codeUnits publicKeyHex) with
    | none => rfl
    | some key => simp [unhexUnits]
  | cons b rest =>
    have hnone : unhexUnits (0x7A :: b :: rest) = none := by
      rw [unhexUnits, hbyte]
      rfl
    rw [hnone]
    cases unhexUnits (codeUnits publicKeyHex) <;> rfl

section Issued

variable {P : Platform} {I : Vc.SigningIssuer} {method : Vc.HumanityMethod} {holder : String}
  {issuedAt : GoTime} {credHex : String} {vc : Json}

/-- **No credential of the issuer is verified**, whatever key is pinned or resolved. -/
theorem verifyVc_issued (h : I.issueHumanity P method holder issuedAt credHex = some vc)
    (S : AttestationService) (toUtc : ℤ → ℤ) (now : ℤ) (did : String)
    (document : Option Response) (cache : AttestationCache) :
    (verifyVc P S toUtc now did vc document cache).1 = none := by
  obtain ⟨signature, rfl⟩ := Vc.SigningIssuer.issue_eq_some h
  generalize hvc : Json.obj (I.document Vc.humanityCredentialType (method.subject holder) issuedAt
    credHex ++ _) = vc
  have hproof : (vc.fetch "proof").fetch "proofValue"
      = .str (Vc.multibaseBase58BTCEncode signature) := by
    rw [← hvc]
    rfl
  unfold verifyVc
  rw [hproof, Json.str?_str]
  split
  · next heq =>
    cases heq
    split
    · rfl
    · split
      · rfl
      · rw [verifyEd25519_multibase]
        rfl
  · rfl

theorem compatibilityTier_subject (method : Vc.HumanityMethod) (holder : String) :
    (HumanAssurance.fromSubject (method.subject holder).toJson).compatibilityTier
      = "unique_human" := by
  cases method <;>
    simp [HumanAssurance.fromSubject, HumanAssurance.compatibilityTier, Vc.HumanityMethod.subject,
      Vc.CredentialSubject.toJson, Vc.flagClaim, Vc.textClaim, Json.fetch, List.lookup]

/-- The relay derives the highest tier from a credential of the issuer. -/
theorem compatibilityTier_issued
    (h : I.issueHumanity P method holder issuedAt credHex = some vc) {V : VpEnv} {did : String}
    {row : DidAttestation} (hvc : row.vc = vc) (hrow : IdentityController.Attests V did row) :
    row.reputationTier = "unique_human" := by
  obtain ⟨signature, hform⟩ := Vc.SigningIssuer.issue_eq_some h
  obtain ⟨assurance, hassurance, htier⟩ := hrow.tier
  have htype := hrow.credentialType
  rw [hvc, hform] at htype hassurance
  have hcredential : "TrisAuraHumanityCredential" = row.credentialType := Except.ok.inj htype
  rw [← hcredential] at hassurance
  have hsubject : assurance = HumanAssurance.fromSubject (method.subject holder).toJson :=
    (Except.ok.inj hassurance).symm
  rw [htier, hsubject, compatibilityTier_subject]

/-- **The tiers never agree** on a credential of the issuer that the relay accepted and serves:
the relay counts the holder as a unique human, the app as nobody in particular. -/
theorem not_tierAgrees (h : I.issueHumanity P method holder issuedAt credHex = some vc)
    (V : VpEnv) (t : AttestationTable) (did : String) (row : DidAttestation)
    (hserved : t did = some row) (hvc : row.vc = vc)
    (hrow : IdentityController.Attests V did row) (store : Vc.Store) (S : AttestationService)
    (toUtc : ℤ → ℤ) (now : ℤ) (document : Option Response) (cache : AttestationCache)
    (hfirst : cache.assurances did = none) :
    ¬ TierAgrees store did row
      (verifiedTierFor P S toUtc now did (some (IdentityController.attestation did t)) document
        cache).1 := by
  intro hagrees
  obtain ⟨assurance, hassurance, -⟩ := hrow.tier
  have hreply : (IdentityController.attestation did t).statusCode = 200 ∧
      ((IdentityController.attestation did t).body.getD .null).fetch "vc" = vc := by
    rw [IdentityController.attestation, hserved]
    dsimp only
    rw [hassurance, ← hvc]
    exact ⟨rfl, rfl⟩
  have hunverified := verifyVc_issued h S toUtc now did document cache
  have hnone : (verifiedTierFor P S toUtc now did (some (IdentityController.attestation did t))
      document cache).1 = none := by
    rw [verifiedTierFor_first hfirst, hreply.2]
    split
    · rw [hunverified]
      rfl
    · rfl
  have hsame := hagrees.same
  rw [hnone, compatibilityTier_issued h hvc hrow] at hsame
  exact absurd hsame (by decide)

end Issued

/-! ### A credential on the toy platform -/

/-- 1 January 2026. -/
def toyIssuedAt : GoTime := { instant := (GoJson.epochDays + 20454) * 86400 * 1000000000 }

def toyIssued : Json :=
  (toySigningIssuer.issueHumanity .toy .issuePassport Reputation.toyDid toyIssuedAt "00").getD .null

def toyRow : DidAttestation := ⟨"TrisAuraHumanityCredential", "unique_human", toyIssued, 0⟩

/-- The service with the key of the issuer pinned. -/
def toyService : AttestationService where
  issuerHost := "issuer.example"
  pinnedIssuerKeyHex := some (String.ofList (encode16 Reputation.toyIssuerKey))

/-- The credential is issued, the relay accepts it, and the app does not. -/
theorem toyIssued_facts :
    (toySigningIssuer.issueHumanity .toy .issuePassport Reputation.toyDid toyIssuedAt
      "00").isSome = true ∧
    VpVerifier.validateVc Reputation.toyVpEnv (seconds 1767225600) Reputation.toyDid toyIssued
      = .ok () ∧
    (verifiedTierFor .toy toyService id (seconds 1767225600) Reputation.toyDid
      (some (IdentityController.attestation Reputation.toyDid fun _ => some toyRow)) none {}).1
      = none := by
  decide +kernel

theorem attests_toyRow : IdentityController.Attests Reputation.toyVpEnv
    Reputation.toyDid toyRow := by
  refine ⟨⟨seconds 1767225600, ?_⟩, ?_, ?_⟩
  · exact toyIssued_facts.2.1
  · rfl
  · exact ⟨_, rfl, rfl⟩

theorem toyIssued_eq : toySigningIssuer.issueHumanity .toy .issuePassport Reputation.toyDid
    toyIssuedAt "00" = some toyIssued := by
  obtain ⟨vc, hvc⟩ := Option.isSome_iff_exists.1 toyIssued_facts.1
  rw [toyIssued, hvc]
  rfl

theorem not_tierAgrees_toy : ¬ TierAgrees {} Reputation.toyDid toyRow
    (verifiedTierFor .toy toyService id (seconds 1767225600) Reputation.toyDid
      (some (IdentityController.attestation Reputation.toyDid fun _ => some toyRow)) none {}).1 :=
  not_tierAgrees toyIssued_eq Reputation.toyVpEnv (fun _ => some toyRow) Reputation.toyDid toyRow
    rfl rfl attests_toyRow {} toyService id _ none {} rfl

/-- A passport credential is accepted by the relay and served as that of a unique human; the app
with the issuer's key pinned answers nothing. -/
theorem toyIssued_not_verified :
    IdentityController.Attests Reputation.toyVpEnv Reputation.toyDid toyRow ∧
    (verifiedTierFor .toy toyService id (seconds 1767225600) Reputation.toyDid
      (some (IdentityController.attestation Reputation.toyDid fun _ => some toyRow)) none {}).1
      = none ∧
    ¬ TierAgrees {} Reputation.toyDid toyRow
      (verifiedTierFor .toy toyService id (seconds 1767225600) Reputation.toyDid
        (some (IdentityController.attestation Reputation.toyDid fun _ => some toyRow))
          none {}).1 := by
  have hnone := toyIssued_facts.2.2
  refine ⟨attests_toyRow, hnone, fun h => ?_⟩
  have hsame := h.same
  rw [hnone] at hsame
  exact absurd hsame (by decide)

end Client

end Ansible
