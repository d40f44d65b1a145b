import Ansible.Issuer.Issuance
import Ansible.Lib.Base58
import Ansible.Lib.GoJson
import Ansible.Relay.SigVerifier

/-!
# Signed humanity credentials

The credential document that the issuer builds for a natural person, and its Data Integrity
proof: the hashes of the proof options and of the document, both in canonical JSON, signed and
written in base 58.

## Main definitions

* `CredentialSubject`, `HumanityMethod.subject` — the claims of the three kinds of humanity
  credentials.
* `writeCanonicalJSON` — the text that is hashed.
* `SigningIssuer`, `SigningIssuer.issue` — the issuer's identity, and the signed document.
-/

namespace Ansible.Vc

/-! ### The claims -/

/-- The claims about a holder; an empty one is not written. -/
structure CredentialSubject where
  id : String
  humanVerified : Bool := false
  humanAssurance : String := ""
  uniquenessAssurance : String := ""
  verificationMethodClass : String := ""
  emailVerified : Bool := false
  assuranceLevel : String := ""
  assuranceMethod : String := ""
  jurisdiction : String := ""
  nationality : String := ""
  nationalityVerified : Bool := false
  citizenshipVerified : Bool := false
  ageOver18 : Bool := false
  disclosureModel : String := ""
  deriving DecidableEq, Repr

/-- `omitempty` of a text. -/
def textClaim (name value : String) : List (String × Json) :=
  if value = "" then [] else [(name, .str value)]

/-- `omitempty` of a flag. -/
def flagClaim (name : String) (value : Bool) : List (String × Json) :=
  if value then [(name, .bool true)] else []

def CredentialSubject.toJson (s : CredentialSubject) : Json :=
  .obj (("id", .str s.id) :: flagClaim "humanVerified" s.humanVerified ++
    textClaim "humanAssurance" s.humanAssurance ++
    textClaim "uniquenessAssurance" s.uniquenessAssurance ++
    textClaim "verificationMethodClass" s.verificationMethodClass ++
    flagClaim "emailVerified" s.emailVerified ++ textClaim "assuranceLevel" s.assuranceLevel ++
    textClaim "assuranceMethod" s.assuranceMethod ++ textClaim "jurisdiction" s.jurisdiction ++
    textClaim "nationality" s.nationality ++
    flagClaim "nationalityVerified" s.nationalityVerified ++
    flagClaim "citizenshipVerified" s.citizenshipVerified ++ flagClaim "ageOver18" s.ageOver18 ++
    textClaim "disclosureModel" s.disclosureModel)

def humanityCredentialType : String := "TrisAuraHumanityCredential"

/-- The three ways to a humanity credential. -/
inductive HumanityMethod
  | issue
  | issuePassport
  | issueMobileMoicaRP
  deriving DecidableEq, Repr

def HumanityMethod.subject (holderDID : String) : HumanityMethod → CredentialSubject
  | .issue => {
      id := holderDID
      humanVerified := true
      humanAssurance := "verified"
      uniquenessAssurance := "strong"
      verificationMethodClass := "government_eid"
      assuranceLevel := "tw_natural_person_certificate"
      assuranceMethod := "tw_fido_or_moica"
      jurisdiction := "TW" }
  | .issuePassport => {
      id := holderDID
      humanVerified := true
      humanAssurance := "verified"
      uniquenessAssurance := "strong"
      verificationMethodClass := "government_document"
      assuranceLevel := "passport_document"
      assuranceMethod := "passport_nfc" }
  | .issueMobileMoicaRP => {
      id := holderDID
      humanVerified := true
      humanAssurance := "verified"
      uniquenessAssurance := "strong"
      verificationMethodClass := "government_eid"
      assuranceLevel := "tw_natural_person_certificate"
      assuranceMethod := "mobilemoica_rp_explicit_disclosure"
      jurisdiction := "TW"
      disclosureModel := "explicit_rp" }

/-! ### Canonical JSON -/

/-- `jsonString`: without the escapes for HTML. -/
def jsonString (s : String) : Text :=
  '"' :: ((chars s).flatMap (fun c =>
    if c = '<' ∨ c = '>' ∨ c = '&' then [c] else GoJson.escapeChar c) ++ ['"'])

mutual

/-- The members of an object in the order of their keys.  No credential holds a number, and
none is written. -/
def writeCanonicalJSON : Json → Option Text
  | .null => some (chars "null")
  | .bool b => some (chars (if b then "true" else "false"))
  | .str s => some (jsonString s)
  | .arr l => (writeElems l).map fun items => '[' :: (Json.commaSep items ++ [']'])
  | .obj f => (writeFields f).map fun members =>
      '\x7b' :: (Json.commaSep ((members.insertionSort fun a b => bytes a.1 ≤ bytes b.1).map
        fun m => jsonString m.1 ++ ':' :: m.2) ++ ['\x7d'])
  | .int _ => none
  | .float _ => none

def writeElems : List Json → Option (List Text)
  | [] => some []
  | v :: l => do
    let text ← writeCanonicalJSON v
    let rest ← writeElems l
    return text :: rest

def writeFields : List (String × Json) → Option (List (String × Text))
  | [] => some []
  | (k, v) :: l => do
    let text ← writeCanonicalJSON v
    let rest ← writeFields l
    return (k, text) :: rest

end

/-! ### The proof -/

/-- The signer of an issuer: its public key, and the signature of a message unless the signing
fails. -/
structure Signer where
  publicKey : Binary
  sign : Binary → Option Binary

/-- The identity of an issuer. -/
structure SigningIssuer where
  issuerDID : String
  issuerURL : String
  signer : Signer
  ttlDays : ℕ

/-- `time.RFC3339` in UTC. -/
def formatRFC3339 (t : GoTime) : String :=
  let seconds := t.instant / 1000000000
  let (year, month, day) := DateTime.civilFromDays (seconds / 86400 - GoJson.epochDays)
  let clock := (seconds % 86400).toNat
  String.ofList (GoJson.padded 4 year.toNat ++ '-' :: GoJson.padded 2 month ++
    '-' :: GoJson.padded 2 day ++ 'T' :: GoJson.padded 2 (clock / 3600) ++
    ':' :: GoJson.padded 2 (clock / 60 % 60) ++ ':' :: GoJson.padded 2 (clock % 60) ++ ['Z'])

/-- `AddDate(0, 0, days)` -/
def addDays (t : GoTime) (days : ℕ) : GoTime :=
  { t with instant := t.instant + days * 86400 * 1000000000 }

def multibaseBase58BTCEncode (data : Binary) : String :=
  String.ofList ('z' :: Base58.encode data)

def credentialContext : Json :=
  .arr [.str "https://www.w3.org/ns/credentials/v2",
    .str "https://elix.cool/contexts/humanity/v1"]

namespace SigningIssuer

/-- The members of a credential without its proof. -/
def document (I : SigningIssuer) (credentialType : String) (subject : CredentialSubject)
    (now : GoTime) (credHex : String) : List (String × Json) :=
  [("@context", credentialContext), ("id", .str (credentialID I.issuerURL credHex)),
    ("type", .arr [.str "VerifiableCredential", .str credentialType]),
    ("issuer", .str I.issuerDID), ("validFrom", .str (formatRFC3339 now)),
    ("validUntil", .str (formatRFC3339 (addDays now I.ttlDays))),
    ("credentialSubject", subject.toJson),
    ("credentialStatus", .obj [("id", .str (I.issuerURL ++ "/api/v1/vc/status/" ++ credHex)),
      ("type", .str "TrisAuraStatusEndpoint2024")])]

/-- The members of a proof without its value. -/
def proofOptions (I : SigningIssuer) (now : GoTime) : List (String × Json) :=
  [("@context", credentialContext), ("type", .str "DataIntegrityProof"),
    ("cryptosuite", .str "eddsa-jcs-2022"), ("created", .str (formatRFC3339 now)),
    ("verificationMethod", .str (I.issuerDID ++ "#key-1")),
    ("proofPurpose", .str "assertionMethod")]

/-- What is signed: the hash of the proof options before that of the document. -/
def dataIntegrityHashData (P : Platform) (document proofConfig : Json) : Option Binary := do
  let transformedDocument ← writeCanonicalJSON document
  let canonicalProofConfig ← writeCanonicalJSON proofConfig
  return P.sha256 canonicalProofConfig.utf8 ++ P.sha256 transformedDocument.utf8

def createDataIntegrityProof (P : Platform) (I : SigningIssuer) (document : Json) (now : GoTime) :
    Option Json := do
  let hashData ← dataIntegrityHashData P document (.obj (I.proofOptions now))
  let signature ← I.signer.sign hashData
  return .obj (I.proofOptions now ++
    [("proofValue", .str (multibaseBase58BTCEncode signature))])

/-- The signed credential.  The issuer adds its record to the store afterwards, which
`Pc.next` models. -/
def issue (P : Platform) (I : SigningIssuer) (credentialType : String)
    (subject : CredentialSubject) (now : GoTime) (credHex : String) : Option Json := do
  let document := I.document credentialType subject now credHex
  let proof ← createDataIntegrityProof P I (.obj document) now
  return .obj (document ++ [("proof", proof)])

def issueHumanity (P : Platform) (I : SigningIssuer) (method : HumanityMethod)
    (holderDID : String) (now : GoTime) (credHex : String) : Option Json :=
  I.issue P humanityCredentialType (method.subject holderDID) now credHex

/-- The `publicKeyMultibase` of the issuer's DID document. -/
def publicKeyMultibase (I : SigningIssuer) : String :=
  multibaseBase58BTCEncode (0xed :: 0x01 :: I.signer.publicKey)

/-- The members of an issued credential, its proof with a value in base 58. -/
theorem issue_eq_some {P : Platform} {I : SigningIssuer} {credentialType : String}
    {subject : CredentialSubject} {now : GoTime} {credHex : String} {vc : Json}
    (h : I.issue P credentialType subject now credHex = some vc) :
    ∃ signature, vc = .obj (I.document credentialType subject now credHex ++
      [("proof", .obj (I.proofOptions now ++
        [("proofValue", .str (multibaseBase58BTCEncode signature))]))]) := by
  simp only [issue, createDataIntegrityProof, Option.bind_eq_bind, Option.bind_eq_some_iff] at h
  obtain ⟨proof, ⟨hashData, -, signature, -, hproof⟩, hvc⟩ := h
  cases hproof
  exact ⟨signature, (Option.some.inj hvc).symm⟩

end SigningIssuer

end Ansible.Vc
