import Ansible.Lib.JsonParse
import Ansible.Relay.SigVerifier

/-!
# Independent verification of relay ops

The AppView does not trust the relay's check of a signature: it verifies every op of the
delta again, over the same canonical text, before it folds the op.

## Main definitions

* `decodePayload` — the payload object, from JSON or base-64 JSON.
* `canonicalJson`, `signingPayload` — the text that the author signed.
* `verify`, `Prepared`, `prepareOp` — the verification of one op.
* `toyOp` — an op that verifies on the toy platform.
-/

namespace Ansible

namespace AppView

/-- An op of the relay delta.  The delta carries no anchor expiry, so that check passes. -/
structure Op where
  logId : ℤ
  opId : String
  authorDid : String
  entityType : String
  entityId : String
  opType : String
  payload : Json
  signature : Option String
  publicKeyHex : Option String
  signingAlgorithm : Option String
  canonicalAuthorDid : Option String
  reputationTier : Option String
  receivedAt : Option String
  removed : Bool

/-! ### The signed text -/

def joinFields (entries : List (String × Text)) : Text :=
  '{' :: (Json.commaSep (entries.map fun kv => Json.encodeString kv.1 ++ ':' :: kv.2) ++ ['}'])

mutual

/-- JSON with the members of every object in the order of their keys. -/
def canonicalJson : Json → Text
  | .obj f => joinFields ((canonicalFields f).insertionSort fun a b => bytes a.1 ≤ bytes b.1)
  | .arr l => '[' :: (Json.commaSep (canonicalElems l) ++ [']'])
  | j => j.encode

def canonicalElems : List Json → List Text
  | [] => []
  | v :: l => canonicalJson v :: canonicalElems l

def canonicalFields : List (String × Json) → List (String × Text)
  | [] => []
  | (k, v) :: l => (k, canonicalJson v) :: canonicalFields l

end

/-- `SigningPayload.build` -/
def signingPayload (op : Op) : Text :=
  canonicalJson (.obj [("author_did", .str op.authorDid), ("entity_id", .str op.entityId),
    ("entity_type", .str op.entityType), ("op_id", .str op.opId), ("op_type", .str op.opType),
    ("payload", op.payload)])

/-! ### Payloads -/

def validText (b : Binary) : Option Text :=
  if (decodeUtf8 b).utf8 = b then some (decodeUtf8 b) else none

/-- The object that a text or its base-64 reading denotes; the empty one by default. -/
def decodePayload : Json → Json
  | .obj f => .obj f
  | .str s =>
    match Json.decode (chars s) with
    | some (.obj f) => .obj f
    | _ =>
      match ((decode64 (bytes s)).bind validText).bind Json.decode with
      | some (.obj f) => .obj f
      | _ => .obj []
  | _ => .obj []

/-! ### Signatures -/

namespace SigVerifier

/-- A big-endian number without its leading zeroes, of one byte at least. -/
def trimLeadingZeroes : Binary → Binary
  | 0 :: b :: r => trimLeadingZeroes (b :: r)
  | r => r

def encodeDerInteger (b : Binary) : Binary :=
  match trimLeadingZeroes b with
  | first :: r => if 128 ≤ first.toNat then 0 :: first :: r else first :: r
  | [] => []

/-- The DER form of a signature given by its two numbers. -/
def encodeEcdsaDer (r s : Binary) : Binary :=
  let r := encodeDerInteger r
  let s := encodeDerInteger s
  let body := 2 :: UInt8.ofNat r.length :: r ++ 2 :: UInt8.ofNat s.length :: s
  48 :: UInt8.ofNat body.length :: body

/-- Signatures of 64 bytes are two numbers, those of 68 to 72 bytes are DER. -/
def decodeP256Signature (signatureHex : String) : Option Binary :=
  match decode16 (bytes signatureHex) with
  | some sig =>
    if sig.length = 64 then some (encodeEcdsaDer (sig.take 32) (sig.drop 32))
    else if 68 ≤ sig.length ∧ sig.length ≤ 72 then some sig
    else none
  | none => none

def verifyP256 (P : Platform) (publicKeyHex : String) (message : Text) (signatureHex : String) :
    Bool :=
  match Ansible.SigVerifier.decodeHex publicKeyHex 65, decodeP256Signature signatureHex with
  | some key, some sig => key.head? == some 4 && P.p256Verify key message.utf8 sig
  | _, _ => false

def verifyIdentity (P : Platform) (algorithm publicKeyHex : String) (message : Text)
    (signatureHex : String) : Bool :=
  if algorithm = "ed25519" then
    Ansible.SigVerifier.verifyEd25519 P publicKeyHex message signatureHex
  else if algorithm = "p256-sha256" then verifyP256 P publicKeyHex message signatureHex
  else false

end SigVerifier

def sha256Hex (P : Platform) (t : Text) : Text := encode16 (P.sha256 t.utf8)

/-- The receipt of a Forum Host for an op whose author confirmed it with a passkey. -/
def webPublicationProofValid (P : Platform) (op : Op) (payload : Json) : Bool :=
  let proof := payload.fetch "web_author_proof"
  let operation := payload.fetch "web_operation"
  let operationHash := payload.fetch "web_operation_hash"
  let receipt := payload.fetch "web_host_receipt"
  proof.isObj && operation.isObj && receipt.isObj &&
  (proof.fetch "scheme").eqv (.str "webauthn-p256-sha256") &&
  (proof.fetch "user_present").eqv (.bool true) &&
  (proof.fetch "user_verified").eqv (.bool true) &&
  (operation.fetch "operation_id").eqv (.str op.opId) &&
  (operation.fetch "author_did").eqv (.str op.authorDid) &&
  (operation.fetch "entity_type").eqv (.str op.entityType) &&
  (operation.fetch "entity_id").eqv (.str op.entityId) &&
  operationHash.eqv (proof.fetch "operation_hash") &&
  operationHash.eqv (receipt.fetch "operation_hash") &&
  (match operationHash, receipt.fetch "public_key_hex", receipt.fetch "signature" with
    | .str hash, .str key, .str sig =>
      chars hash == sha256Hex P (canonicalJson operation) &&
        Ansible.SigVerifier.verifyEd25519 P key (chars hash) sig
    | _, _, _ => false)

inductive Rejection
  | moderationRemoved
  | badSignature
  deriving DecidableEq, Repr

/-- The author's signature over the op verifies. -/
def signatureValid (P : Platform) (op : Op) : Bool :=
  match op.publicKeyHex, op.signature with
  | some key, some sig =>
    SigVerifier.verifyIdentity P (op.signingAlgorithm.getD "ed25519") key (signingPayload op) sig
  | _, _ => false

/-- A removal by the host carries no signature and is never verified. -/
def verify (P : Platform) (op : Op) : Except Rejection Unit :=
  if op.removed then .error .moderationRemoved
  else if webPublicationProofValid P op (decodePayload op.payload) then .ok ()
  else if ¬ signatureValid P op then .error .badSignature
  else .ok ()

/-- An op with its decoded payload and the outcome of its verification. -/
structure Prepared where
  op : Op
  payload : Json
  verification : Except Rejection Unit

def prepareOp (P : Platform) (op : Op) : Prepared where
  op := op
  payload := decodePayload op.payload
  verification := verify P op

def Prepared.verified (e : Prepared) : Bool := e.verification.isOk

/-! ### Toy ops -/

/-- An op on one murmur, without a signature. -/
def toyUnsigned (logId : ℤ) (opId opType : String) : Op where
  logId := logId
  opId := opId
  authorDid := "did:elix:a"
  entityType := "murmur"
  entityId := "m"
  opType := opType
  payload := .obj []
  signature := none
  publicKeyHex := some (toyKeyHex 1)
  signingAlgorithm := some "p256-sha256"
  canonicalAuthorDid := none
  reputationTier := none
  receivedAt := none
  removed := false

/-- The op with the signature of its author. -/
def toyOp (logId : ℤ) (opId opType : String) : Op :=
  { toyUnsigned logId opId opType with
    signature := some (toySign 1 (signingPayload (toyUnsigned logId opId opType))) }

end AppView

end Ansible
