import Ansible.AppView.PoisonIsolation
import Ansible.Relay.AnchorObject

/-!
# Ops of the web rail

An op of the web rail carries no signature of its author.  Its payload holds the operation that
the author has confirmed with a passkey, and a receipt of the Forum Host over the hash of that
operation.  The receipt names its own key, and the members next to the operation are what the
feed shows.

## Main definitions

* `WebPublication.actions`, `contentOf` — what the relay appends for an operation.
* `Honest` — the key is trusted, and the members that no check compares are as the relay
  writes them.

## Main results

* `web_provenance_iff` — **the ops of a page are covered exactly when those folded by a receipt
  are honest.**
-/

namespace Ansible

/-! ### What the relay appends -/

namespace WebPublication

/-- Scope, entity type and op type of each action. -/
def actions : List (String × String × Option String × String) :=
  [("forum.publish", "forum:post", some "thread", "insert"),
    ("forum.reply", "forum:reply", some "post", "insert"),
    ("forum.edit", "forum:edit", none, "update"),
    ("forum.delete", "forum:delete", none, "delete"),
    ("forum.react", "forum:react", some "reaction", "insert"),
    ("forum.moderate", "forum:moderate", none, "insert")]

def opTypeOf (operation : Json) : Option String :=
  ((operation.fetch "action").str?.bind fun action => actions.lookup action).map (·.2.2)

/-- `maybe_add_reaction_target` -/
def addReactionTarget (operation payload : Json) : Json :=
  if (operation.fetch "action").str? = some "forum.react" then
    payload.merge [("targetType", .str "post"), ("targetId", operation.fetch "parent_id")]
  else payload

/-- The content of an operation as the feed shows it. -/
def contentOf (operation : Json) : Json :=
  (addReactionTarget operation (operation.fetch "payload")).merge
    [("boardId", operation.fetch "board_id"), ("threadId", operation.fetch "parent_id"),
      ("createdAt", operation.fetch "created_at"), ("publishedAt", operation.fetch "created_at"),
      ("visibility", operation.fetch "visibility"), ("federate", operation.fetch "federate")]

/-- The members that carry the proof. -/
def webMembers : List String :=
  ["web_author_proof", "web_operation_hash", "web_operation", "web_host_receipt"]

end WebPublication

namespace AppView

open WebPublication (opTypeOf contentOf webMembers)

/-! ### Provenance -/

/-- The op is verified, and not by the signature of its author. -/
structure FoldedByWeb (P : Platform) (op : Op) : Prop where
  verified : verify P op = .ok ()
  unsigned : signatureValid P op = false

/-- The members of the payload are those that the relay writes for the operation. -/
def ContentMatches (operation payload : Json) : Prop :=
  ∀ k ∉ webMembers, (payload.fetch k).eqv ((contentOf operation).fetch k) = true

/-- The op is that of an operation. -/
structure Binds (op : Op) (operation : Json) : Prop where
  opId : operation.fetch "operation_id" = .str op.opId
  authorDid : operation.fetch "author_did" = .str op.authorDid
  entityType : operation.fetch "entity_type" = .str op.entityType
  entityId : operation.fetch "entity_id" = .str op.entityId

/-- The receipt of the payload is one of the key over the operation. -/
structure ReceiptOf (P : Platform) (payload : Json) (key : String) : Prop where
  named : (payload.fetch "web_host_receipt").fetch "public_key_hex" = .str key
  signed : ∃ sig, (payload.fetch "web_host_receipt").fetch "signature" = .str sig ∧
    Ansible.SigVerifier.verifyEd25519 P key
      (sha256Hex P (canonicalJson (payload.fetch "web_operation"))) sig = true

/-- The op is that of the operation in its payload, content included, under a receipt of a
trusted key. -/
structure Covered (P : Platform) (trusted : String → Prop) (op : Op) (payload : Json) : Prop where
  receipt : ∃ key, trusted key ∧ ReceiptOf P payload key
  binds : Binds op (payload.fetch "web_operation")
  opType : opTypeOf (payload.fetch "web_operation") = some op.opType
  content : ContentMatches (payload.fetch "web_operation") payload

/-- Each op of the page that is folded by its receipt is covered. -/
def WebProvenance (P : Platform) (trusted : String → Prop) (ops : List Op) : Prop :=
  ∀ op ∈ ops, FoldedByWeb P op → Covered P trusted op (decodePayload op.payload)

/-- The key of the receipt is trusted, and the op type and the content are those that the relay
writes for the operation. -/
structure Honest (trusted : String → Prop) (op : Op) (payload : Json) : Prop where
  key : ∀ key, (payload.fetch "web_host_receipt").fetch "public_key_hex" = .str key → trusted key
  opType : opTypeOf (payload.fetch "web_operation") = some op.opType
  content : ContentMatches (payload.fetch "web_operation") payload

/-- What the check of a receipt establishes: the identity of the op, and a signature by the key
that the receipt names. -/
theorem proof_spec {P : Platform} {op : Op} {payload : Json}
    (h : webPublicationProofValid P op payload = true) :
    Binds op (payload.fetch "web_operation") ∧ ∃ key, ReceiptOf P payload key := by
  unfold webPublicationProofValid at h
  simp only [Bool.and_eq_true, Json.eqv_str_right] at h
  obtain ⟨⟨⟨⟨⟨⟨⟨-, hopId⟩, hauthor⟩, htype⟩, hid⟩, -⟩, -⟩, hsigned⟩ := h
  refine ⟨⟨hopId, hauthor, htype, hid⟩, ?_⟩
  split at hsigned
  · next hash key sig _ hkey hsig =>
    rw [Bool.and_eq_true, beq_iff_eq] at hsigned
    exact ⟨key, hkey, sig, hsig, hsigned.1 ▸ hsigned.2⟩
  · cases hsigned

theorem FoldedByWeb.proof {P : Platform} {op : Op} (h : FoldedByWeb P op) :
    webPublicationProofValid P op (decodePayload op.payload) = true := by
  have hverified := h.verified
  unfold verify at hverified
  split at hverified
  · cases hverified
  split at hverified
  · next hproof => exact hproof
  · rw [h.unsigned, if_pos (by decide)] at hverified
    cases hverified

/-- **The ops of a page are covered exactly when those folded by a receipt are honest.**  The code
checks the receipt under the key that the op itself names, so that what remains to be asked of the
op is the trust in that key and in its content. -/
theorem web_provenance_iff (P : Platform) (trusted : String → Prop) (ops : List Op) :
    WebProvenance P trusted ops ↔
      ∀ op ∈ ops, FoldedByWeb P op → Honest trusted op (decodePayload op.payload) := by
  refine forall₂_congr fun op _ => forall_congr' fun hfolded => ?_
  obtain ⟨hbinds, key, hreceipt⟩ := proof_spec hfolded.proof
  constructor
  · intro hcovered
    obtain ⟨key', htrusted, hreceipt'⟩ := hcovered.receipt
    refine ⟨fun k hk => ?_, hcovered.opType, hcovered.content⟩
    rw [Json.str.inj (hk.symm.trans hreceipt'.named)]
    exact htrusted
  · exact fun h => ⟨⟨key, h.key key hreceipt.named, hreceipt⟩, hbinds, h.opType, h.content⟩

/-! ### Receipts of a producer -/

/-- The operation of an op, without any content. -/
def forgedOperation (op : Op) : Json :=
  .obj [("author_did", .str op.authorDid), ("entity_id", .str op.entityId),
    ("entity_type", .str op.entityType), ("operation_id", .str op.opId)]

/-- A payload with a receipt under a key, and members of the producer's choice. -/
def forgedPayload (P : Platform) (key : String) (sign : Text → String) (op : Op)
    (members : List (String × Json)) : Json :=
  let hash := sha256Hex P (canonicalJson (forgedOperation op))
  .obj ([("web_author_proof", .obj [("scheme", .str "webauthn-p256-sha256"),
      ("user_present", .bool true), ("user_verified", .bool true),
      ("operation_hash", .str (String.ofList hash))]),
    ("web_operation", forgedOperation op), ("web_operation_hash", .str (String.ofList hash)),
    ("web_host_receipt", .obj [("public_key_hex", .str key),
      ("operation_hash", .str (String.ofList hash)), ("signature", .str (sign hash))])] ++ members)

/-- Whoever holds a key can write a receipt for any op. -/
theorem forged_valid {P : Platform} {key : String} {sign : Text → String}
    (hsign : ∀ m, Ansible.SigVerifier.verifyEd25519 P key m (sign m) = true) (op : Op)
    (members : List (String × Json)) :
    webPublicationProofValid P op (forgedPayload P key sign op members) = true := by
  have hstr : ∀ s : String, (Json.str s).eqv (.str s) = true := fun s => Json.eqv_str_right.2 rfl
  unfold webPublicationProofValid
  show (true && true && true && (Json.str _).eqv (.str _) && true && true &&
    (Json.str op.opId).eqv (.str op.opId) && (Json.str op.authorDid).eqv (.str op.authorDid) &&
    (Json.str op.entityType).eqv (.str op.entityType) &&
    (Json.str op.entityId).eqv (.str op.entityId) &&
    (Json.str _).eqv (.str _) && (Json.str _).eqv (.str _) &&
    (chars (String.ofList (sha256Hex P (canonicalJson (forgedOperation op))))
        == sha256Hex P (canonicalJson (forgedOperation op)) &&
      Ansible.SigVerifier.verifyEd25519 P key
        (chars (String.ofList (sha256Hex P (canonicalJson (forgedOperation op)))))
        (sign (sha256Hex P (canonicalJson (forgedOperation op)))))) = true
  rw [chars_ofList, hsign]
  simp only [hstr, beq_self_eq_true, Bool.and_self]

/-- The op under a receipt of the producer, without a signature of its author. -/
def forge (P : Platform) (key : String) (sign : Text → String) (op : Op)
    (members : List (String × Json)) : Op :=
  { op with payload := forgedPayload P key sign op members, signature := none, removed := false }

/-- An op of any author and of any content is folded under a receipt of its producer. -/
theorem forged_folded {P : Platform} {key : String} {sign : Text → String}
    (hsign : ∀ m, Ansible.SigVerifier.verifyEd25519 P key m (sign m) = true) (op : Op)
    (members : List (String × Json)) : FoldedByWeb P (forge P key sign op members) := by
  have hvalid : webPublicationProofValid P (forge P key sign op members)
      (decodePayload (forge P key sign op members).payload) = true :=
    forged_valid hsign (forge P key sign op members) members
  have hremoved : ¬ (forge P key sign op members).removed = true := Bool.false_ne_true
  refine ⟨?_, ?_⟩
  · rw [verify, if_neg hremoved, if_pos hvalid]
  · rw [signatureValid]
    cases (forge P key sign op members).publicKeyHex <;> rfl

/-! ### A producer on the toy platform -/

def toyEdKey (n : UInt8) : Binary := List.replicate 32 n

def toyEdKeyHex (n : UInt8) : String := String.ofList (encode16 (toyEdKey n))

def toyEdSign (n : UInt8) (message : Text) : String :=
  String.ofList (encode16 (toyEdKey n ++ toyHash message.utf8))

theorem verifyEd25519_toyEdSign (n : UInt8) (message : Text) :
    Ansible.SigVerifier.verifyEd25519 .toy (toyEdKeyHex n) message (toyEdSign n message)
      = true := by
  have hdecode : ∀ {b : Binary} {k : ℕ}, b.length = k →
      Ansible.SigVerifier.decodeHex (String.ofList (encode16 b)) k = some b := by
    rintro b _ rfl
    have hbytes : bytes (String.ofList (encode16 b)) = (encode16 b).utf8 := bytes_ofList _
    have hlen := length_decode16 (decode16_encode16 b)
    rw [Ansible.SigVerifier.decodeHex, hbytes, if_pos hlen, decode16_encode16]
  have hsig : (toyEdKey n ++ toyHash message.utf8).length = 64 := by
    rw [List.length_append, length_toyHash, toyEdKey, List.length_replicate]
  have hkey : (toyEdKey n).length = 32 := List.length_replicate
  rw [Ansible.SigVerifier.verifyEd25519, toyEdKeyHex, toyEdSign, hdecode hkey, hdecode hsig]
  exact beq_self_eq_true _

/-- A murmur in the name of Alice. -/
def forgedMurmur : Op := forge .toy (toyEdKeyHex 9) (toyEdSign 9) (toyUnsigned 1 "a" "insert") []

/-- The AppView folds it, whatever key of the relay it should trust. -/
theorem web_provenance_forged :
    ¬ WebProvenance .toy (fun key => key = toyEdKeyHex 1) [forgedMurmur] := by
  intro h
  have hcovered := h forgedMurmur (List.mem_singleton.2 rfl)
    (forged_folded (verifyEd25519_toyEdSign 9) (toyUnsigned 1 "a" "insert") [])
  obtain ⟨key, rfl, hreceipt⟩ := hcovered.receipt
  have hkey : toyEdKeyHex 9 = toyEdKeyHex 1 := Json.str.inj hreceipt.named
  exact absurd hkey (by decide +kernel)

end AppView

end Ansible
