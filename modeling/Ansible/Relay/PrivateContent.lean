import Ansible.Lib.Base64
import Ansible.Lib.DateTime
import Ansible.Relay.ForumHost

/-!
# The content of private boards

What the relay checks of the envelope of an op for a board whose content is encrypted end to end:
it names the board, its epoch and policy, and the record of the op.

## Main definitions

* `PrivateBoardKeys.validContentEnvelope` — the check of an envelope.

## Main results

* `PrivateBoardKeys.validContentEnvelope_eq` — what is left to check of an envelope with all its
  members.
-/

namespace Ansible

namespace PrivateBoardKeys

def contentEnvelopeKeys : List String :=
  ["version", "board_id", "epoch", "record_id", "record_type", "author_pairwise_id", "created_at",
    "policy_version", "algorithm", "nonce", "ciphertext", "mac"]

/-- `non_empty?` -/
def nonEmpty (value : Json) (max : ℕ) : Bool :=
  value.str?.any fun s => 1 ≤ (bytes s).length && (bytes s).length ≤ max

/-- `encoded_length?` -/
def encodedLength (value : Json) (length : ℕ) : Bool :=
  value.str?.any fun s => (decodeUrl64 (bytes s)).any (·.length == length)

/-- `valid_content_envelope?`; `none` where a reader raises. -/
def validContentEnvelope (board : ForumHostBoard) (entityType entityId : String)
    (envelope : Json) : Option Bool :=
  if envelope.isObj && envelope.keys.all (contentEnvelopeKeys.contains ·) &&
      contentEnvelopeKeys.all (envelope.keys.contains ·) &&
      (envelope.fetch "version").eqv (.int 1) &&
      (envelope.fetch "algorithm").eqv (.str "A256GCM") &&
      (envelope.fetch "board_id").eqv (.str board.hostedBoardId) &&
      (envelope.fetch "epoch").eqv (.int board.encryptionEpoch) &&
      (envelope.fetch "policy_version").eqv (.int board.accessPolicyVersion) &&
      (envelope.fetch "record_id").eqv (.str entityId) &&
      (envelope.fetch "record_type").eqv (.str entityType) &&
      nonEmpty (envelope.fetch "author_pairwise_id") 512 then
    match envelope.fetch "created_at" with
    | .str createdAt =>
      if (DateTime.fromIso8601 createdAt).any (·.2 == 0) &&
          encodedLength (envelope.fetch "nonce") 12 && encodedLength (envelope.fetch "mac") 16 then
        match envelope.fetch "ciphertext" with
        | .str ciphertext => some ((decodeUrl64 (bytes ciphertext)).any fun b =>
            1 ≤ b.length && b.length ≤ 1048576)
        | _ => none
      else some false
    | _ => none
  else some false

/-- An envelope with all its members, for the board and the record that it names. -/
theorem validContentEnvelope_eq {board : ForumHostBoard} {entityType entityId author createdAt
    nonce ciphertext mac : String} {nonceBytes macBytes cipher : Binary}
    (hnonce : decodeUrl64 (bytes nonce) = some nonceBytes) (hlen : nonceBytes.length = 12)
    (hmac : decodeUrl64 (bytes mac) = some macBytes) (hlen' : macBytes.length = 16)
    (hcipher : decodeUrl64 (bytes ciphertext) = some cipher) :
    validContentEnvelope board entityType entityId (.obj [("version", .int 1),
      ("board_id", .str board.hostedBoardId), ("epoch", .int board.encryptionEpoch),
      ("record_id", .str entityId), ("record_type", .str entityType),
      ("author_pairwise_id", .str author), ("created_at", .str createdAt),
      ("policy_version", .int board.accessPolicyVersion), ("algorithm", .str "A256GCM"),
      ("nonce", .str nonce), ("ciphertext", .str ciphertext), ("mac", .str mac)]) =
      some ((1 ≤ (bytes author).length && (bytes author).length ≤ 512) &&
        (DateTime.fromIso8601 createdAt).any (·.2 == 0) &&
        (1 ≤ cipher.length && cipher.length ≤ 1048576)) := by
  generalize he : Json.obj _ = envelope
  have hkeys : envelope.keys = contentEnvelopeKeys := he ▸ rfl
  have hobj : envelope.isObj = true := he ▸ rfl
  have hall : contentEnvelopeKeys.all (contentEnvelopeKeys.contains ·) = true := by decide
  have hversion : envelope.fetch "version" = .int 1 := he ▸ rfl
  have halgorithm : envelope.fetch "algorithm" = .str "A256GCM" := he ▸ rfl
  have hboard : envelope.fetch "board_id" = .str board.hostedBoardId := he ▸ rfl
  have hepoch : envelope.fetch "epoch" = .int board.encryptionEpoch := he ▸ rfl
  have hpolicy : envelope.fetch "policy_version" = .int board.accessPolicyVersion := he ▸ rfl
  have hrecord : envelope.fetch "record_id" = .str entityId := he ▸ rfl
  have htype : envelope.fetch "record_type" = .str entityType := he ▸ rfl
  have hauthor : envelope.fetch "author_pairwise_id" = .str author := he ▸ rfl
  have hcreated : envelope.fetch "created_at" = .str createdAt := he ▸ rfl
  have hn : envelope.fetch "nonce" = .str nonce := he ▸ rfl
  have hm : envelope.fetch "mac" = .str mac := he ▸ rfl
  have hc : envelope.fetch "ciphertext" = .str ciphertext := he ▸ rfl
  simp only [validContentEnvelope, hkeys, hobj, hall, hversion, halgorithm, hboard, hepoch, hpolicy,
    hrecord, htype, hauthor, hcreated, hn, hm, hc, Json.eqv, beq_self_eq_true, Bool.and_true,
    Bool.true_and, nonEmpty, encodedLength, Json.str?_str, Option.any_some, hnonce, hlen, hmac,
    hlen', hcipher]
  cases 1 ≤ (bytes author).length && (bytes author).length ≤ 512 with
  | false => rfl
  | true =>
    cases (DateTime.fromIso8601 createdAt).any (·.2 == 0) with
    | false => rfl
    | true => rfl

end PrivateBoardKeys

end Ansible
