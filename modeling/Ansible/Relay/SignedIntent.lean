import Ansible.AppView.OpVerification
import Ansible.Lib.KeyOrder
import Ansible.Lib.Uri
import Ansible.Relay.BoardCreation

/-!
# Signed intents

The app signs what it asks of a forum host: a new board, a change of a board or of its access
policy, a report, a vote in a poll.  The signature is over the whole intent without the member
that holds it, written with sorted keys.

## Main definitions

* `SignedIntent.canonicalJson` — the text that is signed.
* `SignedIntent.verifyCreateBoard`, `verifyUpdateBoard`, `verifyUpdateBoardPolicy`,
  `verifyReportContent`, `verifyPollVote` — the checks of the five kinds.

## Main results

* `SignedIntent.canonicalJson_eq_iff` — **two intents have one text when they are the same up to
  the order of members and the signature.**
* `SignedIntent.unambiguous` — **a signature is accepted for one content.**
-/

namespace Ansible

namespace SignedIntent

inductive IntentError
  | invalidIntent
  /-- A field that has to be a text and not a blank one. -/
  | missing (field : String)
  | invalidBoard
  | invalidIntentType
  | invalidIntentVersion
  | invalidAccessPolicy
  | policy (e : BoardAccessPolicy.PolicyError)
  | policyUpdateRequiresSeparateIntent
  | invalidReport
  | invalidAction
  | audienceMismatch
  | invalidCreatedAt
  | invalidExpiry
  | createdAtInFuture
  | expiredIntent
  | intentLifetimeTooLong
  /-- What `DateTime.from_iso8601` says about `effective_at`. -/
  | invalidFormat
  | unknownDid
  | invalidSignature
  deriving DecidableEq, Repr

/-- The host that intents are for. -/
structure HostAddress extends HostConfig where
  baseUrl : String
  clockSkewSeconds : ℤ := 0
  maxAgeSeconds : ℤ := 600
  /-- `String.downcase` -/
  downcase : Text → Text

/-! ### The signed text -/

/-- `canonical_json`: sorted keys, without the signature. -/
def canonicalJson (value : Json) : Text := AppView.canonicalJson (value.erase "signature")

/-! ### Checks of one field -/

def text (params : Json) (key : String) : String := (params.fetch key).str?.getD ""

def isText (j : Json) : Bool := j.str?.any fun s => !isBlank s

/-- `require_string`, for each of the fields in turn. -/
def requireStrings (params : Json) (keys : List String) : Except IntentError Unit :=
  match keys.find? fun key => !isText (params.fetch key) with
  | some key => .error (.missing key)
  | none => .ok ()

def requireType (params : Json) (expected : String) : Except IntentError Unit :=
  ensure ((params.fetch "type").eqv (.str expected)) .invalidIntentType

/-- `require_version_in`; the number has to be an integer. -/
def requireVersionIn (params : Json) (allowed : List ℤ) : Except IntentError Unit :=
  match params.fetch "version" with
  | .int version => ensure (allowed.contains version) .invalidIntentVersion
  | _ => .error .invalidIntentVersion

def requireAction (params : Json) (expected : String) : Except IntentError Unit :=
  ensure ((params.fetch "action").eqv (.str expected)) .invalidAction

/-! ### Audience and time -/

def loopbackHosts : List Text := ["localhost", "127.0.0.1", "::1"].map String.toList

/-- `normalize_host`; the loopback hosts are one. -/
def normalizeHost (C : HostAddress) : Option Text → Text
  | some host =>
    if C.downcase host ∈ loopbackHosts then "localhost".toList else C.downcase host
  | none => []

def normalizeOrigin (C : HostAddress) (value : String) : Text :=
  let uri := Uri.parse value
  let port := match uri.port with
    | some port => ':' :: Nat.toDigits 10 port
    | none => []
  C.downcase (uri.scheme.getD []) ++ "://".toList ++ normalizeHost C uri.host ++ port

def requireTargetHost (C : HostAddress) (params : Json) : Except IntentError Unit :=
  ensure (normalizeOrigin C (text params "target_forum_host") == normalizeOrigin C C.baseUrl)
    .audienceMismatch

def parseTimestamp (j : Json) (e : IntentError) : Except IntentError Time :=
  match j with
  | .str s =>
    match DateTime.fromIso8601 s with
    | some (t, _) => .ok t
    | none => .error e
  | _ => .error e

/-- `require_timestamp_window` -/
def requireTimestampWindow (C : HostAddress) (now : Time) (params : Json) :
    Except IntentError Unit := do
  let createdAt ← parseTimestamp (params.fetch "created_at") .invalidCreatedAt
  let expiresAt ← parseTimestamp (params.fetch "expires_at") .invalidExpiry
  ensure (decide (createdAt ≤ now + seconds C.clockSkewSeconds)) .createdAtInFuture
  ensure (decide (now < expiresAt)) .expiredIntent
  ensure (decide (createdAt < expiresAt)) .invalidExpiry
  ensure (decide (expiresAt / 1000000 - createdAt / 1000000 ≤ C.maxAgeSeconds))
    .intentLifetimeTooLong

/-! ### Signatures -/

/-- `known_did` and `IdentityCache.verify_signature` -/
def verifySigner (P : Platform) (now : Time) (params : Json) : Checked Relay IntentError Unit :=
  fun s =>
    match IdentityCache.get now (text params "author_did") s with
    | (none, s) => (.error .unknownDid, s)
    | (some entry, s) =>
      if now < entry.expiresAt then
        match IdentityCache.verifySignature P now (text params "author_did")
          (canonicalJson params) (text params "signature") s with
        | (true, s) => (.ok (), s)
        | (false, s) => (.error .invalidSignature, s)
      else (.error .unknownDid, s)

/-! ### New boards -/

def requireBoardTitle (params : Json) : Except IntentError Unit :=
  ensure (isText ((params.fetch "board").fetch "title")) .invalidBoard

/-- From the second version on the board comes with an access policy. -/
def requireCreateBoardPolicy (C : HostAddress) (params : Json) : Except IntentError Unit :=
  match params.fetch "version", params.fetch "board" with
  | .int 1, _ => .ok ()
  | .int 2, .obj board =>
    let board := Json.obj board
    match board.fetch "access_policy" with
    | .obj policy =>
      match BoardAccessPolicy.validate C.encryptedBoardsEnabled (.obj policy) with
      | .error e => .error (.policy e)
      | .ok () =>
        match board.fetch "content_visibility", board.fetch "federation_policy" with
        | .str visibility, .obj federation =>
          ensure (((Json.obj policy).fetch "content_visibility").eqv (.str visibility) &&
            ((Json.obj federation).fetch "mode").eqv ((Json.obj policy).fetch "federation"))
            .invalidAccessPolicy
        | _, _ => .error .invalidAccessPolicy
    | _ => .error .invalidAccessPolicy
  | _, _ => .error .invalidAccessPolicy

def createBoardAttrs (params : Json) : CreateBoardIntent where
  intentId := text params "intent_id"
  authorDid := text params "author_did"
  title := text (params.fetch "board") "title"
  board := params.fetch "board"

def checkCreateBoard (C : HostAddress) (now : Time) (params : Json) : Except IntentError Unit := do
  ensure params.isObj .invalidIntent
  requireStrings params ["signature", "author_did", "intent_id", "target_forum_host", "action",
    "created_at"]
  requireBoardTitle params
  requireType params "io.trisaura.forum.createBoard"
  requireVersionIn params [1, 2]
  requireCreateBoardPolicy C params
  requireAction params "create_board"
  requireTargetHost C params
  requireTimestampWindow C now params

def verifyCreateBoard (P : Platform) (C : HostAddress) (now : Time) (params : Json) :
    Checked Relay IntentError CreateBoardIntent := do
  .lift (checkCreateBoard C now params)
  verifySigner P now params
  return createBoardAttrs params

/-! ### Changes of boards -/

/-- What a change of a board asks for; `changes` are the given ones of its three fields. -/
structure UpdateBoardIntent where
  intentId : String
  authorDid : String
  boardId : String
  expectedPolicyVersion : Json
  approvals : Json
  changes : List (String × Json)

def updatableFields : List String := ["title", "description", "posting_policy"]

/-- `require_update_board_payload` -/
def requireUpdateBoardPayload (params : Json) : Except IntentError Unit :=
  match params.fetch "board" with
  | .obj board =>
    let given := fun key => (Json.obj board).get? key
    if ["access_policy", "content_visibility", "federation_policy"].any fun key =>
        (given key).isSome then .error .policyUpdateRequiresSeparateIntent
    else ensure (updatableFields.any (fun key => (given key).isSome) &&
      (given "title").all isText && (given "description").all (fun j => j.str?.isSome) &&
      (given "posting_policy").all Json.isObj) .invalidBoard
  | _ => .error .invalidBoard

def updateBoardAttrs (params : Json) : UpdateBoardIntent where
  intentId := text params "intent_id"
  authorDid := text params "author_did"
  boardId := text params "board_id"
  expectedPolicyVersion := params.fetch "expected_policy_version"
  approvals := (params.fetch "approvals").orElse (.obj [])
  changes := updatableFields.filterMap fun key =>
    ((params.fetch "board").get? key).map (key, ·)

def checkUpdateBoard (C : HostAddress) (now : Time) (params : Json) : Except IntentError Unit := do
  ensure params.isObj .invalidIntent
  requireStrings params ["signature", "author_did", "intent_id", "board_id", "target_forum_host",
    "action", "created_at"]
  requireUpdateBoardPayload params
  requireType params "io.trisaura.forum.updateBoard"
  requireVersionIn params [1, 2]
  requireAction params "update_board"
  requireTargetHost C params
  requireTimestampWindow C now params

def verifyUpdateBoard (P : Platform) (C : HostAddress) (now : Time) (params : Json) :
    Checked Relay IntentError UpdateBoardIntent := do
  .lift (checkUpdateBoard C now params)
  verifySigner P now params
  return updateBoardAttrs params

/-! ### Changes of access policies -/

/-- `require_policy_payload`: the three parts of a policy, and approvals. -/
def requirePolicyPayload (params : Json) : Except IntentError Unit :=
  let policy := params.fetch "new_policy"
  ensure (policy.isObj && (params.fetch "approvals").isObj &&
    policy.keys.all (["access_policy", "content_visibility", "federation_policy"].contains ·) &&
    (policy.fetch "access_policy").isObj &&
    (Visibility.ofJson (policy.fetch "content_visibility")).isSome &&
    (policy.fetch "federation_policy").isObj) .invalidAccessPolicy

def approvalsOf : Json → Assoc String Json
  | .obj f => f.foldl (fun m kv => m.insert kv.1 kv.2) ∅
  | _ => ∅

def updateBoardPolicyAttrs (params : Json) : PolicyIntent where
  intentId := text params "intent_id"
  authorDid := text params "author_did"
  boardId := text params "board_id"
  previousPolicyHash := text params "previous_policy_hash"
  newPolicy := params.fetch "new_policy"
  effectiveAt := text params "effective_at"
  approvals := approvalsOf (params.fetch "approvals")

def checkUpdateBoardPolicy (C : HostAddress) (now : Time) (params : Json) :
    Except IntentError Unit := do
  ensure params.isObj .invalidIntent
  requireStrings params ["signature", "author_did", "intent_id", "board_id",
    "previous_policy_hash", "target_forum_host", "action", "created_at", "effective_at"]
  requireType params "io.trisaura.forum.updateBoardPolicy"
  requireVersionIn params [1]
  requireAction params "update_board_policy"
  requireTargetHost C params
  requireTimestampWindow C now params
  let _ ← parseTimestamp (params.fetch "effective_at") .invalidFormat
  requirePolicyPayload params

def verifyUpdateBoardPolicy (P : Platform) (C : HostAddress) (now : Time) (params : Json) :
    Checked Relay IntentError PolicyIntent := do
  .lift (checkUpdateBoardPolicy C now params)
  verifySigner P now params
  return updateBoardPolicyAttrs params

/-! ### Reports and votes -/

structure ReportIntent where
  intentId : String
  reporterDid : String
  targetKind : String
  targetRef : String
  boardId : String
  reasonCode : String
  note : Json

def requireReportPayload (params : Json) : Except IntentError Unit :=
  ensure (["target_kind", "target_ref", "board_id", "reason_code"].all fun field =>
    isText ((params.fetch "report").fetch field)) .invalidReport

def reportContentAttrs (params : Json) : ReportIntent where
  intentId := text params "intent_id"
  reporterDid := text params "author_did"
  targetKind := text (params.fetch "report") "target_kind"
  targetRef := text (params.fetch "report") "target_ref"
  boardId := text (params.fetch "report") "board_id"
  reasonCode := text (params.fetch "report") "reason_code"
  note := (params.fetch "report").fetch "note"

def checkReportContent (C : HostAddress) (now : Time) (params : Json) :
    Except IntentError Unit := do
  ensure params.isObj .invalidIntent
  requireStrings params ["signature", "author_did", "intent_id", "target_forum_host", "action",
    "created_at"]
  requireReportPayload params
  requireType params "io.trisaura.forum.reportContent"
  requireVersionIn params [1]
  requireAction params "report_content"
  requireTargetHost C params
  requireTimestampWindow C now params

def verifyReportContent (P : Platform) (C : HostAddress) (now : Time) (params : Json) :
    Checked Relay IntentError ReportIntent := do
  .lift (checkReportContent C now params)
  verifySigner P now params
  return reportContentAttrs params

def checkPollVote (C : HostAddress) (now : Time) (params : Json) : Except IntentError Unit := do
  ensure params.isObj .invalidIntent
  requireStrings params ["signature", "author_did", "intent_id", "board_id", "poll_id",
    "option_id", "target_forum_host", "created_at"]
  requireType params "io.trisaura.forum.castPollVote"
  requireVersionIn params [1]
  requireAction params "cast_poll_vote"
  requireTargetHost C params
  requireTimestampWindow C now params

def verifyPollVote (P : Platform) (C : HostAddress) (now : Time) (params : Json) :
    Checked Relay IntentError String := do
  .lift (checkPollVote C now params)
  verifySigner P now params
  return text params "author_did"

/-! ### The text and the content -/

theorem erase_determined {v : Json} (hv : v.Determined) (key : String) :
    (v.erase key).Determined := by
  cases v with
  | obj f =>
    rw [Json.erase, Json.Determined, Json.determinedFields_iff]
    rw [Json.Determined, Json.determinedFields_iff] at hv
    refine ⟨hv.1.sublist (List.filter_sublist.map _), fun kv hkv => ?_⟩
    exact hv.2 kv (List.mem_filter.1 hkv).1
  | _ => exact hv

mutual

/-- The text with sorted keys is the text of the value with sorted keys. -/
theorem canonicalJson_eq_encode : ∀ v : Json, AppView.canonicalJson v = v.sortKeys.encode
  | .null | .bool _ | .int _ | .float _ | .str _ => rfl
  | .arr l => by
    rw [AppView.canonicalJson, canonicalElems_eq_encode, Json.sortKeys, Json.encode]
  | .obj f => by
    rw [AppView.canonicalJson, canonicalFields_eq_encode, Json.sortKeys, Json.encode,
      Json.encodeFields_eq_map, AppView.joinFields]
    have hsort := List.map_insertionSort Json.byKey Json.byKey
      (fun kv : String × Json => (kv.1, kv.2.encode)) (Json.sortMembers f) fun _ _ _ _ => Iff.rfl
    refine congrArg (fun l => '{' :: (Json.commaSep l ++ ['}'])) ?_
    refine (congrArg (List.map _) hsort.symm).trans ?_
    rw [List.map_map]
    rfl

theorem canonicalElems_eq_encode : ∀ l : List Json,
    AppView.canonicalElems l = Json.encodeElems (Json.sortElems l)
  | [] => rfl
  | v :: l => congrArg₂ List.cons (canonicalJson_eq_encode v) (canonicalElems_eq_encode l)

theorem canonicalFields_eq_encode : ∀ f : List (String × Json),
    AppView.canonicalFields f = (Json.sortMembers f).map fun kv => (kv.1, kv.2.encode)
  | [] => rfl
  | (k, v) :: f => congrArg₂ List.cons (congrArg (Prod.mk k) (canonicalJson_eq_encode v))
      (canonicalFields_eq_encode f)

end

/-- **Two intents have one text exactly when they are the same up to the order of members, but
for the signature at the top.** -/
theorem canonicalJson_eq_iff {v w : Json} (hv : v.Determined) (hw : w.Determined) :
    canonicalJson v = canonicalJson w ↔
      (v.erase "signature").Reordered (w.erase "signature") := by
  have hv' := erase_determined hv "signature"
  have hw' := erase_determined hw "signature"
  rw [canonicalJson, canonicalJson, canonicalJson_eq_encode, canonicalJson_eq_encode,
    Json.reordered_iff hv']
  exact ⟨fun h => Json.eq_of_encode_eq hv'.sortKeys hw'.sortKeys h, fun h => by rw [h]⟩

/-! ### Accepted intents -/

inductive Kind
  | createBoard
  | updateBoard
  | updateBoardPolicy
  | reportContent
  | pollVote

/-- The checks of an intent of a kind pass. -/
def Accepts (P : Platform) (C : HostAddress) (now : Time) (s : Relay) (params : Json) :
    Kind → Prop
  | .createBoard => ∃ a, (verifyCreateBoard P C now params s).1 = .ok a
  | .updateBoard => ∃ a, (verifyUpdateBoard P C now params s).1 = .ok a
  | .updateBoardPolicy => ∃ a, (verifyUpdateBoardPolicy P C now params s).1 = .ok a
  | .reportContent => ∃ a, (verifyReportContent P C now params s).1 = .ok a
  | .pollVote => ∃ a, (verifyPollVote P C now params s).1 = .ok a

/-- The signature of the intent is one of its text, by some key. -/
def Signed (P : Platform) (params : Json) : Prop :=
  ∃ algorithm key, SigVerifier.verifyIdentity P algorithm key (canonicalJson params)
    (text params "signature") = true

variable {P : Platform} {now : Time} {params : Json} {s : Relay} {key key' sig : String}
  {m m' : Text}

theorem signed_of_verifySigner {t : Relay} {u : Unit} (h : verifySigner P now params s = (.ok u, t))
    : Signed P params := by
  unfold verifySigner IdentityCache.verifySignature at h
  split at h
  · cases h
  split at h
  · split at h
    · next hverify =>
      split at hverify
      · exact ⟨_, _, (Prod.mk.inj hverify).1⟩
      · cases (Prod.mk.inj hverify).1
    · cases h
  · cases h

/-- Whatever is checked first, what is accepted is signed. -/
theorem signed_of_ok {α : Type} {c : Except IntentError Unit} {a b : α}
    (h : ((do
      Checked.lift c
      verifySigner P now params
      return b : Checked Relay IntentError α) s).1 = .ok a) : Signed P params := by
  obtain ⟨_, t, -, hrest⟩ := Checked.bind_eq_ok.1 (Prod.ext h rfl)
  obtain ⟨_, _, hsigner, -⟩ := Checked.bind_eq_ok.1 hrest
  exact signed_of_verifySigner hsigner

theorem Accepts.signed {C : HostAddress} {kind : Kind} (h : Accepts P C now s params kind) :
    Signed P params := by
  cases kind <;> exact signed_of_ok h.choose_spec

/-! ### Signatures and contents -/

/-- A signature verifies for one message only. -/
structure Unforgeable (P : Platform) : Prop where
  ed25519 : ∀ key key' m m' sig, P.ed25519Verify key m sig = true →
    P.ed25519Verify key' m' sig = true → m = m'
  p256 : ∀ key key' m m' sig, P.p256Verify key m sig = true →
    P.p256Verify key' m' sig = true → m = m'

theorem eq_of_verifyEd25519 (hP : Unforgeable P) (h : SigVerifier.verifyEd25519 P key m sig = true)
    (h' : SigVerifier.verifyEd25519 P key' m' sig = true) : m = m' := by
  unfold SigVerifier.verifyEd25519 at h h'
  split at h
  · next _ b _ hsig =>
    rw [hsig] at h'
    split at h'
    · next _ _ _ heq =>
      cases heq
      exact Text.utf8_injective (hP.ed25519 _ _ _ _ _ h h')
    · cases h'
  · cases h

theorem eq_of_verifyP256 (hP : Unforgeable P) (h : SigVerifier.verifyP256 P key m sig = true)
    (h' : SigVerifier.verifyP256 P key' m' sig = true) : m = m' := by
  unfold SigVerifier.verifyP256 at h h'
  split at h
  · next _ b _ hsig =>
    rw [hsig] at h'
    split at h'
    · next _ _ _ heq =>
      cases heq
      rw [Bool.and_eq_true] at h h'
      exact Text.utf8_injective (hP.p256 _ _ _ _ _ h.2 h'.2)
    · cases h'
  · cases h

/-- No text is a signature of both algorithms: the lengths differ. -/
theorem not_both_algorithms (h : SigVerifier.verifyEd25519 P key m sig = true)
    (h' : SigVerifier.verifyP256 P key' m' sig = true) : False := by
  unfold SigVerifier.verifyEd25519 SigVerifier.decodeHex at h
  unfold SigVerifier.verifyP256 at h'
  split at h
  · next _ b _ hsig =>
    split at hsig
    · next hlen =>
      rw [hsig] at h'
      split at h'
      · next _ _ _ heq =>
        cases heq
        simp only [Bool.and_eq_true, decide_eq_true_eq] at h'
        have := length_decode16 hsig
        omega
      · cases h'
    · cases hsig
  · cases h

/-- A text that verifies as a signature of two messages, by whatever keys, shows them equal. -/
theorem eq_of_verifyIdentity (hP : Unforgeable P) {algorithm algorithm' : String}
    (h : SigVerifier.verifyIdentity P algorithm key m sig = true)
    (h' : SigVerifier.verifyIdentity P algorithm' key' m' sig = true) : m = m' := by
  unfold SigVerifier.verifyIdentity at h h'
  split at h
  · split at h'
    · exact eq_of_verifyEd25519 hP h h'
    · split at h'
      · exact (not_both_algorithms h h').elim
      · cases h'
  · split at h
    · split at h'
      · exact (not_both_algorithms h' h).elim
      · split at h'
        · exact eq_of_verifyP256 hP h h'
        · cases h'
    · cases h

/-- **The text of an intent leaves out the signature and the order of members and nothing else,
so a signature that was accepted with one intent is not accepted with an intent of another
content**, of whatever kind and author, and whenever the two are checked. -/
theorem unambiguous {P : Platform} (hP : Unforgeable P) :
    (∀ v w : Json, v.Determined → w.Determined → (canonicalJson v = canonicalJson w ↔
      (v.erase "signature").Reordered (w.erase "signature"))) ∧
    ∀ (kind kind' : Kind) (C C' : HostAddress) (now now' : Time) (s s' : Relay) (v w : Json),
      v.Determined → w.Determined →
      ¬ (v.erase "signature").Reordered (w.erase "signature") →
      w.fetch "signature" = v.fetch "signature" →
      Accepts P C now s v kind → ¬ Accepts P C' now' s' w kind' := by
  refine ⟨fun v w hv hw => canonicalJson_eq_iff hv hw, ?_⟩
  intro kind kind' C C' now now' s s' v w hv hw hne hsig hv' hw'
  obtain ⟨_, _, hverify⟩ := hv'.signed
  obtain ⟨_, _, hverify'⟩ := hw'.signed
  rw [text, hsig] at hverify'
  exact hne ((canonicalJson_eq_iff hv hw).1 (eq_of_verifyIdentity hP hverify hverify'))

/-! ### A board of Alice -/

/-- A platform on which one message is signed. -/
def onlyMessage (m : Binary) : Platform where
  sha256 := toyHash
  sha256_length := length_toyHash
  ed25519Verify _ _ _ := false
  p256Verify key m' sig := m' == m && Platform.toy.p256Verify key m' sig

theorem unforgeable_onlyMessage (m : Binary) : Unforgeable (onlyMessage m) where
  ed25519 := by
    intro _ _ _ _ _ h
    cases h
  p256 := by
    intro _ _ m₁ m₂ _ h₁ h₂
    rw [onlyMessage, Bool.and_eq_true, beq_iff_eq] at h₁ h₂
    rw [h₁.1, h₂.1]

def toyAddress : HostAddress where
  baseUrl := "http://localhost:4000"
  downcase := fun t => t.map Char.toLower

def toyEntry : IdentityEntry where
  publicKeyHex := toyKeyHex 1
  signingAlgorithm := "p256-sha256"
  keyVersion := 1
  nullifier := none
  expiresAt := seconds 1000

/-- The relay knows the key of Alice. -/
def toyKnown : Relay :=
  { Relay.empty with
    verifiedDidCache := Ets.insert Relay.empty.verifiedDidCache "did:plc:alice" toyEntry }

/-- The members of an intent, but for its signature. -/
def toyMembers (title : String) : List (String × Json) :=
  [("type", .str "io.trisaura.forum.createBoard"), ("version", .int 1),
    ("action", .str "create_board"), ("author_did", .str "did:plc:alice"),
    ("intent_id", .str "i-1"), ("target_forum_host", .str "http://127.0.0.1:4000"),
    ("created_at", .str "1970-01-01T00:00:00Z"), ("expires_at", .str "1970-01-01T00:00:10Z"),
    ("board", .obj [("title", .str title)])]

def toySignature : String := toySign 1 (canonicalJson (.obj (toyMembers "T")))

/-- An intent under the signature of the one with the title `T`. -/
def toySigned (title : String) : Json := .obj (("signature", .str toySignature) :: toyMembers title)

theorem toySigned_determined (title : String) : (toySigned title).Determined :=
  ⟨by simp [toyMembers], by simp [toyMembers, Json.DeterminedFields, Json.Determined]⟩

theorem unambiguous_toy :
    let P := onlyMessage (canonicalJson (toySigned "T")).utf8
    Accepts P toyAddress (seconds 1) toyKnown (toySigned "T") .createBoard ∧
      ∀ kind, ¬ Accepts P toyAddress (seconds 1) toyKnown (toySigned "U") kind := by
  intro P
  have haccepts : Accepts P toyAddress (seconds 1) toyKnown (toySigned "T") .createBoard := by
    have h : (verifyCreateBoard P toyAddress (seconds 1) (toySigned "T") toyKnown).1.isOk
        = true := by
      decide +kernel
    rw [Accepts]
    generalize (verifyCreateBoard P toyAddress (seconds 1) (toySigned "T") toyKnown).1 = r at h ⊢
    cases r with
    | error e => cases h
    | ok a => exact ⟨a, rfl⟩
  refine ⟨haccepts, fun kind => ?_⟩
  refine (unambiguous (unforgeable_onlyMessage _)).2 .createBoard kind toyAddress toyAddress
    (seconds 1) (seconds 1) toyKnown toyKnown _ _ (toySigned_determined "T")
    (toySigned_determined "U") (fun hsame => ?_) rfl haccepts
  have hboard : some (Json.obj [("title", .str "T")]) = some (.obj [("title", .str "U")]) :=
    hsame.lookup (erase_determined (toySigned_determined "T") "signature") "board"
  simp at hboard

end SignedIntent

end Ansible
