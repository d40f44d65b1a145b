import Ansible.Client.PrivateEnvelope
import Ansible.Client.VerifierAgreement
import Ansible.Relay.OpsDelta

/-!
# Pulling the delta

The app pulls the log of a relay page by page.  It trusts an op when the attached key verifies
the signature and is the key that it holds for the author: the one it has cached, else the one
that the resolver answers.  What it does not trust it drops, and the cursor goes on.

After the public delta come those of the protected boards, each with a cursor of its own.  The
records of an encrypted board are opened before they are applied.

A session is taken apart into its asynchronous steps.  What throws ends it, and the cursors stay.

## Main definitions

* `Client.RemoteOpSignatureVerifier`, `isTrusted` — the verifier and its cache of keys.
* `Client.privateEnvelope`, `Client.SyncSession.decrypts` — `_decryptPrivateActivities`.
* `SyncClient.begin`, `receive`, `check`, `applyPage`, `finish` — the steps of `syncFromNode`.

## Main results

* `Client.didSignerVerify_of_verifyIdentity` — what the relay verified verifies in the app.
* `RemoteOpSignatureVerifier.isTrusted_of_verified` — which ops are trusted.
-/

namespace Ansible

namespace Client

/-! ### The verifier -/

/-- `_isHex` -/
def isHexText (value : String) (expectedLength : ℕ) : Bool :=
  (chars value).length == expectedLength && (chars value).all fun c => (Json.hexVal c).isSome

def isEd25519 (publicKeyHex signature : String) : Bool :=
  isHexText publicKeyHex 64 && isHexText signature 128

/-- Signatures are raw or DER. -/
def isP256 (publicKeyHex signature : String) : Bool :=
  isHexText publicKeyHex 130 && (chars publicKeyHex).take 2 == ['0', '4'] &&
    (isHexText signature 128 ||
      (List.range' 136 9).any fun length => isHexText signature length)

/-- `_rawP256SignatureToDer` -/
def rawP256SignatureToDer (rawHex : String) : String :=
  match decode16 (bytes rawHex) with
  | some sig =>
    String.ofList (encode16 (AppView.SigVerifier.encodeEcdsaDer (sig.take 32) (sig.drop 32)))
  | none => rawHex

/-- The signature in the form in which it is verified. -/
def verificationSignature (publicKeyHex signature : String) : String :=
  if isP256 publicKeyHex signature ∧ (chars signature).length = 128 then
    rawP256SignatureToDer signature
  else signature

/-- No field is empty. -/
def SignedOp.isComplete (op : SignedOp) : Bool :=
  [op.opId, op.authorDid, op.entityType, op.entityId, op.opType, op.payload, op.signature].all
    (· != "")

/-- `_matchesActivity` -/
def ActivityLogEntry.matchesActivity (e : ActivityLogEntry) : Bool :=
  e.activity.activityId == e.signedOp.opId && e.activity.authorId == e.signedOp.authorDid &&
    e.activity.entityType == e.signedOp.entityType && e.activity.entityId == e.signedOp.entityId &&
      e.activity.type == activityType e.signedOp.opType

/-- `RemoteOpSignatureVerifier`, whose functions answer at each check. -/
structure RemoteOpSignatureVerifier where
  /-- It has a resolver of public keys. -/
  resolvesPublicKey : Bool
  localDid : Option String
  /-- The oldest key first. -/
  keyCache : List (String × String)

namespace RemoteOpSignatureVerifier

variable (V : RemoteOpSignatureVerifier)

/-- `_cacheKey` -/
def cacheKey (did keyHex : String) : RemoteOpSignatureVerifier :=
  let cache := if 500 ≤ V.keyCache.length then V.keyCache.tail else V.keyCache
  { V with keyCache :=
      if cache.any (·.1 == did) then cache.map fun kv => if kv.1 = did then (did, keyHex) else kv
      else cache ++ [(did, keyHex)] }

/-- The key that the verifier goes by: the one it has cached, else the answer of the resolver. -/
def heldKey (answer : Option String) (did : String) : Option String :=
  (V.keyCache.lookup did).or answer

/-- The key that verifies the signature: the attached one, or the legacy key of the device, which
is certified by itself. -/
def verifiedPublicKey (P : Platform) (legacy : Option String) (op : SignedOp)
    (publicKeyHex : String) : Option (String × Bool) :=
  if didSignerVerify P publicKeyHex op.signingPayload
      (verificationSignature publicKeyHex op.signature) then some (publicKeyHex, false)
  else if V.localDid = some op.authorDid ∧ isHexText op.signature 128 = true then
    match legacy with
    | some key =>
      if isHexText key 64 && didSignerVerify P key op.signingPayload op.signature then
        some (key, true)
      else none
    | none => none
  else none

/-- `isTrusted`; `answer` is what the resolver answers if it is asked, and `legacy` the legacy key
of the device. -/
def isTrusted (P : Platform) (answer legacy : Option String) (e : ActivityLogEntry) :
    Bool × RemoteOpSignatureVerifier :=
  match e.signedOp.publicKeyHex with
  | none => (false, V)
  | some publicKeyHex =>
    if e.signedOp.isComplete && publicKeyHex != "" &&
        (isEd25519 publicKeyHex e.signedOp.signature ||
          isP256 publicKeyHex e.signedOp.signature) && e.matchesActivity then
      match V.verifiedPublicKey P legacy e.signedOp publicKeyHex with
      | none => (false, V)
      | some (verified, selfCertified) =>
        if V.resolvesPublicKey then
          match V.heldKey answer e.signedOp.authorDid with
          | none => (false, V)
          | some authorized =>
            if toLowerCase authorized = toLowerCase verified ∨ selfCertified = true then
              (true, V.cacheKey e.signedOp.authorDid authorized)
            else (false, V)
        else (true, V)
    else (false, V)

end RemoteOpSignatureVerifier

/-! ### Trusted ops -/

theorem hexNibbles_of_decode16 : ∀ {B C : Binary}, decode16 B = some C →
    ∀ b ∈ B, (hexNibble b).isSome = true
  | [], _, _ => fun _ hb => absurd hb List.not_mem_nil
  | [_], _, h => by simp [decode16] at h
  | a :: b :: r, _, h => by
    simp only [decode16, Option.bind_eq_bind, Option.bind_eq_some_iff] at h
    obtain ⟨hi, hhi, lo, hlo, d, hd, -⟩ := h
    intro x hx
    rcases List.mem_cons.1 hx with rfl | hx
    · rw [hhi]
      rfl
    rcases List.mem_cons.1 hx with rfl | hx
    · rw [hlo]
      rfl
    · exact hexNibbles_of_decode16 hd x hx

theorem isHexText_of_decode16 {s : String} {C : Binary} (h : decode16 (bytes s) = some C) :
    isHexText s (2 * C.length) = true := by
  have hlen := (unhex_of_decode16 h).2
  obtain ⟨hchars, -⟩ := decodeUtf8_of_decode16 h
  rw [isHexText, Bool.and_eq_true, beq_iff_eq, hlen, length_decode16 h, List.all_eq_true]
  refine ⟨rfl, fun c hc => ?_⟩
  rw [chars, hchars] at hc
  obtain ⟨b, hb, rfl⟩ := List.mem_map.1 hc
  obtain ⟨n, hn⟩ := Option.isSome_iff_exists.1 (hexNibbles_of_decode16 h b hb)
  rw [(hexNibble_bounds hn).2.2.1]
  rfl

theorem length_of_isHexText {s : String} {n : ℕ} (h : isHexText s n = true) :
    (chars s).length = n := by
  rw [isHexText, Bool.and_eq_true] at h
  exact beq_iff_eq.1 h.1

/-- The form of the key and of the signature is one that the app reads. -/
def wellFormed (publicKeyHex signature : String) : Prop :=
  publicKeyHex ≠ "" ∧
    (isEd25519 publicKeyHex signature || isP256 publicKeyHex signature) = true

/-- **What the relay verified verifies in the app**, which has it in the form it expects. -/
theorem didSignerVerify_of_verifyIdentity {P : Platform} {algorithm key sig : String}
    {message : Text} (h : SigVerifier.verifyIdentity P algorithm key message sig = true) :
    wellFormed key sig ∧
      didSignerVerify P key message (verificationSignature key sig) = true := by
  have hverifies := verifySignature_of_verifyIdentity h
  rw [verifySignature, if_neg (ne_empty_of_verifyIdentity h)] at hverifies
  unfold SigVerifier.verifyIdentity at h
  split at h
  · -- an Ed25519 key is too short for a point
    unfold SigVerifier.verifyEd25519 at h
    split at h
    · next k c hk hc =>
      have hkey := isHexText_of_decode16 (decodeHex_eq_some hk).1
      have hsig := isHexText_of_decode16 (decodeHex_eq_some hc).1
      rw [(decodeHex_eq_some hk).2.1] at hkey
      rw [(decodeHex_eq_some hc).2.1] at hsig
      have hlen := length_of_isHexText hkey
      have hnot : ¬ (chars key).length = 130 := by omega
      have hp256 : isP256 key sig = false := by
        rw [isP256, isHexText, beq_eq_false_iff_ne.2 hnot]
        rfl
      refine ⟨⟨?_, by rw [isEd25519, hkey, hsig]; rfl⟩, ?_⟩
      · rintro rfl
        cases hlen
      · rw [verificationSignature, if_neg (by simp [hp256]), didSignerVerify,
          if_neg (fun hcase => hnot hcase.1), SigVerifier.verifyEd25519, hk, hc]
        exact h
    · cases h
  · split at h
    · -- a P-256 key has the length and the first byte by which the app knows it
      next hne halg =>
      rw [if_neg hne, if_pos halg] at hverifies
      unfold SigVerifier.verifyP256 at h
      split at h
      · next k c hk hc =>
        obtain ⟨hk16, hklen, -⟩ := decodeHex_eq_some hk
        simp only [Bool.and_eq_true, beq_iff_eq, decide_eq_true_eq] at h
        obtain ⟨⟨⟨hhead, hlow⟩, hhigh⟩, -⟩ := h
        have hkey := isHexText_of_decode16 hk16
        rw [hklen] at hkey
        have hsig := isHexText_of_decode16 hc
        have hsiglen := length_of_isHexText hsig
        have hp256 : isP256 key sig = true := by
          rw [isP256, hkey, take_two_of_decode16 hk16 hhead, Bool.true_and, beq_self_eq_true,
            Bool.true_and, Bool.or_eq_true]
          refine .inr (List.any_eq_true.2 ⟨2 * c.length, ?_, hsig⟩)
          rw [List.mem_range'_1]
          omega
        refine ⟨⟨?_, by rw [hp256, Bool.or_true]⟩, ?_⟩
        · rintro rfl
          cases length_of_isHexText hkey
        · -- the signature is in DER already
          rw [verificationSignature, if_neg (fun hcase => by omega)]
          exact Option.some.inj hverifies
      · cases h
    · cases h

theorem matchesActivity_opToActivityLogEntry {now : ℤ} {op : AppView.Op} {e : ActivityLogEntry}
    (h : opToActivityLogEntry now op = some e) : e.matchesActivity = true := by
  simp only [opToActivityLogEntry, Option.bind_eq_bind, Option.bind_eq_some_iff, Option.pure_def,
    Option.some.injEq] at h
  obtain ⟨_, -, _, -, rfl⟩ := h
  simp [ActivityLogEntry.matchesActivity]

/-- What is trusted: a key verifies the signature, and it is the one that the verifier goes by or
is certified by itself. -/
theorem RemoteOpSignatureVerifier.isTrusted_of_verified {P : Platform}
    {V : RemoteOpSignatureVerifier} {answer legacy : Option String} {e : ActivityLogEntry}
    {publicKeyHex verified : String} {selfCertified : Bool}
    (hkey : e.signedOp.publicKeyHex = some publicKeyHex) (hcomplete : e.signedOp.isComplete = true)
    (hform : wellFormed publicKeyHex e.signedOp.signature) (hmatches : e.matchesActivity = true)
    (hverified : V.verifiedPublicKey P legacy e.signedOp publicKeyHex
      = some (verified, selfCertified))
    (hheld : V.resolvesPublicKey = true → ∃ k ∈ V.heldKey answer e.signedOp.authorDid,
      toLowerCase k = toLowerCase verified ∨ selfCertified = true) :
    (V.isTrusted P answer legacy e).1 = true := by
  rw [isTrusted, hkey]
  dsimp only
  rw [hcomplete, bne_iff_ne.2 hform.1, hform.2, hmatches, hverified]
  simp only [Bool.and_self, if_true]
  split
  · next hresolves =>
    obtain ⟨k, hk, hsame⟩ := hheld hresolves
    rw [hk]
    dsimp only
    rw [if_pos hsame]
  · rfl

/-! ### A session -/

/-- A page whose entries are verified one after the other. -/
structure PageInProgress where
  pending : List ActivityLogEntry
  trusted : List ActivityLogEntry
  nextCursor : ℕ
  hasMore : Bool

/-- A call of `syncFromNode`, with what it has read at its start. -/
structure SyncSession where
  settings : SyncSettings
  needsSelfBackfill : Bool
  syncTime : ℤ
  currentCursor : ℕ
  hasMore : Bool
  page : Option PageInProgress
  /-- The protected board whose delta is read, once that of the node has been. -/
  board : Option (BoardSubscription × HostedBoardProjection)
  /-- The boards that come after it. -/
  boards : List (BoardSubscription × HostedBoardProjection)

def SyncSession.encryptedBoard (session : SyncSession) : Option HostedBoardProjection :=
  (session.board.map (·.2)).filter (·.contentVisibility == "end_to_end_encrypted")

/-- Threads and posts of an encrypted board are sealed. -/
def isSealed (a : RawActivity) : Bool := a.entityType == "thread" || a.entityType == "post"

/-- The envelope of a sealed record, `none` where it is refused before it is opened. -/
def privateEnvelope (toUtc : ℤ → ℤ) (board : HostedBoardProjection) (a : RawActivity) :
    Option PrivateBoardContentEnvelope := do
  let raw ← some (a.payload.fetch "private_envelope")
  if raw.isObj then
    let envelope ← (PrivateBoardContentEnvelope.fromJson toUtc raw).toOption
    if envelope.boardId = board.hostedBoardId ∧ envelope.epoch = board.encryptionEpoch ∧
        envelope.policyVersion = board.accessPolicyVersion ∧ envelope.recordId = a.entityId ∧
          envelope.recordType = a.entityType then some envelope
    else none
  else none

/-- `_decryptPrivateActivities` does not throw. -/
def SyncSession.decrypts (A : AesGcm) (keys : BoardEpochKeyStore) (toUtc : ℤ → ℤ)
    (session : SyncSession) (entries : List ActivityLogEntry) : Bool :=
  session.encryptedBoard.all fun board =>
    board.encryptionState == "ready" && decide (1 ≤ board.encryptionEpoch) &&
      entries.all fun e => !isSealed e.activity || (privateEnvelope toUtc board e.activity).any
        fun envelope => (decryptContent A keys envelope).isOk

/-- The activity of an entry, which has the creation time of its envelope when it was sealed.  The
clear text goes into the payload, where no selection reads it. -/
def SyncSession.activity (toUtc : ℤ → ℤ) (session : SyncSession) (e : ActivityLogEntry) :
    Option Activity :=
  match session.encryptedBoard with
  | some board =>
    if isSealed e.activity then do
      let envelope ← privateEnvelope toUtc board e.activity
      Activity.fromJson toUtc
        { e.activity with createdAt := DartDateTime.toIso8601String envelope.createdAt }
    else Activity.fromJson toUtc e.activity
  | none => Activity.fromJson toUtc e.activity

def SyncSession.select (session : SyncSession) (a : Activity) : Option Activity :=
  match session.board with
  | some (subscription, _) => session.settings.selectHosted subscription session.syncTime a
  | none => session.settings.select session.syncTime a

/-- The activity of the entry is read, and it is applied. -/
def SyncSession.selects (toUtc : ℤ → ℤ) (session : SyncSession) (e : ActivityLogEntry) : Bool :=
  (session.activity toUtc e).any fun a => (session.select a).isSome

/-- The client of one remote node. -/
structure SyncClient where
  settings : SyncSettings
  /-- The cursor of the node. -/
  syncCursor : ℕ
  /-- The DIDs whose own ops have been replayed. -/
  backfilled : List String
  verifier : RemoteOpSignatureVerifier
  /-- The service can prove that protected boards may be read. -/
  authorizesBoardRead : Bool
  session : Option SyncSession
  /-- The log ids of the ops that have been applied. -/
  applied : List ℤ

namespace SyncClient

variable (c : SyncClient)

def needsSelfBackfill : Bool :=
  c.settings.localDid.any fun did => did != "" && !c.backfilled.contains did

/-- The oldest cursor of the public subscriptions. -/
def firstCursor : ℕ :=
  c.settings.publicHostedSubscriptions.foldl
    (fun oldest b => if b.syncCursor < oldest then b.syncCursor else oldest)
    (if c.needsSelfBackfill then 0 else c.syncCursor)

def begin (now : ℤ) : SyncClient :=
  let S := c.settings
  if S.requireBoardSyncConfig && S.boardConfigs.isEmpty && S.hostedSubscriptions.isEmpty &&
      S.followedAuthorDids.isEmpty && !c.needsSelfBackfill then c
  else
    let boards := if c.authorizesBoardRead then S.protectedHostedSubscriptions else []
    let session : SyncSession :=
      ⟨S, c.needsSelfBackfill, now, c.firstCursor, true, none, none, boards⟩
    { c with session := some session }

/-- The session throws. -/
def abort : SyncClient := { c with session := none }

/-- The delta of the next page arrives. -/
def receive (now : ℤ) (session : SyncSession) (delta : OpsController.DeltaPage) : SyncClient :=
  match delta.ops.mapM (opToActivityLogEntry now) with
  | none => c.abort
  | some entries =>
    { c with session := some { session with
        page := some ⟨entries, [], delta.nextCursor, delta.hasMore⟩ } }

/-- The next entry of the page is verified. -/
def check (P : Platform) (answer legacy : Option String) (session : SyncSession)
    (page : PageInProgress) : SyncClient :=
  match page.pending with
  | [] => c
  | e :: pending =>
    let (trusted, verifier) := c.verifier.isTrusted P answer legacy e
    { c with
      verifier
      session := some { session with page := some { page with
        pending, trusted := if trusted then page.trusted ++ [e] else page.trusted } } }

/-- The entries of a page that is verified are applied, up to the one that throws. -/
def applyPage (A : AesGcm) (keys : BoardEpochKeyStore) (toUtc : ℤ → ℤ) (stopsAt : Option ℕ)
    (session : SyncSession) (page : PageInProgress) : SyncClient :=
  if page.pending.isEmpty then
    if session.decrypts A keys toUtc page.trusted &&
        page.trusted.all fun e => (session.activity toUtc e).isSome then
      let ids := (page.trusted.filter (session.selects toUtc)).map (·.logId)
      match stopsAt with
      | some count => { c.abort with applied := c.applied ++ ids.take count }
      | none =>
        { c with
          applied := c.applied ++ ids
          session := some { session with
            currentCursor := page.nextCursor, hasMore := page.hasMore, page := none } }
    else c.abort
  else c

/-- The session goes on with the next protected board, or it returns. -/
def next (session : SyncSession) : SyncClient :=
  match session.boards with
  | board :: boards =>
    { c with session := some { session with
        board := some board, boards, currentCursor := board.1.syncCursor, hasMore := true
        page := none } }
  | [] =>
    { c.abort with
      backfilled := if session.needsSelfBackfill then
          c.backfilled ++ session.settings.localDid.toList
        else c.backfilled }

/-- The cursors are stored: that of the node and those of the public subscriptions, or that of the
board.  The session goes on, or it throws after some of the subscriptions. -/
def finish (throwsAfter : Option ℕ) (session : SyncSession) : SyncClient :=
  let ids : List String := match session.board with
    | some (subscription, _) => [subscription.subscriptionId]
    | none => session.settings.publicHostedSubscriptions.map (·.subscriptionId)
  let stored := throwsAfter.elim ids ids.take
  let c : SyncClient := { c with
    syncCursor := if session.board.isNone then session.currentCursor else c.syncCursor
    settings.boardSubscriptions := c.settings.boardSubscriptions.map fun b =>
      if stored.contains b.subscriptionId then { b with syncCursor := session.currentCursor }
      else b }
  match throwsAfter with
  | none => c.next session
  | some _ => c.abort

end SyncClient

end Client

end Ansible
