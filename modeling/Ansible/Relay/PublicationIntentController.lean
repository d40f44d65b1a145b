import Ansible.AppView.OpVerification
import Ansible.Relay.IdentityCache
import Ansible.Relay.PublicationIntentStore

/-!
# The endpoint of publication intents

An app sends a signed intent.  After the checks the relay writes the handle of the author's
account into the payload and accepts the intent.

## Main definitions

* `PublicationIntentController.authorize` — all checks, up to the handle of the account.
* `PublicationIntentController.create` — the endpoint.

## Main results

* `PublicationIntentController.authorize_eq_ok` — **an intent that passes the checks carries the
  handle of its author's account, and its author has consented.**
-/

namespace Ansible

inductive PublicationRefusal
  | missingFields (fields : List String)
  | invalidValue (field : String)
  | privateVisibility
  | invalidSignatureScheme
  | notesOnly
  | unsupportedSigningAlgorithm
  | malformedSignature
  | payloadHashMismatch
  | invalidSyncCapability
  | unverifiedDid
  | badSignature
  | accountUnavailable
  | requiresVerifiedHuman
  | notEnabled
  | duplicate
  /-- The request fails with an exception. -/
  | raised
  deriving DecidableEq, Repr

/-- A request: its parameters, and what became of the check of the sync capability. -/
structure PublicationRequest where
  now : Time
  params : Json
  syncAuthorized : Bool

namespace PublicationIntentController

def requiredFields : List String :=
  ["intent_id", "author_did", "content_item_id", "action", "visibility", "payload",
    "payload_hash", "signature"]

def missingFields (params : Json) : List String :=
  requiredFields.filter fun field =>
    (params.fetch field).isNull || (params.fetch field).eqv (.str "")

def parseAction : Json → Except PublicationRefusal PublicationAction
  | .str "publish" => .ok .publish
  | .str "update" => .ok .update
  | .str "delete" => .ok .delete
  | _ => .error (.invalidValue "action")

def parseVisibility : Json → Except PublicationRefusal PublicationVisibility
  | .str "private" => .error .privateVisibility
  | .str "public" => .ok .isPublic
  | .str "unlisted" => .ok .unlisted
  | _ => .error (.invalidValue "visibility")

def parseScheme : Json → Except PublicationRefusal (Option String)
  | .null => .ok none
  | .str "ed25519" => .ok (some "ed25519")
  | .str "p256-sha256" => .ok (some "p256-sha256")
  | _ => .error .invalidSignatureScheme

def isNote (payload : Json) : Bool := payload.isObj && (payload.fetch "type").eqv (.str "note")

def startsWith (pre text : String) : Bool := (chars pre).isPrefixOf (chars text)

/-- `^[0-9a-f]{least,most}$`, which lets one newline follow. -/
def isHexText (least most : ℕ) (b : Binary) : Bool :=
  let digits := if b.getLast? = some 10 then b.dropLast else b
  decide (least ≤ digits.length) && decide (digits.length ≤ most) && digits.all isLowerHex

def isDevSignature (C : FediverseConfig) (signature : String) : Bool :=
  C.allowDevPublicationSignatures && startsWith "dev-signature-" (VpVerifier.downcaseHex signature)

def validSignatureShape (C : FediverseConfig) (signature : String) (scheme : Option String) :
    Bool :=
  let lower := VpVerifier.downcaseHex signature
  if isDevSignature C lower then true
  else if startsWith "dev" lower || startsWith "stub" lower || startsWith "deadbeef" lower then
    false
  else if (chars lower).tails.any fun rest => (chars "stub").isPrefixOf rest then false
  else if scheme = some "p256-sha256" then
    isHexText 136 144 (bytes lower) && (bytes lower).length % 2 == 0
  else isHexText 128 128 (bytes lower)

def signingPayload (params : Json) (payloadHash : String) : Text :=
  (Json.arr [params.fetch "author_did", params.fetch "content_item_id", params.fetch "action",
    params.fetch "visibility", .str (VpVerifier.downcaseHex payloadHash)]).encode

def textOf (e : PublicationRefusal) : Json → Except PublicationRefusal String
  | .str s => .ok s
  | _ => .error e

/-! ### Checks that read the relay -/

def checkDidVerified (C : FediverseConfig) (now : Time) (did signature : String) :
    Checked Federation PublicationRefusal Unit := fun s =>
  match IdentityCache.get now did s.relay with
  | (some entry, r) =>
    (ensure (decide (now < entry.expiresAt) || isDevSignature C signature) .unverifiedDid,
      { s with relay := r })
  | (none, r) => (ensure (isDevSignature C signature) .unverifiedDid, { s with relay := r })

def checkSignature (C : FediverseConfig) (now : Time) (did : String) (message : Text)
    (signature : String) : Checked Federation PublicationRefusal Unit := fun s =>
  if isDevSignature C signature then (.ok (), s)
  else
    match IdentityCache.verifySignature C.toPlatform now did message signature s.relay with
    | (valid, r) => (ensure valid .badSignature, { s with relay := r })

/-- The handle comes from the account, never from the client. -/
def checkActivityPubEnabled (did : String) : Checked Federation PublicationRefusal String :=
  fun s =>
    match DidAccountCache.get did s.relay with
    | (none, r) => (.error .requiresVerifiedHuman, { s with relay := r })
    | (some entry, r) =>
      let s := { s with relay := r }
      if entry.handle = "" then (.error .requiresVerifiedHuman, s)
      else if !ReputationTier.meets entry.reputationTier "verified_human" then
        (.error .requiresVerifiedHuman, s)
      else if !FediversePreferences.enabledForDid did s.preferences then (.error .notEnabled, s)
      else (.ok entry.handle, s)

/-- The checks, in their order; what passes are the fields of the intent. -/
def authorize (C : FediverseConfig) (q : PublicationRequest) :
    Checked Federation PublicationRefusal IntentAttrs := do
  Checked.lift (ensure (missingFields q.params).isEmpty (.missingFields (missingFields q.params)))
  let action ← Checked.lift (parseAction (q.params.fetch "action"))
  let visibility ← Checked.lift (parseVisibility (q.params.fetch "visibility"))
  let scheme ← Checked.lift (parseScheme (q.params.fetch "signature_scheme"))
  let payload := q.params.fetch "payload"
  Checked.lift (ensure (isNote payload) .notesOnly)
  Checked.lift (ensure (IdentityWritePolicy.allowed C.toConfig (q.params.fetch "signature_scheme"))
    .unsupportedSigningAlgorithm)
  let signature ← Checked.lift (textOf .malformedSignature (q.params.fetch "signature"))
  Checked.lift (ensure (validSignatureShape C signature scheme) .malformedSignature)
  let payloadHash ← Checked.lift (textOf .payloadHashMismatch (q.params.fetch "payload_hash"))
  Checked.lift (ensure (VpVerifier.downcaseHex payloadHash ==
    String.ofList (encode16 (C.sha256 (AppView.canonicalJson payload).utf8))) .payloadHashMismatch)
  Checked.lift (ensure q.syncAuthorized .invalidSyncCapability)
  let authorDid ← Checked.lift (textOf
    (if isDevSignature C signature then .accountUnavailable else .unverifiedDid)
    (q.params.fetch "author_did"))
  checkDidVerified C q.now authorDid signature
  checkSignature C q.now authorDid (signingPayload q.params payloadHash) signature
  let handle ← checkActivityPubEnabled authorDid
  let intentId ← Checked.lift (textOf .raised (q.params.fetch "intent_id"))
  let contentItemId ← Checked.lift (textOf .raised (q.params.fetch "content_item_id"))
  return { intentId, authorDid, contentItemId, action, visibility
           payload := payload.merge [("actor", .str handle)] }

/-- The store, and the replies to its errors. -/
def acceptIntent (C : FediverseConfig) (now : Time) (attrs : IntentAttrs) :
    Checked Federation PublicationRefusal PublicationRow := fun s =>
  match PublicationIntentStore.accept C now attrs s with
  | (.ok row, s) => (.ok row, s)
  | (.error .duplicate, s) => (.error .duplicate, s)
  | (.error _, s) => (.error .raised, s)

def create (C : FediverseConfig) (q : PublicationRequest) :
    Checked Federation PublicationRefusal PublicationRow := do
  let attrs ← authorize C q
  acceptIntent C q.now attrs

/-! ### What a request establishes -/

/-- The state changes in the caches at most. -/
def Caching {α : Type} (x : Checked Federation PublicationRefusal α) : Prop :=
  Checked.Keeps (fun s t => ∃ relay, t = { s with relay }) x

theorem caching_lift {α : Type} (x : Except PublicationRefusal α) : Caching (Checked.lift x) :=
  fun s => ⟨s.relay, rfl⟩

theorem Caching.bind {α β : Type} {x : Checked Federation PublicationRefusal α}
    {f : α → Checked Federation PublicationRefusal β} (hx : Caching x) (hf : ∀ a, Caching (f a)) :
    Caching (x >>= f) := by
  refine Checked.Keeps.bind ?_ hx hf
  rintro s t u ⟨r, rfl⟩ ⟨r', rfl⟩
  exact ⟨r', rfl⟩

theorem caching_checkDidVerified (C : FediverseConfig) (now : Time) (did signature : String) :
    Caching (checkDidVerified C now did signature) := by
  intro s
  unfold checkDidVerified
  split <;> exact ⟨_, rfl⟩

theorem caching_checkSignature (C : FediverseConfig) (now : Time) (did : String) (message : Text)
    (signature : String) : Caching (checkSignature C now did message signature) := by
  intro s
  unfold checkSignature
  split
  · exact ⟨_, rfl⟩
  · exact ⟨_, rfl⟩

theorem caching_checkActivityPubEnabled (did : String) :
    Caching (checkActivityPubEnabled did) := by
  intro s
  unfold checkActivityPubEnabled
  split
  · exact ⟨_, rfl⟩
  dsimp only
  split
  · exact ⟨_, rfl⟩
  split
  · exact ⟨_, rfl⟩
  split
  · exact ⟨_, rfl⟩
  · exact ⟨_, rfl⟩

theorem caching_authorize (C : FediverseConfig) (q : PublicationRequest) :
    Caching (authorize C q) := by
  unfold authorize
  refine (caching_lift _).bind fun _ => (caching_lift _).bind fun action => ?_
  refine (caching_lift _).bind fun visibility => (caching_lift _).bind fun scheme => ?_
  refine (caching_lift _).bind fun _ => (caching_lift _).bind fun _ => ?_
  refine (caching_lift _).bind fun signature => (caching_lift _).bind fun _ => ?_
  refine (caching_lift _).bind fun payloadHash => (caching_lift _).bind fun _ => ?_
  refine (caching_lift _).bind fun _ => (caching_lift _).bind fun authorDid => ?_
  refine (caching_checkDidVerified C q.now authorDid signature).bind fun _ => ?_
  refine (caching_checkSignature C q.now authorDid _ signature).bind fun _ => ?_
  refine (caching_checkActivityPubEnabled authorDid).bind fun handle => ?_
  exact (caching_lift _).bind fun intentId => (caching_lift _).bind fun _ =>
    fun s => ⟨s.relay, rfl⟩

/-- What is known of an intent that passes the checks. -/
structure Authorized (attrs : IntentAttrs) (handle : String) (s : Federation) : Prop where
  handle_ne : handle ≠ ""
  /-- The handle is that of the author's account. -/
  account : ∃ entry, DidAccountCache.get attrs.authorDid s.relay = (some entry, s.relay) ∧
    entry.handle = handle
  enabled : FediversePreferences.enabledForDid attrs.authorDid s.preferences = true
  actor : attrs.payload.fetch "actor" = .str handle

theorem checkActivityPubEnabled_eq_ok {did handle : String} {s t : Federation}
    (h : checkActivityPubEnabled did s = (.ok handle, t)) :
    handle ≠ "" ∧ FediversePreferences.enabledForDid did t.preferences = true ∧
      ∃ entry, DidAccountCache.get did t.relay = (some entry, t.relay) ∧ entry.handle = handle := by
  unfold checkActivityPubEnabled at h
  split at h
  · cases h
  next entry r hget =>
  have hcached := DidAccountCache.get_get (s := s.relay) (congrArg Prod.fst hget)
  rw [hget] at hcached
  dsimp only at h
  split at h
  · cases h
  next hne =>
  split at h
  · cases h
  split at h
  · cases h
  next henabled =>
  obtain ⟨hhandle, rfl⟩ := Prod.mk.inj h
  cases hhandle
  exact ⟨hne, by simpa using henabled, entry, hcached, rfl⟩

theorem fetch_actor {payload : Json} (h : payload.isObj = true) (handle : String) :
    (payload.merge [("actor", .str handle)]).fetch "actor" = .str handle := by
  cases payload with
  | obj fields => exact Json.fetch_merge_new List.mem_cons_self
  | _ => cases h

/-- **An intent that passes the checks carries the handle of its author's account, and its
author has consented.** -/
theorem authorize_eq_ok {C : FediverseConfig} {q : PublicationRequest} {s t : Federation}
    {attrs : IntentAttrs} (h : authorize C q s = (.ok attrs, t)) :
    ∃ handle, Authorized attrs handle t := by
  unfold authorize at h
  obtain ⟨_, _, h₁, h⟩ := Checked.bind_eq_ok.1 h
  obtain ⟨action, _, h₂, h⟩ := Checked.bind_eq_ok.1 h
  obtain ⟨visibility, _, h₃, h⟩ := Checked.bind_eq_ok.1 h
  obtain ⟨scheme, _, h₄, h⟩ := Checked.bind_eq_ok.1 h
  obtain ⟨_, _, h₅, h⟩ := Checked.bind_eq_ok.1 h
  obtain ⟨_, _, h₆, h⟩ := Checked.bind_eq_ok.1 h
  obtain ⟨signature, _, h₇, h⟩ := Checked.bind_eq_ok.1 h
  obtain ⟨_, _, h₈, h⟩ := Checked.bind_eq_ok.1 h
  obtain ⟨payloadHash, _, h₉, h⟩ := Checked.bind_eq_ok.1 h
  obtain ⟨_, _, h₁₀, h⟩ := Checked.bind_eq_ok.1 h
  obtain ⟨_, _, h₁₁, h⟩ := Checked.bind_eq_ok.1 h
  obtain ⟨authorDid, _, h₁₂, h⟩ := Checked.bind_eq_ok.1 h
  obtain ⟨_, _, h₁₃, h⟩ := Checked.bind_eq_ok.1 h
  obtain ⟨_, _, h₁₄, h⟩ := Checked.bind_eq_ok.1 h
  obtain ⟨handle, u, h₁₅, h⟩ := Checked.bind_eq_ok.1 h
  obtain ⟨intentId, v, h₁₆, h⟩ := Checked.bind_eq_ok.1 h
  obtain ⟨contentItemId, w, h₁₇, hpure⟩ := Checked.bind_eq_ok.1 h
  obtain ⟨-, rfl⟩ := Checked.lift_eq_ok.1 h₁₆
  obtain ⟨-, rfl⟩ := Checked.lift_eq_ok.1 h₁₇
  rw [Checked.pure_apply] at hpure
  obtain ⟨hattrs, rfl⟩ := Prod.mk.inj hpure
  cases hattrs
  obtain ⟨hne, henabled, haccount⟩ := checkActivityPubEnabled_eq_ok h₁₅
  have hnote := ensure_eq_ok.1 (Checked.lift_eq_ok.1 h₅).1
  rw [isNote, Bool.and_eq_true] at hnote
  exact ⟨handle, hne, haccount, henabled, fetch_actor hnote.1 handle⟩

end PublicationIntentController

end Ansible
