import Ansible.Relay.AnchorStore
import Ansible.Relay.IdentityV2

/-!
# Migration of a legacy identity

The active keys of a legacy DID and of a v1 DID both sign that the one moves to the other.
The pair is recorded; the legacy rows stay, and the caches project them onto the v1 DID.

## Main definitions

* `MigrationStore.canonicalBody` — the text that both keys sign.
* `MigrationStore.validateShape` — the fields of a request.
* `AccountMigration.complete` — the transaction that records it.
* `MigrationStore.submit` — the one after the other.

## Main results

* `MigrationStore.submit_leaves` — a request changes nothing, or records a pair of a legacy and
  a v1 DID that agree on the handle and evicts both.
-/

namespace Ansible

namespace MigrationStore

open AnchorStore

def migrationType : String := "io.trisaura.identity.migration"

def canonicalBody (object : Json) : Text :=
  Json.encode (.obj [("type", .str migrationType), ("version", .int 1),
    ("legacy_did", object.fetch "legacy_did"), ("v1_did", object.fetch "v1_did"),
    ("created_at", object.fetch "created_at")])

inductive MigrationError
  | malformed
  | notLegacy
  | notV1
  | didNotFound
  | locked
  | invalidChain
  | invalidSignature
  | handleMismatch
  | accountNotFound
  | accountStateMismatch
  | conflict
  | unavailable
  deriving DecidableEq, Repr

def expectedKeys : List String :=
  ["type", "version", "legacy_did", "v1_did", "created_at", "legacy_sig", "v1_sig"]

/-- A canonical time in UTC. -/
def canonicalTimestamp (value : Json) : Bool :=
  value.str?.any fun s => DateTime.isCanonical s && (DateTime.fromIso8601 s).any (·.2 == 0)

/-- `\Adid:elix:[a-z2-7]{10,}\z` -/
def isElixDid (did : String) : Bool := IdentityV2.hasBase32Suffix "did:elix:" did

/-- The fields of a request: the two DIDs and the two signatures. -/
structure Request where
  legacyDid : String
  v1Did : String
  legacySig : String
  v1Sig : String

def validateShape (params : Json) : Except MigrationError Request :=
  if ¬ (expectedKeys.all (params.keys.contains ·) && params.keys.all (expectedKeys.contains ·)) then
    .error .malformed
  else if ¬ ((params.fetch "type").eqv (.str migrationType) &&
      (params.fetch "version").eqv (.int 1)) then .error .malformed
  else
    match params.fetch "legacy_did" with
    | .str legacyDid =>
      if ¬ isElixDid legacyDid then .error .malformed
      else if IdentityV2.isV1Did legacyDid then .error .notLegacy
      else
        match params.fetch "v1_did" with
        | .str v1Did =>
          if ¬ IdentityV2.isV1Did v1Did then .error .notV1
          else if legacyDid = v1Did then .error .malformed
          else
            match params.fetch "legacy_sig", params.fetch "v1_sig" with
            | .str legacySig, .str v1Sig =>
              if legacySig = "" ∨ v1Sig = "" then .error .malformed
              else if ¬ canonicalTimestamp (params.fetch "created_at") then .error .malformed
              else .ok ⟨legacyDid, v1Did, legacySig, v1Sig⟩
            | _, _ => .error .malformed
        | _ => .error .notV1
    | _ => .error .malformed

def ofChainError : ChainError → MigrationError
  | .locked => .locked
  | .notFound => .didNotFound
  | .invalidChain => .invalidChain
  | .raised => .unavailable

end MigrationStore

namespace AccountMigration

open MigrationStore

/-- The legacy account is that of the legacy anchor, the v1 account that of the v1 anchor if
there is one, and both have one handle. -/
def validateAccountProjection (legacy v1Account : Option DidAccount)
    (legacyAnchor v1Anchor : IdentityAnchor) : Except MigrationError Unit :=
  match legacy with
  | none => .error .accountNotFound
  | some legacy =>
    if legacy.handle ≠ legacyAnchor.handle ∨ legacy.handle ≠ v1Anchor.handle then
      .error .handleMismatch
    else if legacy.publicKeyHex ≠ legacyAnchor.identityKey ∨
        legacy.signingAlgorithm ≠ legacyAnchor.identityKeyAlgorithm then
      .error .accountStateMismatch
    else if v1Account.any fun a =>
        a.handle != legacy.handle || a.publicKeyHex != v1Anchor.identityKey then
      .error .accountStateMismatch
    else .ok ()

def invalidateCaches (legacyDid v1Did handle : String) (s : Relay) : Relay :=
  let s := DidAccountCache.invalidate legacyDid (some handle) s
  let s := DidAccountCache.invalidate v1Did (some handle) s
  IdentityCache.invalidate v1Did (IdentityCache.invalidate legacyDid s)

/-- The account checks and the record of a pair, with the eviction of both DIDs after it. -/
def recordPair (r : Request) (legacyAnchor v1Anchor : IdentityAnchor) (body : Text) (s : Relay) :
    Except MigrationError DidElixMigration × Relay :=
  match validateAccountProjection (s.didAccounts.find (·.did == r.legacyDid))
      (s.didAccounts.find (·.did == r.v1Did)) legacyAnchor v1Anchor with
  | .error e => (.error e, s)
  | .ok () =>
    let row : DidElixMigration :=
      { legacyDid := r.legacyDid, v1Did := r.v1Did, handle := legacyAnchor.handle,
        canonicalBody := body, legacySig := r.legacySig, v1Sig := r.v1Sig }
    match s.didElixMigrations.insert row with
    | none => (.error .conflict, s)
    | some t => (.ok row,
        invalidateCaches r.legacyDid r.v1Did legacyAnchor.handle { s with didElixMigrations := t })

/-- The transaction: the active anchors of both DIDs are locked, whichever they are by now, and
a pair that was recorded meanwhile is answered. -/
def complete (r : Request) (legacyAnchor v1Anchor : IdentityAnchor) (body : Text) (s : Relay) :
    Except MigrationError DidElixMigration × Relay :=
  if (s.activeAnchor r.legacyDid).isNone || (s.activeAnchor r.v1Did).isNone then
    (.error .didNotFound, s)
  else
    match s.didElixMigrations.find (·.legacyDid == r.legacyDid) with
    | some existing =>
      if existing.v1Did = r.v1Did ∧ existing.canonicalBody = body then
        (.ok existing, invalidateCaches r.legacyDid r.v1Did legacyAnchor.handle s)
      else (.error .conflict, s)
    | none => recordPair r legacyAnchor v1Anchor body s

end AccountMigration

namespace MigrationStore

open AnchorStore

/-- The checks of a pair that is not recorded yet: the active anchors whose keys have signed. -/
def lookupPair (P : Platform) (params : Json) (r : Request) (s : Relay) :
    Except MigrationError (IdentityAnchor × IdentityAnchor) :=
  match getChain P r.legacyDid s, getChain P r.v1Did s with
  | .error e, _ => .error (ofChainError e)
  | _, .error e => .error (ofChainError e)
  | .ok _, .ok v1Chain =>
    if ¬ v1Chain.head?.any (fun genesis => (genesis.fetch "schema_version").eqv (.int 4)) then
      .error .notV1
    else
      match s.activeAnchor r.legacyDid, s.activeAnchor r.v1Did with
      | some legacy, some v1 =>
        let body := canonicalBody params
        if ¬ SigVerifier.verifyIdentity P legacy.identityKeyAlgorithm legacy.identityKey body
            r.legacySig then .error .invalidSignature
        else if ¬ SigVerifier.verifyIdentity P v1.identityKeyAlgorithm v1.identityKey body
            r.v1Sig then .error .invalidSignature
        else if legacy.handle ≠ v1.handle then .error .handleMismatch
        else .ok (legacy, v1)
      | _, _ => .error .didNotFound

/-- The checks, and the transaction with the anchors that they have found. -/
def submitNew (P : Platform) (params : Json) (r : Request) (s : Relay) :
    Except MigrationError DidElixMigration × Relay :=
  match lookupPair P params r s with
  | .error e => (.error e, s)
  | .ok (legacy, v1) => AccountMigration.complete r legacy v1 (canonicalBody params) s

/-- Record a migration; one that is recorded already is answered again. -/
def submit (P : Platform) (params : Json) (s : Relay) :
    Except MigrationError DidElixMigration × Relay :=
  match validateShape params with
  | .error e => (.error e, s)
  | .ok r =>
    match s.didElixMigrations.find (·.legacyDid == r.legacyDid) with
    | some existing =>
      if existing.v1Did = r.v1Did ∧ existing.canonicalBody = canonicalBody params then
        (.ok existing, s)
      else (.error .conflict, s)
    | none => submitNew P params r s

/-! ### What a request leaves -/

/-- A pair that is recorded: its DIDs are of the two kinds, the legacy account has the handle
of the pair, and the v1 DID has an active anchor. -/
structure Recorded (s : Relay) (row : DidElixMigration) : Prop where
  legacy : isElixDid row.legacyDid = true
  notV1 : IdentityV2.isV1Did row.legacyDid = false
  v1 : IdentityV2.isV1Did row.v1Did = true
  account : ∃ a ∈ s.didAccounts.rows, a.did = row.legacyDid ∧ a.handle = row.handle
  v1Account : ∀ a ∈ s.didAccounts.rows, a.did = row.v1Did → a.handle = row.handle
  v1Anchor : (s.activeAnchor row.v1Did).isSome = true

theorem validateShape_eq_ok {params : Json} {r : Request} (h : validateShape params = .ok r) :
    isElixDid r.legacyDid = true ∧ IdentityV2.isV1Did r.legacyDid = false ∧
      IdentityV2.isV1Did r.v1Did = true := by
  unfold validateShape at h
  split at h
  · cases h
  split at h
  · cases h
  split at h
  · split at h
    · cases h
    next h1 =>
    split at h
    · cases h
    next h2 =>
    split at h
    · split at h
      · cases h
      next h3 =>
      split at h
      · cases h
      split at h
      · split at h
        · cases h
        split at h
        · cases h
        cases h
        exact ⟨by simpa using h1, by simpa using h2, by simpa using h3⟩
      · cases h
    · cases h
  · cases h

theorem find_account {s : Relay} {did : String} {a : DidAccount} :
    s.didAccounts.find (·.did == did) = some a ↔ a ∈ s.didAccounts.rows ∧ a.did = did := by
  rw [Table.find_eq_some_iff, beq_iff_eq]
  intro x hx y hy hxd hyd
  rw [beq_iff_eq] at hxd hyd
  exact s.didAccounts.valid.did.eq hx hy rfl rfl (hxd.trans hyd.symm)

theorem validateAccountProjection_eq_ok {legacy v1Account : Option DidAccount}
    {legacyAnchor v1Anchor : IdentityAnchor}
    (h : AccountMigration.validateAccountProjection legacy v1Account legacyAnchor v1Anchor
      = .ok ()) :
    ∃ a, legacy = some a ∧ a.handle = legacyAnchor.handle ∧
      ∀ b, v1Account = some b → b.handle = a.handle := by
  unfold AccountMigration.validateAccountProjection at h
  split at h
  · cases h
  next a =>
  split at h
  · cases h
  next hhandle =>
  split at h
  · cases h
  split at h
  · cases h
  next hv1account =>
  refine ⟨a, rfl, not_not.1 fun hne => hhandle (.inl hne), fun b hb => ?_⟩
  subst hb
  by_contra hne
  exact hv1account (by simp [hne])

/-- What a request leaves: the pairs as they are, of which an answered one is one, or one more
pair, which is answered, with both of its DIDs evicted. -/
def Leaves (s : Relay) (r : Except MigrationError DidElixMigration × Relay) : Prop :=
  (r.2 = s ∧ ∀ row, r.1 = .ok row → row ∈ s.didElixMigrations.rows) ∨
    ∃ row t, Recorded s row ∧ s.didElixMigrations.insert row = some t ∧ r.1 = .ok row ∧
      r.2 = AccountMigration.invalidateCaches row.legacyDid row.v1Did row.handle
        { s with didElixMigrations := t }

theorem Leaves.refused (s : Relay) (e : MigrationError) : Leaves s (.error e, s) :=
  .inl ⟨rfl, fun _ h => by cases h⟩

theorem recordPair_leaves (r : Request) (legacy v1 : IdentityAnchor) (body : Text) (s : Relay)
    (hlegacy : isElixDid r.legacyDid = true) (hnot : IdentityV2.isV1Did r.legacyDid = false)
    (hv1 : IdentityV2.isV1Did r.v1Did = true) (hactive : (s.activeAnchor r.v1Did).isSome = true) :
    Leaves s (AccountMigration.recordPair r legacy v1 body s) := by
  unfold AccountMigration.recordPair
  split
  · exact .refused ..
  next hprojection =>
  dsimp only
  split
  · exact .refused ..
  next t ht =>
  obtain ⟨a, ha, hhandle, hv1account⟩ := validateAccountProjection_eq_ok hprojection
  obtain ⟨hmem, hdid⟩ := find_account.1 ha
  exact .inr ⟨_, t, ⟨hlegacy, hnot, hv1, ⟨a, hmem, hdid, hhandle⟩, fun b hb hbd =>
    (hv1account b (find_account.2 ⟨hb, hbd⟩)).trans hhandle, hactive⟩, ht, rfl, rfl⟩

/-- The transaction of a pair that is not recorded changes nothing, or records the pair. -/
theorem complete_leaves (r : Request) (legacy v1 : IdentityAnchor) (body : Text) (s : Relay)
    (hlegacy : isElixDid r.legacyDid = true) (hnot : IdentityV2.isV1Did r.legacyDid = false)
    (hv1 : IdentityV2.isV1Did r.v1Did = true)
    (hnone : s.didElixMigrations.find (·.legacyDid == r.legacyDid) = none) :
    Leaves s (AccountMigration.complete r legacy v1 body s) := by
  unfold AccountMigration.complete
  rw [hnone]
  split
  · exact .refused ..
  · next hactive =>
    rw [Bool.or_eq_true, not_or, Bool.not_eq_true, Option.isNone_eq_false_iff] at hactive
    have hsome := hactive.2
    rw [Bool.not_eq_true, Option.isNone_eq_false_iff] at hsome
    exact recordPair_leaves r legacy v1 body s hlegacy hnot hv1 hsome

/-- **A request changes nothing, or records a pair and evicts both DIDs.** -/
theorem submit_leaves (P : Platform) (params : Json) (s : Relay) :
    Leaves s (submit P params s) := by
  unfold submit
  split
  · exact .refused ..
  next r hshape =>
  obtain ⟨hlegacy, hnot, hv1⟩ := validateShape_eq_ok hshape
  split
  · next existing hfind =>
    split
    · exact .inl ⟨rfl, fun row hrow => Except.ok.inj hrow ▸ Table.mem_of_find hfind⟩
    · exact .refused ..
  next hnone =>
  unfold submitNew
  split
  · exact .refused ..
  · exact complete_leaves r _ _ _ s hlegacy hnot hv1 hnone

end MigrationStore

end Ansible
