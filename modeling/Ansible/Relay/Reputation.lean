import Ansible.Relay.VpVerifier

/-!
# Reputation tiers

`ReputationController.present` verifies a presentation, derives an assurance profile and a
tier from one of its credentials, stores that credential as the attestation of the DID and
raises the tier of the account.  The verifier returns only the type it accepted; the
controller looks for a credential of that type itself.

## Main definitions

* `ReputationTier.rank` — the order of the tiers.
* `HumanAssurance.fromCredential` — the profile that the claims of a credential give.
* `matchedCredential` — the credential that the controller derives everything from.
* `present` — the endpoint.
* `Earned` — what `present` grants and stores comes from an accepted credential.

## Main results

* `tier_earned_iff` — **a presentation earns what it is granted, in every state, exactly when
  no credential before the accepted one lists the accepted type.**
-/

namespace Ansible

namespace ReputationTier

/-- Unknown tiers rank below all others. -/
def rank (tier : String) : ℕ :=
  if tier = "basic" then 1
  else if tier = "dns_verified" then 2
  else if tier = "humanity_limited" then 3
  else if tier = "verified_human" then 4
  else if tier = "unique_human" then 5
  else 0

def meets (currentTier requiredTier : String) : Bool :=
  decide (rank requiredTier ≤ rank currentTier)

end ReputationTier

open VpVerifier

/-! ### Assurance profiles -/

/-- A profile; its identity control is always `did_key`. -/
structure HumanAssurance where
  humanEvidence : String
  uniqueness : String
  methodClass : Json

namespace HumanAssurance

/-- No human evidence. -/
def nothing : HumanAssurance := ⟨"none", "unknown", .str "none"⟩

/-- The profile that the claims of a subject give. -/
def fromSubject (subject : Json) : HumanAssurance :=
  let methodClass := fun default => (subject.get? "verificationMethodClass").getD (.str default)
  match subject.fetch "humanVerified", subject.fetch "humanAssurance",
      subject.fetch "uniquenessAssurance" with
  | .bool true, .str "verified", .str uniqueness =>
    if uniqueness ∈ ["strong", "limited", "unknown"] then
      ⟨"natural_person", uniqueness, methodClass "unspecified"⟩
    else nothing
  | .bool true, .str "liveness", .str uniqueness =>
    if uniqueness ∈ ["limited", "unknown"] then
      ⟨"liveness", uniqueness, methodClass "liveness"⟩
    else nothing
  | .bool true, .null, .null => ⟨"legacy_verified", "unknown", .str "legacy"⟩
  | _, _, _ => nothing

def fromCredential (credentialType : String) (credential : Option Json) :
    Except VpError HumanAssurance :=
  match credential with
  | some (.obj f) =>
    if credentialType = "TrisAuraHumanityCredential" then do
      let subject ← mapGet (.obj f) "credentialSubject" (.obj [])
      if subject.isObj then return fromSubject subject else .error .raised
    else .ok nothing
  | _ => .ok nothing

def compatibilityTier (a : HumanAssurance) : String :=
  if a.humanEvidence = "natural_person" then
    if a.uniqueness = "strong" then "unique_human" else "humanity_limited"
  else if a.humanEvidence = "liveness" then "humanity_limited"
  else if a.humanEvidence = "legacy_verified" then "verified_human"
  else "basic"

end HumanAssurance

/-! ### Attestations -/

/-- A row of `did_attestations`. -/
structure DidAttestation where
  credentialType : String
  reputationTier : String
  vc : Json
  presentedAt : Time

/-- The row of each DID. -/
abbrev AttestationTable := String → Option DidAttestation

def AttestationStore.put (now : Time) (did credentialType tier : String) (vc : Json)
    (t : AttestationTable) : AttestationTable :=
  fun d => if d = did then some ⟨credentialType, tier, vc, now⟩ else t d

namespace Reputation

inductive Reply
  | granted (did tier : String) (assurance : HumanAssurance) (nostrPubkey : Option String)
  | refused (status : ℕ) (body : Json)
  | raised

def refuse (status : ℕ) (error : String) : Reply := .refused status (.obj [("error", .str error)])

/-! ### The fields of a request -/

/-- `\Adid:(elix:[a-z2-7]{10,}|plc:[a-z2-7]{10,}|web:.+)\z` -/
def validDid (did : String) : Bool :=
  let base32 := fun pre => (afterPrefix (bytes pre) (bytes did)).any fun rest =>
    decide (10 ≤ rest.length) && rest.all isBase32
  base32 "did:elix:" || base32 "did:plc:" ||
    (afterPrefix (bytes "did:web:") (bytes did)).any fun rest =>
      !rest.isEmpty && rest.all (· != 10)

def missingField (field : String) : Reply :=
  .refused 422 (.obj [("error", .str "missing_field"), ("field", .str field)])

/-- The holder and the presentation; the presence of both is checked before the DID. -/
def requestFields (params : Json) : Except Reply (String × Json) := do
  let holder := params.fetch "holder_did"
  ensure (!holder.isNull && !holder.eqv (.str "")) (missingField "holder_did")
  let vp := params.fetch "vp"
  ensure (!vp.isNull) (missingField "vp")
  ensure vp.isObj (.refused 422 (.obj [("error", .str "invalid_field"), ("field", .str "vp")]))
  match holder.str? with
  | some did =>
    ensure (validDid did) (refuse 422 "invalid_did")
    return (did, vp)
  | none => .error (refuse 422 "invalid_did")

def errorReply : VpError → Reply
  | .holderNotFound => refuse 404 "holder_not_found"
  | .invalidVpProof => refuse 401 "invalid_vp"
  | .noCredentials => refuse 422 "no_credentials"
  | .untrustedIssuer => refuse 403 "untrusted_issuer"
  | .invalidVcProof => refuse 401 "invalid_vc"
  | .vcSubjectMismatch => refuse 422 "vc_subject_mismatch"
  | .vcExpired => refuse 422 "vc_expired"
  | .unknownCredentialType => refuse 422 "unsupported_credential_type"
  | .invalidNostrBinding => refuse 401 "invalid_nostr_binding"
  | .nostrBindingMismatch => refuse 422 "nostr_binding_mismatch"
  | .nostrBindingExpired => refuse 401 "nostr_binding_expired"
  | .raised => .raised

/-! ### The presentation -/

/-- The accepted type, and the public key of a binding event when one is given. -/
def verifyPresentation (V : VpEnv) (now : Time) (holderDid : String) (vp nostrBinding : Json)
    (s : Relay) : Except VpError (String × Option String) × Relay :=
  match nostrBinding with
  | .null =>
    match verify V now holderDid vp s with
    | (r, s) => (r.map fun credentialType => (credentialType, none), s)
  | .obj f =>
    match verifyNostrBinding V now holderDid vp (.obj f) s with
    | (r, s) => (r.map fun p => (p.1, some p.2), s)
  | _ => (.error .invalidNostrBinding, s)

/-- `List.wrap` -/
def wrap : Json → List Json
  | .null => []
  | .arr l => l
  | j => [j]

/-- The credential names the type among its types. -/
def lists (credentialType : String) (vc : Json) : Bool :=
  vc.isObj && (wrap (vc.fetch "type")).any (·.eqv (.str credentialType))

/-- The credentials of a presentation, in its order. -/
def credentials (vp : Json) : List Json :=
  match vp.fetch "verifiableCredential" with
  | .arr l => l
  | _ => []

/-- The first credential of the presentation that lists the type. -/
def matchedCredential (vp : Json) (credentialType : String) : Option Json :=
  (credentials vp).find? (lists credentialType)

/-- An attestation is replaced by one of the same or a higher tier than the account has. -/
def persistAttestationIfNotDowngrade (now : Time) (holderDid credentialType tier : String)
    (vp : Json) (s : Relay) (t : AttestationTable) : Relay × AttestationTable :=
  match DidAccountCache.get holderDid s with
  | (some entry, s) =>
    if ReputationTier.rank entry.reputationTier ≤ ReputationTier.rank tier then
      match matchedCredential vp credentialType with
      | some vc => (s, AttestationStore.put now holderDid credentialType tier vc t)
      | none => (s, t)
    else (s, t)
  | (none, s) => (s, t)

/-- The tier of an account only rises. -/
def upgradeTier (E : Env) (now : Time) (holderDid tier : String) (assurance : HumanAssurance)
    (nostrPubkey : Option String) (s : Relay) : Reply × Relay :=
  match DidAccountCache.get holderDid s with
  | (some entry, s) =>
    if ReputationTier.rank entry.reputationTier < ReputationTier.rank tier then
      match DidAccountCache.put E now holderDid entry.publicKeyHex entry.handle
          { reputationTier := tier, signingAlgorithm := entry.signingAlgorithm,
            keyVersion := entry.keyVersion } s with
      | (.ok, s) => (.granted holderDid tier assurance nostrPubkey, s)
      | (.raised, s) => (.raised, s)
    else (.granted holderDid entry.reputationTier assurance nostrPubkey, s)
  | (none, s) => (refuse 404 "holder_not_found", s)

/-- What follows the verification: the accepted type selects a credential again. -/
def grant (E : Env) (now : Time) (holderDid : String) (vp : Json) (credentialType : String)
    (nostrPubkey : Option String) (s : Relay) (t : AttestationTable) :
    Reply × Relay × AttestationTable :=
  let credential := matchedCredential vp credentialType
  match HumanAssurance.fromCredential credentialType credential with
  | .error e => (errorReply e, s, t)
  | .ok assurance =>
    let tier := assurance.compatibilityTier
    match persistAttestationIfNotDowngrade now holderDid credentialType tier vp s t with
    | (s, t) =>
      match upgradeTier E now holderDid tier assurance nostrPubkey s with
      | (reply, s) => (reply, s, t)

/-- `limited` is the answer of the rate limit, when it refuses the peer. -/
def present (V : VpEnv) (now : Time) (limited : Option Json) (params : Json) (s : Relay)
    (t : AttestationTable) : Reply × Relay × AttestationTable :=
  match limited with
  | some detail =>
    (.refused 429 (.obj [("error", .str "rate_limited"), ("detail", detail)]), s, t)
  | none =>
    match requestFields params with
    | .error r => (r, s, t)
    | .ok (holderDid, vp) =>
      match verifyPresentation V now holderDid vp (params.fetch "nostr_binding") s with
      | (.error e, s) => (errorReply e, s, t)
      | (.ok (credentialType, nostrPubkey), s) =>
        grant V.toEnv now holderDid vp credentialType nostrPubkey s t

/-! ### The verification of a presentation -/

section Verification

variable {V : VpEnv} {now : Time} {did : String} {vp binding : Json} {s s' : Relay}

/-- A credential of the presentation that the verifier accepts, with its type. -/
structure AcceptedVc (V : VpEnv) (now : Time) (did : String) (vp : Json) (credentialType : String)
    (vc : Json) : Prop where
  mem : vc ∈ credentials vp
  valid : validateVc V now did vc = .ok ()
  type_eq : vcCredentialType vc = .ok credentialType

/-- The type is that of the first credential that passes its checks. -/
structure Picked (V : VpEnv) (now : Time) (did : String) (vp : Json) (credentialType : String)
    (pre : List Json) (vc : Json) (post : List Json) : Prop where
  split : credentials vp = pre ++ vc :: post
  valid : validateVc V now did vc = .ok ()
  type_eq : vcCredentialType vc = .ok credentialType
  rejected : ∀ x ∈ pre, ∃ e, e ≠ .raised ∧ validateVc V now did x = .error e

variable {credentialType : String}

theorem Picked.accepted {pre post : List Json} {vc : Json}
    (h : Picked V now did vp credentialType pre vc post) :
    AcceptedVc V now did vp credentialType vc :=
  ⟨by simp [h.split], h.valid, h.type_eq⟩

theorem Picked.type_unique {c c' : String} {pre pre' post post' : List Json} {vc vc' : Json}
    (h : Picked V now did vp c pre vc post) (h' : Picked V now did vp c' pre' vc' post') :
    c = c' := by
  have hsplit := h.split.symm.trans h'.split
  have hvc : vc = vc' := by
    rcases List.append_eq_append_iff.1 hsplit with ⟨as, hpre, hrest⟩ | ⟨bs, hpre, hrest⟩
    · cases as with
      | nil => exact (List.cons.inj hrest).1
      | cons a as =>
        -- the first credential stands before the second one, where all are rejected
        obtain ⟨rfl, -⟩ := List.cons.inj hrest
        obtain ⟨e, -, he⟩ := h'.rejected vc (by simp [hpre])
        rw [h.valid] at he
        cases he
    · cases bs with
      | nil => exact (List.cons.inj hrest).1.symm
      | cons b bs =>
        obtain ⟨rfl, -⟩ := List.cons.inj hrest
        obtain ⟨e, -, he⟩ := h.rejected vc' (by simp [hpre])
        rw [h'.valid] at he
        cases he
  subst hvc
  exact Except.ok.inj (h.type_eq.symm.trans h'.type_eq)

/-- The verification only reads the account of the holder. -/
theorem verify_state : (verify V now did vp s).2 = (DidAccountCache.get did s).2 := by
  unfold verify verifyWithCredential resolveHolderKey
  generalize DidAccountCache.get did s = r
  obtain ⟨_ | e, t⟩ := r <;> rfl

theorem verifyPresentation_state {key : Option String}
    (h : (verifyPresentation V now did vp binding s).1 = .ok (credentialType, key)) :
    (verifyPresentation V now did vp binding s).2 = (DidAccountCache.get did s).2 := by
  have hv : (verify V now did vp s).2 = _ := verify_state
  cases binding with
  | null => exact hv
  | obj f => exact hv
  | _ => cases h

theorem picked_of_verify (h : (verify V now did vp s).1 = .ok credentialType) :
    ∃ pre vc post, Picked V now did vp credentialType pre vc post := by
  unfold verify verifyWithCredential resolveHolderKey at h
  generalize DidAccountCache.get did s = r at h
  obtain ⟨_ | e, t⟩ := r
  · cases h
  dsimp only at h
  generalize hx : (do
      verifyVpProof V.toPlatform vp e did
      let vcs ← extractVcs vp
      let vc ← pickAcceptedVc V now did vcs
      return (← vcCredentialType vc, vc) : Except VpError (String × Json)) = x at h
  cases x with
  | error _ => cases h
  | ok p =>
    cases h
    simp only [bind_eq_ok] at hx
    obtain ⟨_, -, vcs, hvcs, vc, hvc, type, htype, hp⟩ := hx
    cases hp
    obtain ⟨pre, post, rfl, hvalid, hpre⟩ := pickAcceptedVc_eq_ok hvc
    refine ⟨pre, vc, post, ?_, hvalid, htype, hpre⟩
    unfold extractVcs at hvcs
    unfold credentials
    split at hvcs
    · next x xs hvp =>
      rw [hvp]
      exact Except.ok.inj hvcs
    · cases hvcs

theorem picked_of_verifyPresentation {key : Option String}
    (h : (verifyPresentation V now did vp binding s).1 = .ok (credentialType, key)) :
    ∃ pre vc post, Picked V now did vp credentialType pre vc post := by
  unfold verifyPresentation at h
  split at h
  · refine picked_of_verify (s := s) ?_
    dsimp only at h
    generalize (verify V now did vp s).1 = r at h ⊢
    cases r with
    | error _ => cases h
    | ok type => exact congrArg Except.ok (Prod.mk.inj (Except.ok.inj h)).1
  · refine picked_of_verify (s := s) ?_
    unfold verifyNostrBinding at h
    dsimp only at h
    generalize (verify V now did vp s).1 = r at h ⊢
    cases r with
    | error _ => cases h
    | ok type =>
      dsimp only [bind, Except.bind] at h
      generalize verifyBindingEvent V now did vp _ = b at h
      cases b with
      | error _ => cases h
      | ok k => exact congrArg Except.ok (Prod.mk.inj (Except.ok.inj h)).1
  · cases h

/-- The verification depends on the state only by the key of the holder. -/
theorem verify_congr {e e' : AccountEntry} (h : (DidAccountCache.get did s).1 = some e)
    (h' : (DidAccountCache.get did s').1 = some e')
    (halg : e'.signingAlgorithm = e.signingAlgorithm) (hkey : e'.publicKeyHex = e.publicKeyHex) :
    (verify V now did vp s').1 = (verify V now did vp s).1 := by
  have hproof : verifyVpProof V.toPlatform vp e' did = verifyVpProof V.toPlatform vp e did := by
    unfold verifyVpProof
    rw [halg, hkey]
  unfold verify verifyWithCredential resolveHolderKey
  generalize DidAccountCache.get did s = r at h
  generalize DidAccountCache.get did s' = r' at h'
  obtain ⟨a, t⟩ := r
  obtain ⟨a', t'⟩ := r'
  subst h h'
  dsimp only
  rw [hproof]

theorem verifyPresentation_congr (h : (verify V now did vp s').1 = (verify V now did vp s).1) :
    (verifyPresentation V now did vp binding s').1
      = (verifyPresentation V now did vp binding s).1 := by
  unfold verifyPresentation verifyNostrBinding
  split
  · dsimp only
    rw [h]
  · dsimp only
    rw [h]
  · rfl

end Verification

/-! ### The credential that is found again -/

section Matched

variable {V : VpEnv} {now : Time} {did credentialType : String} {vp vc : Json}
  {pre post : List Json}

theorem lists_of_accepted (hvalid : validateVc V now did vc = .ok ())
    (htype : vcCredentialType vc = .ok credentialType) : lists credentialType vc = true := by
  simp only [validateVc, checkVcType, bind_eq_ok, ensure_eq_ok] at hvalid
  obtain ⟨_, -, _, ⟨j, hj, types, hitems, hany⟩, -⟩ := hvalid
  simp only [vcCredentialType, bind_eq_ok] at htype
  obtain ⟨j', hj', types', hitems', hfind⟩ := htype
  obtain rfl := Except.ok.inj (hj.symm.trans hj')
  obtain rfl := Except.ok.inj (hitems.symm.trans hitems')
  obtain ⟨x, hx, hrec⟩ := List.any_eq_true.1 hany
  rw [Option.any_eq_true] at hrec
  obtain ⟨t, ht, htrec⟩ := hrec
  -- the recognised types are texts, so one of them is found
  have hmem : credentialType ∈ types.filterMap Json.str? := by
    have htmem : t ∈ types.filterMap Json.str? := List.mem_filterMap.2 ⟨x, hx, ht⟩
    cases hfind
    cases hf : (types.filterMap Json.str?).find? (recognisedCredentialTypes.contains ·) with
    | none => exact absurd htrec (List.find?_eq_none.1 hf t htmem)
    | some u => exact List.mem_of_find?_eq_some hf
  obtain ⟨y, hy, hystr⟩ := List.mem_filterMap.1 hmem
  obtain rfl := Json.str?_eq_some.1 hystr
  cases vc with
  | obj f =>
    have hlist : Json.arr types = (f.lookup "type").getD (.arr []) := by
      cases hj
      unfold enumerate at hitems
      split at hitems
      · next l hl => rw [hl, Except.ok.inj hitems]
      · cases hitems
        simp at hy
      · cases hitems
    have hfetch : (Json.obj f).fetch "type" = .arr types := by
      rw [Json.fetch, Json.get?_obj]
      cases hl : f.lookup "type" with
      | none =>
        rw [hl] at hlist
        cases hlist
        cases hy
      | some v => rw [hlist, hl]; rfl
    rw [lists, hfetch]
    exact List.any_eq_true.2 ⟨_, hy, by simp [Json.eqv]⟩
  | _ => cases hj

/-- The controller finds the accepted credential, or the first before it that lists its
type. -/
theorem Picked.matchedCredential_eq (h : Picked V now did vp credentialType pre vc post) :
    matchedCredential vp credentialType
      = some ((pre.find? (lists credentialType)).getD vc) := by
  rw [matchedCredential, h.split, List.find?_append]
  cases hf : pre.find? (lists credentialType) with
  | some m => rfl
  | none => simp [lists_of_accepted h.valid h.type_eq]

theorem fromCredential_ok (credentialType : String) {m : Json} (hm : m.isObj = true)
    (h : validateVc V now did m ≠ .error .raised) :
    ∃ a, HumanAssurance.fromCredential credentialType (some m) = .ok a := by
  cases m with
  | obj f =>
    rw [HumanAssurance.fromCredential]
    split
    · have hobj : ((f.lookup "credentialSubject").getD (.obj [])).isObj = true := by
        by_contra hobj
        refine h ?_
        have hraise : mapGet ((f.lookup "credentialSubject").getD (.obj [])) "id" .null
            = .error .raised := by
          generalize (f.lookup "credentialSubject").getD (.obj []) = j at hobj
          cases j with
          | obj g => exact absurd rfl hobj
          | _ => rfl
        simp only [validateVc, checkVcSubject, mapGet, bind, Except.bind]
        simp only [mapGet] at hraise
        rw [hraise]
      exact ⟨_, by simp only [mapGet, bind, Except.bind, hobj, if_true]; rfl⟩
    · exact ⟨_, rfl⟩
  | _ => cases hm

end Matched

/-! ### What is granted is earned -/

theorem one_le_rank_compatibilityTier (a : HumanAssurance) :
    1 ≤ ReputationTier.rank a.compatibilityTier := by
  unfold HumanAssurance.compatibilityTier
  repeat' split
  all_goals decide

section Earned

variable (V : VpEnv) (now : Time) (limited : Option Json) (params : Json)

/-- Whatever a request grants and stores comes from a credential that the verifier accepts:
the profile is that of its claims, the tier that of the profile unless the account already
has it, and the attestation that is stored is the credential itself. -/
structure Earned (s : Relay) (t : AttestationTable) : Prop where
  granted : ∀ did tier assurance key,
    (present V now limited params s t).1 = .granted did tier assurance key →
    ∃ vp credentialType vc, requestFields params = .ok (did, vp) ∧
      AcceptedVc V now did vp credentialType vc ∧
      HumanAssurance.fromCredential credentialType (some vc) = .ok assurance ∧
      (tier = assurance.compatibilityTier ∨
        ∃ e, (DidAccountCache.get did s).1 = some e ∧ tier = e.reputationTier)
  stored : ∀ did, (present V now limited params s t).2.2 did ≠ t did →
    ∃ vp credentialType vc assurance, requestFields params = .ok (did, vp) ∧
      AcceptedVc V now did vp credentialType vc ∧
      HumanAssurance.fromCredential credentialType (some vc) = .ok assurance ∧
      (present V now limited params s t).2.2 did
        = some ⟨credentialType, assurance.compatibilityTier, vc, now⟩

/-- No credential before the accepted one lists the accepted type. -/
def FirstListed (did : String) (vp : Json) : Prop :=
  ∀ credentialType pre vc post, Picked V now did vp credentialType pre vc post →
    ∀ x ∈ pre, lists credentialType x = false

variable {V now limited params}

variable {did credentialType : String} {vp : Json} {key : Option String} {s : Relay}
  {a : HumanAssurance}

/-- The outcome of the part after the verification, once the claims are read. -/
theorem grant_of_ok {E : Env} {t : AttestationTable}
    (h : HumanAssurance.fromCredential credentialType (matchedCredential vp credentialType)
      = .ok a) :
    grant E now did vp credentialType key s t =
      ((upgradeTier E now did a.compatibilityTier a key
          (persistAttestationIfNotDowngrade now did credentialType a.compatibilityTier vp s t).1).1,
        (upgradeTier E now did a.compatibilityTier a key
          (persistAttestationIfNotDowngrade now did credentialType a.compatibilityTier vp s t).1).2,
        (persistAttestationIfNotDowngrade now did credentialType a.compatibilityTier
          vp s t).2) := by
  unfold grant
  dsimp only
  rw [h]

theorem upgradeTier_granted {E : Env} {did' tier tier' : String} {a' : HumanAssurance}
    {key' : Option String}
    (h : (upgradeTier E now did tier a key s).1 = .granted did' tier' a' key') :
    did' = did ∧ a' = a ∧
      (tier' = tier ∨ ∃ e, (DidAccountCache.get did s).1 = some e ∧ tier' = e.reputationTier) := by
  unfold upgradeTier at h
  generalize DidAccountCache.get did s = r at h ⊢
  obtain ⟨_ | e, u⟩ := r
  · cases h
  dsimp only at h
  split at h
  · generalize DidAccountCache.put E now did e.publicKeyHex e.handle _ u = w at h
    obtain ⟨_ | _, _⟩ := w
    · obtain ⟨rfl, rfl, rfl, -⟩ := Reply.granted.inj h
      exact ⟨rfl, rfl, .inl rfl⟩
    · cases h
  · obtain ⟨rfl, rfl, rfl, -⟩ := Reply.granted.inj h
    exact ⟨rfl, rfl, .inr ⟨e, rfl, rfl⟩⟩

/-- The attestations change at most in the row of the holder, which then holds the credential
that was found. -/
theorem persist_eq (now : Time) (did tier : String) {m : Json} (s : Relay) (t : AttestationTable)
    (hm : matchedCredential vp credentialType = some m) :
    (persistAttestationIfNotDowngrade now did credentialType tier vp s t).1
        = (DidAccountCache.get did s).2 ∧
      ((persistAttestationIfNotDowngrade now did credentialType tier vp s t).2 = t ∨
        (persistAttestationIfNotDowngrade now did credentialType tier vp s t).2
          = AttestationStore.put now did credentialType tier m t) := by
  unfold persistAttestationIfNotDowngrade
  rw [hm]
  generalize DidAccountCache.get did s = r
  obtain ⟨_ | e, u⟩ := r
  · exact ⟨rfl, .inl rfl⟩
  dsimp only
  split
  · exact ⟨rfl, .inr rfl⟩
  · exact ⟨rfl, .inl rfl⟩

/-- A request that is not refused has fields, a verification and a grant. -/
theorem present_cases (V : VpEnv) (now : Time) (limited : Option Json) (params : Json)
    (s : Relay) (t : AttestationTable) :
    ((∀ did tier a key, (present V now limited params s t).1 ≠ .granted did tier a key) ∧
      (present V now limited params s t).2.2 = t) ∨
    ∃ did vp credentialType key, requestFields params = .ok (did, vp) ∧
      (verifyPresentation V now did vp (params.fetch "nostr_binding") s).1
        = .ok (credentialType, key) ∧
      present V now limited params s t = grant V.toEnv now did vp credentialType key
        (DidAccountCache.get did s).2 t := by
  have herror : ∀ (e : VpError) did tier a key, errorReply e ≠ .granted did tier a key := by
    intro e did tier a key
    cases e <;> simp [errorReply, refuse]
  unfold present
  cases limited with
  | some detail => exact .inl ⟨by simp, rfl⟩
  | none =>
    dsimp only
    cases hfields : requestFields params with
    | error r =>
      refine .inl ⟨fun did tier a key h => ?_, rfl⟩
      -- the fields are refused with an answer that grants nothing
      simp only [requestFields, bind_eq_error, ensure_eq_error, missingField, refuse] at hfields
      dsimp only at h
      subst h
      rcases hfields with ⟨-, h⟩ | ⟨_, -, ⟨-, h⟩ | ⟨_, -, ⟨-, h⟩ | ⟨_, -, h⟩⟩⟩
      · cases h
      · cases h
      · cases h
      · split at h
        · simp only [bind_eq_error, ensure_eq_error] at h
          rcases h with ⟨-, h⟩ | ⟨_, -, h⟩ <;> cases h
        · cases h
    | ok p =>
      obtain ⟨did, vp⟩ := p
      dsimp only
      have hstate : ∀ {c key},
          (verifyPresentation V now did vp (params.fetch "nostr_binding") s).1 = .ok (c, key) →
          (verifyPresentation V now did vp (params.fetch "nostr_binding") s).2
            = (DidAccountCache.get did s).2 := fun h => verifyPresentation_state h
      generalize hv : verifyPresentation V now did vp (params.fetch "nostr_binding") s = r
        at hstate
      obtain ⟨_ | ⟨credentialType, key⟩, u⟩ := r
      · exact .inl ⟨herror _, rfl⟩
      · refine .inr ⟨did, vp, credentialType, key, rfl, by rw [hv], ?_⟩
        have hu : u = (DidAccountCache.get did s).2 := hstate rfl
        rw [← hu]

/-- What the part after the verification grants and stores comes from what is found. -/
theorem grant_of_matched (E : Env) (now : Time) {vc : Json} (key : Option String)
    (t : AttestationTable) {e : AccountEntry} (he : (DidAccountCache.get did s).1 = some e)
    (hm : matchedCredential vp credentialType = some vc) :
    (∀ did' tier a key', (grant E now did vp credentialType key (DidAccountCache.get did s).2 t).1
        = .granted did' tier a key' →
      did' = did ∧ HumanAssurance.fromCredential credentialType (some vc) = .ok a ∧
        (tier = a.compatibilityTier ∨ tier = e.reputationTier)) ∧
    ((grant E now did vp credentialType key (DidAccountCache.get did s).2 t).2.2 = t ∨
      ∃ a, HumanAssurance.fromCredential credentialType (some vc) = .ok a ∧
        (grant E now did vp credentialType key (DidAccountCache.get did s).2 t).2.2
          = AttestationStore.put now did credentialType a.compatibilityTier vc t) := by
  have hget := DidAccountCache.get_get he
  cases ha : HumanAssurance.fromCredential credentialType (some vc) with
  | error err =>
    have hgrant : grant E now did vp credentialType key (DidAccountCache.get did s).2 t
        = (errorReply err, (DidAccountCache.get did s).2, t) := by
      unfold grant
      dsimp only
      rw [hm, ha]
    rw [hgrant]
    refine ⟨fun did' tier a key' h => ?_, .inl rfl⟩
    cases err <;> cases h
  | ok a =>
    have hpersist := persist_eq now did a.compatibilityTier (DidAccountCache.get did s).2 t hm
    rw [grant_of_ok (by rw [hm, ha])]
    refine ⟨fun did' tier a' key' h => ?_, ?_⟩
    · dsimp only at h
      rw [hpersist.1] at h
      obtain ⟨rfl, rfl, htier⟩ := upgradeTier_granted h
      refine ⟨rfl, rfl, htier.imp_right ?_⟩
      rintro ⟨e', he', rfl⟩
      -- the lookups after the first one answer the same entry
      rw [hget] at he'
      dsimp only at he'
      rw [hget] at he'
      rw [Option.some.inj he']
    · exact hpersist.2.imp_right fun h => ⟨a, rfl, h⟩

theorem account_of_verified {binding : Json}
    (h : (verifyPresentation V now did vp binding s).1 = .ok (credentialType, key)) :
    ∃ e, (DidAccountCache.get did s).1 = some e := by
  have hverify : ∃ c, (verify V now did vp s).1 = .ok c := by
    unfold verifyPresentation verifyNostrBinding at h
    split at h
    · generalize verify V now did vp s = r at h ⊢
      obtain ⟨_ | c, _⟩ := r
      · cases h
      · exact ⟨c, rfl⟩
    · generalize verify V now did vp s = r at h ⊢
      obtain ⟨_ | c, _⟩ := r
      · cases h
      · exact ⟨c, rfl⟩
    · cases h
  obtain ⟨c, hc⟩ := hverify
  unfold verify verifyWithCredential resolveHolderKey at hc
  generalize DidAccountCache.get did s = r at hc ⊢
  obtain ⟨_ | e, u⟩ := r
  · cases hc
  · exact ⟨e, rfl⟩

/-- The state with the account of the holder cached under the lowest tier. -/
def asBasic (did : String) (e : AccountEntry) (s : Relay) : Relay :=
  { s with
    didAccountCache := s.didAccountCache.insert did { e with reputationTier := "basic" } }

theorem get_asBasic (did : String) (e : AccountEntry) (s : Relay) :
    DidAccountCache.get did (asBasic did e s)
      = (some { e with reputationTier := "basic" }, asBasic did e s) := by
  simp [DidAccountCache.get, asBasic]

/-- A holder of the lowest tier has what is found stored. -/
theorem stored_asBasic (E : Env) (now : Time) (did : String) {m : Json} (key : Option String)
    (e : AccountEntry) (s : Relay) (hm : matchedCredential vp credentialType = some m)
    (ha : HumanAssurance.fromCredential credentialType (some m) = .ok a) :
    (grant E now did vp credentialType key (asBasic did e s) fun _ => none).2.2 did
      = some ⟨credentialType, a.compatibilityTier, m, now⟩ := by
  rw [grant_of_ok (by rw [hm, ha])]
  have hrank : ReputationTier.rank "basic" ≤ ReputationTier.rank a.compatibilityTier :=
    one_le_rank_compatibilityTier a
  simp only [persistAttestationIfNotDowngrade, get_asBasic, hm, hrank, if_true,
    AttestationStore.put]

/-- **A presentation earns what it is granted, in every state, exactly when no credential
before the accepted one lists the accepted type.**  The verifier returns the type alone, and
the controller takes the first credential that lists it. -/
theorem tier_earned_iff (V : VpEnv) (now : Time) (params : Json) :
    (∀ limited s t, Earned V now limited params s t) ↔
      ∀ s did vp credentialType key, requestFields params = .ok (did, vp) →
        (verifyPresentation V now did vp (params.fetch "nostr_binding") s).1
          = .ok (credentialType, key) → FirstListed V now did vp := by
  constructor
  · intro h s did vp credentialType key hfields hverified type pre vc post hpicked x hx
    by_contra hlists
    rw [Bool.not_eq_false] at hlists
    -- the credential that the controller finds stands before the accepted one
    obtain ⟨m, hm⟩ : ∃ m, pre.find? (lists type) = some m :=
      Option.isSome_iff_exists.1 (List.find?_isSome.2 ⟨x, hx, hlists⟩)
    have hmatched : matchedCredential vp type = some m := by
      rw [hpicked.matchedCredential_eq, hm, Option.getD_some]
    obtain ⟨err, hraised, herr⟩ := hpicked.rejected m (List.mem_of_find?_eq_some hm)
    have hmobj : m.isObj = true := by
      have hl := List.find?_some hm
      rw [lists, Bool.and_eq_true] at hl
      exact hl.1
    obtain ⟨a, ha⟩ := fromCredential_ok type hmobj
      (show validateVc V now did m ≠ .error .raised by rw [herr]; simpa using hraised)
    -- the same presentation by a holder of the lowest tier
    obtain ⟨e, he⟩ := account_of_verified hverified
    have hsame : (verifyPresentation V now did vp (params.fetch "nostr_binding")
        (asBasic did e s)).1 = .ok (credentialType, key) := by
      rw [← hverified]
      exact verifyPresentation_congr
        (verify_congr he (congrArg Prod.fst (get_asBasic did e s)) rfl rfl)
    have htype : type = credentialType := by
      obtain ⟨pre', vc', post', hpicked'⟩ := picked_of_verifyPresentation hverified
      exact hpicked.type_unique hpicked'
    subst htype
    have hpresent : present V now none params (asBasic did e s) (fun _ => none)
        = grant V.toEnv now did vp type key (asBasic did e s) fun _ => none := by
      have hstate := verifyPresentation_state hsame
      rw [get_asBasic] at hstate
      unfold present
      rw [hfields]
      dsimp only
      generalize verifyPresentation V now did vp (params.fetch "nostr_binding")
        (asBasic did e s) = r at hsame hstate
      obtain ⟨r₁, r₂⟩ := r
      subst hsame hstate
      rfl
    have hstored := stored_asBasic V.toEnv now did key e s hmatched ha
    obtain ⟨vp', type', vc', a', hfields', hacc, -, heq⟩ :=
      (h none (asBasic did e s) fun _ => none).stored did (by rw [hpresent, hstored]; simp)
    rw [hpresent, hstored] at heq
    obtain ⟨-, -, rfl, -⟩ := DidAttestation.mk.inj (Option.some.inj heq)
    exact absurd hacc.valid (by simp [herr])
  · intro h limited s t
    have hmatch : ∀ {did vp credentialType key}, requestFields params = .ok (did, vp) →
        (verifyPresentation V now did vp (params.fetch "nostr_binding") s).1
          = .ok (credentialType, key) → ∃ vc, AcceptedVc V now did vp credentialType vc ∧
          matchedCredential vp credentialType = some vc := by
      intro did vp credentialType key hfields hverified
      obtain ⟨pre, vc, post, hpicked⟩ := picked_of_verifyPresentation hverified
      have hfirst := h s did vp credentialType key hfields hverified _ _ _ _ hpicked
      have hnone : pre.find? (lists credentialType) = none :=
        List.find?_eq_none.2 fun x hx => by simp [hfirst x hx]
      exact ⟨vc, hpicked.accepted, by rw [hpicked.matchedCredential_eq, hnone, Option.getD_none]⟩
    rcases present_cases V now limited params s t with
      ⟨hno, hsame⟩ | ⟨did, vp, credentialType, key, hfields, hverified, hpresent⟩
    · exact ⟨fun did tier a key hg => absurd hg (hno did tier a key),
        fun did hne => absurd (congrFun hsame did) hne⟩
    · obtain ⟨vc, hacc, hvc⟩ := hmatch hfields hverified
      obtain ⟨e, he⟩ := account_of_verified hverified
      obtain ⟨hgranted, hstored⟩ := grant_of_matched V.toEnv now key t he hvc
      constructor
      · intro did' tier a key' hg
        rw [hpresent] at hg
        obtain ⟨rfl, ha, htier⟩ := hgranted did' tier a key' hg
        exact ⟨vp, credentialType, vc, hfields, hacc, ha,
          htier.imp_right fun htier => ⟨e, he, htier⟩⟩
      · intro did' hne
        rw [hpresent] at hne ⊢
        rcases hstored with hs | ⟨a, ha, hs⟩
        · exact absurd (congrFun hs did') hne
        · rw [hs, AttestationStore.put] at hne ⊢
          by_cases hd : did' = did
          · subst hd
            exact ⟨vp, credentialType, vc, a, hfields, hacc, ha, by simp⟩
          · exact absurd (by simp [hd]) hne

end Earned

/-! ### A forged credential -/

def toyIssuerKey : Binary := List.replicate 32 7

/-- A registry with one issuer, and no Schnorr signature that verifies. -/
def toyVpEnv : VpEnv where
  toEnv := .toy
  trustedVcIssuers := [⟨"did:web:issuer.example", String.ofList (encode16 toyIssuerKey), none⟩]
  schnorrVerify _ _ _ := false

def toyDid : String := "did:plc:alicealice"

/-- A credential with claims about the holder. -/
def toyVc (issuer assurance uniqueness : String) : Json :=
  .obj [("type", .arr [.str "TrisAuraHumanityCredential"]), ("issuer", .str issuer),
    ("credentialSubject", .obj [("id", .str toyDid), ("humanVerified", .bool true),
      ("humanAssurance", .str assurance), ("uniquenessAssurance", .str uniqueness)])]

/-- A credential that the issuer signed. -/
def toyGenuineVc : Json :=
  let vc := toyVc "did:web:issuer.example" "liveness" "limited"
  vc.merge [("proof", .obj [("proofValue",
    .str (String.ofList (encode16 (toyIssuerKey ++ toyHash (canonicalJson vc).utf8))))])]

/-- A credential that nobody signed. -/
def toyForgedVc : Json := toyVc "did:web:nobody.example" "verified" "strong"

/-- A presentation of the credentials, signed by the holder. -/
def toyVp (vcs : List Json) : Json :=
  let vp := Json.obj [("holder", .str toyDid), ("verifiableCredential", .arr vcs),
    ("proof", .obj [])]
  vp.merge [("proof", .obj [("proofValue", .str (toySign 1 (canonicalJson vp)))])]

def toyRequest (vcs : List Json) : Json :=
  .obj [("holder_did", .str toyDid), ("vp", toyVp vcs)]

def toyHolder : Relay :=
  { Relay.empty with
    didAccountCache := Ets.insert (fun _ => none) toyDid
      ⟨toyKeyHex 1, "p256-sha256", 1, "alice.elix.cool", "basic", seconds 7776000,
        "https://elix.cool"⟩ }

/-- The issuer of the attestation of the holder after a presentation, and its tier. -/
def toyAttested (vcs : List Json) : Option (String × Option String) :=
  ((present toyVpEnv 0 none (toyRequest vcs) toyHolder fun _ => none).2.2 toyDid).map
    fun row => (row.reputationTier, (row.vc.fetch "issuer").str?)

theorem toyForged_attested : toyAttested [toyForgedVc, toyGenuineVc]
    = some ("unique_human", some "did:web:nobody.example") := by decide +kernel

/-- A forged credential in front of a genuine one is stored, with the tier that its claims
give. -/
theorem tier_not_earned :
    ¬ Earned toyVpEnv 0 none (toyRequest [toyForgedVc, toyGenuineVc]) toyHolder fun _ => none := by
  intro h
  have hforged := toyForged_attested
  unfold toyAttested at hforged
  obtain ⟨row, hrow, hissuer⟩ := Option.map_eq_some_iff.1 hforged
  obtain ⟨vp, credentialType, vc, a, -, hacc, -, heq⟩ := h.stored toyDid (by rw [hrow]; simp)
  obtain rfl := Option.some.inj (hrow.symm.trans heq)
  -- an accepted credential is signed by the one registered issuer
  obtain ⟨entry, hentry, -, hfetch, -⟩ := issuer_of_validateVc hacc.valid
  obtain rfl : entry = _ := List.mem_singleton.1 hentry
  rw [hfetch] at hissuer
  exact absurd hissuer (by simp)

example : toyAttested [toyGenuineVc]
    = some ("humanity_limited", some "did:web:issuer.example") := by
  decide +kernel

end Reputation

end Ansible
