import Ansible.Relay.ServedChain

/-!
# Federated resolution

A relay resolves a DID that it does not hold from the chain that a peer serves, and accepts
the answer when the objects verify by themselves.

## Main definitions

* `FederatedResolver.verifiedChain` — `verified_chain?/2`, where an exception accepts nothing.

## Main results

* `FederatedResolver.verifiedChain_of_served` — **a served chain of version 4 is accepted.**
-/

namespace Ansible

open AnchorStore

namespace FederatedResolver

/-! ### The checks -/

/-- `version >= 4` in the order of terms, in which every number is below anything else. -/
def atLeastFour : Json → Bool
  | .int i => 4 ≤ i
  | .float q => 4 ≤ q
  | _ => true

def genesisVerified (P : Platform) (object : Json) : Bool :=
  if (object.get? "schema_version").any atLeastFour then
    let commitment := object.fetch "genesis_commitment"
    commitment.isObj && (commitment.fetch "genesis_key").eqv (object.fetch "identity_key") &&
      (object.fetch "did").str?.any fun did => DidElix.matchesV1 P did commitment
  else
    match object.fetch "did", object.fetch "identity_key", object.fetch "handle",
        custodyClass object, identityKeyAlgorithm object with
    | .str did, .str key, .str handle, .str custody, .str algorithm =>
      DidElix.derive P key handle custody algorithm == did
    | _, _, _, _, _ => false

/-- `object["devices"] || []`; what cannot be enumerated raises. -/
def devicesOf (object : Json) : Option (List Json) :=
  match (object.fetch "devices").orElse (.arr []) with
  | .arr l => some l
  | .obj [] => some []
  | _ => none

/-- The signature of the object, those of its devices and, where it has one, its content
identifier. -/
def anchorVerified (P : Platform) (object : Json) : Bool :=
  let algorithm := identityKeyAlgorithm object
  let key := object.fetch "identity_key"
  let body := canonicalBody object
  verify P algorithm key body (object.fetch "sig") &&
    (devicesOf object).any (fun devices => devices.all fun device =>
      device.isObj &&
        verify P algorithm key (deviceAttestationMessage device)
          (device.fetch "attestation_sig")) &&
    match object.fetch "anchor_cid" with
    | .str cid => cid == cidOfBody P body
    | _ => true

def sameKey (current previous : Json) : Bool :=
  (identityKeyAlgorithm current).eqv (identityKeyAlgorithm previous) &&
    (current.fetch "identity_key").eqv (previous.fetch "identity_key")

def commitmentOk (P : Platform) (previous current : Json) : Bool :=
  if atLeastFour (previous.fetch "schema_version") then
    let commitment := current.fetch "genesis_commitment"
    (current.fetch "schema_version").eqv (.int 4) &&
      commitment.eqv (previous.fetch "genesis_commitment") &&
      (current.fetch "did").str?.any fun did =>
        commitment.isObj && DidElix.matchesV1 P did commitment
  else !atLeastFour (current.fetch "schema_version")

def reasonOk (previous current : Json) : Bool :=
  match current.fetch "reason" with
  | .str "rotation" => !sameKey current previous
  | .str "recovery" => !atLeastFour (current.fetch "schema_version") || !sameKey current previous
  | .str "device_change" =>
    sameKey current previous &&
      (current.fetch "custody_class").eqv (previous.fetch "custody_class")
  | _ => false

def authorityOk (P : Platform) (previous current : Json) : Bool :=
  let body := canonicalBody current
  let authorization :=
    if (current.fetch "reason").eqv (.str "recovery") then current.fetch "recovery_proof"
    else current.fetch "device_sig"
  verify P (identityKeyAlgorithm previous) (previous.fetch "identity_key") body authorization ||
    (!(current.fetch "reason").eqv (.str "rotation") &&
      (devicesOf previous).any fun devices => devices.any fun device =>
        verify P (.str "ed25519") (device.fetch "device_key") body authorization)

def successorVerified (P : Platform) (previous current : Json) : Bool :=
  (current.fetch "did").eqv (previous.fetch "did") &&
    (current.fetch "prev_anchor_cid").eqv (.str (cidOfBody P (canonicalBody previous))) &&
    commitmentOk P previous current && reasonOk previous current && anchorVerified P current &&
    authorityOk P previous current

def successorsVerified (P : Platform) : Json → List Json → Bool
  | _, [] => true
  | previous, current :: rest =>
    successorVerified P previous current && successorsVerified P current rest

/-- The chain from the genesis to the active anchor verifies by itself. -/
def verifiedChain (P : Platform) (did : String) : List Json → Bool
  | [] => false
  | genesis :: rest =>
    (genesis.fetch "did").eqv (.str did) && (genesis.fetch "reason").eqv (.str "initial") &&
      (genesis.fetch "prev_anchor_cid").isNull && genesisVerified P genesis &&
      anchorVerified P genesis && successorsVerified P genesis rest

/-! ### Served objects pass -/

section Served

variable {P : Platform} {o : Json} {row : IdentityAnchor} (h : Serves P o row)
include h

theorem Serves.algorithm_eq : identityKeyAlgorithm o = .str row.identityKeyAlgorithm := by
  rw [identityKeyAlgorithm, h.algorithm, Json.orElse_str]

theorem Serves.devicesOf_eq : devicesOf o = some (row.devices.map canonicalDevice) := by
  rw [devicesOf, h.devices]
  rfl

theorem Serves.version_eq : o.fetch "schema_version" = .int 4 := by
  rw [Json.fetch, h.version, Option.getD_some]

theorem anchorVerified_of_serves : anchorVerified P o = true := by
  have hattested := h.attested
  rw [verifyDeviceAttestations, AnchorStore.devices, h.devices, listOf, Serves.algorithm_eq h,
    h.identityKey, List.all_eq_true] at hattested
  simp only [anchorVerified, Serves.algorithm_eq h, Serves.devicesOf_eq h, h.identityKey, h.body,
    h.sig, h.cid, h.signed, Option.any_some, Bool.true_and, Bool.and_eq_true, List.all_eq_true,
    beq_iff_eq]
  refine ⟨fun d hd => ?_, h.hash⟩
  have hd' := hattested d hd
  simp only [deviceAttested, Bool.and_eq_true] at hd'
  exact ⟨hd'.1.1, hd'.2⟩

theorem genesisVerified_of_serves
    (hkey : (commitmentOf row).fetch "genesis_key" = .str row.identityKey) :
    genesisVerified P o = true := by
  have hfour : (o.get? "schema_version").any atLeastFour = true := by
    rw [h.version]
    rfl
  simp only [genesisVerified, if_pos hfour, h.commitment, h.did, hkey, h.identityKey,
    Json.str?_str, Option.any_some, Bool.and_eq_true]
  exact ⟨⟨rfl, Json.eqv_str_right.2 rfl⟩, h.derived⟩

end Served

section Successor

variable {P : Platform} {o q : Json} {p c : IdentityAnchor} (hp : Serves P q p)
  (hc : Serves P o c) (h : Succeeds P p c)
include hp hc h

omit h in
theorem sameKey_of_serves : sameKey o q
    = (p.identityKeyAlgorithm == c.identityKeyAlgorithm && p.identityKey == c.identityKey) := by
  rw [sameKey, Serves.algorithm_eq hc, Serves.algorithm_eq hp, hc.identityKey, hp.identityKey,
    Json.eqv, Json.eqv, Bool.beq_comm, Bool.beq_comm (a := c.identityKey)]

theorem reasonOk_of_succeeds : reasonOk q o = true := by
  have hr := h.reason
  have hsame := sameKey_of_serves hp hc
  unfold servedReasonMatchesTransition at hr
  cases hreason : c.reason with
  | initial =>
    rw [hreason] at hr
    cases hr
  | rotation =>
    rw [hreason] at hr
    rw [reasonOk, hc.reason, hreason]
    simp only [Reason.toText, hsame]
    exact hr
  | recovery =>
    rw [hreason] at hr
    have hlt : ¬ c.schemaVersion < 4 := by
      have := h.version
      omega
    rw [reasonOk, hc.reason, hreason]
    simp only [Reason.toText, hsame, Serves.version_eq hc]
    simpa [hlt, atLeastFour] using hr
  | deviceChange =>
    rw [hreason] at hr
    simp only [Bool.and_eq_true, beq_iff_eq] at hr
    rw [reasonOk, hc.reason, hreason]
    simp only [Reason.toText, hsame, hc.custody, hp.custody, Bool.and_eq_true, beq_iff_eq]
    exact ⟨hr.1, Json.eqv_str_right.2 (by rw [hr.2])⟩

theorem authorityOk_of_succeeds : authorityOk P q o = true := by
  have hauth : (if (o.fetch "reason").eqv (.str "recovery") = true then o.fetch "recovery_proof"
      else o.fetch "device_sig") = authorization c := by
    rw [hc.reason, hc.recoveryProof, hc.deviceSig, authorization]
    cases c.reason <;> rfl
  simp only [authorityOk, hauth, Serves.algorithm_eq hp, hp.identityKey, hc.body,
    Serves.devicesOf_eq hp, Option.any_some, Bool.or_eq_true]
  by_cases hreason : c.reason = .rotation
  · exact .inl (h.rotation hreason)
  · have hsigned := h.authorized
    unfold activeAuthoritySigned at hsigned
    split at hsigned
    · cases hsigned
    · cases hsigned
    · rcases Bool.or_eq_true _ _ ▸ hsigned with hs | hs
      · exact .inl hs
      · right
        obtain ⟨key, hkey, hsig⟩ := List.any_eq_true.1 hs
        obtain ⟨d, hd, hdk⟩ := List.mem_filterMap.1 hkey
        rw [Bool.and_eq_true]
        refine ⟨?_, List.any_eq_true.2 ⟨canonicalDevice d, List.mem_map_of_mem hd, ?_⟩⟩
        · rw [hc.reason]
          revert hreason
          cases c.reason <;> decide
        · have hfetch : (canonicalDevice d).fetch "device_key" = .str key := by
            rw [Json.str?_eq_some] at hdk
            simpa [canonicalDevice, Json.fetch, List.lookup] using hdk
          rw [hfetch]
          exact hsig

theorem successorVerified_of_succeeds : successorVerified P q o = true := by
  have hcommitment : commitmentOk P q o = true := by
    have hfour : atLeastFour (q.fetch "schema_version") = true := by
      rw [Serves.version_eq hp]
      rfl
    obtain ⟨key, nonce, hform, -, -⟩ := hp.commitment_form
    have heqv : (commitmentOf p).eqv (commitmentOf p) = true := by
      rw [hform]
      simp [Json.eqv, Json.eqvFields, List.lookup]
    simp only [commitmentOk, if_pos hfour, Serves.version_eq hc, hc.commitment, hp.commitment,
      hc.did, h.commitment, Json.str?_str, Option.any_some, Bool.and_eq_true]
    exact ⟨⟨rfl, heqv⟩, rfl, h.commitment ▸ hc.derived⟩
  rw [successorVerified, hcommitment, reasonOk_of_succeeds hp hc h, anchorVerified_of_serves hc,
    authorityOk_of_succeeds hp hc h, hc.did, hp.did, hc.prev, h.link, h.did, hp.body, ← hp.hash]
  simp [Json.eqv, textOrNull]

end Successor

theorem successorsVerified_of_linked {P : Platform} {q : Json} {p : IdentityAnchor}
    {objects : List Json} {rows : List IdentityAnchor} (hp : Serves P q p)
    (hserves : List.Forall₂ (Serves P) objects rows) (h : (p :: rows).IsChain (Succeeds P)) :
    successorsVerified P q objects = true := by
  induction hserves generalizing q p with
  | nil => rfl
  | cons hc _ ih =>
    obtain ⟨hfirst, hrest⟩ := List.isChain_cons_cons.1 h
    rw [successorsVerified, successorVerified_of_succeeds hp hc hfirst, ih hc hrest]
    rfl

/-- **A served chain of version 4 is accepted.** -/
theorem verifiedChain_of_served {P : Platform} {did : String} {objects : List Json}
    {rows : List IdentityAnchor} (h : ServedChain P did objects rows) :
    verifiedChain P did objects = true := by
  obtain ⟨g, rest, rfl, hprev, hreason, hkey⟩ := h.genesis
  obtain ⟨o, os, ho, hos, rfl⟩ := List.forall₂_cons_right_iff.1 h.serves
  rw [verifiedChain, genesisVerified_of_serves ho hkey, anchorVerified_of_serves ho,
    successorsVerified_of_linked ho hos h.linked, ho.did, ho.reason, ho.prev, hprev, hreason,
    h.did g List.mem_cons_self]
  simp [Json.eqv, textOrNull, Reason.toText]

end FederatedResolver

end Ansible
