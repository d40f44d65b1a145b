import Ansible.Relay.AnchorSubmit
import Mathlib.Computability.Primrec.List

/-!
# Stored anchors read back

A row keeps the signed text of its anchor, and every read starts from that text.  The
object it decodes to encodes to the same text again, and carries the same devices and
the same genesis facts as the anchor that was submitted.

## Main definitions

* `servedRow` — what re-verification reads of a row, its state apart.

## Main results

* `canonicalBody_toObject` — **the object read back has the stored text as its body.**
-/

namespace Ansible

namespace AnchorStore

/-! ### The members of a signed body -/

section Body

variable (a : Json)

theorem fetch_body_schema : (bodyObject a).fetch "schema_version" = .int (schemaVersion a) := by
  unfold bodyObject
  split_ifs <;> simp [Json.fetch, List.lookup]

theorem fetch_body_algorithm (h : 3 ≤ schemaVersion a) :
    (bodyObject a).fetch "identity_key_algorithm" = a.fetch "identity_key_algorithm" := by
  unfold bodyObject
  rw [if_pos h]
  simp [Json.fetch, List.lookup]

theorem fetch_body_no_algorithm (h : schemaVersion a < 3) :
    (bodyObject a).fetch "identity_key_algorithm" = .null := by
  unfold bodyObject
  rw [if_neg (by omega), if_neg (by omega)]
  simp [Json.fetch, List.lookup]

theorem fetch_body_commitment (h : 4 ≤ schemaVersion a) :
    (bodyObject a).fetch "genesis_commitment" = commitmentValue a := by
  unfold bodyObject
  rw [if_pos h, if_pos (by omega)]
  simp [Json.fetch, List.lookup]

theorem fetch_body_devices :
    (bodyObject a).fetch "devices" = .arr ((devices a).map canonicalDevice) := by
  unfold bodyObject
  split_ifs <;> simp [Json.fetch, List.lookup]

theorem fetch_body_aliases : (bodyObject a).fetch "also_known_as" = .arr (alsoKnownAs a) := by
  unfold bodyObject
  split_ifs <;> simp [Json.fetch, List.lookup]

/-- The members that a body copies from its anchor. -/
def copied : List String :=
  ["did", "handle", "identity_key", "custody_class", "prev_anchor_cid", "reason", "created_at"]

theorem fetch_body_copied {k : String} (h : k ∈ copied) :
    (bodyObject a).fetch k = a.fetch k := by
  simp only [copied, List.mem_cons, List.not_mem_nil, or_false] at h
  unfold bodyObject
  rcases h with rfl | rfl | rfl | rfl | rfl | rfl | rfl <;>
    split_ifs <;> simp [Json.fetch, List.lookup]

end Body

/-! ### Canonical forms are fixed points -/

theorem canonicalDevice_idem (d : Json) : canonicalDevice (canonicalDevice d)
    = canonicalDevice d := by
  simp [canonicalDevice, Json.fetch, List.lookup]

theorem orElse_null_idem (j : Json) : (j.orElse .null).orElse .null = j.orElse .null := by
  cases j with
  | bool b => cases b <;> rfl
  | _ => rfl

theorem canonicalCommitment_idem (c : Json) :
    DidElix.canonicalCommitment (DidElix.canonicalCommitment c)
      = DidElix.canonicalCommitment c := by
  simp [DidElix.canonicalCommitment, Json.fetch, List.lookup, orElse_null_idem]

/-- An object that agrees with a signed body on the signed members has the same body. -/
theorem bodyObject_eq_of_fetch {a j : Json} (hv : j.fetch "schema_version" = .int (schemaVersion a))
    (hcopied : ∀ k ∈ copied, j.fetch k = a.fetch k)
    (halg : 3 ≤ schemaVersion a →
      j.fetch "identity_key_algorithm" = a.fetch "identity_key_algorithm")
    (hgc : 4 ≤ schemaVersion a → j.fetch "genesis_commitment" = commitmentValue a)
    (hdev : j.fetch "devices" = .arr ((devices a).map canonicalDevice))
    (haka : j.fetch "also_known_as" = .arr (alsoKnownAs a)) : bodyObject j = bodyObject a := by
  have hver : schemaVersion j = schemaVersion a := by rw [schemaVersion, hv]
  have hdevs : (devices j).map canonicalDevice = (devices a).map canonicalDevice := by
    rw [devices, hdev]
    simp [listOf, canonicalDevice_idem]
  have hakas : alsoKnownAs j = alsoKnownAs a := by rw [alsoKnownAs, haka, listOf]
  have hcommit : 4 ≤ schemaVersion a → commitmentValue j = commitmentValue a := by
    intro h
    rw [commitmentValue, hgc h, commitmentValue]
    split
    · rw [if_pos (by rfl), canonicalCommitment_idem]
    · rfl
  unfold bodyObject
  simp only [hver, hdevs, hakas, hcopied _ (show "did" ∈ copied by decide),
    hcopied _ (show "handle" ∈ copied by decide),
    hcopied _ (show "identity_key" ∈ copied by decide),
    hcopied _ (show "custody_class" ∈ copied by decide),
    hcopied _ (show "prev_anchor_cid" ∈ copied by decide),
    hcopied _ (show "reason" ∈ copied by decide),
    hcopied _ (show "created_at" ∈ copied by decide)]
  split_ifs with h3 h4 h4
  · rw [halg h3, hcommit h4]
  · rw [halg h3]
  · rw [hcommit h4]
  · rfl

/-! ### Accepted anchors have determined texts -/

theorem wellFormed_of_nonEmptyStr {j : Json} (h : nonEmptyStr j = true) : j.WellFormed := by
  cases j with
  | str s => simp [Json.WellFormed]
  | _ => cases h

theorem wellFormed_of_strOrNull {j : Json} (h : strOrNull j = true) : j.WellFormed := by
  cases j with
  | null => simp [Json.WellFormed]
  | str s => simp [Json.WellFormed]
  | _ => cases h

theorem wellFormed_of_str? {j : Json} (h : j.str?.isSome = true) : j.WellFormed := by
  cases j with
  | str s => simp [Json.WellFormed]
  | _ => cases h

theorem wellFormed_of_timestamp {j : Json} {v : ℤ} (h : validAnchorTimestamp j v = true) :
    j.WellFormed := by
  cases j with
  | str s => simp [Json.WellFormed]
  | _ => cases h

theorem wellFormed_of_orElse {j : Json} {d : Json} {s : String} (h : j.orElse d = .str s) :
    j.WellFormed := by
  cases j with
  | float q => cases h
  | arr l => cases h
  | obj f => cases h
  | _ => simp [Json.WellFormed]

theorem wellFormedElems_iff {l : List Json} : Json.WellFormedElems l ↔ ∀ j ∈ l, j.WellFormed := by
  induction l with
  | nil => simp [Json.WellFormedElems]
  | cons j l ih => simp [Json.WellFormedElems, ih]

theorem wellFormedFields_iff {f : List (String × Json)} :
    Json.WellFormedFields f ↔ ∀ kv ∈ f, kv.2.WellFormed := by
  induction f with
  | nil => simp [Json.WellFormedFields]
  | cons kv f ih =>
    obtain ⟨k, v⟩ := kv
    simp [Json.WellFormedFields, ih]

theorem wellFormed_canonicalDevice {d : Json} {v : ℤ} (h : validDevice v d = true) :
    (canonicalDevice d).WellFormed := by
  simp only [validDevice, Bool.and_eq_true] at h
  obtain ⟨⟨⟨⟨⟨-, hid⟩, hkey⟩, hcustody⟩, hat⟩, hsig⟩ := h
  have hsome : ∀ {j : Json} {p : String → Bool}, j.str?.any p = true → j.WellFormed := by
    intro j p hj
    refine wellFormed_of_str? ?_
    cases hs : j.str? with
    | none => simp [hs] at hj
    | some s => rfl
  refine ⟨by simp, ?_⟩
  exact ⟨wellFormed_of_nonEmptyStr hid, hsome hkey, hsome hcustody, wellFormed_of_timestamp hat,
    wellFormed_of_nonEmptyStr hsig, trivial⟩

theorem wellFormed_canonicalCommitment {c : Json} (h : DidElix.validateV1Commitment c = true) :
    (DidElix.canonicalCommitment c).WellFormed := by
  obtain ⟨key, nonce, hkey, -, hnonce, -⟩ := DidElix.fetch_of_validate h
  rw [DidElix.canonicalCommitment, hkey, hnonce]
  exact ⟨by simp, trivial, trivial, trivial, trivial, trivial⟩

/-- What a well-shaped anchor holds, part by part. -/
structure Shape (a : Json) : Prop where
  did : nonEmptyStr (a.fetch "did") = true
  identityKey : nonEmptyStr (a.fetch "identity_key") = true
  handle : nonEmptyStr (a.fetch "handle") = true
  prev : strOrNull (a.fetch "prev_anchor_cid") = true
  custody : strOrNull (a.fetch "custody_class") = true
  aliases : ∀ j ∈ alsoKnownAs a, j.str?.isSome = true
  createdAt : validAnchorTimestamp (a.fetch "created_at") (schemaVersion a) = true
  devices : ∀ d ∈ devices a, validDevice (schemaVersion a) d = true

theorem shape_of_wellShaped {a : Json} (h : wellShaped a = true) : Shape a := by
  simp only [wellShaped, Bool.and_eq_true] at h
  obtain ⟨⟨⟨⟨⟨⟨⟨⟨⟨⟨-, hdid⟩, hkey⟩, hhandle⟩, -⟩, hprev⟩, -⟩, hcustody⟩, haka⟩, hat⟩, hdev⟩ := h
  refine ⟨hdid, hkey, hhandle, hprev, ?_, ?_, hat, ?_⟩
  · split at hcustody
    · next hc => rw [hc]; rfl
    · next hc => rw [hc]; rfl
    · cases hcustody
  · unfold alsoKnownAs
    split at haka
    · next hc => rw [hc]; simp [listOf]
    · next l hc =>
      rw [hc]
      simpa [listOf] using haka
    · cases haka
  · unfold AnchorStore.devices validDevices at *
    split at hdev
    · next hc => rw [hc]; simp [listOf]
    · next l hc =>
      rw [hc]
      rw [Bool.and_eq_true] at hdev
      simpa [listOf] using hdev.1
    · cases hdev

theorem wellFormed_of_reasonOf {j : Json} {r : Reason} (h : reasonOf j = some r) :
    j.WellFormed := by
  have := List.find?_some h
  cases j with
  | str s => simp [Json.WellFormed]
  | _ => simp [Json.str?] at this

theorem nodup_keys_bodyObject (a : Json) : (bodyObject a).keys.Nodup := by
  unfold bodyObject Json.keys
  split_ifs <;> simp

/-- The signed body of an acceptable anchor is determined by its text. -/
theorem wellFormed_bodyObject {a : Json} {r : Reason} {alg : String} (hs : Shape a)
    (hr : reasonOf (a.fetch "reason") = some r) (halg : identityKeyAlgorithm a = .str alg)
    (hgc : 4 ≤ schemaVersion a →
      DidElix.validateV1Commitment (a.fetch "genesis_commitment") = true) :
    (bodyObject a).WellFormed := by
  refine ⟨nodup_keys_bodyObject a, wellFormedFields_iff.2 ?_⟩
  intro kv hkv
  have hstr : ∀ s, (Json.str s).WellFormed := fun s => by simp [Json.WellFormed]
  have hdevs : ∀ d ∈ (devices a).map canonicalDevice, d.WellFormed := by
    intro d hd
    obtain ⟨d', hd', rfl⟩ := List.mem_map.1 hd
    exact wellFormed_canonicalDevice (hs.devices d' hd')
  simp only [List.mem_append, List.mem_cons, List.not_mem_nil, or_false] at hkv
  rcases hkv with ((h | h) | h) | h
  · rcases h with rfl | rfl | rfl | rfl | rfl
    · exact hstr _
    · simp [Json.WellFormed]
    · exact wellFormed_of_nonEmptyStr hs.did
    · exact wellFormed_of_nonEmptyStr hs.handle
    · exact wellFormed_of_nonEmptyStr hs.identityKey
  · split at h
    · obtain rfl := List.mem_singleton.1 h
      exact wellFormed_of_orElse halg
    · cases h
  · split at h
    · next h4 =>
      obtain rfl := List.mem_singleton.1 h
      show (commitmentValue a).WellFormed
      rw [commitmentValue, if_pos (DidElix.isObj_of_validate (hgc h4))]
      exact wellFormed_canonicalCommitment (hgc h4)
    · cases h
  · rcases h with rfl | rfl | rfl | rfl | rfl | rfl
    · exact wellFormedElems_iff.2 fun j hj => wellFormed_of_str? (hs.aliases j hj)
    · exact wellFormed_of_strOrNull hs.custody
    · exact wellFormedElems_iff.2 hdevs
    · exact wellFormed_of_strOrNull hs.prev
    · exact wellFormed_of_reasonOf hr
    · exact wellFormed_of_timestamp hs.createdAt

/-! ### The object of a row -/

/-- A row whose text is the signed body of the anchor `a`, with the checks that hold of it
whatever its state. -/
structure Genuine (P : Platform) (a : Json) (row : IdentityAnchor) : Prop extends
    IsRowOf a row where
  did : a.fetch "did" = .str row.did
  reason : reasonOf (a.fetch "reason") = some row.reason
  body : row.canonicalBody = canonicalBody a
  determined : (bodyObject a).WellFormed
  cid : row.anchorCid = cidOfBody P row.canonicalBody
  attested : verifyDeviceAttestations P a = true
  selfSigned : selfSigned P a row.canonicalBody = true
  valid : 4 ≤ schemaVersion a →
    DidElix.validateV1Commitment (a.fetch "genesis_commitment") = true
  matchesDid : 4 ≤ schemaVersion a →
    DidElix.matchesV1 P row.did (a.fetch "genesis_commitment") = true

theorem Accepted.genuine {E : Env} {a : Json} {opts : SubmitOpts} {s : Relay}
    {row : IdentityAnchor} (h : Accepted E a opts s row) : Genuine E.toPlatform a row where
  toIsRowOf := h.toIsRowOf
  did := h.did
  reason := h.reason
  body := h.body
  determined := wellFormed_bodyObject (shape_of_wellShaped h.shaped) h.reason h.algorithm
    (validateProtocol_eq_ok h.protocol).valid
  cid := h.cid
  attested := h.attested
  selfSigned := h.selfSigned
  valid := (validateProtocol_eq_ok h.protocol).valid
  matchesDid := (validateProtocol_eq_ok h.protocol).matchesDid

/-- The members that a served object adds to the signed body. -/
def servedMembers (row : IdentityAnchor) : List (String × Json) :=
  [("anchor_cid", .str row.anchorCid), ("state", .str (AnchorState.toText row.state)),
    ("sig", .str row.sig)] ++ row.deviceSig.toList.map (fun s => ("device_sig", .str s)) ++
    row.authorizationSig.toList.map fun s => ("recovery_proof", .str s)

section Object

variable {P : Platform} {a : Json} {row : IdentityAnchor} (h : Genuine P a row)
include h

theorem Genuine.toObject_eq : toObject row = some ((bodyObject a).merge (servedMembers row)) := by
  rw [toObject, h.body, canonicalBody, Json.decode_encode h.determined]
  rfl

omit h in
theorem fetch_object (a : Json) (row : IdentityAnchor) {k : String}
    (hk : k ∉ ["anchor_cid", "state", "sig", "device_sig", "recovery_proof"]) :
    ((bodyObject a).merge (servedMembers row)).fetch k = (bodyObject a).fetch k := by
  refine Json.fetch_merge ?_
  simp only [List.mem_cons, List.not_mem_nil, or_false, not_or] at hk
  obtain ⟨h1, h2, h3, h4, h5⟩ := hk
  simp [servedMembers, h1, h2, h3, Ne.symm h4, Ne.symm h5]

omit h in
theorem fetch_object_cid (a : Json) (row : IdentityAnchor) :
    ((bodyObject a).merge (servedMembers row)).fetch "anchor_cid" = .str row.anchorCid :=
  Json.fetch_merge_new (by simp [servedMembers])

omit h in
theorem fetch_object_sig (a : Json) (row : IdentityAnchor) :
    ((bodyObject a).merge (servedMembers row)).fetch "sig" = .str row.sig :=
  (Json.fetch_merge_new (by simp [servedMembers])).trans (by simp [servedMembers, List.lookup])

omit h in
theorem fetch_object_deviceSig (a : Json) (row : IdentityAnchor) :
    ((bodyObject a).merge (servedMembers row)).fetch "device_sig" = textOrNull row.deviceSig := by
  cases hd : row.deviceSig with
  | none =>
    rw [bodyObject, Json.fetch_merge (by simp [servedMembers, hd])]
    split_ifs <;> simp [Json.fetch, List.lookup, textOrNull]
  | some t =>
    exact (Json.fetch_merge_new (by simp [servedMembers, hd])).trans
      (by simp [servedMembers, hd, List.lookup, textOrNull])

omit h in
theorem fetch_object_recoveryProof (a : Json) (row : IdentityAnchor) :
    ((bodyObject a).merge (servedMembers row)).fetch "recovery_proof"
      = textOrNull row.authorizationSig := by
  cases ha : row.authorizationSig with
  | none =>
    rw [bodyObject, Json.fetch_merge (by simp [servedMembers, ha])]
    split_ifs <;> simp [Json.fetch, List.lookup, textOrNull]
  | some t =>
    refine (Json.fetch_merge_new (by simp [servedMembers, ha])).trans ?_
    cases hd : row.deviceSig <;> simp [servedMembers, ha, hd, List.lookup, textOrNull]

omit h in
/-- **The object read back has the stored text as its body.** -/
theorem bodyObject_object (a : Json) (row : IdentityAnchor) :
    bodyObject ((bodyObject a).merge (servedMembers row)) = bodyObject a := by
  refine bodyObject_eq_of_fetch ?_ ?_ ?_ ?_ ?_ ?_
  · rw [fetch_object a row (by decide), fetch_body_schema]
  · intro k hk
    rw [fetch_object a row, fetch_body_copied a hk]
    revert k
    decide
  · intro h3
    rw [fetch_object a row (by decide), fetch_body_algorithm a h3]
  · intro h4
    rw [fetch_object a row (by decide), fetch_body_commitment a h4]
  · rw [fetch_object a row (by decide), fetch_body_devices]
  · rw [fetch_object a row (by decide), fetch_body_aliases]

/-- The object read back names the key algorithm of the anchor, or nothing that is verified
again depends on it: no device is enrolled and no `did:elix` genesis is derived. -/
def AlgorithmServed (a : Json) : Prop :=
  3 ≤ schemaVersion a ∨ identityKeyAlgorithm a = .str "ed25519" ∨
    (devices a = [] ∧ (reasonOf (a.fetch "reason") = some .initial →
      ∀ did, a.fetch "did" = .str did →
        (afterPrefix (bytes "did:elix:") (bytes did)).isSome = false))

omit h in
theorem identityKeyAlgorithm_object (a : Json) (row : IdentityAnchor)
    (hv : 3 ≤ schemaVersion a ∨ identityKeyAlgorithm a = .str "ed25519") :
    identityKeyAlgorithm ((bodyObject a).merge (servedMembers row)) = identityKeyAlgorithm a := by
  rw [identityKeyAlgorithm, fetch_object a row (by decide)]
  by_cases h3 : 3 ≤ schemaVersion a
  · rw [fetch_body_algorithm a h3, identityKeyAlgorithm]
  · rw [fetch_body_no_algorithm a (by omega), hv.resolve_left h3]
    rfl

omit h in
theorem devices_object (a : Json) (row : IdentityAnchor) :
    devices ((bodyObject a).merge (servedMembers row)) = (devices a).map canonicalDevice := by
  rw [devices, fetch_object a row (by decide), fetch_body_devices, listOf]

omit h in
theorem deviceAttested_canonicalDevice {alg key d : Json} (hd : deviceAttested P alg key d = true) :
    deviceAttested P alg key (canonicalDevice d) = true := by
  simp only [deviceAttested, Bool.and_eq_true] at hd ⊢
  refine ⟨⟨rfl, ?_⟩, ?_⟩
  · simpa [canonicalDevice, Json.fetch, List.lookup] using hd.1.2
  · simpa [canonicalDevice, deviceAttestationMessage, Json.fetch, List.lookup] using hd.2

theorem Genuine.attested_object (ha : AlgorithmServed a) :
    verifyDeviceAttestations P ((bodyObject a).merge (servedMembers row)) = true := by
  rw [verifyDeviceAttestations, devices_object, fetch_object a row (by decide),
    fetch_body_copied a (by decide)]
  rcases ha with ha | ha | ⟨hnone, -⟩
  · rw [identityKeyAlgorithm_object a row (.inl ha), List.all_map, List.all_eq_true]
    intro d hd
    exact deviceAttested_canonicalDevice (List.all_eq_true.1 h.attested d hd)
  · rw [identityKeyAlgorithm_object a row (.inr ha), List.all_map, List.all_eq_true]
    intro d hd
    exact deviceAttested_canonicalDevice (List.all_eq_true.1 h.attested d hd)
  · rw [hnone]
    rfl

theorem Genuine.verifyServedAnchor (ha : AlgorithmServed a) : verifyServedAnchor P row = true := by
  rw [AnchorStore.verifyServedAnchor, h.toObject_eq, Bool.and_eq_true]
  refine ⟨h.attested_object ha, ?_⟩
  have hs := h.selfSigned
  rwa [AnchorStore.selfSigned, h.algorithm, h.identityKey, h.sig] at hs

omit h in
/-- A valid commitment stays valid, and derives the same DID, in its normative form. -/
theorem matchesV1_canonicalCommitment {did : String} {c : Json}
    (hc : DidElix.matchesV1 P did c = true) :
    DidElix.matchesV1 P did (DidElix.canonicalCommitment c) = true := by
  rw [DidElix.matchesV1_iff] at hc ⊢
  obtain ⟨hv, hdid⟩ := hc
  obtain ⟨key, nonce, hkey, hk, hnonce, hn⟩ := DidElix.fetch_of_validate hv
  have hform : DidElix.canonicalCommitment c = .obj [("method", .str "did:elix"),
      ("method_version", .int 1), ("genesis_key", .str key), ("genesis_nonce", .str nonce)] := by
    rw [DidElix.canonicalCommitment, hkey, hnonce]
    rfl
  refine ⟨?_, ?_⟩
  · rw [hform]
    simp [DidElix.validateV1Commitment, Json.fetch, Json.keys, Json.isObj, List.lookup, Json.eqv,
      hk, hn]
  · rw [hdid, DidElix.canonicalV1Commitment, DidElix.canonicalV1Commitment,
      canonicalCommitment_idem]

theorem Genuine.genesis_object (ha : AlgorithmServed a)
    (hself : genesisDidSelfCertifies P a row.did = true) (hreason : row.reason = .initial) :
    genesisDidSelfCertifies P ((bodyObject a).merge (servedMembers row)) row.did = true := by
  have hver : schemaVersion ((bodyObject a).merge (servedMembers row)) = schemaVersion a := by
    rw [schemaVersion, fetch_object a row (by decide), fetch_body_schema]
  unfold genesisDidSelfCertifies at hself ⊢
  split at hself
  · next helix =>
    rw [if_pos helix, hver]
    split at hself
    · next h4 =>
      rw [if_pos h4]
      simp only [Bool.and_eq_true] at hself
      obtain ⟨⟨hobj, hkey⟩, hm⟩ := hself
      obtain ⟨key, nonce, hgk, -⟩ := DidElix.fetch_of_validate (h.valid h4)
      have hgc : ((bodyObject a).merge (servedMembers row)).fetch "genesis_commitment"
          = DidElix.canonicalCommitment (a.fetch "genesis_commitment") := by
        rw [fetch_object a row (by decide), fetch_body_commitment a h4, commitmentValue,
          if_pos hobj]
      have hck : (DidElix.canonicalCommitment (a.fetch "genesis_commitment")).fetch "genesis_key"
          = .str key := by
        simp [DidElix.canonicalCommitment, Json.fetch, List.lookup] at hgk ⊢
        rw [hgk]
        rfl
      rw [hgc, fetch_object a row (by decide), fetch_body_copied a (by decide)]
      simp only [Bool.and_eq_true]
      exact ⟨⟨rfl, by rw [hck, ← hgk]; exact hkey⟩, matchesV1_canonicalCommitment hm⟩
    · next h4 =>
      rw [if_neg h4]
      -- below version 4 the DID is derived from members that are served as they are
      rcases ha with ha | ha | ⟨-, hno⟩
      · rw [identityKeyAlgorithm_object a row (.inl ha), custodyClass,
          fetch_object a row (by decide), fetch_object a row (by decide),
          fetch_object a row (by decide), fetch_body_copied a (by decide),
          fetch_body_copied a (by decide), fetch_body_copied a (by decide)]
        exact hself
      · rw [identityKeyAlgorithm_object a row (.inr ha), custodyClass,
          fetch_object a row (by decide), fetch_object a row (by decide),
          fetch_object a row (by decide), fetch_body_copied a (by decide),
          fetch_body_copied a (by decide), fetch_body_copied a (by decide)]
        exact hself
      · have := hno (hreason ▸ h.reason) row.did h.did
        rw [this] at helix
        cases helix
  · next helix => rw [if_neg helix]

end Object

end AnchorStore

end Ansible
