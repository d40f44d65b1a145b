import Ansible.Relay.AnchorLinear

/-!
# Accepted geneses, served

A genesis is verified when it is submitted and again whenever it is served.  The object that
is served starts from the signed body, which names the algorithm of the key only from schema
version 3 on.

## Main results

* `genesis_served_iff` — **an accepted genesis is served as it was accepted exactly when its
  body names the algorithm or the algorithm is the default.**
-/

namespace Ansible

/-! ### The lengths of keys that verify -/

theorem SigVerifier.length_of_verify {P : Platform} {algorithm key sig : String} {message : Text}
    (h : verifyIdentity P algorithm key message sig = true) :
    (algorithm = "ed25519" ∧ (bytes key).length = 64) ∨
      (algorithm = "p256-sha256" ∧ (bytes key).length = 130) := by
  have hlength : ∀ {n k}, decodeHex key n = some k → (bytes key).length = 2 * n := by
    intro n k hk
    unfold decodeHex at hk
    split at hk
    · assumption
    · cases hk
  unfold verifyIdentity at h
  split at h
  · next halg =>
    unfold verifyEd25519 at h
    split at h
    · next k c hk _ => exact .inl ⟨halg, hlength hk⟩
    · cases h
  · split at h
    · next halg =>
      unfold verifyP256 at h
      split at h
      · next k c hk _ => exact .inr ⟨halg, hlength hk⟩
      · cases h
    · cases h

namespace AnchorStore

/-! ### The chain of a genesis alone -/

/-- The chain of a genesis is served when its single checks hold. -/
theorem getChain_of_genesis {P : Platform} {s : Relay} {row : IdentityAnchor}
    (hactive : s.activeAnchor row.did = some row) (hfrozen : s.frozen row.did = false)
    (honly : ∀ x ∈ s.identityAnchors.rows, x.did = row.did → x = row)
    (hwalk : Walkable P row) (hprev : row.prevAnchorCid = none)
    (hgenesis : (toObject row).any (fun o => genesisDidSelfCertifies P o row.did) = true)
    (hverified : verifyServedAnchor P row = true) :
    ∃ objects, getChain P row.did s = .ok objects := by
  obtain ⟨hrow, -, hstate⟩ := AnchorTable.activeAnchor_eq_some.1 hactive
  have hserved : row ∈ servedRows row.did s :=
    mem_servedRows.2 ⟨hrow, rfl, isServed_of_active hstate⟩
  have hrows : servedRows row.did s = [row] := by
    refine List.perm_singleton.1 ((List.perm_ext_iff_of_nodup ?_ (List.nodup_singleton row)).2 ?_)
    · exact s.identityAnchors.valid.did_anchor_cid.nodup.filter _
    · intro x
      rw [List.mem_singleton]
      constructor
      · intro hx
        obtain ⟨hx, hxd, -⟩ := mem_servedRows.1 hx
        exact honly x hx hxd
      · rintro rfl
        exact hserved
  obtain ⟨object, hread, -⟩ := hwalk.read
  have hwalked : walkChain P (fun cid => (servedRows row.did s).find? (·.anchorCid == cid))
      ((servedRows row.did s).length + 1) (some row) [] [] = .ok ([row].reverse ++ []) :=
    walkChain_linked (linked_singleton hprev) (fun x hx => List.mem_singleton.1 hx ▸ hwalk)
      (fun x hx => absurd hx List.not_mem_nil) (List.nodup_singleton _)
      (fun x hx => List.not_mem_nil) (Nat.succ_pos _)
  have hchain : verifyServedChain P [row] = true := by
    rw [verifyServedChain, hgenesis, hverified]
    rfl
  refine ⟨[object], ?_⟩
  simp only [getChain, hfrozen, Bool.false_eq_true, if_false, hactive, hwalked]
  rw [if_pos ⟨by rw [hrows]; rfl, hchain⟩]
  simp [hread]

/-- The state after an accepted genesis. -/
theorem submit_genesis {E : Env} {now : Time} {anchor : Json} {opts : SubmitOpts} {s : Relay}
    {row : IdentityAnchor} (hok : (submit E now anchor opts s).1 = .ok row)
    (hinitial : row.reason = .initial) :
    Accepted E anchor opts s row ∧ IsGenesis E.toPlatform anchor row ∧
      (submit E now anchor opts s).2.activeAnchor row.did = some row ∧
      (submit E now anchor opts s).2.frozen row.did = false := by
  rcases submit_cases E now anchor opts s with ⟨e, he, -⟩ | ⟨row', hok', -, hguards, hacc, hent⟩
  · rw [he] at hok
    cases hok
  obtain rfl := Except.ok.inj (hok'.symm.trans hok)
  have hfrozen : (submit E now anchor opts s).2.frozen row'.did = false := by
    have hunguarded := hacc.unguarded
    unfold ensureNotFrozen at hunguarded
    split at hunguarded
    · cases hunguarded
    · next h =>
      rw [Relay.frozen, hguards.freezes, ← Relay.frozen]
      simpa using h
  generalize hs : (submit E now anchor opts s).2 = s' at hent hfrozen
  generalize hrows : s'.identityAnchors.rows = rows at hent
  cases hent with
  | initial hreason hprev hself hnone hstate =>
    refine ⟨hacc, hacc.genesis hprev hreason hself, ?_, hfrozen⟩
    refine AnchorTable.activeAnchor_eq_some.2 ⟨?_, rfl, hstate⟩
    rw [hrows]
    exact List.mem_append_right _ (List.mem_singleton_self _)
  | rotation hreason => rw [hreason] at hinitial; cases hinitial
  | deviceChange hreason => rw [hreason] at hinitial; cases hinitial
  | recovery hreason => rw [hreason] at hinitial; cases hinitial

/-! ### What a served genesis establishes -/

/-- The served object alone establishes what the submission established: it rebuilds the
signed body, its content identifier is the stored one, and its devices and its signature
verify under the key and the algorithm that it names.  The relay's own check succeeds, and so
does that of the chain when the DID has no other row. -/
structure ServedAsAccepted (P : Platform) (anchor : Json) (row : IdentityAnchor) (s : Relay) :
    Prop where
  read : ∃ object, toObject row = some object ∧ canonicalBody object = canonicalBody anchor ∧
    cidOfBody P (canonicalBody object) = row.anchorCid ∧
    verifyDeviceAttestations P object = true ∧ selfSigned P object (canonicalBody object) = true
  verified : verifyServedAnchor P row = true
  chain : (∀ x ∈ s.identityAnchors.rows, x.did = row.did → x = row) →
    ∃ objects, getChain P row.did s = .ok objects

section Genesis

variable {E : Env} {now : Time} {anchor : Json} {opts : SubmitOpts} {s : Relay}
  {row : IdentityAnchor}

/-- The signature of the object verifies under the algorithm of the anchor. -/
theorem Genuine.selfSigned_object {P : Platform} (h : Genuine P anchor row)
    (halg : 3 ≤ schemaVersion anchor ∨ identityKeyAlgorithm anchor = .str "ed25519") :
    AnchorStore.selfSigned P ((bodyObject anchor).merge (servedMembers row)) row.canonicalBody
      = true := by
  have hs := h.selfSigned
  rw [AnchorStore.selfSigned, identityKeyAlgorithm_object anchor row halg,
    fetch_object anchor row (by decide), fetch_body_copied anchor (by decide), fetch_object_sig]
  rwa [AnchorStore.selfSigned, h.sig] at hs

theorem Accepted.servedAsAccepted (h : Accepted E anchor opts s row)
    (halg : 3 ≤ schemaVersion anchor ∨ identityKeyAlgorithm anchor = .str "ed25519") {s' : Relay}
    (hgenesis : IsGenesis E.toPlatform anchor row) (hactive : s'.activeAnchor row.did = some row)
    (hfrozen : s'.frozen row.did = false) :
    ServedAsAccepted E.toPlatform anchor row s' := by
  have hg := h.genuine
  have hserved : AlgorithmServed anchor := halg.imp_right .inl
  have hbody : canonicalBody ((bodyObject anchor).merge (servedMembers row))
      = row.canonicalBody := by
    rw [canonicalBody, bodyObject_object, ← canonicalBody, h.body]
  have hverified := hg.verifyServedAnchor hserved
  refine ⟨⟨_, hg.toObject_eq, hbody.trans h.body, ?_, hg.attested_object hserved, ?_⟩, hverified,
    fun honly => ?_⟩
  · rw [hbody, ← h.cid]
  · rw [hbody]
    exact hg.selfSigned_object halg
  · refine getChain_of_genesis hactive hfrozen honly ⟨⟨_, hg.toObject_eq, hbody⟩, h.cid.symm,
      fun _ => hgenesis.reason⟩ hgenesis.prev ?_ hverified
    rw [hg.toObject_eq]
    exact hg.genesis_object hserved hgenesis.selfCertifies hgenesis.reason

/-- Below version 3 the object names no algorithm and is read as an Ed25519 one. -/
theorem Accepted.algorithm_of_served (h : Accepted E anchor opts s row)
    (hsigned : AnchorStore.selfSigned E.toPlatform ((bodyObject anchor).merge (servedMembers row))
      row.canonicalBody = true) :
    3 ≤ schemaVersion anchor ∨ identityKeyAlgorithm anchor = .str "ed25519" := by
  by_cases h3 : 3 ≤ schemaVersion anchor
  · exact .inl h3
  · right
    have hdefault : identityKeyAlgorithm ((bodyObject anchor).merge (servedMembers row))
        = .str "ed25519" := by
      rw [identityKeyAlgorithm, fetch_object anchor row (by decide),
        fetch_body_no_algorithm anchor (by omega)]
      rfl
    have hkey : ((bodyObject anchor).merge (servedMembers row)).fetch "identity_key"
        = .str row.identityKey := by
      rw [fetch_object anchor row (by decide), fetch_body_copied anchor (by decide), h.identityKey]
    rw [AnchorStore.selfSigned, hdefault, hkey, fetch_object_sig] at hsigned
    have haccepted := h.selfSigned
    rw [AnchorStore.selfSigned, h.algorithm, h.identityKey, h.sig] at haccepted
    rw [h.algorithm]
    -- one key verifies under one algorithm only
    rcases SigVerifier.length_of_verify hsigned with ⟨-, hlen⟩ | ⟨hne, -⟩
    · rcases SigVerifier.length_of_verify haccepted with ⟨halg, -⟩ | ⟨-, hlen'⟩
      · rw [halg]
      · omega
    · exact absurd hne (by decide)

/-- **An accepted genesis is served as it was accepted exactly when its body names the algorithm
or the algorithm is the default.**  Only the algorithm can be lost: what is served starts from the
signed body, which names it from version 3 on only, and without it an object is read as one of
Ed25519. -/
theorem genesis_served_iff (hok : (submit E now anchor opts s).1 = .ok row)
    (hinitial : row.reason = .initial) :
    ServedAsAccepted E.toPlatform anchor row (submit E now anchor opts s).2 ↔
      3 ≤ schemaVersion anchor ∨ identityKeyAlgorithm anchor = .str "ed25519" := by
  obtain ⟨hacc, hgenesis, hactive, hfrozen⟩ := submit_genesis hok hinitial
  constructor
  · intro h
    obtain ⟨object, hread, hbody, -, -, hsigned⟩ := h.read
    rw [hacc.genuine.toObject_eq] at hread
    cases hread
    rw [hbody, ← hacc.body] at hsigned
    exact hacc.algorithm_of_served hsigned
  · intro halg
    exact hacc.servedAsAccepted halg hgenesis hactive hfrozen

end Genesis

theorem toyGenesis_accepted :
    ((submit .toy 0 toyGenesis {} Relay.empty).1.toOption.map (·.reason)) = some .initial := by
  decide +kernel

theorem genesis_served_toy : ∃ row, (submit .toy 0 toyGenesis {} Relay.empty).1 = .ok row ∧
    ServedAsAccepted .toy toyGenesis row (submit .toy 0 toyGenesis {} Relay.empty).2 := by
  obtain ⟨row, hrow, hinitial⟩ := Option.map_eq_some_iff.1 toyGenesis_accepted
  have hok := ok_of_toOption hrow
  exact ⟨row, hok, (genesis_served_iff hok hinitial).2 (.inl (by decide))⟩

/-- A device that the key `n` attests. -/
def toyDevice (n : UInt8) (deviceId : String) : Json :=
  let device := Json.obj [("device_id", .str deviceId),
    ("device_key", .str (String.ofList (List.replicate 64 '0'))),
      ("custody_class", .str "software"),
    ("enrolled_at", .str "2026-01-01T00:00:00Z")]
  device.merge [("attestation_sig", .str (toySign n (deviceAttestationMessage device)))]

/-- A genesis of version 2 under the identifier that its P-256 key derives, with one device. -/
def toyLegacyGenesis : Json :=
  toySigned 1 1 (.obj [("type", .str anchorType), ("schema_version", .int 2),
    ("did", .str (DidElix.derive .toy (toyKeyHex 1) "alice.elix.cool" "software" "p256-sha256")),
    ("handle", .str "alice.elix.cool"), ("identity_key", .str (toyKeyHex 1)),
    ("identity_key_algorithm", .str "p256-sha256"), ("devices", .arr [toyDevice 1 "phone"]),
    ("prev_anchor_cid", .null), ("reason", .str "initial"),
    ("created_at", .str "2026-01-01T00:00:00Z")])

theorem toyLegacyGenesis_chain :
    (submit .toy 0 toyLegacyGenesis {} Relay.empty).1.toOption.map (fun row =>
      (row.reason, chainError (getChain .toy row.did
        (submit .toy 0 toyLegacyGenesis {} Relay.empty).2)))
      = some (.initial, some .invalidChain) ∧
    (submit .toy 0 toyLegacyGenesis {} Relay.empty).2.identityAnchors.rows.length = 1 := by
  decide +kernel

/-- A genesis of version 2 under a P-256 key is accepted, and its chain is never served. -/
theorem genesis_not_served : ∃ row, (submit .toy 0 toyLegacyGenesis {} Relay.empty).1 = .ok row ∧
    row.reason = .initial ∧ ¬ ServedAsAccepted .toy toyLegacyGenesis row
      (submit .toy 0 toyLegacyGenesis {} Relay.empty).2 := by
  obtain ⟨hchain, hone⟩ := toyLegacyGenesis_chain
  obtain ⟨row, hrow, heq⟩ := Option.map_eq_some_iff.1 hchain
  obtain ⟨hinitial, herror⟩ := Prod.mk.inj heq
  have hok := ok_of_toOption hrow
  refine ⟨row, hok, hinitial, fun h => ?_⟩
  have hmem := (AnchorTable.activeAnchor_eq_some.1 (submit_genesis hok hinitial).2.2.1).1
  obtain ⟨y, hy⟩ := List.length_eq_one_iff.1 hone
  obtain ⟨objects, hobjects⟩ := h.chain fun x hx _ => by
    rw [hy, List.mem_singleton] at hmem hx
    exact hx.trans hmem.symm
  rw [hobjects] at herror
  cases herror

end AnchorStore

end Ansible
