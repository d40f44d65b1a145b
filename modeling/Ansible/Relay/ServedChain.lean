import Ansible.Relay.AnchorAuthority
import Ansible.Relay.AnchorLinear

/-!
# Served chains of version 4

The objects that `get_chain` serves, as a verifier reads them: what each object says, how
neighbours are linked, and which authority signed each successor.  An anchor may leave out its
custody class and its key algorithm, for which the relay has defaults; the signed body then
holds `null`.

## Main definitions

* `Explicit`, `ExplicitStep` — an accepted anchor of the DID names both members.

## Main results

* `servedChain_of_getChain` — **in every run of explicit anchors, what is served of version 4
  is such a chain.**
-/

namespace Ansible

theorem Json.get?_of_fetch {j v : Json} {key : String} (h : j.fetch key = v) (hv : v ≠ .null) :
    j.get? key = some v := by
  unfold Json.fetch at h
  cases hg : j.get? key with
  | none =>
    rw [hg] at h
    exact absurd h.symm hv
  | some w =>
    rw [hg] at h
    rw [show w = v from h]

namespace AnchorStore

/-! ### Explicit anchors -/

/-- The anchor names its custody class and its key algorithm. -/
structure Explicit (anchor : Json) : Prop where
  custody : anchor.fetch "custody_class" ≠ .null
  algorithm : (anchor.fetch "identity_key_algorithm").str?.isSome = true

/-- A submission that is accepted as an anchor of version 4 of the DID names both members. -/
def ExplicitStep (E : Env) (did : String) (s : Relay) : AnchorAction → Prop
  | .submit now anchor opts => (∃ row, (submit E now anchor opts s).1 = .ok row) →
      anchor.fetch "did" = .str did → 4 ≤ schemaVersion anchor → Explicit anchor
  | _ => True

/-! ### What an object says -/

/-- What an object of version 4 says of the row it is served for. -/
structure Serves (P : Platform) (o : Json) (row : IdentityAnchor) : Prop where
  type : o.fetch "type" = .str anchorType
  version : o.get? "schema_version" = some (.int 4)
  did : o.fetch "did" = .str row.did
  handle : o.fetch "handle" = .str row.handle
  identityKey : o.fetch "identity_key" = .str row.identityKey
  algorithm : o.fetch "identity_key_algorithm" = .str row.identityKeyAlgorithm
  commitment : o.fetch "genesis_commitment" = commitmentOf row
  valid : DidElix.validateV1Commitment (row.genesisCommitment.getD .null) = true
  derived : DidElix.matchesV1 P row.did (commitmentOf row) = true
  aliases : ∃ l : List Json, o.fetch "also_known_as" = .arr l ∧ ∀ j ∈ l, j.str?.isSome = true
  custody : o.fetch "custody_class" = .str row.custodyClass
  custody_mem : row.custodyClass ∈ custodyClasses
  devices : o.fetch "devices" = .arr (row.devices.map canonicalDevice)
  devices_valid : ∀ d ∈ row.devices, validDevice 4 d = true
  prev : o.fetch "prev_anchor_cid" = textOrNull row.prevAnchorCid
  reason : o.fetch "reason" = .str (Reason.toText row.reason)
  createdAt : validAnchorTimestamp (o.fetch "created_at") 4 = true
  cid : o.fetch "anchor_cid" = .str row.anchorCid
  sig : o.fetch "sig" = .str row.sig
  deviceSig : o.fetch "device_sig" = textOrNull row.deviceSig
  recoveryProof : o.fetch "recovery_proof" = textOrNull row.authorizationSig
  body : canonicalBody o = row.canonicalBody
  hash : row.anchorCid = cidOfBody P row.canonicalBody
  attested : verifyDeviceAttestations P o = true
  signed : verify P (.str row.identityKeyAlgorithm) (.str row.identityKey) row.canonicalBody
    (.str row.sig) = true

variable {P : Platform} {row : IdentityAnchor} {anchor : Json}

/-- A served commitment has its four members and no others. -/
theorem Serves.commitment_form {o : Json} (h : Serves P o row) :
    ∃ key nonce, commitmentOf row = .obj [("method", .str "did:elix"),
      ("method_version", .int 1), ("genesis_key", .str key), ("genesis_nonce", .str nonce)] ∧
      DidElix.isGenesisKey key = true ∧ DidElix.isHex64 nonce = true := by
  obtain ⟨key, nonce, hkey, hk, hnonce, hn⟩ := DidElix.fetch_of_validate h.valid
  refine ⟨key, nonce, ?_, hk, hn⟩
  rw [commitmentOf, DidElix.canonicalCommitment, hkey, hnonce]
  rfl

theorem reasonOf_eq_some {j : Json} {r : Reason} (h : reasonOf j = some r) :
    j = .str (Reason.toText r) := by
  have := List.find?_some h
  rw [beq_iff_eq, Json.str?_eq_some] at this
  exact this

theorem Explicit.custody_eq (h : Explicit anchor) (hrow : IsRowOf anchor row)
    (hshape : strOrNull (anchor.fetch "custody_class") = true) :
    anchor.fetch "custody_class" = .str row.custodyClass := by
  have hc := hrow.custody
  rw [custodyClass] at hc
  cases hj : anchor.fetch "custody_class" with
  | null => exact absurd hj h.custody
  | str s =>
    rw [hj] at hc
    exact hc
  | _ => simp [hj, strOrNull] at hshape

theorem Explicit.algorithm_eq (h : Explicit anchor) (hrow : IsRowOf anchor row) :
    anchor.fetch "identity_key_algorithm" = .str row.identityKeyAlgorithm := by
  have ha := hrow.algorithm
  obtain ⟨s, hs⟩ := Option.isSome_iff_exists.1 h.algorithm
  rw [Json.str?_eq_some] at hs
  rw [identityKeyAlgorithm, hs] at ha
  rw [hs]
  exact ha

theorem custody_mem_of_wellShaped {s : String} (h : wellShaped anchor = true)
    (hs : anchor.fetch "custody_class" = .str s) : s ∈ custodyClasses := by
  simp only [wellShaped, Bool.and_eq_true, hs] at h
  obtain ⟨⟨⟨⟨-, hcustody⟩, -⟩, -⟩, -⟩ := h
  simpa using hcustody

/-- The object served for an accepted anchor of version 4 that is explicit. -/
theorem Accepted.serves {E : Env} {opts : SubmitOpts} {s : Relay} {x : IdentityAnchor}
    (h : Accepted E anchor opts s row) (h4 : schemaVersion anchor = 4) (he : Explicit anchor)
    (hprev : anchor.fetch "prev_anchor_cid" = textOrNull row.prevAnchorCid)
    (hx : row.content = x.content) :
    Serves E.toPlatform ((bodyObject anchor).merge (servedMembers x)) x := by
  have hg : Genuine E.toPlatform anchor x :=
    genuine_content.1 (hx ▸ genuine_content.2 h.genuine)
  have hshape := shape_of_wellShaped h.shaped
  have hserved : AlgorithmServed anchor := .inl (by omega)
  have hcustody := he.custody_eq hg.toIsRowOf hshape.custody
  have hprevx : row.prevAnchorCid = x.prevAnchorCid := (congrArg IdentityAnchor.prevAnchorCid hx :)
  have hcommit : x.genesisCommitment = row.genesisCommitment :=
    (congrArg IdentityAnchor.genesisCommitment hx :).symm
  have hgc := h.commitment_eq (by omega)
  have hobj := DidElix.isObj_of_validate (hg.valid (by omega))
  -- each member is that of the signed body, or one that is served beside it
  exact {
    type := by rw [fetch_object anchor x (by decide), bodyObject]; split_ifs <;> rfl
    version := Json.get?_of_fetch (by
      rw [fetch_object anchor x (by decide), fetch_body_schema, h4]) (by simp)
    did := by rw [fetch_object anchor x (by decide), fetch_body_copied anchor (by decide), hg.did]
    handle := by
      rw [fetch_object anchor x (by decide), fetch_body_copied anchor (by decide), hg.handle]
    identityKey := by
      rw [fetch_object anchor x (by decide), fetch_body_copied anchor (by decide), hg.identityKey]
    algorithm := by
      rw [fetch_object anchor x (by decide), fetch_body_algorithm anchor (by omega),
        he.algorithm_eq hg.toIsRowOf]
    commitment := by
      rw [fetch_object anchor x (by decide), fetch_body_commitment anchor (by omega),
        commitmentValue, if_pos hobj, commitmentOf, hcommit, hgc]
    valid := by
      rw [hcommit, hgc]
      exact hg.valid (by omega)
    derived := by
      rw [commitmentOf, hcommit, hgc]
      exact matchesV1_canonicalCommitment (hg.matchesDid (by omega))
    aliases := ⟨alsoKnownAs anchor, by
      rw [fetch_object anchor x (by decide), fetch_body_aliases], hshape.aliases⟩
    custody := by
      rw [fetch_object anchor x (by decide), fetch_body_copied anchor (by decide), hcustody]
    custody_mem := custody_mem_of_wellShaped h.shaped hcustody
    devices := by
      rw [fetch_object anchor x (by decide), fetch_body_devices, hg.devices]
    devices_valid := by
      intro d hd
      rw [hg.devices] at hd
      rw [← h4]
      exact hshape.devices d hd
    prev := by
      rw [fetch_object anchor x (by decide), fetch_body_copied anchor (by decide), hprev, hprevx]
    reason := by
      rw [fetch_object anchor x (by decide), fetch_body_copied anchor (by decide),
        reasonOf_eq_some hg.reason]
    createdAt := by
      rw [fetch_object anchor x (by decide), fetch_body_copied anchor (by decide), ← h4]
      exact hshape.createdAt
    cid := fetch_object_cid anchor x
    sig := fetch_object_sig anchor x
    deviceSig := fetch_object_deviceSig anchor x
    recoveryProof := fetch_object_recoveryProof anchor x
    body := by rw [canonicalBody, bodyObject_object, ← canonicalBody, hg.body]
    hash := hg.cid
    attested := hg.attested_object hserved
    signed := by
      have hs := hg.selfSigned
      rwa [AnchorStore.selfSigned, hg.algorithm, hg.identityKey, hg.sig] at hs }

/-! ### Successors -/

/-- The signature that authorises a row. -/
def authorization (c : IdentityAnchor) : Json :=
  textOrNull (if c.reason = .recovery then c.authorizationSig else c.deviceSig)

/-- A row of version 4 and its successor in a chain.  Only the identity key authorises a
rotation. -/
structure Succeeds (P : Platform) (p c : IdentityAnchor) : Prop where
  did : c.did = p.did
  link : c.prevAnchorCid = some p.anchorCid
  reason : servedReasonMatchesTransition p c = true
  version : c.schemaVersion = 4
  commitment : commitmentOf c = commitmentOf p
  authorized : activeAuthoritySigned P p c.canonicalBody (authorization c) = true
  rotation : c.reason = .rotation → verify P (.str p.identityKeyAlgorithm) (.str p.identityKey)
    c.canonicalBody (authorization c) = true

theorem verifyServedSuccessors_isChain {b : IdentityAnchor} {l : List IdentityAnchor}
    (h : verifyServedSuccessors P b l = true) :
    (b :: l).IsChain fun p c => verifyServedSuccessor P p c = true := by
  induction l generalizing b with
  | nil => exact List.isChain_singleton _
  | cons c l ih =>
    rw [verifyServedSuccessors, Bool.and_eq_true] at h
    exact List.isChain_cons_cons.2 ⟨h.1, ih h.2⟩

/-- The rows of a walk are the first one and rows that were looked up, and it ends at a
genesis. -/
theorem walkChain_eq_ok {byCid : String → Option IdentityAnchor} {fuel : ℕ} {seen : List String}
    {acc ordered : List IdentityAnchor}
    (h : walkChain P byCid fuel (some row) seen acc = .ok ordered) :
    (∀ x ∈ ordered, x ∈ acc ∨ x = row ∨ ∃ cid, byCid cid = some x) ∧
      ∃ g rest, ordered = g :: rest ∧ g.prevAnchorCid = none ∧ g.reason = .initial := by
  induction fuel generalizing row seen acc with
  | zero => cases h
  | succ fuel ih =>
    unfold walkChain at h
    split at h
    · cases h
    split at h
    · cases h
    split at h
    · cases h
    split at h
    · cases h
    split at h
    · next hprev =>
      split at h
      · next hreason =>
        cases h
        refine ⟨fun x hx => ?_, row, acc, rfl, hprev, hreason⟩
        rcases List.mem_cons.1 hx with rfl | hx
        · exact .inr (.inl rfl)
        · exact .inl hx
      · cases h
    · next prev hprev =>
      -- the walk goes on to the anchor before
      cases hby : byCid prev with
      | none =>
        rw [hby] at h
        cases fuel <;> cases h
      | some next =>
        rw [hby] at h
        obtain ⟨hmem, hend⟩ := ih h
        refine ⟨fun x hx => ?_, hend⟩
        rcases hmem x hx with hacc | rfl | hcid
        · rcases List.mem_cons.1 hacc with rfl | hacc
          · exact .inr (.inl rfl)
          · exact .inl hacc
        · exact .inr (.inr ⟨prev, hby⟩)
        · exact .inr (.inr hcid)

theorem forall₂_imp_of_mem {α β : Type} {R S : α → β → Prop} {l : List α} {m : List β}
    (h : List.Forall₂ R l m) (himp : ∀ a, ∀ b ∈ m, R a b → S a b) : List.Forall₂ S l m := by
  induction h with
  | nil => exact .nil
  | cons hab _ ih =>
    exact .cons (himp _ _ List.mem_cons_self hab)
      (ih fun a b hb => himp a b (List.mem_cons_of_mem _ hb))

theorem mapM_toObject {rows : List IdentityAnchor} {objects : List Json}
    (h : rows.mapM toObject = some objects) :
    List.Forall₂ (fun o x => toObject x = some o) objects rows := by
  induction rows generalizing objects with
  | nil =>
    cases h
    exact .nil
  | cons x rows ih =>
    rw [List.mapM_cons] at h
    obtain ⟨o, ho, h⟩ := Option.bind_eq_some_iff.1 h
    obtain ⟨os, hos, h⟩ := Option.bind_eq_some_iff.1 h
    cases h
    exact .cons ho (ih hos)

/-- What a served chain passed. -/
theorem getChain_eq_ok {did : String} {s : Relay} {objects : List Json}
    (h : getChain P did s = .ok objects) :
    ∃ g rest, (∀ x ∈ g :: rest, x ∈ servedRows did s) ∧ g.prevAnchorCid = none ∧
      g.reason = .initial ∧ verifyServedChain P (g :: rest) = true ∧
      List.Forall₂ (fun o x => toObject x = some o) objects (g :: rest) := by
  unfold getChain at h
  split at h
  · cases h
  split at h
  · cases h
  next active hactive =>
  dsimp only at h
  split at h
  · cases h
  next ordered hwalk =>
  split at h
  · next hverified =>
    split at h
    · next os hos =>
      cases h
      obtain ⟨hmem, g, rest, rfl, hprev, hreason⟩ := walkChain_eq_ok hwalk
      refine ⟨g, rest, fun x hx => ?_, hprev, hreason, hverified.2, mapM_toObject hos⟩
      obtain ⟨hrow, hdid, hstate⟩ := AnchorTable.activeAnchor_eq_some.1 hactive
      rcases hmem x hx with hnil | rfl | ⟨cid, hcid⟩
      · cases hnil
      · exact mem_servedRows.2 ⟨hrow, hdid, isServed_of_active hstate⟩
      · exact List.mem_of_find?_eq_some hcid
    · cases h
  · cases h

/-! ### The chains of a run -/

/-- A served chain of version 4: the objects of rows of the DID, the first of which is the
genesis whose key the commitment names, and each other row succeeds the one before it. -/
structure ServedChain (P : Platform) (did : String) (objects : List Json)
    (rows : List IdentityAnchor) : Prop where
  serves : List.Forall₂ (Serves P) objects rows
  did : ∀ x ∈ rows, x.did = did
  linked : rows.IsChain (Succeeds P)
  genesis : ∃ g rest, rows = g :: rest ∧ g.prevAnchorCid = none ∧ g.reason = .initial ∧
    (commitmentOf g).fetch "genesis_key" = .str g.identityKey

/-- The DID has an anchor of version 4. -/
def HasV4 (did : String) (s : Relay) : Prop :=
  ∃ x ∈ s.identityAnchors.rows, x.did = did ∧ 4 ≤ x.schemaVersion

theorem ledger_exec {E : Env} {s₀ : Relay} (h₀ : s₀.identityAnchors.rows = [])
    (acts : List AnchorAction) :
    Ledger E.toPlatform (exec (anchorStep E) s₀ acts).identityAnchors.rows :=
  exec_invariant (I := fun s => Ledger E.toPlatform s.identityAnchors.rows)
    (fun s act h => h.step s act) (ledger_of_empty h₀) acts

theorem commitmentOf_genesis_key {x : IdentityAnchor} {key : String}
    (h : (x.genesisCommitment.getD .null).fetch "genesis_key" = .str key) :
    (commitmentOf x).fetch "genesis_key" = .str key := by
  simp [commitmentOf, DidElix.canonicalCommitment, Json.fetch, List.lookup] at h ⊢
  rw [h]
  rfl

section Run

variable {E : Env} {s₀ : Relay} (h₀ : s₀.identityAnchors.rows = []) {acts : List AnchorAction}
include h₀

variable {x : IdentityAnchor} {did : String}

theorem cid_not_blank_exec (hx : x ∈ (exec (anchorStep E) s₀ acts).identityAnchors.rows) :
    isBlank x.anchorCid = false := by
  obtain ⟨_, _, _, _, _, row, -, hsub, hrow⟩ := exists_submission h₀ hx
  rw [← content_anchorCid hrow]
  exact hsub.accepted.genuine.cid_not_blank

theorem Submitted.prev_eq {now : Time} {opts : SubmitOpts}
    (h : Submitted E (exec (anchorStep E) s₀ acts) now anchor opts row) :
    anchor.fetch "prev_anchor_cid" = textOrNull row.prevAnchorCid := by
  have hlinked : ∀ {prev : IdentityAnchor},
      (exec (anchorStep E) s₀ acts).activeAnchor row.did = some prev →
      anchor.fetch "prev_anchor_cid" = .str prev.anchorCid →
      anchor.fetch "prev_anchor_cid" = textOrNull row.prevAnchorCid := by
    intro prev hactive hlink
    have hblank := cid_not_blank_exec h₀ (AnchorTable.activeAnchor_eq_some.1 hactive).1
    rw [hlink, h.accepted.link hlink hblank]
    rfl
  have hent := h.entered
  generalize (submit E now anchor opts (exec (anchorStep E) s₀ acts)).2.identityAnchors.rows
    = rows at hent
  cases hent with
  | initial hreason hprev hself =>
    rw [(h.accepted.genesis hprev hreason hself).prev]
    exact hprev
  | rotation _ hactive hlink => exact hlinked hactive hlink
  | deviceChange _ hactive hlink => exact hlinked hactive hlink
  | recovery _ hactive hlink => exact hlinked hactive hlink

/-- The submission behind a row of the DID of version 4 is explicit. -/
theorem exists_explicit (h : Along (anchorStep E) (ExplicitStep E did) s₀ acts)
    (hx : x ∈ (exec (anchorStep E) s₀ acts).identityAnchors.rows) (hdid : x.did = did)
    (h4 : 4 ≤ x.schemaVersion) :
    ∃ pre now anchor opts post row, acts = pre ++ .submit now anchor opts :: post ∧
      Submitted E (exec (anchorStep E) s₀ pre) now anchor opts row ∧ row.content = x.content ∧
      schemaVersion anchor = 4 ∧ Explicit anchor := by
  obtain ⟨pre, now, anchor, opts, post, row, rfl, hsub, hrow⟩ := exists_submission h₀ hx
  have hversion : row.schemaVersion = x.schemaVersion :=
    (congrArg IdentityAnchor.schemaVersion hrow :)
  have hv : schemaVersion anchor = 4 := by
    have hupper := (validateProtocol_eq_ok hsub.accepted.protocol).upper
    have := hsub.accepted.version
    omega
  obtain ⟨-, hstep, -⟩ := along_append.1 h
  have he := hstep ⟨row, hsub.ok⟩ (by rw [hsub.accepted.did, content_did hrow, hdid]) (by omega)
  exact ⟨pre, now, anchor, opts, post, row, rfl, hsub, hrow, hv, he⟩

theorem serves_of_run (h : Along (anchorStep E) (ExplicitStep E did) s₀ acts)
    (hx : x ∈ (exec (anchorStep E) s₀ acts).identityAnchors.rows) (hdid : x.did = did)
    (h4 : 4 ≤ x.schemaVersion) {o : Json} (ho : toObject x = some o) : Serves E.toPlatform o x := by
  obtain ⟨pre, now, anchor, opts, post, row, rfl, hsub, hrow, hv, he⟩ :=
    exists_explicit h₀ h hx hdid h4
  have hg := genuine_content.1 (hrow ▸ genuine_content.2 hsub.accepted.genuine)
  rw [hg.toObject_eq] at ho
  cases ho
  exact hsub.accepted.serves hv he (hsub.prev_eq h₀) hrow

/-- A rotation carries a signature by the identity key that it replaces. -/
theorem rotation_of_run {p : IdentityAnchor}
    (hx : x ∈ (exec (anchorStep E) s₀ acts).identityAnchors.rows)
    (hp : p ∈ (exec (anchorStep E) s₀ acts).identityAnchors.rows) (hdid : x.did = p.did)
    (hlink : x.prevAnchorCid = some p.anchorCid) (hreason : x.reason = .rotation) :
    verify E.toPlatform (.str p.identityKeyAlgorithm) (.str p.identityKey) x.canonicalBody
      (authorization x) = true := by
  obtain ⟨pre, now, anchor, opts, post, row, rfl, hsub, hrow⟩ := exists_submission h₀ hx
  have hreason' : row.reason = .rotation := by
    rw [← hreason]
    exact (congrArg IdentityAnchor.reason hrow :)
  have hent := hsub.entered
  generalize (submit E now anchor opts (exec (anchorStep E) s₀ pre)).2.identityAnchors.rows
    = rows at hent
  cases hent with
  | initial hr => rw [hr] at hreason'; cases hreason'
  | deviceChange hr => rw [hr] at hreason'; cases hreason'
  | recovery hr => rw [hr] at hreason'; cases hreason'
  | @rotation q _ hactive hq _ hsig =>
    obtain ⟨hqrow, hqdid, -⟩ := AnchorTable.activeAnchor_eq_some.1 hactive
    -- the row that was active then is the predecessor of the chain
    have hqp : q.content = p.content := by
      rw [exec_append] at hp
      obtain ⟨y, hy, hyq⟩ := exec_keeps (.submit now anchor opts :: post) hqrow
      have hcid : q.anchorCid = p.anchorCid := by
        have hlinked := hsub.accepted.link hq (cid_not_blank_exec h₀ hqrow)
        rw [content_prev hrow, hlink] at hlinked
        exact (Option.some.inj hlinked).symm
      have hyp : y = p := AnchorTable.eq_of_key hy hp
        ((content_did hyq).trans (hqdid.trans ((content_did hrow).trans hdid)))
        ((content_anchorCid hyq).trans hcid)
      rw [← hyq, hyp]
    obtain ⟨t, ht, hblank⟩ := not_blank_of_verify hsig
    have hstored : row.deviceSig = some t := by
      have hc := hsub.accepted.deviceSig
      rw [ht, castText_of_not_blank hblank] at hc
      exact (Except.ok.inj hc).symm
    have hauth : authorization x = anchor.fetch "device_sig" := by
      have hdevice : row.deviceSig = x.deviceSig := (congrArg IdentityAnchor.deviceSig hrow :)
      rw [authorization, if_neg (by rw [hreason]; decide), ← hdevice, hstored, ht]
      rfl
    have halg : q.identityKeyAlgorithm = p.identityKeyAlgorithm :=
      (congrArg IdentityAnchor.identityKeyAlgorithm hqp :)
    have hkey : q.identityKey = p.identityKey := (congrArg IdentityAnchor.identityKey hqp :)
    have hbody : row.canonicalBody = x.canonicalBody :=
      (congrArg IdentityAnchor.canonicalBody hrow :)
    rw [hauth, ← halg, ← hkey, ← hbody]
    exact hsig

/-- A verified successor of version 4 succeeds its predecessor. -/
theorem succeeds_of_run {p : IdentityAnchor}
    (hx : x ∈ (exec (anchorStep E) s₀ acts).identityAnchors.rows)
    (hp : p ∈ (exec (anchorStep E) s₀ acts).identityAnchors.rows) (h4 : 4 ≤ p.schemaVersion)
    (h : verifyServedSuccessor E.toPlatform p x = true) : Succeeds E.toPlatform p x := by
  simp only [verifyServedSuccessor, Bool.and_eq_true, beq_iff_eq] at h
  obtain ⟨⟨⟨⟨⟨hdid, hlink⟩, hreason⟩, hcontinues⟩, -⟩, hauth⟩ := h
  have hversion : x.schemaVersion = 4 := by
    rw [v1CommitmentContinues, if_pos h4] at hcontinues
    simp only [Bool.and_eq_true, beq_iff_eq] at hcontinues
    exact hcontinues.1.1
  have hagree := (ledger_exec (E := E) h₀ acts).agree p hp x hx hdid.symm
  refine ⟨hdid, hlink, hreason, hversion, (hagree.commitment h4).symm, ?_,
    fun hr => rotation_of_run h₀ hx hp hdid hlink hr⟩
  unfold servedTransitionAuthorized at hauth
  dsimp only at hauth
  rw [if_neg (fun hc => by omega)] at hauth
  exact hauth

/-- The genesis of a DID of version 4 holds the key that its commitment names. -/
theorem genesis_of_run (hx : x ∈ (exec (anchorStep E) s₀ acts).identityAnchors.rows)
    (h4 : 4 ≤ x.schemaVersion) (hreason : x.reason = .initial) :
    (commitmentOf x).fetch "genesis_key" = .str x.identityKey := by
  obtain ⟨pre, now, anchor, opts, post, row, rfl, hsub, hrow⟩ := exists_submission h₀ hx
  have hversion : row.schemaVersion = x.schemaVersion :=
    (congrArg IdentityAnchor.schemaVersion hrow :)
  have hreason' : row.reason = .initial := by
    rw [← hreason]
    exact (congrArg IdentityAnchor.reason hrow :)
  have hv := hsub.accepted.version
  have htransition := (validateProtocol_eq_ok hsub.accepted.protocol).transition (by omega)
  rw [hreason'] at htransition
  have hkey : ((anchor.fetch "genesis_commitment").fetch "genesis_key").eqv
      (anchor.fetch "identity_key") = true := htransition
  rw [hsub.accepted.identityKey, Json.eqv_str_right,
    ← hsub.accepted.commitment_eq (by omega)] at hkey
  have hcommitment : row.genesisCommitment = x.genesisCommitment :=
    (congrArg IdentityAnchor.genesisCommitment hrow :)
  have hident : row.identityKey = x.identityKey := (congrArg IdentityAnchor.identityKey hrow :)
  rw [hcommitment, hident] at hkey
  exact commitmentOf_genesis_key hkey

/-- **In every run of explicit anchors, what is served of version 4 is a served chain.** -/
theorem servedChain_of_getChain (h : Along (anchorStep E) (ExplicitStep E did) s₀ acts)
    (h4 : HasV4 did (exec (anchorStep E) s₀ acts)) {objects : List Json}
    (hok : getChain E.toPlatform did (exec (anchorStep E) s₀ acts) = .ok objects) :
    ∃ rows, ServedChain E.toPlatform did objects rows := by
  obtain ⟨g, rest, hmem, hprev, hinitial, hverified, hobjects⟩ := getChain_eq_ok hok
  have hrow : ∀ x ∈ g :: rest, x ∈ (exec (anchorStep E) s₀ acts).identityAnchors.rows ∧
      x.did = did ∧ 4 ≤ x.schemaVersion := by
    intro x hx
    obtain ⟨hxr, hxd, -⟩ := mem_servedRows.1 (hmem x hx)
    obtain ⟨y, hy, hyd, hy4⟩ := h4
    have hagree := (ledger_exec (E := E) h₀ acts).agree y hy x hxr (hyd.trans hxd.symm)
    exact ⟨hxr, hxd, hagree.version.1 hy4⟩
  refine ⟨g :: rest, ?_, fun x hx => (hrow x hx).2.1, ?_, g, rest, rfl, hprev, hinitial, ?_⟩
  · refine forall₂_imp_of_mem hobjects fun o x hx ho => ?_
    obtain ⟨hxr, hxd, hx4⟩ := hrow x hx
    exact serves_of_run h₀ h hxr hxd hx4 ho
  · simp only [verifyServedChain, Bool.and_eq_true] at hverified
    refine (verifyServedSuccessors_isChain hverified.2).imp_of_mem_imp fun p x hp hx hs => ?_
    exact succeeds_of_run h₀ (hrow x hx).1 (hrow p hp).1 (hrow p hp).2.2 hs
  · obtain ⟨hg, -, hg4⟩ := hrow g List.mem_cons_self
    exact genesis_of_run h₀ hg hg4 hinitial

end Run

end AnchorStore

end Ansible
